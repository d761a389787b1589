import Armada.Effects.Rows
import Armada.Effects.Services
import Armada.Properties.DeliveryLifecycle

/-!
# Routes of ended deliveries

`selectRoute` and `reorderStops` check that the delivery is operational when they
are called, and then lock its row for a transaction that does not look at the
status again. An ended delivery keeps its routes, the order of its stops and its
mode exactly as long as no end comes between such a check and its transaction.
-/

namespace Armada

open Relational Concurrency

/-- The delivery whose route a request changes. -/
def Request.routed : Request → Option Uuid
  | .selectRoute deliveryId _ _ => some deliveryId
  | .reorderStops deliveryId _ _ => some deliveryId
  | _ => none

/-- The delivery is in a terminal status. -/
def Db.Ended (db : Db) (id : Uuid) : Prop :=
  ∃ row, db.delivery? id = some row ∧ row.status.Terminal

/-- The delivery was in a terminal status before one of the commits. -/
def Ended (trace : List (Commit store)) (id : Uuid) : Prop :=
  ∃ commit ∈ trace, Db.Ended commit.before id

/-- So it is in a state that agrees. -/
theorem Db.Ended.congr {left right : Db} {id : Uuid} (agree : left.Agree right)
    (ended : left.Ended id) : right.Ended id := by
  simpa only [Db.Ended, agree.delivery?] using ended

/-- A delivery that has ended, and stays so, has ended now. -/
theorem Ended.now {first : List (Commit store)} {commit : Commit store} {id : Uuid}
    (ended : Ended (first ++ [commit]) id) (still : Ended first id → Db.Ended commit.before id) :
    Db.Ended commit.before id := by
  obtain ⟨earlier, member, endedThen⟩ := ended
  rcases List.mem_append.mp member with before | last
  · exact still ⟨earlier, before, endedThen⟩
  · rw [List.mem_singleton.mp last] at endedThen
    exact endedThen

/-- The routes of a delivery, the order of its stops and its mode are the same. -/
structure RouteKept (before after : Db) (id : Uuid) : Prop where
  routes : after.routesOf id = before.routesOf id
  sequences : ∀ stopId stop stop', before.stop? stopId = some stop → stop.deliveryId = id →
    after.stop? stopId = some stop' → stop'.sequence = stop.sequence
  mode : ∀ row row', before.delivery? id = some row → after.delivery? id = some row' →
    row'.routeMode = row.routeMode

/-- The commit records a route of the delivery for a request that changes it. -/
def Records (requests : List Request) (id : Uuid) (commit : Commit store) : Prop :=
  (∃ request, requests[commit.thread]? = some request ∧ request.routed = some id) ∧
    ∃ route, Write.createRoute route ∈ commit.writes

/-- The commit ends the delivery. -/
def Ends (id : Uuid) (commit : Commit store) : Prop :=
  ¬Db.Ended commit.before id ∧ Db.Ended commit.after id

/-- Between the operational check of a request and the transaction in which it records a route,
no end of the delivery is committed. -/
def EndsApart (requests : List Request) (id : Uuid) (trace : List (Commit store)) : Prop :=
  Unbroken (Records requests id) (Ends id) trace

namespace RouteKept

/-- The routes are kept in a state that agrees. -/
theorem congr {before left right : Db} {id : Uuid} (agree : left.Agree right)
    (kept : RouteKept before left id) : RouteKept before right id where
  routes := by
    rw [← kept.routes, Db.routesOf, Db.routesOf, agree.routes]
  sequences stopId stop stop' found own after :=
    kept.sequences stopId stop stop' found own ((agree.stop? stopId).trans after)
  mode row row' found after := kept.mode row row' found ((agree.delivery? id).trans after)

/-- Nothing that matters has been written. -/
theorem of_same {before after : Db} {id : Uuid} (routes : after.routes = before.routes)
    (stops : ∀ stopId stop, before.stop? stopId = some stop → after.stop? stopId = some stop)
    (delivery : after.delivery? id = before.delivery? id) : RouteKept before after id where
  routes := by rw [Db.routesOf, routes, Db.routesOf]
  sequences stopId stop stop' found _ foundAfter := by
    cases (stops stopId stop found).symm.trans foundAfter
    rfl
  mode row row' found foundAfter := by
    cases (delivery.trans found).symm.trans foundAfter
    rfl

/-- An update of a delivery that sets no mode. -/
theorem of_updateDelivery {before after : Db} {id key : Uuid} {data : DeliveryData}
    (unset : data.routeMode = none) (kept : RouteKept before after id) :
    RouteKept before ((Write.updateDelivery key data).apply after) id where
  routes := kept.routes
  sequences := kept.sequences
  mode row row' found foundAfter := by
    rw [Write.delivery?_apply, Write.onDelivery] at foundAfter
    split at foundAfter
    · obtain ⟨middle, foundMiddle, rfl⟩ := Option.map_eq_some_iff.mp foundAfter
      simpa [DeliveryData.set, unset] using kept.mode row middle found foundMiddle
    · exact kept.mode row row' found foundAfter

/-- An update of a stop that sets no sequence. -/
theorem of_updateStop {before after : Db} {id key : Uuid} {data : StopData}
    (unset : data.sequence = none) (kept : RouteKept before after id) :
    RouteKept before ((Write.updateStop key data).apply after) id where
  routes := kept.routes
  sequences stopId stop stop' found own foundAfter := by
    rw [Write.stop?_apply, Write.onStop] at foundAfter
    split at foundAfter
    · obtain ⟨middle, foundMiddle, rfl⟩ := Option.map_eq_some_iff.mp foundAfter
      simpa [StopData.set, unset] using kept.sequences stopId stop middle found own foundMiddle
    · exact kept.sequences stopId stop stop' found own foundAfter
  mode := kept.mode

/-- No change keeps the routes. -/
theorem refl (db : Db) (id : Uuid) : RouteKept db db id :=
  of_same rfl (fun _ _ found => found) rfl

/-- A route recorded for another delivery. -/
theorem of_recorded {before after : Db} {id deliveryId : Uuid} {route : Route}
    {rows : List RouteStop} {mode : RouteMode} (ofDelivery : route.deliveryId = deliveryId)
    (other : deliveryId ≠ id) (kept : RouteKept before after id) :
    RouteKept before (after.commit [.createRoute route, .createRouteStops rows,
      .updateDelivery deliveryId { routeMode := some mode }]) id where
  routes := by
    have inserted : ((Write.createRoute route).apply after).routesOf id = after.routesOf id := by
      simp only [Db.routesOf, Write.apply, Table.insert]
      split
      · simp [List.filter_append, ofDelivery, other]
      · rfl
    exact inserted.trans kept.routes
  sequences := kept.sequences
  mode row row' found foundAfter := by
    simp only [Db.commit_cons, Db.commit_nil, Write.delivery?_apply, Write.onDelivery,
      if_neg (Ne.symm other)] at foundAfter
    exact kept.mode row row' found foundAfter

/-- Stops of another delivery are moved. -/
theorem of_resequenced {db : Db} {id deliveryId : Uuid} {moves : List (Uuid × Int)}
    (own : ∀ item ∈ moves, ∃ stop, db.stop? item.1 = some stop ∧ stop.deliveryId = deliveryId)
    (other : deliveryId ≠ id) : RouteKept db (db.commit (moves.map .resequence)) id where
  routes := by
    have same : (db.commit (moves.map .resequence)).routes = db.routes := by
      refine Db.commit_idle Db.routes (fun write member db => ?_) db
      obtain ⟨item, _, rfl⟩ := List.mem_map.mp member
      rfl
    rw [Db.routesOf, same, Db.routesOf]
  sequences stopId stop stop' found ofDelivery foundAfter := by
    rcases Db.stop?_commit_resequence found foundAfter with rfl | ⟨sequence, rfl, member⟩
    · rfl
    · obtain ⟨item, inMoves, rfl⟩ := List.mem_map.mp member
      obtain ⟨owned, foundOwned, ofOther⟩ := own item inMoves
      cases found.symm.trans foundOwned
      exact absurd (ofOther.symm.trans ofDelivery) other
  mode row row' found foundAfter := by
    rw [Db.delivery?_commit_resequence, found] at foundAfter
    cases foundAfter
    rfl

end RouteKept

variable [UuidText]

/-- Only a request that records a route of a delivery changes its route. -/
theorem Effect.routeKept {request : Request} {core : List Write} {db : Db}
    (effect : Effect request core db) {id : Uuid} (present : ∃ row, db.delivery? id = some row)
    (other : ∀ route, Write.createRoute route ∈ core → request.routed ≠ some id) :
    RouteKept db (db.commit core) id := by
  cases effect with
  | @created dto user db delivery stops fresh draft pending =>
      obtain ⟨row, found⟩ := present
      refine .of_same ?_ (fun stopId stop foundStop => ?_) ?_
      · refine Db.commit_idle Db.routes (fun write member db => ?_) db
        rcases List.mem_cons.mp member with rfl | inStops
        · rfl
        · obtain ⟨stop, _, rfl⟩ := List.mem_map.mp inStops
          rfl
      · exact Db.stop?_commit_createStops stops foundStop
      · rw [Db.commit_cons, Db.delivery?_commit_createStops, Write.delivery?_apply, found]
        rfl
  | moved move able matched target order => exact .of_updateStop order (.refl db id)
  | @delivered request stopId db data row able matched target order absent ofStop =>
      have kept : RouteKept db ((Write.updateStop stopId data).apply db) id :=
        .of_updateStop order (.refl db id)
      exact ⟨kept.routes, kept.sequences, kept.mode⟩
  | @overridden conflictId dto user role db conflict stopId stop data delivered evidence completion
      status found named target stopFound evidenced outcome order completes =>
      have kept : RouteKept db ((Write.updateStop stopId delivered).apply db) id :=
        .of_updateStop order (.refl db id)
      cases completes with
      | unfinished remain => cases evidenced <;> exact ⟨kept.routes, kept.sequences, kept.mode⟩
      | @completed row now foundDelivery finished =>
          have completed : RouteKept db ((Write.updateDelivery conflict.deliveryId
              { status := some .completed, completedAt := some now }).apply
                ((Write.updateStop stopId delivered).apply db)) id :=
            kept.of_updateDelivery rfl
          cases evidenced <;> exact ⟨completed.routes, completed.sequences, completed.mode⟩
  | @selected deliveryId dto actor db route rows mode ofDelivery fresh =>
      have elsewhere : deliveryId ≠ id := fun here =>
        other route List.mem_cons_self (congrArg some here)
      exact .of_recorded ofDelivery elsewhere (.refl db id)
  | @reordered deliveryId dto actor db route rows mode moves ofDelivery fresh own =>
      have elsewhere : deliveryId ≠ id := fun here =>
        other route (by simp) (congrArg some here)
      rw [Db.commit_append]
      exact .of_recorded ofDelivery elsewhere (.of_resequenced own elsewhere)
  | none => exact .refl _ _
  | ticketed => exact .of_same rfl (fun _ _ found => found) rfl
  | resolved => exact .of_same rfl (fun _ _ found => found) rfl
  | _ => exact .of_updateDelivery rfl (.refl _ _)

/-- A request that records a route of a delivery changes its routes. -/
theorem Effect.not_routeKept {request : Request} {core : List Write} {db : Db}
    (effect : Effect request core db) {id : Uuid} {route : Route} (routed : request.routed = some id)
    (records : .createRoute route ∈ core) : ¬RouteKept db (db.commit core) id := by
  -- the new route is of the delivery, and its id is new
  have recorded : ∀ {before : Db} {route : Route} {rows : List RouteStop} {mode : RouteMode},
      before.routes = db.routes → db.routes.find? route.id = Option.none → route.deliveryId = id →
        ¬RouteKept db (before.commit [.createRoute route, .createRouteStops rows,
          .updateDelivery id { routeMode := some mode }]) id := by
    intro before route rows mode same fresh ofDelivery kept
    have member : route ∈ (before.commit [.createRoute route, .createRouteStops rows,
        .updateDelivery id { routeMode := some mode }]).routesOf id := by
      refine List.mem_filter.mpr ⟨?_, decide_eq_true ofDelivery⟩
      exact (Table.mem_insert (same ▸ fresh)).mpr (.inr rfl)
    rw [kept.routes] at member
    exact Table.find?_eq_none.mp fresh route (List.mem_filter.mp member).1 rfl
  cases effect with
  | selected ofDelivery fresh =>
      cases routed
      exact recorded rfl fresh ofDelivery
  | @reordered deliveryId dto actor db _ rows mode moves ofDelivery fresh own =>
      cases routed
      rw [Db.commit_append]
      refine recorded (Db.commit_idle Db.routes (fun write member db => ?_) db) fresh ofDelivery
      obtain ⟨item, _, rfl⟩ := List.mem_map.mp member
      rfl
  | created fresh draft pending => cases routed
  | overridden status found named target stopFound evidenced outcome order completes =>
      cases routed
  | _ => simp at records

/-- An ended delivery stays ended under the requests other than assignment,
acceptance and start. -/
theorem Effect.ended {request : Request} {core : List Write} {db : Db}
    (effect : Effect request core db) (conditional : request.unconditional = Option.none) {id : Uuid}
    (ended : db.Ended id) : (db.commit core).Ended id := by
  obtain ⟨row, found, terminal⟩ := ended
  obtain ⟨row', after⟩ := Db.delivery?_commit_of_some found core
  refine ⟨row', after, ?_⟩
  cases effect.deliveryStep found after with
  | unchanged => exact terminal
  | routed => exact terminal
  | assigned requested => simp [requested, Request.unconditional] at conditional
  | accepted requested => simp [requested, Request.unconditional] at conditional
  | started requested => simp [requested, Request.unconditional] at conditional
  | completed able enRoute verdict =>
      rcases verdict_target verdict with rfl | rfl
      · exact show DeliveryStatus.Terminal .completed by decide
      · exact show DeliveryStatus.Terminal .failed by decide
  | cancelled requested operational => exact show DeliveryStatus.Terminal .cancelled by decide
  | overridden requested status => exact show DeliveryStatus.Terminal .completed by decide

/-- `selectRoute` and `reorderStops` begin by reading the delivery, and go on only if it has
not ended. -/
theorem Request.routed_checks {request : Request} {id : Uuid} (routed : request.routed = some id) :
    request.proc.Checks fun db => ∃ row, db.delivery? id = some row ∧ ¬row.status.Terminal := by
  have mutates : ∀ (path : IdText) (actor : RouteActor) (key : Option IdempotencyKey)
      (stopIds : List Uuid) (sequences : Option (List Int)) (work : Txn store ResponseBody),
      (Response.reply <$> RoutesDomainService.mutateRoute path actor key stopIds sequences
        work).Checks fun db => ∃ row, db.delivery? path = some row ∧ ¬row.status.Terminal := by
    intro path actor key stopIds sequences work
    rw [RoutesDomainService.mutateRoute, RoutesDomainService.verifyDeliveryAccess,
      Proc.map_eq_bind]
    simp only [Proc.seq_assoc]
    refine Proc.checks_of_read fun input moment found writes executed => ?_
    obtain ⟨_, same, idle⟩ := Prisma.Delivery.findWithStops_succeeds.mp executed
    refine ⟨idle, fun unfinished => ?_⟩
    obtain ⟨⟨row, stops⟩, rfl, unfinished⟩ := Proc.unfinished_require unfinished
    obtain ⟨_, unfinished⟩ := Proc.unfinished_rejectIf unfinished
    obtain ⟨_, unfinished⟩ := Proc.unfinished_rejectIf unfinished
    obtain ⟨operational, _⟩ := Proc.unfinished_rejectIf unfinished
    obtain ⟨delivery, there, pair⟩ := Option.map_eq_some_iff.mp same
    cases pair
    exact ⟨row, there, operational⟩
  cases request with
  | selectRoute deliveryId dto actor =>
      cases routed
      exact mutates deliveryId actor _ _ _ _
  | reorderStops deliveryId dto actor =>
      cases routed
      exact mutates deliveryId actor _ _ _ _
  | _ => cases routed

section Runs

variable {db : Db} {requests : List Request} {trace : List (Commit store)}
  {final : Pool store Response}

/-- What has ended before a commit has ended in its state. -/
theorem ended_now (steps : (Request.pool db requests).Steps trace final)
    (conditional : ∀ request ∈ requests, request.unconditional = none)
    {first rest : List (Commit store)} {commit : Commit store}
    (split : trace = first ++ commit :: rest) {id : Uuid} (ended : Ended (first ++ [commit]) id) :
    Db.Ended commit.before id := by
  have initially : Ended [] id → Db.Ended (Request.pool db requests).state id := by
    rintro ⟨_, member, _⟩
    cases member
  obtain ⟨_, still⟩ := steps.along (fun trace db => Ended trace id → Db.Ended db id) initially
    fun first commit rest split earlier ended => by
      obtain ⟨request, made, effect⟩ := Request.effect_of_steps steps commit (by simp [split])
      have after := effect.ended (conditional request (List.mem_of_getElem? made))
        (ended.now earlier)
      exact .congr (Db.commit_essential commit.before commit.writes) after
  exact ended.now (still first commit rest split)

/-- In every run of requests other than assignment, acceptance and start, no commit changes the
route of a delivery that has ended if and only if no end of it is committed between the
operational check of a `selectRoute` or `reorderStops` and its transaction. -/
theorem routes_final_iff_ends_apart (steps : (Request.pool db requests).Steps trace final)
    (conditional : ∀ request ∈ requests, request.unconditional = none) :
    (∀ first commit rest, trace = first ++ commit :: rest →
      ∀ id, Ended (first ++ [commit]) id → RouteKept commit.before commit.after id) ↔
    ∀ id, EndsApart requests id trace := by
  have effects := Request.effect_of_steps steps
  constructor
  · rintro kept id early check between commit rest split same ⟨⟨request, made, routed⟩, route, records⟩
      other member ⟨_, ended⟩
    -- the delivery has ended when the transaction records its route
    have whole : trace = (early ++ check :: between) ++ commit :: rest := by simp [split]
    have endedBefore : Ended ((early ++ check :: between) ++ [commit]) id := by
      obtain ⟨prior, later, rfl⟩ := List.append_of_mem member
      have linked := steps.linked
      rw [show trace = (early ++ check :: prior) ++ other :: (later ++ commit :: rest) by
        simp [split]] at linked
      obtain ⟨_, _, rfl, onwards⟩ := linked.split
      cases later with
      | nil => exact ⟨commit, by simp, onwards.1 ▸ ended⟩
      | cons next later => exact ⟨next, by simp, onwards.1 ▸ ended⟩
    obtain ⟨maker, found, effect⟩ := effects commit (by simp [split])
    obtain rfl : maker = request := Option.some.inj (found.symm.trans made)
    have core : .createRoute route ∈ essential commit.writes := by
      simpa [essential, Write.ancillary] using records
    have agree := Db.commit_essential commit.before commit.writes
    exact effect.not_routeKept routed core
      (.congr agree.symm (kept _ commit rest whole id endedBefore))
  · intro apart first commit rest split id ended
    obtain ⟨request, made, effect⟩ := effects commit (by simp [split])
    have now := ended_now steps conditional split ended
    have present : ∃ row, commit.before.delivery? id = some row := now.imp fun _ found => found.1
    have kept := effect.routeKept present fun route records routed => by
      have written : .createRoute route ∈ commit.writes := (List.mem_filter.mp records).1
      have started : (Request.pool db requests).procs[commit.thread]? = some request.proc := by
        simp [Request.pool, made]
      obtain ⟨early, check, between, rfl, same, idle, row, found, operational⟩ :=
        steps.checked started (Request.routed_checks routed) split rfl (List.ne_nil_of_mem written)
      have atCheck : trace = early ++ check :: (between ++ commit :: rest) := by simp [split]
      have unended : ¬Db.Ended check.before id := by
        rintro ⟨row', foundToo, terminal⟩
        cases foundToo.symm.trans found
        exact operational terminal
      have harmless : ¬Ends id check := fun ends => ends.1 (by
        have same : check.after = check.before := by rw [Commit.after, idle, Signature.applyAll_nil]
        exact same ▸ ends.2)
      exact (apart id).holds steps (fun _ db => ¬Db.Ended db id)
        (fun _ other _ _ apart unended ended => apart ⟨unended, ended⟩) atCheck same
        ⟨⟨request, made, routed⟩, route, written⟩ harmless unended now
    exact .congr (Db.commit_essential commit.before commit.writes) kept

end Runs

/-! ## A cancellation between the check and the transaction -/

namespace LateSelection

omit [UuidText]

def admin : DeliveryActor := { userId := 9, role := .admin }

def selection : SelectRouteDto where
  source := .manual
  recommendedSequence := [7]
  totalDistanceMeters := 1000
  estimatedDurationSeconds := 60

def db : Db where
  deliveries := Table.empty.insert { id := 1, deliveryCode := "D-1", createdBy := 9 }
  deliveryStops := Table.empty.insert { id := 7, deliveryId := 1, sequence := 1 }

def requests : List Request :=
  [.selectRoute 1 selection { userId := 9, role := .admin }, .cancelDelivery 1 ⟨"late"⟩ admin]

def pool : Pool store Response := @Request.pool noUuids db requests

/-- The selection reads the delivery, the cancellation runs, and then the rest of
the selection. -/
def schedule : List (Nat × (Nat → store.Input)) :=
  [0, 1, 1, 0, 0].map fun thread => (thread, fun _ => {})

/-- The schedule is a run. -/
theorem steps : pool.Steps (pool.play schedule).1 (pool.play schedule).2 :=
  Pool.play_steps schedule pool

/-- No request of it is an unconditional writer. -/
theorem conditional : ∀ request ∈ requests, request.unconditional = none := by
  simp [requests, Request.unconditional]

/-- The equivalence at the run of the late selection. -/
theorem routes_final_iff_ends_apart_of_race :
    (∀ first commit rest, (pool.play schedule).1 = first ++ commit :: rest →
      ∀ id, Ended (first ++ [commit]) id → RouteKept commit.before commit.after id) ↔
    ∀ id, EndsApart requests id (pool.play schedule).1 :=
  @routes_final_iff_ends_apart noUuids db requests _ _ steps conditional

/-- The last step records a route of the cancelled delivery. -/
theorem records_for_ended :
    ∃ commit ∈ (pool.play schedule).1,
      (commit.before.delivery? 1).map Delivery.status = some .cancelled ∧
        commit.before.routesOf 1 = [] ∧ commit.after.routesOf 1 ≠ [] := by
  decide +kernel

/-- Not every run keeps the routes of ended deliveries. -/
theorem routes_final_violated :
    ¬∀ [UuidText] (db : Db) (requests : List Request) (trace : List (Commit store))
      (final : Pool store Response), (Request.pool db requests).Steps trace final →
        (∀ request ∈ requests, request.unconditional = none) →
          ∀ first commit rest, trace = first ++ commit :: rest →
            ∀ id, Ended (first ++ [commit]) id → RouteKept commit.before commit.after id := by
  intro always
  obtain ⟨commit, member, status, noRoute, someRoute⟩ := records_for_ended
  obtain ⟨first, rest, split⟩ := List.append_of_mem member
  obtain ⟨row, found, cancelled⟩ := Option.map_eq_some_iff.mp status
  have ended : Ended (first ++ [commit]) 1 :=
    ⟨commit, by simp, row, found, by rw [cancelled]; decide⟩
  have kept := @always noUuids db requests _ _ steps conditional first commit rest split 1 ended
  rw [kept.routes, noRoute] at someRoute
  exact someRoute rfl

end LateSelection

end Armada
