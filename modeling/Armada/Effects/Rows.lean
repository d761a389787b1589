import Armada.Effects

/-!
# What an effect does to a row

The changes that the effects of a request can make to one delivery, one stop and
one proof of delivery, each with the condition under which the code makes it.
-/

namespace Armada

open Relational Concurrency

/-! ## Deliveries -/

/-- How a commit of a request changes a delivery. -/
inductive DeliveryStep (request : Request) (db : Db) (id : Uuid) (row : Delivery) :
    Delivery → Prop where
  | unchanged : DeliveryStep request db id row row
  | assigned {spelling : Spelling} {dto : AssignDeliveryDto} {actor : DeliveryActor}
      (requested : request = .assignDelivery ⟨id, spelling⟩ dto actor) :
      DeliveryStep request db id row
        { row with driverId := some dto.driverId, vehicleId := some dto.vehicleId,
                   status := .assigned }
  | accepted {spelling : Spelling} {actorDriverId actorUserId : Uuid}
      (requested : request = .acceptDelivery ⟨id, spelling⟩ actorDriverId actorUserId) :
      DeliveryStep request db id row { row with status := .accepted }
  | started {spelling : Spelling} {actorDriverId actorUserId : Uuid} {now : Instant}
      (requested : request = .startDelivery ⟨id, spelling⟩ actorDriverId actorUserId) :
      DeliveryStep request db id row { row with status := .enRoute, startedAt := some now }
  | completed {target : DeliveryStatus} {now : Instant} (able : request.completes = true)
      (enRoute : row.status = .enRoute)
      (verdict : DeliveriesService.evaluateStops (db.stopsOf id) =
        { completed := true, targetStatus := some target }) :
      DeliveryStep request db id row { row with status := target, completedAt := some now }
  | cancelled {spelling : Spelling} {dto : CancelDeliveryDto} {actor : DeliveryActor}
      (requested : request = .cancelDelivery ⟨id, spelling⟩ dto actor)
      (operational : ¬row.status.Terminal) :
      DeliveryStep request db id row { row with status := .cancelled }
  | overridden {conflictId : IdText} {dto : ResolveConflictDto} {actorUserId : Uuid}
      {actorRole : Role} {now : Instant}
      (requested : request = .resolveConflict conflictId dto actorUserId actorRole)
      (status : dto.status = .resolvedOverridden) :
      DeliveryStep request db id row { row with status := .completed, completedAt := some now }
  | routed {mode : RouteMode} : DeliveryStep request db id row { row with routeMode := mode }

/-- Creating stops touches no delivery. -/
theorem Db.delivery?_commit_createStops (db : Db) (stops : List DeliveryStop) (id : Uuid) :
    (db.commit (stops.map .createStop)).delivery? id = db.delivery? id := by
  refine Db.commit_idle (·.delivery? id) (fun write member db => ?_) db
  obtain ⟨stop, _, rfl⟩ := List.mem_map.mp member
  rfl

/-- Nor does renumbering them. -/
theorem Db.delivery?_commit_resequence (db : Db) (moves : List (Uuid × Int)) (id : Uuid) :
    (db.commit (moves.map .resequence)).delivery? id = db.delivery? id := by
  refine Db.commit_idle (·.delivery? id) (fun write member db => ?_) db
  obtain ⟨item, _, rfl⟩ := List.mem_map.mp member
  rfl

/-- A list of writes that ends in the update of one delivery is a step of that
delivery and no step of the others. -/
private theorem DeliveryStep.of_update {request : Request} {db : Db} {id key : Uuid}
    {row row' : Delivery} {data : DeliveryData} (earlier : List Write)
    (idle : (db.commit earlier).delivery? id = db.delivery? id)
    (before : db.delivery? id = some row)
    (after : (db.commit (earlier ++ [.updateDelivery key data])).delivery? id = some row')
    (step : id = key → DeliveryStep request db id row (data.set row)) :
    DeliveryStep request db id row row' := by
  rw [Db.commit_append, Db.commit_cons, Db.commit_nil, Write.delivery?_apply, idle, before] at after
  by_cases here : id = key
  · rw [Write.onDelivery, if_pos here] at after
    cases after
    exact step here
  · rw [Write.onDelivery, if_neg here] at after
    cases after
    exact .unchanged

variable [UuidText]

/-- The inversion of an effect on a delivery. -/
theorem Effect.deliveryStep {request : Request} {core : List Write} {db : Db}
    (effect : Effect request core db) {id : Uuid} {row row' : Delivery}
    (before : db.delivery? id = some row) (after : (db.commit core).delivery? id = some row') :
    DeliveryStep request db id row row' := by
  have same : ∀ {other : Delivery}, db.delivery? id = some other → other = row := fun found =>
    Option.some.inj (found.symm.trans before)
  cases effect with
  | none =>
      cases same after
      exact .unchanged
  | created fresh draft pending =>
      rw [Db.commit_cons, Db.delivery?_commit_createStops, Write.delivery?_apply, before] at after
      cases after
      exact .unchanged
  | assigned found =>
      exact .of_update [] rfl before after fun here => by subst here; exact .assigned rfl
  | accepted found =>
      exact .of_update [] rfl before after fun here => by subst here; exact .accepted rfl
  | started found =>
      exact .of_update [] rfl before after fun here => by subst here; exact .started rfl
  | completed able found enRoute verdict =>
      refine .of_update [] rfl before after fun here => ?_
      subst here
      cases same found
      exact .completed able enRoute verdict
  | cancelled found operational =>
      refine .of_update [] rfl before after fun here => ?_
      subst here
      cases same found
      exact .cancelled rfl operational
  | moved move able matched target order =>
      cases same after
      exact .unchanged
  | delivered able matched target order absent ofStop =>
      cases same after
      exact .unchanged
  | ticketed fresh target found owner =>
      cases same after
      exact .unchanged
  | resolved found plain =>
      cases same after
      exact .unchanged
  | overridden status found named target stopFound evidenced outcome order completes =>
      cases completes with
      | unfinished remain => cases evidenced <;> (cases same after; exact .unchanged)
      | completed foundDelivery finished =>
          refine .of_update _ ?_ before after fun here => .overridden rfl status
          cases evidenced <;> rfl
  | selected ofDelivery fresh =>
      exact .of_update [.createRoute _, .createRouteStops _] rfl before after fun here => .routed
  | @reordered deliveryId dto actor db route rows mode moves ofDelivery fresh own =>
      refine .of_update (moves.map .resequence ++ [.createRoute route, .createRouteStops rows]) ?_
        before (by rw [List.append_assoc]; exact after) fun here => .routed
      rw [Db.commit_append]
      exact Db.delivery?_commit_resequence db moves id

omit [UuidText] in
/-- A row that writes bring into being is created by one of them. -/
theorem Db.commit_of_absent {β : Type} (look : Db → Option β) {creates : Write → Prop}
    (idle : ∀ write db, ¬creates write → look db = none → look (write.apply db) = none)
    {writes : List Write} {db : Db} {row : β} (before : look db = none)
    (after : look (db.commit writes) = some row) : ∃ write ∈ writes, creates write := by
  induction writes generalizing db with
  | nil => cases before.symm.trans after
  | cons write writes inductionHypothesis =>
      by_cases here : creates write
      · exact ⟨write, List.mem_cons_self, here⟩
      · obtain ⟨later, member, made⟩ := inductionHypothesis (idle write db here before) after
        exact ⟨later, List.mem_cons_of_mem _ member, made⟩

omit [UuidText] in
/-- A delivery that was not there has been created. -/
theorem Db.delivery?_commit_of_absent {id : Uuid} {row : Delivery} {writes : List Write} {db : Db}
    (before : db.delivery? id = none) (after : (db.commit writes).delivery? id = some row) :
    ∃ write ∈ writes, ∃ created, write = .createDelivery created := by
  refine Db.commit_of_absent (·.delivery? id) (fun write db plain absent => ?_) before after
  rw [Write.delivery?_apply, absent]
  cases write with
  | createDelivery created => exact absurd ⟨created, rfl⟩ plain
  | updateDelivery key data => simp [Write.onDelivery]
  | _ => rfl

omit [UuidText] in
/-- So has a ticket. -/
theorem Db.conflict?_commit_of_absent {id : Uuid} {row : DeliveryConflict} {writes : List Write}
    {db : Db} (before : db.conflict? id = none) (after : (db.commit writes).conflict? id = some row) :
    ∃ write ∈ writes, ∃ created, write = .createConflict created := by
  refine Db.commit_of_absent (·.conflict? id) (fun write db plain absent => ?_) before after
  rw [Write.conflict?_apply, absent]
  cases write with
  | createConflict created => exact absurd ⟨created, rfl⟩ plain
  | updateConflict key data => simp [Write.onConflict]
  | _ => rfl

/-- A delivery that a commit brings into being is a draft. -/
theorem Effect.draft_of_absent {request : Request} {core : List Write} {db : Db}
    (effect : Effect request core db) {id : Uuid} {row : Delivery}
    (before : db.delivery? id = Option.none) (after : (db.commit core).delivery? id = some row) :
    row.status = .draft := by
  obtain ⟨_, member, created, rfl⟩ := Db.delivery?_commit_of_absent before after
  cases effect with
  | @created dto user db delivery stops fresh draft pending =>
      rw [Db.commit_cons, Db.delivery?_commit_createStops, Write.delivery?_apply, before] at after
      by_cases here : delivery.id = id
      · simp only [Write.onDelivery, here, if_true, Option.none_or, Option.some.injEq] at after
        exact after ▸ draft
      · simp [Write.onDelivery, here] at after
  | overridden status found named target stopFound evidenced outcome order completes =>
      cases evidenced <;> cases completes <;> simp at member
  | reordered ofDelivery fresh own => simp [Write.resequence] at member
  | _ => simp at member

/-! ## Stops -/

/-- How a commit of a request changes a stop. -/
inductive StopStep (request : Request) (db : Db) (id : Uuid) (row : DeliveryStop) :
    DeliveryStop → Prop where
  | unchanged : StopStep request db id row row
  | moved {data : StopData} (move : StopMove) (able : request.takes move = true)
      (matched : Prisma.DeliveryStop.matched db id move.expected terminalDeliveryStatuses = true)
      (target : data.status = some move.target) (order : data.sequence = none) :
      StopStep request db id row (data.set row)
  | delivered {data : StopData} (able : request.submits = true)
      (matched : Prisma.DeliveryStop.matched db id [.unloading, .arrived]
        terminalDeliveryStatuses = true)
      (target : data.status = some .delivered) (order : data.sequence = none) :
      StopStep request db id row (data.set row)
  | overridden {conflictId : IdText} {dto : ResolveConflictDto} {actorUserId : Uuid}
      {actorRole : Role} {conflict : DeliveryConflict} {data : StopData}
      (requested : request = .resolveConflict conflictId dto actorUserId actorRole)
      (status : dto.status = .resolvedOverridden)
      (found : db.conflict? conflictId = some conflict)
      (target : conflict.clientPayload.payload.target.toUuid = .ok id)
      (outcome : data.status = some .delivered) (order : data.sequence = none) :
      StopStep request db id row (data.set row)
  | resequenced {spelling : Spelling} {dto : ManualReorderDto} {actor : RouteActor}
      {sequence : Int} (requested : request = .reorderStops ⟨row.deliveryId, spelling⟩ dto actor) :
      StopStep request db id row { row with sequence }

/-- One update of a stop is a step of it, or of another. -/
private theorem StopStep.of_update {request : Request} {db : Db} {id key : Uuid}
    {row row' : DeliveryStop} {data : StopData} (before : db.stop? id = some row)
    (after : ((Write.updateStop key data).apply db).stop? id = some row')
    (step : id = key → StopStep request db id row (data.set row)) :
    StopStep request db id row row' := by
  rw [Write.stop?_apply, before] at after
  by_cases here : id = key
  · rw [Write.onStop, if_pos here] at after
    cases after
    exact step here
  · rw [Write.onStop, if_neg here] at after
    cases after
    exact .unchanged

omit [UuidText] in
/-- New stops leave a present stop alone. -/
theorem Db.stop?_commit_createStops {db : Db} {id : Uuid} {row : DeliveryStop}
    (stops : List DeliveryStop) (found : db.stop? id = some row) :
    (db.commit (stops.map .createStop)).stop? id = some row := by
  induction stops generalizing db with
  | nil => exact found
  | cons stop stops inductionHypothesis =>
      rw [List.map_cons, Db.commit_cons]
      refine inductionHypothesis ?_
      rw [Write.stop?_apply, found]
      rfl

omit [UuidText] in
/-- After moves in the sequence a stop differs from before in its sequence only,
and not at all unless it is among those moved. -/
theorem Db.stop?_commit_resequence {db : Db} {moves : List (Uuid × Int)} {id : Uuid}
    {row row' : DeliveryStop} (before : db.stop? id = some row)
    (after : (db.commit (moves.map .resequence)).stop? id = some row') :
    row' = row ∨ ∃ sequence, row' = { row with sequence } ∧ id ∈ moves.map Prod.fst := by
  induction moves generalizing db row with
  | nil => exact .inl (Option.some.inj (after.symm.trans before))
  | cons item moves inductionHypothesis =>
      rw [List.map_cons, Db.commit_cons] at after
      have step := Write.stop?_apply (.resequence item) db id
      rw [before] at step
      by_cases here : id = item.1
      · rw [Write.resequence, Write.onStop, if_pos here] at step
        rcases inductionHypothesis step after with rfl | ⟨sequence, rfl, _⟩
        · exact .inr ⟨item.2, rfl, by simp [here]⟩
        · exact .inr ⟨sequence, rfl, by simp [here]⟩
      · rw [Write.resequence, Write.onStop, if_neg here] at step
        rcases inductionHypothesis step after with rfl | ⟨sequence, rfl, member⟩
        · exact .inl rfl
        · exact .inr ⟨sequence, rfl, by simp [member]⟩

/-- The inversion of an effect on a stop. -/
theorem Effect.stopStep {request : Request} {core : List Write} {db : Db}
    (effect : Effect request core db) {id : Uuid} {row row' : DeliveryStop}
    (before : db.stop? id = some row) (after : (db.commit core).stop? id = some row') :
    StopStep request db id row row' := by
  have same : ∀ {other : DeliveryStop}, db.stop? id = some other → other = row := fun found =>
    Option.some.inj (found.symm.trans before)
  cases effect with
  | @created dto user db delivery stops fresh draft pending =>
      have kept : ((Write.createDelivery delivery).apply db).stop? id = some row := before
      rw [Db.commit_cons, Db.stop?_commit_createStops stops kept] at after
      cases after
      exact .unchanged
  | moved move able matched target order =>
      exact .of_update before after fun here => by subst here; exact .moved move able matched target order
  | delivered able matched target order absent ofStop =>
      exact .of_update before after fun here => by subst here; exact .delivered able matched target order
  | @overridden conflictId dto user role db conflict stopId stop data delivered evidence completion
      status found named target stopFound evidenced outcome order completes =>
      have changed : ((Write.updateStop stopId delivered).apply db).stop? id = some row' := by
        cases evidenced <;> cases completes <;> exact after
      exact .of_update before changed fun here => by
        subst here
        exact .overridden rfl status found target outcome order
  | @reordered path dto actor db route rows mode moves ofDelivery fresh own =>
      obtain ⟨deliveryId, spelling⟩ := path
      rw [Db.commit_append] at after
      rcases Db.stop?_commit_resequence before after with rfl | ⟨sequence, rfl, member⟩
      · exact .unchanged
      · obtain ⟨item, inMoves, rfl⟩ := List.mem_map.mp member
        obtain ⟨stop, found, owner⟩ := own item inMoves
        cases same found
        obtain rfl : row.deliveryId = deliveryId := owner
        exact .resequenced rfl
  | _ =>
      cases same after
      exact .unchanged

end Armada
