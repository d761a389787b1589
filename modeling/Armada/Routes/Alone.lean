import Armada.Alone
import Armada.Routes.RoutesDomainService

/-!
# Route operations that run alone

What an operation of `RoutesDomainService` has found and done if it returns, and what
makes it fail.
-/

namespace Armada

open Concurrency

namespace RoutesDomainService

variable {supplied : Input → Prop} {before after : Db} {deliveryId : IdText} {actor : RouteActor}

/-- The stops of a delivery as both operations read them. -/
def snapshot (db : Db) (deliveryId : Uuid) : List DeliveryStop :=
  (db.stopsOf deliveryId).insertionSort fun left right => left.sequence ≤ right.sequence

/-- A snapshot has the stops of the delivery, in some order. -/
theorem snapshot_perm (db : Db) (deliveryId : Uuid) :
    (snapshot db deliveryId).Perm (db.stopsOf deliveryId) :=
  List.perm_insertionSort _ _

/-- It is not empty where there are stops. -/
theorem snapshot_ne_nil {db : Db} (occupied : db.stopsOf deliveryId ≠ []) :
    snapshot db deliveryId ≠ [] := by
  intro empty
  have permuted := snapshot_perm db deliveryId
  rw [empty] at permuted
  exact occupied permuted.nil_eq.symm

/-- The actor may work on the delivery. -/
def Authorized (actor : RouteActor) (delivery : Delivery) : Prop :=
  ¬(actor.role = .driver ∧ (actor.driverId = none ∨ delivery.driverId ≠ actor.driverId)) ∧
    ¬(actor.role = .owner ∧ delivery.createdBy ≠ actor.userId)

/-- The check finds the delivery and its stops, for a user who may see them. -/
theorem verifyDeliveryAccess_returns {found : Delivery × List DeliveryStop}
    (returned : (verifyDeliveryAccess deliveryId actor).Returns supplied before found after) :
    before.delivery? deliveryId = some found.1 ∧ found.2 = snapshot before deliveryId ∧
      Authorized actor found.1 ∧ after = before := by
  simp only [verifyDeliveryAccess, Proc.returns_bind, Proc.returns_require,
    Proc.returns_rejectIf, Proc.returns_pure] at returned
  obtain ⟨read, _, selected, delivery, _, ⟨same, rfl⟩, _, _, ⟨driver, rfl⟩, _, _, ⟨owner, rfl⟩, rfl,
    rfl⟩ := returned
  obtain ⟨found, rfl⟩ := returns_select selected
  cases found
  obtain ⟨row, present, rfl⟩ := Option.map_eq_some_iff.mp same
  exact ⟨present, rfl, ⟨driver, owner⟩, rfl⟩

/-- Where the delivery is there and open to the actor, reading it fails because of the
environment only. -/
theorem verifyDeliveryAccess_throws {delivery : Delivery} {error : Exception}
    (present : before.delivery? deliveryId = some delivery) (authorized : Authorized actor delivery)
    (thrown : (verifyDeliveryAccess deliveryId actor).Throws supplied before error after) :
    ¬Healthy supplied := by
  simp only [verifyDeliveryAccess, Proc.throws_bind, Proc.throws_require, Proc.throws_rejectIf,
    Proc.returns_require, Proc.returns_rejectIf, Proc.throws_pure, and_false, exists_false,
    or_false] at thrown
  rcases thrown with unread | ⟨read, middle, selected, missing | ⟨found, _, ⟨same, rfl⟩, refused⟩⟩
  · obtain ⟨⟨reason, rfl, unreadable⟩, _⟩ := throws_select unread
    exact fun healthy => by cases unreadable healthy
  · obtain ⟨found, rfl⟩ := returns_select selected
    obtain ⟨rfl, _⟩ := missing
    rw [present] at found
    cases found
  · obtain ⟨reading, rfl⟩ := returns_select selected
    rw [present] at reading
    cases reading
    cases same
    rcases refused with ⟨driver, _⟩ | ⟨_, _, ⟨_, rfl⟩, owner, _⟩
    · exact absurd driver authorized.1
    · exact absurd owner authorized.2

/-- The rate counter stays within its limit. -/
def WithinRate (supplied : Input → Prop) : Prop :=
  ∀ input, supplied input → input.rateCount ≤ 5

/-- It is the rate that is refused, if anything. -/
theorem enforceRouteRateLimit_throws {error : Exception}
    (thrown : (enforceRouteRateLimit deliveryId).Throws supplied before error after) :
    ¬WithinRate supplied := by
  simp only [enforceRouteRateLimit, Proc.throws_bind, Proc.throws_rejectIf] at thrown
  rcases thrown with failed | ⟨count, _, counted, beyond, _⟩
  · obtain ⟨input, _, impossible, _⟩ := Proc.throws_lift.mp failed
    cases impossible
  · obtain ⟨input, writes, given, succeeded, _⟩ := Proc.returns_lift.mp counted
    rw [(RedisService.incrRateLimit_succeeds.mp succeeded).1] at beyond
    exact fun within => absurd (within input given) (not_le_of_gt beyond)

/-- The count changes nothing. -/
theorem enforceRouteRateLimit_returns {answer : Unit}
    (returned : (enforceRouteRateLimit deliveryId).Returns supplied before answer after) :
    after = before := by
  simp only [enforceRouteRateLimit, Proc.returns_bind, Proc.returns_rejectIf] at returned
  obtain ⟨rateCount, _, counted, _, rfl⟩ := returned
  obtain ⟨input, writes, _, succeeded, rfl⟩ := Proc.returns_lift.mp counted
  rw [(RedisService.incrRateLimit_succeeds.mp succeeded).2]
  rfl

/-- The check of the stops changes nothing. -/
theorem requireKnownStops_returns {deliveryStopIds submitted : List Uuid} {answer : Unit}
    (returned : (requireKnownStops deliveryId deliveryStopIds submitted).Returns supplied before
      answer after) : after = before := by
  rw [requireKnownStops] at returned
  split at returned
  · exact absurd returned Proc.returns_throw
  · exact (Proc.returns_pure.mp returned).2

/-- It rejects none of the delivery's own stops. -/
theorem requireKnownStops_not_throws {deliveryStopIds submitted : List Uuid} {error : Exception}
    (known : ∀ id ∈ submitted, id ∈ deliveryStopIds) :
    ¬(requireKnownStops deliveryId deliveryStopIds submitted).Throws supplied before error
      after := by
  intro thrown
  rw [requireKnownStops] at thrown
  split at thrown
  · rename_i stopId found
    have unknown := List.find?_some found
    exact absurd (known stopId (List.mem_of_find?_eq_some found)) (by simpa using unknown)
  · exact Proc.throws_pure thrown

/-- What the validator accepts. -/
def Valid (deliveryStopIds submitted : List Uuid) (sequences : Option (List Int)) : Prop :=
  hasExactIds deliveryStopIds submitted = true ∧
    ∀ given ∈ sequences, contiguous given = true

/-- A valid order names stops of the delivery only. -/
theorem Valid.known {deliveryStopIds submitted : List Uuid} {sequences : Option (List Int)}
    (valid : Valid deliveryStopIds submitted sequences) : ∀ id ∈ submitted, id ∈ deliveryStopIds := by
  have exact := valid.1
  simp only [hasExactIds, Bool.and_eq_true, List.all_eq_true, decide_eq_true_eq] at exact
  exact exact.2

/-- An order that passes is valid. -/
theorem validateCompleteStopSet_returns {deliveryStopIds submitted : List Uuid}
    {sequences : Option (List Int)} {answer : Unit}
    (returned : (validateCompleteStopSet deliveryStopIds submitted sequences).Returns supplied
      before answer after) :
    Valid deliveryStopIds submitted sequences ∧ after = before := by
  simp only [validateCompleteStopSet, Proc.returns_bind, Proc.returns_rejectIf] at returned
  obtain ⟨_, _, ⟨exact, rfl⟩, contiguous, rfl⟩ := returned
  exact ⟨⟨by simpa using exact, by simpa using contiguous⟩, rfl⟩

/-- Emissions change no row. -/
theorem commit_emissions (db : Db) (rooms : List Room) (emission : Room → Emission) :
    ∃ emitted, db.commit (rooms.map fun room => .emit (emission room)) = { db with emitted } := by
  induction rooms generalizing db with
  | nil => exact ⟨db.emitted, rfl⟩
  | cons room rooms inductionHypothesis =>
      obtain ⟨emitted, same⟩ := inductionHypothesis ((Write.emit (emission room)).apply db)
      exact ⟨emitted, same⟩

/-- The broadcast adds emissions and changes no row. -/
theorem broadcastRouteUpdated_runs {routeResult : ResponseBody} {result : Except Exception Unit}
    (runs : (broadcastRouteUpdated deliveryId routeResult actor).Runs supplied before result
      after) :
    result = .ok () ∧ ∃ emitted, after = { before with emitted } := by
  have emission : ∀ (rooms : List Room) (payload : RealtimePayload),
      (liftM (RealtimeGateway.emit rooms payload actor.realtime) : Proc store Unit).Runs supplied
        before result after → result = .ok () ∧ ∃ emitted, after = { before with emitted } := by
    intro rooms payload runs
    rcases Proc.runs_lift.mp runs with ⟨input, value, writes, _, succeeded, rfl, rfl⟩ |
      ⟨input, error, _, failed, _⟩
    · rw [RealtimeGateway.emit_succeeds.mp succeeded]
      exact ⟨rfl, commit_emissions before rooms _⟩
    · cases failed
  cases routeResult with
  | route routeId owner version source selectedAt => exact emission _ _ runs
  | reorder routeId owner version source selectedAt => exact emission _ _ runs
  | _ => exact ⟨runs.1, _, runs.2⟩

/-- A route that has been made: the checks that the request has passed, and the work. -/
structure Made (deliveryId : Uuid) (actor : RouteActor) (key : Option IdempotencyKey)
    (submitted : List Uuid) (sequences : Option (List Int))
    (post : ResponseBody → List Write → Prop) (before : Db) (body : ResponseBody) (after : Db) :
    Prop where
  opened : ∃ delivery, before.delivery? deliveryId = some delivery ∧ Authorized actor delivery ∧
    delivery.status ∉ terminalDeliveryStatuses
  unstored : before.stored key = none
  valid : Valid ((snapshot before deliveryId).map DeliveryStop.id) submitted sequences
  worked : ∃ writes emitted, post body writes ∧ after = { before.commit writes with emitted }

/-- What a route mutation commits when it returns: the work, its record and its event. -/
theorem mutateRoute_returns {key : Option IdempotencyKey} {submitted : List Uuid}
    {sequences : Option (List Int)} {work : Txn store ResponseBody}
    {post : ResponseBody → List Write → Prop} {body : ResponseBody}
    (yields : work.Yields post before [])
    (returned : (mutateRoute deliveryId actor key submitted sequences work).Returns supplied before
      (.fresh body) after) :
    Made deliveryId actor key submitted sequences post before body after := by
  obtain ⟨⟨delivery, stops⟩, _, accessed, rest⟩ := Proc.returns_bind.mp returned
  obtain ⟨present, rfl, authorized, rfl⟩ := verifyDeliveryAccess_returns accessed
  obtain ⟨_, _, operational, rest⟩ := Proc.returns_bind.mp rest
  obtain ⟨running, rfl⟩ := Proc.returns_rejectIf.mp operational
  obtain ⟨_, _, limited, rest⟩ := Proc.returns_bind.mp rest
  obtain rfl := enforceRouteRateLimit_returns limited
  obtain ⟨existing, _, lookup, rest⟩ := Proc.returns_bind.mp rest
  obtain ⟨unstored, rfl⟩ := Idempotency.stored_returns lookup
  cases existing with
  | some stored =>
      obtain ⟨impossible, _⟩ := Proc.returns_pure.mp rest
      cases impossible
  | none =>
      obtain ⟨_, _, known, rest⟩ := Proc.returns_bind.mp rest
      obtain rfl := requireKnownStops_returns known
      obtain ⟨_, _, validated, checked⟩ := Proc.returns_bind.mp rest
      obtain ⟨valid, rfl⟩ := validateCompleteStopSet_returns validated
      obtain ⟨reply, _, once, worked⟩ := Proc.returns_bind.mp checked
      obtain ⟨value, writes, rfl, made, rfl⟩ :=
        Idempotency.transactOnce_returns unstored yields once
      obtain ⟨_, _, broadcast, done⟩ := Proc.returns_bind.mp worked
      obtain ⟨same, rfl⟩ := Proc.returns_pure.mp done
      cases same
      obtain ⟨_, emitted, rfl⟩ := broadcastRouteUpdated_runs broadcast
      exact ⟨⟨delivery, present, authorized, running⟩, unstored, valid, writes, emitted, made, rfl⟩

/-- Where a result is stored under the key, it is what an operation returns. -/
theorem mutateRoute_returns_replayed {key : Option IdempotencyKey} {submitted : List Uuid}
    {sequences : Option (List Int)} {work : Txn store ResponseBody}
    {post : ResponseBody → List Write → Prop} {body : ResponseBody}
    (yields : work.Yields post before [])
    (returned : (mutateRoute deliveryId actor key submitted sequences work).Returns supplied before
      (.replayed body) after) : before.stored key ≠ none := by
  obtain ⟨⟨delivery, stops⟩, _, accessed, rest⟩ := Proc.returns_bind.mp returned
  obtain ⟨_, rfl, _, rfl⟩ := verifyDeliveryAccess_returns accessed
  obtain ⟨_, _, operational, rest⟩ := Proc.returns_bind.mp rest
  obtain ⟨_, rfl⟩ := Proc.returns_rejectIf.mp operational
  obtain ⟨_, _, limited, rest⟩ := Proc.returns_bind.mp rest
  obtain rfl := enforceRouteRateLimit_returns limited
  obtain ⟨existing, _, lookup, rest⟩ := Proc.returns_bind.mp rest
  obtain ⟨stored, rfl⟩ := Idempotency.stored_returns lookup
  intro unstored
  rw [unstored] at stored
  subst stored
  obtain ⟨_, _, known, rest⟩ := Proc.returns_bind.mp rest
  obtain rfl := requireKnownStops_returns known
  obtain ⟨_, _, validated, checked⟩ := Proc.returns_bind.mp rest
  obtain ⟨_, rfl⟩ := validateCompleteStopSet_returns validated
  obtain ⟨reply, _, once, worked⟩ := Proc.returns_bind.mp checked
  obtain ⟨value, writes, rfl, _, rfl⟩ := Idempotency.transactOnce_returns unstored yields once
  obtain ⟨_, _, _, done⟩ := Proc.returns_bind.mp worked
  obtain ⟨same, _⟩ := Proc.returns_pure.mp done
  cases same

/-- An operation whose checks pass and whose work cannot fail does not fail. -/
theorem mutateRoute_not_throws {key : Option IdempotencyKey} {submitted : List Uuid}
    {sequences : Option (List Int)} {work : Txn store ResponseBody} {delivery : Delivery}
    {error : Exception} (present : before.delivery? deliveryId = some delivery)
    (authorized : Authorized actor delivery)
    (running : delivery.status ∉ terminalDeliveryStatuses) (healthy : Healthy supplied)
    (within : WithinRate supplied)
    (valid : Valid ((snapshot before deliveryId).map DeliveryStop.id) submitted sequences)
    (aborts : work.Aborts supplied (Spoils supplied True) before []) :
    ¬(mutateRoute deliveryId actor key submitted sequences work).Throws supplied before error
      after := by
  intro thrown
  rcases Proc.throws_bind.mp thrown with failed | ⟨⟨found, stops⟩, _, accessed, rest⟩
  · exact verifyDeliveryAccess_throws present authorized failed healthy
  obtain ⟨there, rfl, _, rfl⟩ := verifyDeliveryAccess_returns accessed
  obtain rfl : delivery = found := Option.some.inj (present.symm.trans there)
  rcases Proc.throws_bind.mp rest with failed | ⟨_, _, operational, rest⟩
  · exact running (Proc.throws_rejectIf.mp failed).1
  obtain ⟨_, rfl⟩ := Proc.returns_rejectIf.mp operational
  rcases Proc.throws_bind.mp rest with failed | ⟨_, _, limited, rest⟩
  · exact enforceRouteRateLimit_throws failed within
  obtain rfl := enforceRouteRateLimit_returns limited
  rcases Proc.throws_bind.mp rest with failed | ⟨existing, _, lookup, rest⟩
  · exact (Idempotency.stored_throws failed).2 healthy
  obtain ⟨_, rfl⟩ := Idempotency.stored_returns lookup
  cases existing with
  | some body => exact Proc.throws_pure rest
  | none =>
      rcases Proc.throws_bind.mp rest with failed | ⟨_, _, checked, rest⟩
      · exact requireKnownStops_not_throws valid.known failed
      obtain rfl := requireKnownStops_returns checked
      rcases Proc.throws_bind.mp rest with failed | ⟨_, _, validated, work⟩
      · simp only [validateCompleteStopSet, Proc.throws_bind, Proc.throws_rejectIf] at failed
        rcases failed with ⟨inexact, _⟩ | ⟨_, _, _, ⟨given, member, gapped⟩, _⟩
        · cases valid.1.symm.trans inexact
        · cases (valid.2 given member).symm.trans gapped
      obtain ⟨_, rfl⟩ := validateCompleteStopSet_returns validated
      rcases Proc.throws_bind.mp work with failed | ⟨reply, _, once, last⟩
      · obtain ⟨_, spoiled | ⟨_, ill⟩⟩ := Idempotency.transactOnce_throws aborts failed
        · exact spoiled.2 healthy trivial
        · exact ill healthy
      · cases reply with
        | replayed body => exact Proc.throws_pure last
        | fresh body =>
            rcases Proc.throws_bind.mp last with failed | ⟨_, _, _, impossible⟩
            · cases (broadcastRouteUpdated_runs failed).1
            · exact Proc.throws_pure impossible

/-! ## The selection of a route -/

/-- A route through the stops can be recorded, whatever ids are generated for it. -/
structure Recordable (supplied : Input → Prop) (deliveryId : Uuid)
    (totalDistanceM estimatedDurationS : Rat) (stops : List (Uuid × Int)) (db : Db) : Prop where
  delivery : ∃ row, db.delivery? deliveryId = some row
  storable : Prisma.Route.Storable totalDistanceM estimatedDurationS
  ids : (stops.map Prod.fst).Nodup
  sequences : (stops.map Prod.snd).Nodup
  routes : ∀ input, supplied input → db.routes.find? input.uuid = none
  routeStops : ∀ input, supplied input → ∀ row ∈ db.routeStops, row.routeId ≠ input.uuid

/-- What may be recorded in a store may be in one that agrees. -/
theorem Recordable.of_agree {totalDistanceM estimatedDurationS : Rat} {stops : List (Uuid × Int)}
    (recordable : Recordable supplied deliveryId totalDistanceM estimatedDurationS stops before)
    (agree : before.Agree after) :
    Recordable supplied deliveryId totalDistanceM estimatedDurationS stops after where
  delivery := by
    rw [← agree.delivery?]
    exact recordable.delivery
  storable := recordable.storable
  ids := recordable.ids
  sequences := recordable.sequences
  routes := agree.routes ▸ recordable.routes
  routeStops := agree.routeStops ▸ recordable.routeStops

/-- The next version is a new one. -/
theorem version_ne_nextVersion {db : Db} {other : Route} (member : other ∈ db.routesOf deliveryId) :
    other.version ≠ ((db.routesOf deliveryId).map Route.version).max?.getD 0 + 1 := by
  have below : other.version ≤ ((db.routesOf deliveryId).map Route.version).max?.getD 0 :=
    List.le_max?_getD_of_mem (List.mem_map_of_mem member)
  omega

/-- A route is inserted if its sums fit and its id and version are free. -/
theorem route_create_succeeds {version : Nat} {source : RouteSource}
    {totalDistanceM estimatedDurationS : Rat} {input : Input} {db : Db} (fault : input.fault = none)
    (storable : Prisma.Route.Storable totalDistanceM estimatedDurationS)
    (fresh : db.routes.find? input.uuid = none)
    (unique : ∀ other ∈ db.routesOf deliveryId, other.version ≠ version) :
    ∃ row writes, (Prisma.Route.create deliveryId version source totalDistanceM
      estimatedDurationS).Succeeds input db row writes := by
  obtain ⟨⟨metres, isDecimal⟩, seconds, isInt⟩ := storable
  simp only [Prisma.Route.create, query_succeeds, except_bind_ok,
    Prisma.check_ok, exists_const, Except.ok.injEq, Prod.mk.injEq]
  exact ⟨_, _, fault, seconds, isInt, metres, isDecimal, fresh, unique, rfl, rfl⟩

/-- Recording a route aborts only if it may not be recorded. -/
theorem recordRoute_aborts {source : RouteSource} {totalDistanceM estimatedDurationS : Rat}
    {stops : List (Uuid × Int)} {routeMode : RouteMode} {written : List Write}
    (recordable : Recordable supplied deliveryId totalDistanceM estimatedDurationS stops
      (before.commit written)) :
    (recordRoute deliveryId source totalDistanceM estimatedDurationS stops routeMode).Aborts
      supplied (Spoils supplied True) before written := by
  refine Txn.Aborts.step (fun input error given => spoils_of_select given fun _ => ⟨_, rfl⟩)
    fun input highest writes given read => ?_
  obtain ⟨_, rfl, rfl⟩ := Prisma.Route.findMaxVersion_succeeds.mp read
  rw [List.append_nil]
  refine Txn.Aborts.step (fun input error given => spoils_of_query given fun _ fault => ?_)
    fun routeInput route writes given created => ?_
  · exact route_create_succeeds fault recordable.storable (recordable.routes input given)
      fun other member => version_ne_nextVersion member
  obtain ⟨isInput, _, _, _, _, _, rfl⟩ := Prisma.Route.create_succeeds created
  refine Txn.Aborts.step (fun input error supply => spoils_of_query supply fun _ fault => ?_)
    fun input answer writes _ listed => ?_
  · refine ⟨(), _, Prisma.RouteStop.createMany_succeeds.mpr ⟨fault, ?_, ?_, ?_, rfl⟩⟩
    · rw [List.map_map]
      exact (List.Nodup.of_map Prod.snd (by simpa [Function.comp_def] using recordable.sequences))
    · rw [List.map_map]
      exact (List.Nodup.of_map Prod.snd (by simpa [Function.comp_def] using recordable.ids))
    · intro row member other there same
      obtain ⟨stop, _, rfl⟩ := List.mem_map.mp member
      rw [Db.applyAll_store, Db.commit_append] at there
      exact absurd (same.trans isInput) (recordable.routeStops _ given other there)
  obtain ⟨_, _, _, _, rfl⟩ := Prisma.RouteStop.createMany_succeeds.mp listed
  refine Txn.Aborts.step (fun input error given => spoils_of_query given fun _ fault => ?_)
    fun input answer writes given updated => ?_
  · obtain ⟨row, found⟩ := recordable.delivery
    refine ⟨_, _, Prisma.Delivery.update_succeeds.mpr ⟨fault, ⟨row, ?_, rfl⟩, rfl⟩⟩
    rw [Db.applyAll_store, Db.commit_append, Db.commit_append]
    exact found
  · exact fun input error given refused => spoils_of_commit given refused

/-- The transaction of a selection that can be recorded fails because of the environment
only. -/
theorem claimSelection_aborts {dto : SelectRouteDto}
    (unstored : before.stored (recordKey selectEndpoint actor dto.idempotencyKey) = none)
    (recordable : Recordable supplied deliveryId dto.totalDistanceMeters
      dto.estimatedDurationSeconds (numbered dto.recommendedSequence) before) :
    (claimSelection deliveryId dto actor).Aborts supplied (Spoils supplied True) before [] := by
  refine Txn.Aborts.step (fun input error given => spoils_of_query given fun _ fault => ?_)
    fun input answer writes given locked => ?_
  · exact ⟨(), [], Prisma.Delivery.selectForUpdate_succeeds.mpr ⟨fault, rfl⟩⟩
  obtain ⟨_, rfl⟩ := Prisma.Delivery.selectForUpdate_succeeds.mp locked
  refine Idempotency.claim_aborts (fun _ => unstored) fun claimed claim => ?_
  have agree := before.agree_commit_of_ancillary claim.essential_eq
  have unwritten : ∀ db : Db, (db.commit claimed).routes = db.routes := fun db =>
    (db.agree_commit_of_ancillary claim.essential_eq).routes.symm
  refine (recordRoute_aborts (recordable.of_agree agree)).bind
    ((recordRoute_holds .alone unwritten (List.mem_singleton_self _)).yields fun _ => rfl)
    fun route made recorded => ?_
  obtain ⟨_, _, _, _, _, rfl⟩ := recorded
  exact Idempotency.settle_aborts claim fun _ => rfl

/-! ## The stops of the selected route -/

/-- Numbering keeps the stops. -/
@[simp] theorem map_fst_numbered (stopIds : List Uuid) :
    (numbered stopIds).map Prod.fst = stopIds := by
  refine List.ext_getElem (by simp [numbered]) fun index _ _ => ?_
  simp [numbered]

/-- The numbers are 1, 2, 3 and so on. -/
theorem map_snd_numbered (stopIds : List Uuid) :
    (numbered stopIds).map Prod.snd =
      (List.range' 1 stopIds.length).map fun place : Nat => (place : Int) := by
  refine List.ext_getElem (by simp [numbered]) fun index _ _ => ?_
  simp [numbered, Int.add_comm]

/-- No number is given twice. -/
theorem nodup_snd_numbered (stopIds : List Uuid) : ((numbered stopIds).map Prod.snd).Nodup := by
  rw [map_snd_numbered]
  exact List.Nodup.map (fun left right same => by simpa using same) List.nodup_range'

/-- The route in the result passes the stops, and no other route has got a stop. -/
def Traverses (deliveryId : Uuid) (stops : List (Uuid × Int)) (before : Db) (body : ResponseBody)
    (after : Db) : Prop :=
  ∃ routeId version, body.route? = some (routeId, deliveryId, version) ∧
    after.routeStops = before.routeStops ++ routeStopsOf routeId stops

/-- A committed route traverses the stops in the order recorded. -/
theorem traverses_of_commit {key : Option IdempotencyKey} {stops : List (Uuid × Int)}
    {body : ResponseBody} {writes : List Write} {emitted : List Emission}
    (commit : RouteCommit deliveryId key stops [] before body writes) :
    Traverses deliveryId stops before body { before.commit writes with emitted } := by
  cases commit with
  | @intro claimed route value mode status claim ofDelivery next fresh reported =>
      refine ⟨route.id, route.version, reported, ?_⟩
      rw [← (before.commit_essential _).routeStops]
      simp only [essential_append, claim.essential_eq, essential_settled, List.map_nil,
        List.nil_append, List.append_nil]
      rfl

/-- What is recorded fits its columns. -/
theorem recordRoute_storable {source : RouteSource} {totalDistanceM estimatedDurationS : Rat}
    {stops : List (Uuid × Int)} {routeMode : RouteMode} {written : List Write} :
    (recordRoute deliveryId source totalDistanceM estimatedDurationS stops routeMode).Yields
      (fun _ _ => Prisma.Route.Storable totalDistanceM estimatedDurationS) before written := by
  rw [recordRoute, Txn.yields_bind]
  refine .of_forall fun version _ => ?_
  rw [Txn.yields_bind, Txn.yields_lift]
  exact fun input route writes created =>
    .of_forall fun _ _ => Prisma.Route.storable_of_create created

/-- A selection that commits had sums that fit the columns. -/
theorem claimSelection_storable {dto : SelectRouteDto} :
    (claimSelection deliveryId dto actor).Yields (fun _ _ =>
      Prisma.Route.Storable dto.totalDistanceMeters dto.estimatedDurationSeconds) before [] := by
  rw [claimSelection, Txn.yields_bind]
  refine .of_forall fun _ _ => ?_
  rw [Txn.yields_bind]
  refine .of_forall fun _ _ => ?_
  rw [Txn.yields_bind]
  exact recordRoute_storable.mono fun _ _ storable => .of_forall fun _ _ => storable

/-- A selection that is made fits its columns. -/
theorem selectRoute_storable {dto : SelectRouteDto} {body : ResponseBody}
    (returned : (selectRoute deliveryId dto actor).Returns supplied before (.fresh body) after) :
    Prisma.Route.Storable dto.totalDistanceMeters dto.estimatedDurationSeconds := by
  obtain ⟨_, _, storable, _⟩ := (mutateRoute_returns claimSelection_storable returned).worked
  exact storable

/-- A complete selection is made, unless the environment makes a call fail. -/
theorem selectRoute_runs {dto : SelectRouteDto} {delivery : Delivery}
    {result : Except Exception Reply} (present : before.delivery? deliveryId = some delivery)
    (authorized : Authorized actor delivery) (running : delivery.status ∉ terminalDeliveryStatuses)
    (healthy : Healthy supplied) (within : WithinRate supplied)
    (valid : Valid ((snapshot before deliveryId).map DeliveryStop.id) dto.recommendedSequence none)
    (unstored : before.stored (recordKey selectEndpoint actor dto.idempotencyKey) = none)
    (recordable : Recordable supplied deliveryId dto.totalDistanceMeters
      dto.estimatedDurationSeconds (numbered dto.recommendedSequence) before)
    (runs : (selectRoute deliveryId dto actor).Runs supplied before result after) :
    ∃ body, result = .ok (.fresh body) ∧
      Traverses deliveryId (numbered dto.recommendedSequence) before body after := by
  have yields := ((claimSelection_holds .alone deliveryId dto actor before).yields
    fun _ => rfl).mono fun _ _ made => made.choose_spec.1
  cases result with
  | error error =>
      exact absurd runs (mutateRoute_not_throws present authorized running healthy within valid
        (claimSelection_aborts unstored recordable))
  | ok reply =>
      cases reply with
      | replayed body => exact absurd unstored (mutateRoute_returns_replayed yields runs)
      | fresh body =>
          obtain ⟨writes, emitted, commit, rfl⟩ := (mutateRoute_returns yields runs).worked
          exact ⟨body, rfl, traverses_of_commit commit⟩

end RoutesDomainService

end Armada
