import Armada.Claims

/-!
# Every service operation performs its effects

One theorem for each operation of the services, along its own statements, and
from them that every request commits only effects of its own.
-/

namespace Armada

open Relational Concurrency

variable [UuidText]

/-! ## DeliveriesService -/

namespace DeliveriesService

/-- Reading a delivery writes nothing. -/
theorem getDeliveryById_performs (request : Request) (id : IdText) (actor : DeliveryActor) :
    request.Performs (getDeliveryById id actor) :=
  performs_select.bind fun _ => (Proc.Commits.require _ _).bind fun _ =>
    (Proc.Commits.rejectIf _ _).bind fun _ => (Proc.Commits.rejectIf _ _).bind fun _ => .pure _

omit [UuidText] in
/-- The stops of a new delivery are pending rows of that delivery under new ids. -/
theorem createStops_yields (db : Db) (deliveryId : Uuid) (dtos : List CreateDeliveryStopDto)
    (written : List Write) :
    (createStops deliveryId dtos).Yields
      (fun _ all => ∃ stops : List DeliveryStop, all = written ++ stops.map .createStop ∧
        ∀ stop ∈ stops, stop.status = .pending ∧ stop.deliveryId = deliveryId ∧
          db.stop? stop.id = none) db written := by
  induction dtos generalizing written with
  | nil => exact ⟨[], by simp, by simp⟩
  | cons dto dtos inductionHypothesis =>
      rw [createStops, Txn.yields_bind, Txn.yields_lift]
      intro input answer writes succeeded
      obtain ⟨_, fresh, _, rfl⟩ := Prisma.DeliveryStop.create_succeeds.mp succeeded
      refine (inductionHypothesis _).mono fun _ all => ?_
      rintro ⟨stops, rfl, pending⟩
      refine ⟨_ :: stops, by simp; rfl, fun stop member => ?_⟩
      rcases List.mem_cons.mp member with rfl | later
      · refine ⟨rfl, rfl, ?_⟩
        by_contra present
        obtain ⟨old, found⟩ := Option.ne_none_iff_exists'.mp present
        obtain ⟨kept, foundNow, _⟩ := (db.extends_commit written).stops _ _ found
        exact absurd (fresh.symm.trans foundNow) (by simp)
      · exact pending stop later

/-- Creating a delivery makes a draft and its stops. -/
theorem createDelivery_performs (dto : CreateDeliveryDto) (creatorUserId : Uuid) :
    (Request.createDelivery dto creatorUserId).Performs (createDelivery dto creatorUserId) := by
  refine performs_select.bind fun _ => (Proc.Commits.rejectIf _ _).bind fun _ =>
    .transaction (Allowed.nothing _) fun db => ?_
  simp only [Txn.yields_bind, Txn.yields_lift, Txn.yields_pure]
  intro input row writes succeeded items answer writesItems succeededItems
  obtain ⟨_, fresh, _, rowEq, rfl⟩ := Prisma.Delivery.create_succeeds.mp succeeded
  obtain ⟨_, rfl⟩ := Prisma.DeliveryItem.createMany_succeeds.mp succeededItems
  refine (createStops_yields db row.id dto.stops _).mono fun _ all => ?_
  rintro ⟨stops, rfl, pending⟩ audit done writesAudit succeededAudit
  obtain ⟨_, rfl⟩ := Prisma.AuditLog.create_succeeds.mp succeededAudit
  have core : essential (stops.map .createStop) = stops.map .createStop :=
    essential_map (fun _ => rfl) stops
  simp only [Allowed, List.nil_append, essential_append, essential_cons, essential_nil, core,
    Write.ancillary, if_true, Bool.false_eq_true, if_false, List.append_nil]
  exact .created (by rw [rowEq]; exact fresh) (by rw [rowEq]) pending

/-- An assignment is allowed, whatever its checks have seen. -/
theorem assignDelivery_performs (deliveryId : IdText) (dto : AssignDeliveryDto)
    (actor : DeliveryActor) :
    (Request.assignDelivery deliveryId dto actor).Performs
      (assignDelivery deliveryId dto actor) := by
  refine (getDeliveryById_performs _ _ _).bind fun _ => (Proc.Commits.rejectIf _ _).bind fun _ =>
    performs_select.bind fun _ => (Proc.Commits.rejectIf _ _).bind fun _ =>
    performs_select.bind fun _ => (Proc.Commits.rejectIf _ _).bind fun _ => .bind ?_ fun _ =>
    performs_audit.bind fun _ => performs_emit.bind fun _ => .pure _
  refine .statement (Allowed.nothing _) fun db input row writes succeeded => ?_
  obtain ⟨_, ⟨old, found, rfl⟩, rfl⟩ := Prisma.Delivery.update_succeeds.mp succeeded
  exact .assigned found

/-- The check of the driver writes nothing. -/
theorem requireOwn_performs (request : Request) (deliveryId : IdText) (actorDriverId : Uuid)
    (verb : String)
    (expected : DeliveryStatus) :
    request.Performs (requireOwn deliveryId actorDriverId verb expected) :=
  performs_select.bind fun _ => (Proc.Commits.require _ _).bind fun _ =>
    (Proc.Commits.rejectIf _ _).bind fun _ => .rejectIf _ _

/-- `moveOwn` performs what its one update does. -/
theorem moveOwn_performs {request : Request} {deliveryId : IdText} {actorDriverId actorUserId : Uuid}
    {status : DeliveryStatus} {data : Input → DeliveryData} {action : String}
    (allowed : ∀ db row input, db.delivery? deliveryId = some row →
      Effect request [.updateDelivery deliveryId (data input)] db) :
    request.Performs (moveOwn deliveryId actorDriverId actorUserId status data action) := by
  refine .bind ?_ fun _ => performs_audit.bind fun _ => performs_emit.bind fun _ => .pure _
  refine .statement (Allowed.nothing _) fun db input row writes succeeded => ?_
  obtain ⟨_, ⟨old, found, rfl⟩, rfl⟩ := Prisma.Delivery.update_succeeds.mp succeeded
  exact allowed db old input found

/-- Accepting is allowed, whatever its check has seen. -/
theorem acceptDelivery_performs (deliveryId : IdText) (actorDriverId actorUserId : Uuid) :
    (Request.acceptDelivery deliveryId actorDriverId actorUserId).Performs
      (acceptDelivery deliveryId actorDriverId actorUserId) :=
  (requireOwn_performs _ _ _ _ _).bind fun _ =>
    moveOwn_performs fun _ _ _ found => .accepted found

/-- So is starting. -/
theorem startDelivery_performs (deliveryId : IdText) (actorDriverId actorUserId : Uuid) :
    (Request.startDelivery deliveryId actorDriverId actorUserId).Performs
      (startDelivery deliveryId actorDriverId actorUserId) :=
  (requireOwn_performs _ _ _ _ _).bind fun _ =>
    moveOwn_performs fun _ _ _ found => .started found

omit [UuidText] in
/-- A completed evaluation: there are stops, all are terminal, and the status it
names tells whether one was delivered. -/
theorem evaluateStops_completed {stops : List DeliveryStop}
    (completed : (evaluateStops stops).completed = true) :
    stops ≠ [] ∧ (∀ stop ∈ stops, stop.status.Terminal) ∧
      evaluateStops stops = { completed := true,
                              targetStatus := some (if ∃ stop ∈ stops, stop.status = .delivered
                                then .completed else .failed) } := by
  by_cases empty : stops.length = 0
  · simp [evaluateStops, empty] at completed
  · by_cases unfinished : 0 < (stops.filter fun stop => stop.status ∉ terminalStatuses).length
    · simp only [evaluateStops, empty, unfinished, if_true, if_false] at completed
      cases completed
    · refine ⟨fun none => empty (by rw [none]; rfl), fun stop member => ?_, ?_⟩
      · have finished : stops.filter (fun stop => stop.status ∉ terminalStatuses) = [] := by
          rw [← List.length_eq_zero_iff]
          omega
        simpa [StopStatus.Terminal] using List.filter_eq_nil_iff.mp finished stop member
      · simp only [evaluateStops, empty, unfinished, if_false, List.any_eq_true,
          decide_eq_true_eq]

/-- A completion claims a delivery that is EN_ROUTE still. -/
theorem claimCompletion_yields {request : Request} (able : request.completes = true)
    (deliveryId : IdText) (actor : DeliveryActor) (db : Db) :
    (claimCompletion deliveryId actor).Yields (fun _ writes => Allowed request writes db) db [] := by
  simp only [claimCompletion, evaluateDeliveryCompletion, Txn.yields_bind, Txn.yields_lift,
    Txn.yields_pure, Txn.yields_rejectIf]
  intro _ stops _ succeededStops completed input count writes succeeded claimed _ row _ succeededRow
    _ _ _ succeededAudit
  obtain ⟨_, stopsEq, rfl⟩ := Prisma.DeliveryStop.findMany_succeeds.mp succeededStops
  obtain ⟨_, _, rfl⟩ := Prisma.Delivery.findUnique_succeeds.mp succeededRow
  obtain ⟨_, rfl⟩ := Prisma.AuditLog.create_succeeds.mp succeededAudit
  obtain ⟨_, ⟨old, found, enRoute, rfl, rfl⟩ | ⟨_, rfl, _⟩⟩ :=
    Prisma.Delivery.updateMany_succeeds.mp succeeded
  · obtain ⟨_, _, verdict⟩ := evaluateStops_completed (by simpa using completed)
    rw [verdict]
    exact .completed able found (by simpa using enRoute) (stopsEq ▸ verdict)
  · exact absurd (by decide) claimed

/-- So completing is allowed. -/
theorem completeDelivery_performs (deliveryId : IdText) (actor : DeliveryActor) :
    (Request.completeDelivery deliveryId actor).Performs (completeDelivery deliveryId actor) := by
  refine (getDeliveryById_performs _ _ _).bind fun delivery => ?_
  split
  · exact .pure _
  · exact (Proc.Commits.rejectIf _ _).bind fun _ => (Proc.Commits.transaction (Allowed.nothing _)
      (claimCompletion_yields rfl deliveryId actor)).bind fun _ =>
      (Proc.Commits.require _ _).bind fun _ => performs_emit.bind fun _ => .pure _

/-- A cancellation claims a delivery that has not ended still. -/
theorem claimCancellation_yields (deliveryId : IdText) (dto : CancelDeliveryDto)
    (actor : DeliveryActor) (db : Db) :
    (claimCancellation deliveryId dto actor).Yields
      (fun _ writes => Allowed (.cancelDelivery deliveryId dto actor) writes db) db [] := by
  simp only [claimCancellation, Txn.yields_bind, Txn.yields_lift, Txn.yields_pure,
    Txn.yields_rejectIf]
  intro input count writes succeeded claimed _ row _ succeededRow _ _ _ succeededAudit
  obtain ⟨_, _, rfl⟩ := Prisma.Delivery.findUnique_succeeds.mp succeededRow
  obtain ⟨_, rfl⟩ := Prisma.AuditLog.create_succeeds.mp succeededAudit
  obtain ⟨_, ⟨old, found, operational, rfl, rfl⟩ | ⟨_, rfl, _⟩⟩ :=
    Prisma.Delivery.updateMany_succeeds.mp succeeded
  · exact .cancelled found (by simpa [DeliveryStatus.Terminal] using operational)
  · exact absurd (by decide) claimed

/-- So cancelling is allowed. -/
theorem cancelDelivery_performs (deliveryId : IdText) (dto : CancelDeliveryDto)
    (actor : DeliveryActor) :
    (Request.cancelDelivery deliveryId dto actor).Performs
      (cancelDelivery deliveryId dto actor) :=
  (getDeliveryById_performs _ _ _).bind fun _ => (Proc.Commits.transaction (Allowed.nothing _)
    (claimCancellation_yields deliveryId dto actor)).bind fun _ =>
    performs_emit.bind fun _ => .pure _

/-- The evaluation claims a delivery that is EN_ROUTE still. -/
theorem claimIfEligible_yields {request : Request} (able : request.completes = true)
    (deliveryId : Uuid) (db : Db) :
    (claimIfEligible deliveryId).Yields (fun _ writes => Allowed request writes db) db [] := by
  simp only [claimIfEligible, evaluateDeliveryCompletion, Txn.yields_bind, Txn.yields_lift,
    Txn.yields_pure]
  intro _ stops _ succeededStops
  obtain ⟨_, stopsEq, rfl⟩ := Prisma.DeliveryStop.findMany_succeeds.mp succeededStops
  split
  · exact Effect.none
  · rename_i target targetEq
    split
    · rename_i completed
      simp only [Txn.yields_bind, Txn.yields_lift]
      intro input count writes succeeded
      obtain ⟨_, ⟨old, found, enRoute, rfl, rfl⟩ | ⟨_, rfl, rfl⟩⟩ :=
        Prisma.Delivery.updateMany_succeeds.mp succeeded
      · rw [if_neg (by decide), Txn.yields_lift]
        intro _ row _ succeededRow
        obtain ⟨_, _, rfl⟩ := Prisma.Delivery.findUnique_succeeds.mp succeededRow
        obtain ⟨_, _, verdict⟩ := evaluateStops_completed completed
        have targets : _ = some target := (congrArg _ verdict).symm.trans targetEq
        exact .completed able found (by simpa using enRoute) (targets ▸ stopsEq ▸ verdict)
      · exact Effect.none
    · exact Effect.none

/-- So it is allowed to whom it is open. -/
theorem completeDeliveryIfEligible_performs {request : Request} (able : request.completes = true)
    (deliveryId : Uuid) (actor : DeliveryActor) :
    request.Performs (completeDeliveryIfEligible deliveryId actor) := by
  refine .tryCatch (.bind (.transaction (Allowed.nothing _)
    (claimIfEligible_yields able deliveryId)) fun updated => ?_) fun _ => .pure _
  cases updated with
  | none => exact .pure _
  | some row => exact performs_emit

end DeliveriesService

/-! ## DeliveryStopsService -/

namespace DeliveryStopsService

open DeliveriesService (completeDeliveryIfEligible_performs)

/-- Finding a stop writes nothing. -/
theorem getStopAndVerifyDriver_performs (request : Request) (stopId : Uuid)
    (actorDriverId : Option Uuid) :
    request.Performs (getStopAndVerifyDriver stopId actorDriverId) :=
  performs_select.bind fun _ => (Proc.Commits.require _ _).bind fun _ =>
    (Proc.Commits.rejectIf _ _).bind fun _ => .pure _

/-- The update of a stop takes one step, from a status that the step may start from. -/
theorem updateStopIfOperational_performs {request : Request} (stopId : Uuid) (move : StopMove)
    (able : request.takes move = true) {data : Input → StopData}
    (target : ∀ input, (data input).status = some move.target)
    (order : ∀ input, (data input).sequence = none) :
    request.Performs (updateStopIfOperational stopId move.expected data) := by
  refine .bind ?_ fun count => ?_
  · refine .statement (Allowed.nothing _) fun db input count writes succeeded => ?_
    obtain ⟨_, ⟨matched, _, rfl⟩ | ⟨_, _, rfl⟩⟩ :=
      Prisma.DeliveryStop.updateMany_succeeds.mp succeeded
    · exact .moved move able matched (target input) (order input)
    · exact .none
  · split
    · refine performs_select.bind fun current => ?_
      cases current with
      | none => exact .throw _
      | some row => exact (Proc.Commits.rejectIf _ _).bind fun _ => .throw _
    · exact performs_select

/-- A departure takes its step. -/
theorem departToStop_performs {request : Request} (able : request.takes .depart = true)
    (stopId actorDriverId actorUserId : Uuid) :
    request.Performs (departToStop stopId actorDriverId actorUserId) :=
  (getStopAndVerifyDriver_performs _ _ _).bind fun _ => (Proc.Commits.rejectIf _ _).bind fun _ =>
    (Proc.Commits.rejectIf _ _).bind fun _ => (updateStopIfOperational_performs _ .depart able
      (fun _ => rfl) fun _ => rfl).bind fun _ => performs_emit.bind fun _ => .pure _

/-- An arrival takes its step. -/
theorem arriveAtStop_performs {request : Request} (able : request.takes .arrive = true)
    (stopId actorDriverId actorUserId : Uuid) :
    request.Performs (arriveAtStop stopId actorDriverId actorUserId) :=
  (getStopAndVerifyDriver_performs _ _ _).bind fun _ => (Proc.Commits.rejectIf _ _).bind fun _ =>
    (Proc.Commits.rejectIf _ _).bind fun _ => (updateStopIfOperational_performs _ .arrive able
      (fun _ => rfl) fun _ => rfl).bind fun _ => performs_emit.bind fun _ => .pure _

/-- The start of an unloading takes its step. -/
theorem startUnloading_performs {request : Request} (able : request.takes .unload = true)
    (stopId actorDriverId actorUserId : Uuid) :
    request.Performs (startUnloading stopId actorDriverId actorUserId) :=
  (getStopAndVerifyDriver_performs _ _ _).bind fun _ => (Proc.Commits.rejectIf _ _).bind fun _ =>
    (Proc.Commits.rejectIf _ _).bind fun _ => (updateStopIfOperational_performs _ .unload able
      (fun _ => rfl) fun _ => rfl).bind fun _ => performs_emit.bind fun _ => .pure _

/-- Failing a stop takes its step, and evaluates the delivery. -/
theorem failStop_performs (stopId : Uuid) (dto : StopReasonDto)
    (actorDriverId actorUserId : Uuid) :
    (Request.failStop stopId dto actorDriverId actorUserId).Performs (failStop stopId dto actorDriverId actorUserId) :=
  (getStopAndVerifyDriver_performs _ _ _).bind fun _ => (Proc.Commits.rejectIf _ _).bind fun _ =>
    (Proc.Commits.rejectIf _ _).bind fun _ => (updateStopIfOperational_performs _ .fail rfl
      (fun _ => rfl) fun _ => rfl).bind fun _ => performs_event.bind fun _ =>
    performs_emit.bind fun _ => (completeDeliveryIfEligible_performs rfl _ _).bind fun _ => .pure _

/-- Skipping a stop takes its step, and evaluates the delivery. -/
theorem skipStop_performs (stopId : Uuid) (dto : StopReasonDto) (actor : DeliveryActor) :
    (Request.skipStop stopId dto actor).Performs (skipStop stopId dto actor) :=
  (getStopAndVerifyDriver_performs _ _ _).bind fun _ => (Proc.Commits.rejectIf _ _).bind fun _ =>
    (Proc.Commits.rejectIf _ _).bind fun _ => (Proc.Commits.rejectIf _ _).bind fun _ =>
    (updateStopIfOperational_performs _ .skip rfl (fun _ => rfl) fun _ => rfl).bind fun _ =>
    performs_event.bind fun _ => performs_emit.bind fun _ =>
    (completeDeliveryIfEligible_performs rfl _ _).bind fun _ => .pure _

end DeliveryStopsService

/-! ## Idempotency keys -/

namespace Idempotency

/-- Looking up a record writes nothing. -/
theorem stored_performs (request : Request) (key : Option IdempotencyKey) :
    request.Performs (stored key) := by
  cases key with
  | none => exact .pure _
  | some key => exact performs_select.bind fun _ => .pure _

/-- Nor does the lookup after a clash. -/
theorem recover_performs (request : Request) (key : Option IdempotencyKey)
    (clash : Exception → Bool) (error : Exception) :
    request.Performs (recover key clash error) := by
  cases key with
  | none => exact .throw _
  | some key =>
      rw [recover]
      split
      · refine performs_select.bind fun record => ?_
        cases record with
        | none => exact .throw _
        | some record => exact .pure _
      · exact .throw _

/-- A transaction that is done once commits what its body does. -/
theorem transactOnce_meets {request : Request} {key : Option IdempotencyKey}
    {clash : Exception → Bool} {body : Txn store ResponseBody} {db : Db}
    (allowed : ∀ next, db.Extends next →
      body.Yields (fun _ writes => Allowed request writes next) next []) :
    (transactOnce key clash body).Meets (.atomic Db.Extends (Allowed request)) (fun _ _ => True) db := by
  refine Proc.Meets.tryCatch (Q := fun _ _ => True) (.bind (Q := fun _ _ => True)
    (.transaction ?_ ?_) (fun _ _ _ => trivial) fun _ _ _ => trivial) (fun _ _ _ => trivial)
    fun error current _ => recover_performs request key clash error current
  · exact fun next _ _ => ⟨Allowed.nothing _ next, trivial⟩
  · exact fun next extended => (allowed next extended).mono fun _ _ made => ⟨made, trivial⟩

/-- A transaction that is allowed is so with its record. -/
theorem transactOnce_performs {request : Request} {key : Option IdempotencyKey}
    {clash : Exception → Bool} {body : Txn store ResponseBody}
    (allowed : ∀ db, body.Yields (fun _ writes => Allowed request writes db) db []) :
    request.Performs (transactOnce key clash body) := fun _ =>
  transactOnce_meets fun next _ => allowed next

end Idempotency

/-! ## PodService -/

namespace PodService

open DeliveriesService (completeDeliveryIfEligible_performs)
open DeliveryStopsService (getStopAndVerifyDriver_performs)

/-- The transaction of a submission writes one proof and delivers its stop. -/
theorem claimPod_yields {request : Request} (able : request.submits = true)
    (stopId deliveryId : Uuid) (dto : SubmitPodDto)
    (actor : DeliveryActor) (db : Db) :
    (claimPod stopId deliveryId dto actor).Yields (fun _ writes => Allowed request writes db)
      db [] := by
  let seen : List Lock → Db → Prop := fun _ db =>
    Prisma.DeliveryStop.matched db stopId [.unloading, .arrived] terminalDeliveryStatuses = true
  have lasting : Txn.Lasting (S := store) (fun _ before after => before = after) seen :=
    ⟨fun matched same => same ▸ matched, fun _ matched => matched⟩
  refine ((claimPod_holds .alone lasting (fun _ _ _ matched => matched) db).yields
    fun _ => rfl).mono fun body writes made => ?_
  obtain ⟨locks, commit, _, _, _, matched⟩ := made
  cases commit with
  | intro event claim absent ofStop author evidence filed eventOf =>
      rw [Allowed, essential_append, essential_append, claim.essential_eq, essential_settled,
        List.append_nil]
      exact .delivered able matched rfl rfl absent ofStop

/-- A submission is that transaction, and evaluates the delivery. -/
theorem submitOnce_performs {request : Request} (submits : request.submits = true)
    (able : request.completes = true)
    (stop : DeliveryStop) (delivery : Delivery)
    (stopId : Uuid) (dto : SubmitPodDto) (actor : DeliveryActor) :
    request.Performs (submitOnce stop delivery stopId dto actor) := by
  refine (Proc.Commits.rejectIf _ _).bind fun _ => (Proc.Commits.rejectIf _ _).bind fun _ =>
    (Idempotency.transactOnce_performs (claimPod_yields submits _ _ _ _)).bind fun reply => ?_
  cases reply with
  | replayed body => exact .pure _
  | fresh body =>
      exact performs_emit.bind fun _ => (completeDeliveryIfEligible_performs able _ _).bind
        fun _ => .pure _

/-- The same with the check that comes first. -/
theorem submitPod_performs {request : Request} (submits : request.submits = true)
    (able : request.completes = true) (stopId : Uuid) (dto : SubmitPodDto)
    (actor : DeliveryActor) : request.Performs (submitPod stopId dto actor) := by
  refine (getStopAndVerifyDriver_performs _ _ _).bind fun found =>
    (Idempotency.stored_performs _ _).bind fun existing => ?_
  cases existing with
  | some body => exact .pure _
  | none =>
      change request.Performs (if found.1.status = .delivered then _ else _)
      split
      · exact performs_select.bind fun _ => .pure _
      · exact submitOnce_performs submits able _ _ _ _ _

end PodService

/-! ## DeliveryConflictsService -/

namespace DeliveryConflictsService

open DeliveryStopsService (departToStop_performs arriveAtStop_performs startUnloading_performs)

/-- Where the reading finds a stop, that stop is in the store under the id that
the event names. -/
theorem readTarget_meets (request : Request) (target : JsValue) (db : Db) :
    (readTarget target).Meets (.atomic Db.Extends (Allowed request))
      (fun result (state : Db) => ∀ stopId stop delivery,
        result = .ok (some (stopId, some (stop, delivery))) →
          target.toUuid = .ok stopId ∧ state.stop? stopId = some stop) db := by
  rw [readTarget]
  split
  · split
    · intro stopId stop delivery impossible
      cases impossible
    · rename_i id named
      refine Proc.Meets.bind (Q := fun result (state : Db) => ∀ stop delivery,
        result = .ok (some (stop, delivery)) → state.stop? id = some stop)
        (Proc.Meets.statement ?_ ?_) ?_ ?_
      · intro next error _
        exact ⟨Allowed.nothing request next, fun _ _ impossible => by cases impossible⟩
      · intro next input value writes _ succeeded
        obtain ⟨_, rfl, found⟩ := Prisma.DeliveryStop.findUnique_succeeds.mp succeeded
        refine ⟨Allowed.nothing request next, fun stop delivery same => ?_⟩
        cases same
        obtain ⟨impossible, _⟩ | ⟨_, _, same, found, _⟩ := found
        · cases impossible
        · cases same
          exact found
      · intro error current _ stopId stop delivery impossible
        cases impossible
      · intro value current found stopId stop delivery same
        cases same
        exact ⟨named, found stop delivery rfl⟩
  · intro stopId stop delivery impossible
    cases impossible

/-- A ticket is opened for the delivery of the stop that its event names. -/
theorem openConflict_meets (dto : OutboxSyncDto) (actorDriverId actorUserId : Uuid)
    {deliveryId stopId : Uuid} {item : OutboxEventItem} {stop : DeliveryStop} {db : Db}
    (target : item.payload.target.toUuid = .ok stopId) (found : db.stop? stopId = some stop)
    (owner : stop.deliveryId = deliveryId) :
    (openConflict deliveryId item).Meets
      (.atomic Db.Extends (Allowed (.syncOutbox dto actorDriverId actorUserId))) (fun _ _ => True) db := by
  refine Proc.Meets.bind (Q := fun _ _ => True) (Proc.Meets.statement ?_ ?_)
    (fun _ _ _ => trivial) fun _ _ _ => trivial
  · exact fun next _ _ => ⟨Allowed.nothing _ next, trivial⟩
  · intro next input row writes extended succeeded
    obtain ⟨_, _, fresh, rfl, rfl⟩ := Prisma.DeliveryConflict.create_succeeds.mp succeeded
    obtain ⟨later, foundNow, same⟩ := extended.stops _ _ found
    exact ⟨.ticketed fresh target foundNow (same.trans owner), trivial⟩

/-- An event of the outbox is allowed as its operation is. -/
theorem dispatch_performs (dto : OutboxSyncDto) (item : OutboxEventItem) (stopId : Option Uuid)
    (actorDriverId actorUserId : Uuid) :
    (Request.syncOutbox dto actorDriverId actorUserId).Performs
      (dispatch item stopId actorDriverId actorUserId) := by
  cases stopId with
  | none => exact .pure _
  | some stopId =>
      rw [dispatch]
      split
      · exact (departToStop_performs rfl _ _ _).bind fun _ => .pure _
      · split
        · exact (arriveAtStop_performs rfl _ _ _).bind fun _ => .pure _
        · split
          · exact (startUnloading_performs rfl _ _ _).bind fun _ => .pure _
          · split
            · exact (PodService.submitPod_performs rfl rfl _ _ _).bind fun _ => .pure _
            · exact .pure _

/-- So is an item. -/
theorem syncItem_performs (dto : OutboxSyncDto) (item : OutboxEventItem)
    (actorDriverId actorUserId : Uuid) :
    (Request.syncOutbox dto actorDriverId actorUserId).Performs
      (syncItem item actorDriverId actorUserId) := by
  intro db
  refine (readTarget_meets _ _ db).bind (fun _ _ _ => trivial) fun target current found => ?_
  have dispatched : (Request.syncOutbox dto actorDriverId actorUserId).Performs (do
      dispatch item (target.map Prod.fst) actorDriverId actorUserId
      return (none : Option SyncConflict)) :=
    (dispatch_performs dto item _ _ _).bind fun _ => .pure _
  split
  · rename_i stop delivery named
    split
    · obtain ⟨⟨id, row⟩, rfl, rfl⟩ := Option.bind_eq_some_iff.mp named
      obtain ⟨toUuid, inStore⟩ := found id stop delivery rfl
      exact (openConflict_meets _ _ _ toUuid inStore rfl).bind (fun _ _ _ => trivial)
        fun _ _ _ => trivial
    · exact dispatched current
  · exact dispatched current

/-- So are the items of a batch. -/
theorem syncItems_performs (dto : OutboxSyncDto) (actorDriverId actorUserId : Uuid)
    (items : List OutboxEventItem) (result : SyncResult) :
    (Request.syncOutbox dto actorDriverId actorUserId).Performs
      (syncItems actorDriverId actorUserId items result) := by
  induction items generalizing result with
  | nil => exact .pure _
  | cons item items inductionHypothesis =>
      refine (Proc.Commits.tryCatch ?_ fun _ => .pure _).bind fun turn => inductionHypothesis turn
      refine (syncItem_performs dto item _ _).bind fun ticket => ?_
      cases ticket with
      | none => exact .pure _
      | some ticket => exact .pure _

/-- And the batch. -/
theorem syncOutbox_performs (dto : OutboxSyncDto) (actorDriverId actorUserId : Uuid) :
    (Request.syncOutbox dto actorDriverId actorUserId).Performs
      (syncOutbox dto actorDriverId actorUserId) :=
  syncItems_performs dto actorDriverId actorUserId dto.events {}

/-- An override accepts the evidence of its payload, if there is any. -/
theorem acceptEvidence_yields {payload : OutboxPayload} {stopId actorUserId : Uuid} {db : Db}
    {written : List Write} (before : ∀ stopId, (db.commit written).pod? stopId = db.pod? stopId)
    {post : Unit → List Write → Prop}
    (holds : ∀ evidence, OverrideEvidence payload stopId db evidence →
      post () (written ++ evidence)) :
    (acceptEvidence payload stopId actorUserId).Yields post db written := by
  rw [acceptEvidence]
  split
  · rename_i named
    intro input answer writes succeeded
    rcases Prisma.ProofOfDelivery.upsert_succeeds succeeded with
      ⟨podData, present, receiver, photo, rfl⟩ |
      ⟨row, absent, ofStop, receiver, photo, unsigned, rfl⟩
    · exact holds _ (.updated named (by rw [← before]; exact present) receiver photo)
    · exact holds _
        (.created named (by rw [← before]; exact absent) ofStop receiver photo unsigned)
  · rename_i unnamed
    exact written.append_nil ▸ holds [] (.none (by simpa using unnamed))

omit [UuidText] in
/-- It delivers the stop, and completes the delivery if that was the last one. -/
theorem deliverStop_yields {deliveryId stopId : Uuid} {db : Db} {written : List Write}
    (stops : (db.commit written).deliveryStops = db.deliveryStops)
    (deliveries : (db.commit written).deliveries = db.deliveries) {post : Unit → List Write → Prop}
    (holds : ∀ stop delivered completion, db.stop? stopId = some stop →
      delivered.status = some .delivered → delivered.sequence = none →
      OverrideCompletion deliveryId ((Write.updateStop stopId delivered).apply db) completion →
      post () (written ++ [.updateStop stopId delivered] ++ completion)) :
    (deliverStop deliveryId stopId).Yields post db written := by
  simp only [deliverStop, Txn.yields_bind, Txn.yields_lift]
  intro input row writes succeeded readInput allStops noWrites read
  obtain ⟨_, ⟨stop, found, _⟩, rfl⟩ := Prisma.DeliveryStop.update_succeeds.mp succeeded
  obtain ⟨_, rfl, rfl⟩ := Prisma.DeliveryStop.findMany_succeeds.mp read
  have foundBefore : db.stop? stopId = some stop := by
    rw [← found, Db.stop?, Db.stop?, Db.applyAll_store, stops]
  have sameStops : ∀ delivered, (db.commit (written ++ [.updateStop stopId delivered])).stopsOf
      deliveryId = ((Write.updateStop stopId delivered).apply db).stopsOf deliveryId := by
    intro delivered
    simp only [Db.commit_append, Db.commit_cons, Db.commit_nil, Db.stopsOf, Write.apply, stops]
  rw [Db.applyAll_store, sameStops]
  split
  · rename_i finished
    simp only [Txn.yields_bind, Txn.yields_lift, Txn.yields_pure]
    intro completeInput delivery made completed
    obtain ⟨_, ⟨old, foundDelivery, _⟩, rfl⟩ := Prisma.Delivery.update_succeeds.mp completed
    have foundDeliveryBefore : db.delivery? deliveryId = some old := by
      rw [← foundDelivery, Db.applyAll_store, List.append_nil, Db.commit_append, Db.delivery?,
        Db.delivery?, ← deliveries]
      rfl
    rw [List.append_nil]
    exact holds stop _ _ foundBefore rfl rfl (.completed foundDeliveryBefore finished)
  · rename_i unfinished
    rw [Bool.not_eq_true] at unfinished
    exact holds stop _ [] foundBefore rfl rfl (.unfinished unfinished)

/-- All that the transaction of a resolution commits. -/
theorem resolve_commits (conflict : DeliveryConflict) (conflictId : IdText)
    (dto : ResolveConflictDto) (actorUserId : Uuid) (db : Db) :
    (resolve conflict conflictId dto actorUserId).Yields
      (fun _ writes => Resolution conflict conflictId dto actorUserId db writes) db [] := by
  simp only [resolve, Txn.yields_bind, Txn.yields_lift]
  intro input row writes succeeded
  obtain ⟨_, ⟨ticket, found, _⟩, rfl⟩ := Prisma.DeliveryConflict.update_succeeds.mp succeeded
  split
  · rename_i overridden
    rw [override]
    split
    · rename_i named
      split
      · exact Txn.yields_fail _ _
      · rename_i stopId target
        rw [Txn.yields_bind, Txn.yields_bind]
        refine acceptEvidence_yields ?_ fun evidence evidenced => ?_
        · exact fun _ => rfl
        refine deliverStop_yields (by cases evidenced <;> rfl) (by cases evidenced <;> rfl)
          fun stop delivered completion stopFound outcome order completes => ?_
        intro auditInput done auditWrites audited
        obtain ⟨_, rfl⟩ := Prisma.AuditLog.create_succeeds.mp audited
        have made := Override.overridden overridden named target stopFound evidenced outcome order
          completes
        change Resolution conflict conflictId dto actorUserId db _
        simpa [resolutionLog] using Resolution.intro found rfl made
    · rename_i unnamed
      intro auditInput done auditWrites audited
      obtain ⟨_, rfl⟩ := Prisma.AuditLog.create_succeeds.mp audited
      exact .intro found rfl (.plain fun _ => Bool.eq_false_iff.mpr unnamed)
  · rename_i notOverridden
    intro auditInput done auditWrites audited
    obtain ⟨_, rfl⟩ := Prisma.AuditLog.create_succeeds.mp audited
    exact .intro found rfl (.plain fun overridden => absurd overridden notOverridden)

/-- What a resolution commits is an effect, if the ticket still says what it said
when it was read. -/
theorem allowed_of_resolution {conflict current : DeliveryConflict} {conflictId : IdText}
    {dto : ResolveConflictDto} {actorUserId : Uuid} {actorRole : Role} {db : Db}
    {writes : List Write} (resolution : Resolution conflict conflictId dto actorUserId db writes)
    (found : db.conflict? conflictId = some current)
    (sameDelivery : current.deliveryId = conflict.deliveryId)
    (samePayload : current.clientPayload = conflict.clientPayload) :
    Allowed (.resolveConflict conflictId dto actorUserId actorRole) writes db := by
  obtain ⟨_, _, changed⟩ := resolution
  cases changed with
  | plain plain =>
      rw [← samePayload] at plain
      exact Effect.resolved found plain
  | overridden status named target stopFound evidenced outcome order completes =>
      rw [Allowed]
      simp only [List.append_assoc, List.cons_append, essential_append, essential_cons,
        essential_nil, Write.ancillary, evidenced.essential_eq, completes.essential_eq, if_true,
        Bool.false_eq_true, if_false, List.append_nil]
      rw [← samePayload] at evidenced named target
      rw [← sameDelivery] at completes
      simpa using Effect.overridden status found named target stopFound evidenced outcome order
        completes

/-- A resolution closes the ticket, and an override does so together with the rest. -/
theorem resolveConflict_performs (conflictId : IdText) (dto : ResolveConflictDto)
    (actorUserId : Uuid) (actorRole : Role) :
    (Request.resolveConflict conflictId dto actorUserId actorRole).Performs
      (resolveConflict conflictId dto actorUserId actorRole) := by
  intro db
  refine .rejectIf (fun _ => trivial) fun _ => ?_
  -- what the reading finds is what the ticket still says when the transaction runs
  refine .bind (Q := fun result (current : Db) => ∀ conflict, result = .ok (some conflict) →
    current.conflict? conflictId = some conflict) (.statement ?_ ?_)
    (fun _ _ _ => trivial) fun row current read => ?_
  · exact fun next error _ => ⟨Allowed.nothing _ next, fun _ impossible => by cases impossible⟩
  · intro next input row writes _ succeeded
    obtain ⟨_, found, rfl⟩ := Prisma.DeliveryConflict.findUnique_succeeds.mp succeeded
    refine ⟨Allowed.nothing _ next, fun conflict same => ?_⟩
    cases same
    exact found
  · refine .require (fun _ => trivial) fun conflict same =>
      .rejectIf (fun _ => trivial) fun _ => .transaction ?_ fun next extended => ?_
    · exact fun next _ _ => ⟨Allowed.nothing _ next, trivial⟩
    · subst same
      obtain ⟨later, found, sameDelivery, samePayload⟩ :=
        extended.conflicts _ _ (read conflict rfl)
      exact (resolve_commits conflict conflictId dto actorUserId next).mono
        fun _ _ resolution =>
          ⟨allowed_of_resolution resolution found sameDelivery samePayload, trivial⟩

end DeliveryConflictsService

/-! ## RoutesDomainService -/

namespace RoutesDomainService

/-- Stops that belong to a delivery. -/
def Owned (deliveryId : Uuid) (stopIds : List Uuid) (db : Db) : Prop :=
  ∀ id ∈ stopIds, ∃ stop, db.stop? id = some stop ∧ stop.deliveryId = deliveryId

omit [UuidText] in
/-- What is owned in a store is owned in every later one. -/
theorem Owned.extends {deliveryId : Uuid} {stopIds : List Uuid} {before after : Db}
    (owned : Owned deliveryId stopIds before) (extended : before.Extends after) :
    Owned deliveryId stopIds after := by
  intro id member
  obtain ⟨stop, found, owner⟩ := owned id member
  obtain ⟨later, foundLater, same⟩ := extended.stops id stop found
  exact ⟨later, foundLater, same.trans owner⟩

/-- The check finds the delivery and its stops, which it keeps from then on. -/
theorem verifyDeliveryAccess_meets (request : Request) (deliveryId : IdText) (actor : RouteActor)
    (db : Db) :
    (verifyDeliveryAccess deliveryId actor).Meets (.atomic Db.Extends (Allowed request))
      (OnResult (fun found state => Owned deliveryId (found.2.map DeliveryStop.id) state)
        fun _ _ => True) db := by
  refine .bind (Q := fun result (state : Db) => ∀ delivery stops,
    result = .ok (some (delivery, stops)) → Owned deliveryId (stops.map DeliveryStop.id) state)
    (.statement ?_ ?_) (fun _ _ _ => trivial) fun found current read => ?_
  · exact fun next error _ => ⟨Allowed.nothing _ next, fun _ _ impossible => by cases impossible⟩
  · intro next input value writes _ succeeded
    obtain ⟨_, found, rfl⟩ := Prisma.Delivery.findWithStops_succeeds.mp succeeded
    refine ⟨Allowed.nothing _ next, fun delivery stops same id member => ?_⟩
    cases same
    obtain ⟨row, _, rowEq⟩ := Option.map_eq_some_iff.mp found
    cases rowEq
    obtain ⟨stop, sorted, rfl⟩ := List.mem_map.mp member
    obtain ⟨inStore, owner⟩ := Db.mem_stopsOf.mp ((List.mem_insertionSort _).mp sorted)
    exact ⟨stop, inStore, owner⟩
  · refine .require (fun _ => trivial) fun delivery same => .rejectIf (fun _ => trivial) fun _ =>
      .rejectIf (fun _ => trivial) fun _ => ?_
    exact read delivery.1 delivery.2 (by rw [same])

/-- A selection records one version, with the stops in the order given. -/
theorem claimSelection_yields (deliveryId : IdText) (dto : SelectRouteDto) (actor : RouteActor)
    (db : Db) :
    (claimSelection deliveryId dto actor).Yields
      (fun _ writes => Allowed (.selectRoute deliveryId dto actor) writes db) db [] := by
  refine ((claimSelection_holds .alone deliveryId dto actor db).yields
    fun _ => rfl).mono fun body writes made => ?_
  obtain ⟨locks, commit, _⟩ := made
  cases commit with
  | intro mode status claim ofDelivery next fresh reported =>
      simp only [Allowed, essential_append, claim.essential_eq, essential_settled, List.map_nil,
        List.append_nil, List.nil_append]
      exact .selected ofDelivery fresh

/-- A reordering renumbers the delivery's own stops and records one version. -/
theorem claimReorder_yields (deliveryId : IdText) (dto : ManualReorderDto) (actor : RouteActor)
    {db : Db} (owned : Owned deliveryId (dto.stopSequence.map (·.deliveryStopId)) db) :
    (claimReorder deliveryId dto actor).Yields
      (fun _ writes => Allowed (.reorderStops deliveryId dto actor) writes db) db [] := by
  refine ((claimReorder_holds .alone deliveryId dto actor db).yields
    fun _ => rfl).mono fun body writes made => ?_
  obtain ⟨locks, commit, _⟩ := made
  cases commit with
  | intro mode status claim ofDelivery next fresh reported =>
      have core : ∀ moves : List (Uuid × Int),
          essential (moves.map .resequence) = moves.map .resequence := essential_map fun _ => rfl
      simp only [Allowed, essential_append, claim.essential_eq, essential_settled, core,
        List.nil_append, List.append_nil]
      refine .reordered ofDelivery fresh fun item member => ?_
      -- both passes move the submitted stops
      rcases List.mem_append.mp member with first | second
      · obtain ⟨submitted, inDto, rfl⟩ := List.mem_map.mp first
        exact owned _ (List.mem_map_of_mem inDto)
      · obtain ⟨submitted, inDto, rfl⟩ := List.mem_map.mp second
        exact owned _ (List.mem_map_of_mem inDto)

/-- The submitted stops are known to be the delivery's. -/
theorem requireKnownStops_meets (request : Request) (deliveryId : IdText)
    (deliveryStopIds submitted : List Uuid) (db : Db) :
    (requireKnownStops deliveryId deliveryStopIds submitted).Meets (.atomic Db.Extends (Allowed request))
      (fun result state => state = db ∧ (result = .ok () → ∀ id ∈ submitted,
        id ∈ deliveryStopIds)) db := by
  rw [requireKnownStops]
  split
  · exact ⟨rfl, fun impossible => by cases impossible⟩
  · rename_i known
    exact ⟨rfl, fun _ id member => by simpa using List.find?_eq_none.mp known id member⟩

/-- The common frame of the two route mutations. -/
theorem mutateRoute_performs {request : Request} {deliveryId : IdText} {actor : RouteActor}
    {key : Option IdempotencyKey} {submittedStopIds : List Uuid}
    {submittedSequences : Option (List Int)} {work : Txn store ResponseBody}
    (allowed : ∀ db, Owned deliveryId submittedStopIds db →
      work.Yields (fun _ writes => Allowed request writes db) db []) :
    request.Performs
      (mutateRoute deliveryId actor key submittedStopIds submittedSequences work) := by
  intro db
  refine (verifyDeliveryAccess_meets request deliveryId actor db).bind (fun _ _ _ => trivial)
    fun found current owned => .rejectIf (fun _ => trivial) fun _ => ?_
  have limited : request.Performs (enforceRouteRateLimit deliveryId) :=
    performs_rateLimit.bind fun _ => .rejectIf _ _
  refine (limited.remember current).bind (fun _ _ _ => trivial) fun _ afterLimit limit => ?_
  refine ((Idempotency.stored_performs request key).remember afterLimit).bind
    (fun _ _ _ => trivial) fun existing afterRead read => ?_
  cases existing with
  | some body => trivial
  | none =>
      refine (requireKnownStops_meets request _ _ _ afterRead).bind (fun _ _ _ => trivial)
        fun _ afterKnown known => ?_
      obtain ⟨rfl, known⟩ := known
      have submittedOwned : Owned deliveryId submittedStopIds afterKnown := fun id member =>
        owned.extends (limit.trans read) id (known rfl id member)
      have validated : request.Performs (validateCompleteStopSet
          (found.2.map DeliveryStop.id) submittedStopIds submittedSequences) :=
        (Proc.Commits.rejectIf _ _).bind fun _ => .rejectIf _ _
      refine (validated.remember afterKnown).bind (fun _ _ _ => trivial) fun _ current valid => ?_
      refine (Idempotency.transactOnce_meets fun next extended =>
        allowed next (submittedOwned.extends (valid.trans extended))).bind
        (fun _ _ _ => trivial) fun reply current _ => ?_
      cases reply with
      | replayed body => trivial
      | fresh routeResult =>
          have emitted : request.Performs (broadcastRouteUpdated deliveryId routeResult actor) := by
            cases routeResult <;> first | exact performs_emit | exact .pure _
          exact (emitted current).bind (fun _ _ _ => trivial) fun _ _ _ => trivial

/-- Selecting a route is allowed. -/
theorem selectRoute_performs (deliveryId : IdText) (dto : SelectRouteDto) (actor : RouteActor) :
    (Request.selectRoute deliveryId dto actor).Performs (selectRoute deliveryId dto actor) :=
  mutateRoute_performs fun db _ => claimSelection_yields deliveryId dto actor db

/-- Reordering the stops is allowed. -/
theorem reorderStops_performs (deliveryId : IdText) (dto : ManualReorderDto) (actor : RouteActor) :
    (Request.reorderStops deliveryId dto actor).Performs (reorderStops deliveryId dto actor) :=
  mutateRoute_performs fun _ owned => claimReorder_yields deliveryId dto actor owned

end RoutesDomainService

/-! ## MessagesService -/

namespace MessagesService

/-- Saving the record of a message is ancillary. -/
theorem saveRecord_performs (request : Request) (key : Option IdempotencyKey)
    (message : Message) : request.Performs (saveRecord key message) := by
  cases key with
  | none => exact .pure _
  | some key =>
      refine Proc.Commits.tryCatch ?_ fun _ => .pure _
      refine performs_of_ancillary fun input db value writes succeeded => ?_
      rw [(Prisma.IdempotencyRecord.create_succeeds.mp succeeded).2.2]
      rfl

/-- Sending a message is allowed. -/
theorem sendMessage_performs (request : Request) (conversationId : Uuid) (dto : SendMessageDto)
    (actor : UserActor) (channel : MessageChannel) :
    request.Performs (sendMessage conversationId dto actor channel) := by
  refine (performs_select.bind fun _ => (Proc.Commits.require _ _).bind fun _ =>
    (Proc.Commits.rejectIf _ _).bind fun _ => .pure _).bind fun _ =>
    (Proc.Commits.require _ _).bind fun _ => performs_select.bind fun _ =>
    (Proc.Commits.rejectIf _ _).bind fun _ => performs_select.bind fun _ =>
    (Proc.Commits.rejectIf _ _).bind fun _ =>
    (performs_rateLimit.bind fun _ => .rejectIf _ _).bind fun _ =>
    (Idempotency.stored_performs _ _).bind fun existing => ?_
  cases existing with
  | some body => exact .pure _
  | none =>
      refine .bind ?_ fun message => (saveRecord_performs _ _ _).bind fun _ => .pure _
      refine performs_of_ancillary fun input db value writes succeeded => ?_
      obtain ⟨_, _, _, rfl⟩ := Prisma.Message.create_succeeds succeeded
      rfl

end MessagesService

/-! ## Requests -/

/-- Every request commits only its effects. -/
theorem Request.proc_performs (request : Request) : request.Performs request.proc := by
  cases request with
  | createDelivery dto user => exact (DeliveriesService.createDelivery_performs dto user).map _
  | assignDelivery id dto actor =>
      exact (DeliveriesService.assignDelivery_performs id dto actor).map _
  | acceptDelivery id driver user =>
      exact (DeliveriesService.acceptDelivery_performs id driver user).map _
  | startDelivery id driver user =>
      exact (DeliveriesService.startDelivery_performs id driver user).map _
  | completeDelivery id actor =>
      exact (DeliveriesService.completeDelivery_performs id actor).map _
  | cancelDelivery id dto actor =>
      exact (DeliveriesService.cancelDelivery_performs id dto actor).map _
  | departToStop id driver user =>
      exact (DeliveryStopsService.departToStop_performs rfl id driver user).map _
  | arriveAtStop id driver user =>
      exact (DeliveryStopsService.arriveAtStop_performs rfl id driver user).map _
  | startUnloading id driver user =>
      exact (DeliveryStopsService.startUnloading_performs rfl id driver user).map _
  | failStop id dto driver user =>
      exact (DeliveryStopsService.failStop_performs id dto driver user).map _
  | skipStop id dto actor => exact (DeliveryStopsService.skipStop_performs id dto actor).map _
  | submitPod id dto actor => exact (PodService.submitPod_performs rfl rfl id dto actor).map _
  | syncOutbox dto driver user =>
      exact (DeliveryConflictsService.syncOutbox_performs dto driver user).map _
  | resolveConflict id dto user role =>
      exact (DeliveryConflictsService.resolveConflict_performs id dto user role).map _
  | selectRoute id dto actor =>
      exact (RoutesDomainService.selectRoute_performs id dto actor).map _
  | reorderStops id dto actor =>
      exact (RoutesDomainService.reorderStops_performs id dto actor).map _
  | sendMessage id dto actor channel =>
      exact (MessagesService.sendMessage_performs _ id dto actor channel).map _

/-- The contract under which requests run: each commits its own effects. -/
def Request.contract (requests : List Request) : Pool.Contract store Response where
  inv _ := True
  rely := Db.Extends
  guar thread writes db := ∃ request, requests[thread]? = some request ∧ Allowed request writes db
  post _ _ _ := True
  relyRefl db _ := .refl db
  relyTrans := Db.Extends.trans
  compatible _ writes db _ _ := ⟨trivial, db.extends_commit writes⟩

/-- In every run of any requests, every commit is an effect of the request that
made it. -/
theorem Request.effect_of_steps {db : Db} {requests : List Request}
    {trace : List (Commit store)} {final : Pool store Response}
    (steps : (Request.pool db requests).Steps trace final) :
    ∀ commit ∈ trace, ∃ request, requests[commit.thread]? = some request ∧
      Effect request (essential commit.writes) commit.before := by
  have initially : (Request.contract requests).inv (Request.pool db requests).state := trivial
  refine fun commit member => ((steps.sound initially ?_).2.2 commit member).2
  intro thread process found
  simp only [Request.pool, List.getElem?_map, Option.map_eq_some_iff] at found
  obtain ⟨request, atThread, rfl⟩ := found
  exact (request.proc_performs db).mono (fun _ _ extended => extended)
    (fun writes state allowed => ⟨request, atThread, allowed⟩) fun _ _ _ => trivial

/-- The essential effects of a request keep a predicate of the tables they act on
in every state of a run. -/
theorem Request.invariant_of_steps {db : Db} {requests : List Request}
    {trace : List (Commit store)} {final : Pool store Response}
    (steps : (Request.pool db requests).Steps trace final) (holds : Db → Prop)
    (initially : holds db) (congr : ∀ {left right : Db}, left.Agree right → holds left → holds right)
    (kept : ∀ request core db, Effect request core db → holds db → holds (db.commit core)) :
    holds final.state ∧ ∀ commit ∈ trace, holds commit.before := by
  refine steps.invariant holds initially fun commit member before => ?_
  obtain ⟨request, _, effect⟩ := Request.effect_of_steps steps commit member
  exact congr (Db.commit_essential commit.before commit.writes) (kept request _ _ effect before)

end Armada
