import Armada.Calls
import Armada.Requests
import Armada.Concurrency.Footprint

/-!
# What requests write

Most services write rows that nothing below depends on. The others create deliveries and
proofs of delivery, hand a delivery to a driver, replace the evidence of a proof or store
messages; the lemmas say which of these each service does, and for whom.
-/

namespace Armada

open Relational Concurrency

/-- A write that creates no delivery, assigns none, leaves the proofs of delivery and stores
no message. -/
def Write.plain : Write → Bool
  | .createDelivery _ | .createPod _ | .updatePod _ _ | .createMessage _ => false
  | .updateDelivery _ data => data.driverId.isNone
  | _ => true

/-- Kinds of writes that include the plain ones. -/
class Permissive (kind : Write → Prop) : Prop where
  plain : ∀ write : Write, write.plain = true → kind write

variable {kind : Write → Prop}

/-! ## The calls -/

section Calls

variable {β : Type}

/-- A look makes no writes. -/
theorem confined_select {body : Db → Except PrismaError β} : (select body).Confined kind := by
  intro input db value writes executed
  rw [(select_succeeds.mp executed).2.2]
  exact List.forall_mem_nil _

/-- A call that makes one write at most. -/
theorem confined_of_single {statement : Statement store β}
    (single : ∀ input db value writes, statement.Succeeds input db value writes →
      writes = [] ∨ ∃ write, writes = [write] ∧ kind write) :
    statement.Confined kind := by
  intro input db value writes executed
  rcases single input db value writes executed with rfl | ⟨write, rfl, allowed⟩
  · exact List.forall_mem_nil _
  · exact List.forall_mem_singleton.mpr allowed

variable [Permissive kind]

/-- A call that makes one plain write at most is confined to every permissive kind. -/
theorem confined_of_plain {statement : Statement store β}
    (single : ∀ input db value writes, statement.Succeeds input db value writes →
      writes = [] ∨ ∃ write : Write, writes = [write] ∧ write.plain = true) :
    statement.Confined kind := by
  refine confined_of_single fun input db value writes executed => ?_
  refine (single input db value writes executed).imp_right ?_
  rintro ⟨write, only, plain⟩
  exact ⟨write, only, Permissive.plain write plain⟩

open Prisma

/-- An audit row is plain. -/
theorem confined_createAuditLog (row : AuditLog) : (AuditLog.create row).Confined kind :=
  confined_of_plain fun _ _ _ _ executed =>
    .inr ⟨_, (AuditLog.create_succeeds.mp executed).2, rfl⟩

/-- Emissions are plain. -/
theorem confined_emit (rooms : List Room) (payload : RealtimePayload) (actor : RealtimeActor) :
    (RealtimeGateway.emit rooms payload actor).Confined kind := by
  intro input db value writes executed write member
  rw [RealtimeGateway.emit_succeeds.mp executed] at member
  obtain ⟨room, _, rfl⟩ := List.mem_map.mp member
  exact Permissive.plain _ rfl

/-- An update that leaves the driver. -/
theorem confined_updateDelivery (id : Uuid) {data : Input → DeliveryData}
    (unassigning : ∀ input, (data input).driverId = none) : (Delivery.update id data).Confined kind :=
  confined_of_plain fun _ _ _ _ executed =>
    .inr ⟨_, (Delivery.update_succeeds.mp executed).2.2, by rw [Write.plain, unassigning]; rfl⟩

/-- An update by status that assigns no driver is plain. -/
theorem confined_updateManyDelivery (id : Uuid) (status : DeliveryStatus → Bool)
    {data : Input → DeliveryData} (unassigning : ∀ input, (data input).driverId = none) :
    (Delivery.updateMany id status data).Confined kind := by
  refine confined_of_plain fun _ _ _ _ executed => ?_
  obtain ⟨_, ⟨_, _, _, _, made⟩ | ⟨_, _, none⟩⟩ := Delivery.updateMany_succeeds.mp executed
  · exact .inr ⟨_, made, by rw [Write.plain, unassigning]; rfl⟩
  · exact .inl none

/-- An event is plain. -/
theorem confined_createEvent (deliveryId : Uuid) (stopId : Option Uuid) (eventType : String)
    (actorUserId : Uuid) (metadataJson : EventMetadata) :
    (DeliveryEvent.create deliveryId stopId eventType actorUserId metadataJson).Confined kind :=
  confined_of_plain fun _ _ _ _ executed =>
    .inr ⟨_, (DeliveryEvent.create_succeeds.mp executed).2, rfl⟩

/-- A record is plain. -/
theorem confined_createRecord (key : IdempotencyKey) (responseStatus : Nat)
    (responseBody : ResponseBody) :
    (IdempotencyRecord.create key responseStatus responseBody).Confined kind :=
  confined_of_plain fun _ _ _ _ executed =>
    .inr ⟨_, (IdempotencyRecord.create_succeeds.mp executed).2.2, rfl⟩

/-- A count makes no writes. -/
theorem confined_incrRateLimit (key : String) (windowSeconds : Nat) :
    (RedisService.incrRateLimit key windowSeconds).Confined kind :=
  confined_of_plain fun _ _ _ _ executed =>
    .inl (RedisService.incrRateLimit_succeeds.mp executed).2

end Calls

/-! ## The services -/

open Proc.Confined (statement rejectIf require pure)

variable [Permissive kind]

namespace DeliveriesService

omit [Permissive kind] in
/-- Reading a delivery makes no writes. -/
theorem getDeliveryById_confined (id : IdText) (actor : DeliveryActor) :
    (getDeliveryById id actor).Confined kind :=
  (statement confined_select).bind fun _ => (require _ _).bind fun _ => (rejectIf _ _).bind fun _ =>
    (rejectIf _ _).bind fun _ => pure _

/-- Stops are created by plain writes. -/
theorem createStops_confined (deliveryId : Uuid) (dtos : List CreateDeliveryStopDto) :
    (createStops deliveryId dtos).Confined kind := by
  induction dtos with
  | nil => exact .pure _
  | cons stop stops inductionHypothesis =>
      refine .bind (.statement (confined_of_plain fun _ _ _ _ executed => ?_)) fun _ =>
        inductionHypothesis
      exact .inr ⟨_, (Prisma.DeliveryStop.create_succeeds.mp executed).2.2.2, rfl⟩

/-- Creating a delivery makes one write that is not plain. -/
theorem createDelivery_confined (dto : CreateDeliveryDto) (creatorUserId : Uuid)
    (creates : ∀ row, kind (.createDelivery row)) :
    (createDelivery dto creatorUserId).Confined kind := by
  refine (statement confined_select).bind fun _ => (rejectIf _ _).bind fun _ => .transact ?_
  refine .bind (.statement (confined_of_single fun _ _ _ _ executed => ?_)) fun delivery =>
    .bind (.statement (confined_of_plain fun _ _ _ _ executed => ?_)) fun _ =>
    (createStops_confined _ _).bind fun _ =>
    .bind (.statement (confined_createAuditLog _)) fun _ => .pure _
  · exact .inr ⟨_, (Prisma.Delivery.create_succeeds.mp executed).2.2.2.2, creates _⟩
  · exact .inr ⟨_, (Prisma.DeliveryItem.createMany_succeeds.mp executed).2, rfl⟩

/-- An assignment makes one too. -/
theorem assignDelivery_confined (deliveryId : IdText) (dto : AssignDeliveryDto) (actor : DeliveryActor)
    (assigns : ∀ data, kind (.updateDelivery deliveryId data)) :
    (assignDelivery deliveryId dto actor).Confined kind :=
  (getDeliveryById_confined deliveryId actor).bind fun _ => (rejectIf _ _).bind fun _ =>
    (statement confined_select).bind fun _ => (rejectIf _ _).bind fun _ =>
    (statement confined_select).bind fun _ => (rejectIf _ _).bind fun _ =>
    (statement (confined_of_single fun _ _ _ _ executed =>
      .inr ⟨_, (Prisma.Delivery.update_succeeds.mp executed).2.2, assigns _⟩)).bind fun _ =>
    (statement (confined_createAuditLog _)).bind fun _ =>
    (statement (confined_emit _ _ _)).bind fun _ => pure _

omit [Permissive kind] in
/-- The check of the driver makes none. -/
theorem requireOwn_confined (deliveryId : IdText) (actorDriverId : Uuid) (verb : String)
    (expected : DeliveryStatus) : (requireOwn deliveryId actorDriverId verb expected).Confined kind :=
  (statement confined_select).bind fun _ => (require _ _).bind fun _ => (rejectIf _ _).bind fun _ =>
    rejectIf _ _

/-- A move that assigns no driver is plain. -/
theorem moveOwn_confined (deliveryId : IdText) (actorDriverId actorUserId : Uuid) (status : DeliveryStatus)
    {data : Input → DeliveryData} (action : String)
    (unassigning : ∀ input, (data input).driverId = none) :
    (moveOwn deliveryId actorDriverId actorUserId status data action).Confined kind :=
  (statement (confined_updateDelivery _ unassigning)).bind fun _ =>
    (statement (confined_createAuditLog _)).bind fun _ =>
    (statement (confined_emit _ _ _)).bind fun _ => pure _

/-- The transaction of a completion is plain. -/
theorem claimCompletion_confined (deliveryId : IdText) (actor : DeliveryActor) :
    (claimCompletion deliveryId actor).Confined kind :=
  .bind (.bind (.statement confined_select) fun _ => .pure _) fun _ =>
    .bind (.rejectIf _ _) fun _ =>
    .bind (.statement (confined_updateManyDelivery _ _ fun _ => rfl)) fun _ =>
    .bind (.rejectIf _ _) fun _ => .bind (.statement confined_select) fun _ =>
    .bind (.statement (confined_createAuditLog _)) fun _ => .pure _

/-- So is completing. -/
theorem completeDelivery_confined (deliveryId : IdText) (actor : DeliveryActor) :
    (completeDelivery deliveryId actor).Confined kind := by
  refine (getDeliveryById_confined deliveryId actor).bind fun delivery => .ite (pure _) ?_
  exact (rejectIf _ _).bind fun _ =>
    (Proc.Confined.transact (claimCompletion_confined _ _)).bind fun _ =>
    (require _ _).bind fun _ => (statement (confined_emit _ _ _)).bind fun _ => pure _

/-- The transaction of a cancellation is plain. -/
theorem claimCancellation_confined (deliveryId : IdText) (dto : CancelDeliveryDto)
    (actor : DeliveryActor) : (claimCancellation deliveryId dto actor).Confined kind :=
  .bind (.statement (confined_updateManyDelivery _ _ fun _ => rfl)) fun _ => .bind (.rejectIf _ _) fun _ =>
    .bind (.statement confined_select) fun _ =>
    .bind (.statement (confined_createAuditLog _)) fun _ => .pure _

/-- So is cancelling. -/
theorem cancelDelivery_confined (deliveryId : IdText) (dto : CancelDeliveryDto) (actor : DeliveryActor) :
    (cancelDelivery deliveryId dto actor).Confined kind :=
  (getDeliveryById_confined deliveryId actor).bind fun _ =>
    (Proc.Confined.transact (claimCancellation_confined _ _ _)).bind fun _ =>
    (statement (confined_emit _ _ _)).bind fun _ => pure _

/-- So is the evaluation of a delivery. -/
theorem claimIfEligible_confined (deliveryId : Uuid) : (claimIfEligible deliveryId).Confined kind := by
  refine .bind (.bind (.statement confined_select) fun _ => .pure _) fun evaluation => ?_
  cases evaluation.targetStatus with
  | none => exact .pure _
  | some target =>
      dsimp only
      split
      · refine .bind (.statement (confined_updateManyDelivery _ _ fun _ => rfl)) fun claimed => ?_
        split
        · exact .pure _
        · exact .statement confined_select
      · exact .pure _

/-- With its broadcast too. -/
theorem completeDeliveryIfEligible_confined (deliveryId : Uuid) (actor : DeliveryActor) :
    (completeDeliveryIfEligible deliveryId actor).Confined kind := by
  refine .tryCatch (.bind (.transact (claimIfEligible_confined deliveryId)) fun updated => ?_)
    fun _ => pure _
  cases updated with
  | none => exact pure _
  | some row => exact statement (confined_emit _ _ _)

end DeliveriesService

namespace DeliveryStopsService

omit [Permissive kind] in
/-- Finding a stop makes no writes. -/
theorem getStopAndVerifyDriver_confined (stopId : Uuid) (actorDriverId : Option Uuid) :
    (getStopAndVerifyDriver stopId actorDriverId).Confined kind :=
  (statement confined_select).bind fun _ => (require _ _).bind fun _ => (rejectIf _ _).bind fun _ =>
    pure _

/-- An update of a stop by status is plain. -/
theorem confined_updateManyStop (id : Uuid) (expected : List StopStatus)
    (excluded : List DeliveryStatus) (data : Input → StopData) :
    (Prisma.DeliveryStop.updateMany id expected excluded data).Confined kind := by
  refine confined_of_plain fun _ _ _ _ executed => ?_
  obtain ⟨_, ⟨_, _, made⟩ | ⟨_, _, none⟩⟩ := Prisma.DeliveryStop.updateMany_succeeds.mp executed
  · exact .inr ⟨_, made, rfl⟩
  · exact .inl none

/-- So it is with the checks around it. -/
theorem updateStopIfOperational_confined (stopId : Uuid) (expectedStatus : List StopStatus)
    (data : Input → StopData) : (updateStopIfOperational stopId expectedStatus data).Confined kind := by
  refine (statement (confined_updateManyStop _ _ _ _)).bind fun count => .ite ?_ ?_
  · refine (statement confined_select).bind fun current => ?_
    cases current with
    | none => exact (pure _).bind fun _ => .throw _
    | some found => exact (rejectIf _ _).bind fun _ => .throw _
  · exact statement confined_select

/-- And with its broadcast. -/
theorem step_confined (deliveryId stopId : Uuid) (expectedStatus : List StopStatus)
    (data : Input → StopData) (status : StopStatus) (actor : DeliveryActor) :
    (do
      let updated ← updateStopIfOperational stopId expectedStatus data
      broadcastStopStatusChanged deliveryId stopId status actor
      return updated).Confined kind :=
  (updateStopIfOperational_confined _ _ _).bind fun _ => (statement (confined_emit _ _ _)).bind fun _ =>
    pure _

/-- A departure is plain. -/
theorem departToStop_confined (stopId actorDriverId actorUserId : Uuid) :
    (departToStop stopId actorDriverId actorUserId).Confined kind :=
  (getStopAndVerifyDriver_confined _ _).bind fun _ => (rejectIf _ _).bind fun _ =>
    (rejectIf _ _).bind fun _ => step_confined _ _ _ _ _ _

/-- An arrival is plain. -/
theorem arriveAtStop_confined (stopId actorDriverId actorUserId : Uuid) :
    (arriveAtStop stopId actorDriverId actorUserId).Confined kind :=
  (getStopAndVerifyDriver_confined _ _).bind fun _ => (rejectIf _ _).bind fun _ =>
    (rejectIf _ _).bind fun _ => step_confined _ _ _ _ _ _

/-- The start of an unloading is plain. -/
theorem startUnloading_confined (stopId actorDriverId actorUserId : Uuid) :
    (startUnloading stopId actorDriverId actorUserId).Confined kind :=
  (getStopAndVerifyDriver_confined _ _).bind fun _ => (rejectIf _ _).bind fun _ =>
    (rejectIf _ _).bind fun _ => step_confined _ _ _ _ _ _

/-- Failing a stop is plain. -/
theorem failStop_confined (stopId : Uuid) (dto : StopReasonDto) (actorDriverId actorUserId : Uuid) :
    (failStop stopId dto actorDriverId actorUserId).Confined kind :=
  (getStopAndVerifyDriver_confined _ _).bind fun _ => (rejectIf _ _).bind fun _ =>
    (rejectIf _ _).bind fun _ => (updateStopIfOperational_confined _ _ _).bind fun _ =>
    (statement (confined_createEvent _ _ _ _ _)).bind fun _ =>
    (statement (confined_emit _ _ _)).bind fun _ =>
    (DeliveriesService.completeDeliveryIfEligible_confined _ _).bind fun _ => pure _

/-- Skipping a stop is plain. -/
theorem skipStop_confined (stopId : Uuid) (dto : StopReasonDto) (actor : DeliveryActor) :
    (skipStop stopId dto actor).Confined kind :=
  (getStopAndVerifyDriver_confined _ _).bind fun _ => (rejectIf _ _).bind fun _ =>
    (rejectIf _ _).bind fun _ => (rejectIf _ _).bind fun _ =>
    (updateStopIfOperational_confined _ _ _).bind fun _ =>
    (statement (confined_createEvent _ _ _ _ _)).bind fun _ =>
    (statement (confined_emit _ _ _)).bind fun _ =>
    (DeliveriesService.completeDeliveryIfEligible_confined _ _).bind fun _ => pure _

end DeliveryStopsService

namespace Idempotency

omit [Permissive kind] in
/-- Looking up a record makes no writes. -/
theorem stored_confined (key : Option IdempotencyKey) : (stored key).Confined kind := by
  cases key with
  | none => exact pure _
  | some key => exact (statement confined_select).bind fun _ => pure _

/-- Claiming a key is plain. -/
theorem claim_confined (key : Option IdempotencyKey) : (claim key).Confined kind := by
  cases key with
  | none => exact .pure _
  | some key => exact .statement (confined_createRecord _ _ _)

/-- Settling a key is plain. -/
theorem settle_confined (key : Option IdempotencyKey) (responseStatus : Nat)
    (responseBody : ResponseBody) : (settle key responseStatus responseBody).Confined kind := by
  cases key with
  | none => exact .pure _
  | some key =>
      refine .statement (confined_of_plain fun _ _ _ _ executed => ?_)
      exact .inr ⟨_, (Prisma.IdempotencyRecord.update_succeeds.mp executed).2.2, rfl⟩

omit [Permissive kind] in
/-- A transaction is as plain with its record as without. -/
theorem transactOnce_confined {key : Option IdempotencyKey} {clash : Exception → Bool}
    {body : Txn store ResponseBody} (silent : body.Confined kind) :
    (transactOnce key clash body).Confined kind := by
  refine .tryCatch (.map _ (.transact silent)) fun error => ?_
  cases key with
  | none => exact .throw _
  | some key =>
      refine .ite ((statement confined_select).bind fun record => ?_) (.throw _)
      cases record with
      | none => exact .throw _
      | some record => exact pure _

end Idempotency

variable [UuidText]

namespace PodService

/-- The transaction of a submission makes one write that is not plain: the proof, by its actor. -/
theorem claimPod_confined (stopId deliveryId : Uuid) (dto : SubmitPodDto) (actor : DeliveryActor)
    (creates : ∀ row : ProofOfDelivery, row.createdBy = actor.userId → kind (.createPod row)) :
    (claimPod stopId deliveryId dto actor).Confined kind := by
  refine (Idempotency.claim_confined _).bind fun _ =>
    .bind (.statement (DeliveryStopsService.confined_updateManyStop _ _ _ _)) fun _ =>
    .bind (.rejectIf _ _) fun _ =>
    .bind (.statement (confined_of_single fun _ _ _ _ executed => ?_)) fun _ =>
    .bind (.statement (confined_createEvent _ _ _ _ _)) fun _ =>
    (Idempotency.settle_confined _ _ _).bind fun _ => .pure _
  obtain ⟨_, _, _, _, creator, _, _, _, _, _, _, _, _, made⟩ :=
    Prisma.ProofOfDelivery.create_succeeds.mp executed
  exact .inr ⟨_, made, creates _ creator⟩

/-- So does the submission. -/
theorem submitPod_confined (stopId : Uuid) (dto : SubmitPodDto) (actor : DeliveryActor)
    (creates : ∀ row : ProofOfDelivery, row.createdBy = actor.userId → kind (.createPod row)) :
    (submitPod stopId dto actor).Confined kind := by
  refine (DeliveryStopsService.getStopAndVerifyDriver_confined _ _).bind fun found =>
    (Idempotency.stored_confined _).bind fun existing => ?_
  cases existing with
  | some body => exact pure _
  | none =>
      refine .ite ((statement confined_select).bind fun _ => pure _) ?_
      refine (rejectIf _ _).bind fun _ => (rejectIf _ _).bind fun _ =>
        (Idempotency.transactOnce_confined (claimPod_confined _ _ _ _ creates)).bind fun reply => ?_
      cases reply with
      | replayed body => exact pure _
      | fresh body =>
          exact (statement (confined_emit _ _ _)).bind fun _ =>
            (DeliveriesService.completeDeliveryIfEligible_confined _ _).bind fun _ => pure _

end PodService

namespace DeliveryConflictsService

omit [UuidText] in
/-- Opening a ticket is plain. -/
theorem openConflict_confined (deliveryId : Uuid) (item : OutboxEventItem) :
    (openConflict deliveryId item).Confined kind := by
  refine (statement (confined_of_plain fun _ _ _ _ executed => ?_)).bind fun _ => pure _
  exact .inr ⟨_, (Prisma.DeliveryConflict.create_succeeds.mp executed).2.2.2.2, rfl⟩

omit [Permissive kind] in
/-- Reading the stop of an item makes no writes. -/
theorem readTarget_confined (target : JsValue) : (readTarget target).Confined kind := by
  refine .ite ?_ (pure _)
  cases target.toUuid with
  | error error => exact .throw _
  | ok stopId => exact (statement confined_select).bind fun _ => pure _

section Sync

variable (actorDriverId : Uuid) {actorUserId : Uuid}
  (creates : ∀ row : ProofOfDelivery, row.createdBy = actorUserId → kind (.createPod row))

include creates

/-- An event of the outbox makes what its operation makes. -/
theorem dispatch_confined (item : OutboxEventItem) (stopId : Option Uuid) :
    (dispatch item stopId actorDriverId actorUserId).Confined kind := by
  cases stopId with
  | none => exact pure _
  | some stopId =>
      refine .ite ((DeliveryStopsService.departToStop_confined _ _ _).bind fun _ => pure _) ?_
      refine .ite ((DeliveryStopsService.arriveAtStop_confined _ _ _).bind fun _ => pure _) ?_
      refine .ite ((DeliveryStopsService.startUnloading_confined _ _ _).bind fun _ => pure _) ?_
      exact .ite ((PodService.submitPod_confined _ _ _ creates).bind fun _ => pure _) (pure _)

/-- So does an item. -/
theorem syncItem_confined (item : OutboxEventItem) :
    (syncItem item actorDriverId actorUserId).Confined kind := by
  refine (readTarget_confined _).bind fun target => ?_
  cases target.bind Prod.snd with
  | none => exact (dispatch_confined _ creates _ _).bind fun _ => pure _
  | some found =>
      exact .ite ((openConflict_confined _ _).map _)
        ((dispatch_confined _ creates _ _).bind fun _ => pure _)

/-- So does a batch. -/
theorem syncItems_confined (items : List OutboxEventItem) (result : SyncResult) :
    (syncItems actorDriverId actorUserId items result).Confined kind := by
  induction items generalizing result with
  | nil => exact pure _
  | cons item items inductionHypothesis =>
      refine .bind (.tryCatch ((syncItem_confined _ creates _).bind fun ticket => ?_) fun _ => pure _)
        fun turn => inductionHypothesis turn
      cases ticket with
      | none => exact pure _
      | some ticket => exact pure _

end Sync

section Resolution

variable (creates : ∀ row, kind (.createPod row)) (updates : ∀ stopId data, kind (.updatePod stopId data))

include creates updates

/-- An override creates or updates a proof besides. -/
theorem override_confined (conflict : DeliveryConflict) (actorUserId : Uuid) :
    (override conflict actorUserId).Confined kind := by
  rw [override]
  split
  · cases conflict.clientPayload.payload.target.toUuid with
    | error error => exact .fail _
    | ok stopId =>
        refine .bind ?_ fun _ => .bind (.statement (confined_of_plain fun _ _ _ _ executed => ?_))
          fun _ => .bind (.statement confined_select) fun stops => ?_
        · rw [acceptEvidence]
          split
          · refine .statement (confined_of_single fun _ _ _ _ executed => ?_)
            obtain ⟨_, _, _, _, made⟩ | ⟨_, _, _, _, _, _, made⟩ :=
              Prisma.ProofOfDelivery.upsert_succeeds executed
            · exact .inr ⟨_, made, updates _ _⟩
            · exact .inr ⟨_, made, creates _⟩
          · exact .pure _
        · exact .inr ⟨_, (Prisma.DeliveryStop.update_succeeds.mp executed).2.2, rfl⟩
        · split
          · exact .bind (.statement (confined_updateDelivery _ fun _ => rfl)) fun _ => .pure _
          · exact .pure _
  · exact .pure _

/-- A resolution does so if it overrides. -/
theorem resolve_confined (conflict : DeliveryConflict) (conflictId : IdText) (dto : ResolveConflictDto)
    (actorUserId : Uuid) : (resolve conflict conflictId dto actorUserId).Confined kind := by
  refine .bind (.statement (confined_of_plain fun _ _ _ _ executed => ?_)) fun _ => ?_
  · exact .inr ⟨_, (Prisma.DeliveryConflict.update_succeeds.mp executed).2.2, rfl⟩
  · dsimp only
    split
    · exact (override_confined creates updates _ _).bind fun _ =>
        .bind (.statement (confined_createAuditLog _)) fun _ => .pure _
    · exact .bind (.statement (confined_createAuditLog _)) fun _ => .pure _

end Resolution

/-- Drivers resolve nothing. -/
theorem resolveConflict_confined (conflictId : IdText) (dto : ResolveConflictDto) (actorUserId : Uuid)
    {actorRole : Role} (writes : actorRole ≠ .driver → (∀ row, kind (.createPod row)) ∧
      ∀ stopId data, kind (.updatePod stopId data)) :
    (resolveConflict conflictId dto actorUserId actorRole).Confined kind := by
  rw [resolveConflict, Proc.rejectIf]
  split
  · exact .throw _
  · rename_i operator
    obtain ⟨creates, updates⟩ := writes operator
    exact (pure _).bind fun _ => (statement confined_select).bind fun _ =>
      (require _ _).bind fun _ => (rejectIf _ _).bind fun _ =>
      .transact (resolve_confined creates updates _ _ _ _)

end DeliveryConflictsService

omit [UuidText]

namespace RoutesDomainService

/-- Recording a version is plain. -/
theorem recordRoute_confined (deliveryId : Uuid) (source : RouteSource)
    (totalDistanceM estimatedDurationS : Rat) (stops : List (Uuid × Int)) (routeMode : RouteMode) :
    (recordRoute deliveryId source totalDistanceM estimatedDurationS stops routeMode).Confined kind := by
  refine .bind (.bind (.statement confined_select) fun _ => .pure _) fun version =>
    .bind (.statement (confined_of_plain fun _ _ _ _ executed => ?_)) fun _ =>
    .bind (.statement (confined_of_plain fun _ _ _ _ executed => ?_)) fun _ =>
    .bind (.statement (confined_updateDelivery _ fun _ => rfl)) fun _ => .pure _
  · exact .inr ⟨_, (Prisma.Route.create_succeeds executed).2.2.2.2.2.2, rfl⟩
  · exact .inr ⟨_, (Prisma.RouteStop.createMany_succeeds.mp executed).2.2.2.2, rfl⟩

/-- A row lock makes no writes. -/
theorem confined_selectForUpdate (id : Uuid) : (Prisma.Delivery.selectForUpdate id).Confined kind :=
  confined_of_plain fun _ _ _ _ executed =>
    .inl (Prisma.Delivery.selectForUpdate_succeeds.mp executed).2

/-- A selection is plain. -/
theorem claimSelection_confined (deliveryId : Uuid) (dto : SelectRouteDto) (actor : RouteActor) :
    (claimSelection deliveryId dto actor).Confined kind :=
  .bind (.statement (confined_selectForUpdate _)) fun _ => (Idempotency.claim_confined _).bind fun _ =>
    (recordRoute_confined _ _ _ _ _ _).bind fun _ => (Idempotency.settle_confined _ _ _).bind fun _ =>
    .pure _

/-- Renumbering is plain. -/
theorem updateSequences_confined (sign : Int) (items : List StopSequenceItemDto) :
    (updateSequences sign items).Confined kind := by
  induction items with
  | nil => exact .pure _
  | cons item items inductionHypothesis =>
      refine .bind (.statement (confined_of_plain fun _ _ _ _ executed => ?_)) fun _ =>
        inductionHypothesis
      exact .inr ⟨_, (Prisma.DeliveryStop.updateSequence_succeeds.mp executed).2.2, rfl⟩

/-- A reordering is plain. -/
theorem claimReorder_confined (deliveryId : IdText) (dto : ManualReorderDto) (actor : RouteActor) :
    (claimReorder deliveryId dto actor).Confined kind :=
  .bind (.statement (confined_selectForUpdate _)) fun _ => (Idempotency.claim_confined _).bind fun _ =>
    (updateSequences_confined _ _).bind fun _ => (updateSequences_confined _ _).bind fun _ =>
    (recordRoute_confined _ _ _ _ _ _).bind fun _ => (Idempotency.settle_confined _ _ _).bind fun _ =>
    .pure _

/-- So are both in their common frame. -/
theorem mutateRoute_confined (deliveryId : IdText) (actor : RouteActor) (key : Option IdempotencyKey)
    (submittedStopIds : List Uuid) (submittedSequences : Option (List Int))
    {work : Txn store ResponseBody} (confined : work.Confined kind) :
    (mutateRoute deliveryId actor key submittedStopIds submittedSequences work).Confined kind := by
  refine ((statement confined_select).bind fun _ => (require _ _).bind fun _ => (rejectIf _ _).bind
    fun _ => (rejectIf _ _).bind fun _ => pure _).bind fun found => (rejectIf _ _).bind fun _ =>
    ((statement (confined_incrRateLimit _ _)).bind fun _ => rejectIf _ _).bind fun _ =>
    (Idempotency.stored_confined _).bind fun existing => ?_
  cases existing with
  | some body => exact pure _
  | none =>
      refine .bind ?_ fun _ => .bind ((rejectIf _ _).bind fun _ => rejectIf _ _) fun _ =>
        (Idempotency.transactOnce_confined confined).bind fun reply => ?_
      · rw [requireKnownStops]
        split
        · exact .throw _
        · exact pure _
      · cases reply with
        | replayed body => exact pure _
        | fresh body =>
            refine .bind ?_ fun _ => pure _
            cases body <;> first | exact pure _ | exact statement (confined_emit _ _ _)

end RoutesDomainService

namespace MessagesService

/-- The check of the sending rate makes no writes. -/
theorem enforceSendRateLimit_confined (userId : Uuid) : (enforceSendRateLimit userId).Confined kind :=
  (statement (confined_incrRateLimit _ _)).bind fun _ => rejectIf _ _

/-- Saving the record of a message is plain. -/
theorem saveRecord_confined (key : Option IdempotencyKey) (message : Message) :
    (saveRecord key message).Confined kind := by
  cases key with
  | none => exact pure _
  | some key => exact .tryCatch (statement (confined_createRecord _ _ _)) fun _ => pure _

/-- Sending makes one write that is not plain: the message. -/
theorem sendMessage_confined (conversationId : Uuid) (dto : SendMessageDto) (actor : UserActor)
    (channel : MessageChannel) (sends : ∀ row, kind (.createMessage row)) :
    (sendMessage conversationId dto actor channel).Confined kind := by
  refine .bind ((statement confined_select).bind fun _ => (require _ _).bind fun _ =>
    (rejectIf _ _).bind fun _ => pure _) fun _ => (require _ _).bind fun _ =>
    (statement confined_select).bind fun _ => (rejectIf _ _).bind fun _ =>
    (statement confined_select).bind fun _ => (rejectIf _ _).bind fun _ =>
    (enforceSendRateLimit_confined _).bind fun _ => (Idempotency.stored_confined _).bind fun record => ?_
  cases record with
  | some body => exact pure _
  | none =>
      exact (statement (confined_of_single fun _ _ _ _ executed =>
        .inr ⟨_, (Prisma.Message.create_succeeds executed).2.2.2, sends _⟩)).bind fun _ =>
        (saveRecord_confined _ _).bind fun _ => pure _

end MessagesService

/-- The kind allows what the request writes beside the plain. -/
def Request.Permits (kind : Write → Prop) : Request → Prop
  | .createDelivery .. => ∀ row, kind (.createDelivery row)
  | .assignDelivery deliveryId _ _ => ∀ data, kind (.updateDelivery deliveryId data)
  | .submitPod _ _ actor => ∀ row, row.createdBy = actor.userId → kind (.createPod row)
  | .syncOutbox _ _ actorUserId => ∀ row, row.createdBy = actorUserId → kind (.createPod row)
  | .resolveConflict _ _ _ actorRole => actorRole ≠ .driver →
      (∀ row, kind (.createPod row)) ∧ ∀ stopId data, kind (.updatePod stopId data)
  | .sendMessage .. => ∀ row, kind (.createMessage row)
  | _ => True

/-- Every request is confined to a kind that permits what it needs. -/
theorem Request.confined [UuidText] {request : Request} (permits : request.Permits kind) :
    request.proc.Confined kind := by
  cases request with
  | createDelivery dto user => exact (DeliveriesService.createDelivery_confined dto user permits).map _
  | assignDelivery id dto actor =>
      exact (DeliveriesService.assignDelivery_confined id dto actor permits).map _
  | acceptDelivery id driver user =>
      exact ((DeliveriesService.requireOwn_confined _ _ _ _).bind fun _ =>
        DeliveriesService.moveOwn_confined _ _ _ _ _ fun _ => rfl).map _
  | startDelivery id driver user =>
      exact ((DeliveriesService.requireOwn_confined _ _ _ _).bind fun _ =>
        DeliveriesService.moveOwn_confined _ _ _ _ _ fun _ => rfl).map _
  | completeDelivery id actor => exact (DeliveriesService.completeDelivery_confined id actor).map _
  | cancelDelivery id dto actor => exact (DeliveriesService.cancelDelivery_confined id dto actor).map _
  | departToStop id driver user =>
      exact (DeliveryStopsService.departToStop_confined id driver user).map _
  | arriveAtStop id driver user =>
      exact (DeliveryStopsService.arriveAtStop_confined id driver user).map _
  | startUnloading id driver user =>
      exact (DeliveryStopsService.startUnloading_confined id driver user).map _
  | failStop id dto driver user =>
      exact (DeliveryStopsService.failStop_confined id dto driver user).map _
  | skipStop id dto actor => exact (DeliveryStopsService.skipStop_confined id dto actor).map _
  | submitPod id dto actor => exact (PodService.submitPod_confined id dto actor permits).map _
  | syncOutbox dto driver user =>
      exact (DeliveryConflictsService.syncItems_confined driver permits dto.events {}).map _
  | resolveConflict id dto user role =>
      exact (DeliveryConflictsService.resolveConflict_confined id dto user permits).map _
  | selectRoute id dto actor =>
      exact (RoutesDomainService.mutateRoute_confined _ _ _ _ _
        (RoutesDomainService.claimSelection_confined id dto actor)).map _
  | reorderStops id dto actor =>
      exact (RoutesDomainService.mutateRoute_confined _ _ _ _ _
        (RoutesDomainService.claimReorder_confined id dto actor)).map _
  | sendMessage id dto actor channel =>
      exact (MessagesService.sendMessage_confined id dto actor channel permits).map _

end Armada
