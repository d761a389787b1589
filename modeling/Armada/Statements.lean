import Armada.Calls
import Armada.Requests
import Armada.Concurrency.Locking
import Armada.Deliveries.StopSteps

/-!
# The calls that requests make

Which calls of the data layer a request makes at all, whatever it reads. A property of the
calls one by one is so a property of every request.
-/

namespace Armada

open Relational Concurrency

/-- The calls that most services make are of the kind. -/
structure Ordinary [UuidText] (kind : {β : Type} → Statement store β → Prop) : Prop where
  select : ∀ {β : Type} (body : Db → Except PrismaError β), kind (select body)
  incrRateLimit : ∀ key windowSeconds, kind (RedisService.incrRateLimit key windowSeconds)
  emit : ∀ rooms payload actor, kind (RealtimeGateway.emit rooms payload actor)
  createAuditLog : ∀ row, kind (Prisma.AuditLog.create row)
  createEvent : ∀ deliveryId stopId eventType actorUserId metadata, eventType ≠ "POD_SUBMITTED" →
    kind (Prisma.DeliveryEvent.create deliveryId stopId eventType actorUserId metadata)
  updateDelivery : ∀ id data, kind (Prisma.Delivery.update id data)
  updateManyDelivery : ∀ id status data, kind (Prisma.Delivery.updateMany id status data)
  updateManyStop : ∀ id expected excluded data, (∀ input, StopUpdate expected (data input)) →
    kind (Prisma.DeliveryStop.updateMany id expected excluded data)
  createConflict : ∀ deliveryId clientEventId conflictType serverState clientPayload,
    kind (Prisma.DeliveryConflict.create deliveryId clientEventId conflictType serverState
      clientPayload)
  updateConflict : ∀ id data, kind (Prisma.DeliveryConflict.update id data)
  createMessage : ∀ conversationId senderUserId senderDeviceId recipientDeviceId protocolVersion
    ciphertextBlob headerJson, kind (Prisma.Message.create conversationId senderUserId
      senderDeviceId recipientDeviceId protocolVersion ciphertextBlob headerJson)

/-- The calls of what is done once for a key, or once for a stop. -/
structure Recording [UuidText] (kind : {β : Type} → Statement store β → Prop) : Prop where
  createPod : ∀ stopId receiverName photoFileId signatureFileId notes createdBy,
    kind (Prisma.ProofOfDelivery.create stopId receiverName photoFileId signatureFileId notes
      createdBy)
  createPodEvent : ∀ deliveryId stopId actorUserId metadata,
    kind (Prisma.DeliveryEvent.create deliveryId stopId "POD_SUBMITTED" actorUserId metadata)
  createRecord : ∀ key responseStatus responseBody,
    kind (Prisma.IdempotencyRecord.create key responseStatus responseBody)
  updateRecord : ∀ key data, kind (Prisma.IdempotencyRecord.update key data)

/-- The calls of an override besides. -/
structure Overriding [UuidText] (kind : {β : Type} → Statement store β → Prop) : Prop where
  updateStop : ∀ id, kind (Prisma.DeliveryStop.update id fun input => .overridden input.now)
  upsertPod : ∀ stopId receiverName photoFileId notes createdBy,
    kind (Prisma.ProofOfDelivery.upsert stopId receiverName photoFileId notes createdBy)

/-- The calls of `createDelivery` besides. -/
structure Creating (kind : {β : Type} → Statement store β → Prop) : Prop where
  createDelivery : ∀ deliveryCode plannedStartAt createdBy,
    kind (Prisma.Delivery.create deliveryCode plannedStartAt createdBy)
  createItems : ∀ rows, kind (Prisma.DeliveryItem.createMany rows)
  createStop : ∀ row, (∀ id, (row id).Fresh) → kind (Prisma.DeliveryStop.create row)

/-- The calls of the operations on routes besides. -/
structure Routing (kind : {β : Type} → Statement store β → Prop) : Prop where
  selectForUpdate : ∀ id, kind (Prisma.Delivery.selectForUpdate id)
  updateSequence : ∀ id sequence, kind (Prisma.DeliveryStop.updateSequence id sequence)
  createRoute : ∀ deliveryId version source totalDistanceM estimatedDurationS,
    kind (Prisma.Route.create deliveryId version source totalDistanceM estimatedDurationS)
  createRouteStops : ∀ rows, kind (Prisma.RouteStop.createMany rows)

/-- What a request needs of a kind besides the ordinary calls. -/
def Request.Needs [UuidText] (kind : {β : Type} → Statement store β → Prop) : Request → Prop
  | .createDelivery .. => Creating kind
  | .submitPod .. | .syncOutbox .. | .sendMessage .. => Recording kind
  | .resolveConflict .. => Overriding kind
  | .selectRoute .. | .reorderStops .. => Recording kind ∧ Routing kind
  | _ => True

variable [UuidText] {kind : {β : Type} → Statement store β → Prop} (ordinary : Ordinary kind)

open Proc.Every (statement rejectIf require pure)

include ordinary

namespace DeliveriesService

/-- Reading a delivery is one look and two checks. -/
theorem getDeliveryById_every (id : IdText) (actor : DeliveryActor) :
    (getDeliveryById id actor).Every kind :=
  (statement (ordinary.select _)).bind fun _ => (require _ _).bind fun _ =>
    (rejectIf _ _).bind fun _ => (rejectIf _ _).bind fun _ => pure _

/-- Creating a delivery looks for the code, and inserts the delivery, its items, stops and audit
row. -/
theorem createDelivery_every (creating : Creating kind) (dto : CreateDeliveryDto)
    (creatorUserId : Uuid) : (createDelivery dto creatorUserId).Every kind := by
  have stops : ∀ id dtos, (createStops id dtos).Every kind := by
    intro id dtos
    induction dtos with
    | nil => exact .pure _
    | cons stop stops inductionHypothesis =>
        exact .bind (.statement (creating.createStop _ fun _ => ⟨rfl, rfl, rfl⟩)) fun _ =>
          inductionHypothesis
  exact (statement (ordinary.select _)).bind fun _ => (rejectIf _ _).bind fun _ => .transact <|
    .bind (.statement (creating.createDelivery _ _ _)) fun _ =>
    .bind (.statement (creating.createItems _)) fun _ => (stops _ _).bind fun _ =>
    .bind (.statement (ordinary.createAuditLog _)) fun _ => .pure _

/-- An assignment looks three times before it updates. -/
theorem assignDelivery_every (deliveryId : IdText) (dto : AssignDeliveryDto) (actor : DeliveryActor) :
    (assignDelivery deliveryId dto actor).Every kind :=
  (getDeliveryById_every ordinary deliveryId actor).bind fun _ => (rejectIf _ _).bind fun _ =>
    (statement (ordinary.select _)).bind fun _ => (rejectIf _ _).bind fun _ =>
    (statement (ordinary.select _)).bind fun _ => (rejectIf _ _).bind fun _ =>
    (statement (ordinary.updateDelivery _ _)).bind fun _ =>
    (statement (ordinary.createAuditLog _)).bind fun _ =>
    (statement (ordinary.emit _ _ _)).bind fun _ => pure _

/-- The check of the driver is one look. -/
theorem requireOwn_every (deliveryId : IdText) (actorDriverId : Uuid) (verb : String)
    (expected : DeliveryStatus) : (requireOwn deliveryId actorDriverId verb expected).Every kind :=
  (statement (ordinary.select _)).bind fun _ => (require _ _).bind fun _ =>
    (rejectIf _ _).bind fun _ => rejectIf _ _

/-- The common body of accepting and starting: one update, one audit row, one event. -/
theorem moveOwn_every (deliveryId : IdText) (actorDriverId actorUserId : Uuid) (status : DeliveryStatus)
    (data : Input → DeliveryData) (action : String) :
    (moveOwn deliveryId actorDriverId actorUserId status data action).Every kind :=
  (statement (ordinary.updateDelivery _ _)).bind fun _ =>
    (statement (ordinary.createAuditLog _)).bind fun _ =>
    (statement (ordinary.emit _ _ _)).bind fun _ => pure _

/-- The transaction of a completion looks at the stops and updates by status. -/
theorem claimCompletion_every (deliveryId : IdText) (actor : DeliveryActor) :
    (claimCompletion deliveryId actor).Every kind :=
  .bind (.bind (.statement (ordinary.select _)) fun _ => .pure _) fun _ =>
    .bind (.rejectIf _ _) fun _ => .bind (.statement (ordinary.updateManyDelivery _ _ _)) fun _ =>
    .bind (.rejectIf _ _) fun _ => .bind (.statement (ordinary.select _)) fun _ =>
    .bind (.statement (ordinary.createAuditLog _)) fun _ => .pure _

/-- Completing is that transaction and its event. -/
theorem completeDelivery_every (deliveryId : IdText) (actor : DeliveryActor) :
    (completeDelivery deliveryId actor).Every kind := by
  refine (getDeliveryById_every ordinary deliveryId actor).bind fun delivery => .ite (pure _) ?_
  exact (rejectIf _ _).bind fun _ => .bind (.transact (claimCompletion_every ordinary _ _)) fun _ =>
    (require _ _).bind fun _ => (statement (ordinary.emit _ _ _)).bind fun _ => pure _

/-- Cancelling is a transaction of the same shape. -/
theorem cancelDelivery_every (deliveryId : IdText) (dto : CancelDeliveryDto) (actor : DeliveryActor) :
    (cancelDelivery deliveryId dto actor).Every kind :=
  (getDeliveryById_every ordinary deliveryId actor).bind fun _ =>
    .bind (.transact <| .bind (.statement (ordinary.updateManyDelivery _ _ _)) fun _ =>
      .bind (.rejectIf _ _) fun _ => .bind (.statement (ordinary.select _)) fun _ =>
      .bind (.statement (ordinary.createAuditLog _)) fun _ => .pure _) fun _ =>
    (statement (ordinary.emit _ _ _)).bind fun _ => pure _

/-- The evaluation looks at the stops and updates by status. -/
theorem claimIfEligible_every (deliveryId : Uuid) : (claimIfEligible deliveryId).Every kind := by
  refine .bind (.bind (.statement (ordinary.select _)) fun _ => .pure _) fun evaluation => ?_
  cases evaluation.targetStatus with
  | none => exact .pure _
  | some target =>
      refine .ite (.bind (.statement (ordinary.updateManyDelivery _ _ _)) fun claimed => ?_)
        (.pure _)
      exact .ite (.pure _) (.statement (ordinary.select _))

/-- It emits what it has changed. -/
theorem completeDeliveryIfEligible_every (deliveryId : Uuid) (actor : DeliveryActor) :
    (completeDeliveryIfEligible deliveryId actor).Every kind := by
  refine .tryCatch (.bind (.transact (claimIfEligible_every ordinary deliveryId)) fun updated => ?_)
    fun _ => pure _
  cases updated with
  | none => exact pure _
  | some row => exact statement (ordinary.emit _ _ _)

end DeliveriesService

namespace DeliveryStopsService

/-- Finding a stop is one look and the check of the driver. -/
theorem getStopAndVerifyDriver_every (stopId : Uuid) (actorDriverId : Option Uuid) :
    (getStopAndVerifyDriver stopId actorDriverId).Every kind :=
  (statement (ordinary.select _)).bind fun _ => (require _ _).bind fun _ =>
    (rejectIf _ _).bind fun _ => pure _

/-- The update of a stop is by status, and of a step. -/
theorem updateStopIfOperational_every (stopId : Uuid) {expectedStatus : List StopStatus}
    {data : Input → StopData} (update : ∀ input, StopUpdate expectedStatus (data input)) :
    (updateStopIfOperational stopId expectedStatus data).Every kind := by
  refine (statement (ordinary.updateManyStop _ _ _ _ update)).bind fun count =>
    .ite ((statement (ordinary.select _)).bind fun current => ?_) (statement (ordinary.select _))
  cases current with
  | none => exact (pure _).bind fun _ => .throw _
  | some found => exact (rejectIf _ _).bind fun _ => .throw _

/-- The update and its broadcast. -/
theorem step_every (deliveryId stopId : Uuid) {expectedStatus : List StopStatus}
    {data : Input → StopData} (update : ∀ input, StopUpdate expectedStatus (data input))
    (status : StopStatus) (actor : DeliveryActor) :
    (do
      let updated ← updateStopIfOperational stopId expectedStatus data
      broadcastStopStatusChanged deliveryId stopId status actor
      return updated).Every kind :=
  (updateStopIfOperational_every ordinary _ update).bind fun _ =>
    (statement (ordinary.emit _ _ _)).bind fun _ => pure _

/-- A departure finds the stop, checks and steps. -/
theorem departToStop_every (stopId actorDriverId actorUserId : Uuid) :
    (departToStop stopId actorDriverId actorUserId).Every kind :=
  (getStopAndVerifyDriver_every ordinary _ _).bind fun _ => (rejectIf _ _).bind fun _ =>
    (rejectIf _ _).bind fun _ => step_every ordinary _ _ (fun _ => .departed) _ _

/-- An arrival does. -/
theorem arriveAtStop_every (stopId actorDriverId actorUserId : Uuid) :
    (arriveAtStop stopId actorDriverId actorUserId).Every kind :=
  (getStopAndVerifyDriver_every ordinary _ _).bind fun _ => (rejectIf _ _).bind fun _ =>
    (rejectIf _ _).bind fun _ => step_every ordinary _ _ (fun _ => .arrived _) _ _

/-- The start of an unloading does. -/
theorem startUnloading_every (stopId actorDriverId actorUserId : Uuid) :
    (startUnloading stopId actorDriverId actorUserId).Every kind :=
  (getStopAndVerifyDriver_every ordinary _ _).bind fun _ => (rejectIf _ _).bind fun _ =>
    (rejectIf _ _).bind fun _ => step_every ordinary _ _ (fun _ => .unloading) _ _

/-- Failing a stop does, records it and evaluates the delivery. -/
theorem failStop_every (stopId : Uuid) (dto : StopReasonDto) (actorDriverId actorUserId : Uuid) :
    (failStop stopId dto actorDriverId actorUserId).Every kind :=
  (getStopAndVerifyDriver_every ordinary _ _).bind fun _ => (rejectIf _ _).bind fun _ =>
    (rejectIf _ _).bind fun _ => (updateStopIfOperational_every ordinary _ (fun _ => .failed _)).bind fun _ =>
    (statement (ordinary.createEvent _ _ _ _ _ (by decide))).bind fun _ =>
    (statement (ordinary.emit _ _ _)).bind fun _ =>
    (DeliveriesService.completeDeliveryIfEligible_every ordinary _ _).bind fun _ => pure _

/-- Skipping a stop does, with the check of owners besides. -/
theorem skipStop_every (stopId : Uuid) (dto : StopReasonDto) (actor : DeliveryActor) :
    (skipStop stopId dto actor).Every kind :=
  (getStopAndVerifyDriver_every ordinary _ _).bind fun _ => (rejectIf _ _).bind fun _ =>
    (rejectIf _ _).bind fun _ => (rejectIf _ _).bind fun _ =>
    (updateStopIfOperational_every ordinary _ (fun _ => .skipped)).bind fun _ =>
    (statement (ordinary.createEvent _ _ _ _ _ (by decide))).bind fun _ =>
    (statement (ordinary.emit _ _ _)).bind fun _ =>
    (DeliveriesService.completeDeliveryIfEligible_every ordinary _ _).bind fun _ => pure _

end DeliveryStopsService

namespace Idempotency

/-- Looking up a record is one look, if there is a key. -/
theorem stored_every (key : Option IdempotencyKey) : (stored key).Every kind := by
  cases key with
  | none => exact pure _
  | some key => exact (statement (ordinary.select _)).bind fun _ => pure _

omit ordinary in
/-- Claiming a key inserts its placeholder. -/
theorem claim_every (recording : Recording kind) (key : Option IdempotencyKey) :
    (claim key).Every kind := by
  cases key with
  | none => exact .pure _
  | some key => exact .statement (recording.createRecord _ _ _)

omit ordinary in
/-- Settling a key updates its record. -/
theorem settle_every (recording : Recording kind) (key : Option IdempotencyKey)
    (responseStatus : Nat) (responseBody : ResponseBody) :
    (settle key responseStatus responseBody).Every kind := by
  cases key with
  | none => exact .pure _
  | some key => exact .statement (recording.updateRecord _ _)

/-- The transaction of a key is its body's statements, and the lookup after a clash. -/
theorem transactOnce_every {key : Option IdempotencyKey} {clash : Exception → Bool}
    {body : Txn store ResponseBody} (every : body.Every kind) :
    (transactOnce key clash body).Every kind := by
  refine .tryCatch (.map _ (.transact every)) fun error => ?_
  cases key with
  | none => exact .throw _
  | some key =>
      refine .ite ((statement (ordinary.select _)).bind fun record => ?_) (.throw _)
      cases record with
      | none => exact .throw _
      | some record => exact pure _

end Idempotency

namespace PodService

/-- The transaction of a submission: the claim, the update by status, the proof, its event, the
settling. -/
theorem claimPod_every (recording : Recording kind) (stopId deliveryId : Uuid) (dto : SubmitPodDto)
    (actor : DeliveryActor) : (claimPod stopId deliveryId dto actor).Every kind :=
  (Idempotency.claim_every recording _).bind fun _ =>
    .bind (.statement (ordinary.updateManyStop _ _ _ _ fun _ => .delivered _)) fun _ =>
    .bind (.rejectIf _ _) fun _ =>
    .bind (.statement (recording.createPod _ _ _ _ _ _)) fun _ =>
    .bind (.statement (recording.createPodEvent _ _ _ _)) fun _ =>
    (Idempotency.settle_every recording _ _ _).bind fun _ => .pure _

/-- A submission is that transaction with the lookups before it and the evaluation after it. -/
theorem submitPod_every (recording : Recording kind) (stopId : Uuid) (dto : SubmitPodDto)
    (actor : DeliveryActor) :
    (submitPod stopId dto actor).Every kind := by
  refine (DeliveryStopsService.getStopAndVerifyDriver_every ordinary _ _).bind fun found =>
    (Idempotency.stored_every ordinary _).bind fun existing => ?_
  cases existing with
  | some body => exact pure _
  | none =>
      refine .ite ((statement (ordinary.select _)).bind fun _ => pure _) ?_
      refine (rejectIf _ _).bind fun _ => (rejectIf _ _).bind fun _ =>
        (Idempotency.transactOnce_every ordinary (claimPod_every ordinary recording _ _ _ _)).bind
          fun reply => ?_
      cases reply with
      | replayed body => exact pure _
      | fresh body =>
          exact (statement (ordinary.emit _ _ _)).bind fun _ =>
            (DeliveriesService.completeDeliveryIfEligible_every ordinary _ _).bind fun _ => pure _

end PodService

namespace DeliveryConflictsService

/-- An event of the outbox makes the calls of its operation. -/
theorem dispatch_every (recording : Recording kind) (item : OutboxEventItem) (stopId : Option Uuid)
    (actorDriverId actorUserId : Uuid) :
    (dispatch item stopId actorDriverId actorUserId).Every kind := by
  cases stopId with
  | none => exact pure _
  | some stopId =>
      refine .ite ((DeliveryStopsService.departToStop_every ordinary _ _ _).bind fun _ => pure _) ?_
      refine .ite ((DeliveryStopsService.arriveAtStop_every ordinary _ _ _).bind fun _ => pure _) ?_
      refine .ite ((DeliveryStopsService.startUnloading_every ordinary _ _ _).bind fun _ =>
        pure _) ?_
      exact .ite ((PodService.submitPod_every ordinary recording _ _ _).bind fun _ =>
        pure _) (pure _)

/-- An item does, or opens a ticket. -/
theorem syncItem_every (recording : Recording kind) (item : OutboxEventItem)
    (actorDriverId actorUserId : Uuid) :
    (syncItem item actorDriverId actorUserId).Every kind := by
  have target : ∀ value, (readTarget value).Every kind := by
    intro value
    refine .ite ?_ (pure _)
    cases value.toUuid with
    | error error => exact .throw _
    | ok stopId => exact (statement (ordinary.select _)).bind fun _ => pure _
  refine (target _).bind fun target => ?_
  cases target.bind Prod.snd with
  | none => exact (dispatch_every ordinary recording _ _ _ _).bind fun _ => pure _
  | some found =>
      have opened : ∀ id, (openConflict id item).Every kind := fun _ =>
        (statement (ordinary.createConflict _ _ _ _ _)).bind fun _ => pure _
      exact .ite ((opened _).map _) ((dispatch_every ordinary recording _ _ _ _).bind fun _ => pure _)

/-- A batch does item by item. -/
theorem syncItems_every (recording : Recording kind) (actorDriverId actorUserId : Uuid)
    (items : List OutboxEventItem)
    (result : SyncResult) : (syncItems actorDriverId actorUserId items result).Every kind := by
  induction items generalizing result with
  | nil => exact pure _
  | cons item items inductionHypothesis =>
      refine .bind (.tryCatch ((syncItem_every ordinary recording _ _ _).bind fun ticket => ?_) fun _ => pure _)
        fun turn => inductionHypothesis turn
      cases ticket with
      | none => exact pure _
      | some ticket => exact pure _

/-- An override upserts the proof, delivers the stop and completes the delivery. -/
theorem override_every (overriding : Overriding kind) (conflict : DeliveryConflict)
    (actorUserId : Uuid) :
    (override conflict actorUserId).Every kind := by
  refine .ite ?_ (.pure _)
  cases conflict.clientPayload.payload.target.toUuid with
  | error error => exact .fail _
  | ok stopId =>
      refine .bind (.ite (.statement (overriding.upsertPod _ _ _ _ _)) (.pure _)) fun _ =>
        .bind (.statement (overriding.updateStop _)) fun _ =>
        .bind (.statement (ordinary.select _)) fun _ => .ite ?_ (.pure _)
      exact .bind (.statement (ordinary.updateDelivery _ _)) fun _ => .pure _

/-- A resolution updates the ticket, and overrides or not. -/
theorem resolveConflict_every (overriding : Overriding kind) (conflictId : IdText)
    (dto : ResolveConflictDto) (actorUserId : Uuid)
    (actorRole : Role) : (resolveConflict conflictId dto actorUserId actorRole).Every kind := by
  have logged : ∀ (conflict : DeliveryConflict) row, (do
      Prisma.AuditLog.create row
      return conflict : Txn store DeliveryConflict).Every kind :=
    fun _ _ => .bind (.statement (ordinary.createAuditLog _)) fun _ => .pure _
  refine (rejectIf _ _).bind fun _ => (statement (ordinary.select _)).bind fun _ =>
    (require _ _).bind fun _ => (rejectIf _ _).bind fun _ => .transact ?_
  refine .bind (.statement (ordinary.updateConflict _ _)) fun _ => .ite ?_ ?_
  · exact (override_every ordinary overriding _ _).bind fun _ => logged _ _
  · exact logged _ _

end DeliveryConflictsService

namespace RoutesDomainService

/-- A version is recorded with its stops and the mode of the delivery. -/
theorem recordRoute_every (routing : Routing kind) (deliveryId : Uuid) (source : RouteSource)
    (totalDistanceM estimatedDurationS : Rat) (stops : List (Uuid × Int)) (routeMode : RouteMode) :
    (recordRoute deliveryId source totalDistanceM estimatedDurationS stops routeMode).Every kind :=
  .bind (.bind (.statement (ordinary.select _)) fun _ => .pure _) fun _ =>
    .bind (.statement (routing.createRoute _ _ _ _ _)) fun _ =>
    .bind (.statement (routing.createRouteStops _)) fun _ =>
    .bind (.statement (ordinary.updateDelivery _ _)) fun _ => .pure _

/-- A selection locks the delivery and records the version. -/
theorem claimSelection_every (recording : Recording kind) (routing : Routing kind)
    (deliveryId : Uuid) (dto : SelectRouteDto)
    (actor : RouteActor) : (claimSelection deliveryId dto actor).Every kind :=
  .bind (.statement (routing.selectForUpdate _)) fun _ =>
    (Idempotency.claim_every recording _).bind fun _ =>
    (recordRoute_every ordinary routing _ _ _ _ _ _).bind fun _ =>
    (Idempotency.settle_every recording _ _ _).bind fun _ => .pure _

/-- A reordering renumbers the stops as well. -/
theorem claimReorder_every (recording : Recording kind) (routing : Routing kind) (deliveryId : IdText)
    (dto : ManualReorderDto)
    (actor : RouteActor) : (claimReorder deliveryId dto actor).Every kind := by
  have updates : ∀ sign items, (updateSequences sign items).Every kind := by
    intro sign items
    induction items with
    | nil => exact .pure _
    | cons item items inductionHypothesis =>
        exact .bind (.statement (routing.updateSequence _ _)) fun _ => inductionHypothesis
  exact .bind (.statement (routing.selectForUpdate _)) fun _ =>
    (Idempotency.claim_every recording _).bind fun _ => (updates _ _).bind fun _ =>
    (updates _ _).bind fun _ => (recordRoute_every ordinary routing _ _ _ _ _ _).bind fun _ =>
    (Idempotency.settle_every recording _ _ _).bind fun _ => .pure _

/-- The frame of both: the access check, the counts, the lookups and the transaction. -/
theorem mutateRoute_every (deliveryId : IdText) (actor : RouteActor) (key : Option IdempotencyKey)
    (submittedStopIds : List Uuid) (submittedSequences : Option (List Int))
    {work : Txn store ResponseBody} (every : work.Every kind) :
    (mutateRoute deliveryId actor key submittedStopIds submittedSequences work).Every kind := by
  have access : (verifyDeliveryAccess deliveryId actor).Every kind :=
    (statement (ordinary.select _)).bind fun _ => (require _ _).bind fun _ =>
      (rejectIf _ _).bind fun _ => (rejectIf _ _).bind fun _ => pure _
  refine access.bind fun found => (rejectIf _ _).bind fun _ =>
    ((statement (ordinary.incrRateLimit _ _)).bind fun _ => rejectIf _ _).bind fun _ =>
    (Idempotency.stored_every ordinary _).bind fun existing => ?_
  cases existing with
  | some body => exact pure _
  | none =>
      refine .bind ?_ fun _ => .bind ((rejectIf _ _).bind fun _ => rejectIf _ _) fun _ =>
        (Idempotency.transactOnce_every ordinary every).bind fun reply => ?_
      · rw [requireKnownStops]
        split
        · exact .throw _
        · exact pure _
      · cases reply with
        | replayed body => exact pure _
        | fresh body =>
            refine .bind ?_ fun _ => pure _
            cases body <;> first | exact pure _ | exact statement (ordinary.emit _ _ _)

end RoutesDomainService

namespace MessagesService

/-- A message is sent once the lookups have passed, and recorded. -/
theorem sendMessage_every (recording : Recording kind) (conversationId : Uuid)
    (dto : SendMessageDto) (actor : UserActor)
    (channel : MessageChannel) : (sendMessage conversationId dto actor channel).Every kind := by
  have access : (ConversationsService.verifyConversationAccess conversationId actor).Every kind :=
    (statement (ordinary.select _)).bind fun _ => (require _ _).bind fun _ =>
      (rejectIf _ _).bind fun _ => pure _
  have recorded : ∀ key message, (saveRecord key message).Every kind := by
    intro key message
    cases key with
    | none => exact pure _
    | some key => exact .tryCatch (statement (recording.createRecord _ _ _)) fun _ => pure _
  refine access.bind fun _ => (require _ _).bind fun _ =>
    (statement (ordinary.select _)).bind fun _ =>
    (rejectIf _ _).bind fun _ => (statement (ordinary.select _)).bind fun _ =>
    (rejectIf _ _).bind fun _ => .bind ((statement (ordinary.incrRateLimit _ _)).bind fun _ =>
      rejectIf _ _) fun _ => (Idempotency.stored_every ordinary _).bind fun record => ?_
  cases record with
  | some body => exact pure _
  | none =>
      exact (statement (ordinary.createMessage _ _ _ _ _ _ _)).bind fun _ =>
        (recorded _ _).bind fun _ => pure _

end MessagesService

/-- All calls of a request are of the kind. -/
theorem Request.every {request : Request} (needs : request.Needs kind) :
    request.proc.Every kind := by
  cases request with
  | createDelivery dto user => exact (DeliveriesService.createDelivery_every ordinary needs dto user).map _
  | assignDelivery id dto actor =>
      exact (DeliveriesService.assignDelivery_every ordinary id dto actor).map _
  | acceptDelivery id driver user =>
      exact ((DeliveriesService.requireOwn_every ordinary _ _ _ _).bind fun _ =>
        DeliveriesService.moveOwn_every ordinary _ _ _ _ _ _).map _
  | startDelivery id driver user =>
      exact ((DeliveriesService.requireOwn_every ordinary _ _ _ _).bind fun _ =>
        DeliveriesService.moveOwn_every ordinary _ _ _ _ _ _).map _
  | completeDelivery id actor =>
      exact (DeliveriesService.completeDelivery_every ordinary id actor).map _
  | cancelDelivery id dto actor =>
      exact (DeliveriesService.cancelDelivery_every ordinary id dto actor).map _
  | departToStop id driver user =>
      exact (DeliveryStopsService.departToStop_every ordinary id driver user).map _
  | arriveAtStop id driver user =>
      exact (DeliveryStopsService.arriveAtStop_every ordinary id driver user).map _
  | startUnloading id driver user =>
      exact (DeliveryStopsService.startUnloading_every ordinary id driver user).map _
  | failStop id dto driver user =>
      exact (DeliveryStopsService.failStop_every ordinary id dto driver user).map _
  | skipStop id dto actor => exact (DeliveryStopsService.skipStop_every ordinary id dto actor).map _
  | submitPod id dto actor => exact (PodService.submitPod_every ordinary needs id dto actor).map _
  | syncOutbox dto driver user =>
      exact (DeliveryConflictsService.syncItems_every ordinary needs driver user dto.events {}).map _
  | resolveConflict id dto user role =>
      exact (DeliveryConflictsService.resolveConflict_every ordinary needs id dto user role).map _
  | selectRoute id dto actor =>
      exact (RoutesDomainService.mutateRoute_every ordinary _ _ _ _ _
        (RoutesDomainService.claimSelection_every ordinary needs.1 needs.2 id dto actor)).map _
  | reorderStops id dto actor =>
      exact (RoutesDomainService.mutateRoute_every ordinary _ _ _ _ _
        (RoutesDomainService.claimReorder_every ordinary needs.1 needs.2 id dto actor)).map _
  | sendMessage id dto actor channel =>
      exact (MessagesService.sendMessage_every ordinary needs id dto actor channel).map _

end Armada
