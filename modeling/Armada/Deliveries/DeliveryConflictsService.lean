import Armada.Pod.PodService

/-!
# DeliveryConflictsService

`src/modules/deliveries/services/delivery-conflicts.service.ts`: the outbox of an
offline driver, and the tickets for events that arrive after a cancellation.
-/

namespace Armada

open Concurrency

/-- A validated batch of offline events. -/
structure OutboxSyncDto where
  events : List OutboxEventItem
  bounded : 1 ≤ events.length ∧ events.length ≤ 50
  named : ∀ item ∈ events, item.clientEventId ≠ "" ∧ item.eventType ≠ ""

/-- A ticket in the answer of a batch. -/
structure SyncConflict where
  clientEventId : String
  conflictId : Uuid
  type : String
  deriving DecidableEq

/-- What a batch answers. -/
structure SyncResult where
  acked : List String := []
  conflicts : List SyncConflict := []
  deriving DecidableEq

/-- The body of a resolution. -/
structure ResolveConflictDto where
  status : ConflictStatus
  resolutionNotes : Option String := none
  deriving DecidableEq

/-- `payload.deliveryStopId || payload.stopId`. -/
def OutboxPayload.target (payload : OutboxPayload) : JsValue :=
  payload.deliveryStopId.or payload.stopId

namespace DeliveryConflictsService

open DeliveryStopsService (departToStop arriveAtStop startUnloading)

/-- The type of every ticket that a batch opens. -/
def staleOfflineCompletion : String := "STALE_OFFLINE_COMPLETION"

/-- The reading of the stop with which every event that names one begins, and the
id it names. An id that is no UUID makes the reading fail. -/
def readTarget [UuidText] (target : JsValue) :
    Proc store (Option (Uuid × Option (DeliveryStop × Delivery))) :=
  if target.truthy then
    match target.toUuid with
    | .error error => throw (.prisma error)
    | .ok stopId => do
        let stop ← Prisma.DeliveryStop.findUnique stopId
        return some (stopId, stop)
  else return none

/-- Open a ticket for an item. -/
def openConflict (deliveryId : Uuid) (item : OutboxEventItem) : Proc store SyncConflict := do
  let conflict ← Prisma.DeliveryConflict.create deliveryId item.clientEventId
    staleOfflineCompletion "CANCELLED" item
  return ⟨item.clientEventId, conflict.id, staleOfflineCompletion⟩

/-- What the `stop.pod` event submits. -/
def podOf (item : OutboxEventItem) : SubmitPodDto where
  receiverName := item.payload.receiverName.or (.string "Offline Receiver")
  photoFileId := item.payload.photoFileId
  signatureFileId := item.payload.signatureFileId
  notes := item.payload.notes
  idempotencyKey := item.idempotencyKey

variable [UuidText]

/-- The dispatch on the event type; no branch need apply. -/
def dispatch (item : OutboxEventItem) (stopId : Option Uuid) (actorDriverId actorUserId : Uuid) :
    Proc store Unit :=
  match stopId with
  | none => return ()
  | some stopId =>
      if item.eventType = "stop.depart" then do
        let _ ← departToStop stopId actorDriverId actorUserId
      else if item.eventType = "stop.arrive" then do
        let _ ← arriveAtStop stopId actorDriverId actorUserId
      else if item.eventType = "stop.unload" then do
        let _ ← startUnloading stopId actorDriverId actorUserId
      else if item.eventType = "stop.pod" then do
        let _ ← PodService.submitPod stopId (podOf item) (driverActor actorUserId actorDriverId)
      else return ()

/-- One turn of the loop: the ticket it opened, or `none` where the event is
acknowledged. -/
def syncItem (item : OutboxEventItem) (actorDriverId actorUserId : Uuid) :
    Proc store (Option SyncConflict) := do
  let target ← readTarget item.payload.target
  match target.bind Prod.snd with
  | some (stop, delivery) =>
      if delivery.status = .cancelled then
        some <$> openConflict stop.deliveryId item
      else do
        dispatch item (target.map Prod.fst) actorDriverId actorUserId
        return none
  | none => do
      dispatch item (target.map Prod.fst) actorDriverId actorUserId
      return none

/-- The loop; an error of a turn is logged and the event left out. -/
def syncItems (actorDriverId actorUserId : Uuid) :
    List OutboxEventItem → SyncResult → Proc store SyncResult
  | [], result => return result
  | item :: items, result => do
      let turn ← tryCatch
        (do
          let ticket ← syncItem item actorDriverId actorUserId
          match ticket with
          | some ticket => return { result with conflicts := result.conflicts ++ [ticket] }
          | none => return { result with acked := result.acked ++ [item.clientEventId] })
        fun _ => return result
      syncItems actorDriverId actorUserId items turn

/-- `syncOutbox`: the items of the batch in their order. -/
def syncOutbox (dto : OutboxSyncDto) (actorDriverId actorUserId : Uuid) : Proc store SyncResult :=
  syncItems actorDriverId actorUserId dto.events {}

/-- The notes an override leaves on a proof of delivery. -/
def overrideNotes (actorUserId : Uuid) : String :=
  s!"Resolved via Conflict Override by {actorUserId}"

/-- Whether all stops are terminal, and one delivered. -/
def overrideCompletes (stops : List DeliveryStop) : Bool :=
  (stops.all fun stop => stop.status ∈ terminalStatuses) &&
    stops.any fun stop => stop.status = .delivered

/-- The proof of delivery of an override, if a receiver is named. -/
def acceptEvidence (payload : OutboxPayload) (stopId actorUserId : Uuid) : Txn store Unit :=
  if payload.receiverName.truthy then
    Prisma.ProofOfDelivery.upsert stopId payload.receiverName payload.photoFileId
      (overrideNotes actorUserId) actorUserId
  else pure ()

/-- The stop of an override, and the delivery of its ticket if that finishes it. -/
def deliverStop (deliveryId stopId : Uuid) : Txn store Unit := do
  let _ ← Prisma.DeliveryStop.update stopId fun input =>
    { status := some .delivered, completedAt := some input.now }
  let allStops ← Prisma.DeliveryStop.findMany deliveryId
  if overrideCompletes allStops then do
    let _ ← Prisma.Delivery.update deliveryId fun input =>
      { status := some .completed, completedAt := some input.now }
  else pure ()

/-- The branch for `RESOLVED_OVERRIDDEN`. -/
def override (conflict : DeliveryConflict) (actorUserId : Uuid) : Txn store Unit :=
  let eventPayload := conflict.clientPayload.payload
  if eventPayload.target.truthy then
    match eventPayload.target.toUuid with
    | .error error => .fail (.prisma error)
    | .ok stopId => do
        acceptEvidence eventPayload stopId actorUserId
        deliverStop conflict.deliveryId stopId
  else pure ()

/-- The transaction of `resolveConflict`. -/
def resolve (conflict : DeliveryConflict) (conflictId : IdText) (dto : ResolveConflictDto)
    (actorUserId : Uuid) : Txn store DeliveryConflict := do
  let updatedConflict ← Prisma.DeliveryConflict.update conflictId fun input =>
    { status := dto.status, resolvedBy := actorUserId,
      resolutionNotes := dto.resolutionNotes.filter fun text => text ≠ "",
      resolvedAt := input.now }
  if dto.status = .resolvedOverridden then override conflict actorUserId else pure ()
  Prisma.AuditLog.create
    { actorUserId, action := "CONFLICT_RESOLVED", entityType := "DELIVERY_CONFLICT",
      entityId := conflictId, result := "SUCCESS",
      detail := some (.resolution dto.status dto.resolutionNotes) }
  return updatedConflict

/-- `resolveConflict`: not for drivers, and only an OPEN ticket. -/
def resolveConflict (conflictId : IdText) (dto : ResolveConflictDto) (actorUserId : Uuid)
    (actorRole : Role) : Proc store DeliveryConflict := do
  Proc.rejectIf (actorRole = .driver)
    (.http ⟨.forbidden, "FORBIDDEN", "Drivers are not authorized to resolve conflict tickets",
      none⟩)
  let found ← Prisma.DeliveryConflict.findUnique conflictId
  let conflict ← Proc.require found
    (.http ⟨.notFound, "CONFLICT_NOT_FOUND", s!"Conflict ticket {conflictId} not found", none⟩)
  Proc.rejectIf (conflict.status ≠ .opened)
    (.http ⟨.badRequest, "CONFLICT_ALREADY_RESOLVED",
      s!"Conflict ticket {conflictId} is already {conflict.status.name}", none⟩)
  Proc.transact (resolve conflict conflictId dto actorUserId)

end DeliveryConflictsService

end Armada
