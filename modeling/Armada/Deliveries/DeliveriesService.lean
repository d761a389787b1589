import Armada.Prisma

/-!
# DeliveriesService

`src/modules/deliveries/services/deliveries.service.ts`: the lifecycle of a
delivery. `assignDelivery`, `acceptDelivery` and `startDelivery` check a snapshot
and then update unconditionally; completion and cancellation claim the row with a
conditional update inside a transaction.
-/

namespace Armada

open Concurrency

/-- Who acts on a delivery. -/
structure DeliveryActor where
  userId : Uuid
  role : Role
  driverId : Option Uuid := none
  organizationId : Option Uuid := none
  deriving DecidableEq

/-- The actor of an event. -/
def DeliveryActor.realtime (actor : DeliveryActor) : RealtimeActor :=
  ⟨actor.userId, actor.role, actor.driverId⟩

/-- An item of a new delivery. -/
structure CreateDeliveryItemDto where
  itemCode : String
  itemName : String
  quantity : Rat
  unit : String
  weightKg : Option Rat := none
  volumeM3 : Option Rat := none
  deriving DecidableEq

/-- A stop of a new delivery. -/
structure CreateDeliveryStopDto where
  sequence : Int
  destinationName : String
  address : String
  latitude : Rat
  longitude : Rat
  geofenceRadiusM : Option Rat := some 100
  deriving DecidableEq

/-- The body of a new delivery. -/
structure CreateDeliveryDto where
  deliveryCode : String
  plannedStartAt : Option Instant := none
  items : List CreateDeliveryItemDto
  stops : List CreateDeliveryStopDto
  deriving DecidableEq

/-- The body of an assignment. -/
structure AssignDeliveryDto where
  driverId : Uuid
  vehicleId : Uuid
  deriving DecidableEq

/-- The body of a cancellation. -/
structure CancelDeliveryDto where
  reason : String
  deriving DecidableEq

/-- What `evaluateDeliveryCompletion` returns. -/
structure CompletionEvaluation where
  completed : Bool
  targetStatus : Option DeliveryStatus := none
  unfinishedStops : Option (List DeliveryStop) := none
  deriving DecidableEq

namespace DeliveriesService

/-- An answer with the status 409. -/
def conflict (code message : String) : Exception :=
  .http ⟨.conflict, code, message, none⟩

/-- An answer with the status 403. -/
def forbidden (message : String) : Exception :=
  .http ⟨.forbidden, "RESOURCE_FORBIDDEN", message, none⟩

/-- The event goes to the delivery's room and to the fleet's. -/
def broadcastStatusChanged (deliveryId : IdText) (newStatus : DeliveryStatus)
    (actor : DeliveryActor) : Statement store Unit :=
  RealtimeGateway.emit [.delivery deliveryId, .fleetMonitoring]
    (.deliveryStatusChanged deliveryId newStatus) actor.realtime

/-- A number that is falsy when absent or zero, `value || null`. -/
def orNull (value : Option Rat) : Option Rat :=
  value.filter fun number => number ≠ 0

/-- `getDeliveryById`, for the driver and the creator of the delivery, and for administrators. -/
def getDeliveryById (id : IdText) (actor : DeliveryActor) : Proc store Delivery := do
  let found ← Prisma.Delivery.findUnique id
  let delivery ← Proc.require found
    (.http ⟨.notFound, "DELIVERY_NOT_FOUND", s!"Delivery with ID {id} not found", none⟩)
  Proc.rejectIf
    (actor.role = .driver ∧ (actor.driverId = none ∨ delivery.driverId ≠ actor.driverId))
    (forbidden "You are not assigned to this delivery")
  Proc.rejectIf
    (actor.role = .owner ∧ delivery.createdBy ≠ actor.userId ∧
      (actor.organizationId = none ∨ delivery.organizationId ≠ actor.organizationId))
    (forbidden "You are not authorized to access this delivery")
  return delivery

/-- The stops are inserted one after the other. -/
def createStops (deliveryId : Uuid) : List CreateDeliveryStopDto → Txn store Unit
  | [] => return ()
  | stop :: stops => do
      Prisma.DeliveryStop.create fun id =>
        { id, deliveryId, sequence := stop.sequence, destinationName := stop.destinationName,
          address := stop.address, latitude := stop.latitude, longitude := stop.longitude,
          geofenceRadiusM := (orNull stop.geofenceRadiusM).getD 100, status := .pending }
      createStops deliveryId stops

/-- `createDelivery`: a new code, then the delivery with its items, stops and audit row in one
transaction. -/
def createDelivery (dto : CreateDeliveryDto) (creatorUserId : Uuid) : Proc store Delivery := do
  let existingCode ← Prisma.Delivery.findByCode dto.deliveryCode
  Proc.rejectIf (existingCode ≠ none)
    (.http ⟨.badRequest, "DUPLICATE_DELIVERY_CODE",
      s!"Delivery code {dto.deliveryCode} already exists", none⟩)
  Proc.transact do
    let delivery ← Prisma.Delivery.create dto.deliveryCode dto.plannedStartAt creatorUserId
    Prisma.DeliveryItem.createMany <| dto.items.map fun item =>
      { deliveryId := delivery.id, itemCode := item.itemCode, itemName := item.itemName,
        quantity := item.quantity, unit := item.unit, weightKg := orNull item.weightKg,
        volumeM3 := orNull item.volumeM3 }
    createStops delivery.id dto.stops
    Prisma.AuditLog.create
      { actorUserId := creatorUserId, action := "DELIVERY_CREATED", entityType := "DELIVERY",
        entityId := delivery.id.text, result := "SUCCESS" }
    return delivery

/-- `assignDelivery`: the delivery, the driver and the vehicle are read, then it updates by id. -/
def assignDelivery (deliveryId : IdText) (dto : AssignDeliveryDto) (actor : DeliveryActor) :
    Proc store Delivery := do
  let delivery ← getDeliveryById deliveryId actor
  Proc.rejectIf (delivery.status ≠ .draft ∧ delivery.status ≠ .assigned)
    (conflict "INVALID_STATE_TRANSITION"
      s!"Cannot assign delivery in state {delivery.status.name}. Expected DRAFT or ASSIGNED")
  let driver ← Prisma.Driver.findUnique dto.driverId
  Proc.rejectIf (driver = none)
    (.http ⟨.notFound, "DRIVER_NOT_FOUND", "Driver not found", none⟩)
  let vehicle ← Prisma.Vehicle.findUnique dto.vehicleId
  Proc.rejectIf (vehicle = none)
    (.http ⟨.notFound, "VEHICLE_NOT_FOUND", "Vehicle not found", none⟩)
  let updated ← Prisma.Delivery.update deliveryId fun _ =>
    { driverId := some dto.driverId, vehicleId := some dto.vehicleId, status := some .assigned }
  Prisma.AuditLog.create
    { actorUserId := actor.userId, action := "DELIVERY_ASSIGNED", entityType := "DELIVERY",
      entityId := deliveryId, result := "SUCCESS",
      detail := some (.assignment dto.driverId dto.vehicleId) }
  broadcastStatusChanged deliveryId .assigned actor
  return updated

/-- The checks that `acceptDelivery` and `startDelivery` make on their snapshot. -/
def requireOwn (deliveryId : IdText) (actorDriverId : Uuid) (verb : String) (expected : DeliveryStatus) :
    Proc store Unit := do
  let found ← Prisma.Delivery.findUnique deliveryId
  let delivery ← Proc.require found
    (.http ⟨.notFound, "DELIVERY_NOT_FOUND", "Delivery not found", none⟩)
  Proc.rejectIf (delivery.driverId ≠ some actorDriverId)
    (forbidden "You are not the assigned driver for this delivery")
  Proc.rejectIf (delivery.status ≠ expected)
    (conflict "INVALID_STATE_TRANSITION"
      s!"Cannot {verb} delivery in state {delivery.status.name}. Expected {expected.name}")

/-- The update, audit row and broadcast that follow those checks. -/
def moveOwn (deliveryId : IdText) (actorDriverId actorUserId : Uuid) (status : DeliveryStatus)
    (data : Input → DeliveryData) (action : String) : Proc store Delivery := do
  let updated ← Prisma.Delivery.update deliveryId data
  Prisma.AuditLog.create
    { actorUserId, action, entityType := "DELIVERY", entityId := deliveryId, result := "SUCCESS" }
  broadcastStatusChanged deliveryId status
    { userId := actorUserId, role := .driver, driverId := some actorDriverId }
  return updated

/-- `acceptDelivery`. -/
def acceptDelivery (deliveryId : IdText) (actorDriverId actorUserId : Uuid) : Proc store Delivery := do
  requireOwn deliveryId actorDriverId "accept" .assigned
  moveOwn deliveryId actorDriverId actorUserId .accepted
    (fun _ => { status := some .accepted }) "DELIVERY_ACCEPTED"

/-- `startDelivery`. -/
def startDelivery (deliveryId : IdText) (actorDriverId actorUserId : Uuid) : Proc store Delivery := do
  requireOwn deliveryId actorDriverId "start" .accepted
  moveOwn deliveryId actorDriverId actorUserId .enRoute
    (fun input => { status := some .enRoute, startedAt := some input.now }) "DELIVERY_STARTED"

/-- The verdict on a delivery's stops: finished when there are stops and all are
terminal, as COMPLETED if one was delivered and as FAILED otherwise. -/
def evaluateStops (stops : List DeliveryStop) : CompletionEvaluation :=
  if stops.length = 0 then { completed := false }
  else
    let unfinishedStops := stops.filter fun stop => stop.status ∉ terminalStatuses
    if 0 < unfinishedStops.length then
      { completed := false, unfinishedStops := some unfinishedStops }
    else
      let hasDeliveredStop := stops.any fun stop => stop.status = .delivered
      { completed := true, targetStatus := some (if hasDeliveredStop then .completed else .failed) }

/-- The stops are read and evaluated. -/
def evaluateDeliveryCompletion (deliveryId : Uuid) : Txn store CompletionEvaluation := do
  let stops ← Prisma.DeliveryStop.findMany deliveryId
  return evaluateStops stops

/-- The transaction of `completeDelivery`. -/
def claimCompletion (deliveryId : IdText) (actor : DeliveryActor) :
    Txn store (Option Delivery) := do
  let isEligible ← evaluateDeliveryCompletion deliveryId
  Txn.rejectIf (isEligible.completed = false)
    (.http ⟨.conflict, "UNFINISHED_STOPS_REMAIN",
      "Cannot complete delivery: unfinished or active stops remain", isEligible.unfinishedStops⟩)
  let finalStatus := isEligible.targetStatus.getD .completed
  let claimed ← Prisma.Delivery.updateMany deliveryId (· = .enRoute) fun input =>
    { status := some finalStatus, completedAt := some input.now }
  Txn.rejectIf (claimed ≠ 1)
    (conflict "INVALID_STATE_TRANSITION"
      "Delivery state changed before completion could be recorded")
  let result ← Prisma.Delivery.findUnique deliveryId
  Prisma.AuditLog.create
    { actorUserId := actor.userId,
      action := if finalStatus = .completed then "DELIVERY_COMPLETED" else "DELIVERY_FAILED",
      entityType := "DELIVERY", entityId := deliveryId, result := "SUCCESS" }
  return result

/-- The row after completion, or `none` where the answer is `alreadyCompleted`. -/
def completeDelivery (deliveryId : IdText) (actor : DeliveryActor) :
    Proc store (Option Delivery) := do
  let delivery ← getDeliveryById deliveryId actor
  if delivery.status = .completed then
    return none
  else
    Proc.rejectIf (delivery.status ≠ .enRoute)
      (conflict "INVALID_STATE_TRANSITION"
        s!"Cannot complete delivery in status {delivery.status.name}. Expected EN_ROUTE")
    let result ← Proc.transact (claimCompletion deliveryId actor)
    let updated ← Proc.require result .typeError
    broadcastStatusChanged deliveryId updated.status actor
    return some updated

/-- The transaction of `cancelDelivery`. -/
def claimCancellation (deliveryId : IdText) (dto : CancelDeliveryDto) (actor : DeliveryActor) :
    Txn store (Option Delivery) := do
  let claimed ← Prisma.Delivery.updateMany deliveryId (· ∉ terminalDeliveryStatuses) fun _ =>
    { status := some .cancelled }
  Txn.rejectIf (claimed ≠ 1)
    (conflict "TERMINAL_STATE_CANNOT_BE_CANCELLED"
      "Delivery is already in a terminal state and cannot be cancelled")
  let result ← Prisma.Delivery.findUnique deliveryId
  Prisma.AuditLog.create
    { actorUserId := actor.userId, action := "DELIVERY_CANCELLED", entityType := "DELIVERY",
      entityId := deliveryId, result := "SUCCESS",
      detail := some (.cancellation dto.reason) }
  return result

/-- `cancelDelivery`: the transaction looks at the status again. -/
def cancelDelivery (deliveryId : IdText) (dto : CancelDeliveryDto) (actor : DeliveryActor) :
    Proc store (Option Delivery) := do
  let _ ← getDeliveryById deliveryId actor
  let updated ← Proc.transact (claimCancellation deliveryId dto actor)
  broadcastStatusChanged deliveryId .cancelled actor
  return updated

/-- The transaction of `completeDeliveryIfEligible`. -/
def claimIfEligible (deliveryId : Uuid) : Txn store (Option Delivery) := do
  let evaluation ← evaluateDeliveryCompletion deliveryId
  match evaluation.targetStatus with
  | none => return none
  | some targetStatus =>
      if evaluation.completed then
        let claimed ← Prisma.Delivery.updateMany deliveryId (· = .enRoute) fun input =>
          { status := some targetStatus, completedAt := some input.now }
        if claimed ≠ 1 then return none
        else Prisma.Delivery.findUnique deliveryId
      else return none

/-- Any error is logged and swallowed. -/
def completeDeliveryIfEligible (deliveryId : Uuid) (actor : DeliveryActor) : Proc store Unit :=
  tryCatch
    (do
      let updated ← Proc.transact (claimIfEligible deliveryId)
      match updated with
      | some row => broadcastStatusChanged deliveryId.text row.status actor
      | none => return ())
    fun _ => return ()

end DeliveriesService

end Armada
