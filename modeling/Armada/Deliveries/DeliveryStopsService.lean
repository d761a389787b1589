import Armada.Deliveries.DeliveriesService

/-!
# DeliveryStopsService

`src/modules/deliveries/services/delivery-stops.service.ts`: what a driver or an
operator does to a stop. Every operation checks a snapshot and then updates the
stop on condition that it is still in an expected status and that its delivery
is still operational.
-/

namespace Armada

open Concurrency

/-- The body of `failStop` and `skipStop`. -/
structure StopReasonDto where
  reason : Option String := none
  deriving DecidableEq

/-- `reason || fallback`. -/
def StopReasonDto.orElse (dto : StopReasonDto) (fallback : String) : String :=
  (dto.reason.filter fun text => text ≠ "").getD fallback

/-- The actor that the driver endpoints build. -/
def driverActor (actorUserId actorDriverId : Uuid) : DeliveryActor :=
  { userId := actorUserId, role := .driver, driverId := some actorDriverId }

namespace DeliveryStopsService

open DeliveriesService (conflict forbidden completeDeliveryIfEligible)

/-- The event goes to the delivery's room and to the fleet's. -/
def broadcastStopStatusChanged (deliveryId stopId : Uuid) (newStatus : StopStatus)
    (actor : DeliveryActor) : Statement store Unit :=
  RealtimeGateway.emit [.delivery deliveryId.text] (.stopStatusChanged deliveryId stopId newStatus)
    actor.realtime

/-- Without a driver id there is no ownership check. -/
def getStopAndVerifyDriver (stopId : Uuid) (actorDriverId : Option Uuid) :
    Proc store (DeliveryStop × Delivery) := do
  let found ← Prisma.DeliveryStop.findUnique stopId
  let stop ← Proc.require found
    (.http ⟨.notFound, "STOP_NOT_FOUND", s!"Delivery stop {stopId} not found", none⟩)
  Proc.rejectIf (actorDriverId ≠ none ∧ stop.2.driverId ≠ actorDriverId)
    (forbidden "You are not assigned to the delivery for this stop")
  return stop

/-- A delivery that has ended takes no step of a stop. -/
def ensureDeliveryOperational (status : DeliveryStatus) : Proc store Unit :=
  Proc.rejectIf (status ∈ terminalDeliveryStatuses)
    (conflict "INVALID_DELIVERY_STATE"
      s!"Cannot mutate stop while delivery is in state {status.name}")

/-- The conditional update; where it matches no row the error depends on a
second reading. The result is a third. -/
def updateStopIfOperational (stopId : Uuid) (expectedStatus : List StopStatus)
    (data : Input → StopData) : Proc store (Option (DeliveryStop × Delivery)) := do
  let count ← Prisma.DeliveryStop.updateMany stopId expectedStatus terminalDeliveryStatuses data
  if count ≠ 1 then
    let current ← Prisma.DeliveryStop.findUnique stopId
    match current with
    | some (_, delivery) => ensureDeliveryOperational delivery.status
    | none => pure ()
    throw (conflict "INVALID_STATE_TRANSITION"
      s!"Cannot mutate stop {stopId} from its current state")
  else
    Prisma.DeliveryStop.findUnique stopId

/-- `departToStop`: from PENDING. -/
def departToStop (stopId actorDriverId actorUserId : Uuid) :
    Proc store (Option (DeliveryStop × Delivery)) := do
  let (stop, delivery) ← getStopAndVerifyDriver stopId (some actorDriverId)
  Proc.rejectIf (delivery.status ≠ .enRoute)
    (conflict "INVALID_DELIVERY_STATE"
      s!"Cannot depart to stop while delivery is in state {delivery.status.name}. Expected EN_ROUTE")
  Proc.rejectIf (stop.status ≠ .pending)
    (conflict "INVALID_STATE_TRANSITION"
      s!"Cannot depart to stop in status {stop.status.name}. Expected PENDING")
  let updated ← updateStopIfOperational stopId [.pending] fun _ => { status := some .enRoute }
  broadcastStopStatusChanged stop.deliveryId stopId .enRoute (driverActor actorUserId actorDriverId)
  return updated

/-- `arriveAtStop`: from EN_ROUTE, or PENDING at once. -/
def arriveAtStop (stopId actorDriverId actorUserId : Uuid) :
    Proc store (Option (DeliveryStop × Delivery)) := do
  let (stop, delivery) ← getStopAndVerifyDriver stopId (some actorDriverId)
  Proc.rejectIf (delivery.status ≠ .enRoute)
    (conflict "INVALID_DELIVERY_STATE"
      s!"Cannot arrive at stop while delivery is in state {delivery.status.name}. Expected EN_ROUTE")
  Proc.rejectIf (stop.status ≠ .enRoute ∧ stop.status ≠ .pending)
    (conflict "INVALID_STATE_TRANSITION"
      s!"Cannot arrive at stop in status {stop.status.name}. Expected EN_ROUTE or PENDING")
  let updated ← updateStopIfOperational stopId [.enRoute, .pending] fun input =>
    { status := some .arrived, arrivedAt := some input.now }
  broadcastStopStatusChanged stop.deliveryId stopId .arrived (driverActor actorUserId actorDriverId)
  return updated

/-- `startUnloading`: from ARRIVED. -/
def startUnloading (stopId actorDriverId actorUserId : Uuid) :
    Proc store (Option (DeliveryStop × Delivery)) := do
  let (stop, delivery) ← getStopAndVerifyDriver stopId (some actorDriverId)
  ensureDeliveryOperational delivery.status
  Proc.rejectIf (stop.status ≠ .arrived)
    (conflict "INVALID_STATE_TRANSITION"
      s!"Cannot start unloading at stop in status {stop.status.name}. Expected ARRIVED")
  let updated ← updateStopIfOperational stopId [.arrived] fun _ => { status := some .unloading }
  broadcastStopStatusChanged stop.deliveryId stopId .unloading
    (driverActor actorUserId actorDriverId)
  return updated

/-- `failStop`, with a reason; then the delivery is evaluated. -/
def failStop (stopId : Uuid) (dto : StopReasonDto) (actorDriverId actorUserId : Uuid) :
    Proc store (Option (DeliveryStop × Delivery)) := do
  let (stop, delivery) ← getStopAndVerifyDriver stopId (some actorDriverId)
  ensureDeliveryOperational delivery.status
  Proc.rejectIf (stop.status ≠ .arrived ∧ stop.status ≠ .unloading ∧ stop.status ≠ .enRoute)
    (conflict "INVALID_STATE_TRANSITION" s!"Cannot fail stop in status {stop.status.name}")
  let updated ← updateStopIfOperational stopId [.arrived, .unloading, .enRoute] fun input =>
    { status := some .failed, completedAt := some input.now }
  Prisma.DeliveryEvent.create stop.deliveryId (some stop.id) "STOP_FAILED" actorUserId
    (.reason (dto.orElse "Stop execution failed"))
  broadcastStopStatusChanged stop.deliveryId stopId .failed (driverActor actorUserId actorDriverId)
  completeDeliveryIfEligible stop.deliveryId (driverActor actorUserId actorDriverId)
  return updated

/-- The driver a caller must be: his own id for a driver, nobody for the others. -/
def verifiedDriver (actor : DeliveryActor) : Option Uuid :=
  if actor.role = .driver then actor.driverId else none

/-- `skipStop`, with a reason; then the delivery is evaluated. -/
def skipStop (stopId : Uuid) (dto : StopReasonDto) (actor : DeliveryActor) :
    Proc store (Option (DeliveryStop × Delivery)) := do
  let (stop, delivery) ← getStopAndVerifyDriver stopId (verifiedDriver actor)
  Proc.rejectIf (actor.role = .owner ∧ delivery.createdBy ≠ actor.userId)
    (forbidden "You are not authorized to mutate this delivery stop")
  ensureDeliveryOperational delivery.status
  Proc.rejectIf (stop.status ≠ .pending)
    (conflict "INVALID_STATE_TRANSITION"
      s!"Cannot skip stop in status {stop.status.name}. Expected PENDING")
  let updated ← updateStopIfOperational stopId [.pending] fun _ => { status := some .skipped }
  Prisma.DeliveryEvent.create stop.deliveryId (some stop.id) "STOP_SKIPPED" actor.userId
    (.reason (dto.orElse "Stop skipped by operator"))
  broadcastStopStatusChanged stop.deliveryId stopId .skipped actor
  completeDeliveryIfEligible stop.deliveryId actor
  return updated

end DeliveryStopsService

end Armada
