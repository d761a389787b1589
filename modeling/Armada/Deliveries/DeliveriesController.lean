import Armada.Auth.Schema
import Armada.Controllers

/-!
# The endpoints of a delivery, for the user of a token

`getDelivery` of `src/modules/deliveries/deliveries.controller.ts`, the mutations of
`src/modules/routes/routes.controller.ts` and `skipStop` of
`src/modules/deliveries/stops.controller.ts`: what each makes of the user that authentication
has left on the request, whose role is the code of a row.
-/

namespace Armada

open Concurrency

namespace RolesGuard

/-- `canActivate` for the user of a token: the endpoint is reached with one of its roles. -/
def activate (requiredRoles : List Role) (user : Auth.AuthUser) : Proc store Role := do
  Proc.rejectIf (user.role = "")
    (.http ⟨.forbidden, "INSUFFICIENT_ROLE", "Access denied: user has no assigned role", none⟩)
  Proc.require (requiredRoles.find? fun role => role.name = user.role)
    (.http ⟨.forbidden, "INSUFFICIENT_ROLE", "Access denied: requires one of roles [" ++
      String.intercalate ", " (requiredRoles.map Role.name) ++ "]", none⟩)

end RolesGuard

/-- The roles of every endpoint below. -/
def operators : List Role := [.admin, .superAdmin, .owner, .driver]

namespace DeliveriesController

/-- The organization of the user is not passed on. -/
def extractActor (user : Auth.AuthUser) (role : Role) : DeliveryActor :=
  { userId := user.id, role, driverId := user.driverId }

/-- `GET /v1/deliveries/:id`. -/
def getDelivery (id : IdText) (user : Auth.AuthUser) : Proc store Delivery := do
  let role ← RolesGuard.activate operators user
  DeliveriesService.getDeliveryById id (extractActor user role)

end DeliveriesController

namespace RoutesController

/-- Who asks for a route. -/
def extractActor (user : Auth.AuthUser) (role : Role) : RouteActor :=
  { userId := user.id, role, driverId := user.driverId }

/-- How each of the five endpoints begins. -/
def verifyDeliveryAccess (deliveryId : IdText) (user : Auth.AuthUser) :
    Proc store (Role × Delivery × List DeliveryStop) := do
  let role ← RolesGuard.activate operators user
  let delivery ← RoutesDomainService.verifyDeliveryAccess deliveryId (extractActor user role)
  return (role, delivery)

/-- `POST /v1/deliveries/:id/routes/select`. -/
def selectRoute (deliveryId : IdText) (dto : SelectRouteDto) (user : Auth.AuthUser) :
    Proc store Reply := do
  let role ← RolesGuard.activate operators user
  RoutesDomainService.selectRoute deliveryId dto (extractActor user role)

/-- `POST /v1/deliveries/:id/routes/reorder`. -/
def reorderStops (deliveryId : IdText) (dto : ManualReorderDto) (user : Auth.AuthUser) :
    Proc store Reply := do
  let role ← RolesGuard.activate operators user
  RoutesDomainService.reorderStops deliveryId dto (extractActor user role)

end RoutesController

namespace DeliveryStopsService

/-- How `skipStop` begins: the stop is found, and its delivery checked. -/
def verifyOwnership (stopId : Uuid) (actor : DeliveryActor) : Proc store (DeliveryStop × Delivery) := do
  let found ← getStopAndVerifyDriver stopId (verifiedDriver actor)
  Proc.rejectIf (actor.role = .owner ∧ found.2.createdBy ≠ actor.userId)
    (DeliveriesService.forbidden "You are not authorized to mutate this delivery stop")
  return found

/-- How `skipStop` goes on. -/
def skipOwned (stopId : Uuid) (dto : StopReasonDto) (actor : DeliveryActor) (stop : DeliveryStop)
    (delivery : Delivery) : Proc store (Option (DeliveryStop × Delivery)) := do
  ensureDeliveryOperational delivery.status
  Proc.rejectIf (stop.status ≠ .pending)
    (DeliveriesService.conflict "INVALID_STATE_TRANSITION"
      s!"Cannot skip stop in status {stop.status.name}. Expected PENDING")
  let updated ← updateStopIfOperational stopId [.pending] fun _ => { status := some .skipped }
  Prisma.DeliveryEvent.create stop.deliveryId (some stop.id) "STOP_SKIPPED" actor.userId
    (.reason (dto.orElse "Stop skipped by operator"))
  broadcastStopStatusChanged stop.deliveryId stopId .skipped actor
  DeliveriesService.completeDeliveryIfEligible stop.deliveryId actor
  return updated

/-- The ownership check comes before everything else. -/
theorem skipStop_eq (stopId : Uuid) (dto : StopReasonDto) (actor : DeliveryActor) :
    skipStop stopId dto actor = verifyOwnership stopId actor >>= fun found =>
      skipOwned stopId dto actor found.1 found.2 := by
  simp only [verifyOwnership, Proc.seq_assoc]
  rfl

end DeliveryStopsService

namespace StopsController

/-- Who skips a stop; a driver's profile may be missing. -/
def skipActor (user : Auth.AuthUser) (role : Role) : DeliveryActor :=
  { userId := user.id, role, driverId := user.driverId }

/-- `skipStop` for the user of a token. -/
def skip (stopId : Uuid) (dto : StopReasonDto) (user : Auth.AuthUser) :
    Proc store (Option (DeliveryStop × Delivery)) := do
  let role ← RolesGuard.activate operators user
  DeliveryStopsService.skipStop stopId dto (skipActor user role)

/-- How `skip` begins. -/
def verifyOwnership (stopId : Uuid) (user : Auth.AuthUser) :
    Proc store (Role × DeliveryStop × Delivery) := do
  let role ← RolesGuard.activate operators user
  let found ← DeliveryStopsService.verifyOwnership stopId (skipActor user role)
  return (role, found)

end StopsController

end Armada
