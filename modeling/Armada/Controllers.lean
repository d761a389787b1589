import Armada.Requests

/-!
# The endpoints of a driver's stops

`src/modules/deliveries/stops.controller.ts`, and of `src/modules/pod/pod.controller.ts`
the submission: who may call the operations on a stop, and with which driver id. The
guard of the roles is `src/common/guards/roles.guard.ts`.
-/

namespace Armada

open Concurrency

/-- The user that a valid token names, as far as these endpoints look at it. Without a
driver profile the driver id is null; a registered user starts without one. -/
structure AuthUser where
  id : Uuid
  role : Role
  driverId : Option Uuid := none
  deriving DecidableEq

/-- The code of a role. -/
def Role.name : Role → String
  | .driver => "DRIVER"
  | .owner => "OWNER"
  | .admin => "ADMIN"
  | .superAdmin => "SUPER_ADMIN"

namespace RolesGuard

/-- The guard of an endpoint. -/
def canActivate (requiredRoles : List Role) (user : AuthUser) : Proc store Unit :=
  Proc.rejectIf (user.role ∉ requiredRoles)
    (.http ⟨.forbidden, "INSUFFICIENT_ROLE", "Access denied: requires one of roles [" ++
      String.intercalate ", " (requiredRoles.map Role.name) ++ "]", none⟩)

end RolesGuard

/-- Thrown where the user has to be a driver and has no profile. -/
def driverProfileRequired : Exception :=
  .http ⟨.forbidden, "DRIVER_PROFILE_REQUIRED", "Driver profile required", none⟩

namespace StopsController

/-- `POST /me/stops/:id/depart`. -/
def departToStop (stopId : Uuid) (user : AuthUser) :
    Proc store (Option (DeliveryStop × Delivery)) := do
  RolesGuard.canActivate [.driver] user
  let driverId ← Proc.require user.driverId driverProfileRequired
  DeliveryStopsService.departToStop stopId driverId user.id

/-- `POST /me/stops/:id/arrive`. -/
def arriveAtStop (stopId : Uuid) (user : AuthUser) :
    Proc store (Option (DeliveryStop × Delivery)) := do
  RolesGuard.canActivate [.driver] user
  let driverId ← Proc.require user.driverId driverProfileRequired
  DeliveryStopsService.arriveAtStop stopId driverId user.id

/-- `POST /me/stops/:id/unload`. -/
def startUnloading (stopId : Uuid) (user : AuthUser) :
    Proc store (Option (DeliveryStop × Delivery)) := do
  RolesGuard.canActivate [.driver] user
  let driverId ← Proc.require user.driverId driverProfileRequired
  DeliveryStopsService.startUnloading stopId driverId user.id

/-- `POST /me/stops/:id/fail`. -/
def failStop (stopId : Uuid) (dto : StopReasonDto) (user : AuthUser) :
    Proc store (Option (DeliveryStop × Delivery)) := do
  RolesGuard.canActivate [.driver] user
  let driverId ← Proc.require user.driverId driverProfileRequired
  DeliveryStopsService.failStop stopId dto driverId user.id

/-- The one endpoint that passes a missing driver id on. -/
def skipStop (stopId : Uuid) (dto : StopReasonDto) (user : AuthUser) :
    Proc store (Option (DeliveryStop × Delivery)) := do
  RolesGuard.canActivate [.admin, .superAdmin, .owner, .driver] user
  DeliveryStopsService.skipStop stopId dto
    { userId := user.id, role := user.role, driverId := user.driverId }

end StopsController

/-- The status code of a submission. -/
def PodReply.httpCode : PodReply → Nat
  | .reply (.fresh _) => 201
  | .reply (.replayed _) => 200
  | .alreadySubmitted .. => 200

namespace PodController

/-- `POST /me/stops/:id/pod`. -/
def submitPod [UuidText] (stopId : Uuid) (dto : SubmitPodDto) (user : AuthUser) :
    Proc store (Nat × PodReply) := do
  RolesGuard.canActivate [.driver] user
  let driverId ← Proc.require user.driverId driverProfileRequired
  let result ← PodService.submitPod stopId dto
    { userId := user.id, role := user.role, driverId := some driverId }
  return (result.httpCode, result)

end PodController

/-- A request to one of the endpoints. -/
inductive StopCall where
  | depart (stopId : Uuid)
  | arrive (stopId : Uuid)
  | unload (stopId : Uuid)
  | fail (stopId : Uuid) (dto : StopReasonDto)
  | skip (stopId : Uuid) (dto : StopReasonDto)
  | pod (stopId : Uuid) (dto : SubmitPodDto)
  deriving DecidableEq

/-- The process of a request of a user. -/
def StopCall.proc [UuidText] (user : AuthUser) : StopCall → Proc store Response
  | .depart stopId => Response.stop <$> StopsController.departToStop stopId user
  | .arrive stopId => Response.stop <$> StopsController.arriveAtStop stopId user
  | .unload stopId => Response.stop <$> StopsController.startUnloading stopId user
  | .fail stopId dto => Response.stop <$> StopsController.failStop stopId dto user
  | .skip stopId dto => Response.stop <$> StopsController.skipStop stopId dto user
  | .pod stopId dto => (Response.pod ∘ Prod.snd) <$> PodController.submitPod stopId dto user

end Armada
