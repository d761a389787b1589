import Armada.Emergencies.Prisma

/-!
# EmergenciesService

`src/modules/emergencies/emergencies.service.ts`: a driver raises an alarm, and a dispatcher
acknowledges it and brings it to an end. Both look at the store before they open the
transaction that writes.
-/

namespace Armada.Emergencies

open Concurrency
open Tracking (OperationalStatus)

/-- The body of an alarm. -/
structure TriggerEmergencyDto where
  latitude : ℚ
  longitude : ℚ
  emergencyType : String
  note : Option String := none
  deliveryId : Option Uuid := none

/-- The statuses that `UpdateEmergencyStatusDto` admits. -/
inductive UpdateEmergencyStatusDto where
  | acknowledged
  | resolved
  | falseAlarm
  deriving DecidableEq

/-- The status that an update asks for. -/
def UpdateEmergencyStatusDto.status : UpdateEmergencyStatusDto → EmergencyStatus
  | .acknowledged => .acknowledged
  | .resolved => .resolved
  | .falseAlarm => .falseAlarm

namespace EmergenciesService

/-- The transaction of an alarm. The event is sent from within it; should the commit fail
afterwards, it is taken back here. -/
def trigger (driver : Driver) (driverId actorUserId : Uuid) (dto : TriggerEmergencyDto) :
    Txn sos Emergency := do
  let emergency ← Prisma.Emergency.create fun input =>
    { id := input.uuid, driverId, deliveryId := dto.deliveryId, latitude := dto.latitude
      longitude := dto.longitude, emergencyType := dto.emergencyType
      note := dto.note.filter fun text => text ≠ "", status := .triggered
      triggeredAt := input.now }
  Prisma.Driver.update driverId .emergency
  Prisma.AuditLog.create
    { actorUserId, action := "EMERGENCY_TRIGGERED", entityType := "EMERGENCY"
      entityId := emergency.id.text, result := "SUCCESS" }
  RealtimeGateway.emit
    { emergencyId := emergency.id, driverId, driverName := driver.displayName
      latitude := dto.latitude, longitude := dto.longitude, emergencyType := dto.emergencyType
      userId := actorUserId, role := .driver }
  return emergency

/-- `triggerEmergency`: the driver, then a look for an active emergency, then the transaction. -/
def triggerEmergency (driverId actorUserId : Uuid) (dto : TriggerEmergencyDto) :
    Proc sos Emergency := do
  let found ← Prisma.Driver.findUnique driverId
  let driver ← Proc.require found (.http .notFound "DRIVER_NOT_FOUND" "Driver not found")
  let activeEmergency ← Prisma.Emergency.findFirst driverId
  Proc.rejectIf (activeEmergency ≠ none)
    (.http .conflict "ACTIVE_EMERGENCY_EXISTS" "Driver already has an active unresolved emergency")
  Proc.transact (trigger driver driverId actorUserId dto)

/-- The columns that an update sets: an end is signed and dated. -/
def updateData (dto : UpdateEmergencyStatusDto) (actorUserId : Uuid) (input : Input) :
    EmergencyData :=
  if dto.status.active then { status := dto.status }
  else { status := dto.status, resolvedAt := some input.now, resolvedBy := some actorUserId }

/-- An update sets the status asked for. -/
theorem updateData_status (dto : UpdateEmergencyStatusDto) (actorUserId : Uuid) (input : Input) :
    (updateData dto actorUserId input).status = dto.status := by
  rw [updateData]
  split <;> rfl

/-- With the end of an emergency its driver goes back to work. -/
def release (driverId : Uuid) : Txn sos Unit := do
  let activeDelivery ← Prisma.Delivery.findFirst driverId
  Prisma.Driver.update driverId (if activeDelivery ≠ none then .onDelivery else .available)

/-- The transaction of an update of the emergency that was read before. -/
def settle (emergency : Emergency) (id : IdText) (dto : UpdateEmergencyStatusDto)
    (actorUserId : Uuid) : Txn sos Emergency := do
  let updated ← Prisma.Emergency.update id (updateData dto actorUserId)
  if dto.status.active = false then
    release emergency.driverId
  Prisma.AuditLog.create
    { actorUserId, action := "EMERGENCY_" ++ dto.status.name, entityType := "EMERGENCY"
      entityId := id, result := "SUCCESS" }
  return updated

/-- `updateEmergencyStatus`: a look, then the transaction. -/
def updateEmergencyStatus (id : IdText) (dto : UpdateEmergencyStatusDto) (actorUserId : Uuid) :
    Proc sos Emergency := do
  let found ← Prisma.Emergency.findUnique id
  let emergency ← Proc.require found
    (.http .notFound "EMERGENCY_NOT_FOUND" "Emergency not found")
  Proc.rejectIf (emergency.status.active = false)
    (.http .conflict "EMERGENCY_ALREADY_TERMINAL"
      "Cannot update an already resolved or false alarm emergency")
  Proc.transact (settle emergency id dto actorUserId)

end EmergenciesService

/-! ## Requests -/

/-- A call of the service, with its arguments. -/
inductive Request where
  | triggerEmergency (driverId actorUserId : Uuid) (dto : TriggerEmergencyDto)
  | updateEmergencyStatus (id : IdText) (dto : UpdateEmergencyStatusDto) (actorUserId : Uuid)

/-- A call as a process. -/
def Request.proc : Request → Proc sos Emergency
  | .triggerEmergency driverId actorUserId dto =>
      EmergenciesService.triggerEmergency driverId actorUserId dto
  | .updateEmergencyStatus id dto actorUserId =>
      EmergenciesService.updateEmergencyStatus id dto actorUserId

end Armada.Emergencies
