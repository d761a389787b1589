import Armada.Sessions.SessionService

/-!
# DeviceService

`src/modules/devices/device.service.ts`: a user registers devices, and revokes them.
-/

namespace Armada.Auth

open Concurrency

/-- The body of a registration of a device. -/
structure RegisterDeviceDto where
  deviceIdentifier : String
  platform : PlatformType
  appVersion : String
  pushToken : Option String := none

/-- The audit entry of an action on a device. -/
def auditDevice (actorUserId : Uuid) (action : String) (deviceId : JsValue) :
    Statement accounts Unit :=
  Prisma.AuditLog.create
    { actorUserId := some actorUserId, action, entityType := "DEVICE", entityId := deviceId,
      result := "SUCCESS" }

namespace DeviceService

variable [UuidSpelling]

/-- The update of a device that the user has registered before. -/
def renew (existing : Device) (dto : RegisterDeviceDto) : Proc accounts Device := do
  let seen ← ask
  Prisma.Device.update (.ok existing.id) fun _ =>
    { platform := some dto.platform, appVersion := some dto.appVersion
      pushToken := (dto.pushToken.filter fun text => text ≠ "") <|> existing.pushToken
      status := some .active, lastSeenAt := some seen.now }

/-- `registerDevice`: a device that is there becomes active again. -/
def registerDevice (userId : Uuid) (dto : RegisterDeviceDto) : Proc accounts Device := do
  let existing ← Prisma.Device.findFirst userId dto.deviceIdentifier
  match existing with
  | some existing => do
      let updated ← renew existing dto
      auditDevice userId "DEVICE_UPDATED" (spelled updated.id)
      return updated
  | none => do
      let device ← Prisma.Device.create fun input =>
        { id := input.uuid, userId, status := .active, deviceIdentifier := dto.deviceIdentifier
          platform := dto.platform, appVersion := dto.appVersion, pushToken := dto.pushToken
          lastSeenAt := input.now }
      auditDevice userId "DEVICE_REGISTERED" (spelled device.id)
      return device

/-- What a revocation does once the caller is entitled to it. -/
def revoke (deviceId : String) (device : Device) (actorUserId : Uuid) : Proc accounts Uuid := do
  let updated ← Prisma.Device.update (JsValue.string deviceId).toUuid fun _ =>
    { status := some .revoked }
  let condition := (JsValue.string deviceId).toUuid.map activeSessionsOn
  let sessions ← Prisma.Session.findMany condition
  sessions.forM fun session =>
    liftM (RedisService.setRevocation (.session (spelled session.id)) 900)
  let _ ← Proc.transact (Prisma.Session.updateMany condition)
  RedisService.publish fun input =>
    { type := .deviceRevoked, deviceId := .string deviceId, userId := spelled device.userId,
      reason := "DEVICE_REVOKED", timestamp := some input.now }
  auditDevice actorUserId "DEVICE_REVOKED" (.string deviceId)
  return updated.id

/-- The answer is `{ revoked: true }` with the id of the device. -/
def revokeDevice (deviceId : String) (actorUserId : Uuid) (actorRole : String) :
    Proc accounts Uuid := do
  let found ← Prisma.Device.findUnique (JsValue.string deviceId).toUuid
  let device ← Proc.require found (.http .notFound none "Device not found")
  Proc.rejectIf (device.userId ≠ actorUserId ∧ ¬(actorRole = "ADMIN" ∨ actorRole = "SUPER_ADMIN"))
    (.http .forbidden (some "DEVICE_OWNERSHIP_REQUIRED")
      "You are not authorized to revoke this device")
  revoke deviceId device actorUserId

end DeviceService

end Armada.Auth
