import Armada.Devices.DeviceService

/-!
# NotificationService

`registerPushToken` of `src/modules/notifications/services/notification.service.ts`. The
cleanup of stale tokens there sets no column but `pushToken`.
-/

namespace Armada.Auth

open Concurrency

/-- The body of a registration of a token. -/
structure RegisterPushTokenDto where
  deviceId : String
  pushToken : String

namespace NotificationService

variable [UuidSpelling]

/-- The answer is `{ pushTokenRegistered: true }` with the id of the device. -/
def registerPushToken (dto : RegisterPushTokenDto) (actorUserId : Uuid) : Proc accounts Uuid := do
  let found ← Prisma.Device.findUnique (JsValue.string dto.deviceId).toUuid
  let device ← Proc.require found
    (.http .notFound (some "DEVICE_NOT_FOUND") s!"Device with ID {dto.deviceId} not found")
  Proc.rejectIf (device.userId ≠ actorUserId)
    (.http .forbidden (some "DEVICE_OWNERSHIP_REQUIRED") "You do not own this device")
  let seen ← ask
  let updated ← Prisma.Device.update (JsValue.string dto.deviceId).toUuid fun _ =>
    { pushToken := some dto.pushToken, status := some .active, lastSeenAt := some seen.now }
  auditDevice actorUserId "PUSH_TOKEN_REGISTERED" (.string dto.deviceId)
  return updated.id

end NotificationService

end Armada.Auth
