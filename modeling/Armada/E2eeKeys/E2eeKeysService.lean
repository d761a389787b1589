import Armada.E2eeKeys.Prisma

/-!
# E2eeKeysService

`src/modules/e2ee-keys/e2ee-keys.service.ts`: a device publishes its identity key and batches
of one-time prekeys, and whoever writes to it takes a bundle with one prekey.
-/

namespace Armada.E2eeKeys

open Concurrency

/-- The body of a registration. -/
structure RegisterDeviceKeysDto where
  deviceId : String
  identityKeyPublic : String
  signedPrekeyPublic : String
  signedPrekeySig : String

/-- A one-time prekey as it is sent and handed out. -/
structure OneTimePrekey where
  keyId : Int
  publicKey : String
  deriving DecidableEq

/-- The body of an upload. -/
structure UploadPrekeysDto where
  deviceId : String
  prekeys : List OneTimePrekey

/-- What a registration answers. -/
structure RegisteredKeys where
  deviceId : Uuid
  identityKeyPublic : String
  signedPrekeyPublic : String
  deriving DecidableEq

/-- What an upload answers. -/
structure UploadedPrekeys where
  deviceId : String
  uploadedCount : Nat
  totalAvailable : Nat
  deriving DecidableEq

/-- The keys that another device needs to begin a session. -/
structure PrekeyBundle where
  deviceId : String
  identityKeyPublic : String
  signedPrekeyPublic : String
  signedPrekeySig : String
  oneTimePrekey : Option OneTimePrekey
  deriving DecidableEq

namespace E2eeKeysService

variable [Auth.UuidSpelling]

/-- The device under an id, which has to belong to the actor. -/
def ownDevice (deviceId : String) (actorUserId : Uuid) : Proc keys Device := do
  let found ← Prisma.Device.findUnique (JsValue.string deviceId).toUuid
  let device ← Proc.require found (.http .notFound none "Device not found")
  Proc.rejectIf (device.userId ≠ actorUserId)
    (.http .forbidden (some "DEVICE_OWNERSHIP_REQUIRED") "You do not own this device")
  return device

/-- `registerDeviceKeys`. -/
def registerDeviceKeys (dto : RegisterDeviceKeysDto) (actorUserId : Uuid) :
    Proc keys RegisteredKeys := do
  let _ ← ownDevice dto.deviceId actorUserId
  let deviceKey ← Prisma.DeviceKey.upsert (JsValue.string dto.deviceId).toUuid
    dto.identityKeyPublic dto.signedPrekeyPublic dto.signedPrekeySig
  Prisma.AuditLog.create
    { actorUserId, action := "E2EE_KEYS_REGISTERED", entityType := "DEVICE_KEY",
      entityId := Auth.spelled deviceKey.id, result := "SUCCESS" }
  return {
    deviceId := deviceKey.deviceId
    identityKeyPublic := deviceKey.identityKeyPublic
    signedPrekeyPublic := deviceKey.signedPrekeyPublic }

/-- The rows of a batch. -/
def prekeyRows (prekeys : List OneTimePrekey) (deviceId : Uuid) : List Prekey :=
  prekeys.map fun item => { deviceId, keyId := item.keyId, publicKey := item.publicKey }

/-- `uploadPrekeys`. -/
def uploadPrekeys (dto : UploadPrekeysDto) (actorUserId : Uuid) : Proc keys UploadedPrekeys := do
  let _ ← ownDevice dto.deviceId actorUserId
  Prisma.Prekey.createMany (JsValue.string dto.deviceId).toUuid (prekeyRows dto.prekeys)
  let totalAvailable ← Prisma.Prekey.count (JsValue.string dto.deviceId).toUuid
  Prisma.AuditLog.create
    { actorUserId, action := "PREKEY_BATCH_UPLOADED", entityType := "PREKEY",
      entityId := .string dto.deviceId, result := "SUCCESS",
      detail := some { uploadedCount := dto.prekeys.length, totalAvailable } }
  return {
    deviceId := dto.deviceId
    uploadedCount := dto.prekeys.length
    totalAvailable }

/-- What a bundle says of the row that was claimed. -/
def oneTimePrekey (claimed : Option Prekey) : Option OneTimePrekey :=
  claimed.map fun row => ⟨row.keyId, row.publicKey⟩

/-- Below twenty remaining prekeys a warning is logged. -/
def consumePrekeyBundle (targetDeviceId : String) : Proc keys PrekeyBundle := do
  let found ← Prisma.DeviceKey.findUnique (JsValue.string targetDeviceId).toUuid
  let deviceKey ← Proc.require found
    (.http .notFound none "E2EE Keys not found for this device")
  let claimed ← Prisma.Prekey.claim (JsValue.string targetDeviceId).toUuid
  let _remainingCount ← Prisma.Prekey.count (JsValue.string targetDeviceId).toUuid
  return {
    deviceId := targetDeviceId
    identityKeyPublic := deviceKey.identityKeyPublic
    signedPrekeyPublic := deviceKey.signedPrekeyPublic
    signedPrekeySig := deviceKey.signedPrekeySig
    oneTimePrekey := oneTimePrekey claimed }

end E2eeKeysService

/-! ## Requests -/

/-- A call of the service, with its arguments. -/
inductive Request where
  | registerDeviceKeys (dto : RegisterDeviceKeysDto) (actorUserId : Uuid)
  | uploadPrekeys (dto : UploadPrekeysDto) (actorUserId : Uuid)
  | consumePrekeyBundle (targetDeviceId : String)

/-- What the calls answer. -/
inductive Answer where
  | registered (result : RegisteredKeys)
  | uploaded (result : UploadedPrekeys)
  | bundle (result : PrekeyBundle)
  deriving DecidableEq

/-- A call as a process. -/
def Request.proc [Auth.UuidSpelling] : Request → Proc keys Answer
  | .registerDeviceKeys dto actorUserId =>
      .registered <$> E2eeKeysService.registerDeviceKeys dto actorUserId
  | .uploadPrekeys dto actorUserId =>
      .uploaded <$> E2eeKeysService.uploadPrekeys dto actorUserId
  | .consumePrekeyBundle targetDeviceId =>
      .bundle <$> E2eeKeysService.consumePrekeyBundle targetDeviceId

end Armada.E2eeKeys
