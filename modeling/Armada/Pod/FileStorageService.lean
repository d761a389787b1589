import Armada.Requests

/-!
# FileStorageService

`getAuthorizedFileBuffer` of `src/modules/pod/services/file-storage.service.ts`: who may
download a file. The bytes are those that were stored under the record; to read them is left
out.
-/

namespace Armada

open Concurrency

namespace Prisma

namespace Driver

/-- Read the driver that a user is. -/
def findByUser (userId : Uuid) : Statement store (Option Armada.Driver) :=
  select fun db => .ok (db.drivers.rows.find? fun row => row.userId = userId)

end Driver

namespace FileRecord

/-- The deliveries of the stops of proofs. -/
def deliveriesOf (db : Db) (pods : List Armada.ProofOfDelivery) : List Armada.Delivery :=
  pods.filterMap fun pod =>
    (db.stop? pod.deliveryStopId).bind fun stop => db.delivery? stop.deliveryId

/-- A file with the deliveries of `photoPods` and those of `signaturePods`. -/
def findUnique (id : Uuid) :
    Statement store (Option (Armada.FileRecord × List Armada.Delivery × List Armada.Delivery)) :=
  select fun db =>
    let pods := db.proofsOfDelivery.rows
    .ok <| (db.files.find? id).map fun row =>
      (row, deliveriesOf db (pods.filter fun pod => pod.photoFileId = some id),
        deliveriesOf db (pods.filter fun pod => pod.signatureFileId = some id))

end FileRecord

end Prisma

namespace FileStorageService

/-- The delivery is that of the driver, if there is one. -/
def drives (driver : Option Driver) (delivery : Delivery) : Bool :=
  driver.any fun driver => delivery.driverId = some driver.id

/-- The driver profile of a user with the role of a driver. -/
def profile (actorUserId : Uuid) (actorRole : Role) : Proc store (Option Driver) :=
  if actorRole = .driver then liftM (Prisma.Driver.findByUser actorUserId) else return none

/-- `getAuthorizedFileBuffer`: for its uploader, the driver and the creator of the delivery, and
administrators. -/
def getAuthorizedFileBuffer (fileId actorUserId : Uuid) (actorRole : Role) :
    Proc store FileRecord := do
  let found ← Prisma.FileRecord.findUnique fileId
  let (fileRecord, photoPods, signaturePods) ← Proc.require found
    (.http ⟨.notFound, "FILE_NOT_FOUND", "File not found", none⟩)
  let driver ← profile actorUserId actorRole
  let isUploader : Bool := fileRecord.uploadedBy = actorUserId
  let photoAccess := photoPods.any (drives driver)
  let sigAccess := signaturePods.any (drives driver)
  let ownerAccess := photoPods.any (fun delivery => delivery.createdBy = actorUserId) ||
    signaturePods.any (fun delivery => delivery.createdBy = actorUserId)
  Proc.rejectIf
    ((actorRole = .driver ∧ isUploader = false ∧ photoAccess = false ∧ sigAccess = false) ∨
      (actorRole = .owner ∧ isUploader = false ∧ ownerAccess = false))
    (.http ⟨.forbidden, "RESOURCE_FORBIDDEN", "You are not authorized to download this POD file",
      none⟩)
  return fileRecord

end FileStorageService

end Armada
