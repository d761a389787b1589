import Armada.Requests
import Armada.Concurrency.Service

/-!
# The store beside the requests

What the rest of the system writes to the tables of the requests: `registerDevice` and
`revokeDevice` of `src/modules/devices/device.service.ts` and the default device of a login,
`createConversation` of `src/modules/conversations/conversations.service.ts`, the receipts of
`src/modules/conversations/messages.service.ts`, and the uploads of
`src/modules/pod/services/file-storage.service.ts`.
-/

namespace Armada

open Relational Concurrency

/-- One write of the rest of the system. -/
inductive Elsewhere : Db → Db → Prop where
  | createDevice {db : Db} (row : Device) :
      Elsewhere db { db with devices := db.devices.insert row }
  | updateDevice {db : Db} (id : Uuid) (status : DeviceStatus) :
      Elsewhere db { db with devices := db.devices.modify id fun row => { row with status } }
  | createConversation {db : Db} (row : Conversation) :
      Elsewhere db { db with conversations := db.conversations.insert row }
  | updateMessage {db : Db} (id : Uuid) (deliveredAt readAt : Option Instant) :
      Elsewhere db { db with
        messages := db.messages.modify id fun row => { row with deliveredAt, readAt } }
  | createFile {db : Db} (row : FileRecord) :
      Elsewhere db { db with files := db.files.insert row }

/-- The requests of clients, of which those arrive that the store admits. -/
def Request.service [UuidText] (admits : Db → Request → Prop) : Service store Request Response where
  proc := Request.proc
  admits := admits
  changes := Elsewhere

end Armada
