import Armada.Idempotency

/-!
# MessagesService

`src/modules/conversations/messages.service.ts`: sending a message. The record of
an idempotency key is written after the message, outside any transaction, and a
failure to write it is swallowed.
-/

namespace Armada

open Concurrency

/-- Who sends. -/
structure UserActor where
  userId : Uuid
  role : Role
  driverId : Option Uuid := none
  deviceId : Option Uuid := none
  deriving DecidableEq

/-- The body of a message. -/
structure SendMessageDto where
  recipientDeviceId : Uuid
  protocolVersion : Option Nat := some 1
  ciphertextBlob : String
  headerJson : List (String × JsValue) := []
  idempotencyKey : Option Uuid := none
  deriving DecidableEq

/-- Where a message comes in: the REST controller or the socket gateway. -/
inductive MessageChannel where
  | rest
  | socket
  deriving DecidableEq

/-- The endpoint in the record of a message; it differs by transport. -/
def MessageChannel.endpoint : MessageChannel → String
  | .rest => "/v1/conversations/:id/messages"
  | .socket => "/v1/realtime"

namespace ConversationsService

/-- `verifyConversationAccess`: members only. -/
def verifyConversationAccess (conversationId : Uuid) (actor : UserActor) :
    Proc store Conversation := do
  let found ← Prisma.Conversation.findUnique conversationId
  let conversation ← Proc.require found
    (.http ⟨.notFound, "CONVERSATION_NOT_FOUND",
      s!"Conversation with ID {conversationId} not found", none⟩)
  Proc.rejectIf
    (actor.role ≠ .admin ∧ actor.role ≠ .superAdmin ∧ conversation.ownerId ≠ actor.userId ∧
      actor.driverId ≠ some conversation.driverId)
    (.http ⟨.forbidden, "RESOURCE_FORBIDDEN", "You are not a participant in this conversation",
      none⟩)
  return conversation

end ConversationsService

namespace MessagesService

/-- The key of a record, if the message has one. -/
def recordKey (channel : MessageChannel) (actor : UserActor) (idempotencyKey : Option Uuid) :
    Option IdempotencyKey :=
  idempotencyKey.map fun key => ⟨key, actor.userId, channel.endpoint⟩

/-- A device that exists and is not revoked. -/
def usable (device : Option Device) : Bool :=
  device.any fun device => device.status ≠ .revoked

/-- The check of the sending rate. -/
def enforceSendRateLimit (userId : Uuid) : Proc store Unit := do
  let rateCount ← RedisService.incrRateLimit s!"throttle:chat:send:{userId}" 1
  Proc.rejectIf (10 < rateCount)
    (.http ⟨.tooManyRequests, "RATE_LIMIT_EXCEEDED",
      "Message sending rate limit exceeded (Max 10 msg/sec).", none⟩)

/-- The idempotency record of a sent message; every error is swallowed. -/
def saveRecord (key : Option IdempotencyKey) (message : Message) : Proc store Unit :=
  match key with
  | none => return ()
  | some key =>
      tryCatch (liftM (Prisma.IdempotencyRecord.create key 201 (.message message)))
        fun _ => return ()

/-- `sendMessage`: the access check, the rate, the lookup, the message and its record. -/
def sendMessage (conversationId : Uuid) (dto : SendMessageDto) (actor : UserActor)
    (channel : MessageChannel) : Proc store Reply := do
  let _ ← ConversationsService.verifyConversationAccess conversationId actor
  let deviceId ← Proc.require actor.deviceId
    (.http ⟨.forbidden, "DEVICE_ID_REQUIRED", "Sender device context is missing", none⟩)
  let senderDevice ← Prisma.Device.findUnique deviceId
  Proc.rejectIf (usable senderDevice = false)
    (.http ⟨.forbidden, "DEVICE_REVOKED", "Sender device has been revoked", none⟩)
  let recipientDevice ← Prisma.Device.findUnique dto.recipientDeviceId
  Proc.rejectIf (usable recipientDevice = false)
    (.http ⟨.unprocessableEntity, "RECIPIENT_DEVICE_INVALID",
      "Recipient device is invalid or has been revoked", none⟩)
  enforceSendRateLimit actor.userId
  let key := recordKey channel actor dto.idempotencyKey
  let existingRecord ← Idempotency.stored key
  match existingRecord with
  -- the fields of the stored message are copied one by one
  | some body => return .replayed body
  | none =>
      let message ← Prisma.Message.create conversationId actor.userId deviceId
        dto.recipientDeviceId ((dto.protocolVersion.filter fun version => version ≠ 0).getD 1)
        dto.ciphertextBlob dto.headerJson
      saveRecord key message
      return .fresh (.message message)

end MessagesService

end Armada
