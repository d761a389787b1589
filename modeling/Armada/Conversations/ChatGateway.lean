import Armada.Conversations.ConversationsController

/-!
# Messages over a socket

`handleChatMessageSend` of `src/modules/realtime/gateways/realtime.gateway.ts`, which stores a
message with the service that the REST route uses, acknowledges it, and relays it. What it
emits is what it returns.
-/

namespace Armada

open Concurrency Auth

/-- The body of `chat.message.send`; the conversation is the text that the client sent. -/
structure ChatSendWsDto extends SendMessageDto where
  conversationId : String

/-- The actor of an envelope. -/
structure RealtimeEventActor where
  userId : JsValue
  role : String
  deviceId : JsValue
  driverId : Option Uuid
  deriving DecidableEq

/-- What the gateway emits in answer to a message. -/
inductive ChatEmission where
  /-- To the sender. -/
  | error (event code message : String)
  | ack (messageId : Option Uuid) (createdAt : Option Instant) (actor : RealtimeEventActor)
  /-- To a room; the payload is the message without its receipts. -/
  | relayed (room : String) (message : Message) (actor : RealtimeEventActor)
  deriving DecidableEq

namespace RealtimeGateway

/-- The actor of an event, by the data of the socket. -/
def eventActor (data : AuthenticatedSocketData) : RealtimeEventActor :=
  ⟨data.userId, data.role, data.deviceId, data.driverId⟩

/-- The room of a conversation. -/
def conversationRoom (conversationId : String) : String := "conversation:" ++ conversationId

/-- What follows a message that has been sent. -/
def acknowledge (data : AuthenticatedSocketData) (conversationId : String) :
    Reply → List ChatEmission
  | .fresh (.message message) =>
      [.ack (some message.id) (some message.createdAt) (eventActor data),
        .relayed (conversationRoom conversationId) message (eventActor data)]
  | .replayed (.message message) =>
      [.ack (some message.id) (some message.createdAt) (eventActor data)]
  -- the fields of a stored body that is no message are undefined
  | _ => [.ack none none (eventActor data)]

/-- The notice of an error. -/
def chatError : Exception → ChatEmission
  | .http exception => .error "chat_error" exception.code exception.message
  | _ => .error "chat_error" "CHAT_SEND_FAILED" "Failed to process message"

variable [UuidText]

/-- The part of the handler that may fail. -/
def sendChatMessage (data : AuthenticatedSocketData) (dto : ChatSendWsDto) :
    Proc store (List ChatEmission) := do
  let actor ← Proc.ofExcept ((chatActor data).mapError .prisma)
  let conversationId ← Proc.ofExcept ((JsValue.string dto.conversationId).toUuid.mapError .prisma)
  let result ← MessagesService.sendMessage conversationId dto.toSendMessageDto actor .socket
  return acknowledge data dto.conversationId result

/-- `valid` is the answer of `revalidateSensitiveSocket`. -/
def handleChatMessageSend (valid : Bool) (data : AuthenticatedSocketData) (dto : ChatSendWsDto) :
    Proc store (List ChatEmission) :=
  if valid = false then
    return [.error "auth_error" "UNAUTHORIZED" "Authentication context is no longer valid"]
  else if data.userId.truthy = false then
    return [.error "chat_error" "UNAUTHENTICATED" "Authentication required"]
  else
    tryCatch (sendChatMessage data dto) fun error => return [chatError error]

end RealtimeGateway

/-- A message is sent over REST, which emits nothing, or over a socket. -/
inductive ChatSend where
  | rest (conversationId : Uuid) (dto : SendMessageDto) (user : Auth.AuthUser)
  | socket (valid : Bool) (data : AuthenticatedSocketData) (dto : ChatSendWsDto)

/-- A send over either transport, with what it emits. -/
def ChatSend.proc [UuidText] : ChatSend → Proc store (List ChatEmission)
  | .rest conversationId dto user => do
      let _ ← ConversationsController.sendMessage conversationId dto user
      return []
  | .socket valid data dto => RealtimeGateway.handleChatMessageSend valid data dto

end Armada
