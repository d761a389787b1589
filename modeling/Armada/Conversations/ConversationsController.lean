import Armada.Deliveries.DeliveriesController

/-!
# Who sends a message

`sendMessage` of `src/modules/conversations/conversations.controller.ts` for the user of a
token, and the sender that `handleChatMessageSend` of
`src/modules/realtime/gateways/realtime.gateway.ts` makes of the data of a socket.
-/

namespace Armada

open Concurrency

variable [UuidText]

namespace ConversationsController

/-- An id that names no device finds none. -/
def extractActor (user : Auth.AuthUser) (role : Role) : UserActor where
  userId := user.id
  role := role
  driverId := user.driverId
  deviceId := user.deviceId.toUuid.toOption

/-- `POST /v1/conversations/:id/messages`. -/
def sendMessage (conversationId : Uuid) (dto : SendMessageDto) (user : Auth.AuthUser) :
    Proc store Reply := do
  let role ← RolesGuard.activate operators user
  MessagesService.sendMessage conversationId dto (extractActor user role) .rest

end ConversationsController

namespace RealtimeGateway

/-- The sender over a socket. A role without a name here has no more rights than that of a
driver. -/
def chatActor (data : Auth.AuthenticatedSocketData) : Except PrismaError UserActor := do
  let userId ← data.userId.toUuid
  return {
    userId
    role := (operators.find? fun role => role.name = data.role).getD .driver
    driverId := data.driverId
    deviceId := data.deviceId.toUuid.toOption }

end RealtimeGateway

end Armada
