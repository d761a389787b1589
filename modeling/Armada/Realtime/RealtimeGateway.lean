import Armada.Realtime.WsJwtAuthGuard

/-!
# RealtimeGateway

The connections of `src/modules/realtime/gateways/realtime.gateway.ts`: a handshake is
authenticated by a middleware, the socket is registered afterwards, and the messages on
`security:revocation` are handed to `handleRevocationMessage` in their order.
-/

namespace Armada.Auth

open Concurrency

namespace RealtimeGateway

/-- The connection manager takes the socket in. -/
def registerSocket (socket : Realtime.Socket) : Statement accounts Unit :=
  effect fun _ _ => ((), [.registerSocket socket])

/-- It takes the socket out. -/
def handleDisconnect (socketId : Realtime.SocketId) : Statement accounts Unit :=
  effect fun _ _ => ((), [.removeSocket socketId])

/-- The handler of the subscription, for the next message. -/
def handleRevocationMessage : Statement accounts Unit :=
  effect fun _ _ => ((), [.handleMessage])

/-- A socket with a user is registered. -/
def handleConnection (socketId : Realtime.SocketId) (data : AuthenticatedSocketData) :
    Proc accounts Unit :=
  if data.userId.truthy then registerSocket { id := socketId, data := some data } else pure ()

variable [UuidSpelling] [JsonWebToken]

/-- A client connects: the middleware of `afterInit`, then `handleConnection`. -/
def connect (config : JwtConfig) (socketId : Realtime.SocketId) (handshake : Handshake) :
    Proc accounts AuthenticatedSocketData := do
  let data ← WsJwtAuthGuard.validateHandshake config handshake
  handleConnection socketId data
  return data

end RealtimeGateway

end Armada.Auth
