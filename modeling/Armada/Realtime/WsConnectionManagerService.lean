import Armada.Auth.Schema
import Armada.Collections.KeyIndex

/-!
# WsConnectionManagerService

`src/modules/realtime/services/ws-connection-manager.service.ts`, with its maps and sets:
the registered sockets, three indexes of sets and one of single sockets. Disconnecting a
socket may call `handleDisconnect`, and with it `removeSocket`, before it returns; the
environment decides that for each socket of each call. What is emitted to the sockets and
their timers are left out.
-/

namespace Armada.Realtime

open Collections Auth

/-- An id that Socket.IO gives to a socket: base64 text. -/
structure SocketId where
  text : String
  nonempty : text ≠ ""
  plain : ':' ∉ text.toList
  deriving DecidableEq

/-- A socket with what the handshake has left on it, if anything. -/
structure Socket where
  id : SocketId
  data : Option AuthenticatedSocketData
  deriving DecidableEq

/-- The connected sockets, and the indexes of them. -/
structure WsConnectionManagerService where
  sockets : AList (fun _ : SocketId => Socket) := ∅
  userSockets : KeyIndex JsValue SocketId := ∅
  sessionSockets : KeyIndex JsValue SocketId := ∅
  deviceSockets : KeyIndex JsValue SocketId := ∅
  driverSockets : AList (fun _ : Uuid => SocketId) := ∅

/-- File a socket under a key; a falsy key files nothing. -/
def addSocketToIndex (index : KeyIndex JsValue SocketId) (key : JsValue) (socketId : SocketId) :
    KeyIndex JsValue SocketId :=
  if key.truthy then index.add key socketId else index

/-- Take a socket out from under a key. -/
def removeSocketFromIndex (index : KeyIndex JsValue SocketId) (key : JsValue)
    (socketId : SocketId) : KeyIndex JsValue SocketId :=
  if key.truthy then index.remove key socketId else index

/-- `driverSockets.set(driverId, socketId)`, if there is a driver. -/
def setDriver (drivers : AList fun _ : Uuid => SocketId) (driverId : Option Uuid)
    (socketId : SocketId) : AList fun _ : Uuid => SocketId :=
  match driverId with
  | none => drivers
  | some driverId => drivers.insert driverId socketId

/-- The driver entry goes only if it is that of the socket itself. -/
def deleteDriver (drivers : AList fun _ : Uuid => SocketId) (driverId : Option Uuid)
    (socketId : SocketId) : AList fun _ : Uuid => SocketId :=
  match driverId with
  | none => drivers
  | some driverId =>
      if drivers.lookup driverId = some socketId then drivers.erase driverId else drivers

namespace WsConnectionManagerService

/-- The sockets under a key of an index. -/
def getSocketsFromIndex (service : WsConnectionManagerService)
    (index : KeyIndex JsValue SocketId) (key : JsValue) : List Socket :=
  (index.members key).filterMap fun socketId => service.sockets.lookup socketId

/-- The sockets of a user. -/
def getSocketsByUserId (service : WsConnectionManagerService) (userId : JsValue) : List Socket :=
  service.getSocketsFromIndex service.userSockets userId

/-- The sockets of a session. -/
def getSocketsBySessionId (service : WsConnectionManagerService) (sessionId : JsValue) :
    List Socket :=
  service.getSocketsFromIndex service.sessionSockets sessionId

/-- The sockets of a device. -/
def getSocketsByDeviceId (service : WsConnectionManagerService) (deviceId : JsValue) :
    List Socket :=
  service.getSocketsFromIndex service.deviceSockets deviceId

/-- What `removeSocket` does to the indexes. -/
def unindex (service : WsConnectionManagerService) (socketId : SocketId)
    (data : AuthenticatedSocketData) : WsConnectionManagerService :=
  { service with
    userSockets := removeSocketFromIndex service.userSockets data.userId socketId
    sessionSockets := removeSocketFromIndex service.sessionSockets data.sessionId socketId
    deviceSockets := removeSocketFromIndex service.deviceSockets data.deviceId socketId
    driverSockets := deleteDriver service.driverSockets data.driverId socketId }

/-- `sockets.delete(socketId)`. -/
def delete (service : WsConnectionManagerService) (socketId : SocketId) :
    WsConnectionManagerService :=
  { service with sockets := service.sockets.erase socketId }

/-- `removeSocket`; a socket that is not there is left alone. -/
def removeSocket (service : WsConnectionManagerService) (socketId : SocketId) :
    WsConnectionManagerService :=
  match service.sockets.lookup socketId with
  | none => service
  | some ⟨_, none⟩ => service.delete socketId
  | some ⟨_, some data⟩ => (service.unindex socketId data).delete socketId

/-- `socket.disconnect(true)` and the `removeSocket` that follows it everywhere. -/
def evict (service : WsConnectionManagerService) (reenters : SocketId → Bool)
    (socketId : SocketId) : WsConnectionManagerService :=
  let disconnected := if reenters socketId then service.removeSocket socketId else service
  disconnected.removeSocket socketId

/-- A socket that is gone is not removed again. -/
theorem removeSocket_removeSocket (service : WsConnectionManagerService) (socketId : SocketId) :
    (service.removeSocket socketId).removeSocket socketId = service.removeSocket socketId := by
  have gone : (service.removeSocket socketId).sockets.lookup socketId = none := by
    rw [removeSocket]
    cases found : service.sockets.lookup socketId with
    | none => exact found
    | some socket =>
        obtain ⟨_, none | data⟩ := socket
        · exact AList.lookup_erase _ _
        · exact AList.lookup_erase _ _
  generalize service.removeSocket socketId = removed at gone
  rw [removeSocket, gone]

/-- So it makes no difference whether the socket calls back while it is disconnected. -/
theorem evict_eq (service : WsConnectionManagerService) (reenters : SocketId → Bool)
    (socketId : SocketId) : service.evict reenters socketId = service.removeSocket socketId := by
  rw [evict]
  split
  · exact service.removeSocket_removeSocket socketId
  · rfl

/-- A driver has one socket: a newer one supersedes it. -/
def supersede (service : WsConnectionManagerService) (reenters : SocketId → Bool)
    (socketId : SocketId) (data : AuthenticatedSocketData) : WsConnectionManagerService :=
  match data.driverId with
  | none => service
  | some driverId =>
      if data.role = "DRIVER" then
        match service.driverSockets.lookup driverId with
        | none => service
        | some existingSocketId =>
            if existingSocketId = socketId then service
            else
              match service.sockets.lookup existingSocketId with
              | none => service
              | some existingSocket => service.evict reenters existingSocket.id
      else service

/-- `registerSocket`; the older socket of a driver is superseded first. -/
def registerSocket (service : WsConnectionManagerService) (reenters : SocketId → Bool)
    (socket : Socket) : WsConnectionManagerService :=
  match socket.data with
  | none => service
  | some data =>
      if data.userId.truthy then
        let service := service.supersede reenters socket.id data
        { sockets := service.sockets.insert socket.id socket
          userSockets := service.userSockets.add data.userId socket.id
          sessionSockets := addSocketToIndex service.sessionSockets data.sessionId socket.id
          deviceSockets := addSocketToIndex service.deviceSockets data.deviceId socket.id
          driverSockets := setDriver service.driverSockets data.driverId socket.id }
      else service

/-- The loop of the revocations, over the sockets that were found before it. -/
def evictAll (service : WsConnectionManagerService) (reenters : SocketId → Bool)
    (sockets : List Socket) : WsConnectionManagerService :=
  sockets.foldl (fun service socket => service.evict reenters socket.id) service

/-- Evict the sockets, and say whether there were any. -/
def disconnectSockets (service : WsConnectionManagerService) (reenters : SocketId → Bool)
    (sockets : List Socket) : Bool × WsConnectionManagerService :=
  (decide (0 < sockets.length), service.evictAll reenters sockets)

/-- Evict the sockets of a session. -/
def disconnectSession (service : WsConnectionManagerService) (reenters : SocketId → Bool)
    (sessionId : JsValue) : Bool × WsConnectionManagerService :=
  service.disconnectSockets reenters (service.getSocketsBySessionId sessionId)

/-- Evict the sockets of a device. -/
def disconnectDevice (service : WsConnectionManagerService) (reenters : SocketId → Bool)
    (deviceId : JsValue) : Bool × WsConnectionManagerService :=
  service.disconnectSockets reenters (service.getSocketsByDeviceId deviceId)

/-- Evict the sockets of a user, and say how many there were. -/
def disconnectUser (service : WsConnectionManagerService) (reenters : SocketId → Bool)
    (userId : JsValue) : Nat × WsConnectionManagerService :=
  let sockets := service.getSocketsByUserId userId
  (sockets.length, service.evictAll reenters sockets)

/-- `RealtimeGateway.handleRevocationMessage`, of a message that is well formed. -/
def handleRevocationMessage (service : WsConnectionManagerService) (reenters : SocketId → Bool)
    (event : RevocationEventPayload) : WsConnectionManagerService :=
  match event.type with
  | .sessionRevoked =>
      if event.sessionId.truthy then (service.disconnectSession reenters event.sessionId).2
      else service
  | .deviceRevoked =>
      if event.deviceId.truthy then (service.disconnectDevice reenters event.deviceId).2
      else service
  | .userRevoked =>
      if event.userId.truthy then (service.disconnectUser reenters event.userId).2 else service

end WsConnectionManagerService

end Armada.Realtime
