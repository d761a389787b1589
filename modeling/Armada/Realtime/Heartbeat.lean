import Mathlib.Algebra.Order.Ring.Unbundled.Rat
import Armada.Node.Timers
import Armada.Realtime.WsConnectionManagerService

/-!
# The heartbeat

The sockets of `src/modules/realtime/gateways/realtime.gateway.ts` with their timers: each
connected socket is pinged at intervals, and one that leaves a ping unanswered for too long
is torn down. The event loop runs one handler or one callback at a time; `Event` is what it
may run next. Timers and Socket.IO keep the sockets; what is logged is left out.
-/

namespace Armada.Realtime

open Collections Auth Node

/-- The two settings of the heartbeat; what `parseInt` makes no number of is none. -/
structure HeartbeatConfig where
  heartbeatIntervalMs : Option Int := some 25000
  pongTimeoutMs : Option Int := some 10000

/-- What a timer runs, on which socket. -/
inductive Callback where
  | sendHeartbeatPing (socketId : SocketId)
  | handleStaleSocketTimeout (socketId : SocketId)
  deriving DecidableEq

/-- What the heartbeat keeps in the data of a socket; times are those of `Date.now()`. -/
structure HeartbeatData where
  lastPingSentAt : Option Int := none
  lastPongReceivedAt : Option Int := none
  rttLatencyMs : Option Rat := none
  heartbeatIntervalTimer : Option TimerId := none
  pongTimeoutTimer : Option TimerId := none
  deriving DecidableEq

/-- The timers, and what each socket remembers of its pings. -/
structure Heartbeats where
  timers : Timers Callback := .none
  data : SocketId → HeartbeatData := fun _ => {}

namespace Heartbeats

/-- The field that holds the timer of a callback. -/
def timer? (heartbeats : Heartbeats) : Callback → Option TimerId
  | .sendHeartbeatPing socketId => (heartbeats.data socketId).heartbeatIntervalTimer
  | .handleStaleSocketTimeout socketId => (heartbeats.data socketId).pongTimeoutTimer

/-- Set what a socket remembers. -/
def setData (heartbeats : Heartbeats) (socketId : SocketId) (data : HeartbeatData) : Heartbeats :=
  { heartbeats with data := Function.update heartbeats.data socketId data }

/-- Set the timer of a callback. -/
def setTimer (heartbeats : Heartbeats) (callback : Callback) (id : Option TimerId) : Heartbeats :=
  match callback with
  | .sendHeartbeatPing socketId =>
      heartbeats.setData socketId { heartbeats.data socketId with heartbeatIntervalTimer := id }
  | .handleStaleSocketTimeout socketId =>
      heartbeats.setData socketId { heartbeats.data socketId with pongTimeoutTimer := id }

/-- Clear a timer and its field, if the field is set. -/
def cancel (heartbeats : Heartbeats) (callback : Callback) : Heartbeats :=
  match heartbeats.timer? callback with
  | none => heartbeats
  | some id =>
      { heartbeats with timers := heartbeats.timers.clear id }.setTimer callback none

/-- Stop both timers of a socket. -/
def stopHeartbeatTimers (heartbeats : Heartbeats) (socketId : SocketId) : Heartbeats :=
  (heartbeats.cancel (.sendHeartbeatPing socketId)).cancel (.handleStaleSocketTimeout socketId)

/-- Start the interval of a socket anew. -/
def startHeartbeatCycle (heartbeats : Heartbeats) (config : HeartbeatConfig) (now : Nat)
    (socketId : SocketId) : Heartbeats :=
  let stopped := heartbeats.stopHeartbeatTimers socketId
  let (id, timers) := stopped.timers.setInterval now (.sendHeartbeatPing socketId)
    (delayOf config.heartbeatIntervalMs)
  { stopped with timers }.setTimer (.sendHeartbeatPing socketId) (some id)

/-- `data.lastPingSentAt = Date.now()`. -/
def notePing (heartbeats : Heartbeats) (socketId : SocketId) (dateNow : Int) : Heartbeats :=
  heartbeats.setData socketId { heartbeats.data socketId with lastPingSentAt := some dateNow }

/-- The watchdog of a ping: the one before is cleared, a new one is armed. -/
def armPongTimeout (heartbeats : Heartbeats) (config : HeartbeatConfig) (now : Nat)
    (socketId : SocketId) : Heartbeats :=
  let cleared := heartbeats.cancel (.handleStaleSocketTimeout socketId)
  let (id, timers) := cleared.timers.setTimeout now (.handleStaleSocketTimeout socketId)
    (delayOf config.pongTimeoutMs)
  { cleared with timers }.setTimer (.handleStaleSocketTimeout socketId) (some id)

/-- `data.lastPingSentAt || payload?.pingServerTime`, if it is a number other than 0. -/
def pingSentAt (data : HeartbeatData) (pingServerTime : JsValue) : Option Rat :=
  match data.lastPingSentAt.filter (· ≠ 0) with
  | some sentAt => some sentAt
  | none =>
      match pingServerTime with
      | .number value => if value = 0 then none else some value
      | _ => none

/-- The times that a pong leaves. -/
def notePong (heartbeats : Heartbeats) (socketId : SocketId) (pingServerTime : JsValue)
    (dateNow : Int) : Heartbeats :=
  let data := heartbeats.data socketId
  let rttLatencyMs :=
    match pingSentAt data pingServerTime with
    | some sentAt => some (max 0 (dateNow - sentAt))
    | none => data.rttLatencyMs
  heartbeats.setData socketId { data with lastPongReceivedAt := some dateNow, rttLatencyMs }

end Heartbeats

/-- Whom a notice of disconnection is about, besides the socket. -/
inductive Subject where
  | none
  | session (sessionId : JsValue)
  | device (deviceId : JsValue)
  | user (userId : JsValue)
  deriving DecidableEq

/-- What the gateway emits to a single socket. -/
inductive Notice where
  | connected (data : AuthenticatedSocketData)
  | ping (serverTime : Int)
  | disconnectNotice (reason : String) (subject : Subject)
  | authError (code message : String)
  deriving DecidableEq

/-- The gateway: its connections, its timers, what it has emitted, and the clock. -/
structure Gateway where
  connectionManager : WsConnectionManagerService := {}
  heartbeats : Heartbeats := {}
  /-- `socket.connected`. -/
  connected : SocketId → Bool := fun _ => false
  /-- The ids that Socket.IO has given out. -/
  seen : SocketId → Bool := fun _ => false
  emitted : List (SocketId × Notice) := []
  /-- The clock of the timers. -/
  now : Nat := 0

/-- What the event loop runs next. For each socket that is disconnected the environment says
whether `handleDisconnect` runs before `disconnect` returns. -/
inductive Event where
  | elapse (ms : Nat)
  | connection (socket : Socket) (reenters : SocketId → Bool)
  | disconnection (socketId : SocketId)
  | revocation (event : RevocationEventPayload) (reenters : SocketId → Bool)
  | revalidation (socketId : SocketId) (valid : Bool) (reenters : SocketId → Bool)
  | pong (socketId : SocketId) (pingServerTime : JsValue) (dateNow : Int)
  | timer (id : TimerId) (dateNow : Int) (reenters : SocketId → Bool)

namespace Gateway

variable (gateway : Gateway)

/-- Emit a notice to a socket. -/
def emit (socketId : SocketId) (notice : Notice) : Gateway :=
  { gateway with emitted := gateway.emitted ++ [(socketId, notice)] }

/-- Stop both timers of a socket. -/
def stopHeartbeatTimers (socketId : SocketId) : Gateway :=
  { gateway with heartbeats := gateway.heartbeats.stopHeartbeatTimers socketId }

/-- `WsConnectionManagerService.removeSocket`, with the timers. -/
def removeSocket (socketId : SocketId) : Gateway :=
  match gateway.connectionManager.sockets.lookup socketId with
  | none => gateway
  | some ⟨_, none⟩ =>
      { gateway with connectionManager := gateway.connectionManager.delete socketId }
  | some ⟨_, some data⟩ =>
      { gateway.stopHeartbeatTimers socketId with
        connectionManager := (gateway.connectionManager.unindex socketId data).delete socketId }

/-- The handler of a disconnect. -/
def handleDisconnect (socketId : SocketId) : Gateway :=
  (gateway.stopHeartbeatTimers socketId).removeSocket socketId

/-- The socket is no longer connected. -/
def closed (socketId : SocketId) : Gateway :=
  { gateway with connected := Function.update gateway.connected socketId false }

/-- `socket.disconnect(true)`. -/
def disconnect (reenters : SocketId → Bool) (socketId : SocketId) : Gateway :=
  if gateway.connected socketId then
    if reenters socketId then (gateway.closed socketId).handleDisconnect socketId
    else gateway.closed socketId
  else gateway

/-- Notify a socket, disconnect it and remove it. -/
def evict (reenters : SocketId → Bool) (reason : String) (subject : Subject) (socketId : SocketId) :
    Gateway :=
  let notified := gateway.emit socketId (.disconnectNotice reason subject)
  (notified.disconnect reenters socketId).removeSocket socketId

/-- The part of `registerSocket` about an older socket of the driver. -/
def supersede (reenters : SocketId → Bool) (socketId : SocketId) (data : AuthenticatedSocketData) :
    Gateway :=
  match data.driverId with
  | none => gateway
  | some driverId =>
      if data.role = "DRIVER" then
        match gateway.connectionManager.driverSockets.lookup driverId with
        | none => gateway
        | some existingSocketId =>
            if existingSocketId = socketId then gateway
            else
              match gateway.connectionManager.sockets.lookup existingSocketId with
              | none => gateway
              | some existingSocket =>
                  gateway.evict reenters "SUPERSEDED_BY_NEW_LOGIN" .none existingSocket.id
      else gateway

/-- The part of `registerSocket` that fills the maps. -/
def enroll (socket : Socket) (data : AuthenticatedSocketData) : Gateway :=
  let manager := gateway.connectionManager
  { gateway with
    connectionManager :=
      { sockets := manager.sockets.insert socket.id socket
        userSockets := manager.userSockets.add data.userId socket.id
        sessionSockets := addSocketToIndex manager.sessionSockets data.sessionId socket.id
        deviceSockets := addSocketToIndex manager.deviceSockets data.deviceId socket.id
        driverSockets := setDriver manager.driverSockets data.driverId socket.id } }

/-- Start the interval of a socket anew. -/
def startHeartbeatCycle (config : HeartbeatConfig) (socketId : SocketId) : Gateway :=
  { gateway with
    heartbeats := gateway.heartbeats.startHeartbeatCycle config gateway.now socketId }

/-- The handler of a connection. -/
def handleConnection (config : HeartbeatConfig) (reenters : SocketId → Bool) (socket : Socket) :
    Gateway :=
  match socket.data with
  | none => gateway.disconnect reenters socket.id
  | some data =>
      if data.userId.truthy then
        let registered := (gateway.supersede reenters socket.id data).enroll socket data
        (registered.emit socket.id (.connected data)).startHeartbeatCycle config socket.id
      else gateway.disconnect reenters socket.id

/-- The loop of the revocations, over the sockets that were found before it. -/
def disconnectSockets (reenters : SocketId → Bool) (reason : String) (subject : Subject)
    (sockets : List Socket) : Gateway :=
  sockets.foldl (fun gateway socket => gateway.evict reenters reason subject socket.id) gateway

/-- `event.reason || defaultReason`. -/
def reasonOr (reason defaultReason : String) : String :=
  if reason = "" then defaultReason else reason

/-- Of a message that is well formed. -/
def handleRevocationMessage (reenters : SocketId → Bool) (event : RevocationEventPayload) :
    Gateway :=
  let manager := gateway.connectionManager
  match event.type with
  | .sessionRevoked =>
      if event.sessionId.truthy then
        gateway.disconnectSockets reenters (reasonOr event.reason "SESSION_REVOKED")
          (.session event.sessionId) (manager.getSocketsBySessionId event.sessionId)
      else gateway
  | .deviceRevoked =>
      if event.deviceId.truthy then
        gateway.disconnectSockets reenters (reasonOr event.reason "DEVICE_REVOKED")
          (.device event.deviceId) (manager.getSocketsByDeviceId event.deviceId)
      else gateway
  | .userRevoked =>
      if event.userId.truthy then
        gateway.disconnectSockets reenters (reasonOr event.reason "USER_REVOKED")
          (.user event.userId) (manager.getSocketsByUserId event.userId)
      else gateway

/-- With the answer of `validateSocket`. -/
def revalidateSensitiveSocket (valid : Bool) (reenters : SocketId → Bool) (socketId : SocketId) :
    Gateway :=
  if valid then gateway
  else
    let notified := gateway.emit socketId
      (.authError "UNAUTHORIZED" "Authentication context is no longer valid")
    ((notified.stopHeartbeatTimers socketId).disconnect reenters socketId).removeSocket socketId

/-- The callback of the interval: a ping, and the timer of its pong. -/
def sendHeartbeatPing (config : HeartbeatConfig) (dateNow : Int) (socketId : SocketId) : Gateway :=
  if gateway.connected socketId then
    let pinged := gateway.heartbeats.notePing socketId dateNow
    { gateway with heartbeats := pinged.armPongTimeout config gateway.now socketId }.emit socketId
      (.ping dateNow)
  else gateway.stopHeartbeatTimers socketId

/-- The callback of the pong timer: the notice and the teardown. -/
def handleStaleSocketTimeout (reenters : SocketId → Bool) (socketId : SocketId) : Gateway :=
  if gateway.connected socketId then
    let notified := gateway.emit socketId (.disconnectNotice "STALE_HEARTBEAT_TIMEOUT" .none)
    ((notified.stopHeartbeatTimers socketId).disconnect reenters socketId).removeSocket socketId
  else gateway

/-- The handler of a pong. -/
def handlePongMessage (socketId : SocketId) (pingServerTime : JsValue) (dateNow : Int) : Gateway :=
  let disarmed := gateway.heartbeats.cancel (.handleStaleSocketTimeout socketId)
  { gateway with heartbeats := disarmed.notePong socketId pingServerTime dateNow }

/-- The callback of a timer. -/
def run (config : HeartbeatConfig) (dateNow : Int) (reenters : SocketId → Bool) : Callback → Gateway
  | .sendHeartbeatPing socketId => gateway.sendHeartbeatPing config dateNow socketId
  | .handleStaleSocketTimeout socketId => gateway.handleStaleSocketTimeout reenters socketId

/-- What an event makes of the gateway, if it can happen. -/
def step (config : HeartbeatConfig) : Event → Option Gateway
  | .elapse ms => some { gateway with now := gateway.now + ms }
  | .connection socket reenters =>
      if gateway.seen socket.id then none
      else
        let opened :=
          { gateway with
            connected := Function.update gateway.connected socket.id true
            seen := Function.update gateway.seen socket.id true }
        some (opened.handleConnection config reenters socket)
  | .disconnection socketId => some ((gateway.closed socketId).handleDisconnect socketId)
  | .revocation event reenters => some (gateway.handleRevocationMessage reenters event)
  | .revalidation socketId valid reenters =>
      some (gateway.revalidateSensitiveSocket valid reenters socketId)
  | .pong socketId pingServerTime dateNow =>
      some (gateway.handlePongMessage socketId pingServerTime dateNow)
  | .timer id dateNow reenters =>
      match gateway.heartbeats.timers.take gateway.now id with
      | none => none
      | some (callback, timers) =>
          let taken := { gateway with heartbeats := { gateway.heartbeats with timers } }
          some (taken.run config dateNow reenters callback)

end Gateway

end Armada.Realtime
