import Armada.Properties.HeartbeatRuns

/-!
# Revocations close the sockets

The gateway changes the connection manager only by the calls of its own, so the indexes of
the manager are consistent in every run of the gateway. A revocation therefore finds every
socket of its session, device or user, and leaves none of them connected.
-/

namespace Armada.Realtime

open Collections Auth Node

namespace Gateway

variable {config : HeartbeatConfig} {handshakes : Handshakes} {gateway : Gateway}
  {reenters : SocketId → Bool} {socketId id : SocketId}

/-! ## The calls on the manager -/

/-- The manager after the removal of a socket. -/
theorem connectionManager_removeSocket : (gateway.removeSocket socketId).connectionManager =
    gateway.connectionManager.removeSocket socketId := by
  rw [removeSocket, WsConnectionManagerService.removeSocket]
  cases AList.lookup socketId gateway.connectionManager.sockets with
  | none => rfl
  | some socket =>
      obtain ⟨_, none | data⟩ := socket
      · rfl
      · rfl

/-- Whom `disconnect` re-enters the gateway for. -/
def interrupts (gateway : Gateway) (reenters : SocketId → Bool) (id : SocketId) : Bool :=
  gateway.connected id && reenters id

/-- The manager after a disconnect. -/
theorem connectionManager_disconnect : (gateway.disconnect reenters socketId).connectionManager =
    if gateway.interrupts reenters socketId then gateway.connectionManager.removeSocket socketId
    else gateway.connectionManager := by
  rw [disconnect, interrupts]
  cases gateway.connected socketId
  · rfl
  · cases reenters socketId
    · rfl
    · exact connectionManager_removeSocket

/-- The manager after an eviction. -/
theorem connectionManager_evict {reason : String} {subject : Subject} :
    (gateway.evict reenters reason subject socketId).connectionManager =
      gateway.connectionManager.evict (gateway.interrupts reenters) socketId := by
  rw [evict, connectionManager_removeSocket, connectionManager_disconnect]
  rfl

/-- The manager after a superseding. -/
theorem connectionManager_supersede {data : AuthenticatedSocketData} :
    (gateway.supersede reenters socketId data).connectionManager =
      gateway.connectionManager.supersede (gateway.interrupts reenters) socketId data := by
  rw [supersede, WsConnectionManagerService.supersede]
  cases data.driverId with
  | none => rfl
  | some driverId =>
      dsimp only
      split
      · cases gateway.connectionManager.driverSockets.lookup driverId with
        | none => rfl
        | some existingSocketId =>
            dsimp only
            split
            · rfl
            · cases gateway.connectionManager.sockets.lookup existingSocketId with
              | none => rfl
              | some existingSocket => exact connectionManager_evict
      · rfl

/-- `registerSocket`, as the gateway calls it, is that of the manager. -/
theorem connectionManager_enroll {socket : Socket} {data : AuthenticatedSocketData}
    (carries : socket.data = some data) (truthy : data.userId.truthy = true) :
    ((gateway.supersede reenters socket.id data).enroll socket data).connectionManager =
      gateway.connectionManager.registerSocket (gateway.interrupts reenters) socket := by
  rw [WsConnectionManagerService.registerSocket, carries, enroll, connectionManager_supersede]
  exact (if_pos truthy).symm

variable (handshakes) in
/-- The second manager is what some calls make of the first. -/
def Called (before after : WsConnectionManagerService) : Prop :=
  ∃ calls : List Call, after = calls.foldl (Call.apply handshakes) before

/-- No calls. -/
theorem Called.refl (manager : WsConnectionManagerService) : Called handshakes manager manager :=
  ⟨[], rfl⟩

/-- One call. -/
theorem Called.one (manager : WsConnectionManagerService) (call : Call) :
    Called handshakes manager (call.apply handshakes manager) := ⟨[call], rfl⟩

/-- Calls after calls. -/
theorem Called.trans {first second third : WsConnectionManagerService}
    (left : Called handshakes first second) (right : Called handshakes second third) :
    Called handshakes first third := by
  obtain ⟨calls, rfl⟩ := left
  obtain ⟨more, rfl⟩ := right
  exact ⟨calls ++ more, by rw [List.foldl_append]⟩

/-- A removal is a call. -/
theorem called_removeSocket : Called handshakes gateway.connectionManager
    (gateway.removeSocket socketId).connectionManager := by
  rw [connectionManager_removeSocket]
  exact .one _ (.removeSocket socketId)

/-- So is a disconnect. -/
theorem called_disconnect : Called handshakes gateway.connectionManager
    (gateway.disconnect reenters socketId).connectionManager := by
  rw [connectionManager_disconnect]
  split
  · exact .one _ (.removeSocket socketId)
  · exact .refl _

variable (handshakes gateway reenters socketId) in
/-- So are both together. -/
theorem called_removed : Called handshakes gateway.connectionManager
    ((gateway.disconnect reenters socketId).removeSocket socketId).connectionManager :=
  called_disconnect.trans called_removeSocket

/-- An eviction is calls of the manager. -/
theorem called_evict {reason : String} {subject : Subject} :
    Called handshakes gateway.connectionManager
      (gateway.evict reenters reason subject socketId).connectionManager :=
  called_removed handshakes (gateway.emit socketId (.disconnectNotice reason subject)) reenters
    socketId

/-- So is the eviction of several sockets. -/
theorem called_disconnectSockets {reason : String} {subject : Subject} {sockets : List Socket} :
    Called handshakes gateway.connectionManager
      (gateway.disconnectSockets reenters reason subject sockets).connectionManager := by
  induction sockets generalizing gateway with
  | nil => exact .refl _
  | cons socket sockets inductionHypothesis => exact called_evict.trans inductionHypothesis

/-- So is a connection. -/
theorem called_handleConnection {socket : Socket} (own : socket = handshakes.socket socket.id) :
    Called handshakes gateway.connectionManager
      (gateway.handleConnection config reenters socket).connectionManager := by
  rw [handleConnection]
  split
  · exact called_disconnect
  rename_i data carries
  split
  · rename_i truthy
    change Called handshakes _ ((gateway.supersede reenters socket.id data).enroll socket
      data).connectionManager
    rw [connectionManager_enroll carries truthy]
    refine ⟨[.registerSocket socket.id (gateway.interrupts reenters)], ?_⟩
    rw [List.foldl_cons, List.foldl_nil, Call.apply, ← own]
  · exact called_disconnect

/-- The sockets that connect are those with their handshakes. -/
def Event.Of (handshakes : Handshakes) : Event → Prop
  | .connection socket _ => socket = handshakes.socket socket.id
  | _ => True

/-- So is every event. -/
theorem called_step {event : Event} (own : Event.Of handshakes event) {after : Gateway}
    (stepped : gateway.step config event = some after) :
    Called handshakes gateway.connectionManager after.connectionManager := by
  cases event with
  | elapse ms =>
      cases stepped
      exact .refl _
  | connection socket reenters =>
      simp only [Gateway.step] at stepped
      split at stepped
      · cases stepped
      · cases stepped
        exact called_handleConnection own
  | disconnection socketId =>
      cases stepped
      exact called_removeSocket
  | revocation event reenters =>
      cases stepped
      rw [handleRevocationMessage]
      split <;> split
      · exact called_disconnectSockets
      · exact .refl _
      · exact called_disconnectSockets
      · exact .refl _
      · exact called_disconnectSockets
      · exact .refl _
  | revalidation socketId valid reenters =>
      cases stepped
      rw [revalidateSensitiveSocket]
      split
      · exact .refl _
      · exact called_removed handshakes ((gateway.emit socketId (.authError "UNAUTHORIZED"
          "Authentication context is no longer valid")).stopHeartbeatTimers socketId) reenters
            socketId
  | pong socketId pingServerTime dateNow =>
      cases stepped
      exact .refl _
  | timer timer dateNow reenters =>
      simp only [Gateway.step] at stepped
      split at stepped
      · cases stepped
      rename_i callback timers taken
      cases stepped
      cases callback with
      | sendHeartbeatPing own =>
          rw [run, sendHeartbeatPing]
          split <;> exact .refl _
      | handleStaleSocketTimeout own =>
          rw [run, handleStaleSocketTimeout]
          split
          · exact called_removed handshakes (((Gateway.emit _ own staleNotice)).stopHeartbeatTimers
              own) reenters own
          · exact .refl _

/-- So is a run. -/
theorem Steps.called {turns : List Turn} {allowed : Gateway → Prop} {start : Gateway}
    (steps : start.Steps config allowed turns gateway)
    (own : ∀ turn ∈ turns, Event.Of handshakes turn.event) :
    Called handshakes start.connectionManager gateway.connectionManager := by
  induction steps with
  | refl => exact .refl _
  | step prior stepped permitted inductionHypothesis =>
      refine (inductionHypothesis fun turn member =>
        own turn (List.mem_append_left _ member)).trans ?_
      exact called_step (own _ (List.mem_append_right _ (List.mem_singleton_self _))) stepped

/-- In every run of the gateway the indexes of its manager agree with the registered sockets. -/
theorem Steps.indexed {turns : List Turn} {allowed : Gateway → Prop}
    (steps : ({} : Gateway).Steps config allowed turns gateway)
    (own : ∀ turn ∈ turns, Event.Of handshakes turn.event) :
    gateway.connectionManager.Indexed handshakes := by
  obtain ⟨calls, reached⟩ := steps.called own
  rw [reached]
  exact WsConnectionManagerService.indexed_run handshakes calls

/-- So does the index of the drivers, where only sockets of the role DRIVER have a driver id. -/
theorem Steps.consistent {population : Population} {turns : List Turn} {allowed : Gateway → Prop}
    (steps : ({} : Gateway).Steps config allowed turns gateway)
    (own : ∀ turn ∈ turns, Event.Of population turn.event) :
    gateway.connectionManager.Consistent population := by
  obtain ⟨calls, reached⟩ := steps.called own
  rw [reached]
  exact WsConnectionManagerService.consistent_run population calls

/-! ## Revocations -/

/-- Who is registered after several sockets are disconnected. -/
theorem registered_disconnectSockets {reason : String} {subject : Subject} {sockets : List Socket} :
    (gateway.disconnectSockets reenters reason subject sockets).Registered id ↔
      gateway.Registered id ∧ ∀ socket ∈ sockets, socket.id ≠ id := by
  induction sockets generalizing gateway with
  | nil => simp [disconnectSockets]
  | cons socket sockets inductionHypothesis =>
      refine inductionHypothesis.trans ?_
      rw [Registered, connectionManager_evict, WsConnectionManagerService.registered_evict,
        List.forall_mem_cons, and_assoc, ne_comm]
      rfl

/-- The sockets found by a key are the registered ones that carry it. -/
theorem registered_revoked (indexed : gateway.connectionManager.Indexed handshakes)
    {index : KeyIndex JsValue SocketId} {field : AuthenticatedSocketData → JsValue}
    (tracks : index.Tracks (gateway.connectionManager.Files handshakes field)) {key : JsValue}
    {reason : String} {subject : Subject} :
    (gateway.disconnectSockets reenters reason subject
      (gateway.connectionManager.getSocketsFromIndex index key)).Registered id ↔
        gateway.Registered id ∧ ¬handshakes.Carries field key id := by
  rw [registered_disconnectSockets]
  refine and_congr_right fun present => ⟨fun others carries => ?_, fun free socket found own => ?_⟩
  · refine others (handshakes.socket id) (List.mem_filterMap.mpr ⟨id, ?_, ?_⟩) rfl
    · exact (tracks.mem_members key id).mpr ⟨present, carries⟩
    · exact indexed.lookup_of_registered present
  · obtain ⟨other, filed, lookup⟩ := List.mem_filterMap.mp found
    obtain rfl := indexed.sockets other socket lookup
    obtain rfl : other = id := own
    exact free ((tracks.mem_members key other).mp filed).2

end Gateway

/-- What a revocation names: a field of the data of a socket, with its value. -/
def revokedField (event : RevocationEventPayload) : AuthenticatedSocketData → JsValue :=
  match event.type with
  | .sessionRevoked => AuthenticatedSocketData.sessionId
  | .deviceRevoked => AuthenticatedSocketData.deviceId
  | .userRevoked => AuthenticatedSocketData.userId

/-- The key that a revocation names. -/
def revokedKey (event : RevocationEventPayload) : JsValue :=
  match event.type with
  | .sessionRevoked => event.sessionId
  | .deviceRevoked => event.deviceId
  | .userRevoked => event.userId

namespace Gateway

variable {config : HeartbeatConfig} {handshakes : Handshakes} {gateway : Gateway}
  {reenters : SocketId → Bool} {id : SocketId}

/-- Who is registered after the message of a revocation. -/
theorem registered_handleRevocationMessage
    (indexed : gateway.connectionManager.Indexed handshakes)
    {event : RevocationEventPayload} :
    (gateway.handleRevocationMessage reenters event).Registered id ↔
      gateway.Registered id ∧ ¬handshakes.Carries (revokedField event) (revokedKey event) id := by
  have falsy : ∀ {field : AuthenticatedSocketData → JsValue} {key : JsValue}, ¬key.truthy = true →
      (gateway.Registered id ↔ gateway.Registered id ∧ ¬handshakes.Carries field key id) := by
    intro field key falsy
    refine (and_iff_left ?_).symm
    rintro ⟨data, found, carries, truthy⟩
    exact falsy truthy
  rw [handleRevocationMessage, revokedField, revokedKey]
  cases event.type with
  | sessionRevoked =>
      dsimp only
      split
      · exact registered_revoked indexed indexed.sessions
      · rename_i unnamed
        exact falsy unnamed
  | deviceRevoked =>
      dsimp only
      split
      · exact registered_revoked indexed indexed.devices
      · rename_i unnamed
        exact falsy unnamed
  | userRevoked =>
      dsimp only
      split
      · exact registered_revoked indexed indexed.users
      · rename_i unnamed
        exact falsy unnamed

/-- What Socket.IO and the timers know of a socket that is registered no more. -/
theorem Accounted.gone (steady : gateway.Steady config) (absent : ¬gateway.Registered id) :
    gateway.connected id = false ∧ ∀ timer found,
      gateway.heartbeats.timers.armed timer = some found → found.callback.socketId ≠ id := by
  constructor
  · exact Bool.eq_false_iff.mpr fun online => absent ((steady.online id nofun).mpr online)
  · rintro timer found armed rfl
    exact absent (steady.registered _ found (steady.owned.armed_eq_some.mpr ⟨timer, armed, rfl⟩))

end Gateway

open Gateway

variable {config : HeartbeatConfig} {handshakes : Handshakes} {turns : List Gateway.Turn}
  {last : Gateway}

/-- In every run of the gateway, a revocation disconnects the sockets that carry what it names
and leaves no timer of theirs armed, and it disconnects no others. -/
theorem revoked_sockets_closed (steps : ({} : Gateway).Steps config (fun _ => True) turns last)
    (own : ∀ turn ∈ turns, Event.Of handshakes turn.event) {turn : Gateway.Turn}
    (member : turn ∈ turns) {event : RevocationEventPayload} {reenters : SocketId → Bool}
    (revoked : turn.event = .revocation event reenters) (id : SocketId) :
    (turn.after.connected id = true ↔ turn.before.connected id = true ∧
      ¬handshakes.Carries (revokedField event) (revokedKey event) id) ∧
    (handshakes.Carries (revokedField event) (revokedKey event) id → ∀ timer found,
      turn.after.heartbeats.timers.armed timer = some found → found.callback.socketId ≠ id) := by
  obtain ⟨earlier, within, prior⟩ := steps.before member
  have indexed := prior.indexed fun turn member => own turn (within member)
  obtain ⟨before, stepped⟩ := steps.follows Accounted.initial member
  have after := (before.step stepped).steady
  have left : turn.after.Registered id ↔ turn.before.Registered id ∧
      ¬handshakes.Carries (revokedField event) (revokedKey event) id := by
    rw [revoked] at stepped
    rw [← Option.some.inj stepped]
    exact registered_handleRevocationMessage indexed
  constructor
  · rw [← after.online id nofun, ← before.online id nofun]
    exact left
  · intro carries
    exact (after.gone fun present => (left.mp present).2 carries).2

namespace Revoked

/-! One driver connects twice, and then the session is revoked. -/

def first : SocketId := Silent.own

def second : SocketId := ⟨"K4", by decide, by decide⟩

def everyone : Population where
  data _ := some Silent.data
  drivers := by
    rintro _ _ ⟨⟩ _
    rfl

def event : RevocationEventPayload where
  type := .sessionRevoked
  sessionId := .string "s"
  reason := "USER_LOGOUT"

def joins : List Event :=
  [.connection (everyone.socket first) fun _ => true,
    .connection (everyone.socket second) fun _ => true]

def events : List Event := joins ++ [.revocation event fun _ => true]

/-- The events are those of the population. -/
theorem events_of : ∀ event ∈ events, Event.Of everyone event := by
  simp [events, joins, Event.Of, Handshakes.socket]

/-- The example is a run. -/
theorem steps : ({} : Gateway).Steps {} Silent.always (play {} Silent.always events {}).1
    (play {} Silent.always events {}).2 := (Steps.refl trivial).play events

/-- What becomes of the second socket when its session is revoked. -/
theorem revoked_sockets_closed_second : ∃ turn ∈ (play {} Silent.always events {}).1[2]?,
    (turn.after.connected second = true ↔ turn.before.connected second = true ∧
      ¬everyone.Carries (revokedField event) (revokedKey event) second) ∧
    (everyone.Carries (revokedField event) (revokedKey event) second → ∀ timer found,
      turn.after.heartbeats.timers.armed timer = some found →
        found.callback.socketId ≠ second) := by
  have revokes : ∃ turn ∈ (play {} Silent.always events {}).1[2]?,
      turn.event = .revocation event fun _ => true := ⟨_, rfl, rfl⟩
  obtain ⟨turn, found, revoked⟩ := revokes
  exact ⟨turn, found, revoked_sockets_closed steps
    (fun _ member => events_of _ (event_of_play member)) (List.mem_of_getElem? found) revoked
    second⟩

end Revoked

/-- In every run of the gateway in which only sockets of the role DRIVER have a driver id, a driver
has at most one connected socket. -/
theorem driver_connected_once {population : Population}
    (steps : ({} : Gateway).Steps config (fun _ => True) turns last)
    (own : ∀ turn ∈ turns, Event.Of population turn.event) {driver : Uuid} {first second : SocketId}
    (firstOnline : last.connected first = true) (secondOnline : last.connected second = true)
    (firstDriver : population.DrivenBy driver first)
    (secondDriver : population.DrivenBy driver second) : first = second := by
  have steady := steps.steady Accounted.initial
  have consistent := steps.consistent own
  have pointed : ∀ id, last.connected id = true → population.DrivenBy driver id →
      last.connectionManager.driverSockets.lookup driver = some id :=
    fun id online drives =>
      (consistent.drivers driver id).mpr ⟨(steady.online id nofun).mpr online, drives⟩
  exact Option.some.inj
    ((pointed first firstOnline firstDriver).symm.trans (pointed second secondOnline secondDriver))

namespace Revoked

/-- The joins alone are a run. -/
theorem joins_steps : ({} : Gateway).Steps {} Silent.always (play {} Silent.always joins {}).1
    (play {} Silent.always joins {}).2 := (Steps.refl trivial).play joins

/-- The first socket is superseded, so it is not connected. -/
theorem driver_connected_once_second :
    (play {} Silent.always joins {}).2.connected second = true ∧
      (play {} Silent.always joins {}).2.connected first ≠ true := by
  have of : ∀ turn ∈ (play {} Silent.always joins {}).1, Event.Of everyone turn.event :=
    fun turn member => events_of _ (List.mem_append_left _ (event_of_play member))
  have drives : ∀ id, everyone.DrivenBy 7 id := fun id => ⟨Silent.data, rfl, rfl⟩
  have connected : (play {} Silent.always joins {}).2.connected second = true := by decide +kernel
  refine ⟨connected, fun online => ?_⟩
  have same := driver_connected_once joins_steps of online connected (drives first) (drives second)
  exact absurd same (by decide)

end Revoked

end Armada.Realtime
