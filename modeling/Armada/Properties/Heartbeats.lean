import Armada.Properties.SocketIndex
import Armada.Realtime.HeartbeatTimers

/-!
# The heartbeat watches the connected sockets

The timers are those of the registered sockets, one interval for each and one watchdog at
most, so each socket is watched as `Concurrency.Watchdog` says, whatever happens to the
others. A client that answers in time is never torn down for its silence, one that does not
answer is, and the settings decide whether this works.
-/

namespace Armada.Realtime

open Collections Auth Node Concurrency

namespace Gateway

variable {config : HeartbeatConfig} {gateway : Gateway} {socketId id : SocketId}
  {reenters : SocketId → Bool}

/-- The socket is in the connection manager. -/
def Registered (gateway : Gateway) (id : SocketId) : Prop :=
  gateway.connectionManager.Registered id

/-- The timers are those of the registered sockets, and these are the connected ones. Sockets
that are about to come or to leave may have only some of it. -/
structure Accounted (config : HeartbeatConfig) (moving : SocketId → Prop) (gateway : Gateway) :
    Prop where
  owned : gateway.heartbeats.Owned config
  registered : ∀ callback timer, gateway.heartbeats.armed callback = some timer →
    gateway.Registered callback.socketId
  beating : ∀ id, ¬moving id → gateway.Registered id →
    ∃ timer, gateway.heartbeats.armed (.sendHeartbeatPing id) = some timer
  online : ∀ id, ¬moving id → (gateway.Registered id ↔ gateway.connected id = true)
  known : ∀ id socket, gateway.connectionManager.sockets.lookup id = some socket →
    socket.id = id ∧ ∃ data, socket.data = some data
  seen : ∀ id, gateway.Registered id → gateway.seen id = true

/-- No socket is on the move. -/
abbrev Steady (config : HeartbeatConfig) (gateway : Gateway) : Prop :=
  gateway.Accounted config fun _ => False

/-- The two gateways agree on all sockets but one. -/
structure Apart (id : SocketId) (before after : Gateway) : Prop where
  now : after.now = before.now
  seen : after.seen = before.seen
  connected : ∀ other, other ≠ id → after.connected other = before.connected other
  armed : ∀ callback, callback.socketId ≠ id →
    after.heartbeats.armed callback = before.heartbeats.armed callback
  registered : ∀ other, other ≠ id → (after.Registered other ↔ before.Registered other)

/-- Nothing changed is apart. -/
theorem Apart.refl (id : SocketId) (gateway : Gateway) : Apart id gateway gateway :=
  ⟨rfl, rfl, fun _ _ => rfl, fun _ _ => rfl, fun _ _ => Iff.rfl⟩

/-- Being apart is transitive. -/
theorem Apart.trans {first second third : Gateway} (left : Apart id first second)
    (right : Apart id second third) : Apart id first third where
  now := right.now.trans left.now
  seen := right.seen.trans left.seen
  connected other apart := (right.connected other apart).trans (left.connected other apart)
  armed callback apart := (right.armed callback apart).trans (left.armed callback apart)
  registered other apart := (right.registered other apart).trans (left.registered other apart)

/-- The empty gateway is in order. -/
theorem Accounted.initial : Steady config {} where
  owned := .initial
  registered callback _ armed := by cases callback <;> cases armed
  beating _ _ registered := by
    simp [Registered, WsConnectionManagerService.Registered] at registered
  online _ _ := by simp [Registered, WsConnectionManagerService.Registered]
  known _ _ found := by simp at found
  seen _ registered := by simp [Registered, WsConnectionManagerService.Registered] at registered

variable {moving : SocketId → Prop}

/-- More sockets may be moving. -/
theorem Accounted.mono {more : SocketId → Prop} (accounted : gateway.Accounted config moving)
    (weaker : ∀ id, moving id → more id) : gateway.Accounted config more where
  owned := accounted.owned
  registered := accounted.registered
  beating id stays := accounted.beating id fun moves => stays (weaker id moves)
  online id stays := accounted.online id fun moves => stays (weaker id moves)
  known := accounted.known
  seen := accounted.seen

/-- A notice changes no timers. -/
theorem Accounted.emit (accounted : gateway.Accounted config moving) (id : SocketId)
    (notice : Notice) : (gateway.emit id notice).Accounted config moving :=
  ⟨accounted.owned, accounted.registered, accounted.beating, accounted.online, accounted.known,
    accounted.seen⟩

/-- A notice leaves the other sockets apart. -/
theorem apart_emit {notice : Notice} : Apart id gateway (gateway.emit socketId notice) :=
  ⟨rfl, rfl, fun _ _ => rfl, fun _ _ => rfl, fun _ _ => Iff.rfl⟩

/-! ## Tearing a socket down -/

/-- A socket is about to leave, besides those that are on the move. -/
abbrev Leaving (id : SocketId) (moving : SocketId → Prop) (other : SocketId) : Prop :=
  other = id ∨ moving other

/-- A socket may begin to leave. -/
theorem Accounted.leaving (accounted : gateway.Accounted config moving) (id : SocketId) :
    gateway.Accounted config (Leaving id moving) := accounted.mono fun _ => .inr

/-- Closing a leaving socket keeps the account. -/
theorem Accounted.closed (accounted : gateway.Accounted config (Leaving id moving)) :
    (gateway.closed id).Accounted config (Leaving id moving) where
  owned := accounted.owned
  registered := accounted.registered
  beating := accounted.beating
  online other stays := by
    have same : (gateway.closed id).connected other = gateway.connected other :=
      Function.update_of_ne (fun equal => stays (.inl equal)) ..
    rw [same]
    exact accounted.online other stays
  known := accounted.known
  seen := accounted.seen

/-- It leaves the other sockets apart. -/
theorem apart_closed : Apart id gateway (gateway.closed id) where
  now := rfl
  seen := rfl
  connected _ apart := Function.update_of_ne apart ..
  armed _ _ := rfl
  registered _ _ := Iff.rfl

/-- Stopping a leaving socket's timers keeps the account. -/
theorem Accounted.stopHeartbeatTimers (accounted : gateway.Accounted config (Leaving id moving)) :
    (gateway.stopHeartbeatTimers id).Accounted config (Leaving id moving) where
  owned := accounted.owned.stopHeartbeatTimers id
  registered callback timer armed := by
    rw [Gateway.stopHeartbeatTimers, accounted.owned.armed_stopHeartbeatTimers] at armed
    split at armed
    · cases armed
    · exact accounted.registered callback timer armed
  beating other stays registered := by
    obtain ⟨timer, armed⟩ := accounted.beating other stays registered
    refine ⟨timer, ?_⟩
    rw [Gateway.stopHeartbeatTimers, accounted.owned.armed_stopHeartbeatTimers]
    exact (if_neg fun equal => stays (.inl equal)).trans armed
  online := accounted.online
  known := accounted.known
  seen := accounted.seen

/-- It leaves the other sockets apart. -/
theorem Accounted.apart_stopHeartbeatTimers (accounted : gateway.Accounted config moving)
    (id : SocketId) : Apart id gateway (gateway.stopHeartbeatTimers id) where
  now := rfl
  seen := rfl
  connected _ _ := rfl
  armed callback apart := by
    rw [Gateway.stopHeartbeatTimers, accounted.owned.armed_stopHeartbeatTimers, if_neg apart]
  registered _ _ := Iff.rfl

/-- What `removeSocket` does to a registered socket. -/
theorem Accounted.removeSocket_eq (accounted : gateway.Accounted config moving)
    (registered : gateway.Registered id) : ∃ data, gateway.removeSocket id =
      { gateway.stopHeartbeatTimers id with
        connectionManager := (gateway.connectionManager.unindex id data).delete id } := by
  obtain ⟨⟨own, data⟩, found⟩ := Option.isSome_iff_exists.mp (AList.lookup_isSome.mpr registered)
  obtain ⟨_, data, rfl⟩ := accounted.known id _ found
  exact ⟨data, by rw [removeSocket, found]⟩

/-- Removing an absent socket does nothing. -/
theorem removeSocket_of_absent (absent : ¬gateway.Registered id) :
    gateway.removeSocket id = gateway := by
  rw [removeSocket, AList.lookup_eq_none.mpr absent]

/-- A socket that is gone: the others are accounted for as before, nothing of it is left. -/
structure Left (config : HeartbeatConfig) (moving : SocketId → Prop) (id : SocketId)
    (before after : Gateway) : Prop where
  accounted : after.Accounted config moving
  gone : ¬after.Registered id
  apart : Apart id before after

/-- A socket that left after changes elsewhere has left since before them. -/
theorem Left.after {first second third : Gateway} (left : Left config moving id second third)
    (apart : Apart id first second) : Left config moving id first third :=
  { left with apart := apart.trans left.apart }

/-- A closed socket leaves by its removal. -/
theorem Accounted.removeSocket (accounted : gateway.Accounted config (Leaving id moving))
    (offline : gateway.connected id = false) :
    Left config moving id gateway (gateway.removeSocket id) := by
  by_cases registered : gateway.Registered id
  · obtain ⟨data, removed⟩ := accounted.removeSocket_eq registered
    rw [removed]
    have left : ∀ other,
        ((gateway.connectionManager.unindex id data).delete id).Registered other ↔
          gateway.Registered other ∧ other ≠ id :=
      fun other => WsConnectionManagerService.registered_delete
    have gone : ¬((gateway.connectionManager.unindex id data).delete id).Registered id :=
      fun present => ((left id).mp present).2 rfl
    have stopped := accounted.stopHeartbeatTimers
    have apart := accounted.apart_stopHeartbeatTimers id
    refine ⟨⟨stopped.owned, fun callback timer armed => ?_, fun other stays present => ?_,
      fun other stays => ?_, fun other socket found => ?_, fun other present => ?_⟩, gone, ?_⟩
    · refine (left _).mpr ⟨stopped.registered callback timer armed, fun same => ?_⟩
      rw [Gateway.stopHeartbeatTimers, accounted.owned.armed_stopHeartbeatTimers] at armed
      cases (if_pos same).symm.trans armed
    · obtain ⟨before, different⟩ := (left other).mp present
      exact stopped.beating other (not_or.mpr ⟨different, stays⟩) before
    · by_cases same : other = id
      · subst same
        exact iff_of_false gone (by simp [Gateway.stopHeartbeatTimers, offline])
      · refine ((left other).trans (and_iff_left same)).trans ?_
        exact accounted.online other (not_or.mpr ⟨same, stays⟩)
    · have different : other ≠ id := by
        rintro rfl
        exact gone (AList.lookup_isSome.mp (Option.isSome_iff_exists.mpr ⟨socket, found⟩))
      exact accounted.known other socket ((AList.lookup_erase_ne different).symm.trans found)
    · exact accounted.seen other ((left other).mp present).1
    · exact { apart with
        registered := fun other different => (left other).trans (and_iff_left different) }
  · rw [removeSocket_of_absent registered]
    refine ⟨⟨accounted.owned, accounted.registered, fun other stays present => ?_,
      fun other stays => ?_, accounted.known, accounted.seen⟩, registered, .refl id gateway⟩
    · refine accounted.beating other (not_or.mpr ⟨?_, stays⟩) present
      rintro rfl
      exact registered present
    · by_cases same : other = id
      · subst same
        exact iff_of_false registered (by simp [offline])
      · exact accounted.online other (not_or.mpr ⟨same, stays⟩)

/-- It leaves by the handler of the disconnection. -/
theorem Accounted.handleDisconnect (accounted : gateway.Accounted config (Leaving id moving))
    (offline : gateway.connected id = false) :
    Left config moving id gateway (gateway.handleDisconnect id) :=
  (accounted.stopHeartbeatTimers.removeSocket offline).after
    (accounted.apart_stopHeartbeatTimers id)

/-- The removal does not change who is connected. -/
theorem connected_removeSocket : (gateway.removeSocket socketId).connected = gateway.connected := by
  rw [removeSocket]
  split <;> rfl

/-- A closed socket is not connected. -/
theorem offline_closed : (gateway.closed id).connected id = false := Function.update_self ..

/-- A disconnect keeps the account, and the socket is gone. -/
theorem Accounted.disconnect (accounted : gateway.Accounted config (Leaving id moving))
    (reenters : SocketId → Bool) :
    (gateway.disconnect reenters id).Accounted config (Leaving id moving) ∧
      (gateway.disconnect reenters id).connected id = false ∧
        Apart id gateway (gateway.disconnect reenters id) := by
  rw [Gateway.disconnect]
  split
  · split
    · have left := accounted.closed.handleDisconnect offline_closed
      refine ⟨left.accounted.leaving id, ?_, apart_closed.trans left.apart⟩
      rw [Gateway.handleDisconnect, connected_removeSocket]
      exact offline_closed
    · exact ⟨accounted.closed, offline_closed, apart_closed⟩
  · rename_i offline
    exact ⟨accounted, Bool.eq_false_iff.mpr offline, .refl id gateway⟩

/-- Disconnect a socket and remove it, as all do that get rid of one. -/
theorem Accounted.disconnected (accounted : gateway.Accounted config (Leaving id moving))
    (reenters : SocketId → Bool) :
    Left config moving id gateway ((gateway.disconnect reenters id).removeSocket id) := by
  obtain ⟨closed, offline, apart⟩ := accounted.disconnect reenters
  exact (closed.removeSocket offline).after apart

/-- So does an eviction. -/
theorem Accounted.evict (accounted : gateway.Accounted config moving) (reenters : SocketId → Bool)
    (reason : String) (subject : Subject) (id : SocketId) :
    Left config moving id gateway (gateway.evict reenters reason subject id) :=
  (((accounted.leaving id).emit id (.disconnectNotice reason subject)).disconnected reenters).after
    apart_emit

/-! ## What the sockets see of an event -/

/-- The phase of a socket's watchdog. -/
abbrev phase (gateway : Gateway) (id : SocketId) : Watchdog.Phase := gateway.heartbeats.phase id

/-- Changes apart leave the other phases. -/
theorem Apart.phase {before after : Gateway} (apart : Apart id before after) {other : SocketId}
    (different : other ≠ id) : after.phase other = before.phase other :=
  Heartbeats.phase_congr fun callback same => apart.armed callback (same ▸ different)

/-- Only registered sockets are watched. -/
theorem Accounted.phase_of_absent (accounted : gateway.Accounted config moving)
    (absent : ¬gateway.Registered id) : gateway.phase id = .off :=
  Heartbeats.phase_of_idle <| Option.eq_none_iff_forall_ne_some.mpr fun timer armed =>
    absent (accounted.registered _ timer armed)

/-- A registered socket's watchdog is on, with the ping timer armed. -/
theorem Accounted.phase_of_registered (steady : gateway.Steady config)
    (registered : gateway.Registered id) : ∃ timer,
      gateway.heartbeats.armed (.sendHeartbeatPing id) = some timer ∧
        gateway.phase id = .on timer.due
          ((gateway.heartbeats.armed (.handleStaleSocketTimeout id)).map Timer.due) := by
  obtain ⟨timer, armed⟩ := steady.beating id nofun registered
  exact ⟨timer, armed, Heartbeats.phase_of_armed armed⟩

/-- Some sockets may be gone, and nothing else has happened. -/
structure Sheds (before after : Gateway) : Prop where
  now : after.now = before.now
  seen : after.seen = before.seen
  registered : ∀ id, after.Registered id → before.Registered id
  phase : ∀ id, after.phase id = before.phase id ∨ after.phase id = .off

/-- Nothing shed. -/
theorem Sheds.refl (gateway : Gateway) : Sheds gateway gateway :=
  ⟨rfl, rfl, fun _ registered => registered, fun _ => .inl rfl⟩

/-- Shedding is transitive. -/
theorem Sheds.trans {first second third : Gateway} (left : Sheds first second)
    (right : Sheds second third) : Sheds first third where
  now := right.now.trans left.now
  seen := right.seen.trans left.seen
  registered id present := left.registered id (right.registered id present)
  phase id := by
    rcases right.phase id with same | off
    · rw [same]
      exact left.phase id
    · exact .inr off

/-- A socket that is gone is shed. -/
theorem Left.sheds {after : Gateway} (left : Left config moving id gateway after) :
    Sheds gateway after where
  now := left.apart.now
  seen := left.apart.seen
  registered other present := by
    refine (left.apart.registered other ?_).mp present
    rintro rfl
    exact left.gone present
  phase other := by
    by_cases same : other = id
    · subst same
      exact .inr (left.accounted.phase_of_absent left.gone)
    · exact .inl (left.apart.phase same)

/-- The sockets of a revocation are shed. -/
theorem Accounted.disconnectSockets (accounted : gateway.Accounted config moving)
    (reenters : SocketId → Bool) (reason : String) (subject : Subject) (sockets : List Socket) :
    let left := gateway.disconnectSockets reenters reason subject sockets
    left.Accounted config moving ∧ Sheds gateway left := by
  induction sockets generalizing gateway with
  | nil => exact ⟨accounted, .refl gateway⟩
  | cons socket sockets inductionHypothesis =>
      have next := accounted.evict reenters reason subject socket.id
      obtain ⟨left, sheds⟩ := inductionHypothesis next.accounted
      exact ⟨left, next.sheds.trans sheds⟩

/-- So are those of a message about one. -/
theorem Accounted.handleRevocationMessage (accounted : gateway.Accounted config moving)
    (reenters : SocketId → Bool) (event : RevocationEventPayload) :
    (gateway.handleRevocationMessage reenters event).Accounted config moving ∧
      Sheds gateway (gateway.handleRevocationMessage reenters event) := by
  rw [Gateway.handleRevocationMessage]
  split <;> split
  · exact accounted.disconnectSockets reenters _ _ _
  · exact ⟨accounted, .refl gateway⟩
  · exact accounted.disconnectSockets reenters _ _ _
  · exact ⟨accounted, .refl gateway⟩
  · exact accounted.disconnectSockets reenters _ _ _
  · exact ⟨accounted, .refl gateway⟩

/-- So are those that a connection supersedes. -/
theorem Accounted.supersede (accounted : gateway.Accounted config moving)
    (reenters : SocketId → Bool) (id : SocketId) (data : AuthenticatedSocketData) :
    (gateway.supersede reenters id data).Accounted config moving ∧
      Sheds gateway (gateway.supersede reenters id data) ∧
        (gateway.supersede reenters id data).connected id = gateway.connected id := by
  have unchanged : gateway.Accounted config moving ∧ Sheds gateway gateway ∧
      gateway.connected id = gateway.connected id := ⟨accounted, .refl gateway, rfl⟩
  rw [Gateway.supersede]
  split
  · exact unchanged
  split
  swap
  · exact unchanged
  split
  · exact unchanged
  rename_i existingSocketId _
  split
  · exact unchanged
  rename_i different
  split
  · exact unchanged
  rename_i existingSocket found
  obtain ⟨named, _⟩ := accounted.known existingSocketId existingSocket found
  have left := accounted.evict reenters "SUPERSEDED_BY_NEW_LOGIN" .none existingSocket.id
  refine ⟨left.accounted, left.sheds, left.apart.connected id ?_⟩
  rw [named]
  exact fun same => different same.symm

/-! ## The events -/

/-- The move of a socket that no timer and no pong is about. -/
def between : Watchdog.Phase → Watchdog.Phase → Watchdog.Move
  | .off, .on _ _ => .start
  | .on _ _, .off => .stop
  | _, _ => .idle

/-- What an event is to the watch of a socket. -/
def move (id : SocketId) (before : Gateway) (event : Event) (after : Gateway) : Watchdog.Move :=
  match event with
  | .timer timer _ _ =>
      match (before.heartbeats.timers.armed timer).map Timer.callback with
      | some (.sendHeartbeatPing own) => if own = id then .probe else .idle
      | some (.handleStaleSocketTimeout own) => if own = id then .expire else .idle
      | none => .idle
  | .pong own _ _ => if own = id then .answer else .idle
  | _ => between (before.phase id) (after.phase id)

/-- Shedding is a step of every watchdog. -/
theorem Sheds.step {after : Gateway} (sheds : Sheds gateway after) (id : SocketId) :
    config.watchdog.Step after.now (gateway.phase id)
      (between (gateway.phase id) (after.phase id)) (after.phase id) := by
  rcases sheds.phase id with same | off
  · rw [same]
    cases gateway.phase id <;> exact .idle _
  · rw [off]
    cases gateway.phase id
    · exact .idle _
    · exact .stop

/-- It starts none. -/
theorem Sheds.unstarted {after : Gateway} (sheds : Sheds gateway after) (id : SocketId) :
    between (gateway.phase id) (after.phase id) ≠ .start := by
  rcases sheds.phase id with same | off
  · rw [same]
    cases gateway.phase id <;> exact nofun
  · rw [off]
    cases gateway.phase id <;> exact nofun

/-- A socket that is registered starts to be watched. -/
theorem Accounted.enrolled {socket : Socket}
    (accounted : gateway.Accounted config (Leaving socket.id fun _ => False))
    {data : AuthenticatedSocketData} (carries : socket.data = some data)
    (online : gateway.connected socket.id = true) (seen : gateway.seen socket.id = true)
    (notice : Notice) :
    let started := ((gateway.enroll socket data).emit socket.id notice).startHeartbeatCycle config
      socket.id
    started.Steady config ∧
      started.phase socket.id = .on (gateway.now + config.watchdog.every) none ∧
      ∀ id, id ≠ socket.id → started.phase id = gateway.phase id := by
  intro started
  have armed : ∀ callback, started.heartbeats.armed callback =
      if callback = .sendHeartbeatPing socket.id then some (config.interval gateway.now socket.id)
      else if callback.socketId = socket.id then none else gateway.heartbeats.armed callback :=
    fun callback => accounted.owned.armed_startHeartbeatCycle
  have registered : ∀ id, started.Registered id ↔ id = socket.id ∨ gateway.Registered id :=
    fun id => AList.mem_insert _
  have others : ∀ id, id ≠ socket.id → (started.Registered id ↔ gateway.Registered id) :=
    fun id different => (registered id).trans (or_iff_right different)
  have stays : ∀ id, id ≠ socket.id → ¬Leaving socket.id (fun _ => False) id :=
    fun id different => not_or.mpr ⟨different, nofun⟩
  refine ⟨⟨accounted.owned.startHeartbeatCycle _ _, fun callback timer found => ?_,
    fun id _ present => ?_, fun id _ => ?_, fun id other found => ?_, fun id present => ?_⟩, ?_,
    fun id different => ?_⟩
  · rw [armed] at found
    split at found
    · rename_i same
      exact (registered _).mpr (.inl (same ▸ rfl))
    · split at found
      · cases found
      · exact (registered _).mpr (.inr (accounted.registered callback timer found))
  · by_cases same : id = socket.id
    · subst same
      exact ⟨_, (armed _).trans (if_pos rfl)⟩
    · obtain ⟨timer, found⟩ := accounted.beating id (stays id same) ((others id same).mp present)
      refine ⟨timer, (armed _).trans ?_⟩
      rw [if_neg (fun equal => same (Callback.sendHeartbeatPing.inj equal))]
      exact (if_neg same).trans found
  · by_cases same : id = socket.id
    · subst same
      exact iff_of_true ((registered _).mpr (.inl rfl)) online
    · exact (others id same).trans (accounted.online id (stays id same))
  · by_cases same : id = socket.id
    · subst same
      obtain rfl := Option.some.inj ((AList.lookup_insert _).symm.trans found)
      exact ⟨rfl, data, carries⟩
    · exact accounted.known id other ((AList.lookup_insert_ne same).symm.trans found)
  · rcases (registered id).mp present with rfl | before
    · exact seen
    · exact accounted.seen id before
  · rw [phase, Heartbeats.phase_of_armed ((armed _).trans (if_pos rfl)), armed, if_neg nofun]
    exact congrArg (fun waiting => Watchdog.Phase.on _ (Option.map Timer.due waiting)) (if_pos rfl)
  · refine Heartbeats.phase_congr fun callback same => ?_
    subst same
    rw [armed, if_neg (by rintro rfl; exact different rfl), if_neg different]

/-- What an event does: the timers stay accounted for, each socket makes a move, and one that
has been connected before does not start again. -/
structure Follows (config : HeartbeatConfig) (before : Gateway) (event : Event) (after : Gateway) :
    Prop where
  steady : after.Steady config
  step : ∀ id, config.watchdog.Step after.now (before.phase id) (move id before event after)
    (after.phase id)
  seen : ∀ id, before.seen id = true → after.seen id = true
  unstarted : ∀ id, before.seen id = true → move id before event after ≠ .start
  clock : after.now = before.now ∨
    before.now ≤ after.now ∧ ∀ id, after.phase id = before.phase id

/-- An event that only sheds follows the watchdogs. -/
theorem Sheds.follows {after : Gateway} (sheds : Sheds gateway after) (steady : after.Steady config)
    {event : Event}
    (plain : ∀ id, move id gateway event after = between (gateway.phase id) (after.phase id)) :
    gateway.Follows config event after where
  steady := steady
  step id := plain id ▸ sheds.step id
  seen _ seen := sheds.seen ▸ seen
  unstarted id _ := plain id ▸ sheds.unstarted id
  clock := .inl sheds.now

/-- A connection starts its socket's watchdog. -/
theorem Accounted.connection (steady : gateway.Steady config) {socket : Socket}
    (fresh : gateway.seen socket.id = false) (reenters : SocketId → Bool) :
    let opened := { gateway with
      connected := Function.update gateway.connected socket.id true
      seen := Function.update gateway.seen socket.id true }
    gateway.Follows config (.connection socket reenters)
      (opened.handleConnection config reenters socket) := by
  intro opened
  have absent : ¬gateway.Registered socket.id := fun present => by
    rw [steady.seen socket.id present] at fresh
    cases fresh
  have widened : ∀ id, gateway.seen id = true → opened.seen id = true := fun id seen => by
    by_cases same : id = socket.id
    · subst same
      exact Function.update_self ..
    · exact (Function.update_of_ne same ..).trans seen
  have arriving : opened.Accounted config (Leaving socket.id fun _ => False) := by
    refine ⟨steady.owned, steady.registered, fun id _ => steady.beating id nofun,
      fun id stays => ?_,
      steady.known, fun id present => ?_⟩
    · have same : opened.connected id = gateway.connected id :=
        Function.update_of_ne (fun equal => stays (.inl equal)) ..
      rw [same]
      exact steady.online id nofun
    · exact widened id (steady.seen id present)
  have rejected : gateway.Follows config (.connection socket reenters)
      (opened.disconnect reenters socket.id) := by
    obtain ⟨closed, offline, apart⟩ := arriving.disconnect reenters
    have gone : ¬(opened.disconnect reenters socket.id).Registered socket.id := by
      rw [Gateway.disconnect]
      split
      · split
        · exact (arriving.closed.handleDisconnect offline_closed).gone
        · exact absent
      · exact absent
    -- removing the socket changes nothing any more
    have removed := closed.removeSocket offline
    rw [removeSocket_of_absent gone] at removed
    have sheds : Sheds opened (opened.disconnect reenters socket.id) := (removed.after apart).sheds
    exact ⟨removed.accounted, fun id => sheds.step id, fun id seen => sheds.seen ▸ widened id seen,
      fun id _ => sheds.unstarted id, .inl sheds.now⟩
  rw [Gateway.handleConnection]
  split
  · exact rejected
  rename_i data carries
  split
  swap
  · exact rejected
  obtain ⟨left, sheds, connected⟩ := arriving.supersede reenters socket.id data
  have online : (opened.supersede reenters socket.id data).connected socket.id = true :=
    connected.trans (Function.update_self ..)
  have seen : (opened.supersede reenters socket.id data).seen socket.id = true := by
    rw [sheds.seen]
    exact Function.update_self ..
  obtain ⟨started, own, others⟩ := left.enrolled carries online seen (.connected data)
  refine ⟨started, fun id => ?_, fun id before => ?_, fun id before => ?_, .inl sheds.now⟩
  · change config.watchdog.Step _ _ (between _ (Gateway.phase _ id)) _
    by_cases same : id = socket.id
    · subst same
      rw [own, sheds.now, steady.phase_of_absent absent]
      exact sheds.now ▸ .start
    · rw [others id same]
      exact @Sheds.step config opened _ sheds id
  · exact (congrFun sheds.seen id).trans (widened id before)
  · have different : id ≠ socket.id := by
      rintro rfl
      cases fresh.symm.trans before
    change between (gateway.phase id) (Gateway.phase _ id) ≠ .start
    rw [others id different]
    exact @Sheds.unstarted opened _ sheds id

/-- A pong answers its socket's probe. -/
theorem Accounted.pong (steady : gateway.Steady config) (own : SocketId) (pingServerTime : JsValue)
    (dateNow : Int) : gateway.Follows config (.pong own pingServerTime dateNow)
      (gateway.handlePongMessage own pingServerTime dateNow) := by
  have armed : ∀ callback,
      (gateway.handlePongMessage own pingServerTime dateNow).heartbeats.armed callback =
        if callback = .handleStaleSocketTimeout own then none
        else gateway.heartbeats.armed callback := by
    intro callback
    rw [handlePongMessage, Heartbeats.armed_notePong, steady.owned.armed_cancel]
  have ticking : ∀ id,
      (gateway.handlePongMessage own pingServerTime dateNow).heartbeats.armed
        (.sendHeartbeatPing id) =
        gateway.heartbeats.armed (.sendHeartbeatPing id) := fun id => (armed _).trans (if_neg nofun)
  refine ⟨⟨(steady.owned.cancel _).notePong _ _ _, fun callback timer found => ?_,
    fun id stays present => ?_, steady.online, steady.known, steady.seen⟩, fun id => ?_,
    fun _ seen => seen, fun id _ => ?_, .inl rfl⟩
  · rw [armed] at found
    split at found
    · cases found
    · exact steady.registered callback timer found
  · obtain ⟨timer, found⟩ := steady.beating id stays present
    exact ⟨timer, (ticking id).trans found⟩
  · rw [move]
    split
    · rename_i same
      subst same
      by_cases present : gateway.Registered own
      · obtain ⟨timer, found, watched⟩ := steady.phase_of_registered present
        rw [watched, phase, Heartbeats.phase_of_armed ((ticking own).trans found), armed,
          if_pos rfl]
        exact .answer
      · rw [steady.phase_of_absent present, phase, Heartbeats.phase_of_idle]
        · exact .ignored
        · rw [ticking]
          exact Option.eq_none_iff_forall_ne_some.mpr fun timer found =>
            present (steady.registered _ timer found)
    · rename_i different
      have same :
          (gateway.handlePongMessage own pingServerTime dateNow).phase id = gateway.phase id :=
        Heartbeats.phase_congr fun callback about => by
          rw [armed, if_neg]
          rintro rfl
          exact different about
      rw [same]
      exact .idle _
  · rw [move]
    split <;> exact nofun

/-- The move of a timer that is taken. -/
theorem move_timer {timer : TimerId} {found : Timer Callback} {dateNow : Int} {after : Gateway}
    (armed : gateway.heartbeats.timers.armed timer = some found) :
    move id gateway (.timer timer dateNow reenters) after =
      match found.callback with
      | .sendHeartbeatPing own => if own = id then .probe else .idle
      | .handleStaleSocketTimeout own => if own = id then .expire else .idle := by
  simp only [move, armed, Option.map_some]
  cases found.callback <;> rfl

/-- A timer starts no watch. -/
theorem move_timer_ne_start {timer : TimerId} {dateNow : Int} {after : Gateway} :
    move id gateway (.timer timer dateNow reenters) after ≠ .start := by
  rw [move]
  repeat' split
  all_goals exact nofun

/-- A ping probes its socket. -/
theorem Accounted.ping (steady : gateway.Steady config) {own : SocketId}
    (online : gateway.connected own = true) (present : gateway.Registered own) (dateNow : Int) :
    let pinged := gateway.sendHeartbeatPing config dateNow own
    pinged.Steady config ∧ pinged.now = gateway.now ∧ pinged.seen = gateway.seen ∧
      ∀ callback, pinged.heartbeats.armed callback =
        if callback = .handleStaleSocketTimeout own then some (config.deadline gateway.now own)
        else gateway.heartbeats.armed callback := by
  rw [sendHeartbeatPing, if_pos online]
  intro pinged
  have noted := steady.owned.notePing own dateNow
  have armed : ∀ callback, pinged.heartbeats.armed callback =
      if callback = .handleStaleSocketTimeout own then some (config.deadline gateway.now own)
      else gateway.heartbeats.armed callback := fun callback => by
    have kept := @Heartbeats.armed_notePing gateway.heartbeats callback own dateNow
    rw [← kept]
    exact noted.armed_armPongTimeout
  refine ⟨⟨noted.armPongTimeout _ _, fun callback timer found => ?_, fun id stays registered => ?_,
    steady.online, steady.known, steady.seen⟩, rfl, rfl, armed⟩
  · rw [armed] at found
    split at found
    · rename_i same
      exact same ▸ present
    · exact steady.registered callback timer found
  · obtain ⟨timer, found⟩ := steady.beating id stays registered
    exact ⟨timer, (armed _).trans ((if_neg nofun).trans found)⟩

/-- A timer that fires is a step of its socket's watchdog. -/
theorem Accounted.timer (steady : gateway.Steady config) {timer : TimerId} {callback : Callback}
    {timers : Timers Callback}
    (taken : gateway.heartbeats.timers.take gateway.now timer = some (callback, timers))
    (dateNow : Int) (reenters : SocketId → Bool) :
    let left := { gateway with heartbeats := { gateway.heartbeats with timers } }
    gateway.Follows config (.timer timer dateNow reenters)
      (left.run config dateNow reenters callback) := by
  intro left
  obtain ⟨⟨found, armed, held, rfl, ripe⟩, owned, renewed⟩ := steady.owned.take taken
  have present : gateway.Registered found.callback.socketId := steady.registered _ found held
  have online : gateway.connected found.callback.socketId = true :=
    (steady.online _ nofun).mp present
  have resumed : left.Steady config := by
    refine ⟨owned, fun other timer at' => ?_, fun id stays registered => ?_, steady.online,
      steady.known, steady.seen⟩
    · rw [renewed] at at'
      split at at'
      · rename_i same
        exact same ▸ present
      · exact steady.registered other timer at'
    · by_cases same : Callback.sendHeartbeatPing id = found.callback
      · exact ⟨config.interval gateway.now id, by rw [renewed, if_pos same, ← same]; rfl⟩
      · obtain ⟨timer, at'⟩ := steady.beating id stays registered
        exact ⟨timer, by rw [renewed, if_neg same, at']⟩
  -- the other sockets keep their timers
  have others : ∀ id, found.callback.socketId ≠ id → left.phase id = gateway.phase id :=
    fun id different => Heartbeats.phase_congr fun other about => by
      rw [renewed, if_neg]
      rintro rfl
      exact different about
  cases called : found.callback with
  | sendHeartbeatPing own =>
      rw [called] at present online held renewed others
      obtain ⟨pinged, now, seen, timers⟩ :=
        @Accounted.ping config left resumed own online present dateNow
      refine ⟨pinged, fun id => ?_, fun _ before => seen ▸ before,
        fun _ _ => move_timer_ne_start, .inl now⟩
      rw [move_timer armed, called]
      change config.watchdog.Step (left.sendHeartbeatPing config dateNow own).now _
        (if own = id then .probe else .idle) ((left.sendHeartbeatPing config dateNow own).phase id)
      split
      · rename_i same
        subst same
        have ticking : (left.sendHeartbeatPing config dateNow own).heartbeats.armed
            (.sendHeartbeatPing own) = some (config.interval gateway.now own) := by
          rw [timers, if_neg nofun, renewed]
          exact if_pos rfl
        rw [now, phase, Heartbeats.phase_of_armed held, phase, Heartbeats.phase_of_armed ticking,
          timers,
          if_pos rfl]
        exact .probe ripe
      · rename_i different
        have same : (left.sendHeartbeatPing config dateNow own).phase id = left.phase id :=
          Heartbeats.phase_congr fun other about => by
            rw [timers, if_neg]
            rintro rfl
            exact different about
        rw [same, others id different]
        exact .idle _
  | handleStaleSocketTimeout own =>
      rw [called] at present online held renewed others
      let notice := Notice.disconnectNotice "STALE_HEARTBEAT_TIMEOUT" .none
      have notified := (resumed.leaving own).emit own notice
      have torn : left.handleStaleSocketTimeout reenters own =
          (((left.emit own notice).stopHeartbeatTimers own).disconnect reenters own).removeSocket
            own := if_pos online
      have gone :
          Left config (fun _ => False) own left (left.handleStaleSocketTimeout reenters own) :=
        torn ▸ (notified.stopHeartbeatTimers.disconnected reenters).after
          (apart_emit.trans (notified.apart_stopHeartbeatTimers own))
      refine ⟨gone.accounted, fun id => ?_, fun _ seen => gone.apart.seen ▸ seen,
        fun _ _ => move_timer_ne_start, .inl gone.apart.now⟩
      rw [move_timer armed, called]
      change config.watchdog.Step (left.handleStaleSocketTimeout reenters own).now _
        (if own = id then .expire else .idle)
        ((left.handleStaleSocketTimeout reenters own).phase id)
      split
      · rename_i same
        subst same
        obtain ⟨ticker, _, watched⟩ :=
          @Accounted.phase_of_registered config gateway own steady present
        rw [watched, held, gone.accounted.phase_of_absent gone.gone, gone.apart.now]
        exact .expire ripe
      · rename_i different
        rw [gone.apart.phase (Ne.symm different), others id different]
        exact .idle _

/-- Each event keeps the timers accounted for, and is a move of every watch. -/
theorem Accounted.step (steady : gateway.Steady config) {event : Event} {after : Gateway}
    (stepped : gateway.step config event = some after) : gateway.Follows config event after := by
  cases event with
  | elapse ms =>
      cases stepped
      refine ⟨⟨steady.owned, steady.registered, steady.beating, steady.online, steady.known,
        steady.seen⟩, fun id => ?_, fun _ seen => seen, fun id _ => ?_,
        .inr ⟨Nat.le_add_right _ _, fun _ => rfl⟩⟩
      · change config.watchdog.Step _ (gateway.phase id)
          (between (gateway.phase id) (gateway.phase id)) (gateway.phase id)
        cases gateway.phase id <;> exact .idle _
      · exact (Sheds.refl gateway).unstarted id
  | connection socket reenters =>
      simp only [Gateway.step] at stepped
      split at stepped
      · cases stepped
      · rename_i fresh
        cases stepped
        exact steady.connection (Bool.eq_false_iff.mpr fresh) reenters
  | disconnection own =>
      cases stepped
      have closed := (steady.leaving own).closed
      have left := (closed.handleDisconnect offline_closed).after apart_closed
      exact left.sheds.follows left.accounted fun _ => rfl
  | revocation event reenters =>
      cases stepped
      obtain ⟨left, sheds⟩ := steady.handleRevocationMessage reenters event
      exact sheds.follows left fun _ => rfl
  | revalidation own valid reenters =>
      cases stepped
      rw [revalidateSensitiveSocket]
      split
      · exact (Sheds.refl gateway).follows steady fun _ => rfl
      · have notified := (steady.leaving own).emit own
          (.authError "UNAUTHORIZED" "Authentication context is no longer valid")
        have left := (notified.stopHeartbeatTimers.disconnected reenters).after
          (apart_emit.trans (notified.apart_stopHeartbeatTimers own))
        exact left.sheds.follows left.accounted fun _ => rfl
  | pong own pingServerTime dateNow =>
      cases stepped
      exact steady.pong own pingServerTime dateNow
  | timer timer dateNow reenters =>
      simp only [Gateway.step] at stepped
      split at stepped
      · cases stepped
      · rename_i callback timers taken
        cases stepped
        exact steady.timer taken dateNow reenters

end Gateway

end Armada.Realtime
