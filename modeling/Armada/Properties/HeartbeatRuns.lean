import Armada.Properties.Heartbeats

/-!
# Runs of the heartbeat

Whatever the event loop runs, in any order and however late its timers are: a client is torn
down for its silence only if it has left its last ping unanswered for all the time it had.
How soon a silent client is found depends on how late the timers can be, and on the settings.
-/

namespace Armada.Realtime

open Collections Auth Node Concurrency

namespace Gateway

/-- An event with the gateway before and after it. -/
structure Turn where
  before : Gateway
  event : Event
  after : Gateway

/-- Zero or more events; each gateway on the way is as allowed. -/
inductive Steps (config : HeartbeatConfig) (allowed : Gateway → Prop) (start : Gateway) :
    List Turn → Gateway → Prop where
  | refl (permitted : allowed start) : Steps config allowed start [] start
  | step {trace : List Turn} {gateway after : Gateway} {event : Event}
      (prior : Steps config allowed start trace gateway)
      (stepped : gateway.step config event = some after) (permitted : allowed after) :
      Steps config allowed start (trace ++ [⟨gateway, event, after⟩]) after

/-- No armed timer is overdue by more than the slack. -/
def Prompt (slack : Nat) (gateway : Gateway) : Prop :=
  ∀ id timer, gateway.heartbeats.timers.armed id = some timer → gateway.now ≤ timer.due + slack

variable {config : HeartbeatConfig} {allowed : Gateway → Prop} {start gateway : Gateway}
  {turns : List Turn} {id : SocketId} {slack : Nat}

/-- The state a run ends in is one that was allowed. -/
theorem Steps.permitted (steps : start.Steps config allowed turns gateway) : allowed gateway := by
  cases steps with
  | refl permitted => exact permitted
  | step _ _ permitted => exact permitted

/-- A run keeps the timers in order. -/
theorem Steps.steady (steps : start.Steps config allowed turns gateway)
    (steady : start.Steady config) : gateway.Steady config := by
  induction steps with
  | refl => exact steady
  | step prior stepped permitted inductionHypothesis =>
      exact (inductionHypothesis.step stepped).steady

/-- Each turn of a run is a step after an earlier part of it. -/
theorem Steps.before (steps : start.Steps config allowed turns gateway) {turn : Turn}
    (member : turn ∈ turns) :
    ∃ earlier, earlier ⊆ turns ∧ start.Steps config allowed earlier turn.before := by
  induction steps with
  | refl => cases member
  | step prior stepped permitted inductionHypothesis =>
      rcases List.mem_append.mp member with earlier | last
      · obtain ⟨turns, within, prior⟩ := inductionHypothesis earlier
        exact ⟨turns, List.subset_append_of_subset_left _ within, prior⟩
      · rw [List.mem_singleton.mp last]
        exact ⟨_, List.subset_append_left .., prior⟩

/-- Each turn of a run is a step. -/
theorem Steps.stepped (steps : start.Steps config allowed turns gateway) {turn : Turn}
    (member : turn ∈ turns) : turn.before.step config turn.event = some turn.after := by
  induction steps with
  | refl => cases member
  | step prior stepped permitted inductionHypothesis =>
      rcases List.mem_append.mp member with earlier | last
      · exact inductionHypothesis earlier
      · rw [List.mem_singleton.mp last]
        exact stepped

/-- Each turn of a run is a step from an accounted gateway. -/
theorem Steps.follows (steps : start.Steps config allowed turns gateway)
    (steady : start.Steady config) {turn : Turn} (member : turn ∈ turns) :
    turn.before.Steady config ∧ turn.before.step config turn.event = some turn.after := by
  obtain ⟨earlier, _, prior⟩ := steps.before member
  exact ⟨prior.steady steady, steps.stepped member⟩

/-- It is enough to look at the ids that have been given out. -/
theorem prompt_iff : gateway.Prompt slack ↔ ∀ id < gateway.heartbeats.timers.next,
    ∀ timer ∈ gateway.heartbeats.timers.armed id, gateway.now ≤ timer.due + slack := by
  constructor
  · intro prompt id _ timer armed
    exact prompt id timer armed
  · intro bounded id timer armed
    have given : id < gateway.heartbeats.timers.next := by
      by_contra fresh
      cases (gateway.heartbeats.timers.fresh id (Nat.le_of_not_lt fresh)).symm.trans armed
    exact bounded id given timer armed

instance (slack : Nat) (gateway : Gateway) : Decidable (gateway.Prompt slack) :=
  decidable_of_iff _ prompt_iff.symm

/-- The turns of some events and the gateway after them, as far as they go. -/
def play (config : HeartbeatConfig) (allowed : Gateway → Prop) [DecidablePred allowed] :
    List Event → Gateway → List Turn × Gateway
  | [], gateway => ([], gateway)
  | event :: events, gateway =>
      match gateway.step config event with
      | none => ([], gateway)
      | some after =>
          if allowed after then
            let (turns, last) := play config allowed events after
            (⟨gateway, event, after⟩ :: turns, last)
          else ([], gateway)

/-- The events of a played run are those that were listed. -/
theorem event_of_play [DecidablePred allowed] {events : List Event} {turn : Turn}
    (member : turn ∈ (play config allowed events gateway).1) : turn.event ∈ events := by
  induction events generalizing gateway with
  | nil => cases member
  | cons event events inductionHypothesis =>
      rw [play] at member
      split at member
      · cases member
      · split at member
        · rcases List.mem_cons.mp member with rfl | later
          · exact List.mem_cons_self
          · exact List.mem_cons_of_mem _ (inductionHypothesis later)
        · cases member

/-- A run is continued by playing more events. -/
theorem Steps.play [DecidablePred allowed] (steps : start.Steps config allowed turns gateway)
    (events : List Event) : start.Steps config allowed
      (turns ++ (Gateway.play config allowed events gateway).1)
      (Gateway.play config allowed events gateway).2 := by
  induction events generalizing turns gateway with
  | nil => simpa [Gateway.play] using steps
  | cons event events inductionHypothesis =>
      rw [Gateway.play]
      split
      · simpa using steps
      · rename_i after stepped
        split
        · rename_i permitted
          simpa using inductionHypothesis (.step steps stepped permitted)
        · simpa using steps

/-- A socket that has been connected at the start has been so at each turn. -/
theorem Steps.seen (steps : start.Steps config allowed turns gateway) (steady : start.Steady config)
    (seen : start.seen id = true) : gateway.seen id = true := by
  induction steps with
  | refl => exact seen
  | step prior stepped permitted inductionHypothesis =>
      exact ((prior.steady steady).step stepped).seen id inductionHypothesis

/-- So it does not start to be watched again. -/
theorem Steps.unstarted (steps : start.Steps config allowed turns gateway)
    (steady : start.Steady config) (seen : start.seen id = true) {turn : Turn}
    (member : turn ∈ turns) :
    Gateway.move id turn.before turn.event turn.after ≠ .start := by
  induction steps with
  | refl => cases member
  | step prior stepped permitted inductionHypothesis =>
      rcases List.mem_append.mp member with earlier | last
      · exact inductionHypothesis earlier
      · rw [List.mem_singleton.mp last]
        exact ((prior.steady steady).step stepped).unstarted id (prior.seen steady seen)

/-- What a turn is to the watch of a socket, at its time. -/
def Turn.move (id : SocketId) (turn : Turn) : Nat × Watchdog.Move :=
  (turn.after.now, Gateway.move id turn.before turn.event turn.after)

/-- A run of the gateway is a run of the watch of each socket. -/
theorem Steps.watched {permitted : Nat → Watchdog.Phase → Prop}
    (steps : start.Steps config allowed turns gateway) (steady : start.Steady config)
    (permits : ∀ gateway : Gateway, gateway.Steady config → allowed gateway →
      permitted gateway.now (gateway.phase id)) :
    config.watchdog.Runs permitted start.now (start.phase id) (turns.map (Turn.move id)) gateway.now
      (gateway.phase id) := by
  induction steps with
  | refl => exact .refl
  | @step turns gateway after event prior stepped allowed inductionHypothesis =>
      have before := prior.steady steady
      have follows := before.step stepped
      rw [List.map_append]
      refine .step inductionHypothesis ?_ ?_ (follows.step id)
      · rcases follows.clock with same | ⟨later, _⟩
        · exact Nat.le_of_eq same.symm
        · exact later
      · rcases follows.clock with same | ⟨_, same⟩
        · rw [same]
          exact permits gateway before prior.permitted
        · rw [← same]
          exact permits after follows.steady allowed

/-- If no timer is late, neither is that of a watch. -/
theorem Prompt.punctual (prompt : gateway.Prompt slack) (steady : gateway.Steady config) :
    Watchdog.Punctual slack gateway.now (gateway.phase id) := by
  rw [phase, Heartbeats.phase]
  split
  · trivial
  · rename_i ticker ticking
    obtain ⟨timer, armed, _⟩ := steady.owned.armed_eq_some.mp ticking
    refine ⟨prompt timer ticker armed, fun due waiting => ?_⟩
    obtain ⟨deadline, found, rfl⟩ := Option.map_eq_some_iff.mp (Option.mem_def.mp waiting)
    obtain ⟨timer, armed, _⟩ := steady.owned.armed_eq_some.mp found
    exact prompt timer deadline armed

/-! ## What is emitted -/

/-- What the turn has emitted. -/
def Turn.emits (turn : Turn) : List (SocketId × Notice) :=
  turn.after.emitted.drop turn.before.emitted.length

/-- The notice to a socket whose watchdog has run. -/
abbrev staleNotice : Notice := .disconnectNotice "STALE_HEARTBEAT_TIMEOUT" .none

/-- The callback that an event runs, if it is one of a timer. -/
def callback (gateway : Gateway) : Event → Option Callback
  | .timer timer _ _ => (gateway.heartbeats.timers.armed timer).map Timer.callback
  | _ => none

section Emitted

variable {reenters : SocketId → Bool} {socketId : SocketId}

/-- Stopping the timers sends nothing. -/
@[simp] theorem emitted_stopHeartbeatTimers :
    (gateway.stopHeartbeatTimers socketId).emitted = gateway.emitted := rfl

/-- Nor does the removal of the socket. -/
@[simp] theorem emitted_removeSocket :
    (gateway.removeSocket socketId).emitted = gateway.emitted := by
  rw [removeSocket]
  split <;> rfl

/-- Nor does its disconnection. -/
@[simp] theorem emitted_handleDisconnect :
    (gateway.handleDisconnect socketId).emitted = gateway.emitted := by
  simp [handleDisconnect]

/-- Nor does closing it. -/
@[simp] theorem emitted_closed : (gateway.closed socketId).emitted = gateway.emitted := rfl

/-- Nor does disconnecting it. -/
@[simp] theorem emitted_disconnect :
    (gateway.disconnect reenters socketId).emitted = gateway.emitted := by
  rw [disconnect]
  split
  · split <;> simp
  · rfl

/-- A notice is sent to the socket it names. -/
@[simp] theorem emitted_emit {notice : Notice} :
    (gateway.emit socketId notice).emitted = gateway.emitted ++ [(socketId, notice)] := rfl

/-- An eviction sends its notice. -/
@[simp] theorem emitted_evict {reason : String} {subject : Subject} :
    (gateway.evict reenters reason subject socketId).emitted =
      gateway.emitted ++ [(socketId, .disconnectNotice reason subject)] := by
  simp [evict]

/-- A revocation sends one notice to each socket. -/
theorem emitted_disconnectSockets {reason : String} {subject : Subject} {sockets : List Socket} :
    (gateway.disconnectSockets reenters reason subject sockets).emitted =
      gateway.emitted ++
        sockets.map fun socket => (socket.id, .disconnectNotice reason subject) := by
  induction sockets generalizing gateway with
  | nil => simp [disconnectSockets]
  | cons socket sockets inductionHypothesis =>
      refine inductionHypothesis.trans ?_
      simp

/-- A superseding connection sends no stale notice. -/
theorem emitted_supersede {data : AuthenticatedSocketData} :
    ∃ added, (gateway.supersede reenters socketId data).emitted = gateway.emitted ++ added ∧
      ∀ id, (id, staleNotice) ∉ added := by
  have nothing : ∃ added, gateway.emitted = gateway.emitted ++ added ∧
      ∀ id, (id, staleNotice) ∉ added := ⟨[], by simp, by simp⟩
  rw [supersede]
  repeat' split
  case h_2 => exact ⟨_, emitted_evict, by simp⟩
  all_goals exact nothing

/-- A revocation names its subject, so its notices are no stale ones. -/
theorem emitted_handleRevocationMessage {event : RevocationEventPayload} :
    ∃ added, (gateway.handleRevocationMessage reenters event).emitted = gateway.emitted ++ added ∧
      ∀ id, (id, staleNotice) ∉ added := by
  have nothing : ∃ added, gateway.emitted = gateway.emitted ++ added ∧
      ∀ id, (id, staleNotice) ∉ added := ⟨[], by simp, by simp⟩
  rw [handleRevocationMessage]
  split <;> split
  · exact ⟨_, emitted_disconnectSockets, by simp⟩
  · exact nothing
  · exact ⟨_, emitted_disconnectSockets, by simp⟩
  · exact nothing
  · exact ⟨_, emitted_disconnectSockets, by simp⟩
  · exact nothing

/-- Nor does a new connection. -/
theorem emitted_handleConnection {socket : Socket} :
    ∃ added, (gateway.handleConnection config reenters socket).emitted = gateway.emitted ++ added ∧
      ∀ id, (id, staleNotice) ∉ added := by
  have rejected : ∃ added,
      (gateway.disconnect reenters socket.id).emitted = gateway.emitted ++ added ∧
      ∀ id, (id, staleNotice) ∉ added := ⟨[], by simp, by simp⟩
  rw [handleConnection]
  split
  · exact rejected
  rename_i data _
  split
  · obtain ⟨added, emitted, none⟩ := @emitted_supersede gateway reenters socket.id data
    refine ⟨added ++ [(socket.id, .connected data)], ?_, fun id => ?_⟩
    · change (gateway.supersede reenters socket.id data).emitted ++ _ = _
      rw [emitted, List.append_assoc]
    · simpa using none id
  · exact rejected

/-- A stale notice is emitted only by the watchdog of its socket. -/
theorem step_emits {event : Event} {after : Gateway}
    (stepped : gateway.step config event = some after) :
    ∃ added, after.emitted = gateway.emitted ++ added ∧
      ∀ id, (id, staleNotice) ∈ added →
        gateway.callback event = some (.handleStaleSocketTimeout id) := by
  have silent : ∀ {unchanged : Gateway}, unchanged.emitted = gateway.emitted →
      ∃ added, unchanged.emitted = gateway.emitted ++ added ∧ ∀ id, (id, staleNotice) ∈ added →
        gateway.callback event = some (.handleStaleSocketTimeout id) :=
    fun same => ⟨[], by rw [same, List.append_nil], by simp⟩
  cases event with
  | elapse ms =>
      cases stepped
      exact silent rfl
  | connection socket reenters =>
      simp only [Gateway.step] at stepped
      split at stepped
      · cases stepped
      · cases stepped
        obtain ⟨added, emitted, none⟩ := emitted_handleConnection
        exact ⟨added, emitted, fun id member => absurd member (none id)⟩
  | disconnection own =>
      cases stepped
      exact silent (by simp)
  | revocation event reenters =>
      cases stepped
      obtain ⟨added, emitted, none⟩ := emitted_handleRevocationMessage
      exact ⟨added, emitted, fun id member => absurd member (none id)⟩
  | revalidation own valid reenters =>
      cases stepped
      rw [revalidateSensitiveSocket]
      split
      · exact silent rfl
      · exact ⟨[(own, .authError "UNAUTHORIZED" "Authentication context is no longer valid")],
          by simp, by simp⟩
  | pong own pingServerTime dateNow =>
      cases stepped
      exact silent rfl
  | timer timer dateNow reenters =>
      simp only [Gateway.step] at stepped
      split at stepped
      · cases stepped
      rename_i callback timers taken
      cases stepped
      obtain ⟨found, armed, rfl, _⟩ := Timers.take_eq_some taken
      rw [callback, armed, Option.map_some]
      cases found.callback with
      | sendHeartbeatPing own =>
          rw [run, sendHeartbeatPing]
          split
          · exact ⟨[(own, .ping dateNow)], rfl, by simp⟩
          · exact ⟨[], by simp, by simp⟩
      | handleStaleSocketTimeout own =>
          rw [run, handleStaleSocketTimeout]
          split
          · exact ⟨[(own, staleNotice)], by simp, by simp⟩
          · exact ⟨[], by simp, by simp⟩

end Emitted

/-- Between two phases no probe is needed. -/
theorem between_ne_probe {before after : Watchdog.Phase} : between before after ≠ .probe := by
  cases before <;> cases after <;> exact nofun

/-- Nor is an answer. -/
theorem between_ne_answer {before after : Watchdog.Phase} : between before after ≠ .answer := by
  cases before <;> cases after <;> exact nofun

/-- Only a pong of a socket answers for it. -/
theorem pong_of_answer {event : Event} {after : Gateway}
    (answered : move id gateway event after = .answer) :
    ∃ pingServerTime dateNow, event = .pong id pingServerTime dateNow := by
  cases event with
  | pong own pingServerTime dateNow =>
      rw [move] at answered
      split at answered
      · rename_i same
        exact ⟨pingServerTime, dateNow, same ▸ rfl⟩
      · cases answered
  | timer timer dateNow reenters =>
      rw [move] at answered
      repeat' split at answered
      all_goals cases answered
  | elapse ms => exact absurd answered between_ne_answer
  | connection socket reenters => exact absurd answered between_ne_answer
  | disconnection own => exact absurd answered between_ne_answer
  | revocation event reenters => exact absurd answered between_ne_answer
  | revalidation own valid reenters => exact absurd answered between_ne_answer

/-- A turn that probes a socket pings it. -/
theorem ping_of_probe (steady : gateway.Steady config) {event : Event} {after : Gateway}
    (stepped : gateway.step config event = some after)
    (probed : move id gateway event after = .probe) :
    ∃ dateNow, after.emitted = gateway.emitted ++ [(id, .ping dateNow)] := by
  cases event with
  | timer timer dateNow reenters =>
      simp only [Gateway.step] at stepped
      split at stepped
      · cases stepped
      rename_i callback timers taken
      cases stepped
      obtain ⟨found, armed, rfl, _⟩ := Timers.take_eq_some taken
      rw [move_timer armed] at probed
      have held := steady.owned.armed_eq_some.mpr ⟨timer, armed, rfl⟩
      have online := (steady.online _ (by simp)).mp (steady.registered _ found held)
      cases called : found.callback with
      | sendHeartbeatPing own =>
          rw [called] at probed online
          simp only at probed
          split at probed
          · rename_i same
            subst same
            refine ⟨dateNow, ?_⟩
            exact congrArg Gateway.emitted (if_pos online)
          · cases probed
      | handleStaleSocketTimeout own =>
          rw [called] at probed
          simp only at probed
          split at probed <;> cases probed
  | pong own pingServerTime dateNow =>
      rw [move] at probed
      split at probed <;> cases probed
  | elapse ms => exact absurd probed between_ne_probe
  | connection socket reenters => exact absurd probed between_ne_probe
  | disconnection own => exact absurd probed between_ne_probe
  | revocation event reenters => exact absurd probed between_ne_probe
  | revalidation own valid reenters => exact absurd probed between_ne_probe

/-- What a turn of a run emits; a stale notice is the move of an expired watch. -/
theorem expire_of_emits (steady : gateway.Steady config) {event : Event} {after : Gateway}
    (stepped : gateway.step config event = some after)
    (torn : (id, staleNotice) ∈ Turn.emits ⟨gateway, event, after⟩) :
    move id gateway event after = .expire ∧ ¬after.Registered id := by
  obtain ⟨added, emitted, stale⟩ := step_emits stepped
  rw [Turn.emits, emitted, List.drop_left] at torn
  have run := stale id torn
  cases event with
  | timer timer dateNow reenters =>
      obtain ⟨found, armed, called⟩ := Option.map_eq_some_iff.mp run
      have expired : move id gateway (.timer timer dateNow reenters) after = .expire := by
        rw [move_timer armed, called]
        exact if_pos rfl
      refine ⟨expired, fun present => ?_⟩
      have follows := steady.step stepped
      have step := follows.step id
      rw [expired] at step
      obtain ⟨ticker, _, watched⟩ := follows.steady.phase_of_registered present
      cases step.off_of_expire.symm.trans watched
  | elapse ms => cases run
  | connection socket reenters => cases run
  | disconnection own => cases run
  | revocation event reenters => cases run
  | revalidation own valid reenters => cases run
  | pong own pingServerTime dateNow => cases run

/-- The watch of a socket, from the start. -/
theorem Steps.watched_initially {permitted : Nat → Watchdog.Phase → Prop}
    (steps : ({} : Gateway).Steps config allowed turns gateway)
    (permits : ∀ gateway : Gateway, gateway.Steady config → allowed gateway →
      permitted gateway.now (gateway.phase id)) :
    config.watchdog.Runs permitted 0 .off (turns.map (Turn.move id)) gateway.now
      (gateway.phase id) := steps.watched Accounted.initial permits

end Gateway

open Gateway

variable {config : HeartbeatConfig} {turns : List Turn} {last : Gateway}

/-- In every run, the armed timers are those that the registered sockets hold, the sockets
registered are those connected, and each of them has its interval. -/
theorem timers_accounted (steps : ({} : Gateway).Steps config (fun _ => True) turns last) :
    (∀ timer found, last.heartbeats.timers.armed timer = some found →
      last.Registered found.callback.socketId ∧
        last.heartbeats.timer? found.callback = some timer) ∧
      (∀ id, last.Registered id ↔ last.connected id = true) ∧
      ∀ id, last.Registered id → ∃ timer found,
        last.heartbeats.timers.armed timer = some found ∧
          found.callback = .sendHeartbeatPing id := by
  have steady := steps.steady Accounted.initial
  refine ⟨fun timer found armed => ?_, fun id => steady.online id nofun, fun id present => ?_⟩
  · have held := steady.owned.armed_eq_some.mpr ⟨timer, armed, rfl⟩
    exact ⟨steady.registered _ found held, steady.owned.held timer found armed⟩
  · obtain ⟨found, armed⟩ := steady.beating id nofun present
    obtain ⟨timer, armed, called⟩ := steady.owned.armed_eq_some.mp armed
    exact ⟨timer, found, armed, called⟩

namespace Silent

/-! A client connects, is pinged and never answers. -/

def own : SocketId := ⟨"K3", by decide, by decide⟩

def data : AuthenticatedSocketData where
  userId := .string "u"
  username := "ani"
  role := "DRIVER"
  organizationId := none
  permissions := []
  deviceId := .string "d"
  sessionId := .string "s"
  accessTokenExp := 0
  driverId := some 7
  connectedAt := 0

def joins : List Event := [.connection ⟨own, some data⟩ fun _ => true]

def waits : List Event :=
  [.elapse 25000, .timer 0 25000 fun _ => true, .elapse 10000, .timer 1 35000 fun _ => true,
    .elapse 1]

abbrev always : Gateway → Prop := fun _ => True

def joined : Gateway := (play {} always joins {}).2

/-- The join is a run. -/
theorem joined_steps : ({} : Gateway).Steps {} always (play {} always joins {}).1 joined :=
  (Steps.refl trivial).play joins

/-- The timers of the joined socket. -/
theorem timers_accounted_joined :
    (∀ timer found, joined.heartbeats.timers.armed timer = some found →
      joined.Registered found.callback.socketId ∧
        joined.heartbeats.timer? found.callback = some timer) ∧
      (∀ id, joined.Registered id ↔ joined.connected id = true) ∧
      ∀ id, joined.Registered id → ∃ timer found,
        joined.heartbeats.timers.armed timer = some found ∧
          found.callback = .sendHeartbeatPing id :=
  timers_accounted joined_steps

end Silent

/-- A socket that is told of its heartbeat timeout is removed, it has been pinged at least
`pongTimeoutMs` before, and no pong of it has been handled since. -/
theorem torn_down_after_silence (steps : ({} : Gateway).Steps config (fun _ => True) turns last)
    {index : Nat} {turn : Turn} (taken : turns[index]? = some turn) {id : SocketId}
    (torn : (id, staleNotice) ∈ turn.emits) :
    ¬turn.after.Registered id ∧ ∃ (asked : Nat) (ping : Turn) (dateNow : Int), asked < index ∧
      turns[asked]? = some ping ∧ (id, .ping dateNow) ∈ ping.emits ∧
      ping.after.now + delayOf config.pongTimeoutMs ≤ turn.after.now ∧
      ∀ (between : Nat) (other : Turn), asked < between → between < index →
        turns[between]? = some other →
          ∀ pingServerTime received, other.event ≠ .pong id pingServerTime received := by
  have runs : config.watchdog.Runs (fun _ _ => True) 0 .off (turns.map (Turn.move id)) last.now
      (last.phase id) := steps.watched_initially fun _ _ _ => trivial
  obtain ⟨steady, stepped⟩ := steps.follows Accounted.initial (List.mem_of_getElem? taken)
  obtain ⟨expired, gone⟩ := expire_of_emits steady stepped torn
  have move : (turns.map (Turn.move id))[index]? = some (turn.after.now, .expire) := by
    rw [List.getElem?_map, taken, ← expired]
    rfl
  obtain ⟨asked, time, earlier, probed, waited, idle⟩ := runs.silent move
  obtain ⟨ping, atAsked, moved⟩ :=
    Option.map_eq_some_iff.mp ((List.getElem?_map ..).symm.trans probed)
  obtain ⟨rfl, probing⟩ := Prod.mk.inj moved
  obtain ⟨before, happened⟩ := steps.follows Accounted.initial (List.mem_of_getElem? atAsked)
  obtain ⟨dateNow, emitted⟩ := ping_of_probe before happened probing
  refine ⟨gone, asked, ping, dateNow, earlier, atAsked, ?_, waited, ?_⟩
  · rw [Turn.emits, emitted, List.drop_left]
    exact List.mem_singleton_self _
  · intro between other after upto found pingServerTime received pong
    have moved := idle between (other.move id) after upto (by rw [List.getElem?_map, found]; rfl)
    rw [Turn.move, pong] at moved
    simp [Gateway.move] at moved

namespace Silent

def moves : List Turn := (play {} always (joins ++ waits) {}).1

def left : Gateway := (play {} always (joins ++ waits) {}).2

/-- The join and the wait are a run. -/
theorem left_steps : ({} : Gateway).Steps {} always moves left :=
  (Steps.refl trivial).play (joins ++ waits)

/-- The silent socket is torn down, and was asked before. -/
theorem torn_down_after_silence_own : ∃ turn, moves[4]? = some turn ∧ ¬turn.after.Registered own ∧
    ∃ (asked : Nat) (ping : Turn) (dateNow : Int), asked < 4 ∧ moves[asked]? = some ping ∧
      (own, .ping dateNow) ∈ ping.emits ∧ ping.after.now + 10000 ≤ turn.after.now ∧
      ∀ (between : Nat) (other : Turn), asked < between → between < 4 →
        moves[between]? = some other →
          ∀ pingServerTime received, other.event ≠ .pong own pingServerTime received := by
  have taken : ∃ turn ∈ moves[4]?, (own, staleNotice) ∈ turn.emits := by decide +kernel
  obtain ⟨turn, found, torn⟩ := taken
  exact ⟨turn, found, torn_down_after_silence left_steps found torn⟩

end Silent

/-- If the timers are late by at most the slack and a pong is due before the next ping, a
socket that sends no pong any more is removed in time. -/
theorem silent_client_removed {slack : Nat} {first : List Turn} {before after : Gateway}
    (prompt : delayOf config.pongTimeoutMs + slack < delayOf config.heartbeatIntervalMs)
    (earlier : ({} : Gateway).Steps config (Prompt slack) first before)
    (later : before.Steps config (Prompt slack) turns after) {id : SocketId}
    (connected : before.seen id = true)
    (silent : ∀ turn ∈ turns, ∀ pingServerTime dateNow,
      turn.event ≠ .pong id pingServerTime dateNow)
    (waited : before.now + delayOf config.heartbeatIntervalMs + delayOf config.pongTimeoutMs +
      2 * slack < after.now) : ¬after.Registered id := by
  have steady := earlier.steady Accounted.initial
  have punctual : ∀ gateway : Gateway, gateway.Steady config → Prompt slack gateway →
      Watchdog.Punctual slack gateway.now (gateway.phase id) :=
    fun gateway steady prompt => prompt.punctual steady
  have runs : config.watchdog.Runs (Watchdog.Punctual slack) before.now (before.phase id)
      (turns.map (Turn.move id)) after.now (after.phase id) := later.watched steady punctual
  have off : after.phase id = .off := by
    refine runs.given_up prompt (fun due deadline watched => ?_) ?_ ?_ waited
    · exact (earlier.watched_initially punctual).due_le watched
    · intro step member answered
      obtain ⟨turn, own, rfl⟩ := List.mem_map.mp member
      obtain ⟨pingServerTime, dateNow, pong⟩ := pong_of_answer answered
      exact silent turn own pingServerTime dateNow pong
    · intro step member
      obtain ⟨turn, own, rfl⟩ := List.mem_map.mp member
      exact later.unstarted steady connected own
  intro present
  obtain ⟨ticker, _, watched⟩ := (later.steady steady).phase_of_registered present
  cases off.symm.trans watched

namespace Silent

def prompt : Gateway := (play {} (Prompt 0) joins {}).2

/-- The prompt join is a run. -/
theorem prompt_steps : ({} : Gateway).Steps {} (Prompt 0) (play {} (Prompt 0) joins {}).1 prompt :=
  (Steps.refl (by decide)).play joins

/-- The timers of the default settings, taken as soon as they are due. -/
theorem silent_client_removed_own : ¬(play {} (Prompt 0) waits prompt).2.Registered own := by
  have later : prompt.Steps {} (Prompt 0) (play {} (Prompt 0) waits prompt).1
      (play {} (Prompt 0) waits prompt).2 := (Steps.refl (by decide +kernel)).play waits
  refine silent_client_removed (by decide) prompt_steps later (by decide +kernel) ?_
    (by decide +kernel)
  intro turn member
  have own : turn.event ∈ waits := event_of_play member
  simp only [waits, List.mem_cons, List.not_mem_nil, or_false] at own
  rcases own with same | same | same | same | same <;> simp [same]

end Silent

/-- If each ping comes before the pong of the last one is due, no socket is ever told of a
heartbeat timeout. -/
theorem never_torn_down {slack : Nat}
    (hasty : delayOf config.heartbeatIntervalMs + slack < delayOf config.pongTimeoutMs)
    (steps : ({} : Gateway).Steps config (Prompt slack) turns last) {turn : Turn}
    (member : turn ∈ turns) (id : SocketId) : (id, staleNotice) ∉ turn.emits := by
  intro torn
  obtain ⟨index, taken⟩ := List.getElem?_of_mem member
  obtain ⟨steady, stepped⟩ := steps.follows Accounted.initial member
  obtain ⟨expired, _⟩ := expire_of_emits steady stepped torn
  have runs : config.watchdog.Runs (Watchdog.Punctual slack) 0 .off (turns.map (Turn.move id))
      last.now (last.phase id) := steps.watched_initially fun gateway steady prompt =>
        prompt.punctual steady
  have move : (turns.map (Turn.move id))[index]? = some (turn.after.now, .expire) := by
    rw [List.getElem?_map, taken, ← expired]
    rfl
  exact runs.never_expires hasty move

namespace Silent

def hasty : HeartbeatConfig where
  heartbeatIntervalMs := some 5000

def pinged : List Event := [.elapse 5000, .timer 0 5000 fun _ => true]

/-- The pinged socket's run is prompt. -/
theorem pinged_steps : ({} : Gateway).Steps hasty (Prompt 0)
    (play hasty (Prompt 0) (joins ++ pinged) {}).1 (play hasty (Prompt 0) (joins ++ pinged) {}).2 :=
  (Steps.refl (by decide)).play (joins ++ pinged)

/-- It is sent no stale notice. -/
theorem never_torn_down_hasty :
    (own, staleNotice) ∉ (play hasty (Prompt 0) (joins ++ pinged) {}).1.flatMap Turn.emits := by
  intro torn
  obtain ⟨turn, member, emitted⟩ := List.mem_flatMap.mp torn
  exact never_torn_down (by decide) pinged_steps member own emitted

end Silent

end Armada.Realtime
