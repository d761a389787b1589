import Armada.Concurrency.Watchdog
import Armada.Realtime.Heartbeat

/-!
# The timers of the heartbeat

Each armed timer is held by the field of its callback. So the timer of a callback is a
function of the callback, and each operation of the heartbeat is one on that function.
-/

namespace Armada.Realtime

open Collections Auth Node Concurrency

/-- The socket that a callback is about. -/
def Callback.socketId : Callback → SocketId
  | .sendHeartbeatPing socketId => socketId
  | .handleStaleSocketTimeout socketId => socketId

/-- The delay after which a timer of a callback is armed again. -/
def HeartbeatConfig.every (config : HeartbeatConfig) : Callback → Option Nat
  | .sendHeartbeatPing _ => some (delayOf config.heartbeatIntervalMs)
  | .handleStaleSocketTimeout _ => none

/-- How the sockets are watched. -/
def HeartbeatConfig.watchdog (config : HeartbeatConfig) : Watchdog where
  every := delayOf config.heartbeatIntervalMs
  patience := delayOf config.pongTimeoutMs

/-- The interval of a socket, started at a time. -/
def HeartbeatConfig.interval (config : HeartbeatConfig) (now : Nat) (socketId : SocketId) :
    Timer Callback where
  callback := .sendHeartbeatPing socketId
  due := now + config.watchdog.every
  every := some config.watchdog.every

/-- The deadline of a ping that is sent at a time. -/
def HeartbeatConfig.deadline (config : HeartbeatConfig) (now : Nat) (socketId : SocketId) :
    Timer Callback where
  callback := .handleStaleSocketTimeout socketId
  due := now + config.watchdog.patience

/-- What is armed for a callback after the loop has taken its timer. -/
def HeartbeatConfig.renewed (config : HeartbeatConfig) (now : Nat) :
    Callback → Option (Timer Callback)
  | .sendHeartbeatPing socketId => some (config.interval now socketId)
  | .handleStaleSocketTimeout _ => none

namespace Heartbeats

variable {config : HeartbeatConfig} {heartbeats : Heartbeats} {callback other : Callback}
  {id : TimerId} {timer : Timer Callback} {now : Nat} {socketId : SocketId}

/-- A timer is set for one callback. -/
theorem timer?_setTimer {value : Option TimerId} :
    (heartbeats.setTimer callback value).timer? other =
    if other = callback then value else heartbeats.timer? other := by
  rcases callback with own | own <;> rcases other with id | id <;>
    by_cases same : id = own <;> simp [setTimer, setData, timer?, same]

/-- Setting it arms none. -/
@[simp] theorem timers_setTimer {value : Option TimerId} :
    (heartbeats.setTimer callback value).timers = heartbeats.timers := by
  cases callback <;> rfl

/-- Arming does not set one. -/
@[simp] theorem timer?_withTimers {timers : Timers Callback} :
    ({ heartbeats with timers } : Heartbeats).timer? callback = heartbeats.timer? callback := by
  cases callback <;> rfl

/-- The timer that the field of a callback holds, if it is armed. -/
def armed (heartbeats : Heartbeats) (callback : Callback) : Option (Timer Callback) :=
  (heartbeats.timer? callback).bind heartbeats.timers.armed

/-- Each armed timer is held by the field of its callback, and a field holds none of another
callback. -/
structure Owned (config : HeartbeatConfig) (heartbeats : Heartbeats) : Prop where
  held : ∀ id timer, heartbeats.timers.armed id = some timer →
    heartbeats.timer? timer.callback = some id
  named : ∀ callback id, heartbeats.timer? callback = some id → id < heartbeats.timers.next ∧
    ∀ timer, heartbeats.timers.armed id = some timer → timer.callback = callback
  every : ∀ id timer, heartbeats.timers.armed id = some timer →
    timer.every = config.every timer.callback

/-- Nothing is armed, and nothing set. -/
theorem Owned.initial : Owned config {} where
  held _ _ armed := by cases armed
  named callback _ held := by cases callback <;> cases held
  every _ _ armed := by cases armed

/-- The timer armed for a callback is the one with that callback. -/
theorem Owned.armed_eq_some (owned : heartbeats.Owned config) :
    heartbeats.armed callback = some timer ↔
    ∃ id, heartbeats.timers.armed id = some timer ∧ timer.callback = callback := by
  rw [armed, Option.bind_eq_some_iff]
  constructor
  · rintro ⟨id, held, armed⟩
    exact ⟨id, armed, (owned.named callback id held).2 timer armed⟩
  · rintro ⟨id, armed, rfl⟩
    exact ⟨id, owned.held id timer armed, armed⟩

/-- No two fields hold one armed timer. -/
theorem Owned.callback_eq (owned : heartbeats.Owned config)
    (held : heartbeats.timer? callback = some id)
    (also : heartbeats.timer? other = some id) (armed : heartbeats.timers.armed id = some timer) :
    callback = other :=
  ((owned.named callback id held).2 timer armed).symm.trans
    ((owned.named other id also).2 timer armed)

/-- How a socket is watched. -/
def phase (heartbeats : Heartbeats) (socketId : SocketId) : Watchdog.Phase :=
  match heartbeats.armed (.sendHeartbeatPing socketId) with
  | none => .off
  | some ticker =>
      .on ticker.due ((heartbeats.armed (.handleStaleSocketTimeout socketId)).map Timer.due)

/-- Without an interval the watchdog is off. -/
theorem phase_of_idle (idle : heartbeats.armed (.sendHeartbeatPing socketId) = none) :
    heartbeats.phase socketId = .off := by
  rw [phase, idle]

/-- With one it is on, and waits for a pong if the timeout is armed. -/
theorem phase_of_armed (ticking : heartbeats.armed (.sendHeartbeatPing socketId) = some timer) :
    heartbeats.phase socketId =
      .on timer.due ((heartbeats.armed (.handleStaleSocketTimeout socketId)).map Timer.due) := by
  rw [phase, ticking]

/-- It depends on the socket's own timers alone. -/
theorem phase_congr {left right : Heartbeats}
    (same : ∀ callback, callback.socketId = socketId → left.armed callback = right.armed callback) :
    left.phase socketId = right.phase socketId := by
  rw [phase, phase, same _ rfl, same (.handleStaleSocketTimeout socketId) rfl]

/-! ## Clearing -/

/-- A cancelled timer leaves the others owned. -/
theorem Owned.cancel (owned : heartbeats.Owned config) (callback : Callback) :
    (heartbeats.cancel callback).Owned config := by
  rw [Heartbeats.cancel]
  split
  · exact owned
  rename_i id held
  constructor
  · intro other timer armed
    rw [timers_setTimer] at armed
    have different : other ≠ id := by
      rintro rfl
      rw [Timers.armed_clear_self] at armed
      cases armed
    rw [Timers.armed_clear_of_ne different] at armed
    rw [timer?_setTimer, if_neg]
    · exact owned.held other timer armed
    · rintro rfl
      exact different (Option.some.inj ((owned.held other timer armed).symm.trans held))
  · intro other at' holds
    rw [timer?_setTimer] at holds
    split at holds
    · cases holds
    · rw [timers_setTimer]
      refine ⟨(owned.named other at' holds).1, fun timer armed => ?_⟩
      by_cases same : at' = id
      · subst same
        rw [Timers.armed_clear_self] at armed
        cases armed
      · rw [Timers.armed_clear_of_ne same] at armed
        exact (owned.named other at' holds).2 timer armed
  · intro other timer armed
    rw [timers_setTimer] at armed
    by_cases same : other = id
    · subst same
      rw [Timers.armed_clear_self] at armed
      cases armed
    · rw [Timers.armed_clear_of_ne same] at armed
      exact owned.every other timer armed

/-- It leaves the others armed. -/
theorem Owned.armed_cancel (owned : heartbeats.Owned config) :
    (heartbeats.cancel callback).armed other =
      if other = callback then none else heartbeats.armed other := by
  rw [Heartbeats.cancel]
  split
  · rename_i empty
    split
    · rename_i same
      rw [same, armed, empty, Option.bind_none]
    · rfl
  rename_i id held
  rw [armed, timer?_setTimer, timers_setTimer]
  split
  · rfl
  rename_i different
  rw [armed, timer?_withTimers]
  cases holds : heartbeats.timer? other with
  | none => rfl
  | some at' =>
      rw [Option.bind_some, Option.bind_some]
      by_cases same : at' = id
      · subst same
        rw [Timers.armed_clear_self]
        cases found : heartbeats.timers.armed at' with
        | none => rfl
        | some timer => exact absurd (owned.callback_eq holds held found) different
      · exact Timers.armed_clear_of_ne same

/-- Stopping both leaves the others owned. -/
theorem Owned.stopHeartbeatTimers (owned : heartbeats.Owned config) (socketId : SocketId) :
    (heartbeats.stopHeartbeatTimers socketId).Owned config := (owned.cancel _).cancel _

/-- And armed. -/
theorem Owned.armed_stopHeartbeatTimers (owned : heartbeats.Owned config) :
    (heartbeats.stopHeartbeatTimers socketId).armed callback =
      if callback.socketId = socketId then none else heartbeats.armed callback := by
  rw [Heartbeats.stopHeartbeatTimers, (owned.cancel _).armed_cancel, owned.armed_cancel]
  by_cases same : callback.socketId = socketId
  · subst same
    cases callback <;> simp [Callback.socketId]
  · rw [if_neg same, if_neg (by rintro rfl; exact same rfl), if_neg (by rintro rfl; exact same rfl)]

/-! ## Arming -/

/-- Arm a timer of a callback that has none, and hold it. -/
theorem Owned.arm (owned : heartbeats.Owned config) (idle : heartbeats.armed timer.callback = none)
    (every : timer.every = config.every timer.callback) :
    ({ heartbeats with timers := heartbeats.timers.arm timer }.setTimer timer.callback
      (some heartbeats.timers.next)).Owned config := by
  have alone : ∀ id other, heartbeats.timers.armed id = some other →
      other.callback ≠ timer.callback := by
    intro id other armed same
    have found := owned.armed_eq_some.mpr ⟨id, armed, same⟩
    rw [idle] at found
    cases found
  constructor
  · intro id other armed
    rw [timers_setTimer] at armed
    rw [timer?_setTimer]
    by_cases same : id = heartbeats.timers.next
    · subst same
      rw [Timers.armed_arm_next] at armed
      rw [if_pos (by rw [Option.some.inj armed])]
    · rw [Timers.armed_arm_of_ne same] at armed
      rw [if_neg (alone id other armed)]
      exact owned.held id other armed
  · intro other id holds
    rw [timer?_setTimer] at holds
    rw [timers_setTimer]
    split at holds
    · rename_i same
      obtain rfl := Option.some.inj holds
      refine ⟨Nat.lt_succ_self _, fun found armed => ?_⟩
      rw [Timers.armed_arm_next] at armed
      rw [same, Option.some.inj armed]
    · obtain ⟨bounded, own⟩ := owned.named other id holds
      refine ⟨Nat.lt_succ_of_lt bounded, fun found armed => own found ?_⟩
      rwa [Timers.armed_arm_of_ne (Nat.ne_of_lt bounded)] at armed
  · intro id other armed
    rw [timers_setTimer] at armed
    by_cases same : id = heartbeats.timers.next
    · subst same
      rw [Timers.armed_arm_next] at armed
      rw [← Option.some.inj armed, every]
    · rw [Timers.armed_arm_of_ne same] at armed
      exact owned.every id other armed

/-- A timer that is armed and set is the callback's. -/
theorem Owned.armed_arm (owned : heartbeats.Owned config) :
    ({ heartbeats with timers := heartbeats.timers.arm timer }.setTimer timer.callback
      (some heartbeats.timers.next)).armed callback =
        if callback = timer.callback then some timer else heartbeats.armed callback := by
  rw [armed, timer?_setTimer, timers_setTimer]
  split
  · exact Timers.armed_arm_next
  · rw [armed, timer?_withTimers]
    cases holds : heartbeats.timer? callback with
    | none => rfl
    | some id => exact Timers.armed_arm_of_ne (Nat.ne_of_lt (owned.named callback id holds).1)

/-- Starting leaves the timers owned. -/
theorem Owned.startHeartbeatCycle (owned : heartbeats.Owned config) (now : Nat)
    (socketId : SocketId) : (heartbeats.startHeartbeatCycle config now socketId).Owned config := by
  have stopped := owned.stopHeartbeatTimers socketId
  refine @Owned.arm config _ (config.interval now socketId) stopped ?_ rfl
  rw [owned.armed_stopHeartbeatTimers]
  exact if_pos rfl

/-- And has the interval armed. -/
theorem Owned.armed_startHeartbeatCycle (owned : heartbeats.Owned config) :
    (heartbeats.startHeartbeatCycle config now socketId).armed callback =
      if callback = .sendHeartbeatPing socketId then some (config.interval now socketId)
      else if callback.socketId = socketId then none else heartbeats.armed callback := by
  have stopped := owned.stopHeartbeatTimers socketId
  rw [← owned.armed_stopHeartbeatTimers]
  exact @Owned.armed_arm config _ callback (config.interval now socketId) stopped

/-! ## Pings and pongs -/

/-- Ownership does not depend on the other fields. -/
theorem Owned.congr {left right : Heartbeats} (owned : left.Owned config)
    (timers : right.timers = left.timers)
    (held : ∀ callback, right.timer? callback = left.timer? callback) :
    right.Owned config where
  held id timer armed := by
    rw [timers] at armed
    rw [held, owned.held id timer armed]
  named callback id holds := by
    rw [held] at holds
    rw [timers]
    exact owned.named callback id holds
  every id timer armed := by
    rw [timers] at armed
    exact owned.every id timer armed

/-- Noting a ping sets no timer. -/
@[simp] theorem timer?_notePing {dateNow : Int} :
    (heartbeats.notePing socketId dateNow).timer? callback = heartbeats.timer? callback := by
  rcases callback with id | id <;> by_cases same : id = socketId <;>
    simp [notePing, setData, timer?, same]

/-- Nor does noting a pong. -/
@[simp] theorem timer?_notePong {pingServerTime : JsValue} {dateNow : Int} :
    (heartbeats.notePong socketId pingServerTime dateNow).timer? callback =
      heartbeats.timer? callback := by
  rcases callback with id | id <;> by_cases same : id = socketId <;>
    simp [notePong, setData, timer?, same]

/-- Noting a ping leaves the timers owned. -/
theorem Owned.notePing (owned : heartbeats.Owned config) (socketId : SocketId) (dateNow : Int) :
    (heartbeats.notePing socketId dateNow).Owned config := owned.congr rfl fun _ => timer?_notePing

/-- So does noting a pong. -/
theorem Owned.notePong (owned : heartbeats.Owned config) (socketId : SocketId)
    (pingServerTime : JsValue) (dateNow : Int) :
    (heartbeats.notePong socketId pingServerTime dateNow).Owned config :=
  owned.congr rfl fun _ => timer?_notePong

/-- Noting a ping arms nothing. -/
@[simp] theorem armed_notePing {dateNow : Int} :
    (heartbeats.notePing socketId dateNow).armed callback = heartbeats.armed callback := by
  rw [armed, timer?_notePing]
  rfl

/-- Nor does noting a pong. -/
@[simp] theorem armed_notePong {pingServerTime : JsValue} {dateNow : Int} :
    (heartbeats.notePong socketId pingServerTime dateNow).armed callback =
      heartbeats.armed callback := by
  rw [armed, timer?_notePong]
  rfl

/-- Arming the timeout leaves the timers owned. -/
theorem Owned.armPongTimeout (owned : heartbeats.Owned config) (now : Nat) (socketId : SocketId) :
    (heartbeats.armPongTimeout config now socketId).Owned config := by
  have cleared := owned.cancel (.handleStaleSocketTimeout socketId)
  refine @Owned.arm config _ (config.deadline now socketId) cleared ?_ rfl
  rw [owned.armed_cancel]
  exact if_pos rfl

/-- And has it armed. -/
theorem Owned.armed_armPongTimeout (owned : heartbeats.Owned config) :
    (heartbeats.armPongTimeout config now socketId).armed callback =
      if callback = .handleStaleSocketTimeout socketId then some (config.deadline now socketId)
      else heartbeats.armed callback := by
  have cleared := owned.cancel (.handleStaleSocketTimeout socketId)
  refine (@Owned.armed_arm config _ callback (config.deadline now socketId) cleared).trans ?_
  rw [owned.armed_cancel]
  by_cases same : callback = .handleStaleSocketTimeout socketId
  · rw [if_pos same, if_pos same]
    exact if_pos same
  · rw [if_neg same, if_neg same]
    exact if_neg same

/-! ## Taking a timer -/

/-- One armed timer is replaced by what may stand in its place. -/
theorem Owned.replace (owned : heartbeats.Owned config)
    (found : heartbeats.timers.armed id = some timer)
    {timers : Timers Callback} (next : timers.next = heartbeats.timers.next)
    (elsewhere : ∀ at', at' ≠ id → timers.armed at' = heartbeats.timers.armed at')
    (here : timers.armed id = config.renewed now timer.callback) :
    ({ heartbeats with timers } : Heartbeats).Owned config ∧
      ∀ other, ({ heartbeats with timers } : Heartbeats).armed other =
        if other = timer.callback then config.renewed now timer.callback
        else heartbeats.armed other := by
  have mine := owned.held id timer found
  have renewed : ∀ after, timers.armed id = some after →
      after.callback = timer.callback ∧ after.every = config.every timer.callback := by
    intro after armed
    rw [here] at armed
    cases called : timer.callback with
    | sendHeartbeatPing own =>
        rw [called] at armed
        cases armed
        exact ⟨rfl, rfl⟩
    | handleStaleSocketTimeout own =>
        rw [called] at armed
        cases armed
  refine ⟨⟨fun at' after armed => ?_, fun other at' holds => ?_, fun at' after armed => ?_⟩,
    fun other => ?_⟩
  · rw [timer?_withTimers]
    by_cases same : at' = id
    · subst same
      rw [(renewed after armed).1, mine]
    · exact owned.held at' after ((elsewhere at' same).symm.trans armed)
  · rw [timer?_withTimers] at holds
    refine ⟨next ▸ (owned.named other at' holds).1, fun after armed => ?_⟩
    by_cases same : at' = id
    · subst same
      rw [(renewed after armed).1, owned.callback_eq holds mine found]
    · exact (owned.named other at' holds).2 after ((elsewhere at' same).symm.trans armed)
  · by_cases same : at' = id
    · subst same
      rw [(renewed after armed).2, (renewed after armed).1]
    · exact owned.every at' after ((elsewhere at' same).symm.trans armed)
  · rw [armed, timer?_withTimers]
    split
    · rename_i same
      rw [same, mine]
      exact here
    · rename_i different
      rw [armed]
      cases holds : heartbeats.timer? other with
      | none => rfl
      | some at' =>
          refine elsewhere at' ?_
          rintro rfl
          exact different (owned.callback_eq holds mine found)

/-- A timer that is taken is the armed one of its callback, and it was due. -/
theorem Owned.take (owned : heartbeats.Owned config) {timers : Timers Callback}
    (taken : heartbeats.timers.take now id = some (callback, timers)) :
    (∃ timer, heartbeats.timers.armed id = some timer ∧ heartbeats.armed callback = some timer ∧
      timer.callback = callback ∧ timer.due ≤ now) ∧
      ({ heartbeats with timers } : Heartbeats).Owned config ∧
      ∀ other, ({ heartbeats with timers } : Heartbeats).armed other =
        if other = callback then config.renewed now callback else heartbeats.armed other := by
  obtain ⟨timer, found, rfl, ripe, left⟩ := Timers.take_eq_some taken
  have every := owned.every id timer found
  refine ⟨⟨timer, found, owned.armed_eq_some.mpr ⟨id, found, rfl⟩, rfl, ripe⟩, ?_⟩
  rcases left with ⟨single, rfl⟩ | ⟨delay, repeats, rfl⟩
  · refine owned.replace found rfl (fun at' different => Timers.armed_clear_of_ne different) ?_
    rw [Timers.armed_clear_self]
    cases called : timer.callback with
    | sendHeartbeatPing own =>
        rw [called, single] at every
        cases every
    | handleStaleSocketTimeout own => rfl
  · refine owned.replace found rfl (fun at' different => Timers.armed_reschedule_of_ne different) ?_
    rw [Timers.armed_reschedule_self, found, Option.map_some]
    obtain ⟨called, due, again⟩ := timer
    cases called with
    | sendHeartbeatPing own =>
        obtain rfl : again = some config.watchdog.every := every
        cases repeats
        rfl
    | handleStaleSocketTimeout own =>
        cases (show again = none from every).symm.trans repeats

end Heartbeats

end Armada.Realtime
