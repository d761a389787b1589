import Mathlib.Logic.Function.Basic

/-!
# Timers

`setTimeout`, `setInterval` and their counterparts of the event loop of Node. A timer is due
after its delay, and from then on the loop may take it, at once or later. It runs once; an
interval is armed anew when it is taken, from that moment on.
-/

namespace Armada.Node

/-- What `setInterval` and `setTimeout` answer. -/
abbrev TimerId := Nat

/-- The longest delay of a timer, `TIMEOUT_MAX`, which is `2 ** 31 - 1`. -/
def timeoutMax : Int := 2147483647

/-- The delay of a timer, in milliseconds; one that is no number or out of range is 1. -/
def delayOf (delay : Option Int) : Nat :=
  match delay with
  | none => 1
  | some delay => if 1 ≤ delay ∧ delay ≤ timeoutMax then delay.toNat else 1

/-- An armed timer: when it is due, how often, and what it calls. -/
structure Timer (C : Type) where
  callback : C
  due : Nat
  /-- The delay of an interval. -/
  every : Option Nat := none
  deriving DecidableEq

/-- The armed timers. An id is given out once. -/
structure Timers (C : Type) where
  armed : TimerId → Option (Timer C)
  next : TimerId
  fresh : ∀ id, next ≤ id → armed id = none

namespace Timers

variable {C : Type}

/-- No timer is armed. -/
def none : Timers C := ⟨fun _ => .none, 0, fun _ _ => rfl⟩

/-- Arm a timer under the next number. -/
def arm (timers : Timers C) (timer : Timer C) : Timers C where
  armed := Function.update timers.armed timers.next (some timer)
  next := timers.next + 1
  fresh id later := by
    rw [Function.update_of_ne (Nat.ne_of_gt later)]
    exact timers.fresh id (Nat.le_of_succ_le later)

/-- The id of the timer, and the timers with it. -/
def setTimeout (timers : Timers C) (now : Nat) (callback : C) (delay : Nat) :
    TimerId × Timers C :=
  (timers.next, timers.arm { callback, due := now + delay })

/-- `setInterval`. -/
def setInterval (timers : Timers C) (now : Nat) (callback : C) (delay : Nat) :
    TimerId × Timers C :=
  (timers.next, timers.arm { callback, due := now + delay, every := some delay })

/-- `clearTimeout` and `clearInterval`; an id that is not armed is ignored. -/
def clear (timers : Timers C) (id : TimerId) : Timers C where
  armed := Function.update timers.armed id .none
  next := timers.next
  fresh other later := by
    by_cases same : other = id
    · rw [same, Function.update_self]
    · rw [Function.update_of_ne same]
      exact timers.fresh other later

/-- Give a timer another due time, if it is armed. -/
def reschedule (timers : Timers C) (id : TimerId) (due : Nat) : Timers C where
  armed := Function.update timers.armed id ((timers.armed id).map fun timer => { timer with due })
  next := timers.next
  fresh other later := by
    by_cases same : other = id
    · rw [same, Function.update_self, ← same, timers.fresh other later, Option.map_none]
    · rw [Function.update_of_ne same]
      exact timers.fresh other later

/-- The loop takes a timer that is due: the callback that it runs, and what stays armed. -/
def take (timers : Timers C) (now : Nat) (id : TimerId) : Option (C × Timers C) :=
  match timers.armed id with
  | .none => .none
  | some timer =>
      if timer.due ≤ now then
        match timer.every with
        | .none => some (timer.callback, timers.clear id)
        | some delay => some (timer.callback, timers.reschedule id (now + delay))
      else .none

variable {timers : Timers C} {id other : TimerId} {timer : Timer C} {now : Nat}

/-- Nothing is armed where none is. -/
@[simp] theorem armed_none : (none : Timers C).armed id = .none := rfl

/-- The new timer is armed under its number. -/
@[simp] theorem armed_arm_next : (timers.arm timer).armed timers.next = some timer :=
  Function.update_self ..

/-- The others stay as they were. -/
theorem armed_arm_of_ne (different : id ≠ timers.next) :
    (timers.arm timer).armed id = timers.armed id := Function.update_of_ne different ..

/-- A cleared timer is not armed. -/
@[simp] theorem armed_clear_self : (timers.clear id).armed id = .none := Function.update_self ..

/-- The others stay as they were. -/
theorem armed_clear_of_ne (different : id ≠ other) :
    (timers.clear other).armed id = timers.armed id := Function.update_of_ne different ..

/-- A rescheduled timer is due at the new time. -/
@[simp] theorem armed_reschedule_self {due : Nat} : (timers.reschedule id due).armed id =
    (timers.armed id).map fun timer => { timer with due } := Function.update_self ..

/-- The others stay as they were. -/
theorem armed_reschedule_of_ne {due : Nat} (different : id ≠ other) :
    (timers.reschedule other due).armed id = timers.armed id := Function.update_of_ne different ..

/-- A timer is not taken before it is due. -/
theorem take_eq_some {callback : C} {left : Timers C}
    (taken : timers.take now id = some (callback, left)) :
    ∃ timer, timers.armed id = some timer ∧ timer.callback = callback ∧ timer.due ≤ now ∧
      (timer.every = .none ∧ left = timers.clear id ∨
        ∃ delay, timer.every = some delay ∧ left = timers.reschedule id (now + delay)) := by
  rw [take] at taken
  split at taken
  · cases taken
  · rename_i timer armed
    split at taken
    · rename_i ripe
      split at taken
      · rename_i single
        cases taken
        exact ⟨timer, armed, rfl, ripe, .inl ⟨single, rfl⟩⟩
      · rename_i delay every
        cases taken
        exact ⟨timer, armed, rfl, ripe, .inr ⟨delay, every, rfl⟩⟩
    · cases taken

end Timers

end Armada.Node
