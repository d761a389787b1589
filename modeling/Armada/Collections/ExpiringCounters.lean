import Mathlib.Logic.Function.Basic
import Mathlib.Tactic.Common

/-!
# Counters that expire

A store of counters in which a key may have a time at which it expires. A counter that has
expired is as good as absent: it begins again at one, and then without an expiry, until one
is set. `Lasting` says that a counter has none.
-/

namespace Armada.Collections

/-- A counter counts something, so it is not zero. -/
structure Counter where
  value : Nat
  positive : 0 < value
  expiresAt : Option Nat
  deriving DecidableEq

namespace Counter

/-- The counter of a first event. -/
def first : Counter := ⟨1, Nat.one_pos, none⟩

/-- One hit more, with the same time to live. -/
def increment (counter : Counter) : Counter :=
  { counter with value := counter.value + 1, positive := Nat.succ_pos _ }

/-- The counter has not expired. -/
def alive (counter : Counter) (now : Nat) : Bool :=
  counter.expiresAt.all fun expiresAt => now < expiresAt

/-- A counter without a time to live is always alive. -/
theorem alive_of_lasting {counter : Counter} (lasting : counter.expiresAt = none) (now : Nat) :
    counter.alive now = true := by
  rw [alive, lasting, Option.all_none]

/-- A hit counts one. -/
@[simp] theorem value_increment (counter : Counter) :
    counter.increment.value = counter.value + 1 := rfl

/-- A hit leaves the time to live alone. -/
@[simp] theorem expiresAt_increment (counter : Counter) :
    counter.increment.expiresAt = counter.expiresAt := rfl

/-- So it leaves a counter as alive as it was. -/
@[simp] theorem alive_increment (counter : Counter) (now : Nat) :
    counter.increment.alive now = counter.alive now := rfl

/-- A counter begins with one. -/
@[simp] theorem value_first : first.value = 1 := rfl

/-- It begins without a time to live. -/
@[simp] theorem expiresAt_first : first.expiresAt = none := rfl

end Counter

/-- Counters under their keys. -/
abbrev Counters (K : Type) := K → Option Counter

namespace Counters

variable {K : Type}

/-- The counter of a key that has not expired. -/
def live (counters : Counters K) (now : Nat) (key : K) : Option Counter :=
  (counters key).filter fun counter => counter.alive now

/-- A counter is live exactly if it is there and has not expired. -/
theorem live_eq_some {counters : Counters K} {now : Nat} {key : K} {counter : Counter} :
    counters.live now key = some counter ↔
      counters key = some counter ∧ counter.alive now = true := by
  simp [live, Option.filter_eq_some_iff]

/-- A key is counted, and will be so for ever. -/
def Lasting (counters : Counters K) (key : K) : Prop :=
  ∃ counter, counters key = some counter ∧ counter.expiresAt = none

/-- A counter without a time to live is live at any time. -/
theorem Lasting.live {counters : Counters K} {key : K} (lasting : counters.Lasting key)
    (now : Nat) : ∃ counter, counters.live now key = some counter ∧ counter.expiresAt = none := by
  obtain ⟨counter, found, forever⟩ := lasting
  exact ⟨counter, live_eq_some.mpr ⟨found, counter.alive_of_lasting forever now⟩, forever⟩

variable [DecidableEq K]

/-- `INCR`: a counter that is gone begins anew. -/
def increment (counters : Counters K) (now : Nat) (key : K) : Counters K :=
  Function.update counters key (some (((counters.live now key).map .increment).getD .first))

/-- A key that is not there gets no expiry. -/
def expire (counters : Counters K) (now : Nat) (key : K) (expiresAt : Nat) : Counters K :=
  match counters.live now key with
  | some counter => Function.update counters key (some { counter with expiresAt := some expiresAt })
  | none => counters

/-- `DEL`. -/
def remove (counters : Counters K) (key : K) : Counters K :=
  Function.update counters key none

variable {counters : Counters K} {now : Nat} {key other : K}

/-! ## One key of several -/

/-- A hit is on one key. -/
theorem increment_of_ne (different : other ≠ key) :
    counters.increment now key other = counters other :=
  Function.update_of_ne different _ _

/-- A time to live is set for one key. -/
theorem expire_of_ne {expiresAt : Nat} (different : other ≠ key) :
    counters.expire now key expiresAt other = counters other := by
  rw [expire]
  cases counters.live now key with
  | none => rfl
  | some counter => exact Function.update_of_ne different _ _

/-- One key is removed. -/
theorem remove_of_ne (different : other ≠ key) : counters.remove key other = counters other :=
  Function.update_of_ne different _ _

/-- On its own key, the live counter gets a hit, or a first one begins. -/
theorem increment_self : counters.increment now key key =
    some (((counters.live now key).map .increment).getD .first) :=
  Function.update_self key _ _

/-- On its own key, the live counter gets the time to live. -/
theorem expire_self {expiresAt : Nat} {counter : Counter}
    (found : counters.live now key = some counter) :
    counters.expire now key expiresAt key = some { counter with expiresAt := some expiresAt } := by
  rw [expire, found]
  exact Function.update_self key _ _

/-- Nothing is left under a key that is removed. -/
theorem remove_self : counters.remove key key = none :=
  Function.update_self key _ _

/-! ## Counters without an expiry -/

omit [DecidableEq K] in
/-- Whether a counter lasts is seen at its own key. -/
theorem lasting_congr {others : Counters K} (same : counters key = others key) :
    counters.Lasting key ↔ others.Lasting key := by
  rw [Lasting, Lasting, same]

/-- Counting makes a lasting counter where there was none, and keeps one. -/
theorem lasting_increment : (counters.increment now key).Lasting key ↔
    counters.live now key = none ∨ counters.Lasting key := by
  rw [Lasting, increment_self]
  cases found : counters.live now key with
  | none => simp
  | some counter =>
      have present := (live_eq_some.mp found).1
      simp [Lasting, present]

/-- Who is given a time to live does not last. -/
theorem not_lasting_expire {expiresAt : Nat} :
    ¬(counters.expire now key expiresAt).Lasting key := by
  intro lasting
  cases found : counters.live now key with
  | none =>
      rw [expire, found] at lasting
      obtain ⟨counter, live, _⟩ := lasting.live now
      cases found.symm.trans live
  | some counter =>
      obtain ⟨expired, present, forever⟩ := lasting
      rw [expire_self found] at present
      cases present
      cases forever

/-- Nor does who is removed. -/
theorem not_lasting_remove : ¬(counters.remove key).Lasting key := by
  rintro ⟨counter, present, _⟩
  rw [remove_self] at present
  cases present

end Counters

end Armada.Collections
