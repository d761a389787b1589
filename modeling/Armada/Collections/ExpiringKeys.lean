/-!
# Keys that expire

A key-value store whose entries carry the last instant at which they are present. A key that
is set anew gets a new deadline, so what is known to be present for a while stays known
through every later change that respects it.
-/

namespace Armada.Collections

/-- A value with the last instant at which it is present. -/
structure Lease (V : Type) where
  value : V
  deadline : Int
  deriving DecidableEq

/-- Values under their keys, each on lease. -/
abbrev ExpiringKeys (K V : Type) := K → Option (Lease V)

namespace ExpiringKeys

variable {K V : Type}

/-- What is present under a key at an instant. -/
def get (keys : ExpiringKeys K V) (now : Int) (key : K) : Option V :=
  (keys key).bind fun lease => if now ≤ lease.deadline then some lease.value else none

/-- Set a value under its key. -/
def set [DecidableEq K] (keys : ExpiringKeys K V) (key : K) (lease : Lease V) :
    ExpiringKeys K V :=
  fun other => if other = key then some lease else keys other

/-- A value with a property is present under a key at least until an instant. -/
def Holds (keys : ExpiringKeys K V) (key : K) (good : V → Prop) (expiry : Int) : Prop :=
  ∃ lease, keys key = some lease ∧ good lease.value ∧ expiry ≤ lease.deadline

variable {keys : ExpiringKeys K V} {key other : K} {good : V → Prop} {expiry now : Int}
  {lease : Lease V}

/-- A value that is held is present until its lease is up. -/
theorem Holds.present (holds : keys.Holds key good expiry) (early : now ≤ expiry) :
    ∃ value, keys.get now key = some value ∧ good value := by
  obtain ⟨lease, found, isGood, late⟩ := holds
  refine ⟨lease.value, ?_, isGood⟩
  rw [get, found, Option.bind_some, if_pos (Int.le_trans early late)]

variable [DecidableEq K]

/-- What is set is found under its key. -/
@[simp] theorem set_self : keys.set key lease key = some lease := if_pos rfl

/-- Other keys are as they were. -/
@[simp] theorem set_of_ne (different : other ≠ key) : keys.set key lease other = keys other :=
  if_neg different

/-- A key that is set holds its value from then on. -/
theorem holds_set (isGood : good lease.value) (late : expiry ≤ lease.deadline) :
    (keys.set key lease).Holds key good expiry :=
  ⟨lease, set_self, isGood, late⟩

/-- A change that gives the key itself nothing worse keeps what is known. -/
theorem Holds.set (holds : keys.Holds key good expiry)
    (kept : other = key → good lease.value ∧ expiry ≤ lease.deadline) :
    (keys.set other lease).Holds key good expiry := by
  by_cases same : other = key
  · subst same
    exact holds_set (kept rfl).1 (kept rfl).2
  · obtain ⟨old, found, isGood, late⟩ := holds
    exact ⟨old, (set_of_ne (Ne.symm same)).trans found, isGood, late⟩

end ExpiringKeys

end Armada.Collections
