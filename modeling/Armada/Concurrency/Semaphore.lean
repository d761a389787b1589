import Mathlib.Data.List.Nodup
import Mathlib.Data.List.Perm.Subperm

/-!
# Semaphores with a queue

A number of permits, given to those who arrive and, when none is left, in the order of
arrival to those who wait. Who waits may give up. The state is the history of each role;
its fields say that no permit and nobody who arrived is lost, so that every operation
proves it of what it makes.
-/

namespace Armada.Concurrency

/-- Where somebody is put, in the middle or at the end, is a matter of order. -/
theorem perm_append_newcomer {α : Type} {left right whole : List α} (newcomer : α)
    (accounted : (left ++ right).Perm whole) :
    (left ++ [newcomer] ++ right).Perm (whole ++ [newcomer]) := by
  rw [List.append_assoc, List.singleton_append]
  exact List.perm_middle.trans
    ((accounted.cons newcomer).trans (List.perm_append_singleton newcomer whole).symm)

/-- Who has arrived, has got a permit, waits for one, has given up, has returned it. -/
structure Semaphore (α : Type) (capacity : Nat) where
  arrivals : List α
  granted : List α
  waiting : List α
  cancelled : List α
  released : List α
  distinct : arrivals.Nodup
  accounted : (granted ++ waiting ++ cancelled).Perm arrivals
  ordered : (granted ++ waiting).Sublist arrivals
  once : released.Nodup
  owned : released ⊆ granted
  bounded : granted.length ≤ released.length + capacity
  full : waiting ≠ [] → granted.length = released.length + capacity

namespace Semaphore

variable {α : Type} {capacity : Nat}

/-- All permits are there. -/
def idle (α : Type) (capacity : Nat) : Semaphore α capacity where
  arrivals := []
  granted := []
  waiting := []
  cancelled := []
  released := []
  distinct := List.nodup_nil
  accounted := .refl _
  ordered := .slnil
  once := List.nodup_nil
  owned := List.Subset.refl _
  bounded := Nat.zero_le _
  full := fun waits => absurd rfl waits

variable (semaphore : Semaphore α capacity)

/-- A permit is left. -/
def Vacant : Prop := semaphore.granted.length < semaphore.released.length + capacity

/-- Somebody has got a permit and has not returned it. -/
def Holds (holder : α) : Prop := holder ∈ semaphore.granted ∧ holder ∉ semaphore.released

/-- Nobody is granted a permit twice. -/
theorem granted_nodup : semaphore.granted.Nodup :=
  semaphore.distinct.sublist ((List.sublist_append_left _ _).trans semaphore.ordered)

variable {semaphore}

/-- Where a permit is free, nobody waits for one. -/
theorem Vacant.waiting_eq (vacant : semaphore.Vacant) : semaphore.waiting = [] := by
  by_contra waits
  exact Nat.ne_of_lt vacant (semaphore.full waits)

/-- A holder has not given its permit back. -/
theorem Holds.once {holder : α} (holds : semaphore.Holds holder) :
    (semaphore.released ++ [holder]).Nodup := by
  rw [← List.concat_eq_append]
  exact semaphore.once.concat holds.2

/-- Who has given a permit back, or holds one, was granted it. -/
theorem Holds.owned {holder : α} (holds : semaphore.Holds holder) :
    semaphore.released ++ [holder] ⊆ semaphore.granted :=
  List.append_subset.mpr ⟨semaphore.owned, by simpa using holds.1⟩

/-- While somebody holds a permit, more have been granted than given back. -/
theorem Holds.length_lt {holder : α} (holds : semaphore.Holds holder) :
    semaphore.released.length < semaphore.granted.length := by
  have length := (holds.once.subperm holds.owned).length_le
  rw [List.length_append, List.length_singleton] at length
  omega

/-- Nobody plays two of the roles, or one of them twice. -/
theorem roles_nodup : (semaphore.granted ++ semaphore.waiting ++ semaphore.cancelled).Nodup :=
  semaphore.accounted.nodup_iff.mpr semaphore.distinct

/-- Everybody who arrived has one role. -/
theorem count_roles [DecidableEq α] {newcomer : α} (arrived : newcomer ∈ semaphore.arrivals) :
    semaphore.granted.count newcomer + semaphore.waiting.count newcomer +
      semaphore.cancelled.count newcomer = 1 := by
  rw [← List.count_append, ← List.count_append, semaphore.accounted.count_eq]
  exact List.count_eq_one_of_mem semaphore.distinct arrived

/-- When everybody has returned a permit or given up, nobody waits and no permit is out. -/
theorem drained (done : ∀ newcomer ∈ semaphore.arrivals,
      newcomer ∈ semaphore.released ∨ newcomer ∈ semaphore.cancelled) :
    semaphore.waiting = [] ∧ semaphore.granted.length = semaphore.released.length := by
  have nodup := semaphore.roles_nodup
  rw [List.nodup_append', List.nodup_append'] at nodup
  obtain ⟨⟨distinct, _, apart⟩, _, given⟩ := nodup
  have arrived : ∀ member ∈ semaphore.granted ++ semaphore.waiting, member ∈ semaphore.arrivals :=
    fun member isMember => semaphore.ordered.subset isMember
  constructor
  · refine List.eq_nil_iff_forall_not_mem.mpr fun waiter waits => ?_
    have member := List.mem_append_right semaphore.granted waits
    rcases done waiter (arrived waiter member) with returned | cancelled
    · exact apart (semaphore.owned returned) waits
    · exact given member cancelled
  · have back : semaphore.granted ⊆ semaphore.released := by
      intro holder holds
      have member := List.mem_append_left semaphore.waiting holds
      exact (done holder (arrived holder member)).resolve_right (given member)
    exact Nat.le_antisymm (distinct.subperm back).length_le
      (semaphore.once.subperm semaphore.owned).length_le

/-- Who holds a permit now. -/
theorem length_holders [DecidableEq α] :
    (semaphore.granted.filter (· ∉ semaphore.released)).length + semaphore.released.length =
      semaphore.granted.length := by
  have returned : (semaphore.granted.filter (· ∈ semaphore.released)).Perm semaphore.released := by
    rw [List.perm_ext_iff_of_nodup (semaphore.granted_nodup.filter _) semaphore.once]
    intro holder
    rw [List.mem_filter, decide_eq_true_iff, and_iff_right_iff_imp]
    exact fun member => semaphore.owned member
  have split := List.length_eq_length_filter_add (l := semaphore.granted)
    (fun holder => holder ∈ semaphore.released)
  rw [split, returned.length_eq, Nat.add_comm]
  simp

variable (semaphore)

/-- Somebody arrives, and a permit is left. -/
def grant (newcomer : α) (fresh : newcomer ∉ semaphore.arrivals) (vacant : semaphore.Vacant) :
    Semaphore α capacity where
  arrivals := semaphore.arrivals ++ [newcomer]
  granted := semaphore.granted ++ [newcomer]
  waiting := []
  cancelled := semaphore.cancelled
  released := semaphore.released
  distinct := by
    rw [← List.concat_eq_append]
    exact semaphore.distinct.concat fresh
  accounted := by
    have accounted := semaphore.accounted
    rw [vacant.waiting_eq, List.append_nil] at accounted
    rw [List.append_nil]
    exact perm_append_newcomer newcomer accounted
  ordered := by
    have ordered := semaphore.ordered
    rw [vacant.waiting_eq, List.append_nil] at ordered
    rw [List.append_nil]
    exact ordered.append_right _
  once := semaphore.once
  owned := List.Subset.trans semaphore.owned (List.subset_append_left _ _)
  bounded := by
    rw [List.length_append, List.length_singleton]
    exact vacant
  full := fun waits => absurd rfl waits

/-- Somebody arrives, and no permit is left. -/
def enqueue (newcomer : α) (fresh : newcomer ∉ semaphore.arrivals)
    (none : ¬semaphore.Vacant) : Semaphore α capacity where
  arrivals := semaphore.arrivals ++ [newcomer]
  granted := semaphore.granted
  waiting := semaphore.waiting ++ [newcomer]
  cancelled := semaphore.cancelled
  released := semaphore.released
  distinct := by
    rw [← List.concat_eq_append]
    exact semaphore.distinct.concat fresh
  accounted := by
    rw [← List.append_assoc]
    exact perm_append_newcomer newcomer semaphore.accounted
  ordered := by
    rw [← List.append_assoc]
    exact semaphore.ordered.append_right _
  once := semaphore.once
  owned := semaphore.owned
  bounded := semaphore.bounded
  full := fun _ => Nat.le_antisymm semaphore.bounded (Nat.le_of_not_lt none)

/-- A permit is returned, and nobody waits for it. -/
def vacate (holder : α) (holds : semaphore.Holds holder) (idle : semaphore.waiting = []) :
    Semaphore α capacity where
  arrivals := semaphore.arrivals
  granted := semaphore.granted
  waiting := []
  cancelled := semaphore.cancelled
  released := semaphore.released ++ [holder]
  distinct := semaphore.distinct
  accounted := idle ▸ semaphore.accounted
  ordered := idle ▸ semaphore.ordered
  once := holds.once
  owned := holds.owned
  bounded := by
    have bounded := semaphore.bounded
    rw [List.length_append]
    omega
  full := fun waits => absurd rfl waits

/-- A permit is returned, and goes to the first who waits. -/
def handOver (holder next : α) (rest : List α) (holds : semaphore.Holds holder)
    (first : semaphore.waiting = next :: rest) : Semaphore α capacity where
  arrivals := semaphore.arrivals
  granted := semaphore.granted ++ [next]
  waiting := rest
  cancelled := semaphore.cancelled
  released := semaphore.released ++ [holder]
  distinct := semaphore.distinct
  accounted := by
    have accounted := semaphore.accounted
    rw [first] at accounted
    rwa [List.append_assoc semaphore.granted, List.singleton_append]
  ordered := by
    have ordered := semaphore.ordered
    rw [first] at ordered
    rwa [List.append_assoc, List.singleton_append]
  once := holds.once
  owned := List.Subset.trans holds.owned (List.subset_append_left _ _)
  bounded := by
    have full := semaphore.full (by simp [first])
    simp only [List.length_append, List.length_singleton]
    omega
  full := fun _ => by
    have full := semaphore.full (by simp [first])
    simp only [List.length_append, List.length_singleton]
    omega

/-- Somebody who waits gives up. -/
def cancel [DecidableEq α] (waiter : α) (waits : waiter ∈ semaphore.waiting) :
    Semaphore α capacity where
  arrivals := semaphore.arrivals
  granted := semaphore.granted
  waiting := semaphore.waiting.erase waiter
  cancelled := semaphore.cancelled ++ [waiter]
  released := semaphore.released
  distinct := semaphore.distinct
  accounted := by
    have moved : (semaphore.granted ++ waiter :: semaphore.waiting.erase waiter ++
        semaphore.cancelled).Perm semaphore.arrivals :=
      (((List.perm_cons_erase waits).symm.append_left _).append_right _).trans semaphore.accounted
    have back : (semaphore.granted ++ [waiter] ++
        (semaphore.waiting.erase waiter ++ semaphore.cancelled)).Perm
          (semaphore.granted ++ (semaphore.waiting.erase waiter ++ semaphore.cancelled) ++
            [waiter]) :=
      perm_append_newcomer waiter (.refl _)
    simp only [List.append_assoc, List.cons_append] at back moved ⊢
    exact back.symm.trans moved
  ordered := (List.erase_sublist.append_left _).trans semaphore.ordered
  once := semaphore.once
  owned := semaphore.owned
  bounded := semaphore.bounded
  full := fun _ => semaphore.full (List.ne_nil_of_mem waits)

end Semaphore

end Armada.Concurrency
