import Mathlib.Algebra.Order.Group.Unbundled.Int
import Armada.Collections.ExpiringKeys
import Armada.Concurrency.Turns

/-!
# Marks that expire

A store remembers marks for a while: a turn that sets a mark under a key has found no mark
there, or one that its own may follow, and its mark stays for a fixed time. Two marks under
one key that are set within that time of each other follow each other in this order, whatever
happens in between.
-/

namespace Armada.Concurrency

open Collections

variable {S : Signature} {K V α : Type}

/-- A store with a clock and with marks under keys. -/
structure Vault (S : Signature) (K V : Type) where
  clock : S.State → Int
  keys : S.State → ExpiringKeys K V
  sets : Turn S → K → V → Prop

namespace Vault

variable [DecidableEq K] (vault : Vault S K V)

/-- The clock does not go back, a mark that is set follows what is present, and nothing else
changes the marks. -/
structure Guards (follows : V → V → Prop) (ttl : Int) (turn : Turn S) : Prop where
  clock : vault.clock turn.before ≤ vault.clock turn.after
  sets : ∀ key value, vault.sets turn key value →
    vault.keys turn.after =
      (vault.keys turn.before).set key ⟨value, vault.clock turn.before + ttl⟩ ∧
      ∀ old, (vault.keys turn.before).get (vault.clock turn.before) key = some old →
        follows old value
  keeps : (∀ key value, ¬vault.sets turn key value) →
    vault.keys turn.after = vault.keys turn.before

variable {vault} {follows : V → V → Prop} {ttl : Int}

/-- Since a mark was set at a time, it or one that follows it is present until it expires. -/
structure Since (vault : Vault S K V) (follows : V → V → Prop) (ttl : Int) (key : K) (value : V)
    (setAt : Int) (state : S.State) : Prop where
  later : setAt ≤ vault.clock state
  present : vault.clock state ≤ setAt + ttl → (vault.keys state).Holds key
    (fun current => current = value ∨ follows value current) (setAt + ttl)

/-- While the key lives, no step takes the vault back before the value. -/
theorem Since.step {key : K} {value : V} {setAt : Int} {turn : Turn S}
    (transitive : ∀ {first second third}, follows first second → follows second third →
      follows first third)
    (guards : vault.Guards follows ttl turn)
    (since : vault.Since follows ttl key value setAt turn.before) :
    vault.Since follows ttl key value setAt turn.after where
  later := since.later.trans guards.clock
  present early := by
    have inTime := guards.clock.trans early
    have holds := since.present inTime
    by_cases marks : ∃ other mark, vault.sets turn other mark
    · obtain ⟨other, mark, set⟩ := marks
      obtain ⟨changed, checked⟩ := guards.sets other mark set
      rw [changed]
      refine holds.set ?_
      rintro rfl
      obtain ⟨current, present, reached⟩ := holds.present inTime
      refine ⟨.inr ?_, Int.add_le_add_right since.later ttl⟩
      rcases reached with rfl | beyond
      · exact checked _ present
      · exact transitive beyond (checked _ present)
    · rw [guards.keeps fun other mark set => marks ⟨other, mark, set⟩]
      exact holds

end Vault

end Armada.Concurrency
