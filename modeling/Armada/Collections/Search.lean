import Mathlib.Algebra.Order.Group.Nat
import Mathlib.Algebra.Order.Module.Defs
import Mathlib.Data.Finset.Card
import Mathlib.Data.List.MinMax
import Mathlib.Data.Prod.Lex
import Mathlib.Tactic.Abel

/-!
# Searches

What a search through a list of candidates ends with, and what a local search does that
repeats an improving step until the step declines or a budget is used up.
-/

namespace Armada.Collections

/-- The first minimum of an ordered list is the least for the value, then for the order. -/
theorem argmin_le_of_sorted {α β : Type} [LinearOrder α] [LinearOrder β] {f : α → β}
    {items : List α} {least : α} (sorted : items.Pairwise (· < ·))
    (found : least ∈ items.argmin f) {other : α} (member : other ∈ items) :
    toLex (f least, least) ≤ toLex (f other, other) := by
  obtain ⟨leastMember, minimal, first⟩ := List.mem_argmin_iff.mp found
  rw [Prod.Lex.toLex_le_toLex]
  rcases lt_or_eq_of_le (minimal other member) with lower | equal
  · exact .inl lower
  · have before := first other member equal.ge
    refine .inr ⟨equal, ?_⟩
    rw [← List.getElem_idxOf (List.idxOf_lt_length_iff.mpr leastMember),
      ← List.getElem_idxOf (List.idxOf_lt_length_iff.mpr member)]
    rcases lt_or_eq_of_le before with earlier | same
    · exact (List.pairwise_iff_getElem.mp sorted _ _ _ _ earlier).le
    · simp [same]

/-- A running best is one of the candidates, or what the search began with. -/
theorem mem_of_mem_foldl_argAux {α : Type} {better : α → α → Prop} [DecidableRel better]
    {items : List α} {initial : Option α} {best : α}
    (found : best ∈ items.foldl (List.argAux better) initial) : best ∈ initial ∨ best ∈ items := by
  induction items generalizing initial with
  | nil => exact .inl found
  | cons item items inductionHypothesis =>
      rcases inductionHypothesis found with held | later
      · cases initial with
        | none =>
            rw [Option.some.inj held]
            exact .inr List.mem_cons_self
        | some holder =>
            rw [List.argAux] at held
            dsimp only at held
            split at held
            · rw [Option.some.inj held]
              exact .inr List.mem_cons_self
            · exact .inl held
      · exact .inr (List.mem_cons_of_mem item later)

/-! ## Local search -/

section LocalSearch

variable {α : Type} {step : α → Option α}

/-- Repeats a step until it declines, at most a number of times. -/
def descend (step : α → Option α) : Nat → α → α
  | 0, state => state
  | budget + 1, state =>
      match step state with
      | none => state
      | some next => descend step budget next

/-- A number of accepted steps lead from one state to another. -/
inductive Accepted (step : α → Option α) : Nat → α → α → Prop where
  | refl {start : α} : Accepted step 0 start start
  | step {count : Nat} {start current next : α} (prior : Accepted step count start current)
      (accepted : step current = some next) : Accepted step (count + 1) start next

/-- No step, no change. -/
theorem Accepted.eq_of_zero {start final : α} (accepted : Accepted step 0 start final) :
    start = final := by
  cases accepted
  rfl

/-- One step more, at the start. -/
theorem Accepted.head {count : Nat} {start middle final : α} (first : step start = some middle)
    (rest : Accepted step count middle final) : Accepted step (count + 1) start final := by
  induction rest with
  | refl => exact Accepted.refl.step first
  | step _ accepted inductionHypothesis => exact (inductionHypothesis first).step accepted

/-- The search takes accepted steps only, and it stops short of its budget only where the
step declines. -/
theorem descend_spec (step : α → Option α) (budget : Nat) (start : α) :
    ∃ count ≤ budget, Accepted step count start (descend step budget start) ∧
      (count < budget → step (descend step budget start) = none) := by
  induction budget generalizing start with
  | zero => exact ⟨0, le_rfl, .refl, by simp⟩
  | succ budget inductionHypothesis =>
      rw [descend]
      cases taken : step start with
      | none => exact ⟨0, by simp, .refl, fun _ => taken⟩
      | some next =>
          obtain ⟨count, within, accepted, stopped⟩ := inductionHypothesis next
          exact ⟨count + 1, by omega, .head taken accepted, fun short => stopped (by omega)⟩

/-- What every step keeps, a search keeps. -/
theorem Accepted.keeps {count : Nat} {start final : α} {holds : α → Prop}
    (accepted : Accepted step count start final)
    (kept : ∀ state next, holds state → step state = some next → holds next)
    (initially : holds start) : holds final := by
  induction accepted with
  | refl => exact initially
  | step _ taken inductionHypothesis => exact kept _ _ (inductionHypothesis initially) taken

variable {β : Type} [AddCommGroup β] [LinearOrder β] [IsOrderedAddMonoid β]

/-- Each accepted step lowers the cost by more than the threshold, so `count` of them lower
it by more than `count` thresholds. -/
theorem Accepted.lowers {count : Nat} {start final : α} {threshold : β}
    (accepted : Accepted step count start final) (cost : α → β)
    (lowered : ∀ state next, step state = some next → threshold < cost state - cost next)
    (some : 1 ≤ count) : count • threshold < cost start - cost final := by
  induction accepted with
  | refl => omega
  | @step count start current next prior taken inductionHypothesis =>
      have last := lowered current next taken
      have split : cost start - cost next =
          (cost start - cost current) + (cost current - cost next) := by abel
      rw [succ_nsmul, split]
      rcases Nat.eq_zero_or_pos count with rfl | earlier
      · cases prior
        simpa using last
      · exact add_lt_add (inductionHypothesis earlier) last

omit [AddCommGroup β] [IsOrderedAddMonoid β] in
/-- A search whose cost depends on a key out of a finite set, and goes down with every
accepted step, takes fewer steps than there are keys. -/
theorem Accepted.count_lt {γ : Type} [DecidableEq γ] {count : Nat} {start final : α}
    {holds : α → Prop} (accepted : Accepted step count start final) (key : α → γ) (price : γ → β)
    (keys : Finset γ)
    (kept : ∀ state next, holds state → step state = some next → holds next)
    (known : ∀ state, holds state → key state ∈ keys)
    (lowered : ∀ state next, holds state → step state = some next →
      price (key next) < price (key state))
    (initially : holds start) : count < keys.card := by
  -- the keys met so far are all different, as the last one is the cheapest
  have met : ∃ visited ⊆ keys, visited.card = count + 1 ∧
      ∀ other ∈ visited, price (key final) ≤ price other := by
    induction accepted with
    | @refl start =>
        exact ⟨{key start}, by simpa using known start initially, rfl, by simp⟩
    | @step count start current next prior taken inductionHypothesis =>
        obtain ⟨visited, inKeys, size, cheapest⟩ := inductionHypothesis initially
        have holdsNow := prior.keeps kept initially
        have cheaper := lowered current next holdsNow taken
        have fresh : key next ∉ visited := fun member =>
          absurd (cheapest _ member) (not_le_of_gt cheaper)
        refine ⟨insert (key next) visited, ?_, ?_, ?_⟩
        · exact Finset.insert_subset (known next (kept _ _ holdsNow taken)) inKeys
        · rw [Finset.card_insert_of_notMem fresh, size]
        · intro other member
          rcases Finset.mem_insert.mp member with rfl | earlier
          · exact le_rfl
          · exact cheaper.le.trans (cheapest other earlier)
  obtain ⟨visited, inKeys, size, _⟩ := met
  have bounded := Finset.card_le_card inKeys
  omega

end LocalSearch

end Armada.Collections
