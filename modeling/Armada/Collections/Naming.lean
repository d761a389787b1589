import Mathlib.Data.List.Perm.Basic

/-!
# Keys that select rows

A key may select several rows. A naming is unambiguous if no key does; then a search for a key
finds the same row in whatever order the rows are.
-/

namespace Armada.Collections

variable {K R : Type} {names : K → R → Bool} {rows others : List R}

/-- Every key selects at most one row. -/
def Unambiguous (names : K → R → Bool) (rows : List R) : Prop :=
  ∀ key, ∀ first ∈ rows, ∀ second ∈ rows, names key first = true → names key second = true →
    first = second

namespace Unambiguous

/-- Nobody is named twice where nobody is. -/
theorem nil : Unambiguous names [] := nofun

/-- What a search finds is the one row that the key selects. -/
theorem find?_eq_some (unambiguous : Unambiguous names rows) {key : K} {row : R} :
    rows.find? (names key) = some row ↔ row ∈ rows ∧ names key row = true := by
  constructor
  · intro found
    exact ⟨List.mem_of_find?_eq_some found, List.find?_some found⟩
  · rintro ⟨member, named⟩
    cases found : rows.find? (names key) with
    | none => exact absurd named (List.find?_eq_none.mp found row member)
    | some other =>
        exact congrArg some (unambiguous key other (List.mem_of_find?_eq_some found) row member
          (List.find?_some found) named)

/-- The order of the rows does not matter. -/
theorem perm (unambiguous : Unambiguous names rows) (same : others.Perm rows) :
    Unambiguous names others :=
  fun key first inOthers second alsoInOthers =>
    unambiguous key first (same.mem_iff.mp inOthers) second (same.mem_iff.mp alsoInOthers)

end Unambiguous

/-- A naming is unambiguous exactly if no search depends on the order of the rows. -/
theorem unambiguous_iff_perm :
    Unambiguous names rows ↔ ∀ key (others : List R), others.Perm rows →
      others.find? (names key) = rows.find? (names key) := by
  classical
  constructor
  · intro unambiguous key others same
    refine Option.ext fun row => ?_
    rw [unambiguous.find?_eq_some, (unambiguous.perm same).find?_eq_some, same.mem_iff]
  · intro steady key first inRows second alsoInRows firstNamed secondNamed
    have found : ∀ row ∈ rows, names key row = true → rows.find? (names key) = some row := by
      intro row member named
      have front := steady key (row :: rows.erase row) (List.perm_cons_erase member).symm
      rwa [List.find?_cons, named, eq_comm] at front
    exact Option.some.inj ((found first inRows firstNamed).symm.trans
      (found second alsoInRows secondNamed))

/-- With one row more a naming stays unambiguous if no key selects it and a row before. -/
theorem unambiguous_insert {extended : List R} {added : R}
    (member : ∀ row, row ∈ extended ↔ row ∈ rows ∨ row = added) (absent : added ∉ rows) :
    Unambiguous names extended ↔ Unambiguous names rows ∧
      ∀ other ∈ rows, ∀ key, names key other = true → ¬names key added = true := by
  constructor
  · intro unambiguous
    refine ⟨fun key first inRows second alsoInRows => unambiguous key first
      ((member first).mpr (.inl inRows)) second ((member second).mpr (.inl alsoInRows)), ?_⟩
    intro other inRows key named addedNamed
    have same := unambiguous key other ((member other).mpr (.inl inRows)) added
      ((member added).mpr (.inr rfl)) named addedNamed
    exact absent (same ▸ inRows)
  · rintro ⟨unambiguous, apart⟩ key first inFirst second inSecond firstNamed secondNamed
    rcases (member first).mp inFirst with old | rfl
    · rcases (member second).mp inSecond with alsoOld | rfl
      · exact unambiguous key first old second alsoOld firstNamed secondNamed
      · exact absurd secondNamed (apart first old key firstNamed)
    · rcases (member second).mp inSecond with alsoOld | rfl
      · exact absurd firstNamed (apart second alsoOld key secondNamed)
      · rfl

end Armada.Collections
