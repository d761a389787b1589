import Armada.Relational.Table

/-!
# Tables that lose no row

A table whose rows are only added and changed: each old row is still there under its key, up
to a relation of what a change leaves.
-/

namespace Armada.Relational

/-- No row of the old table is lost in the new one, up to a relation of rows. -/
def Preserved {R K : Type} [Keyed R K] [DecidableEq K] (same : R → R → Prop)
    (before after : Table R) : Prop :=
  ∀ key row, before.find? key = some row → ∃ current, after.find? key = some current ∧ same row current

namespace Preserved

variable {R K : Type} [Keyed R K] [DecidableEq K] {same : R → R → Prop} {table : Table R}

/-- A table preserves itself. -/
theorem refl (reflexive : ∀ row, same row row) : Preserved same table table :=
  fun _ row found => ⟨row, found, reflexive row⟩

/-- What is preserved twice is preserved. -/
theorem trans {before middle after : Table R}
    (transitive : ∀ {first second third}, same first second → same second third → same first third)
    (prior : Preserved same before middle) (suffix : Preserved same middle after) :
    Preserved same before after := by
  intro key row found
  obtain ⟨between, foundBetween, former⟩ := prior key row found
  obtain ⟨current, foundAfter, latter⟩ := suffix key between foundBetween
  exact ⟨current, foundAfter, transitive former latter⟩

/-- An insertion leaves the rows there are. -/
theorem insert (reflexive : ∀ row, same row row) (added : R) :
    Preserved same table (table.insert added) :=
  fun _ row found => ⟨row, Table.find?_insert_of_some found, reflexive row⟩

/-- A change of one row preserves, if the change does. -/
theorem modify (reflexive : ∀ row, same row row) (key : K) {change : R → R}
    (keyed : ∀ row, Keyed.key (change row) = Keyed.key row)
    (changed : ∀ row, same row (change row)) : Preserved same table (table.modify key change) := by
  intro other row found
  rw [Table.find?_modify table key other keyed]
  split
  · exact ⟨change row, by rw [found]; rfl, changed row⟩
  · exact ⟨row, found, reflexive row⟩

end Preserved

end Armada.Relational
