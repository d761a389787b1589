import Mathlib.Data.List.Nodup

/-!
# Tables with a primary key

A table is a list of rows no two of which share a key; uniqueness is a field of
the structure, so every operation below keeps it by construction. `insert` and
`modify` are total: inserting a present key and changing a key have no effect on
the rows concerned.
-/

namespace Armada.Relational

/-- The primary key of a row. -/
class Keyed (R : Type) (K : outParam Type) where
  key : R → K

/-- Rows in their order, no two under one key. -/
structure Table (R : Type) {K : Type} [Keyed R K] where
  rows : List R
  unique : (rows.map Keyed.key).Nodup

namespace Table

variable {R K : Type} [Keyed R K]

/-- Tables are equal when their rows are. -/
@[ext] theorem ext {left right : Table R} (rows : left.rows = right.rows) : left = right := by
  cases left
  cases right
  cases rows
  rfl

/-- No rows. -/
def empty : Table R := ⟨[], List.nodup_nil⟩

/-- There are none in it. -/
@[simp] theorem rows_empty : (empty : Table R).rows = [] := rfl

/-- Rows with one key are one row. -/
theorem eq_of_key {table : Table R} {left right : R} (leftMember : left ∈ table.rows)
    (rightMember : right ∈ table.rows) (same : Keyed.key left = Keyed.key right) :
    left = right :=
  List.inj_on_of_nodup_map table.unique leftMember rightMember same

variable [DecidableEq K]

instance [DecidableEq R] : DecidableEq (Table R) := fun left right =>
  decidable_of_iff (left.rows = right.rows) ⟨ext, fun same => same ▸ rfl⟩

/-- Look a row up by its primary key. -/
def find? (table : Table R) (key : K) : Option R :=
  table.rows.find? fun row => Keyed.key row = key

/-- Change the row with a key. -/
def modify (table : Table R) (key : K) (change : R → R) : Table R where
  rows := table.rows.map fun row =>
    if Keyed.key row = key ∧ Keyed.key (change row) = key then change row else row
  unique := by
    rw [List.map_map]
    have keys : table.rows.map (Keyed.key ∘ fun row =>
        if Keyed.key row = key ∧ Keyed.key (change row) = key then change row else row) =
        table.rows.map Keyed.key := by
      apply List.map_congr_left
      intro row _
      simp only [Function.comp_apply]
      split
      · rename_i both
        rw [both.1, both.2]
      · rfl
    rw [keys]
    exact table.unique

/-- Keep the rows of a kind. -/
def filter (table : Table R) (kind : R → Bool) : Table R where
  rows := table.rows.filter kind
  unique := (List.filter_sublist.map _).nodup table.unique

/-- Add a row whose key is not present. -/
def insert (table : Table R) (row : R) : Table R :=
  if fresh : Keyed.key row ∉ table.rows.map Keyed.key then
    ⟨table.rows ++ [row], by
      rw [List.map_append, List.map_singleton, List.nodup_append]
      refine ⟨table.unique, List.nodup_singleton _, ?_⟩
      rintro key member _ (last : _ ∈ [_]) rfl
      exact fresh (List.mem_singleton.mp last ▸ member)⟩
  else table

/-- The row under a key is the row of the table that has it. -/
theorem find?_eq_some {table : Table R} {key : K} {row : R} :
    table.find? key = some row ↔ row ∈ table.rows ∧ Keyed.key row = key := by
  constructor
  · intro found
    exact ⟨List.mem_of_find?_eq_some found, by simpa using List.find?_some found⟩
  · rintro ⟨member, rfl⟩
    cases found : table.find? (Keyed.key row) with
    | none =>
        have absent := List.find?_eq_none.mp found row member
        simp at absent
    | some other =>
        have otherMember := List.mem_of_find?_eq_some found
        have otherKey : Keyed.key other = Keyed.key row := by
          simpa using List.find?_some found
        rw [eq_of_key otherMember member otherKey]

/-- Nothing is found under a key that no row has. -/
theorem find?_eq_none {table : Table R} {key : K} :
    table.find? key = none ↔ ∀ row ∈ table.rows, Keyed.key row ≠ key := by
  simp [find?, List.find?_eq_none]

/-- What is found is in the table. -/
theorem mem_of_find? {table : Table R} {key : K} {row : R}
    (found : table.find? key = some row) : row ∈ table.rows :=
  (find?_eq_some.mp found).1

/-- What is found has the key it was found under. -/
theorem key_of_find? {table : Table R} {key : K} {row : R}
    (found : table.find? key = some row) : Keyed.key row = key :=
  (find?_eq_some.mp found).2

/-- Every row is found under its key. -/
theorem find?_of_mem {table : Table R} {row : R} (member : row ∈ table.rows) :
    table.find? (Keyed.key row) = some row :=
  find?_eq_some.mpr ⟨member, rfl⟩

/-- Nothing is found in an empty table. -/
@[simp] theorem find?_empty (key : K) : (empty : Table R).find? key = none := rfl

/-- The rows after a change of one of them. -/
theorem mem_modify {table : Table R} {key : K} {change : R → R} {row : R}
    (keyed : ∀ row, Keyed.key (change row) = Keyed.key row) :
    row ∈ (table.modify key change).rows ↔
      ∃ old ∈ table.rows, row = if Keyed.key old = key then change old else old := by
  have same : ∀ old : R, (Keyed.key old = key ∧ Keyed.key (change old) = key) ↔
      Keyed.key old = key := fun old => by rw [keyed]; exact and_self_iff
  simp only [modify, List.mem_map, same]
  exact exists_congr fun old => and_congr_right fun _ => eq_comm

/-- What is found after a change of one row. -/
theorem find?_modify (table : Table R) (key other : K) {change : R → R}
    (keyed : ∀ row, Keyed.key (change row) = Keyed.key row) :
    (table.modify key change).find? other =
      if other = key then (table.find? other).map change else table.find? other := by
  have same : ∀ old : R, (Keyed.key old = key ∧ Keyed.key (change old) = key) ↔
      Keyed.key old = key := fun old => by rw [keyed]; exact and_self_iff
  simp only [find?, modify, same]
  induction table.rows with
  | nil => simp
  | cons row rows inductionHypothesis =>
      rw [List.map_cons, List.find?_cons, List.find?_cons, inductionHypothesis]
      by_cases here : Keyed.key row = key <;> by_cases wanted : Keyed.key row = other
      · subst here
        subst wanted
        simp [keyed]
      · simp [here, keyed, show ¬key = other from here ▸ wanted]
      · simp [wanted, show ¬other = key from wanted ▸ here]
      · simp [here, wanted]

/-- The rows after an insertion under a new key. -/
theorem mem_insert {table : Table R} {added row : R}
    (fresh : table.find? (Keyed.key added) = none) :
    row ∈ (table.insert added).rows ↔ row ∈ table.rows ∨ row = added := by
  have absent : Keyed.key added ∉ table.rows.map Keyed.key := by
    rw [List.mem_map]
    rintro ⟨old, member, same⟩
    exact find?_eq_none.mp fresh old member same
  rw [insert, dif_pos absent]
  simp

/-- An insertion leaves the rows there are. -/
theorem mem_insert_of_mem {table : Table R} {added row : R} (member : row ∈ table.rows) :
    row ∈ (table.insert added).rows := by
  rw [insert]
  split
  · exact List.mem_append_left _ member
  · exact member

/-- A row of the table after an insertion is an old row or the inserted one. -/
theorem mem_of_mem_insert {table : Table R} {added row : R}
    (member : row ∈ (table.insert added).rows) : row ∈ table.rows ∨ row = added := by
  rw [insert] at member
  split at member
  · simpa using member
  · exact .inl member

/-- What is found after an insertion: the row that was there before the one that is new. -/
theorem find?_insert (table : Table R) (added : R) (key : K) :
    (table.insert added).find? key =
      (table.find? key).or (if Keyed.key added = key then some added else none) := by
  rw [insert]
  split
  · simp only [find?, List.find?_append]
    congr 1
    by_cases same : Keyed.key added = key <;> simp [same]
  · rename_i present
    cases found : table.find? key with
    | some row => rfl
    | none =>
        have different : ¬Keyed.key added = key := by
          rintro rfl
          apply present
          rw [List.mem_map]
          rintro ⟨old, member, same⟩
          exact find?_eq_none.mp found old member same
        simp [different]

/-- A row that is found is found after an insertion too. -/
theorem find?_insert_of_some {table : Table R} {added row : R} {key : K}
    (found : table.find? key = some row) : (table.insert added).find? key = some row := by
  rw [find?_insert, found]
  rfl

/-- Add rows one after another, leaving out each whose key is present by then. -/
def insertAll (table : Table R) (rows : List R) : Table R :=
  rows.foldl insert table

/-- What is found after the insertion of several rows. -/
theorem find?_insertAll (table : Table R) (added : List R) (key : K) :
    (table.insertAll added).find? key =
      (table.find? key).or (added.find? fun row => Keyed.key row = key) := by
  induction added generalizing table with
  | nil => rw [insertAll, List.foldl_nil, List.find?_nil, Option.or_none]
  | cons row added inductionHypothesis =>
      rw [insertAll, List.foldl_cons]
      refine (inductionHypothesis (table.insert row)).trans ?_
      rw [find?_insert, Option.or_assoc, List.find?_cons]
      by_cases same : Keyed.key row = key <;> simp [same]

/-- A row that is found is found after them too. -/
theorem find?_insertAll_of_some {table : Table R} {added : List R} {row : R} {key : K}
    (found : table.find? key = some row) : (table.insertAll added).find? key = some row := by
  rw [find?_insertAll, found, Option.some_or]

/-! ### The first row of a kind -/

/-- The first row of a kind stays the first. -/
theorem first_insert {table : Table R} {added row : R} {kind : R → Bool}
    (found : table.rows.find? kind = some row) : (table.insert added).rows.find? kind = some row := by
  rw [insert]
  split
  · rw [List.find?_append, found, Option.some_or]
  · exact found

/-- The first row of a kind, after a change that keeps the kind. -/
theorem first_modify (table : Table R) (key : K) {change : R → R} {kind : R → Bool}
    (keyed : ∀ row, Keyed.key (change row) = Keyed.key row)
    (still : ∀ row, kind (change row) = kind row) :
    (table.modify key change).rows.find? kind = (table.rows.find? kind).map fun row =>
      if Keyed.key row = key then change row else row := by
  have same : ∀ old : R, (Keyed.key old = key ∧ Keyed.key (change old) = key) ↔
      Keyed.key old = key := fun old => by rw [keyed]; exact and_self_iff
  simp only [modify, same]
  induction table.rows with
  | nil => rfl
  | cons row rows inductionHypothesis =>
      rw [List.map_cons, List.find?_cons, List.find?_cons, inductionHypothesis]
      by_cases here : Keyed.key row = key
      · rw [if_pos here, still]
        cases kind row <;> simp [here]
      · rw [if_neg here]
        cases kind row <;> simp [here]

end Table

end Armada.Relational
