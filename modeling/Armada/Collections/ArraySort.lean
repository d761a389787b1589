import Mathlib.Data.List.Find
import Mathlib.Data.List.Rotate
import Mathlib.Data.List.Sort

/-!
# Sorting by a comparator

What a language promises of a sort that takes a comparator: the result has the same items,
and where the comparator is consistent on them it is the one of every stable sort. Of any
other comparator nothing more is promised.
-/

namespace Armada.Collections

variable {α : Type}

/-- The signs of a comparator agree on some items. -/
structure Consistent (compare : α → α → Int) (items : List α) : Prop where
  antisymm : ∀ first ∈ items, ∀ second ∈ items, compare first second < 0 ↔ 0 < compare second first
  trans : ∀ first ∈ items, ∀ second ∈ items, ∀ third ∈ items,
    compare first second ≤ 0 → compare second third ≤ 0 → compare first third ≤ 0

/-- The stable sort by a comparator. -/
def insertionSort (compare : α → α → Int) (items : List α) : List α :=
  items.insertionSort fun first second => compare first second ≤ 0

/-- `Array.prototype.sort` with a comparator. -/
class ArraySort where
  sort : {α : Type} → (α → α → Int) → List α → List α
  perm : ∀ {α : Type} (compare : α → α → Int) (items : List α), (sort compare items).Perm items
  stable : ∀ {α : Type} {compare : α → α → Int} {items : List α}, Consistent compare items →
    sort compare items = insertionSort compare items

/-- The first of the items that no other item precedes. -/
def firstLeast (compare : α → α → Int) (items : List α) : Option α :=
  items.find? fun item => ∀ other ∈ items, compare item other ≤ 0

section

variable {compare : α → α → Int} {items : List α}

/-- A comparator that is consistent on a list is so on a part of it. -/
theorem Consistent.of_subset {fewer : List α} (consistent : Consistent compare items)
    (subset : fewer ⊆ items) : Consistent compare fewer where
  antisymm first member second other :=
    consistent.antisymm first (subset member) second (subset other)
  trans first firstMember second secondMember third thirdMember :=
    consistent.trans first (subset firstMember) second (subset secondMember) third
      (subset thirdMember)

/-- Any two of the list compare, one way or the other. -/
theorem Consistent.total (consistent : Consistent compare items) {first second : α}
    (firstMember : first ∈ items) (secondMember : second ∈ items) :
    compare first second ≤ 0 ∨ compare second first ≤ 0 := by
  have signs := consistent.antisymm second secondMember first firstMember
  omega

/-- Each compares with itself. -/
theorem Consistent.refl (consistent : Consistent compare items) {item : α} (member : item ∈ items) :
    compare item item ≤ 0 := by
  have signs := consistent.antisymm item member item member
  omega

/-- The first least is in the list, and compares with each of it. -/
theorem firstLeast_eq_some {least : α} (found : firstLeast compare items = some least) :
    least ∈ items ∧ ∀ other ∈ items, compare least other ≤ 0 := by
  rw [firstLeast] at found
  exact ⟨List.mem_of_find?_eq_some found, by simpa using List.find?_some found⟩

/-- An item in front precedes the rest exactly if it precedes the first one of the rest. -/
theorem leads_iff {item first : α} (consistent : Consistent compare (item :: items))
    (found : firstLeast compare items = some first) :
    (∀ other ∈ item :: items, compare item other ≤ 0) ↔ compare item first ≤ 0 := by
  obtain ⟨member, least⟩ := firstLeast_eq_some found
  constructor
  · intro leads
    exact leads first (List.mem_cons_of_mem _ member)
  · intro below other otherMember
    rcases List.mem_cons.mp otherMember with rfl | later
    · exact consistent.refl otherMember
    · exact consistent.trans _ (by simp) first (List.mem_cons_of_mem _ member) other otherMember
        below (least other later)

/-- A new first element is the first least exactly if it compares with the old one. -/
theorem firstLeast_cons {item first : α} (consistent : Consistent compare (item :: items))
    (found : firstLeast compare items = some first) :
    firstLeast compare (item :: items) =
      if compare item first ≤ 0 then some item else some first := by
  obtain ⟨member, least⟩ := firstLeast_eq_some found
  have isFirst : first ∈ item :: items := List.mem_cons_of_mem _ member
  have leads := leads_iff consistent found
  by_cases below : compare item first ≤ 0
  · rw [if_pos below, firstLeast, List.find?_cons_of_pos (by simpa using leads.mpr below)]
  · have after : compare first item ≤ 0 := (consistent.total (by simp) isFirst).resolve_left below
    rw [if_neg below, firstLeast, List.find?_cons_of_neg (by simpa using mt leads.mp below),
      ← found, firstLeast]
    refine List.find?_congr fun other otherMember => ?_
    have same : (∀ another ∈ item :: items, compare other another ≤ 0) ↔
        ∀ another ∈ items, compare other another ≤ 0 := by
      rw [List.forall_mem_cons]
      refine and_iff_right_of_imp fun precedes => ?_
      exact consistent.trans other (List.mem_cons_of_mem _ otherMember) first isFirst item (by simp)
        (precedes first member) after
    simp only [same]

/-- The stable sort begins with the first item that no other precedes. -/
theorem head_insertionSort (consistent : Consistent compare items) :
    (insertionSort compare items).head? = firstLeast compare items := by
  induction items with
  | nil => rfl
  | cons item rest inductionHypothesis =>
      have begins := inductionHypothesis (consistent.of_subset (List.subset_cons_self item rest))
      rw [insertionSort, List.insertionSort_cons]
      cases sorted : insertionSort compare rest with
      | nil =>
          have permuted : (insertionSort compare rest).Perm rest := List.perm_insertionSort _ rest
          rw [sorted] at permuted
          obtain rfl := permuted.nil_eq
          simp [firstLeast, consistent.refl (List.mem_cons_self)]
      | cons first tail =>
          rw [sorted] at begins
          rw [← insertionSort, sorted, List.orderedInsert, firstLeast_cons consistent begins.symm]
          split <;> rfl

/-- What a sort begins with. -/
theorem head_sort [ArraySort] (consistent : Consistent compare items) :
    (ArraySort.sort compare items).head? = firstLeast compare items := by
  rw [ArraySort.stable consistent, head_insertionSort consistent]

/-- What stands first after sorting was in the list before. -/
theorem mem_of_head_sort [ArraySort] {item : α}
    (head : item ∈ (ArraySort.sort compare items).head?) : item ∈ items :=
  (ArraySort.perm compare items).mem_iff.mp (List.mem_of_mem_head? head)

/-- Nothing is sorted to nothing, and only that. -/
theorem head_sort_eq_none [ArraySort] :
    (ArraySort.sort compare items).head? = none ↔ items = [] := by
  have permuted := ArraySort.perm compare items
  rw [List.head?_eq_none_iff]
  constructor
  · intro empty
    rw [empty] at permuted
    exact permuted.nil_eq.symm
  · rintro rfl
    exact permuted.eq_nil

end

/-- A runtime that sorts by insertion. -/
@[reducible] def insertionRuntime : ArraySort where
  sort := insertionSort
  perm _ items := List.perm_insertionSort _ items
  stable _ := rfl

open Classical in
/-- A runtime that rotates what it cannot sort. -/
@[reducible] noncomputable def rotatingRuntime (places : Nat) : ArraySort where
  sort compare items :=
    if Consistent compare items then insertionSort compare items else items.rotate places
  perm compare items := by
    split
    · exact List.perm_insertionSort _ items
    · exact List.rotate_perm items places
  stable consistent := if_pos consistent

open Classical in
/-- Some runtime begins an inconsistent sort with any of the items. -/
theorem exists_sort_head {compare : α → α → Int} {items : List α}
    (inconsistent : ¬Consistent compare items) {item : α} (member : item ∈ items) :
    ∃ runtime : ArraySort, item ∈ (runtime.sort compare items).head? := by
  obtain ⟨place, bounded, rfl⟩ := List.getElem_of_mem member
  refine ⟨rotatingRuntime place, ?_⟩
  change _ ∈ (if _ then _ else _ : List α).head?
  rw [if_neg inconsistent, List.head?_rotate bounded, List.getElem?_eq_getElem bounded]
  rfl

end Armada.Collections
