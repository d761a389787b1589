import Mathlib.Data.List.Nodup

/-!
# Maps in insertion order

A finite map that goes through its entries in the order in which their keys were first set.
A key that is set again keeps its place; one that was deleted comes back at the end.
-/

namespace Armada.Collections

/-- The `Map` of JavaScript: entries in the order of their insertion, no key twice. -/
structure InsertionMap (K V : Type) where
  entries : List (K × V)
  nodup : (entries.map Prod.fst).Nodup

namespace InsertionMap

variable {K V : Type}

/-- No entries. -/
def empty : InsertionMap K V := ⟨[], List.nodup_nil⟩

/-- The number of entries. -/
def size (map : InsertionMap K V) : Nat := map.entries.length

/-- The keys, in the order of insertion. -/
def keys (map : InsertionMap K V) : List K := map.entries.map Prod.fst

/-- The key that was inserted first. -/
def oldest? (map : InsertionMap K V) : Option K := map.keys.head?

/-- Keeps the entries whose value is as asked for. -/
def filter (keep : V → Bool) (map : InsertionMap K V) : InsertionMap K V where
  entries := map.entries.filter fun entry => keep entry.2
  nodup := map.nodup.sublist (List.filter_sublist.map Prod.fst)

/-- What is kept is what was there and passes. -/
@[simp] theorem mem_filter {keep : V → Bool} {map : InsertionMap K V} {key : K} {value : V} :
    (key, value) ∈ (map.filter keep).entries ↔ (key, value) ∈ map.entries ∧ keep value = true := by
  simp [filter]

/-- Filtering does not add. -/
theorem size_filter_le (keep : V → Bool) (map : InsertionMap K V) :
    (map.filter keep).size ≤ map.size :=
  List.length_filter_le _ _

variable [DecidableEq K]

/-- The key has an entry. -/
def has (map : InsertionMap K V) (key : K) : Bool := key ∈ map.keys

/-- Remove the entry of a key. -/
def delete (map : InsertionMap K V) (key : K) : InsertionMap K V where
  entries := map.entries.filter fun entry => entry.1 ≠ key
  nodup := map.nodup.sublist (List.filter_sublist.map Prod.fst)

/-- The value under a key that is there is replaced in its place. -/
def replaced (entries : List (K × V)) (key : K) (value : V) : List (K × V) :=
  entries.map fun entry => if entry.1 = key then (key, value) else entry

/-- A value is replaced in place. -/
theorem map_fst_replaced (entries : List (K × V)) (key : K) (value : V) :
    (replaced entries key value).map Prod.fst = entries.map Prod.fst := by
  rw [replaced, List.map_map]
  refine List.map_congr_left fun entry _ => ?_
  by_cases same : entry.1 = key <;> simp [same]

/-- A key that is there keeps its place and gets the value; another comes last. -/
def set (map : InsertionMap K V) (key : K) (value : V) : InsertionMap K V where
  entries := if map.has key then replaced map.entries key value else map.entries ++ [(key, value)]
  nodup := by
    split
    · rw [map_fst_replaced]
      exact map.nodup
    · rename_i absent
      rw [has, decide_eq_true_iff] at absent
      rw [List.map_append, List.map_singleton, ← List.concat_eq_append]
      exact map.nodup.concat absent

variable {map : InsertionMap K V} {key other : K} {value present : V}

/-- A key is there if some value is under it. -/
theorem has_iff : map.has key = true ↔ ∃ value, (key, value) ∈ map.entries := by
  rw [has, decide_eq_true_iff, keys, List.mem_map]
  constructor
  · rintro ⟨⟨_, value⟩, member, rfl⟩
    exact ⟨value, member⟩
  · rintro ⟨value, member⟩
    exact ⟨(key, value), member, rfl⟩

/-- All other entries stay. -/
@[simp] theorem mem_delete :
    (other, value) ∈ (map.delete key).entries ↔ (other, value) ∈ map.entries ∧ other ≠ key := by
  simp [delete]

/-- The key has the new value, all other entries stay. -/
theorem mem_set :
    (other, present) ∈ (map.set key value).entries ↔
      other = key ∧ present = value ∨ other ≠ key ∧ (other, present) ∈ map.entries := by
  rw [set]
  split
  · rename_i there
    obtain ⟨old, found⟩ := has_iff.mp there
    simp only [replaced, List.mem_map, Prod.exists]
    constructor
    · rintro ⟨place, earlier, member, replacing⟩
      split at replacing
      · cases replacing
        exact .inl ⟨rfl, rfl⟩
      · rename_i different
        cases replacing
        exact .inr ⟨different, member⟩
    · rintro (⟨rfl, rfl⟩ | ⟨different, member⟩)
      · exact ⟨other, old, found, if_pos rfl⟩
      · exact ⟨other, present, member, if_neg different⟩
  · rename_i absent
    rw [List.mem_append, List.mem_singleton, Prod.mk.injEq]
    constructor
    · rintro (member | new)
      · refine .inr ⟨?_, member⟩
        rintro rfl
        exact absent (has_iff.mpr ⟨present, member⟩)
      · exact .inl new
    · rintro (new | ⟨_, member⟩)
      · exact .inr new
      · exact .inl member

/-- A key that was there takes no further place. -/
theorem size_set_of_has (there : map.has key = true) : (map.set key value).size = map.size := by
  simp [size, set, there, replaced]

/-- A new key takes one more. -/
theorem size_set_of_not_has (absent : map.has key = false) :
    (map.set key value).size = map.size + 1 := by
  simp [size, set, absent]

/-- Without its oldest key a map has one entry less. -/
theorem size_delete_oldest (first : map.oldest? = some key) :
    (map.delete key).size + 1 = map.size := by
  obtain ⟨entries, nodup⟩ := map
  cases entries with
  | nil => cases first
  | cons entry entries =>
      obtain rfl : entry.1 = key := Option.some.inj first
      rw [List.map_cons, List.nodup_cons] at nodup
      have kept : entries.filter (fun other => other.1 ≠ entry.1) = entries := by
        refine List.filter_eq_self.mpr fun other member => decide_eq_true fun same => ?_
        exact nodup.1 (same ▸ List.mem_map_of_mem member)
      simp only [size, delete, List.filter_cons, ne_eq, not_true, decide_false, if_false,
        Bool.false_eq_true]
      rw [kept, List.length_cons]

/-- Removing a key brings none back. -/
theorem not_has_delete (absent : map.has other = false) : (map.delete key).has other = false := by
  rw [Bool.eq_false_iff] at absent ⊢
  intro there
  obtain ⟨value, member⟩ := has_iff.mp there
  exact absent (has_iff.mpr ⟨value, (mem_delete.mp member).1⟩)

end InsertionMap

end Armada.Collections
