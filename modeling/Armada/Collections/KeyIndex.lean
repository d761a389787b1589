import Mathlib.Data.List.AList

/-!
# Maps from keys to sets

A secondary index is a map from keys to the sets of members that have them. It is kept by
hand: a set is created with its first member and deleted with its last. `Tracks` says which
relation of keys and members an index stands for; each operation on an index is an
operation on the relation.
-/

namespace Armada.Collections

variable {K M : Type} [DecidableEq K]

/-- A map from keys to sets; a set is the list of its members in the order of insertion. -/
abbrev KeyIndex (K M : Type) [DecidableEq K] := AList fun _ : K => List M

namespace KeyIndex

/-- The members that are filed under a key. -/
def members (index : KeyIndex K M) (key : K) : List M := (index.lookup key).getD []

/-- The index files exactly the members of a relation, and keeps no empty set. -/
structure Tracks (index : KeyIndex K M) (files : K → M → Prop) : Prop where
  mem_members : ∀ key member, member ∈ index.members key ↔ files key member
  nonempty : ∀ key set, index.lookup key = some set → set ≠ []
  nodup : ∀ key, (index.members key).Nodup

variable {index : KeyIndex K M} {files : K → M → Prop} {key other : K} {member : M}

/-- The set under a key. -/
theorem members_of_lookup {set : List M} (found : index.lookup key = some set) :
    index.members key = set := by
  rw [members, found, Option.getD_some]

/-- The empty index has no members. -/
@[simp] theorem members_empty : (∅ : KeyIndex K M).members key = [] := rfl

/-- The empty index tracks the empty relation. -/
theorem Tracks.empty : (∅ : KeyIndex K M).Tracks fun _ _ => False where
  mem_members _ _ := by simp
  nonempty _ _ found := by simp at found
  nodup _ := List.nodup_nil

/-- An index tracks a relation, however that is put. -/
theorem Tracks.congr {files' : K → M → Prop} (tracks : index.Tracks files)
    (same : ∀ key member, files key member ↔ files' key member) : index.Tracks files' where
  mem_members key member := (tracks.mem_members key member).trans (same key member)
  nonempty := tracks.nonempty
  nodup := tracks.nodup

variable [DecidableEq M]

/-- File a member under a key. -/
def add (index : KeyIndex K M) (key : K) (member : M) : KeyIndex K M :=
  let set := index.members key
  index.insert key (if member ∈ set then set else set ++ [member])

/-- Take a member out of the set of a key. -/
def remove (index : KeyIndex K M) (key : K) (member : M) : KeyIndex K M :=
  match index.lookup key with
  | none => index
  | some set =>
      let rest := set.filter fun other => other ≠ member
      if rest = [] then index.erase key else index.insert key rest

/-- A member is filed once. -/
theorem members_add_self :
    (index.add key member).members key =
      if member ∈ index.members key then index.members key else index.members key ++ [member] :=
  members_of_lookup (AList.lookup_insert index)

/-- Filing is under one key. -/
theorem members_add_of_ne (different : other ≠ key) :
    (index.add key member).members other = index.members other := by
  rw [members, add, AList.lookup_insert_ne different, members]

/-- What is filed after an addition. -/
theorem mem_members_add {present : M} : present ∈ (index.add key member).members other ↔
    present ∈ index.members other ∨ (other = key ∧ present = member) := by
  by_cases same : other = key
  · subst same
    rw [members_add_self]
    split
    · rename_i filed
      constructor
      · exact Or.inl
      · rintro (old | ⟨_, rfl⟩)
        · exact old
        · exact filed
    · simp
  · simp [members_add_of_ne same, same]

/-- A member is taken out. -/
theorem members_remove_self :
    (index.remove key member).members key =
      (index.members key).filter fun other => other ≠ member := by
  cases found : index.lookup key with
  | none => simp [remove, members, found]
  | some set =>
      rw [members_of_lookup found]
      simp only [remove, found]
      split
      · rename_i emptied
        rw [members, AList.lookup_erase, emptied, Option.getD_none]
      · exact members_of_lookup (AList.lookup_insert index)

/-- Under one key only. -/
theorem members_remove_of_ne (different : other ≠ key) :
    (index.remove key member).members other = index.members other := by
  cases found : index.lookup key with
  | none => simp [remove, found]
  | some set =>
      simp only [remove, found]
      split
      · rw [members, AList.lookup_erase_ne different, members]
      · rw [members, AList.lookup_insert_ne different, members]

/-- What is filed after a removal. -/
theorem mem_members_remove {present : M} : present ∈ (index.remove key member).members other ↔
    present ∈ index.members other ∧ ¬(other = key ∧ present = member) := by
  by_cases same : other = key
  · subst same
    rw [members_remove_self]
    simp
  · simp [members_remove_of_ne same, same]

namespace Tracks

/-- To file a member is to add a pair to the relation. -/
theorem add (tracks : index.Tracks files) (key : K) (member : M) :
    (index.add key member).Tracks fun other present =>
      files other present ∨ (other = key ∧ present = member) where
  mem_members other present := by rw [mem_members_add, tracks.mem_members]
  nonempty other set found := by
    by_cases same : other = key
    · subst same
      have filed : member ∈ (index.add other member).members other :=
        mem_members_add.mpr (.inr ⟨rfl, rfl⟩)
      rw [members_of_lookup found] at filed
      exact List.ne_nil_of_mem filed
    · rw [KeyIndex.add, AList.lookup_insert_ne same] at found
      exact tracks.nonempty other set found
  nodup other := by
    by_cases same : other = key
    · subst same
      rw [members_add_self]
      split
      · exact tracks.nodup other
      · rename_i absent
        exact List.nodup_append.mpr ⟨tracks.nodup other, List.nodup_singleton _,
          fun old filed new isNew same => absent (List.mem_singleton.mp isNew ▸ same ▸ filed)⟩
    · rw [members_add_of_ne same]
      exact tracks.nodup other

/-- To take a member out is to take a pair out of the relation. -/
theorem remove (tracks : index.Tracks files) (key : K) (member : M) :
    (index.remove key member).Tracks fun other present =>
      files other present ∧ ¬(other = key ∧ present = member) where
  mem_members other present := by rw [mem_members_remove, tracks.mem_members]
  nonempty other set found := by
    cases filed : index.lookup key with
    | none =>
        rw [KeyIndex.remove, filed] at found
        exact tracks.nonempty other set found
    | some old =>
        simp only [KeyIndex.remove, filed] at found
        by_cases same : other = key
        · subst same
          split at found
          · rw [AList.lookup_erase] at found
            cases found
          · rename_i left
            rw [AList.lookup_insert] at found
            cases found
            exact left
        · refine tracks.nonempty other set ?_
          split at found
          · rwa [AList.lookup_erase_ne same] at found
          · rwa [AList.lookup_insert_ne same] at found
  nodup other := by
    by_cases same : other = key
    · subst same
      rw [members_remove_self]
      exact (tracks.nodup other).filter _
    · rw [members_remove_of_ne same]
      exact tracks.nodup other

end Tracks

end KeyIndex

end Armada.Collections
