import Mathlib.Data.List.Basic

/-!
# Trees of arrays and objects

Data as it is written out in JSON: leaves, arrays and objects, over any leaves and keys. An
object keeps its entries in the order in which they are enumerated. A position in a tree is
the path of keys and indices that leads there.
-/

namespace Armada.Collections

/-- A value of JSON: a leaf, an array, or an object with its entries in order. -/
inductive DataTree (Key Leaf : Type) where
  | leaf (value : Leaf)
  | array (items : List (DataTree Key Leaf))
  | object (entries : List (Key × DataTree Key Leaf))

namespace DataTree

variable {Key Leaf : Type}

/-- Induction over the items of arrays and the values of objects. -/
@[induction_eliminator]
theorem recOnMembers {motive : DataTree Key Leaf → Prop} (leaf : ∀ value, motive (.leaf value))
    (array : ∀ items, (∀ item ∈ items, motive item) → motive (.array items))
    (object : ∀ entries, (∀ entry ∈ entries, motive entry.2) → motive (.object entries))
    (tree : DataTree Key Leaf) : motive tree :=
  @DataTree.rec Key Leaf motive (fun items => ∀ item ∈ items, motive item)
    (fun entries => ∀ entry ∈ entries, motive entry.2) (fun entry => motive entry.2)
    leaf array object
    nofun (fun _ _ first rest => List.forall_mem_cons.mpr ⟨first, rest⟩)
    nofun (fun _ _ first rest => List.forall_mem_cons.mpr ⟨first, rest⟩)
    (fun _ _ value => value) tree

/-- One step into a tree. -/
inductive Step (Key : Type) where
  | key (name : Key)
  | index (place : Nat)

/-- What a tree shows without the trees below it. -/
inductive Head (Key Leaf : Type) where
  | leaf (value : Leaf)
  | array (length : Nat)
  | object (keys : List Key)

/-- What a tree is at its root: the leaf, the length of the array or the keys of the object. -/
def head : DataTree Key Leaf → Head Key Leaf
  | .leaf value => .leaf value
  | .array items => .array items.length
  | .object entries => .object (entries.map Prod.fst)

variable [DecidableEq Key]

/-- The tree below one step. -/
def child : DataTree Key Leaf → Step Key → Option (DataTree Key Leaf)
  | .array items, .index place => items[place]?
  | .object entries, .key name => entries.lookup name
  | _, _ => none

/-- The tree at a position. -/
def get? (tree : DataTree Key Leaf) : List (Step Key) → Option (DataTree Key Leaf)
  | [] => some tree
  | step :: path => (tree.child step).bind fun child => child.get? path

/-- No object of the tree has a key twice, or one of the keys that are not `allowed`. -/
def Keyed (allowed : Key → Prop) (tree : DataTree Key Leaf) : Prop :=
  ∀ path entries, tree.get? path = some (.object entries) →
    (entries.map Prod.fst).Nodup ∧ ∀ key ∈ entries.map Prod.fst, allowed key

variable {allowed : Key → Prop} {tree below : DataTree Key Leaf} {step : Step Key}
  {path rest : List (Step Key)} {items : List (DataTree Key Leaf)}
  {entries : List (Key × DataTree Key Leaf)}

/-- The empty path leads nowhere else. -/
@[simp] theorem get?_nil : tree.get? [] = some tree := rfl

/-- A path goes step by step. -/
@[simp] theorem get?_cons :
    tree.get? (step :: path) = (tree.child step).bind fun child => child.get? path := rfl

/-! ### Entries -/

/-- Values may be changed under their keys. -/
theorem lookup_map {Value Other : Type} (change : Key → Value → Other) (key : Key)
    (entries : List (Key × Value)) :
    (entries.map fun entry => (entry.1, change entry.1 entry.2)).lookup key =
      (entries.lookup key).map (change key) := by
  induction entries with
  | nil => rfl
  | cons entry entries inductionHypothesis =>
      rw [List.map_cons, List.lookup_cons, List.lookup_cons]
      by_cases same : key = entry.1
      · subst same
        simp
      · rw [beq_false_of_ne same]
        exact inductionHypothesis

/-- Where no key repeats, each entry is found under its key. -/
theorem lookup_of_mem {Value : Type} {entries : List (Key × Value)}
    (nodup : (entries.map Prod.fst).Nodup) {entry : Key × Value} (member : entry ∈ entries) :
    entries.lookup entry.1 = some entry.2 := by
  induction entries with
  | nil => cases member
  | cons first entries inductionHypothesis =>
      obtain ⟨absent, nodup⟩ := List.nodup_cons.mp nodup
      rw [List.lookup_cons]
      rcases List.mem_cons.mp member with rfl | later
      · simp
      · have different : entry.1 ≠ first.1 := by
          intro same
          exact absent (same ▸ List.mem_map_of_mem later)
        rw [beq_false_of_ne different]
        exact inductionHypothesis nodup later

/-! ### Keyed trees -/

/-- Below a tree whose objects have proper keys there are only such trees. -/
theorem Keyed.child (keyed : tree.Keyed allowed) (step : Step Key)
    (found : tree.child step = some below) : below.Keyed allowed := by
  intro path entries reached
  refine keyed (step :: path) entries ?_
  rw [get?_cons, found]
  exact reached

/-- At every path, that is. -/
theorem Keyed.get? (keyed : tree.Keyed allowed) (found : tree.get? path = some below) :
    below.Keyed allowed := by
  induction path generalizing tree with
  | nil => exact Option.some.inj found ▸ keyed
  | cons step path inductionHypothesis =>
      obtain ⟨next, stepped, found⟩ := Option.bind_eq_some_iff.mp found
      exact inductionHypothesis (keyed.child step stepped) found

/-- A leaf has no keys. -/
theorem keyed_leaf {value : Leaf} : (leaf value : DataTree Key Leaf).Keyed allowed := by
  intro path entries found
  cases path with
  | nil => cases found
  | cons step path => cases found

/-- An array has the keys of its items. -/
theorem keyed_array : (array items).Keyed allowed ↔ ∀ item ∈ items, item.Keyed allowed := by
  constructor
  · intro keyed item member
    obtain ⟨place, bounded, rfl⟩ := List.getElem_of_mem member
    exact keyed.child (.index place) (List.getElem?_eq_getElem bounded)
  · intro each path entries found
    cases path with
    | nil => cases found
    | cons step path =>
        obtain ⟨below, stepped, reached⟩ := Option.bind_eq_some_iff.mp found
        cases step with
        | key name => cases stepped
        | index place => exact each below (List.mem_of_getElem? stepped) path entries reached

/-- An object has its own keys, and those of its values. -/
theorem keyed_object :
    (object entries).Keyed allowed ↔
      ((entries.map Prod.fst).Nodup ∧ ∀ key ∈ entries.map Prod.fst, allowed key) ∧
        ∀ entry ∈ entries, entry.2.Keyed allowed := by
  constructor
  · intro keyed
    have here := keyed [] entries rfl
    exact ⟨here, fun entry member =>
      keyed.child (.key entry.1) (lookup_of_mem here.1 member)⟩
  · rintro ⟨here, each⟩ path others found
    cases path with
    | nil =>
        cases found
        exact here
    | cons step path =>
        obtain ⟨below, stepped, reached⟩ := Option.bind_eq_some_iff.mp found
        cases step with
        | key name =>
            obtain ⟨before, after, rfl, _⟩ := List.lookup_eq_some_iff.mp stepped
            exact each (name, below) (by simp) path others reached
        | index place => cases stepped

end DataTree

end Armada.Collections
