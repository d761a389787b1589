import Mathlib.Data.List.Lex
import Mathlib.Data.List.Nodup
import Mathlib.Data.List.Perm.Basic
import Mathlib.Data.Nat.Factorial.Basic
import Mathlib.Data.Prod.Lex
import Armada.Routes.RoutingProvider

/-!
# Exhaustive permutation search

`src/modules/routes/utils/exhaustive-permutation.util.ts`: the optimiser for at most
five stops. It tries every order of the waypoints and keeps a running best.
-/

namespace Armada

/-- The algorithms of the optimizer, as its answer names them. -/
inductive Algorithm where
  | exhaustivePermutation
  | nearestNeighbor2opt
  deriving DecidableEq

/-- A waypoint in the order found. -/
structure SequenceItem where
  sequence : Nat
  deliveryStopId : String
  deriving DecidableEq

/-- What the optimizer answers. -/
structure OptimizationSolution where
  orderedWaypoints : List Waypoint
  totalDistanceM : Rat
  estimatedDurationS : Rat
  algorithm : Algorithm
  sequenceMap : List SequenceItem
  deriving DecidableEq

/-- The waypoints numbered from 1. -/
def sequenceMap (orderedWaypoints : List Waypoint) : List SequenceItem :=
  orderedWaypoints.zipIdx.map fun item => ⟨item.2 + 1, item.1.id⟩

/-- The pairs of neighbours of an order. -/
def legs (order : List Nat) : List (Nat × Nat) := order.zip order.tail

/-- The entries of the legs of an order, added up. -/
def sumLegs (entries : EntryMatrix) (order : List Nat) : Rat :=
  ((legs order).map fun leg => (entries leg.1 leg.2).toNumber).sum

/-- `order.map((idx) => waypoints[idx])`. -/
def waypointsIn (waypoints : List Waypoint) (order : List Nat) : List Waypoint :=
  order.filterMap fun idx => waypoints[idx]?

/-- The waypoints in the order they came in. -/
theorem waypointsIn_range (waypoints : List Waypoint) :
    waypointsIn waypoints (List.range waypoints.length) = waypoints := by
  have each : (List.range waypoints.length).map (fun idx => waypoints[idx]?) =
      waypoints.map some := by
    refine List.ext_getElem (by simp) fun index _ _ => ?_
    simp
  have kept : ∀ order : List Nat, waypointsIn waypoints order =
      (order.map fun idx => waypoints[idx]?).filterMap id := by
    intro order
    rw [waypointsIn, List.filterMap_map]
    rfl
  rw [kept, each, List.filterMap_map]
  simp

/-- A permutation of the indices permutes the waypoints. -/
theorem waypointsIn_perm {waypoints : List Waypoint} {order : List Nat}
    (visits : order.Perm (List.range waypoints.length)) :
    (waypointsIn waypoints order).Perm waypoints := by
  have permuted := visits.filterMap fun idx => waypoints[idx]?
  rwa [← waypointsIn, ← waypointsIn, waypointsIn_range] at permuted

/-- The body of `generatePermutations`, by recursion on the length of the array. -/
def permutationsOfLength {α : Type} : Nat → List α → List (List α)
  | 0, arr => [arr]
  | length + 1, arr =>
      if length = 0 then [arr]
      else arr.zipIdx.flatMap fun (current, i) =>
        (permutationsOfLength length (arr.take i ++ arr.drop (i + 1))).map (current :: ·)

/-- `generatePermutations`. -/
def generatePermutations {α : Type} (arr : List α) : List (List α) :=
  permutationsOfLength arr.length arr

section

variable {α : Type}

/-- What is left of an array without one of its elements. -/
theorem length_remaining {arr : List α} {i : Nat} (bound : i < arr.length) :
    (arr.take i ++ arr.drop (i + 1)).length = arr.length - 1 := by
  simp
  omega

/-- What remains without one element. -/
theorem remaining_sublist (arr : List α) (i : Nat) :
    (arr.take i ++ arr.drop (i + 1)).Sublist arr := by
  rw [← List.eraseIdx_eq_take_drop_succ]
  exact List.eraseIdx_sublist arr i

/-- The recursion lists the rearrangements of the array, each of them. -/
theorem mem_permutationsOfLength {arr order : List α} {length : Nat} (long : arr.length = length) :
    order ∈ permutationsOfLength length arr ↔ order.Perm arr := by
  induction length generalizing arr order with
  | zero =>
      rw [List.length_eq_zero_iff.mp long]
      simp [permutationsOfLength]
  | succ length inductionHypothesis =>
      rw [permutationsOfLength]
      split
      · rename_i single
        obtain ⟨item, rfl⟩ := List.length_eq_one_iff.mp (single ▸ long)
        simp
      · simp only [List.mem_flatMap, List.mem_map, Prod.exists, List.mem_zipIdx_iff_getElem?]
        have shorter : ∀ i < arr.length, (arr.take i ++ arr.drop (i + 1)).length = length :=
          fun i bound => (length_remaining bound).trans (by omega)
        constructor
        · rintro ⟨current, i, here, rest, member, rfl⟩
          obtain ⟨bound, rfl⟩ := List.getElem?_eq_some_iff.mp here
          have permuted := (inductionHypothesis (shorter i bound)).mp member
          rw [← List.eraseIdx_eq_take_drop_succ] at permuted
          exact (permuted.cons _).trans (List.getElem_cons_eraseIdx_perm bound)
        · intro permuted
          cases order with
          | nil => simp [← permuted.length_eq] at long
          | cons current rest =>
              obtain ⟨i, bound, rfl⟩ := List.getElem_of_mem (permuted.mem_iff.mp List.mem_cons_self)
              refine ⟨_, i, List.getElem?_eq_getElem bound, rest, ?_, rfl⟩
              rw [inductionHypothesis (shorter i bound), ← List.eraseIdx_eq_take_drop_succ]
              exact (permuted.trans (List.getElem_cons_eraseIdx_perm bound).symm).cons_inv

/-- From an ordered array the recursion goes through them in lexicographic order. -/
theorem permutationsOfLength_sorted [LinearOrder α] {arr : List α} {length : Nat}
    (long : arr.length = length) (sorted : arr.Pairwise (· < ·)) :
    (permutationsOfLength length arr).Pairwise (· < ·) := by
  induction length generalizing arr with
  | zero => simp [permutationsOfLength]
  | succ length inductionHypothesis =>
      rw [permutationsOfLength]
      split
      · simp
      · rw [List.pairwise_flatMap]
        constructor
        · rintro ⟨current, i⟩ member
          obtain ⟨bound, _⟩ := List.getElem?_eq_some_iff.mp (List.mem_zipIdx_iff_getElem?.mp member)
          have ordered := inductionHypothesis ((length_remaining bound).trans (by omega))
            (sorted.sublist (remaining_sublist arr i))
          exact List.Pairwise.map _ (fun _ _ less => List.cons_lt_cons_self.mpr less) ordered
        · have heads : (arr.zipIdx.map Prod.fst).Pairwise (· < ·) := by simpa using sorted
          refine (List.pairwise_map.mp heads).imp ?_
          intro left right less order orderMember other otherMember
          obtain ⟨rest, _, rfl⟩ := List.mem_map.mp orderMember
          obtain ⟨tail, _, rfl⟩ := List.mem_map.mp otherMember
          exact List.Lex.rel less

/-- There are n! of them. -/
theorem length_permutationsOfLength {arr : List α} {length : Nat} (long : arr.length = length) :
    (permutationsOfLength length arr).length = length.factorial := by
  induction length generalizing arr with
  | zero => rfl
  | succ length inductionHypothesis =>
      rw [permutationsOfLength]
      split
      · rename_i single
        rw [single]
        rfl
      · have each : ∀ item ∈ arr.zipIdx,
            ((permutationsOfLength length (arr.take item.2 ++ arr.drop (item.2 + 1))).map
              (item.1 :: ·)).length = length.factorial := by
          rintro ⟨current, i⟩ member
          obtain ⟨bound, _⟩ := List.getElem?_eq_some_iff.mp (List.mem_zipIdx_iff_getElem?.mp member)
          rw [List.length_map]
          exact inductionHypothesis ((length_remaining bound).trans (by omega))
        rw [List.length_flatMap, List.map_congr_left each]
        simp [long, Nat.factorial_succ]

/-- No order is listed twice: the heads are distinct, and so are the rests. -/
theorem nodup_permutationsOfLength {arr : List α} {length : Nat} (long : arr.length = length)
    (distinct : arr.Nodup) : (permutationsOfLength length arr).Nodup := by
  induction length generalizing arr with
  | zero => simp [permutationsOfLength]
  | succ length inductionHypothesis =>
      rw [permutationsOfLength]
      split
      · simp
      · rw [List.nodup_flatMap]
        constructor
        · rintro ⟨current, i⟩ member
          obtain ⟨bound, _⟩ := List.getElem?_eq_some_iff.mp (List.mem_zipIdx_iff_getElem?.mp member)
          have once := inductionHypothesis ((length_remaining bound).trans (by omega))
            (distinct.sublist (remaining_sublist arr i))
          exact once.map List.cons_injective
        · have heads : (arr.zipIdx.map Prod.fst).Nodup := by simpa using distinct
          refine (List.pairwise_map.mp heads).imp ?_
          intro left right different order leftMember rightMember
          obtain ⟨rest, _, rfl⟩ := List.mem_map.mp leftMember
          obtain ⟨tail, _, same⟩ := List.mem_map.mp rightMember
          exact different (List.cons.inj same).1.symm

/-- They are the permutations, and nothing else. -/
theorem mem_generatePermutations {arr order : List α} :
    order ∈ generatePermutations arr ↔ order.Perm arr :=
  mem_permutationsOfLength rfl

/-- Of a sorted list they come in lexicographic order. -/
theorem generatePermutations_sorted [LinearOrder α] {arr : List α}
    (sorted : arr.Pairwise (· < ·)) : (generatePermutations arr).Pairwise (· < ·) :=
  permutationsOfLength_sorted rfl sorted

end

namespace ExhaustivePermutation

/-- The three variables of the running best, as one round computes them for its order. -/
structure Best where
  cost : Rat
  distance : Rat
  order : List Nat
  deriving DecidableEq

variable (waypoints : List Waypoint) (distancesMeters durationsSeconds : EntryMatrix)

/-- The sums of one order. -/
def measure (fullOrder : List Nat) : Best where
  cost := sumLegs durationsSeconds fullOrder
  distance := sumLegs distancesMeters fullOrder
  order := fullOrder

/-- The ids of an order, joined by commas. -/
def joinedIds (order : List Nat) : String :=
  String.intercalate "," ((waypointsIn waypoints order).map Waypoint.id)

/-- Lower duration, then lower distance, then the smaller ids. -/
def isBetter (current best : Best) : Bool :=
  if current.cost < best.cost then true
  else if current.cost = best.cost ∧ current.distance < best.distance then true
  else if current.cost = best.cost ∧ current.distance = best.distance then
    codeUnits (joinedIds waypoints current.order) < codeUnits (joinedIds waypoints best.order)
  else false

/-- One round. Before the first one both sums of the best are `Infinity`. -/
def keepBetter (best : Option Best) (fullOrder : List Nat) : Option Best :=
  let current := measure distancesMeters durationsSeconds fullOrder
  match best with
  | none => some current
  | some best => if isBetter waypoints current best then some current else some best

/-- The orders the search goes through. -/
def fullOrders (n : Nat) (fixedOrigin : Bool) : List (List Nat) :=
  if fixedOrigin then (generatePermutations (List.range' 1 (n - 1))).map (0 :: ·)
  else generatePermutations (List.range n)

/-- The loop over the permutations keeps the best one. -/
def search (fixedOrigin : Bool) : Option Best :=
  (fullOrders waypoints.length fixedOrigin).foldl
    (keepBetter waypoints distancesMeters durationsSeconds) none

end ExhaustivePermutation

open ExhaustivePermutation in
/-- `solveExhaustivePermutation`. -/
def solveExhaustivePermutation (waypoints : List Waypoint)
    (distancesMeters durationsSeconds : EntryMatrix) (fixedOrigin : Bool) :
    OptimizationSolution :=
  if waypoints.length ≤ 1 then
    { orderedWaypoints := waypoints
      totalDistanceM := 0
      estimatedDurationS := 0
      algorithm := .exhaustivePermutation
      sequenceMap := sequenceMap waypoints }
  else
    -- the enumeration is never empty, so the search has a best
    let best := (search waypoints distancesMeters durationsSeconds fixedOrigin).getD ⟨0, 0, []⟩
    let orderedWaypoints := waypointsIn waypoints best.order
    { orderedWaypoints
      totalDistanceM := mathRound (best.distance * 100) / 100
      estimatedDurationS := mathRound best.cost
      algorithm := .exhaustivePermutation
      sequenceMap := sequenceMap orderedWaypoints }

end Armada
