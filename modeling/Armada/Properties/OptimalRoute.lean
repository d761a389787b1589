import Armada.Collections.Search
import Armada.Routes.ExhaustivePermutation

/-!
# The exhaustive search is optimal

The enumeration goes through every order that the search may return, in lexicographic
order, and the loop over it is the first minimum of the list under the triple that the
source compares: duration, distance, joined ids.
-/

namespace Armada

open Collections

/-- The permutations of distinct elements: `n!` of them, none twice, and no other lists. -/
theorem permutations_enumerated {α : Type} {arr : List α} (distinct : arr.Nodup) :
    (generatePermutations arr).length = arr.length.factorial ∧
      (generatePermutations arr).Nodup ∧
        ∀ order, order ∈ generatePermutations arr ↔ order.Perm arr :=
  ⟨length_permutationsOfLength rfl, nodup_permutationsOfLength rfl distinct,
    fun _ => mem_generatePermutations⟩

/-- The orders of three waypoints. -/
theorem permutations_enumerated_three : (generatePermutations [3, 1, 2]).length = Nat.factorial 3 ∧
    (generatePermutations [3, 1, 2]).Nodup ∧
      ∀ order, order ∈ generatePermutations [3, 1, 2] ↔ order.Perm [3, 1, 2] :=
  permutations_enumerated (by decide)

namespace ExhaustivePermutation

/-- A round trip through all `n` waypoints, from the first one if that is fixed. -/
def Admissible (n : Nat) (fixedOrigin : Bool) (order : List Nat) : Prop :=
  order.Perm (List.range n) ∧ (fixedOrigin = true → ∀ first ∈ order.head?, first = 0)

/-- The orders that are searched are the admissible ones. -/
theorem mem_fullOrders {n : Nat} {fixedOrigin : Bool} {order : List Nat} (two : 0 < n) :
    order ∈ fullOrders n fixedOrigin ↔ Admissible n fixedOrigin order := by
  obtain ⟨n, rfl⟩ := Nat.exists_eq_add_of_lt two
  have range : List.range (n + 1) = 0 :: List.range' 1 n := by
    rw [List.range_eq_range', List.range'_succ]
  rw [fullOrders, Admissible]
  cases fixedOrigin with
  | false => simp [mem_generatePermutations]
  | true =>
      simp only [Nat.zero_add, if_true, List.mem_map, mem_generatePermutations,
        Nat.add_sub_cancel, true_implies]
      constructor
      · rintro ⟨rest, permuted, rfl⟩
        rw [range]
        exact ⟨permuted.cons 0, by simp⟩
      · rintro ⟨permuted, first⟩
        cases order with
        | nil => simp at permuted
        | cons head rest =>
            obtain rfl : head = 0 := first head rfl
            rw [range] at permuted
            exact ⟨rest, permuted.cons_inv, rfl⟩

/-- They come in ascending order. -/
theorem fullOrders_sorted (n : Nat) (fixedOrigin : Bool) :
    (fullOrders n fixedOrigin).Pairwise (· < ·) := by
  rw [fullOrders]
  split
  · refine List.Pairwise.map _ (fun _ _ less => List.cons_lt_cons_self.mpr less) ?_
    exact generatePermutations_sorted List.pairwise_lt_range'
  · exact generatePermutations_sorted List.pairwise_lt_range

variable (waypoints : List Waypoint) (distancesMeters durationsSeconds : EntryMatrix)

/-- What the search compares: the total duration, the total distance and the joined ids
of an order, the first that differs deciding. -/
def triple (order : List Nat) : Rat ×ₗ Rat ×ₗ List Nat :=
  toLex (sumLegs durationsSeconds order, toLex (sumLegs distancesMeters order,
    codeUnits (joinedIds waypoints order)))

variable {waypoints distancesMeters durationsSeconds}

/-- A tour is better when its triple is smaller. -/
theorem isBetter_iff {current best : List Nat} :
    isBetter waypoints (measure distancesMeters durationsSeconds current)
        (measure distancesMeters durationsSeconds best) = true ↔
      triple waypoints distancesMeters durationsSeconds current <
        triple waypoints distancesMeters durationsSeconds best := by
  simp only [isBetter, triple, measure, Prod.Lex.toLex_lt_toLex]
  by_cases quicker : sumLegs durationsSeconds current < sumLegs durationsSeconds best
  · simp [quicker]
  by_cases nearer : sumLegs durationsSeconds current = sumLegs durationsSeconds best ∧
      sumLegs distancesMeters current < sumLegs distancesMeters best
  · simp [nearer]
  by_cases same : sumLegs durationsSeconds current = sumLegs durationsSeconds best ∧
      sumLegs distancesMeters current = sumLegs distancesMeters best
  · simp only [same, lt_irrefl, and_false, false_or, true_and, if_false, if_true,
      and_self]
    exact decide_eq_true_iff
  · simp only [quicker, nearer, same, if_false, Bool.false_eq_true, false_iff]
    tauto

/-- The loop keeps the first least order. -/
theorem foldl_keepBetter (orders : List (List Nat)) (best : Option (List Nat)) :
    orders.foldl (keepBetter waypoints distancesMeters durationsSeconds)
        (best.map (measure distancesMeters durationsSeconds)) =
      (orders.foldl (List.argAux fun current best =>
          triple waypoints distancesMeters durationsSeconds current <
            triple waypoints distancesMeters durationsSeconds best) best).map
        (measure distancesMeters durationsSeconds) := by
  induction orders generalizing best with
  | nil => rfl
  | cons order orders inductionHypothesis =>
      rw [List.foldl_cons, List.foldl_cons, ← inductionHypothesis]
      congr 1
      cases best with
      | none => rfl
      | some best =>
          simp only [keepBetter, Option.map_some, List.argAux, isBetter_iff]
          split <;> rfl

/-- The search finds the first order whose triple is least. -/
theorem search_eq_argmin (fixedOrigin : Bool) :
    search waypoints distancesMeters durationsSeconds fixedOrigin =
      ((fullOrders waypoints.length fixedOrigin).argmin
        (triple waypoints distancesMeters durationsSeconds)).map
        (measure distancesMeters durationsSeconds) :=
  foldl_keepBetter _ none

/-- The search ends with the least order of the enumeration, the earlier one of two that
measure the same. -/
theorem search_minimal (waypoints : List Waypoint) (distancesMeters durationsSeconds : EntryMatrix)
    (fixedOrigin : Bool) (occupied : 0 < waypoints.length) :
    ∃ order, search waypoints distancesMeters durationsSeconds fixedOrigin =
        some (measure distancesMeters durationsSeconds order) ∧
      Admissible waypoints.length fixedOrigin order ∧
      ∀ other, Admissible waypoints.length fixedOrigin other →
        toLex (triple waypoints distancesMeters durationsSeconds order, order) ≤
          toLex (triple waypoints distancesMeters durationsSeconds other, other) := by
  rw [search_eq_argmin]
  cases found : (fullOrders waypoints.length fixedOrigin).argmin
      (triple waypoints distancesMeters durationsSeconds) with
  | none =>
      have admissible : Admissible waypoints.length fixedOrigin (List.range waypoints.length) :=
        ⟨.refl _, fun _ => by simp [List.head?_range]⟩
      rw [← mem_fullOrders occupied, List.argmin_eq_none.mp found] at admissible
      cases admissible
  | some order =>
      refine ⟨order, rfl, (mem_fullOrders occupied).mp (List.argmin_mem found), ?_⟩
      intro other admissible
      exact argmin_le_of_sorted (fullOrders_sorted _ _) found
        ((mem_fullOrders occupied).mpr admissible)

end ExhaustivePermutation

open ExhaustivePermutation

/-- For every number of waypoints, all matrices and both values of `fixedOrigin`: the
returned order visits every waypoint, from the first one if that is fixed, no such order
compares smaller, and the totals are the rounded sums of its legs. -/
theorem exhaustive_optimal (waypoints : List Waypoint)
    (distancesMeters durationsSeconds : EntryMatrix) (fixedOrigin : Bool) :
    ∃ order, Admissible waypoints.length fixedOrigin order ∧
      (∀ other, Admissible waypoints.length fixedOrigin other →
        ¬triple waypoints distancesMeters durationsSeconds other <
          triple waypoints distancesMeters durationsSeconds order) ∧
      solveExhaustivePermutation waypoints distancesMeters durationsSeconds fixedOrigin =
        { orderedWaypoints := waypointsIn waypoints order
          totalDistanceM := mathRound (sumLegs distancesMeters order * 100) / 100
          estimatedDurationS := mathRound (sumLegs durationsSeconds order)
          algorithm := .exhaustivePermutation
          sequenceMap := sequenceMap (waypointsIn waypoints order) } := by
  rw [solveExhaustivePermutation]
  split
  · rename_i few
    have alone : ∀ order : List Nat, order.Perm (List.range waypoints.length) →
        order = List.range waypoints.length := by
      intro order visits
      rcases Nat.le_one_iff_eq_zero_or_eq_one.mp few with none | one
      · simpa [none] using visits
      · simpa [one, List.range_succ] using visits
    have noLegs : legs (List.range waypoints.length) = [] := by
      rcases Nat.le_one_iff_eq_zero_or_eq_one.mp few with none | one
      · rw [none]
        rfl
      · rw [one]
        rfl
    refine ⟨List.range waypoints.length, ⟨.refl _, fun _ => by simp [List.head?_range]⟩, ?_, ?_⟩
    · intro other visits smaller
      rw [alone other visits.1] at smaller
      exact lt_irrefl _ smaller
    · simp [sumLegs, noLegs, waypointsIn_range, mathRound_zero]
  · rename_i several
    obtain ⟨order, found, admissible, minimal⟩ := search_minimal waypoints distancesMeters
      durationsSeconds fixedOrigin (by omega)
    refine ⟨order, admissible, fun other visits smaller => ?_, by rw [found]; rfl⟩
    rcases Prod.Lex.toLex_le_toLex.mp (minimal other visits) with less | same
    · exact lt_asymm less smaller
    · exact smaller.ne same.1.symm

end Armada
