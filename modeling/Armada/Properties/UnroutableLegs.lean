import Armada.Properties.OptimalRoute
import Armada.Properties.TwoOptDescent

/-!
# Legs without a route

Null counts as 0 in every sum and comparison, so both optimisers take a leg without a
route for the shortest one. Which null legs lose nevertheless is stated on the matrices:
for the exhaustive search by comparing orders, for the construction at every step of the
tour that avoids null legs where it can.
-/

namespace Armada

open Collections

section Moves

variable {α : Type} {holds : List α → α → Prop} {start whole : List α}

/-- Every element that a list appends to a start is appended as required. -/
def AllMoves (holds : List α → α → Prop) (start whole : List α) : Prop :=
  ∀ seen next, start <+: seen → seen ++ [next] <+: whole → holds seen next

/-- No moves. -/
theorem AllMoves.refl : AllMoves holds start start := by
  intro seen next extended moved
  have short := moved.length_le
  have long := extended.length_le
  rw [List.length_append, List.length_singleton] at short
  omega

/-- One move more. -/
theorem allMoves_step {first : α} (moved : start ++ [first] <+: whole) :
    AllMoves holds start whole ↔ holds start first ∧ AllMoves holds (start ++ [first]) whole := by
  constructor
  · intro all
    exact ⟨all start first (List.prefix_refl _) moved, fun seen next extended =>
      all seen next ((List.prefix_append _ _).trans extended)⟩
  · rintro ⟨atStart, later⟩ seen next extended moves
    rcases Nat.lt_or_ge start.length seen.length with longer | same
    · refine later seen next ?_ moves
      exact List.prefix_of_prefix_length_le moved ((List.prefix_append _ _).trans moves)
        (by rwa [List.length_append, List.length_singleton])
    · obtain rfl := extended.eq_of_length_le same
      have ends := List.prefix_of_prefix_length_le moved moves (by simp)
      obtain rfl : first = next := by simpa using ends.eq_of_length (by simp)
      exact atStart

end Moves

/-- An order without a leg that has no route. -/
def NullFree (entries : EntryMatrix) (order : List Nat) : Prop :=
  ∀ leg ∈ legs order, entries leg.1 leg.2 ≠ .null

namespace NearestNeighbor2Opt

variable {waypoints : List Waypoint} {distancesMeters durationsSeconds : EntryMatrix}
  {lastNode : Nat}

/-- A number leads from a waypoint to another one. -/
def Reaches (durationsSeconds : EntryMatrix) (lastNode i : Nat) : Prop :=
  durationsSeconds lastNode i ≠ .null

instance (i : Nat) : Decidable (Reaches durationsSeconds lastNode i) :=
  inferInstanceAs (Decidable (_ ≠ _))

/-- The null legs to some waypoints lose against a number: there is none of them, a number
is negative, or a 0 comes before them all. -/
def NullsLose (durationsSeconds : EntryMatrix) (lastNode : Nat) (indices : List Nat) : Prop :=
  (∀ i ∈ indices, Reaches durationsSeconds lastNode i) ∨
    ∃ j ∈ indices, Reaches durationsSeconds lastNode j ∧
      ((durationsSeconds lastNode j).toNumber < 0 ∨
        (durationsSeconds lastNode j).toNumber = 0 ∧
          ∀ i ∈ indices, ¬Reaches durationsSeconds lastNode i → j < i)

/-- The inner loop over a list of waypoints. -/
def scan (waypoints : List Waypoint) (distancesMeters durationsSeconds : EntryMatrix)
    (lastNode : Nat) (indices : List Nat) : Option Nearest :=
  indices.foldl (consider waypoints distancesMeters durationsSeconds lastNode) none

/-- A scan of one more index considers it last. -/
theorem scan_append (indices : List Nat) (i : Nat) :
    scan waypoints distancesMeters durationsSeconds lastNode (indices ++ [i]) =
      consider waypoints distancesMeters durationsSeconds lastNode
        (scan waypoints distancesMeters durationsSeconds lastNode indices) i := by
  simp [scan]

/-- A lower cost is better. -/
theorem isBetter_of_lt {candidate nearest : Nearest}
    (lower : candidate.minCost.toNumber < nearest.minCost.toNumber) :
    isBetter waypoints candidate nearest = true := by
  rw [isBetter, if_pos lower]

/-- What is better is not higher. -/
theorem le_of_isBetter {candidate nearest : Nearest}
    (better : isBetter waypoints candidate nearest = true) :
    candidate.minCost.toNumber ≤ nearest.minCost.toNumber := by
  rw [isBetter] at better
  split_ifs at better with lower nearer same
  · exact lower.le
  · rw [nearer.1]
  · rw [same.1]

/-- What one round may do: take the new leg or keep the held one. -/
theorem consider_cases {nearest : Option Nearest} {i : Nat} {held : Nearest}
    (considered : consider waypoints distancesMeters durationsSeconds lastNode nearest i =
      some held) :
    (nearest = none ∧ held = leg distancesMeters durationsSeconds lastNode i) ∨
      (∃ earlier, nearest = some earlier ∧
        isBetter waypoints (leg distancesMeters durationsSeconds lastNode i) earlier = true ∧
        held = leg distancesMeters durationsSeconds lastNode i) ∨
      (nearest = some held ∧
        isBetter waypoints (leg distancesMeters durationsSeconds lastNode i) held = false) := by
  cases nearest with
  | none => exact .inl ⟨rfl, (Option.some.inj considered).symm⟩
  | some earlier =>
      rw [consider] at considered
      split at considered
      · rename_i better
        exact .inr (.inl ⟨earlier, rfl, better, (Option.some.inj considered).symm⟩)
      · rename_i worse
        obtain rfl := Option.some.inj considered
        exact .inr (.inr ⟨rfl, by simpa using worse⟩)

/-- A scan finds nothing only when there is nothing. -/
theorem scan_eq_none {indices : List Nat} :
    scan waypoints distancesMeters durationsSeconds lastNode indices = none ↔ indices = [] := by
  rw [scan, foldl_consider, List.foldl_argAux_eq_none]
  simp

/-- What the loop holds has a least duration, nulls counted as 0. -/
theorem scan_le {indices : List Nat} {held : Nearest}
    (scanned : scan waypoints distancesMeters durationsSeconds lastNode indices = some held)
    {i : Nat} (member : i ∈ indices) :
    held.minCost.toNumber ≤ (durationsSeconds lastNode i).toNumber := by
  induction indices using List.reverseRecOn generalizing held with
  | nil => cases member
  | append_singleton indices last inductionHypothesis =>
      rw [scan_append] at scanned
      rcases consider_cases scanned with ⟨first, rfl⟩ | ⟨earlier, before, better, rfl⟩ |
        ⟨before, worse⟩
      · rw [scan_eq_none.mp first, List.nil_append, List.mem_singleton] at member
        rw [member]
        exact le_rfl
      · rcases List.mem_append.mp member with seen | new
        · exact (le_of_isBetter better).trans (inductionHypothesis before seen)
        · rw [List.mem_singleton.mp new]
          exact le_rfl
      · rcases List.mem_append.mp member with seen | new
        · exact inductionHypothesis before seen
        · rw [List.mem_singleton.mp new]
          refine le_of_not_gt fun lower => ?_
          rw [isBetter_of_lt lower] at worse
          cases worse

/-- What a scan holds is one of the legs. -/
theorem leg_of_scan {indices : List Nat} {held : Nearest}
    (scanned : scan waypoints distancesMeters durationsSeconds lastNode indices = some held) :
    ∃ i ∈ indices, held = leg distancesMeters durationsSeconds lastNode i := by
  rw [scan, foldl_consider] at scanned
  rcases mem_of_mem_foldl_argAux scanned with none | member
  · cases none
  · obtain ⟨i, here, same⟩ := List.mem_map.mp member
    exact ⟨i, here, same.symm⟩

/-- Null is not equal to any number, so between the two only `<` decides. -/
theorem isBetter_of_ne {candidate nearest : Nearest}
    (differ : candidate.minCost ≠ nearest.minCost) :
    isBetter waypoints candidate nearest = true ↔
      candidate.minCost.toNumber < nearest.minCost.toNumber := by
  simp [isBetter, differ]

section Append

variable {indices : List Nat} {last : Nat}

/-- Null legs lose after one more leg that is reached. -/
theorem nullsLose_append_reached (behind : ∀ i ∈ indices, i < last)
    (reached : Reaches durationsSeconds lastNode last) :
    NullsLose durationsSeconds lastNode (indices ++ [last]) ↔
      NullsLose durationsSeconds lastNode indices ∨
        (durationsSeconds lastNode last).toNumber < 0 := by
  constructor
  · rintro (none | ⟨j, member, number, lower⟩)
    · exact .inl (.inl fun i seen => none i (List.mem_append_left _ seen))
    · rcases List.mem_append.mp member with seen | new
      · exact .inl (.inr ⟨j, seen, number, lower.imp_right fun zero =>
          ⟨zero.1, fun i member => zero.2 i (List.mem_append_left _ member)⟩⟩)
      · obtain rfl := List.mem_singleton.mp new
        rcases lower with negative | ⟨_, first⟩
        · exact .inr negative
        · refine .inl (.inl fun i seen => ?_)
          by_contra null
          exact absurd (first i (List.mem_append_left _ seen) null) (behind i seen).asymm
  · rintro ((none | ⟨j, seen, number, lower⟩) | negative)
    · refine .inl fun i member => ?_
      rcases List.mem_append.mp member with seen | new
      · exact none i seen
      · exact List.mem_singleton.mp new ▸ reached
    · refine .inr ⟨j, List.mem_append_left _ seen, number, lower.imp_right fun zero =>
        ⟨zero.1, fun i member null => ?_⟩⟩
      rcases List.mem_append.mp member with seen | new
      · exact zero.2 i seen null
      · exact absurd reached (List.mem_singleton.mp new ▸ null)
    · exact .inr ⟨last, List.mem_append_right _ List.mem_cons_self, reached, .inl negative⟩

/-- They lose after one more null leg when it loses. -/
theorem nullsLose_append_null (behind : ∀ i ∈ indices, i < last)
    (null : ¬Reaches durationsSeconds lastNode last) :
    NullsLose durationsSeconds lastNode (indices ++ [last]) ↔
      NullsLose durationsSeconds lastNode indices ∧
        ∃ j ∈ indices, Reaches durationsSeconds lastNode j ∧
          (durationsSeconds lastNode j).toNumber ≤ 0 := by
  have seenBefore : ∀ j ∈ indices ++ [last], Reaches durationsSeconds lastNode j →
      j ∈ indices := by
    intro j member number
    rcases List.mem_append.mp member with seen | new
    · exact seen
    · exact absurd number (List.mem_singleton.mp new ▸ null)
  constructor
  · rintro (none | ⟨j, member, number, lower⟩)
    · exact absurd (none last (List.mem_append_right _ List.mem_cons_self)) null
    · have seen := seenBefore j member number
      refine ⟨.inr ⟨j, seen, number, lower.imp_right fun zero => ⟨zero.1, fun i member =>
        zero.2 i (List.mem_append_left _ member)⟩⟩, j, seen, number, ?_⟩
      exact lower.elim le_of_lt fun zero => zero.1.le
  · -- a 0 that comes before the null legs so far comes before the last one too
    have before : ∀ j ∈ indices, (∀ i ∈ indices, ¬Reaches durationsSeconds lastNode i → j < i) →
        ∀ i ∈ indices ++ [last], ¬Reaches durationsSeconds lastNode i → j < i := by
      intro j seen first i member nullHere
      rcases List.mem_append.mp member with old | new
      · exact first i old nullHere
      · exact List.mem_singleton.mp new ▸ behind j seen
    rintro ⟨none | ⟨j, seen, number, lower⟩, k, seenToo, numberToo, low⟩
    · refine .inr ⟨k, List.mem_append_left _ seenToo, numberToo, ?_⟩
      rcases lt_or_eq_of_le low with negative | zero
      · exact .inl negative
      · exact .inr ⟨zero, before k seenToo fun i old nullHere => absurd (none i old) nullHere⟩
    · exact .inr ⟨j, List.mem_append_left _ seen, number, lower.imp_right fun zero =>
        ⟨zero.1, before j seen zero.2⟩⟩

/-- What the loop holds is a number exactly if the null legs lose, and then it is what the
loop holds without them. -/
structure Settled (waypoints : List Waypoint) (distancesMeters durationsSeconds : EntryMatrix)
    (lastNode : Nat) (indices : List Nat) (held : Nearest) : Prop where
  number : held.minCost ≠ .null ↔ NullsLose durationsSeconds lastNode indices
  same : held.minCost ≠ .null → scan waypoints distancesMeters durationsSeconds lastNode
    (indices.filter (Reaches durationsSeconds lastNode)) = some held

variable {held : Nearest}

/-- The scan is settled after one more leg that is reached. -/
theorem Settled.append_reached (behind : ∀ i ∈ indices, i < last)
    (reached : Reaches durationsSeconds lastNode last)
    (settled : ∀ earlier, scan waypoints distancesMeters durationsSeconds lastNode indices =
      some earlier → Settled waypoints distancesMeters durationsSeconds lastNode indices earlier)
    (considered : consider waypoints distancesMeters durationsSeconds lastNode
      (scan waypoints distancesMeters durationsSeconds lastNode indices) last = some held) :
    Settled waypoints distancesMeters durationsSeconds lastNode (indices ++ [last]) held := by
  have filtered : (indices ++ [last]).filter (Reaches durationsSeconds lastNode) =
      indices.filter (Reaches durationsSeconds lastNode) ++ [last] := by
    simp [List.filter_append, reached]
  rcases consider_cases considered with ⟨first, rfl⟩ | ⟨earlier, before, better, rfl⟩ |
    ⟨before, worse⟩
  · rw [scan_eq_none] at first
    subst first
    exact ⟨iff_of_true reached (.inl (by simpa using reached)), fun _ => by
      rw [filtered]
      exact considered⟩
  · have earlierSettled := settled earlier before
    by_cases number : earlier.minCost = .null
    · -- the new number takes over from a null, so it is negative
      have differ : (leg distancesMeters durationsSeconds lastNode last).minCost ≠
          earlier.minCost := number ▸ reached
      have negative := (isBetter_of_ne differ).mp better
      rw [number] at negative
      refine ⟨iff_of_true reached ((nullsLose_append_reached behind reached).mpr (.inr negative)),
        fun _ => ?_⟩
      rw [filtered, scan_append]
      cases without : scan waypoints distancesMeters durationsSeconds lastNode
          (indices.filter (Reaches durationsSeconds lastNode)) with
      | none => rfl
      | some other =>
          obtain ⟨i, member, rfl⟩ := leg_of_scan without
          have above := scan_le before (List.mem_filter.mp member).1
          rw [number] at above
          rw [consider, isBetter_of_lt (negative.trans_le above)]
          rfl
    · refine ⟨iff_of_true reached ((nullsLose_append_reached behind reached).mpr
        (.inl (earlierSettled.number.mp number))), fun _ => ?_⟩
      rw [filtered, scan_append, earlierSettled.same number, ← before]
      exact considered
  · have earlierSettled := settled held before
    refine ⟨?_, fun number => ?_⟩
    · rw [nullsLose_append_reached behind reached, ← earlierSettled.number, or_iff_left_of_imp]
      intro negative null
      have differ : (leg distancesMeters durationsSeconds lastNode last).minCost ≠
          held.minCost := null ▸ reached
      have better : isBetter waypoints (leg distancesMeters durationsSeconds lastNode last) held =
          true := (isBetter_of_ne differ).mpr (null ▸ negative)
      rw [worse] at better
      cases better
    · rw [before] at considered
      rw [filtered, scan_append, earlierSettled.same number]
      exact considered

/-- It is settled after one more null leg. -/
theorem Settled.append_null (behind : ∀ i ∈ indices, i < last)
    (null : ¬Reaches durationsSeconds lastNode last)
    (settled : ∀ earlier, scan waypoints distancesMeters durationsSeconds lastNode indices =
      some earlier → Settled waypoints distancesMeters durationsSeconds lastNode indices earlier)
    (considered : consider waypoints distancesMeters durationsSeconds lastNode
      (scan waypoints distancesMeters durationsSeconds lastNode indices) last = some held) :
    Settled waypoints distancesMeters durationsSeconds lastNode (indices ++ [last]) held := by
  have filtered : (indices ++ [last]).filter (Reaches durationsSeconds lastNode) =
      indices.filter (Reaches durationsSeconds lastNode) := by
    simp [List.filter_append, null]
  have isNull : (leg distancesMeters durationsSeconds lastNode last).minCost = .null :=
    not_not.mp null
  rcases consider_cases considered with ⟨first, rfl⟩ | ⟨earlier, before, better, rfl⟩ |
    ⟨before, worse⟩
  · rw [scan_eq_none] at first
    subst first
    refine ⟨iff_of_false (not_not.mpr isNull) ?_, fun number => absurd isNull number⟩
    rw [nullsLose_append_null behind null]
    rintro ⟨_, _, seen, _⟩
    cases seen
  · refine ⟨iff_of_false (not_not.mpr isNull) ?_, fun number => absurd isNull number⟩
    rw [nullsLose_append_null behind null, ← (settled earlier before).number]
    rintro ⟨number, j, seen, _, low⟩
    have differ : (leg distancesMeters durationsSeconds lastNode last).minCost ≠
        earlier.minCost := isNull ▸ number.symm
    have positive := (isBetter_of_ne differ).mp better
    rw [isNull] at positive
    exact absurd (positive.trans_le (scan_le before seen)) (not_lt_of_ge low)
  · have earlierSettled := settled held before
    refine ⟨?_, fun number => ?_⟩
    · rw [nullsLose_append_null behind null, ← earlierSettled.number]
      refine ⟨fun number => ⟨number, ?_⟩, And.left⟩
      obtain ⟨j, seen, same⟩ := leg_of_scan before
      have cost : held.minCost = durationsSeconds lastNode j := congrArg Nearest.minCost same
      refine ⟨j, seen, ?_, ?_⟩
      · exact fun null => number (cost.trans null)
      · refine le_of_not_gt fun positive => ?_
        have differ : (leg distancesMeters durationsSeconds lastNode last).minCost ≠
            held.minCost := isNull ▸ number.symm
        have better : isBetter waypoints (leg distancesMeters durationsSeconds lastNode last)
            held = true := (isBetter_of_ne differ).mpr (by rw [isNull, cost]; exact positive)
        rw [worse] at better
        cases better
    · rw [filtered]
      exact earlierSettled.same number

/-- Every scan is settled. -/
theorem settled_of_scan (sorted : indices.Pairwise (· < ·))
    (scanned : scan waypoints distancesMeters durationsSeconds lastNode indices = some held) :
    Settled waypoints distancesMeters durationsSeconds lastNode indices held := by
  induction indices using List.reverseRecOn generalizing held with
  | nil => cases scanned
  | append_singleton indices last inductionHypothesis =>
      obtain ⟨sortedBefore, _, apart⟩ := List.pairwise_append.mp sorted
      have behind : ∀ i ∈ indices, i < last := fun i seen => apart i seen last List.mem_cons_self
      have settled := fun earlier => @inductionHypothesis earlier sortedBefore
      rw [scan_append] at scanned
      by_cases reached : Reaches durationsSeconds lastNode last
      · exact .append_reached behind reached settled scanned
      · exact .append_null behind reached settled scanned

end Append

/-! ## The construction -/

variable (waypoints distancesMeters durationsSeconds)

/-- The waypoints a construction that avoids null legs chooses from: those that a number
reaches, or all if there are none. -/
def choices (tour : List Nat) : List Nat :=
  let reachable := (unvisited waypoints.length tour).filter
    (Reaches durationsSeconds (tour.getLastD 0))
  if reachable = [] then unvisited waypoints.length tour else reachable

/-- The tour that goes to the nearest waypoint, over a null leg only where it has to. -/
def avoiding : Nat → List Nat → List Nat
  | 0, tour => tour
  | remaining + 1, tour =>
      match scan waypoints distancesMeters durationsSeconds (tour.getLastD 0)
          (choices waypoints durationsSeconds tour) with
      | some next => avoiding remaining (tour ++ [next.node])
      | none => tour

/-- A move over a null leg is made only if no number leads anywhere. -/
def MovesWell (tour : List Nat) (next : Nat) : Prop :=
  (∃ other ∈ unvisited waypoints.length tour,
    Reaches durationsSeconds (tour.getLastD 0) other) →
    Reaches durationsSeconds (tour.getLastD 0) next

variable {waypoints distancesMeters durationsSeconds}

/-- There is no choice only when every waypoint is visited. -/
theorem choices_eq_nil {tour : List Nat} :
    choices waypoints durationsSeconds tour = [] ↔ unvisited waypoints.length tour = [] := by
  rw [choices]
  split
  · exact Iff.rfl
  · rename_i reachable
    refine iff_of_false reachable fun full => reachable ?_
    rw [full, List.filter_nil]

/-- The unvisited waypoints ascend. -/
theorem unvisited_sorted (n : Nat) (tour : List Nat) : (unvisited n tour).Pairwise (· < ·) :=
  List.pairwise_lt_range.filter _

/-- Where a number leads on, the next move is well made exactly if the null legs lose, and
then it is the move of the avoiding tour. -/
theorem movesWell_iff {tour : List Nat} {next : Nat}
    (nearest : nearestNode waypoints distancesMeters durationsSeconds tour = some next) :
    (MovesWell waypoints durationsSeconds tour next ↔
        ((∃ other ∈ unvisited waypoints.length tour,
          Reaches durationsSeconds (tour.getLastD 0) other) →
          NullsLose durationsSeconds (tour.getLastD 0) (unvisited waypoints.length tour))) ∧
      (MovesWell waypoints durationsSeconds tour next →
        (scan waypoints distancesMeters durationsSeconds (tour.getLastD 0)
          (choices waypoints durationsSeconds tour)).map Nearest.node = some next) := by
  obtain ⟨held, scanned, rfl⟩ := Option.map_eq_some_iff.mp nearest
  have settled := settled_of_scan (unvisited_sorted _ _) scanned
  obtain ⟨i, _, same⟩ := leg_of_scan scanned
  have cost : held.minCost = durationsSeconds (tour.getLastD 0) held.node := by
    rw [same]
    rfl
  have reaches : Reaches durationsSeconds (tour.getLastD 0) held.node ↔ held.minCost ≠ .null := by
    rw [Reaches, cost]
  constructor
  · rw [MovesWell, reaches, settled.number]
  · intro well
    rw [choices]
    split
    · exact congrArg (Option.map Nearest.node) scanned
    · rename_i reachable
      obtain ⟨other, member⟩ := List.exists_mem_of_ne_nil _ reachable
      rw [List.mem_filter] at member
      have number := well ⟨other, member.1, by simpa using member.2⟩
      rw [settled.same (reaches.mp number)]
      rfl

/-- The tour that avoids null legs extends the one it begins with. -/
theorem prefix_avoiding (remaining : Nat) (tour : List Nat) :
    tour <+: avoiding waypoints distancesMeters durationsSeconds remaining tour := by
  induction remaining generalizing tour with
  | zero => exact List.prefix_refl tour
  | succ remaining inductionHypothesis =>
      rw [avoiding]
      split
      · exact (List.prefix_append tour _).trans (inductionHypothesis _)
      · exact List.prefix_refl tour

variable (waypoints durationsSeconds) in
/-- Where a number leads on from a tour, the null legs lose. -/
def NullsLoseAfter (tour : List Nat) : Prop :=
  (∃ other ∈ unvisited waypoints.length tour,
    Reaches durationsSeconds (tour.getLastD 0) other) →
    NullsLose durationsSeconds (tour.getLastD 0) (unvisited waypoints.length tour)

/-- The construction moves well exactly when null legs lose at each of its moves. -/
theorem construct_movesWell_iff (remaining : Nat) (tour : List Nat) :
    AllMoves (MovesWell waypoints durationsSeconds) tour
        (construct waypoints distancesMeters durationsSeconds remaining tour) ↔
      AllMoves (fun seen _ => NullsLoseAfter waypoints durationsSeconds seen) tour
        (avoiding waypoints distancesMeters durationsSeconds remaining tour) := by
  induction remaining generalizing tour with
  | zero => exact iff_of_true .refl .refl
  | succ remaining inductionHypothesis =>
      rw [construct, avoiding]
      cases nearest : nearestNode waypoints distancesMeters durationsSeconds tour with
      | none =>
          rw [scan_eq_none.mpr (choices_eq_nil.mpr (nearestNode_eq_none.mp nearest))]
          exact iff_of_true .refl .refl
      | some next =>
          obtain ⟨well, same⟩ := movesWell_iff nearest
          cases chosen : scan waypoints distancesMeters durationsSeconds (tour.getLastD 0)
              (choices waypoints durationsSeconds tour) with
          | none =>
              have full := choices_eq_nil.mp (scan_eq_none.mp chosen)
              rw [nearestNode_eq_none.mpr full] at nearest
              cases nearest
          | some best =>
              dsimp only
              rw [allMoves_step (prefix_construct _ _), allMoves_step (prefix_avoiding _ _), well]
              refine and_congr_right fun lose => ?_
              have here := same (well.mpr lose)
              rw [chosen] at here
              obtain rfl : best.node = next := Option.some.inj here
              exact inductionHypothesis _

end NearestNeighbor2Opt

namespace ExhaustivePermutation

variable (waypoints : List Waypoint) (distancesMeters durationsSeconds : EntryMatrix)

/-- Some order from the first waypoint has a route for every leg. -/
def Routable : Prop :=
  ∃ order, Admissible waypoints.length true order ∧ NullFree durationsSeconds order

/-- If some order has a route for every leg, so has the order that the search returns. -/
def ReturnsRoutable : Prop :=
  Routable waypoints durationsSeconds → ∀ best,
    search waypoints distancesMeters durationsSeconds true = some best →
      NullFree durationsSeconds best.order

/-- If some order has a route for every leg, then one of them, nulls counted as 0, measures
less than every order with a null leg, or the same and comes first in lexicographic order. -/
def RoutableOrdersWin : Prop :=
  Routable waypoints durationsSeconds → ∃ order,
    Admissible waypoints.length true order ∧ NullFree durationsSeconds order ∧
    ∀ other, Admissible waypoints.length true other → ¬NullFree durationsSeconds other →
      toLex (triple waypoints distancesMeters durationsSeconds order, order) <
        toLex (triple waypoints distancesMeters durationsSeconds other, other)

variable {waypoints distancesMeters durationsSeconds}

/-- The search returns a routable order exactly when routable orders win. -/
theorem returnsRoutable_iff (occupied : 0 < waypoints.length) :
    ReturnsRoutable waypoints distancesMeters durationsSeconds ↔
      RoutableOrdersWin waypoints distancesMeters durationsSeconds := by
  obtain ⟨returned, found, admissible, minimal⟩ :=
    search_minimal waypoints distancesMeters durationsSeconds true occupied
  constructor
  · intro returns routable
    have free := returns routable _ found
    refine ⟨returned, admissible, free, fun other visits null => ?_⟩
    refine lt_of_le_of_ne (minimal other visits) fun same => null ?_
    have one : returned = other := (Prod.ext_iff.mp (toLex.injective same)).2
    exact one ▸ free
  · intro wins routable best searched
    obtain ⟨order, visits, free, less⟩ := wins routable
    rw [found] at searched
    obtain rfl := Option.some.inj searched
    by_contra null
    exact (less returned admissible null).not_ge (minimal order visits)

end ExhaustivePermutation

open ExhaustivePermutation NearestNeighbor2Opt

/-- For every number of waypoints from two and all matrices: the search returns an order
without null legs where there is one, and the construction moves over a null leg only where
no number leads on, exactly if the orders without null legs win against the others with
nulls counted as 0, and null legs lose at every step of the tour that avoids them. -/
theorem null_legs_avoided_iff (waypoints : List Waypoint)
    (distancesMeters durationsSeconds : EntryMatrix) (several : 2 ≤ waypoints.length) :
    (ReturnsRoutable waypoints distancesMeters durationsSeconds ∧
        AllMoves (MovesWell waypoints durationsSeconds) [0]
          (constructed waypoints distancesMeters durationsSeconds)) ↔
      RoutableOrdersWin waypoints distancesMeters durationsSeconds ∧
        AllMoves (fun tour _ => NullsLoseAfter waypoints durationsSeconds tour) [0]
          (avoiding waypoints distancesMeters durationsSeconds (waypoints.length - 1) [0]) := by
  rw [returnsRoutable_iff (by omega), constructed, construct_movesWell_iff]

namespace OneWay

def waypoints : List Waypoint := [⟨"a", 0, 0⟩, ⟨"b", 0, 0⟩, ⟨"c", 0, 0⟩]

/-- No route leads from the first waypoint to the last one, and the second is where the first is. -/
def entries : EntryMatrix := fun i j =>
  if i = 0 then if j = 2 then .null else .number 0
  else if i = 2 then .number 9 else .number 5

/-- The null leg counts as 0 and loses twice: against a number that is 0 too and comes first, and
in an order that is longer as a whole. -/
theorem null_legs_avoided_here : ReturnsRoutable waypoints entries entries ∧
    AllMoves (MovesWell waypoints entries) [0] (constructed waypoints entries entries) := by
  refine (null_legs_avoided_iff waypoints entries entries (by decide)).mpr ⟨?_, ?_⟩
  · intro _
    have two : ∀ order, Admissible waypoints.length true order →
        order = [0, 1, 2] ∨ order = [0, 2, 1] := by
      intro order admissible
      have orders : fullOrders waypoints.length true = [[0, 1, 2], [0, 2, 1]] := by decide +kernel
      rw [← mem_fullOrders (by decide), orders] at admissible
      simpa using admissible
    have free : NullFree entries [0, 1, 2] := by
      simp [NullFree, legs, entries]
    refine ⟨[0, 1, 2], (mem_fullOrders (by decide)).mp (by decide), free, fun other visits null => ?_⟩
    obtain rfl | rfl := two other visits
    · exact absurd free null
    · decide +kernel
  · have tour : avoiding waypoints entries entries (waypoints.length - 1) [0] = [0] ++ [1, 2] := by
      decide +kernel
    have first : [0] ++ [1] <+: [0] ++ [1, 2] := by decide
    have second : ([0] ++ [1]) ++ [2] <+: [0] ++ [1, 2] := by decide
    rw [tour, allMoves_step first, allMoves_step second]
    refine ⟨fun _ => .inr ⟨1, by decide, by decide, .inr ⟨by decide, ?_⟩⟩,
      fun _ => .inl fun i member => ?_, .refl⟩
    · decide +kernel
    · obtain rfl : i = 2 := by
        revert i
        decide
      decide

end OneWay

namespace Unroutable

def waypoints : List Waypoint := [⟨"a", 0, 0⟩, ⟨"b", 0, 0⟩, ⟨"c", 0, 0⟩]

/-- No route leads from the first waypoint to the last one. -/
def entries : EntryMatrix := fun i j =>
  if i = j then .number 0 else if i = 0 ∧ j = 2 then .null else .number 5

/-- Both optimisers go to the last waypoint first, though every other order has routes. -/
theorem null_leg_preferred :
    (∀ i, entries i i ≠ .null) ∧ Routable waypoints entries ∧
      ¬ReturnsRoutable waypoints entries entries ∧
      ¬AllMoves (MovesWell waypoints entries) [0] (constructed waypoints entries entries) := by
  have routable : Routable waypoints entries :=
    ⟨[0, 1, 2], (mem_fullOrders (by decide)).mp (by decide), by simp [NullFree, legs, entries]⟩
  refine ⟨by simp [entries], routable, fun returns => ?_, fun moves => ?_⟩
  · have found : search waypoints entries entries true = some ⟨5, 5, [0, 2, 1]⟩ := by
      decide +kernel
    exact returns routable _ found (0, 2) (by decide) (by decide)
  · have tour : constructed waypoints entries entries = [0, 2, 1] := by decide +kernel
    have first := moves [0] 2 (List.prefix_refl _) (by rw [tour]; decide)
    exact first ⟨1, by decide, by decide⟩ (by decide)

end Unroutable

end Armada
