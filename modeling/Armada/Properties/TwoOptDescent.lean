import Mathlib.Data.List.Permutation
import Mathlib.Tactic.Linarith
import Armada.Routes.NearestNeighbor2Opt

/-!
# 2-opt improves and stops for a reason

The construction visits every waypoint, a reversed segment visits what it visited before,
and the recorded cost is always that of the recorded tour. What the local search says of
its accepted steps is then said of the durations of tours.
-/

namespace Armada

open Collections

namespace NearestNeighbor2Opt

variable {waypoints : List Waypoint} {distancesMeters durationsSeconds : EntryMatrix}

/-! ## The construction visits every waypoint -/

/-- The unvisited waypoints. -/
@[simp] theorem mem_unvisited {n index : Nat} {tour : List Nat} :
    index ∈ unvisited n tour ↔ index < n ∧ index ∉ tour := by
  simp [unvisited]

/-- The inner loop keeps a running best among the legs to its waypoints. -/
theorem foldl_consider (lastNode : Nat) (indices : List Nat) (nearest : Option Nearest) :
    indices.foldl (consider waypoints distancesMeters durationsSeconds lastNode) nearest =
      (indices.map (leg distancesMeters durationsSeconds lastNode)).foldl
        (List.argAux fun candidate nearest => isBetter waypoints candidate nearest = true)
        nearest := by
  rw [List.foldl_map]
  congr 1
  funext nearest i
  cases nearest with
  | none => rfl
  | some nearest => rfl

/-- The nearest node is unvisited. -/
theorem mem_of_nearestNode {tour : List Nat} {next : Nat}
    (nearest : nearestNode waypoints distancesMeters durationsSeconds tour = some next) :
    next ∈ unvisited waypoints.length tour := by
  obtain ⟨best, found, rfl⟩ := Option.map_eq_some_iff.mp nearest
  rw [foldl_consider] at found
  rcases mem_of_mem_foldl_argAux found with none | member
  · cases none
  · obtain ⟨index, here, rfl⟩ := List.mem_map.mp member
    exact here

/-- There is none when every waypoint is visited. -/
theorem nearestNode_eq_none {tour : List Nat} :
    nearestNode waypoints distancesMeters durationsSeconds tour = none ↔
      unvisited waypoints.length tour = [] := by
  rw [nearestNode, Option.map_eq_none_iff, foldl_consider, List.foldl_argAux_eq_none]
  simp

/-- The tours of the construction: no waypoint twice, none that does not exist. -/
structure Partial (n : Nat) (tour : List Nat) : Prop where
  nodup : tour.Nodup
  bounded : ∀ index ∈ tour, index < n

/-- A partial tour without an unvisited waypoint is a full one. -/
theorem Partial.perm {n : Nat} {tour : List Nat} (part : Partial n tour)
    (full : unvisited n tour = []) : tour.Perm (List.range n) := by
  rw [List.perm_ext_iff_of_nodup part.nodup List.nodup_range]
  intro index
  rw [List.mem_range]
  refine ⟨part.bounded index, fun below => ?_⟩
  by_contra missing
  have member : index ∈ unvisited n tour := mem_unvisited.mpr ⟨below, missing⟩
  rw [full] at member
  cases member

/-- A partial tour is no longer than the full one. -/
theorem Partial.length_le {n : Nat} {tour : List Nat} (part : Partial n tour) :
    tour.length ≤ n := by
  have subset : tour ⊆ List.range n := fun index member =>
    List.mem_range.mpr (part.bounded index member)
  simpa using (part.nodup.subperm subset).length_le

/-- One as long leaves nothing unvisited. -/
theorem Partial.full {n : Nat} {tour : List Nat} (part : Partial n tour)
    (long : n ≤ tour.length) : unvisited n tour = [] := by
  have subset : tour ⊆ List.range n := fun index member =>
    List.mem_range.mpr (part.bounded index member)
  have perm := (part.nodup.subperm subset).perm_of_length_le (by simpa using long)
  rw [unvisited, List.filter_eq_nil_iff]
  intro index member
  simpa using perm.mem_iff.mpr member

/-- An unvisited waypoint may be appended. -/
theorem Partial.append {n next : Nat} {tour : List Nat} (part : Partial n tour)
    (fresh : next ∈ unvisited n tour) : Partial n (tour ++ [next]) where
  nodup := by
    rw [mem_unvisited] at fresh
    rw [← List.concat_eq_append]
    exact part.nodup.concat fresh.2
  bounded index member := by
    rcases List.mem_append.mp member with earlier | last
    · exact part.bounded index earlier
    · rw [List.mem_singleton.mp last]
      exact (mem_unvisited.mp fresh).1

/-- The construction ends with a full tour. -/
theorem Partial.construct {remaining : Nat} {tour : List Nat}
    (part : Partial waypoints.length tour) (enough : waypoints.length ≤ tour.length + remaining) :
    (construct waypoints distancesMeters durationsSeconds remaining tour).Perm
      (List.range waypoints.length) := by
  induction remaining generalizing tour with
  | zero => exact part.perm (part.full enough)
  | succ remaining inductionHypothesis =>
      rw [NearestNeighbor2Opt.construct]
      cases nearest : nearestNode waypoints distancesMeters durationsSeconds tour with
      | none => exact part.perm (nearestNode_eq_none.mp nearest)
      | some next =>
          refine inductionHypothesis (part.append (mem_of_nearestNode nearest)) ?_
          rw [List.length_append, List.length_singleton]
          omega

/-- The constructed tour visits every waypoint once. -/
theorem constructed_perm (occupied : 0 < waypoints.length) :
    (constructed waypoints distancesMeters durationsSeconds).Perm
      (List.range waypoints.length) :=
  Partial.construct ⟨by simp, by simpa using occupied⟩ (by simp; omega)

/-- The construction extends the tour it is given. -/
theorem prefix_construct (remaining : Nat) (tour : List Nat) :
    tour <+: construct waypoints distancesMeters durationsSeconds remaining tour := by
  induction remaining generalizing tour with
  | zero => exact List.prefix_refl tour
  | succ remaining inductionHypothesis =>
      rw [construct]
      split
      · exact (List.prefix_append tour _).trans (inductionHypothesis _)
      · exact List.prefix_refl tour

/-! ## The improvement keeps the books -/

/-- A reversed segment visits what it visited before. -/
theorem perform2OptSwap_perm (route : List Nat) {i j : Nat} (ordered : i ≤ j + 1) :
    (perform2OptSwap route i j).Perm route := by
  have rest : (route.drop i).drop (j + 1 - i) = route.drop (j + 1) := by
    rw [List.drop_drop]
    congr 1
    omega
  have whole : route.take i ++ (route.drop i).take (j + 1 - i) ++ route.drop (j + 1) = route := by
    rw [← rest, List.append_assoc, List.take_append_drop, List.take_append_drop]
  have turned : (perform2OptSwap route i j).Perm
      (route.take i ++ (route.drop i).take (j + 1 - i) ++ route.drop (j + 1)) :=
    ((List.reverse_perm _).append_left _).append_right _
  rwa [whole] at turned

/-- What stands before the segment stays. -/
theorem take_perform2OptSwap {route : List Nat} {i j startIdx : Nat} (start : startIdx ≤ i)
    (bounded : i ≤ route.length) :
    (perform2OptSwap route i j).take startIdx = route.take startIdx := by
  rw [perform2OptSwap, List.append_assoc, List.take_append_of_le_length (by simp; omega),
    List.take_take, Nat.min_eq_left start]

variable {n startIdx : Nat} {improvementThreshold : Rat} {current next : TourState}

/-- When a swap is tried successfully, and what it gives. -/
theorem trySwap_eq_some {i j : Nat} :
    trySwap distancesMeters durationsSeconds improvementThreshold current i j = some next ↔
      next = tourState distancesMeters durationsSeconds (perform2OptSwap current.currentTour i j) ∧
        improvementThreshold < current.currentCost - next.currentCost := by
  rw [trySwap]
  split
  · rename_i saves
    constructor
    · rintro ⟨rfl⟩
      exact ⟨rfl, saves⟩
    · rintro ⟨rfl, _⟩
      rfl
  · rename_i stays
    constructor
    · rintro ⟨⟩
    · rintro ⟨rfl, saves⟩
      exact absurd saves stays

/-- A round takes a swap of the two inner loops. -/
theorem exists_of_firstImprovement
    (taken : firstImprovement distancesMeters durationsSeconds n startIdx improvementThreshold
      current = some next) :
    ∃ i j, startIdx ≤ i ∧ i < j ∧ j < n ∧
      trySwap distancesMeters durationsSeconds improvementThreshold current i j = some next := by
  obtain ⟨i, outer, inner⟩ := List.exists_of_findSome?_eq_some taken
  obtain ⟨j, member, swapped⟩ := List.exists_of_findSome?_eq_some inner
  rw [List.mem_range'_1] at outer member
  exact ⟨i, j, outer.1, by omega, by omega, swapped⟩

/-- A round that declines has tried every swap. -/
theorem firstImprovement_eq_none :
    firstImprovement distancesMeters durationsSeconds n startIdx improvementThreshold current =
        none ↔
      ∀ i j, startIdx ≤ i → i < j → j < n →
        trySwap distancesMeters durationsSeconds improvementThreshold current i j = none := by
  simp only [firstImprovement, List.findSome?_eq_none_iff, List.mem_range'_1]
  constructor
  · intro declined i j start ordered bounded
    exact declined i (by omega) j (by omega)
  · intro declined i outer j inner
    exact declined i j (by omega) (by omega) (by omega)

/-- What every accepted swap keeps: the recorded sums are those of the recorded tour, the
tour visits every waypoint, and it begins as the first one did. -/
structure Booked (distancesMeters durationsSeconds : EntryMatrix) (n startIdx : Nat)
    (origin : List Nat) (state : TourState) : Prop where
  recorded : state = tourState distancesMeters durationsSeconds state.currentTour
  visits : state.currentTour.Perm (List.range n)
  anchored : state.currentTour.take startIdx = origin.take startIdx

/-- An improvement keeps the books. -/
theorem Booked.firstImprovement {origin : List Nat}
    (booked : Booked distancesMeters durationsSeconds n startIdx origin current)
    (taken : firstImprovement distancesMeters durationsSeconds n startIdx improvementThreshold
      current = some next) :
    Booked distancesMeters durationsSeconds n startIdx origin next := by
  obtain ⟨i, j, start, ordered, bounded, swapped⟩ := exists_of_firstImprovement taken
  obtain ⟨rfl, _⟩ := trySwap_eq_some.mp swapped
  have size : current.currentTour.length = n := by simpa using booked.visits.length_eq
  exact ⟨rfl, (perform2OptSwap_perm _ (by omega)).trans booked.visits,
    (take_perform2OptSwap start (by omega)).trans booked.anchored⟩

/-- It lowers the cost by more than the threshold. -/
theorem firstImprovement_lowers
    (taken : firstImprovement distancesMeters durationsSeconds n startIdx improvementThreshold
      current = some next) :
    improvementThreshold < current.currentCost - next.currentCost := by
  obtain ⟨i, j, _, _, _, swapped⟩ := exists_of_firstImprovement taken
  exact (trySwap_eq_some.mp swapped).2

/-- The index from which segments may be reversed. -/
def firstIdx (fixedOrigin : Bool) : Nat := if fixedOrigin then 1 else 0

/-- A number of accepted swaps lead from the constructed tour to another one. -/
def Swaps (waypoints : List Waypoint) (distancesMeters durationsSeconds : EntryMatrix)
    (fixedOrigin : Bool) (improvementThreshold : Rat) (count : Nat) (tour : List Nat) : Prop :=
  Accepted (NearestNeighbor2Opt.firstImprovement distancesMeters durationsSeconds waypoints.length
      (firstIdx fixedOrigin) improvementThreshold) count
    (tourState distancesMeters durationsSeconds
      (constructed waypoints distancesMeters durationsSeconds))
    (tourState distancesMeters durationsSeconds tour)

variable {fixedOrigin : Bool} {count : Nat} {tour : List Nat}

/-- The constructed tour is booked. -/
theorem booked_constructed (occupied : 0 < waypoints.length) :
    Booked distancesMeters durationsSeconds waypoints.length startIdx
      (constructed waypoints distancesMeters durationsSeconds)
      (tourState distancesMeters durationsSeconds
        (constructed waypoints distancesMeters durationsSeconds)) :=
  ⟨rfl, constructed_perm occupied, rfl⟩

/-- So is every tour after it. -/
theorem Swaps.booked (occupied : 0 < waypoints.length)
    (swaps : Swaps waypoints distancesMeters durationsSeconds fixedOrigin improvementThreshold
      count tour) :
    Booked distancesMeters durationsSeconds waypoints.length (firstIdx fixedOrigin)
      (constructed waypoints distancesMeters durationsSeconds)
      (tourState distancesMeters durationsSeconds tour) :=
  swaps.keeps (fun _ _ booked taken => booked.firstImprovement taken)
    (booked_constructed occupied)

/-- Swaps lower the duration by more than their number of thresholds. -/
theorem Swaps.lowers
    (swaps : Swaps waypoints distancesMeters durationsSeconds fixedOrigin improvementThreshold
      count tour) (swapped : 1 ≤ count) :
    count * improvementThreshold <
      sumLegs durationsSeconds (constructed waypoints distancesMeters durationsSeconds) -
        sumLegs durationsSeconds tour := by
  have lowered := Accepted.lowers swaps TourState.currentCost
    (fun _ _ taken => firstImprovement_lowers taken) swapped
  rwa [nsmul_eq_mul] at lowered

/-- There are fewer swaps than tours, whatever the limit on iterations. -/
theorem Swaps.count_lt (occupied : 0 < waypoints.length) (nonneg : 0 ≤ improvementThreshold)
    (swaps : Swaps waypoints distancesMeters durationsSeconds fixedOrigin improvementThreshold
      count tour) :
    count < waypoints.length.factorial := by
  have fewer := Accepted.count_lt swaps TourState.currentTour (sumLegs durationsSeconds)
    (List.range waypoints.length).permutations.toFinset
    (fun _ _ booked taken => Booked.firstImprovement booked taken)
    (fun _ booked => List.mem_toFinset.mpr (List.mem_permutations.mpr booked.visits)) ?_
    (booked_constructed occupied)
  · refine fewer.trans_le ((List.toFinset_card_le _).trans_eq ?_)
    rw [List.length_permutations, List.length_range]
  · intro state next booked taken
    have lower := firstImprovement_lowers taken
    rw [booked.recorded, (booked.firstImprovement taken).recorded] at lower
    exact sub_pos.mp (nonneg.trans_lt lower)

/-- Swaps lower the duration. -/
theorem Swaps.lt (nonneg : 0 ≤ improvementThreshold)
    (swaps : Swaps waypoints distancesMeters durationsSeconds fixedOrigin improvementThreshold
      count tour) (swapped : 1 ≤ count) :
    sumLegs durationsSeconds tour <
      sumLegs durationsSeconds (constructed waypoints distancesMeters durationsSeconds) := by
  have lowered := swaps.lowers swapped
  have positive : 0 ≤ count * improvementThreshold := by positivity
  linarith

/-- They never raise it. -/
theorem Swaps.le (nonneg : 0 ≤ improvementThreshold)
    (swaps : Swaps waypoints distancesMeters durationsSeconds fixedOrigin improvementThreshold
      count tour) :
    sumLegs durationsSeconds tour ≤
      sumLegs durationsSeconds (constructed waypoints distancesMeters durationsSeconds) := by
  rcases Nat.eq_zero_or_pos count with rfl | swapped
  · exact (congrArg TourState.currentCost swaps.eq_of_zero).ge
  · exact (swaps.lt nonneg swapped).le

/-- No reversal of a segment saves more than the threshold. -/
def LocallyOptimal (durationsSeconds : EntryMatrix) (n startIdx : Nat)
    (improvementThreshold : Rat) (tour : List Nat) : Prop :=
  ∀ i j, startIdx ≤ i → i < j → j < n →
    sumLegs durationsSeconds tour - sumLegs durationsSeconds (perform2OptSwap tour i j) ≤
      improvementThreshold

/-- The improvement accepts at most as many swaps as it may, and with fewer its tour is
locally optimal. -/
theorem exists_swaps (waypoints : List Waypoint) (distancesMeters durationsSeconds : EntryMatrix)
    (fixedOrigin : Bool) (maxIterations improvementThreshold : Rat)
    (occupied : 0 < waypoints.length) :
    ∃ count tour,
      Swaps waypoints distancesMeters durationsSeconds fixedOrigin improvementThreshold count tour ∧
      improve distancesMeters durationsSeconds waypoints.length (firstIdx fixedOrigin)
          maxIterations improvementThreshold (tourState distancesMeters durationsSeconds
            (constructed waypoints distancesMeters durationsSeconds)) =
        tourState distancesMeters durationsSeconds tour ∧
      count ≤ ⌈maxIterations⌉₊ ∧
      (count < maxIterations → LocallyOptimal durationsSeconds waypoints.length
        (firstIdx fixedOrigin) improvementThreshold tour) := by
  obtain ⟨count, within, accepted, stopped⟩ := descend_spec
    (firstImprovement distancesMeters durationsSeconds waypoints.length (firstIdx fixedOrigin)
      improvementThreshold) ⌈maxIterations⌉₊
    (tourState distancesMeters durationsSeconds
      (constructed waypoints distancesMeters durationsSeconds))
  rw [← improve] at accepted stopped
  have booked := accepted.keeps (fun _ _ booked taken => Booked.firstImprovement booked taken)
    (booked_constructed occupied)
  rw [booked.recorded] at accepted stopped
  refine ⟨count, _, accepted, booked.recorded, within, ?_⟩
  intro fewer i j start ordered bounded
  have declined := stopped (Nat.lt_ceil.mpr fewer)
  have stays := firstImprovement_eq_none.mp declined i j start ordered bounded
  rw [trySwap, ite_eq_right_iff] at stays
  refine le_of_not_gt fun saves => ?_
  cases stays saves

end NearestNeighbor2Opt

open NearestNeighbor2Opt

/-- For every number of waypoints from two, all matrices, every limit on iterations and
every threshold that is not negative: the search ends with a tour of all waypoints that is
no longer than the nearest-neighbour tour, and as long only without a swap; every number of
accepted swaps has saved more than as many thresholds; and with fewer swaps than allowed the
tour is locally optimal. The limit is never what keeps the search finite. -/
theorem two_opt_descends (waypoints : List Waypoint)
    (distancesMeters durationsSeconds : EntryMatrix) (fixedOrigin : Bool)
    (maxIterations improvementThreshold : Rat) (several : 2 ≤ waypoints.length)
    (nonneg : 0 ≤ improvementThreshold) :
    ∃ count tour,
      Swaps waypoints distancesMeters durationsSeconds fixedOrigin improvementThreshold count tour ∧
      solveNearestNeighbor2Opt waypoints distancesMeters durationsSeconds fixedOrigin maxIterations
          improvementThreshold =
        { orderedWaypoints := waypointsIn waypoints tour
          totalDistanceM := mathRound (sumLegs distancesMeters tour * 100) / 100
          estimatedDurationS := mathRound (sumLegs durationsSeconds tour)
          algorithm := .nearestNeighbor2opt
          sequenceMap := sequenceMap (waypointsIn waypoints tour) } ∧
      tour.Perm (List.range waypoints.length) ∧
      sumLegs durationsSeconds tour ≤
        sumLegs durationsSeconds (constructed waypoints distancesMeters durationsSeconds) ∧
      (sumLegs durationsSeconds tour =
        sumLegs durationsSeconds (constructed waypoints distancesMeters durationsSeconds) →
          count = 0) ∧
      (∀ k reached, 1 ≤ k → Swaps waypoints distancesMeters durationsSeconds fixedOrigin
          improvementThreshold k reached →
        k * improvementThreshold <
          sumLegs durationsSeconds (constructed waypoints distancesMeters durationsSeconds) -
            sumLegs durationsSeconds reached) ∧
      count ≤ ⌈maxIterations⌉₊ ∧
      (count < maxIterations → LocallyOptimal durationsSeconds waypoints.length
        (firstIdx fixedOrigin) improvementThreshold tour) ∧
      count < waypoints.length.factorial := by
  have occupied : 0 < waypoints.length := by omega
  obtain ⟨count, tour, swaps, final, within, optimal⟩ := exists_swaps waypoints distancesMeters
    durationsSeconds fixedOrigin maxIterations improvementThreshold occupied
  refine ⟨count, tour, swaps, ?_, (swaps.booked occupied).visits, swaps.le nonneg, ?_,
    fun k reached swapped swaps => swaps.lowers swapped, within, optimal,
    swaps.count_lt occupied nonneg⟩
  · rw [solveNearestNeighbor2Opt, if_neg (by omega)]
    dsimp only
    rw [show (if fixedOrigin = true then 1 else 0) = firstIdx fixedOrigin from rfl, final]
    rfl
  · intro same
    by_contra nonzero
    exact (swaps.lt nonneg (Nat.pos_of_ne_zero nonzero)).ne same

namespace Detour

def waypoints : List Waypoint := [⟨"a", 0, 0⟩, ⟨"b", 0, 0⟩, ⟨"c", 0, 0⟩, ⟨"d", 0, 0⟩]

/-- Going to the nearest neighbour leaves the long leg for the end. -/
def entries : EntryMatrix := fun i j =>
  .number <| match min i j, max i j with
    | 0, 1 | 1, 2 => 1
    | 0, 2 | 1, 3 => 2
    | 0, 3 => 5
    | 2, 3 => 10
    | _, _ => 0

/-- The heuristic on a small instance. -/
theorem two_opt_descends_here : ∃ tour : List Nat, tour.Perm [0, 1, 2, 3] ∧
    sumLegs entries tour ≤ 12 ∧ LocallyOptimal entries 4 1 defaultImprovementThreshold tour := by
  obtain ⟨count, tour, _, _, visits, shorter, _, _, _, optimal, few⟩ :=
    two_opt_descends waypoints entries entries true defaultMaxIterations
      defaultImprovementThreshold (by decide) (by norm_num [defaultImprovementThreshold])
  have start : sumLegs entries (constructed waypoints entries entries) = 12 := by decide +kernel
  have below : (count : Rat) < 100 := by
    have small : count < 24 := few
    exact_mod_cast small.trans (by decide)
  exact ⟨tour, visits, shorter.trans start.le, optimal below⟩

end Detour

end Armada
