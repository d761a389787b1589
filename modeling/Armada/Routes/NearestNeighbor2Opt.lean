import Mathlib.Algebra.Order.Floor.Semiring
import Armada.Collections.Search
import Armada.Routes.ExhaustivePermutation

/-!
# Nearest neighbour and 2-opt

`src/modules/routes/utils/nearest-neighbor-2opt.util.ts`: the optimiser for more than
five stops. A tour is built by going to the nearest unvisited waypoint, then improved by
reversing segments for as long as that saves more than a threshold.
-/

namespace Armada

namespace NearestNeighbor2Opt

open Collections

variable (waypoints : List Waypoint) (distancesMeters durationsSeconds : EntryMatrix)

/-! ## Step 1: construction -/

/-- `nearestNode`, `minCost` and `minDist`, once a waypoint has been considered. -/
structure Nearest where
  node : Nat
  minCost : MatrixEntry
  minDist : MatrixEntry
  deriving DecidableEq

/-- The id of a waypoint by its index. -/
def idOf (index : Nat) : String := (waypoints[index]?.map Waypoint.id).getD ""

/-- `===` compares the entries themselves: null equals null and no number. -/
def isBetter (candidate nearest : Nearest) : Bool :=
  if candidate.minCost.toNumber < nearest.minCost.toNumber then true
  else if candidate.minCost = nearest.minCost ∧
      candidate.minDist.toNumber < nearest.minDist.toNumber then true
  else if candidate.minCost = nearest.minCost ∧ candidate.minDist = nearest.minDist then
    codeUnits (idOf waypoints candidate.node) < codeUnits (idOf waypoints nearest.node)
  else false

/-- A leg from the last node, as the construction compares it. -/
def leg (lastNode i : Nat) : Nearest :=
  ⟨i, durationsSeconds lastNode i, distancesMeters lastNode i⟩

/-- One round of the inner loop. Every entry is below the initial `Infinity`. -/
def consider (lastNode : Nat) (nearest : Option Nearest) (i : Nat) : Option Nearest :=
  let candidate := leg distancesMeters durationsSeconds lastNode i
  match nearest with
  | none => some candidate
  | some nearest => if isBetter waypoints candidate nearest then some candidate else some nearest

/-- The waypoints that a tour has not visited, in order. -/
def unvisited (n : Nat) (tour : List Nat) : List Nat :=
  (List.range n).filter (· ∉ tour)

/-- The nearest node that has not been visited. -/
def nearestNode (tour : List Nat) : Option Nat :=
  ((unvisited waypoints.length tour).foldl
    (consider waypoints distancesMeters durationsSeconds (tour.getLastD 0)) none).map Nearest.node

/-- The outer loop, as long as it has waypoints to add. -/
def construct : Nat → List Nat → List Nat
  | 0, tour => tour
  | remaining + 1, tour =>
      match nearestNode waypoints distancesMeters durationsSeconds tour with
      | some next => construct remaining (tour ++ [next])
      | none => tour

/-- The tour starts at index 0, whether or not the origin is fixed. -/
def constructed : List Nat :=
  construct waypoints distancesMeters durationsSeconds (waypoints.length - 1) [0]

/-! ## Step 2: improvement -/

/-- Reverses the segment from `i` to `j`. -/
def perform2OptSwap (route : List Nat) (i j : Nat) : List Nat :=
  route.take i ++ ((route.drop i).take (j + 1 - i)).reverse ++ route.drop (j + 1)

/-- A tour, and the sums of it that the descent compares. -/
structure TourState where
  currentTour : List Nat
  currentCost : Rat
  currentDistance : Rat
  deriving DecidableEq

/-- The sums of a tour. -/
def tourState (tour : List Nat) : TourState where
  currentTour := tour
  currentCost := sumLegs durationsSeconds tour
  currentDistance := sumLegs distancesMeters tour

/-- The body of the two inner loops. -/
def trySwap (improvementThreshold : Rat) (current : TourState) (i j : Nat) : Option TourState :=
  let candidate := tourState distancesMeters durationsSeconds
    (perform2OptSwap current.currentTour i j)
  if improvementThreshold < current.currentCost - candidate.currentCost then some candidate
  else none

/-- One round of the outer loop: the first swap of the two inner loops that saves more than
the threshold. -/
def firstImprovement (n startIdx : Nat) (improvementThreshold : Rat) (current : TourState) :
    Option TourState :=
  (List.range' startIdx (n - 1 - startIdx)).findSome? fun i =>
    (List.range' (i + 1) (n - (i + 1))).findSome? fun j =>
      trySwap distancesMeters durationsSeconds improvementThreshold current i j

/-- The default of the parameter. -/
def defaultMaxIterations : Rat := 100

@[inherit_doc defaultMaxIterations]
def defaultImprovementThreshold : Rat := 1 / 1000

/-- `iteration < maxIterations` lets a round begin as often as the rounded-up number says. -/
def improve (n startIdx : Nat) (maxIterations improvementThreshold : Rat) :
    TourState → TourState :=
  descend (firstImprovement distancesMeters durationsSeconds n startIdx improvementThreshold)
    ⌈maxIterations⌉₊

end NearestNeighbor2Opt

open NearestNeighbor2Opt in
/-- `solveNearestNeighbor2Opt`: the construction, then the descent. -/
def solveNearestNeighbor2Opt (waypoints : List Waypoint)
    (distancesMeters durationsSeconds : EntryMatrix) (fixedOrigin : Bool)
    (maxIterations improvementThreshold : Rat) : OptimizationSolution :=
  if waypoints.length ≤ 1 then
    { orderedWaypoints := waypoints
      totalDistanceM := 0
      estimatedDurationS := 0
      algorithm := .nearestNeighbor2opt
      sequenceMap := sequenceMap waypoints }
  else
    let tour := constructed waypoints distancesMeters durationsSeconds
    let startIdx := if fixedOrigin then 1 else 0
    let final := improve distancesMeters durationsSeconds waypoints.length startIdx maxIterations
      improvementThreshold (tourState distancesMeters durationsSeconds tour)
    let orderedWaypoints := waypointsIn waypoints final.currentTour
    { orderedWaypoints
      totalDistanceM := mathRound (final.currentDistance * 100) / 100
      estimatedDurationS := mathRound final.currentCost
      algorithm := .nearestNeighbor2opt
      sequenceMap := sequenceMap orderedWaypoints }

end Armada
