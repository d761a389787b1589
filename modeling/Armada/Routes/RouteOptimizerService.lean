import Armada.Routes.NearestNeighbor2Opt

/-!
# RouteOptimizerService

`src/modules/routes/services/route-optimizer.service.ts` and `routing.service.ts`: the
choice of the provider with its failover, and the choice of the optimiser by the number of
stops. What the providers answer comes from outside; OSRM may throw, the haversine
computation has a matrix for all waypoints.
-/

namespace Armada

/-- The providers that a request may prefer. -/
inductive PreferredProvider where
  | osrm
  | haversine
  deriving DecidableEq

/-- The providers; `none` is a provider that throws. -/
structure RoutingService where
  osrmDistanceMatrix : List Waypoint → Option DistanceMatrixResult
  osrmRouteGeometry : List Waypoint → Option RouteGeometryResult
  haversineDistanceMatrix : List Waypoint → DistanceMatrixResult
  haversineRouteGeometry : List Waypoint → Option RouteGeometryResult

namespace RoutingService

variable (service : RoutingService) (waypoints : List Waypoint)
  (preferredProvider : Option PreferredProvider)

/-- The matrix of OSRM, or the haversine one where that is preferred or OSRM has none. -/
def getDistanceMatrix : DistanceMatrixResult :=
  if preferredProvider = some .haversine then service.haversineDistanceMatrix waypoints
  else (service.osrmDistanceMatrix waypoints).getD (service.haversineDistanceMatrix waypoints)

/-- The geometry, of the provider that has one. -/
def getRouteGeometry : Option RouteGeometryResult :=
  if preferredProvider = some .haversine then service.haversineRouteGeometry waypoints
  else (service.osrmRouteGeometry waypoints).or (service.haversineRouteGeometry waypoints)

end RoutingService

/-- What the optimizer answers, with the provider that was asked. -/
structure RouteOptimizationResult extends OptimizationSolution where
  providerUsed : ProviderName
  geometry : Option RouteGeometryResult
  deriving DecidableEq

namespace RouteOptimizerService

open NearestNeighbor2Opt in
/-- The optimiser for a number of stops. -/
def solve (waypoints : List Waypoint) (matrixResult : DistanceMatrixResult) (fixedOrigin : Bool) :
    OptimizationSolution :=
  if waypoints.length ≤ 5 then
    solveExhaustivePermutation waypoints matrixResult.distancesMeters
      matrixResult.durationsSeconds fixedOrigin
  else
    solveNearestNeighbor2Opt waypoints matrixResult.distancesMeters matrixResult.durationsSeconds
      fixedOrigin defaultMaxIterations defaultImprovementThreshold

/-- Without a geometry the totals of the solution stand. -/
def optimizeRoute (service : RoutingService) (waypoints : List Waypoint)
    (preferredProvider : Option PreferredProvider) (fixedOrigin : Bool) :
    RouteOptimizationResult :=
  if waypoints.length ≤ 1 then
    { orderedWaypoints := waypoints
      totalDistanceM := 0
      estimatedDurationS := 0
      algorithm := .exhaustivePermutation
      sequenceMap := sequenceMap waypoints
      providerUsed := .haversineFallback
      geometry := none }
  else
    let matrixResult := service.getDistanceMatrix waypoints preferredProvider
    let solution := solve waypoints matrixResult fixedOrigin
    let geometry := service.getRouteGeometry solution.orderedWaypoints preferredProvider
    { solution with
      totalDistanceM := (geometry.map RouteGeometryResult.totalDistanceM).getD
        solution.totalDistanceM
      estimatedDurationS := (geometry.map RouteGeometryResult.estimatedDurationS).getD
        solution.estimatedDurationS
      providerUsed := matrixResult.provider
      geometry }

end RouteOptimizerService

end Armada
