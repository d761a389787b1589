import Armada.Auth.Schema
import Armada.Routes.RouteOptimizerService
import Armada.Routes.RoutesDomainService

/-!
# Recommendations

`recommendRoute` of `routes-domain.service.ts`: the stops of a delivery in the order that
the optimiser returns. It writes nothing.
-/

namespace Armada

open Concurrency
open Auth (UuidSpelling)

/-- A stop in the order recommended. -/
structure RecommendedStop where
  sequence : Nat
  deliveryStopId : String
  destinationName : String
  deriving DecidableEq

/-- What a recommendation answers. -/
structure RecommendedRoute where
  deliveryId : Uuid
  algorithm : Algorithm
  providerUsed : ProviderName
  totalDistanceMeters : Rat
  estimatedDurationSeconds : Rat
  recommendedSequence : List RecommendedStop
  polylineGeojson : JsValue
  deriving DecidableEq

namespace RoutesDomainService

variable [UuidSpelling]

/-- A stop as the optimiser sees it. -/
def waypoint (stop : DeliveryStop) : Waypoint where
  id := UuidSpelling.text stop.id
  latitude := stop.latitude
  longitude := stop.longitude

/-- `recommendedSequence`: the ids of the optimiser with the names of their stops. -/
def recommendedSequence (stops : List DeliveryStop) (sequenceMap : List SequenceItem) :
    List RecommendedStop :=
  sequenceMap.map fun item =>
    let stop := stops.find? fun stop => UuidSpelling.text stop.id = item.deliveryStopId
    { sequence := item.sequence
      deliveryStopId := item.deliveryStopId
      destinationName := (stop.map DeliveryStop.destinationName).getD "" }

/-- The body that `recommendRoute` returns. -/
def recommendedRoute (delivery : Delivery) (stops : List DeliveryStop)
    (optimizationResult : RouteOptimizationResult) : RecommendedRoute where
  deliveryId := delivery.id
  algorithm := optimizationResult.algorithm
  providerUsed := optimizationResult.providerUsed
  totalDistanceMeters := optimizationResult.totalDistanceM
  estimatedDurationSeconds := optimizationResult.estimatedDurationS
  recommendedSequence := recommendedSequence stops optimizationResult.sequenceMap
  polylineGeojson :=
    ((optimizationResult.geometry.map RouteGeometryResult.polylineGeojson).getD .undefined).or .null

/-- `recommendRoute`: the access check, the matrix, the optimizer, the geometry. -/
def recommendRoute (service : RoutingService) (deliveryId : IdText)
    (provider : Option PreferredProvider) (actor : RouteActor) : Proc store RecommendedRoute := do
  let (delivery, stops) ← verifyDeliveryAccess deliveryId actor
  ensureDeliveryOperational delivery.status
  enforceRouteRateLimit deliveryId
  Proc.rejectIf (stops = []) (unprocessable "DELIVERY_NO_STOPS" "Delivery has no stops to optimize")
  let waypoints := stops.map waypoint
  let optimizationResult := RouteOptimizerService.optimizeRoute service waypoints provider true
  return recommendedRoute delivery stops optimizationResult

end RoutesDomainService

end Armada
