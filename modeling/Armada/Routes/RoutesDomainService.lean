import Mathlib.Data.List.Dedup
import Armada.Idempotency
import Armada.Deliveries.DeliveriesService

/-!
# RoutesDomainService

`src/modules/routes/services/routes-domain.service.ts`: the two operations that
make a new route version. Both check a snapshot of the delivery and its stops,
then lock the delivery row and allocate the next version under that lock. Two
queries show the newest version and all of them.
-/

namespace Armada

open Concurrency

/-- Who asks for a route. -/
structure RouteActor where
  userId : Uuid
  role : Role
  driverId : Option Uuid := none
  deriving DecidableEq

/-- The actor of an event. -/
def RouteActor.realtime (actor : RouteActor) : RealtimeActor :=
  ⟨actor.userId, actor.role, actor.driverId⟩

/-- The body of a selection. -/
structure SelectRouteDto where
  source : RouteSource
  recommendedSequence : List Uuid
  totalDistanceMeters : Rat
  estimatedDurationSeconds : Rat
  idempotencyKey : Option Uuid := none
  deriving DecidableEq

/-- A stop and its new place. -/
structure StopSequenceItemDto where
  deliveryStopId : Uuid
  sequence : Int
  deriving DecidableEq

/-- The body of a reordering. -/
structure ManualReorderDto where
  stopSequence : List StopSequenceItemDto
  idempotencyKey : Option Uuid := none
  deriving DecidableEq

namespace RoutesDomainService

open DeliveriesService (conflict forbidden)

/-- The endpoint of a selection, as the records name it. -/
def selectEndpoint : String := "/v1/deliveries/:id/routes/select"

/-- The endpoint of a reordering, as the records name it. -/
def reorderEndpoint : String := "/v1/deliveries/:id/routes/reorder"

/-- Any known request error counts as a clash here, whatever its code. -/
def isUniqueConstraintError : Exception → Bool
  | .prisma (.knownRequest _) => true
  | _ => false

/-- An answer with the status 422. -/
def unprocessable (code message : String) : Exception :=
  .http ⟨.unprocessableEntity, code, message, none⟩

/-- A delivery that has ended takes no route. -/
def ensureDeliveryOperational (status : DeliveryStatus) : Proc store Unit :=
  Proc.rejectIf (status ∈ terminalDeliveryStatuses)
    (conflict "INVALID_DELIVERY_STATE"
      s!"Cannot mutate route while delivery is in terminal state {status.name}")

/-- `verifyDeliveryAccess`: the delivery with its stops, for its driver, its creator and
administrators. -/
def verifyDeliveryAccess (deliveryId : IdText) (actor : RouteActor) :
    Proc store (Delivery × List DeliveryStop) := do
  let found ← Prisma.Delivery.findWithStops deliveryId
  let delivery ← Proc.require found
    (.http ⟨.notFound, "DELIVERY_NOT_FOUND", s!"Delivery with ID {deliveryId} not found", none⟩)
  Proc.rejectIf
    (actor.role = .driver ∧ (actor.driverId = none ∨ delivery.1.driverId ≠ actor.driverId))
    (forbidden "You are not assigned to this delivery")
  Proc.rejectIf (actor.role = .owner ∧ delivery.1.createdBy ≠ actor.userId)
    (forbidden "You are not authorized to access this delivery")
  return delivery

/-- Five mutations of a delivery a minute. -/
def enforceRouteRateLimit (deliveryId : IdText) : Proc store Unit := do
  let rateCount ← RedisService.incrRateLimit s!"throttle:route:delivery:{deliveryId}" 60
  Proc.rejectIf (5 < rateCount)
    (.http ⟨.tooManyRequests, "ROUTE_RATE_LIMIT_EXCEEDED",
      "Route optimization rate limit exceeded (Max 5 req/min per delivery).", none⟩)

/-- Every submitted stop belongs to the delivery. -/
def requireKnownStops (deliveryId : IdText) (deliveryStopIds submitted : List Uuid) :
    Proc store Unit :=
  match submitted.find? fun stopId => stopId ∉ deliveryStopIds with
  | some stopId =>
      throw (unprocessable "INVALID_STOP_ID"
        s!"Stop ID {stopId} does not belong to delivery {deliveryId}")
  | none => return ()

/-- `hasExactIds`: as sets, with the sizes compared. -/
def hasExactIds (expected submitted : List Uuid) : Bool :=
  0 < expected.dedup.length && submitted.length = expected.dedup.length &&
    submitted.dedup.length = expected.dedup.length &&
      submitted.all fun stopId => stopId ∈ expected

/-- `contiguous`: sorted, the sequences are 1, 2 and so on. -/
def contiguous (sequences : List Int) : Bool :=
  (sequences.insertionSort (· ≤ ·)).zipIdx.all fun item => item.1 = (item.2 : Int) + 1

/-- `validateCompleteStopSet`: each stop of the delivery once, and places 1 to N. -/
def validateCompleteStopSet (deliveryStopIds submittedStopIds : List Uuid)
    (submittedSequences : Option (List Int)) : Proc store Unit := do
  Proc.rejectIf (hasExactIds deliveryStopIds submittedStopIds = false)
    (unprocessable "INVALID_STOP_SET" "Route must contain every delivery stop exactly once")
  Proc.rejectIf (∃ sequences ∈ submittedSequences, contiguous sequences = false)
    (unprocessable "INVALID_STOP_SEQUENCE"
      "Route stop sequences must be unique and contiguous from 1 to N")

/-- The next version: one more than the highest, or 1. -/
def nextVersion (deliveryId : Uuid) : Txn store Nat := do
  let maxRoute ← Prisma.Route.findMaxVersion deliveryId
  return maxRoute.getD 0 + 1

/-- The part of both transactions that records a route: the version, the stops
with their sequence, and the mode of the delivery. -/
def recordRoute (deliveryId : Uuid) (source : RouteSource) (totalDistanceM : Rat)
    (estimatedDurationS : Rat) (stops : List (Uuid × Int)) (routeMode : RouteMode) :
    Txn store Route := do
  let newVersion ← nextVersion deliveryId
  let newRoute ← Prisma.Route.create deliveryId newVersion source totalDistanceM estimatedDurationS
  Prisma.RouteStop.createMany <| stops.map fun stop =>
    { routeId := newRoute.id, deliveryStopId := stop.1, sequence := stop.2 }
  let _ ← Prisma.Delivery.update deliveryId fun _ => { routeMode := some routeMode }
  return newRoute

/-- The key of a record, if the request has one. -/
def recordKey (endpoint : String) (actor : RouteActor) (idempotencyKey : Option Uuid) :
    Option IdempotencyKey :=
  idempotencyKey.map fun key => ⟨key, actor.userId, endpoint⟩

/-- The stops of a selected route, numbered from 1. -/
def numbered (stopIds : List Uuid) : List (Uuid × Int) :=
  stopIds.zipIdx.map fun item => (item.1, (item.2 : Int) + 1)

/-- The transaction of `selectRoute`. -/
def claimSelection (deliveryId : Uuid) (dto : SelectRouteDto) (actor : RouteActor) :
    Txn store ResponseBody := do
  let key := recordKey selectEndpoint actor dto.idempotencyKey
  Prisma.Delivery.selectForUpdate deliveryId
  Idempotency.claim key
  let newRoute ← recordRoute deliveryId dto.source dto.totalDistanceMeters
    dto.estimatedDurationSeconds (numbered dto.recommendedSequence)
    (if dto.source = .manual then .manual else .recommended2opt)
  let result := ResponseBody.route newRoute.id newRoute.deliveryId newRoute.version
    newRoute.source newRoute.selectedAt
  Idempotency.settle key 201 result
  return result

/-- One pass of updates over the submitted stops. -/
def updateSequences (sign : Int) : List StopSequenceItemDto → Txn store Unit
  | [] => return ()
  | item :: items => do
      let _ ← Prisma.DeliveryStop.updateSequence item.deliveryStopId (sign * item.sequence)
      updateSequences sign items

/-- The transaction of `reorderStops`. -/
def claimReorder (deliveryId : IdText) (dto : ManualReorderDto) (actor : RouteActor) :
    Txn store ResponseBody := do
  let key := recordKey reorderEndpoint actor dto.idempotencyKey
  Prisma.Delivery.selectForUpdate deliveryId
  Idempotency.claim key
  -- negative sequences first, so that no update meets the unique index
  updateSequences (-1) dto.stopSequence
  updateSequences 1 dto.stopSequence
  let newRoute ← recordRoute deliveryId .manual 0 0
    (dto.stopSequence.map fun item => (item.deliveryStopId, item.sequence)) .manual
  let result := ResponseBody.reorder newRoute.id deliveryId newRoute.version newRoute.source
    newRoute.selectedAt
  Idempotency.settle key 200 result
  return result

/-- The event of a new version. -/
def broadcastRouteUpdated (deliveryId : IdText) (routeResult : ResponseBody) (actor : RouteActor) :
    Proc store Unit :=
  match routeResult with
  | .route routeId _ version source _ | .reorder routeId _ version source _ =>
      RealtimeGateway.emit [.delivery deliveryId] (.routeUpdated deliveryId routeId version source)
        actor.realtime
  | _ => return ()

/-- The frame of both operations: access, the operational check, the rate limit
and the replay come first; then the submitted stops are checked against the
snapshot, and the work is done once. -/
def mutateRoute (deliveryId : IdText) (actor : RouteActor) (key : Option IdempotencyKey)
    (submittedStopIds : List Uuid) (submittedSequences : Option (List Int))
    (work : Txn store ResponseBody) : Proc store Reply := do
  let (delivery, stops) ← verifyDeliveryAccess deliveryId actor
  ensureDeliveryOperational delivery.status
  enforceRouteRateLimit deliveryId
  let existing ← Idempotency.stored key
  match existing with
  | some body => return .replayed body
  | none =>
      let deliveryStopIds := stops.map DeliveryStop.id
      requireKnownStops deliveryId deliveryStopIds submittedStopIds
      validateCompleteStopSet deliveryStopIds submittedStopIds submittedSequences
      let reply ← Idempotency.transactOnce key isUniqueConstraintError work
      match reply with
      | .replayed body => return .replayed body
      | .fresh routeResult =>
          broadcastRouteUpdated deliveryId routeResult actor
          return .fresh routeResult

/-- `selectRoute`. -/
def selectRoute (deliveryId : IdText) (dto : SelectRouteDto) (actor : RouteActor) :
    Proc store Reply :=
  mutateRoute deliveryId actor (recordKey selectEndpoint actor dto.idempotencyKey)
    dto.recommendedSequence none (claimSelection deliveryId dto actor)

/-- `reorderStops`. -/
def reorderStops (deliveryId : IdText) (dto : ManualReorderDto) (actor : RouteActor) :
    Proc store Reply :=
  mutateRoute deliveryId actor (recordKey reorderEndpoint actor dto.idempotencyKey)
    (dto.stopSequence.map StopSequenceItemDto.deliveryStopId)
    (some (dto.stopSequence.map StopSequenceItemDto.sequence))
    (claimReorder deliveryId dto actor)

end RoutesDomainService

/-! ## Queries -/

/-- The stops that a route passes. -/
def Db.legsOf (db : Db) (routeId : Uuid) : List RouteStop :=
  db.routeStops.filter fun leg => leg.routeId = routeId

namespace Prisma.Route

/-- The routes of a delivery, ordered by version, descending. -/
def descending (db : Db) (deliveryId : Uuid) : List Armada.Route :=
  (db.routesOf deliveryId).insertionSort fun left right => right.version ≤ left.version

/-- A stop of a route with its `include: { deliveryStop: true }`. -/
def withStop (db : Db) (leg : Armada.RouteStop) :
    Except PrismaError (Armada.RouteStop × Armada.DeliveryStop) :=
  match db.stop? leg.deliveryStopId with
  | some stop => .ok (leg, stop)
  | none => .error .unknownRequest

/-- `findFirst` ordered by version, descending, with the stops in their sequence. -/
def findLatest (deliveryId : Uuid) :
    Statement store (Option (Armada.Route × List (Armada.RouteStop × Armada.DeliveryStop))) :=
  select fun db =>
    match (descending db deliveryId).head? with
    | none => .ok none
    | some route => do
        let routeStops ← ((db.legsOf route.id).insertionSort fun left right =>
          left.sequence ≤ right.sequence).mapM (withStop db)
        .ok (some (route, routeStops))

/-- `findMany` ordered by version, descending. -/
def findVersions (deliveryId : Uuid) : Statement store (List Armada.Route) :=
  select fun db => .ok (descending db deliveryId)

end Prisma.Route

/-- The `source` of an answer is that of the route, or the mode of a delivery without one. -/
inductive RouteOrigin where
  | route (source : RouteSource)
  | delivery (routeMode : RouteMode)
  deriving DecidableEq

/-- A stop of an answer. -/
structure CurrentStop where
  sequence : Int
  deliveryStopId : Uuid
  destinationName : String
  latitude : Rat
  longitude : Rat
  deriving DecidableEq

/-- What `getCurrentRoute` answers. -/
structure CurrentRoute where
  routeId : Option Uuid
  deliveryId : Uuid
  version : Nat
  source : RouteOrigin
  totalDistanceMeters : Rat
  estimatedDurationSeconds : Int
  polylineGeojson : JsValue
  stops : List CurrentStop
  deriving DecidableEq

/-- A version of an answer. -/
structure RouteVersion where
  routeId : Uuid
  version : Nat
  source : RouteSource
  totalDistanceMeters : Rat
  estimatedDurationSeconds : Int
  selectedAt : Instant
  deriving DecidableEq

/-- What `getRouteVersions` answers. -/
structure RouteVersions where
  deliveryId : IdText
  versions : List RouteVersion
  deriving DecidableEq

namespace RoutesDomainService

/-- A stop in the place given. -/
def currentStop (sequence : Int) (stop : DeliveryStop) : CurrentStop where
  sequence := sequence
  deliveryStopId := stop.id
  destinationName := stop.destinationName
  latitude := stop.latitude
  longitude := stop.longitude

/-- The answer without a route: the stops of the delivery in their current sequence. -/
def withoutRoute (delivery : Delivery) (stops : List DeliveryStop) : CurrentRoute where
  routeId := none
  deliveryId := delivery.id
  version := 0
  source := .delivery delivery.routeMode
  totalDistanceMeters := 0
  estimatedDurationSeconds := 0
  polylineGeojson := .undefined
  stops := stops.map fun stop => currentStop stop.sequence stop

/-- The answer for a version that is recorded. -/
def ofLatestRoute (latestRoute : Route) (routeStops : List (RouteStop × DeliveryStop)) :
    CurrentRoute where
  routeId := some latestRoute.id
  deliveryId := latestRoute.deliveryId
  version := latestRoute.version
  source := .route latestRoute.source
  totalDistanceMeters := latestRoute.totalDistanceM
  estimatedDurationSeconds := latestRoute.estimatedDurationS
  -- no code writes the column
  polylineGeojson := .null
  stops := routeStops.map fun leg =>
    { currentStop leg.1.sequence leg.2 with deliveryStopId := leg.1.deliveryStopId }

/-- `getCurrentRoute`: the newest version, or the implicit one of a delivery without routes. -/
def getCurrentRoute (deliveryId : IdText) (actor : RouteActor) : Proc store CurrentRoute := do
  let (delivery, stops) ← verifyDeliveryAccess deliveryId actor
  let latestRoute ← Prisma.Route.findLatest deliveryId
  match latestRoute with
  | none => return withoutRoute delivery stops
  | some (latestRoute, routeStops) => return ofLatestRoute latestRoute routeStops

/-- A version as the list of versions shows it. -/
def routeVersion (route : Route) : RouteVersion where
  routeId := route.id
  version := route.version
  source := route.source
  totalDistanceMeters := route.totalDistanceM
  estimatedDurationSeconds := route.estimatedDurationS
  selectedAt := route.selectedAt

/-- `getRouteVersions`, the newest first. -/
def getRouteVersions (deliveryId : IdText) (actor : RouteActor) : Proc store RouteVersions := do
  let _ ← verifyDeliveryAccess deliveryId actor
  let routes ← Prisma.Route.findVersions deliveryId
  return { deliveryId, versions := routes.map routeVersion }

end RoutesDomainService

/-- The two queries, as what runs beside the requests. -/
inductive RouteQuery where
  | current (deliveryId : IdText) (actor : RouteActor)
  | versions (deliveryId : IdText) (actor : RouteActor)

/-- What the two queries answer. -/
inductive RouteAnswer where
  | current (route : CurrentRoute)
  | versions (routes : RouteVersions)
  deriving DecidableEq

/-- A query as a process. -/
def RouteQuery.proc : RouteQuery → Proc store RouteAnswer
  | .current deliveryId actor =>
      RouteAnswer.current <$> RoutesDomainService.getCurrentRoute deliveryId actor
  | .versions deliveryId actor =>
      RouteAnswer.versions <$> RoutesDomainService.getRouteVersions deliveryId actor

end Armada
