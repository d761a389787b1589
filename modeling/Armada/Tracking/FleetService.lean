import Armada.Tracking.TrackingService

/-!
# FleetService

`src/modules/fleet/fleet.service.ts`: the locations of the active drivers, each from the
cache or, where that has none, from the latest valid point, and the points of one driver in a
range of dates.
-/

namespace Armada.Tracking

open Concurrency

/-- The position part of an item of the fleet view. -/
structure FleetLocation where
  latitude : ℚ
  longitude : ℚ
  accuracyM : ℚ
  speedMps : Option ℚ
  headingDeg : Option ℚ
  recordedAt : DateString
  receivedAt : DateString
  deriving DecidableEq

/-- One driver of the fleet view, with the vehicle and the position. -/
structure FleetDriverLocationItem where
  driverId : Uuid
  driverName : String
  employeeCode : String
  operationalStatus : OperationalStatus
  activeVehicleId : Option Uuid
  plateNumber : Option String
  currentDeliveryId : Option IdText
  location : Option FleetLocation
  deriving DecidableEq

/-- The query of the location history, as the client sends it. -/
structure LocationHistoryQueryDto where
  «from» : String
  «to» : Option String := none
  limit : Option Nat := some 100
  offset : Option Nat := some 0

/-- One point of the history answer. -/
structure LocationHistoryPoint where
  id : Uuid
  deliveryId : Option Uuid
  latitude : ℚ
  longitude : ℚ
  accuracyM : ℚ
  speedMps : Option ℚ
  headingDeg : Option ℚ
  recordedAt : DateString
  receivedAt : DateString
  validationStatus : ValidationStatus
  deriving DecidableEq

/-- The page data of the history answer. -/
structure Pagination where
  limit : Nat
  offset : Nat
  total : Nat
  deriving DecidableEq

/-- The history answer. -/
structure LocationHistory where
  driverId : Uuid
  points : List LocationHistoryPoint
  pagination : Pagination
  deriving DecidableEq

variable [DateText]

namespace FleetService

/-- A stored point in the form of a cached location. -/
def ofPoint (driverId : Uuid) (deliveryId : Option IdText) (point : LocationPoint) :
    CachedLocationData where
  driverId := driverId
  deliveryId := deliveryId
  latitude := point.latitude
  longitude := point.longitude
  accuracyM := point.accuracyM
  speedMps := point.speedMps
  headingDeg := point.headingDeg
  recordedAt := .iso point.recordedAt
  receivedAt := .iso point.receivedAt

/-- The position part of an item, from the cached entry. -/
def location (data : CachedLocationData) : FleetLocation where
  latitude := data.latitude
  longitude := data.longitude
  accuracyM := data.accuracyM
  speedMps := data.speedMps
  headingDeg := data.headingDeg
  recordedAt := data.recordedAt
  receivedAt := data.receivedAt

/-- The location of a driver: Redis first, else the database. -/
def locationData (driverId : Uuid) (deliveryId : Option IdText) :
    Proc tracking (Option CachedLocationData) := do
  let cached ← TrackingCacheService.getLatestLocation driverId
  match cached with
  | some data => return some data
  | none => do
      let point ← Prisma.LocationPoint.findLatestValid driverId
      return point.map (ofPoint driverId deliveryId)

/-- `activeDelivery?.id`. -/
def activeDeliveryId (joined : Prisma.Driver.Joined) : Option IdText :=
  joined.delivery.map fun activeDelivery => activeDelivery.id.text

/-- The item of one driver, from the joined row and the cached position. -/
def driverItem (joined : Prisma.Driver.Joined) : Proc tracking FleetDriverLocationItem := do
  let locData ← locationData joined.driver.id (activeDeliveryId joined)
  return {
    driverId := joined.driver.id
    driverName := joined.driver.displayName
    employeeCode := joined.driver.employeeCode
    operationalStatus := joined.driver.operationalStatus
    activeVehicleId := joined.driver.activeVehicleId <|>
      joined.assignment.map VehicleAssignment.vehicleId
    plateNumber := (joined.assignment.map VehicleAssignment.plateNumber).filter (· ≠ "")
    currentDeliveryId := activeDeliveryId joined <|> locData.bind CachedLocationData.deliveryId
    location := locData.map location }

/-- The loop over the drivers. -/
def driverItems :
    List Prisma.Driver.Joined → Proc tracking (List FleetDriverLocationItem)
  | [] => return []
  | joined :: others => do
      let item ← driverItem joined
      let items ← driverItems others
      return item :: items

/-- Lists the active drivers of the actor's organization, or of all for an ADMIN, with
their positions. -/
def getAllActiveDriverLocations (actorRole : Role) (actorOrgId : Option Uuid) :
    Proc tracking (List FleetDriverLocationItem) := do
  Proc.rejectIf (actorRole = .driver)
    (.http ⟨.forbidden, "FLEET_ACCESS_DENIED",
      "Drivers are not authorized to access fleet live location monitoring", none⟩)
  let activeDrivers ← Prisma.Driver.findMany
    (if actorRole = .superAdmin then none else actorOrgId)
  driverItems activeDrivers

/-! ## Location history -/

/-- One point of the history answer, from its row. -/
def historyPoint (pt : LocationPoint) : LocationHistoryPoint where
  id := pt.id
  deliveryId := pt.deliveryId
  latitude := pt.latitude
  longitude := pt.longitude
  accuracyM := pt.accuracyM
  speedMps := pt.speedMps
  headingDeg := pt.headingDeg
  recordedAt := .iso pt.recordedAt
  receivedAt := .iso pt.receivedAt
  validationStatus := pt.validationStatus

/-- `new Date()`. -/
def now : Statement tracking Int where
  locks _ _ := []
  exec input _ := .ok (input.now, [])

/-- The end of the range: an absent or empty text stands for the present. -/
def toDate : Option String → Proc tracking (Option Int)
  | none => some <$> (liftM now : Proc tracking Int)
  | some text =>
      if text = "" then some <$> (liftM now : Proc tracking Int)
      else return DateText.getTime text

/-- The 400 of an invalid date range. -/
def invalidDateRange (message : String) : Failure :=
  .http ⟨.badRequest, "INVALID_DATE_RANGE", message, none⟩

/-- JavaScript's `value || default` on numbers. -/
def orDefault (value : Option Nat) (default : Nat) : Nat :=
  (value.filter (· ≠ 0)).getD default

/-- The range of a query, once its dates are valid. -/
def dateRange (query : LocationHistoryQueryDto) : Proc tracking (Int × Int) := do
  let fromDate := DateText.getTime query.from
  let toDate ← toDate query.«to»
  let fromDate ← Proc.require fromDate
    (invalidDateRange "Query parameter \"from\" must be a valid ISO-8601 timestamp")
  let toDate ← Proc.require toDate
    (invalidDateRange "Query parameter \"to\" must be a valid ISO-8601 timestamp")
  Proc.rejectIf (toDate < fromDate)
    (invalidDateRange "\"from\" timestamp cannot be greater than \"to\" timestamp")
  return (fromDate, toDate)

/-- The points of a driver in the range of a query. -/
def historyOf (targetDriverId : Uuid) (query : LocationHistoryQueryDto) :
    Proc tracking LocationHistory := do
  let (fromDate, toDate) ← dateRange query
  let limit := orDefault query.limit 100
  let offset := orDefault query.offset 0
  let points ← Prisma.LocationPoint.findRange targetDriverId fromDate toDate limit offset
  let totalCount ← Prisma.LocationPoint.countRange targetDriverId fromDate toDate
  return {
    driverId := targetDriverId
    points := points.map historyPoint
    pagination := { limit, offset, total := totalCount } }

/-- The 404 of an unknown driver. -/
def driverNotFound (targetDriverId : Uuid) : Failure :=
  .http ⟨.notFound, "DRIVER_NOT_FOUND",
    s!"Driver with ID {targetDriverId} does not exist", none⟩

/-- The location history of a driver, refused to a DRIVER who asks for another's. -/
def getDriverLocationHistory (targetDriverId : Uuid) (query : LocationHistoryQueryDto)
    (actorRole : Role) (actorDriverId : Option Uuid) : Proc tracking LocationHistory := do
  let targetDriver ← Prisma.Driver.findUnique targetDriverId
  let _ ← Proc.require targetDriver (driverNotFound targetDriverId)
  Proc.rejectIf (actorRole = .driver ∧ actorDriverId ≠ some targetDriverId)
    (.http ⟨.forbidden, "RESOURCE_FORBIDDEN",
      "Drivers are only authorized to view their own location history", none⟩)
  historyOf targetDriverId query

end FleetService

end Armada.Tracking
