import Armada.Auth.Schema
import Armada.Prisma

/-!
# Telemetry: the store

The tables of `prisma/schema.prisma` that telemetry ingestion and fleet monitoring read or
write, the partitioned table `location_points` of the migrations, and the key
`driver:location:latest:<driverId>` of the Redis cache. Numbers are rational: a JavaScript
number that JSON can carry is one.
-/

namespace Armada.Tracking

open Relational Concurrency

/-! ## Dates and numbers -/

/-- How the JavaScript runtime reads a date: `new Date(text).getTime()`, in milliseconds.
There is none where it is `NaN`. -/
class DateText where
  getTime : String → Option Int

/-- A runtime that reads the dates of a table. -/
@[reducible] def tableDates (table : List (String × Int)) : DateText :=
  ⟨fun text => table.lookup text⟩

/-- A date as a string: one that a client has sent, or `toISOString()` of a time. -/
inductive DateString where
  | given (text : String)
  | iso (time : Int)
  deriving DecidableEq

/-- The time of a date: that of its text, or its own. -/
def DateString.getTime [DateText] : DateString → Option Int
  | .given text => DateText.getTime text
  | .iso time => some time

/-- The column of `latitude` and `longitude`. -/
def coordinateColumn : Decimal := ⟨10, 7⟩

/-- The column of `accuracyM`. -/
def accuracyColumn : Decimal := ⟨6, 2⟩

/-- The column of `speedMps`. -/
def speedColumn : Decimal := ⟨6, 2⟩

/-- The column of `heading`. -/
def headingColumn : Decimal := ⟨5, 2⟩

/-! ## Tables -/

/-- The outcome of a point's validation, as it is stored. -/
inductive ValidationStatus where
  | valid
  | anomalyVelocity
  | rejected
  deriving DecidableEq

/-- A row of `location_points`. -/
structure LocationPoint where
  id : Uuid
  driverId : Uuid
  deliveryId : Option Uuid
  latitude : ℚ
  longitude : ℚ
  /-- The point `geom`, longitude first. -/
  geom : ℚ × ℚ
  accuracyM : ℚ
  speedMps : Option ℚ
  headingDeg : Option ℚ
  recordedAt : Int
  receivedAt : Int
  source : String
  validationStatus : ValidationStatus
  deriving DecidableEq

/-- The operational status of a driver. -/
inductive OperationalStatus where
  | offline
  | available
  | onDelivery
  | emergency
  deriving DecidableEq

/-- A driver with the columns of its user that are joined to it. -/
structure Driver where
  id : Uuid
  userId : Uuid
  organizationId : Option Uuid := none
  employeeCode : String := ""
  displayName : String := ""
  activeVehicleId : Option Uuid := none
  operationalStatus : OperationalStatus := .offline
  userStatus : Auth.AccountStatus := .active
  userRole : Role := .driver
  deriving DecidableEq

/-- The status of a vehicle assignment. -/
inductive AssignmentStatus where
  | active
  | completed
  | revoked
  deriving DecidableEq

/-- A vehicle assignment with the plate number of its vehicle. -/
structure VehicleAssignment where
  driverId : Uuid
  vehicleId : Uuid
  plateNumber : String
  status : AssignmentStatus
  deriving DecidableEq

/-- The columns of a delivery that the tracking reads. -/
structure Delivery where
  id : Uuid
  driverId : Option Uuid
  status : DeliveryStatus
  deriving DecidableEq

/-- A stored response as far as a replay looks into it; a body of another request need not
have these fields. -/
structure ResponseBody where
  locationId : Option Uuid
  validationStatus : Option ValidationStatus
  receivedAt : Option Int
  deriving DecidableEq

/-- A row of `idempotency_records`: its key and the stored answer. -/
structure IdempotencyRecord where
  keyUserEndpoint : IdempotencyKey
  responseStatus : Nat
  responseBody : ResponseBody
  expiresAt : Int
  deriving DecidableEq

instance : Keyed LocationPoint (Uuid × Int) := ⟨fun row => (row.id, row.recordedAt)⟩
instance : Keyed Driver Uuid := ⟨Driver.id⟩
instance : Keyed Delivery Uuid := ⟨Delivery.id⟩
instance : Keyed IdempotencyRecord IdempotencyKey := ⟨IdempotencyRecord.keyUserEndpoint⟩

/-! ## The cache -/

/-- The position as it is cached and broadcast. -/
structure CachedLocationData where
  driverId : Uuid
  deliveryId : Option IdText
  latitude : ℚ
  longitude : ℚ
  accuracyM : ℚ
  speedMps : Option ℚ
  headingDeg : Option ℚ
  recordedAt : DateString
  receivedAt : DateString
  deriving DecidableEq

/-- The text under a key: a location that was serialised, or something that does not parse. -/
inductive CachedText where
  | json (location : CachedLocationData)
  | malformed
  deriving DecidableEq

/-- A value that was set `EX ttl`, and the last instant at which it is present. -/
structure CacheEntry where
  text : CachedText
  expiresAt : Int
  deriving DecidableEq

/-! ## Events -/

/-- A Socket.IO emission: its rooms, event and payload. -/
structure Emission where
  room : Room
  event : String
  payload : CachedLocationData
  userId : Option Uuid
  role : Role
  driverId : Uuid
  deriving DecidableEq

/-- The tables, the cached positions and the emissions. -/
structure Db where
  drivers : Table Driver := .empty
  assignments : List VehicleAssignment := []
  deliveries : Table Delivery := .empty
  idempotencyRecords : Table IdempotencyRecord := .empty
  locationPoints : Table LocationPoint := .empty
  /-- The cached latest location of each driver. -/
  latest : Uuid → Option CacheEntry := fun _ => none
  emitted : List Emission := []

namespace Db

/-- The driver of an id. -/
def driver? (db : Db) (id : Uuid) : Option Driver := db.drivers.find? id

/-- The record of a key. -/
def record? (db : Db) (key : IdempotencyKey) : Option IdempotencyRecord :=
  db.idempotencyRecords.find? key

/-- The stored points of a driver that passed validation. -/
def validPoints (db : Db) (driverId : Uuid) : List LocationPoint :=
  db.locationPoints.rows.filter fun row =>
    row.driverId = driverId ∧ row.validationStatus = .valid

/-- The VALID points of a driver are the rows that say so. -/
theorem mem_validPoints {db : Db} {driverId : Uuid} {row : LocationPoint} :
    row ∈ db.validPoints driverId ↔ row ∈ db.locationPoints.rows ∧ row.driverId = driverId ∧
      row.validationStatus = .valid := by
  simp [validPoints]

/-- They depend on the points alone. -/
theorem validPoints_congr {db other : Db} {driverId : Uuid}
    (same : other.locationPoints = db.locationPoints) :
    other.validPoints driverId = db.validPoints driverId := by
  rw [validPoints, validPoints, same]

end Db

/-! ## The signature -/

/-- What a statement commits. -/
inductive Write where
  | insertPoint (row : LocationPoint)
  | createRecord (row : IdempotencyRecord)
  | setLatest (driverId : Uuid) (entry : CacheEntry)
  | emit (emission : Emission)
  deriving DecidableEq

/-- The state after a write. -/
def Write.apply : Write → Db → Db
  | .insertPoint row, db => { db with locationPoints := db.locationPoints.insert row }
  | .createRecord row, db => { db with idempotencyRecords := db.idempotencyRecords.insert row }
  | .setLatest driverId entry, db =>
      { db with latest := fun other => if other = driverId then some entry else db.latest other }
  | .emit emission, db => { db with emitted := db.emitted ++ [emission] }

/-- What a statement or a check throws. -/
inductive Failure where
  | http (exception : HttpException)
  | prisma (error : PrismaError)
  /-- `P2010`, with which a raw query fails. -/
  | rawQuery
  deriving DecidableEq

/-- What the environment supplies to one call: a generated UUID, the clock, whether Redis is
connected and what its rate counter answers, the pick of the database among rows that its
order leaves equal, and a failure of the call's own. -/
structure Input where
  uuid : Uuid := 0
  now : Int := 0
  connected : Bool := true
  rateCount : Nat := 1
  pick : Nat := 0
  fault : Option Failure := none

/-- The signature of the tracking processes. -/
abbrev tracking : Signature where
  State := Db
  Write := Write
  Input := Input
  Lock := Empty
  Error := Failure
  apply := Write.apply
  clash lock _ := lock.elim
  fault input := input.fault

end Armada.Tracking
