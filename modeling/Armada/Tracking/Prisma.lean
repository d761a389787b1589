import Mathlib.Data.List.Permutation
import Armada.Tracking.Schema

/-!
# Telemetry: the calls

The calls on the database, on Redis and on the gateway that telemetry ingestion and fleet
monitoring make, with what a successful execution of each returns and writes. A call on the
database may fail for a reason of its own; `RedisService` answers its callers also while
Redis is down.
-/

namespace Armada.Tracking

open Relational Concurrency

/-- A Prisma statement: it fails when its input carries a fault, and else answers and writes as
its body says. -/
def query {β : Type} (body : Input → Db → Except Failure (β × List Write)) :
    Statement tracking β where
  locks _ _ := []
  exec input db :=
    match input.fault with
    | some failure => .error failure
    | none => body input db

/-- A query that only reads. -/
def select {β : Type} (read : Db → β) : Statement tracking β :=
  query fun _ db => .ok (read db, [])

/-- Fail with an error unless a condition holds. -/
def check (condition : Prop) [Decidable condition] (failure : Failure) : Except Failure Unit :=
  if condition then .ok () else .error failure

variable {β : Type} {input : Input} {db : Db} {writes : List Write}

/-- When a statement succeeds, and with what writes. -/
theorem query_succeeds {body : Input → Db → Except Failure (β × List Write)} {value : β} :
    (query body).Succeeds input db value writes ↔
      input.fault = none ∧ body input db = .ok (value, writes) := by
  simp only [query, Statement.Succeeds]
  cases input.fault with
  | some failure => simp
  | none => simp

/-- When a read succeeds. -/
theorem select_succeeds {read : Db → β} {value : β} :
    (select read).Succeeds input db value writes ↔
      input.fault = none ∧ value = read db ∧ writes = [] := by
  simp [select, query_succeeds, eq_comm]

/-- A check passes where its condition holds. -/
theorem check_ok {condition : Prop} [Decidable condition] {failure : Failure} {answer : Unit} :
    check condition failure = .ok answer ↔ condition := by
  by_cases holds : condition <;> simp [check, holds]

/-! ## The database -/

namespace Prisma

namespace Delivery

/-- `prisma.delivery.findUnique` by id. -/
def findUnique (id : Uuid) : Statement tracking (Option Tracking.Delivery) :=
  select fun db => db.deliveries.find? id

end Delivery

namespace Driver

/-- `prisma.driver.findUnique` by id. -/
def findUnique (id : Uuid) : Statement tracking (Option Tracking.Driver) :=
  select fun db => db.driver? id

/-- A driver with its joined relations: one active assignment and one delivery under way. -/
structure Joined where
  driver : Tracking.Driver
  assignment : Option VehicleAssignment
  delivery : Option Tracking.Delivery

/-- The driver with the rows its query includes. -/
def join (db : Db) (driver : Tracking.Driver) : Joined where
  driver := driver
  assignment := db.assignments.find? fun row => row.driverId = driver.id ∧ row.status = .active
  delivery := db.deliveries.rows.find? fun row => row.driverId = some driver.id ∧
    (row.status = .assigned ∨ row.status = .accepted ∨ row.status = .enRoute)

/-- The drivers of active users that are not offline, of one organization if one is given. -/
def findMany (organizationId : Option Uuid) : Statement tracking (List Joined) :=
  select fun db => (db.drivers.rows.filter fun driver =>
    driver.userStatus = .active ∧ driver.operationalStatus ≠ .offline ∧
      ∀ id ∈ organizationId, driver.organizationId = some id).map (join db)

end Driver

namespace IdempotencyRecord

/-- `prisma.idempotencyRecord.findUnique` by the compound key. -/
def findUnique (key : IdempotencyKey) : Statement tracking (Option Tracking.IdempotencyRecord) :=
  select fun db => db.record? key

/-- A record that lives for 24 hours. -/
def create (key : IdempotencyKey) (responseStatus : Nat) (responseBody : ResponseBody) :
    Statement tracking Unit :=
  query fun input db => do
    check (db.record? key = none) (.prisma (.knownRequest .uniqueConstraint))
    .ok ((), [.createRecord
      { keyUserEndpoint := key, responseStatus, responseBody,
        expiresAt := input.now + 24 * 3600 * 1000 }])

/-- When the look for a record succeeds, and what it finds. -/
theorem findUnique_succeeds {key : IdempotencyKey} {found : Option Tracking.IdempotencyRecord} :
    (findUnique key).Succeeds input db found writes ↔
      input.fault = none ∧ found = db.record? key ∧ writes = [] :=
  select_succeeds

/-- When the creation of a record succeeds: its key is free. -/
theorem create_succeeds {key : IdempotencyKey} {responseStatus : Nat}
    {responseBody : ResponseBody} {answer : Unit} :
    (create key responseStatus responseBody).Succeeds input db answer writes ↔
      input.fault = none ∧ db.record? key = none ∧
        writes = [.createRecord { keyUserEndpoint := key, responseStatus, responseBody,
                                  expiresAt := input.now + 24 * 3600 * 1000 }] := by
  simp [create, query_succeeds, except_bind_ok, check_ok, eq_comm (a := writes)]

end IdempotencyRecord

namespace LocationPoint

/-- Whether the columns hold the numbers of a row. -/
def fits (row : Tracking.LocationPoint) : Bool :=
  coordinateColumn.fits row.latitude && coordinateColumn.fits row.longitude &&
    accuracyColumn.fits row.accuracyM && row.speedMps.all speedColumn.fits &&
    row.headingDeg.all headingColumn.fits

/-- A row as the columns hold it. -/
def rounded (row : Tracking.LocationPoint) : Tracking.LocationPoint :=
  { row with
    latitude := coordinateColumn.round row.latitude
    longitude := coordinateColumn.round row.longitude
    accuracyM := accuracyColumn.round row.accuracyM
    speedMps := row.speedMps.map speedColumn.round
    headingDeg := row.headingDeg.map headingColumn.round }

/-- `INSERT INTO location_points`, under a generated id. The primary key is the id with the
time of recording; the driver and the delivery are foreign keys. -/
def insert (values : Uuid → Tracking.LocationPoint) : Statement tracking Uuid :=
  query fun input db => do
    let row := rounded (values input.uuid)
    check (fits (values input.uuid)) .rawQuery
    check (db.driver? row.driverId ≠ none) .rawQuery
    check (∀ id ∈ row.deliveryId, db.deliveries.find? id ≠ none) .rawQuery
    check (db.locationPoints.find? (Keyed.key row) = none) .rawQuery
    .ok (input.uuid, [.insertPoint row])

/-- `WHERE driver_id = .. AND validation_status = 'VALID' ORDER BY recorded_at DESC LIMIT 1`.
The order leaves it open which of several latest rows comes first. -/
def findLatestValid (driverId : Uuid) : Statement tracking (Option Tracking.LocationPoint) :=
  query fun input db =>
    let points := db.validPoints driverId
    let latest := points.filter fun row => ∀ other ∈ points, other.recordedAt ≤ row.recordedAt
    .ok (latest[input.pick % latest.length]?, [])

/-- The valid points of a driver that were recorded between two times. -/
def inRange (db : Db) (driverId : Uuid) (fromDate toDate : Int) : List Tracking.LocationPoint :=
  (db.validPoints driverId).filter fun row =>
    fromDate ≤ row.recordedAt ∧ row.recordedAt ≤ toDate

/-- `ORDER BY recorded_at DESC LIMIT .. OFFSET ..`. The order leaves it open how points
recorded at one time are arranged. -/
def findRange (driverId : Uuid) (fromDate toDate : Int) (limit offset : Nat) :
    Statement tracking (List Tracking.LocationPoint) :=
  query fun input db =>
    let orders := (inRange db driverId fromDate toDate).permutations'.filter fun rows =>
      rows.Pairwise fun row next => next.recordedAt ≤ row.recordedAt
    let rows := orders[input.pick % orders.length]?.getD []
    .ok ((rows.drop offset).take limit, [])

/-- `prisma.locationPoint.count` of a driver in a range of time. -/
def countRange (driverId : Uuid) (fromDate toDate : Int) : Statement tracking Nat :=
  select fun db => (inRange db driverId fromDate toDate).length

/-- When an INSERT of a point succeeds: its values fit and the rows it names exist. -/
theorem insert_succeeds {values : Uuid → Tracking.LocationPoint} {id : Uuid} :
    (insert values).Succeeds input db id writes ↔
      input.fault = none ∧ id = input.uuid ∧ fits (values id) = true ∧
        db.driver? (values id).driverId ≠ none ∧
        (∀ delivery ∈ (values id).deliveryId, db.deliveries.find? delivery ≠ none) ∧
        db.locationPoints.find? (Keyed.key (rounded (values id))) = none ∧
        writes = [.insertPoint (rounded (values id))] := by
  simp only [insert, query_succeeds, except_bind_ok, check_ok, exists_const, Except.ok.injEq,
    Prod.mk.injEq]
  constructor
  · rintro ⟨fault, fit, driver, delivery, fresh, rfl, rfl⟩
    exact ⟨fault, rfl, fit, driver, delivery, fresh, rfl⟩
  · rintro ⟨fault, rfl, fit, driver, delivery, fresh, rfl⟩
    exact ⟨fault, fit, driver, delivery, fresh, rfl, rfl⟩

end LocationPoint

end Prisma

/-! ## Redis -/

/-- What is present under a key at a time. -/
def CacheEntry.at (now : Int) (entry : CacheEntry) : Option CachedText :=
  if now ≤ entry.expiresAt then some entry.text else none

namespace RedisService

/-- `get` of the latest location of a driver. -/
def get (driverId : Uuid) : Statement tracking (Option CachedText) where
  locks _ _ := []
  exec input db :=
    .ok (if input.connected then (db.latest driverId).bind (CacheEntry.at input.now) else none, [])

/-- `set` of the latest location of a driver, with a time to live in seconds. -/
def set (driverId : Uuid) (text : CachedText) (ttlSeconds : Int) : Statement tracking Unit where
  locks _ _ := []
  exec input _ :=
    .ok ((), if input.connected then
      [.setLatest driverId ⟨text, input.now + ttlSeconds * 1000⟩] else [])

/-- The counter lives outside the model, so its answer is an input; without Redis it is 1. -/
def incrRateLimit (_key : String) (_windowSeconds : Nat) : Statement tracking Nat where
  locks _ _ := []
  exec input _ := .ok (if input.connected then input.rateCount else 1, [])

/-- What a GET answers: the entry that has not expired, or nothing without a connection. -/
theorem get_succeeds {driverId : Uuid} {found : Option CachedText} :
    (get driverId).Succeeds input db found writes ↔
      found = (if input.connected then (db.latest driverId).bind (CacheEntry.at input.now)
        else none) ∧ writes = [] := by
  simp only [get, Statement.Succeeds, Except.ok.injEq, Prod.mk.injEq]
  exact and_congr eq_comm eq_comm

/-- What a SET writes, with its time to live. -/
theorem set_succeeds {driverId : Uuid} {text : CachedText} {ttlSeconds : Int} {answer : Unit} :
    (set driverId text ttlSeconds).Succeeds input db answer writes ↔
      writes = if input.connected then
        [.setLatest driverId ⟨text, input.now + ttlSeconds * 1000⟩] else [] := by
  simp [set, Statement.Succeeds, eq_comm (a := writes)]

/-- What the counter answers: 1 without a connection. -/
theorem incrRateLimit_succeeds {key : String} {windowSeconds count : Nat} :
    (incrRateLimit key windowSeconds).Succeeds input db count writes ↔
      count = (if input.connected then input.rateCount else 1) ∧ writes = [] := by
  simp only [incrRateLimit, Statement.Succeeds, Except.ok.injEq, Prod.mk.injEq]
  exact and_congr eq_comm eq_comm

end RedisService

/-- `server.to(room).emit(event, envelope)`, for each of the rooms. -/
def RealtimeGateway.emit (rooms : List Room) (event : String) (payload : CachedLocationData)
    (userId : Option Uuid) (role : Role) (driverId : Uuid) : Statement tracking Unit where
  locks _ _ := []
  exec _ _ := .ok ((), rooms.map fun room => .emit { room, event, payload, userId, role, driverId })

/-- What an emission writes. -/
theorem RealtimeGateway.emit_succeeds {rooms : List Room} {event : String}
    {payload : CachedLocationData} {userId : Option Uuid} {role : Role} {driverId : Uuid}
    {answer : Unit} :
    (emit rooms event payload userId role driverId).Succeeds input db answer writes ↔
      writes = rooms.map fun room => .emit { room, event, payload, userId, role, driverId } := by
  simp [emit, Statement.Succeeds, eq_comm (a := writes)]

end Armada.Tracking
