import Armada.Tracking.Schema

/-!
# Emergencies: the store

The models of `prisma/schema.prisma` that `EmergenciesService` reads or writes, with the
calls it makes on them and the event it broadcasts. The columns are those of Prisma; the
point `geom` is kept by a trigger and read by nobody here.
-/

namespace Armada.Emergencies

open Relational Concurrency
open Tracking (OperationalStatus)

/-! ## Models -/

/-- The statuses of an emergency. -/
inductive EmergencyStatus where
  | triggered
  | acknowledged
  | resolved
  | falseAlarm
  deriving DecidableEq

/-- The spelling of a status in audit actions. -/
def EmergencyStatus.name : EmergencyStatus → String
  | .triggered => "TRIGGERED"
  | .acknowledged => "ACKNOWLEDGED"
  | .resolved => "RESOLVED"
  | .falseAlarm => "FALSE_ALARM"

/-- `status: { in: ['TRIGGERED', 'ACKNOWLEDGED'] }`. -/
def EmergencyStatus.active : EmergencyStatus → Bool
  | .triggered => true
  | .acknowledged => true
  | .resolved => false
  | .falseAlarm => false

/-- A row of `emergencies`. -/
structure Emergency where
  id : Uuid
  driverId : Uuid
  deliveryId : Option Uuid
  latitude : ℚ
  longitude : ℚ
  emergencyType : String
  note : Option String
  status : EmergencyStatus
  triggeredAt : Int
  resolvedAt : Option Int := none
  resolvedBy : Option Uuid := none
  deriving DecidableEq

/-- A row of `drivers`, as far as emergencies look into it. -/
structure Driver where
  id : Uuid
  displayName : String
  operationalStatus : OperationalStatus := .offline
  deriving DecidableEq

/-- A row of `deliveries`, as far as emergencies look into it. -/
structure Delivery where
  id : Uuid
  driverId : Option Uuid
  status : DeliveryStatus
  deriving DecidableEq

/-- `emergency.triggered` in the room `fleet:monitoring`. -/
structure Emission where
  emergencyId : Uuid
  driverId : Uuid
  driverName : String
  latitude : ℚ
  longitude : ℚ
  emergencyType : String
  userId : Uuid
  role : Role
  deriving DecidableEq

instance : Keyed Emergency Uuid := ⟨Emergency.id⟩
instance : Keyed Driver Uuid := ⟨Driver.id⟩
instance : Keyed Delivery Uuid := ⟨Delivery.id⟩

/-- The tables of the emergencies, and what was emitted. -/
structure Db where
  drivers : Table Driver := .empty
  deliveries : Table Delivery := .empty
  emergencies : Table Emergency := .empty
  auditLogs : List AuditLog := []
  emitted : List Emission := []

namespace Db

/-- The driver with an id. -/
def driver? (db : Db) (id : Uuid) : Option Driver := db.drivers.find? id

/-- The emergency with an id. -/
def emergency? (db : Db) (id : Uuid) : Option Emergency := db.emergencies.find? id

end Db

/-! ## The signature -/

/-- The columns of `emergencies` an update sets. -/
structure EmergencyData where
  status : EmergencyStatus
  resolvedAt : Option Int := none
  resolvedBy : Option Uuid := none
  deriving DecidableEq

/-- The row after an update. -/
def EmergencyData.set (data : EmergencyData) (row : Emergency) : Emergency :=
  { row with
    status := data.status
    resolvedAt := data.resolvedAt <|> row.resolvedAt
    resolvedBy := data.resolvedBy <|> row.resolvedBy }

/-- An update renames no emergency. -/
theorem EmergencyData.key_set (data : EmergencyData) (row : Emergency) :
    Keyed.key (data.set row) = Keyed.key row := rfl

/-- The driver in another operational status. -/
def Driver.setStatus (operationalStatus : OperationalStatus) (row : Driver) : Driver :=
  { row with operationalStatus }

/-- It is the same driver. -/
theorem Driver.key_setStatus (operationalStatus : OperationalStatus) (row : Driver) :
    Keyed.key (row.setStatus operationalStatus) = Keyed.key row := rfl

/-- What a statement may change. -/
inductive Write where
  | createEmergency (row : Emergency)
  | updateEmergency (id : Uuid) (data : EmergencyData)
  | updateDriver (id : Uuid) (operationalStatus : OperationalStatus)
  | createAuditLog (row : AuditLog)
  | emit (emission : Emission)
  deriving DecidableEq

/-- The store after one write. -/
def Write.apply : Write → Db → Db
  | .createEmergency row, db => { db with emergencies := db.emergencies.insert row }
  | .updateEmergency id data, db => { db with emergencies := db.emergencies.modify id data.set }
  | .updateDriver id operationalStatus, db =>
      { db with drivers := db.drivers.modify id (Driver.setStatus operationalStatus) }
  | .createAuditLog row, db => { db with auditLogs := db.auditLogs ++ [row] }
  | .emit emission, db => { db with emitted := db.emitted ++ [emission] }

/-- How an operation may fail. -/
inductive Failure where
  | http (status : HttpStatus) (code message : String)
  | prisma (error : PrismaError)
  deriving DecidableEq

/-- What the environment supplies to one call: a generated UUID, the clock, the pick of the
database among rows that no order tells apart, and a failure of the call's own. -/
structure Input where
  uuid : Uuid := 0
  now : Int := 0
  pick : Nat := 0
  fault : Option Failure := none

/-- The tables as a signature of statements. -/
abbrev sos : Signature where
  State := Db
  Write := Write
  Input := Input
  Lock := Empty
  Error := Failure
  apply := Write.apply
  clash lock _ := lock.elim
  fault input := input.fault

/-! ## The calls -/

/-- A query, which a fault may stop. -/
def query {β : Type} (body : Input → Db → Except Failure (β × List Write)) :
    Statement sos β where
  locks _ _ := []
  exec input db :=
    match input.fault with
    | some failure => .error failure
    | none => body input db

/-- Fail with an error of Prisma unless a condition holds. -/
def check (condition : Prop) [Decidable condition] (error : PrismaError) : Except Failure Unit :=
  if condition then .ok () else .error (.prisma error)

variable {β : Type} {input : Input} {db : Db} {writes : List Write}

/-- It succeeds if no fault comes and its body does. -/
theorem query_succeeds {body : Input → Db → Except Failure (β × List Write)} {value : β} :
    (query body).Succeeds input db value writes ↔
      input.fault = none ∧ body input db = .ok (value, writes) := by
  simp only [query, Statement.Succeeds]
  cases input.fault with
  | some failure => simp
  | none => simp

/-- A check of a query passes exactly if its condition holds. -/
theorem check_ok {condition : Prop} [Decidable condition] {error : PrismaError} {answer : Unit} :
    check condition error = .ok answer ↔ condition := by
  by_cases holds : condition <;> simp [check, holds]

/-- One of the rows of a query without an order. -/
def pickOf {R : Type} (input : Input) (rows : List R) : Option R :=
  rows[input.pick % rows.length]?

/-- None is picked exactly if there is none. -/
theorem pickOf_eq_none {R : Type} {rows : List R} : pickOf input rows = none ↔ rows = [] := by
  rw [pickOf, List.getElem?_eq_none_iff]
  constructor
  · intro beyond
    by_contra some
    exact absurd (Nat.mod_lt input.pick (List.length_pos_iff.mpr some)) (Nat.not_lt.mpr beyond)
  · rintro rfl
    exact Nat.zero_le _

namespace Prisma

namespace Driver

/-- Read a driver. -/
def findUnique (id : Uuid) : Statement sos (Option Emergencies.Driver) :=
  query fun _ db => .ok (db.driver? id, [])

/-- Set the operational status of a driver. -/
def update (id : Uuid) (operationalStatus : OperationalStatus) : Statement sos Unit :=
  query fun _ db => do
    check (db.driver? id ≠ none) (.knownRequest .recordNotFound)
    .ok ((), [.updateDriver id operationalStatus])

/-- It needs the row alone. -/
theorem update_succeeds {id : Uuid} {operationalStatus : OperationalStatus} {answer : Unit} :
    (update id operationalStatus).Succeeds input db answer writes ↔
      input.fault = none ∧ db.driver? id ≠ none ∧ writes = [.updateDriver id operationalStatus] := by
  simp [update, query_succeeds, except_bind_ok, check_ok, eq_comm (a := writes)]

end Driver

namespace Delivery

/-- The first of the deliveries of a driver that are accepted or under way. -/
def findFirst (driverId : Uuid) : Statement sos (Option Emergencies.Delivery) :=
  query fun input db => .ok (pickOf input (db.deliveries.rows.filter fun row =>
    row.driverId = some driverId ∧ (row.status = .accepted ∨ row.status = .enRoute)), [])

end Delivery

namespace Emergency

/-- The first of the active emergencies of a driver. -/
def findFirst (driverId : Uuid) : Statement sos (Option Emergencies.Emergency) :=
  query fun input db => .ok (pickOf input (db.emergencies.rows.filter fun row =>
    row.driverId = driverId ∧ row.status.active), [])

/-- Read an emergency. -/
def findUnique (id : Uuid) : Statement sos (Option Emergencies.Emergency) :=
  query fun _ db => .ok (db.emergency? id, [])

/-- Whether a coordinate fits its column and the constraint on its range. -/
def inRange (bound value : ℚ) : Bool :=
  Tracking.coordinateColumn.fits value && |Tracking.coordinateColumn.round value| ≤ bound

/-- The driver and the delivery are foreign keys, and the columns hold what fits them. -/
def create (values : Input → Emergencies.Emergency) : Statement sos Emergencies.Emergency :=
  query fun input db => do
    let values := values input
    check (values.emergencyType.length ≤ 50) (.knownRequest .valueTooLong)
    check (inRange 90 values.latitude ∧ inRange 180 values.longitude) .unknownRequest
    check (db.driver? values.driverId ≠ none) (.knownRequest .foreignKeyConstraint)
    check (∀ id ∈ values.deliveryId, db.deliveries.find? id ≠ none)
      (.knownRequest .foreignKeyConstraint)
    check (db.emergency? values.id = none) (.knownRequest .uniqueConstraint)
    let row : Emergencies.Emergency :=
      { values with
        latitude := Tracking.coordinateColumn.round values.latitude
        longitude := Tracking.coordinateColumn.round values.longitude }
    .ok (row, [.createEmergency row])

/-- Update an emergency, whatever its status. -/
def update (id : Uuid) (data : Input → EmergencyData) : Statement sos Emergencies.Emergency :=
  query fun input db => do
    match db.emergency? id with
    | none => .error (.prisma (.knownRequest .recordNotFound))
    | some row => .ok ((data input).set row, [.updateEmergency id (data input)])

/-- Nothing is found of a driver without an active emergency only. -/
theorem findFirst_none {driverId : Uuid} (executed : (findFirst driverId).Succeeds input db none writes) :
    ∀ row ∈ db.emergencies.rows, row.driverId = driverId → ¬row.status.active = true := by
  intro row member own active
  have missing := (Prod.mk.inj (Except.ok.inj (query_succeeds.mp executed).2)).1
  have empty := pickOf_eq_none.mp missing
  exact List.filter_eq_nil_iff.mp empty row member (by simp [own, active])

/-- A new row has the values that were given, as its columns hold them. -/
theorem create_succeeds {values : Input → Emergencies.Emergency} {row : Emergencies.Emergency}
    (executed : (create values).Succeeds input db row writes) :
    db.driver? row.driverId ≠ none ∧ db.emergency? row.id = none ∧
      row.driverId = (values input).driverId ∧ row.status = (values input).status ∧
        writes = [.createEmergency row] := by
  obtain ⟨_, made⟩ := query_succeeds.mp executed
  simp only [except_bind_ok, check_ok, exists_const] at made
  obtain ⟨_, _, driver, _, fresh, made⟩ := made
  obtain ⟨rfl, rfl⟩ := Prod.mk.inj (Except.ok.inj made)
  exact ⟨driver, fresh, rfl, rfl, rfl⟩

/-- It needs the row alone. -/
theorem update_succeeds {id : Uuid} {data : Input → EmergencyData} {row : Emergencies.Emergency}
    (executed : (update id data).Succeeds input db row writes) :
    ∃ old, db.emergency? id = some old ∧ writes = [.updateEmergency id (data input)] := by
  obtain ⟨_, made⟩ := query_succeeds.mp executed
  cases found : db.emergency? id with
  | none =>
      rw [found] at made
      cases made
  | some old =>
      rw [found] at made
      obtain ⟨_, rfl⟩ := Prod.mk.inj (Except.ok.inj made)
      exact ⟨old, rfl, rfl⟩

end Emergency

namespace AuditLog

/-- Insert an audit row. -/
def create (row : Armada.AuditLog) : Statement sos Unit :=
  query fun _ _ => .ok ((), [.createAuditLog row])

end AuditLog

end Prisma

namespace RealtimeGateway

/-- `server.to('fleet:monitoring').emit('emergency.triggered', envelope)`. -/
def emit (emission : Emission) : Statement sos Unit where
  locks _ _ := []
  exec _ _ := .ok ((), [.emit emission])

end RealtimeGateway

end Armada.Emergencies
