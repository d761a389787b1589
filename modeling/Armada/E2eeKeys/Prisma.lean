import Armada.Auth.Schema

/-!
# Device keys and prekeys: the store

The models `Device`, `DeviceKey`, `Prekey` and `AuditLog` of `prisma/schema.prisma`, with the
columns the key service uses, and the calls it makes on them. A prekey is addressed by the
unique index on its device and its number; the statement that claims one is a raw query.
-/

namespace Armada.E2eeKeys

open Relational Concurrency

/-! ## Models -/

/-- A row of `devices`, as far as keys look into it. -/
structure Device where
  id : Uuid
  userId : Uuid
  deriving DecidableEq

/-- A row of `device_keys`, one for a device. -/
structure DeviceKey where
  id : Uuid
  deviceId : Uuid
  identityKeyPublic : String
  signedPrekeyPublic : String
  signedPrekeySig : String
  deriving DecidableEq

/-- A row of `prekeys`. -/
structure Prekey where
  deviceId : Uuid
  keyId : Int
  publicKey : String
  isConsumed : Bool := false
  consumedAt : Option Int := none
  deriving DecidableEq

/-- What an upload puts in `after_json`. -/
structure UploadDetail where
  uploadedCount : Nat
  totalAvailable : Nat
  deriving DecidableEq

/-- An audit row of the key service. -/
abbrev AuditLog := AuditEntry Uuid JsValue UploadDetail

instance : Keyed Device Uuid := ⟨Device.id⟩
instance : Keyed DeviceKey Uuid := ⟨DeviceKey.deviceId⟩
instance : Keyed Prekey (Uuid × Int) := ⟨fun row => (row.deviceId, row.keyId)⟩

/-- The tables of the key service. -/
structure Db where
  devices : Table Device := .empty
  deviceKeys : Table DeviceKey := .empty
  prekeys : Table Prekey := .empty
  auditLogs : List AuditLog := []

namespace Db

/-- The device with an id. -/
def device? (db : Db) (id : Uuid) : Option Device := db.devices.find? id

/-- The keys of a device. -/
def deviceKey? (db : Db) (deviceId : Uuid) : Option DeviceKey := db.deviceKeys.find? deviceId

/-- A prekey by its device and number. -/
def prekey? (db : Db) (deviceId : Uuid) (keyId : Int) : Option Prekey :=
  db.prekeys.find? (deviceId, keyId)

/-- `where: { deviceId, isConsumed: false }`. -/
def available (db : Db) (deviceId : Uuid) : List Prekey :=
  db.prekeys.rows.filter fun row => row.deviceId = deviceId ∧ row.isConsumed = false

/-- The first of them in the order of `key_id`. -/
def nextPrekey? (db : Db) (deviceId : Uuid) : Option Prekey :=
  (db.available deviceId).minOn? Prekey.keyId

/-- A prekey is found under its own number. -/
theorem keyId_of_prekey? {db : Db} {deviceId : Uuid} {keyId : Int} {row : Prekey}
    (found : db.prekey? deviceId keyId = some row) : row.keyId = keyId :=
  congrArg Prod.snd (Table.key_of_find? found)

/-- The available prekeys are those that are not consumed. -/
theorem mem_available {db : Db} {deviceId : Uuid} {row : Prekey} :
    row ∈ db.available deviceId ↔
      db.prekey? deviceId row.keyId = some row ∧ row.isConsumed = false := by
  rw [available, List.mem_filter, decide_eq_true_iff, prekey?, Table.find?_eq_some]
  constructor
  · rintro ⟨member, rfl, unused⟩
    exact ⟨⟨member, rfl⟩, unused⟩
  · rintro ⟨⟨member, same⟩, unused⟩
    exact ⟨member, congrArg Prod.fst same, unused⟩

/-- There is no next one exactly if none is available. -/
theorem nextPrekey?_eq_none {db : Db} {deviceId : Uuid} :
    db.nextPrekey? deviceId = none ↔ db.available deviceId = [] := by
  rw [nextPrekey?, ← Option.not_isSome_iff_eq_none, List.isSome_minOn?_iff, not_not]

/-- The next prekey is available, and none that is available has a smaller number. -/
theorem nextPrekey?_spec {db : Db} {deviceId : Uuid} {row : Prekey}
    (next : db.nextPrekey? deviceId = some row) :
    row ∈ db.available deviceId ∧ ∀ other ∈ db.available deviceId, row.keyId ≤ other.keyId := by
  refine ⟨List.minOn?_mem next, fun other member => ?_⟩
  have isRow : (db.nextPrekey? deviceId).get (List.isSome_minOn?_of_mem member) = row :=
    Option.get_of_eq_some _ next
  rw [← isRow]
  exact List.apply_get_minOn?_le_of_mem member

end Db

/-! ## The signature -/

/-- What a statement may change. -/
inductive Write where
  | createDeviceKey (row : DeviceKey)
  | updateDeviceKey (deviceId : Uuid) (change : DeviceKey → DeviceKey)
  /-- `INSERT .. ON CONFLICT DO NOTHING`. -/
  | createPrekeys (rows : List Prekey)
  | consumePrekey (deviceId : Uuid) (keyId : Int) (now : Int)
  | createAuditLog (row : AuditLog)

/-- The columns of `device_keys` an upsert sets. -/
def DeviceKey.set (identityKeyPublic signedPrekeyPublic signedPrekeySig : String)
    (row : DeviceKey) : DeviceKey :=
  { row with identityKeyPublic, signedPrekeyPublic, signedPrekeySig }

/-- New keys are of the same device. -/
theorem DeviceKey.key_set (identityKeyPublic signedPrekeyPublic signedPrekeySig : String)
    (row : DeviceKey) :
    Keyed.key (row.set identityKeyPublic signedPrekeyPublic signedPrekeySig) = Keyed.key row :=
  rfl

/-- `SET is_consumed = TRUE, consumed_at = NOW()`. -/
def Prekey.consume (now : Int) (row : Prekey) : Prekey :=
  { row with isConsumed := true, consumedAt := some now }

/-- The store after one write. -/
def Write.apply : Write → Db → Db
  | .createDeviceKey row, db => { db with deviceKeys := db.deviceKeys.insert row }
  | .updateDeviceKey deviceId change, db =>
      { db with deviceKeys := db.deviceKeys.modify deviceId change }
  | .createPrekeys rows, db => { db with prekeys := db.prekeys.insertAll rows }
  | .consumePrekey deviceId keyId now, db =>
      { db with prekeys := db.prekeys.modify (deviceId, keyId) (Prekey.consume now) }
  | .createAuditLog row, db => { db with auditLogs := db.auditLogs ++ [row] }

/-- How an operation may fail. -/
inductive Failure where
  | http (status : HttpStatus) (code : Option String) (message : String)
  | prisma (error : PrismaError)
  /-- `P2010`, with which a raw query fails. -/
  | rawQuery
  deriving DecidableEq

/-- What the environment supplies to one call: a generated UUID, the clock of the database,
and a failure of the call's own. -/
structure Input where
  uuid : Uuid := 0
  now : Int := 0
  fault : Option Failure := none

/-- The tables as a signature of statements. -/
abbrev keys : Signature where
  State := Db
  Write := Write
  Input := Input
  Lock := Empty
  Error := Failure
  apply := Write.apply
  clash lock _ := lock.elim
  fault input := input.fault

/-! ## The calls -/

/-- A query, which a fault may stop. -/
def query {β : Type} (body : Input → Db → Except Failure (β × List Write)) :
    Statement keys β where
  locks _ _ := []
  exec input db :=
    match input.fault with
    | some failure => .error failure
    | none => body input db

/-- A call that looks for rows of a device, under an id that a client has sent. -/
def select {β : Type} (id : Except PrismaError Uuid) (read : Uuid → Db → β) :
    Statement keys β :=
  query fun _ db => (id.mapError .prisma).map fun id => (read id db, [])

/-- Fail with an error unless a condition holds. -/
def check (condition : Prop) [Decidable condition] (failure : Failure) : Except Failure Unit :=
  if condition then .ok () else .error failure

section Rules

variable {β : Type} {input : Input} {db : Db} {writes : List Write}

/-- It succeeds if no fault comes and its body does. -/
theorem query_succeeds {body : Input → Db → Except Failure (β × List Write)} {value : β} :
    (query body).Succeeds input db value writes ↔
      input.fault = none ∧ body input db = .ok (value, writes) := by
  simp only [query, Statement.Succeeds]
  cases input.fault with
  | some failure => simp
  | none => simp

/-- A look succeeds if the text is an id. -/
theorem select_succeeds {id : Except PrismaError Uuid} {read : Uuid → Db → β} {value : β} :
    (select id read).Succeeds input db value writes ↔
      input.fault = none ∧ ∃ deviceId, id = .ok deviceId ∧ value = read deviceId db ∧
        writes = [] := by
  rw [select, query_succeeds]
  cases id with
  | error error => simp [Except.mapError, Except.map]
  | ok deviceId => simp [Except.mapError, Except.map, eq_comm]

/-- A check of a query passes exactly if its condition holds. -/
theorem check_ok {condition : Prop} [Decidable condition] {failure : Failure} {answer : Unit} :
    check condition failure = .ok answer ↔ condition := by
  by_cases holds : condition <;> simp [check, holds]

end Rules

namespace Prisma

namespace Device

/-- Read a device. -/
def findUnique (id : Except PrismaError Uuid) : Statement keys (Option E2eeKeys.Device) :=
  select id fun id db => db.device? id

end Device

namespace DeviceKey

/-- Read the keys of a device. -/
def findUnique (deviceId : Except PrismaError Uuid) : Statement keys (Option E2eeKeys.DeviceKey) :=
  select deviceId fun deviceId db => db.deviceKey? deviceId

/-- `upsert`, as one `INSERT .. ON CONFLICT (device_id) DO UPDATE`. The device is a foreign
key. -/
def upsert (deviceId : Except PrismaError Uuid)
    (identityKeyPublic signedPrekeyPublic signedPrekeySig : String) :
    Statement keys E2eeKeys.DeviceKey :=
  query fun input db => do
    let deviceId ← deviceId.mapError .prisma
    match db.deviceKey? deviceId with
    | some row =>
        let change := DeviceKey.set identityKeyPublic signedPrekeyPublic signedPrekeySig
        .ok (change row, [.updateDeviceKey deviceId change])
    | none => do
        let row : E2eeKeys.DeviceKey :=
          { id := input.uuid, deviceId, identityKeyPublic, signedPrekeyPublic, signedPrekeySig }
        check (db.device? deviceId ≠ none) (.prisma (.knownRequest .foreignKeyConstraint))
        .ok (row, [.createDeviceKey row])

/-- An upsert inserts the keys of a device or replaces them. -/
theorem upsert_succeeds {id : Except PrismaError Uuid}
    {identityKeyPublic signedPrekeyPublic signedPrekeySig : String} {input : Input} {db : Db}
    {row : E2eeKeys.DeviceKey} {writes : List Write}
    (executed : (upsert id identityKeyPublic signedPrekeyPublic signedPrekeySig).Succeeds input
      db row writes) :
    ∃ deviceId, id = .ok deviceId ∧
      ((∃ old, db.deviceKey? deviceId = some old ∧ writes = [.updateDeviceKey deviceId
        (DeviceKey.set identityKeyPublic signedPrekeyPublic signedPrekeySig)]) ∨
      db.deviceKey? deviceId = none ∧ row.deviceId = deviceId ∧
        row.identityKeyPublic = identityKeyPublic ∧ writes = [.createDeviceKey row]) := by
  obtain ⟨_, made⟩ := query_succeeds.mp executed
  obtain ⟨deviceId, spelled, made⟩ := except_bind_ok.mp made
  refine ⟨deviceId, ?_, ?_⟩
  · cases id with
    | error error => cases spelled
    | ok other =>
        cases spelled
        rfl
  · cases found : db.deviceKey? deviceId with
    | some old =>
        rw [found] at made
        obtain ⟨_, rfl⟩ := Prod.mk.inj (Except.ok.inj made)
        exact .inl ⟨old, rfl, rfl⟩
    | none =>
        rw [found] at made
        obtain ⟨_, _, made⟩ := except_bind_ok.mp made
        obtain ⟨rfl, rfl⟩ := Prod.mk.inj (Except.ok.inj made)
        exact .inr ⟨rfl, rfl, rfl, rfl⟩

end DeviceKey

namespace Prekey

/-- The numbers that an `INTEGER` column holds. -/
def fits (rows : List E2eeKeys.Prekey) : Bool :=
  rows.all fun row => -2 ^ 31 ≤ row.keyId ∧ row.keyId < 2 ^ 31

/-- `createMany` with `skipDuplicates`, for rows of one device. -/
def createMany (deviceId : Except PrismaError Uuid) (rows : Uuid → List E2eeKeys.Prekey) :
    Statement keys Unit :=
  query fun _ db => do
    let deviceId ← deviceId.mapError .prisma
    check (fits (rows deviceId)) (.prisma .validation)
    check (db.device? deviceId ≠ none) (.prisma (.knownRequest .foreignKeyConstraint))
    .ok ((), [.createPrekeys (rows deviceId)])

/-- Count the available prekeys of a device. -/
def count (deviceId : Except PrismaError Uuid) : Statement keys Nat :=
  select deviceId fun deviceId db => (db.available deviceId).length

/-- `UPDATE prekeys .. WHERE id = (SELECT .. FOR UPDATE SKIP LOCKED) RETURNING ..`: the row
that was claimed, if there is one, as it was before. -/
def claim (deviceId : Except PrismaError Uuid) : Statement keys (Option E2eeKeys.Prekey) :=
  query fun input db => do
    let deviceId ← deviceId.mapError fun _ => .rawQuery
    match db.nextPrekey? deviceId with
    | none => .ok (none, [])
    | some row => .ok (some row, [.consumePrekey deviceId row.keyId input.now])

variable {input : Input} {db : Db} {writes : List Write}

/-- Prekeys are inserted together, unless one of their numbers is taken. -/
theorem createMany_succeeds {id : Except PrismaError Uuid}
    {rows : Uuid → List E2eeKeys.Prekey} {answer : Unit} :
    (createMany id rows).Succeeds input db answer writes ↔
      input.fault = none ∧ ∃ deviceId, id = .ok deviceId ∧ fits (rows deviceId) ∧
        db.device? deviceId ≠ none ∧ writes = [.createPrekeys (rows deviceId)] := by
  rw [createMany, query_succeeds]
  cases id with
  | error error => simp [Except.mapError, bind, Except.bind]
  | ok deviceId =>
      simp [Except.mapError, except_bind_ok, check_ok, eq_comm (a := writes)]

/-- A claim consumes the next prekey, if there is one. -/
theorem claim_succeeds {id : Except PrismaError Uuid} {claimed : Option E2eeKeys.Prekey} :
    (claim id).Succeeds input db claimed writes ↔
      input.fault = none ∧ ∃ deviceId, id = .ok deviceId ∧ claimed = db.nextPrekey? deviceId ∧
        writes = (claimed.map fun row =>
          .consumePrekey deviceId row.keyId input.now).toList := by
  rw [claim, query_succeeds]
  cases id with
  | error error => simp [Except.mapError, bind, Except.bind]
  | ok deviceId =>
      simp only [Except.mapError, except_bind_ok, Except.ok.injEq, exists_eq_left']
      cases next : db.nextPrekey? deviceId with
      | none =>
          simp only [Except.ok.injEq, Prod.mk.injEq]
          grind
      | some row =>
          simp only [Except.ok.injEq, Prod.mk.injEq]
          grind

end Prekey

namespace AuditLog

/-- Insert an audit row. -/
def create (row : E2eeKeys.AuditLog) : Statement keys Unit :=
  query fun _ _ => .ok ((), [.createAuditLog row])

end AuditLog

end Prisma

end Armada.E2eeKeys
