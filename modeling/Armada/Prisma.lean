import Mathlib.Algebra.Order.Field.Rat
import Mathlib.Algebra.Ring.Int.Defs
import Mathlib.Data.List.Sort
import Mathlib.Data.Rat.Floor
import Armada.Schema
import Armada.Concurrency.Process

/-!
# The Prisma client

The calls the services make on the database, as statements of the shared store:
what each reads, the writes it makes, the row locks and unique keys it takes, and
the errors it can end in. Every call may also fail for a reason of its own (a lost
connection, a deadlock); the environment decides that through `Input.fault`.
-/

namespace Armada

open Relational Concurrency

/-! ## Errors -/

/-- Codes of `PrismaClientKnownRequestError` that the calls below can raise. -/
inductive PrismaCode where
  | valueTooLong
  | uniqueConstraint
  | foreignKeyConstraint
  | inconsistentColumnData
  | recordNotFound
  | transactionApi
  | writeConflict
  deriving DecidableEq

/-- The code as Prisma writes it. -/
def PrismaCode.text : PrismaCode → String
  | .valueTooLong => "P2000"
  | .uniqueConstraint => "P2002"
  | .foreignKeyConstraint => "P2003"
  | .inconsistentColumnData => "P2023"
  | .recordNotFound => "P2025"
  | .transactionApi => "P2028"
  | .writeConflict => "P2034"

/-- What Prisma throws: an error with a code, a refused argument, or an error it does not know. -/
inductive PrismaError where
  | knownRequest (code : PrismaCode)
  | validation
  | unknownRequest
  deriving DecidableEq

/-- The statuses of the answers. -/
inductive HttpStatus where
  | badRequest
  | forbidden
  | notFound
  | conflict
  | unprocessableEntity
  | tooManyRequests
  deriving DecidableEq

/-- The body of a NestJS exception. -/
structure HttpException where
  status : HttpStatus
  code : String
  message : String
  unfinishedStops : Option (List DeliveryStop) := none
  deriving DecidableEq

/-- What a service call can throw. -/
inductive Exception where
  | http (exception : HttpException)
  | prisma (error : PrismaError)
  | typeError
  deriving DecidableEq

/-! ## Column values -/

/-- A value given for a `uuid` column or filter. -/
def JsValue.toUuid [UuidText] : JsValue → Except PrismaError Uuid
  | .string text =>
      match UuidText.parse text with
      | some id => .ok id
      | none => .error (.knownRequest .inconsistentColumnData)
  | _ => .error .validation

/-- A value given for a `text` column. -/
def JsValue.toText : JsValue → Except PrismaError String
  | .string text => .ok text
  | _ => .error .validation

/-- A value given for a `varchar` column. -/
def JsValue.toVarChar (length : Nat) : JsValue → Except PrismaError String
  | .string text =>
      if text.length ≤ length then .ok text else .error (.knownRequest .valueTooLong)
  | _ => .error .validation

/-- `value || null`, given for a nullable column. -/
def JsValue.orNull {β : Type} (convert : JsValue → Except PrismaError β) (value : JsValue) :
    Except PrismaError (Option β) :=
  if value.truthy then (convert value).map some else .ok none

/-- A number given for an `Int` column. -/
def asInt32 (value : Rat) : Except PrismaError Int :=
  if value.den = 1 ∧ -2 ^ 31 ≤ value.num ∧ value.num < 2 ^ 31 then .ok value.num
  else .error .validation

/-- A `DECIMAL(precision, scale)` column. -/
structure Decimal where
  precision : Nat
  scale : Nat

/-- Rounding to the scale, half away from zero. -/
def Decimal.round (column : Decimal) (value : Rat) : Rat :=
  let scaled := value * 10 ^ column.scale
  let digits := if 0 ≤ scaled then ⌊scaled + 1 / 2⌋ else -⌊1 / 2 - scaled⌋
  digits / 10 ^ column.scale

/-- Whether a number fits the column; if not, the database reports an overflow. -/
def Decimal.fits (column : Decimal) (value : Rat) : Bool :=
  |column.round value| < 10 ^ (column.precision - column.scale)

/-- A number given for a `DECIMAL` column, as the column holds it. -/
def asDecimal (column : Decimal) (value : Rat) : Except PrismaError Rat :=
  if column.fits value then .ok (column.round value) else .error .unknownRequest

/-- `total_distance_m`. -/
def distanceColumn : Decimal := ⟨12, 2⟩

/-! ## Writes -/

/-- The columns of `deliveries` an update sets. -/
structure DeliveryData where
  driverId : Option Uuid := none
  vehicleId : Option Uuid := none
  status : Option DeliveryStatus := none
  routeMode : Option RouteMode := none
  startedAt : Option Instant := none
  completedAt : Option Instant := none
  deriving DecidableEq

/-- The row after an update; what is not given stays. -/
def DeliveryData.set (data : DeliveryData) (row : Delivery) : Delivery :=
  { row with
    driverId := data.driverId <|> row.driverId
    vehicleId := data.vehicleId <|> row.vehicleId
    status := data.status.getD row.status
    routeMode := data.routeMode.getD row.routeMode
    startedAt := data.startedAt <|> row.startedAt
    completedAt := data.completedAt <|> row.completedAt }

/-- The columns of `delivery_stops` an update sets. -/
structure StopData where
  status : Option StopStatus := none
  sequence : Option Int := none
  arrivedAt : Option Instant := none
  completedAt : Option Instant := none
  deriving DecidableEq

/-- The row after an update; what is not given stays. -/
def StopData.set (data : StopData) (row : DeliveryStop) : DeliveryStop :=
  { row with
    status := data.status.getD row.status
    sequence := data.sequence.getD row.sequence
    arrivedAt := data.arrivedAt <|> row.arrivedAt
    completedAt := data.completedAt <|> row.completedAt }

/-- The columns of `proof_of_delivery` an upsert overwrites. -/
structure PodData where
  receiverName : String
  photoFileId : Option Uuid
  notes : Option String
  deriving DecidableEq

/-- The row after an update; what is not given stays. -/
def PodData.set (data : PodData) (row : ProofOfDelivery) : ProofOfDelivery :=
  { row with
    receiverName := data.receiverName
    photoFileId := data.photoFileId
    notes := data.notes }

/-- What a resolution sets. -/
structure ResolutionData where
  status : ConflictStatus
  resolvedBy : Uuid
  resolutionNotes : Option String
  resolvedAt : Instant
  deriving DecidableEq

/-- The row after it. -/
def ResolutionData.set (data : ResolutionData) (row : DeliveryConflict) : DeliveryConflict :=
  { row with
    status := data.status
    resolvedBy := some data.resolvedBy
    resolutionNotes := data.resolutionNotes
    resolvedAt := some data.resolvedAt }

/-- What the settling of a record sets. -/
structure ResponseData where
  responseStatus : Nat
  responseBody : ResponseBody
  deriving DecidableEq

/-- The row after it. -/
def ResponseData.set (data : ResponseData) (row : IdempotencyRecord) : IdempotencyRecord :=
  { row with responseStatus := data.responseStatus, responseBody := data.responseBody }

/-- A change of one row, or an event emitted to a room. -/
inductive Write where
  | createDelivery (row : Delivery)
  | updateDelivery (id : Uuid) (data : DeliveryData)
  | createItems (rows : List DeliveryItem)
  | createStop (row : DeliveryStop)
  | updateStop (id : Uuid) (data : StopData)
  | createRoute (row : Route)
  | createRouteStops (rows : List RouteStop)
  | createPod (row : ProofOfDelivery)
  | updatePod (stopId : Uuid) (data : PodData)
  | createEvent (row : DeliveryEvent)
  | createConflict (row : DeliveryConflict)
  | updateConflict (id : Uuid) (data : ResolutionData)
  | createAuditLog (row : AuditLog)
  | createRecord (row : IdempotencyRecord)
  | updateRecord (key : IdempotencyKey) (data : ResponseData)
  | createMessage (row : Message)
  | emit (emission : Emission)
  deriving DecidableEq

/-- The store after one write. -/
def Write.apply : Write → Db → Db
  | .createDelivery row, db => { db with deliveries := db.deliveries.insert row }
  | .updateDelivery id data, db => { db with deliveries := db.deliveries.modify id data.set }
  | .createItems rows, db => { db with deliveryItems := db.deliveryItems ++ rows }
  | .createStop row, db => { db with deliveryStops := db.deliveryStops.insert row }
  | .updateStop id data, db => { db with deliveryStops := db.deliveryStops.modify id data.set }
  | .createRoute row, db => { db with routes := db.routes.insert row }
  | .createRouteStops rows, db => { db with routeStops := db.routeStops ++ rows }
  | .createPod row, db => { db with proofsOfDelivery := db.proofsOfDelivery.insert row }
  | .updatePod stopId data, db =>
      { db with proofsOfDelivery := db.proofsOfDelivery.modify stopId data.set }
  | .createEvent row, db => { db with deliveryEvents := db.deliveryEvents ++ [row] }
  | .createConflict row, db => { db with deliveryConflicts := db.deliveryConflicts.insert row }
  | .updateConflict id data, db =>
      { db with deliveryConflicts := db.deliveryConflicts.modify id data.set }
  | .createAuditLog row, db => { db with auditLogs := db.auditLogs ++ [row] }
  | .createRecord row, db => { db with idempotencyRecords := db.idempotencyRecords.insert row }
  | .updateRecord key data, db =>
      { db with idempotencyRecords := db.idempotencyRecords.modify key data.set }
  | .createMessage row, db => { db with messages := db.messages.insert row }
  | .emit emission, db => { db with emitted := db.emitted ++ [emission] }

/-! ## The store -/

/-- A locked row, or a unique index entry that an open transaction has inserted. -/
inductive Lock where
  | delivery (id : Uuid)
  | deliveryCode (code : String)
  | stop (id : Uuid)
  | stopSequence (deliveryId : Uuid) (sequence : Int)
  | route (id : Uuid)
  | routeVersion (deliveryId : Uuid) (version : Nat)
  | pod (stopId : Uuid)
  | conflict (id : Uuid)
  | record (key : IdempotencyKey)
  | message (id : Uuid)
  deriving DecidableEq

/-- What the environment supplies to one call: a generated UUID, the clock, the
answer of the Redis rate counter, and a failure of the call's own. -/
structure Input where
  uuid : Uuid := 0
  now : Instant := 0
  rateCount : Nat := 1
  fault : Option PrismaError := none

/-- The database as the services use it: what its statements take, what they write and lock. -/
abbrev store : Signature where
  State := Db
  Write := Write
  Input := Input
  Lock := Lock
  Error := Exception
  apply := Write.apply
  clash := Eq
  fault input := input.fault.map Exception.prisma

/-- A call that takes locks, reads the store and writes. -/
def query {β : Type} (locks : Input → Db → List Lock)
    (body : Input → Db → Except PrismaError (β × List Write)) : Statement store β where
  locks := locks
  exec input db :=
    match input.fault with
    | some error => .error (.prisma error)
    | none =>
        match body input db with
        | .ok result => .ok result
        | .error error => .error (.prisma error)

/-- A call that only reads. -/
def select {β : Type} (body : Db → Except PrismaError β) : Statement store β :=
  query (fun _ _ => []) fun _ db => (body db).map fun value => (value, [])

/-! ## The calls, by model -/

namespace Prisma

/-- A unique constraint is violated. -/
def unique : PrismaError := .knownRequest .uniqueConstraint

/-- The row of an update is not there. -/
def notFound : PrismaError := .knownRequest .recordNotFound

/-- Fail with an error unless a condition holds. -/
def check (condition : Prop) [Decidable condition] (error : PrismaError) :
    Except PrismaError Unit :=
  if condition then .ok () else .error error

namespace Driver

/-- Read a driver. -/
def findUnique (id : Uuid) : Statement store (Option Driver) :=
  select fun db => .ok (db.drivers.find? id)

end Driver

namespace Vehicle

/-- Read a vehicle. -/
def findUnique (id : Uuid) : Statement store (Option Vehicle) :=
  select fun db => .ok (db.vehicles.find? id)

end Vehicle

namespace Delivery

/-- Read a delivery. -/
def findUnique (id : Uuid) : Statement store (Option Delivery) :=
  select fun db => .ok (db.delivery? id)

/-- Read a delivery by its code. -/
def findByCode (deliveryCode : String) : Statement store (Option Delivery) :=
  select fun db => .ok (db.deliveries.rows.find? fun row => row.deliveryCode = deliveryCode)

/-- `findUnique` with the stops in their sequence. -/
def findWithStops (id : Uuid) : Statement store (Option (Delivery × List DeliveryStop)) :=
  select fun db => .ok ((db.delivery? id).map fun row =>
    (row, (db.stopsOf id).insertionSort fun left right => left.sequence ≤ right.sequence))

/-- The data of `createDelivery`; `id` has a default. -/
def create (deliveryCode : String) (plannedStartAt : Option Instant) (createdBy : Uuid) :
    Statement store Delivery :=
  query (fun input _ => [.delivery input.uuid, .deliveryCode deliveryCode]) fun input db => do
    let row : Armada.Delivery := { id := input.uuid, deliveryCode, plannedStartAt, createdBy }
    check (db.delivery? row.id = none) unique
    check (∀ other ∈ db.deliveries.rows, other.deliveryCode ≠ deliveryCode) unique
    .ok (row, [.createDelivery row])

/-- Update a delivery, whatever its status. -/
def update (id : Uuid) (data : Input → DeliveryData) : Statement store Delivery :=
  query (fun _ _ => [.delivery id]) fun input db =>
    match db.delivery? id with
    | none => .error notFound
    | some row => .ok ((data input).set row, [.updateDelivery id (data input)])

/-- `updateMany` on one id with a condition on the status; the count of rows. -/
def updateMany (id : Uuid) (status : DeliveryStatus → Bool) (data : Input → DeliveryData) :
    Statement store Nat :=
  query
    (fun _ db => if (db.delivery? id).any fun row => status row.status then [.delivery id] else [])
    fun input db =>
      if (db.delivery? id).any fun row => status row.status then
        .ok (1, [.updateDelivery id (data input)])
      else .ok (0, [])

/-- `SELECT id FROM deliveries WHERE id = … FOR UPDATE`. -/
def selectForUpdate (id : Uuid) : Statement store Unit :=
  query (fun _ _ => [.delivery id]) fun _ _ => .ok ((), [])

end Delivery

namespace DeliveryItem

/-- Insert the items of a delivery. -/
def createMany (rows : List DeliveryItem) : Statement store Unit :=
  query (fun _ _ => []) fun _ _ => .ok ((), [.createItems rows])

end DeliveryItem

namespace DeliveryStop

/-- `findUnique` with `include: { delivery: true }`. -/
def findUnique (id : Uuid) : Statement store (Option (DeliveryStop × Armada.Delivery)) :=
  select fun db =>
    match db.stop? id with
    | none => .ok none
    | some stop =>
        match db.delivery? stop.deliveryId with
        | none => .error .unknownRequest
        | some delivery => .ok (some (stop, delivery))

/-- Read the stops of a delivery. -/
def findMany (deliveryId : Uuid) : Statement store (List DeliveryStop) :=
  select fun db => .ok (db.stopsOf deliveryId)

/-- The `INSERT` of `createDelivery`; the id is generated before the call. -/
def create (row : Uuid → DeliveryStop) : Statement store Unit :=
  query
    (fun input _ => [.stop (row input.uuid).id,
      .stopSequence (row input.uuid).deliveryId (row input.uuid).sequence])
    fun input db => do
      let row := row input.uuid
      check (db.stop? row.id = none) unique
      check (∀ other ∈ db.stopsOf row.deliveryId, other.sequence ≠ row.sequence) unique
      .ok ((), [.createStop row])

/-- Update a stop, whatever its status. -/
def update (id : Uuid) (data : Input → StopData) : Statement store DeliveryStop :=
  query (fun _ _ => [.stop id]) fun input db =>
    match db.stop? id with
    | none => .error notFound
    | some row => .ok ((data input).set row, [.updateStop id (data input)])

/-- The update of a stop's sequence, which has a unique index within the delivery. -/
def updateSequence (id : Uuid) (sequence : Int) : Statement store DeliveryStop :=
  query
    (fun _ db => .stop id :: ((db.stop? id).map fun row =>
      Lock.stopSequence row.deliveryId sequence).toList)
    fun _ db =>
      match db.stop? id with
      | none => .error notFound
      | some row => do
          check (∀ other ∈ db.stopsOf row.deliveryId, other.id ≠ id → other.sequence ≠ sequence)
            unique
          .ok ({ row with sequence }, [.updateStop id { sequence := some sequence }])

/-- The rows that the conditional updates of a stop select: the stop is in an
expected status and its delivery in none of the excluded ones. -/
def matched (db : Db) (id : Uuid) (expected : List StopStatus)
    (excluded : List DeliveryStatus) : Bool :=
  (db.stop? id).any fun stop =>
    stop.status ∈ expected && (db.parentStatus? stop).any fun status => status ∉ excluded

/-- Update a stop in one of the expected statuses, whose delivery is in none of the
excluded ones. -/
def updateMany (id : Uuid) (expected : List StopStatus) (excluded : List DeliveryStatus)
    (data : Input → StopData) : Statement store Nat :=
  query (fun _ db => if matched db id expected excluded then [.stop id] else [])
    fun input db =>
      if matched db id expected excluded then .ok (1, [.updateStop id (data input)])
      else .ok (0, [])

end DeliveryStop

namespace ProofOfDelivery

/-- Read the proof of a stop. -/
def findUnique (stopId : Uuid) : Statement store (Option ProofOfDelivery) :=
  select fun db => .ok (db.pod? stopId)

/-- The foreign key of a file column. -/
def checkFile (db : Db) (file : Option Uuid) : Except PrismaError Unit :=
  check (∀ id ∈ file, db.files.find? id ≠ none) (.knownRequest .foreignKeyConstraint)

variable [UuidText]

/-- Insert a proof; a stop has one at most. -/
def create (deliveryStopId : Uuid) (receiverName photoFileId signatureFileId notes : JsValue)
    (createdBy : Uuid) : Statement store ProofOfDelivery :=
  query (fun _ _ => [.pod deliveryStopId]) fun input db => do
    let receiverName ← receiverName.toVarChar 100
    let photoFileId ← photoFileId.orNull JsValue.toUuid
    let signatureFileId ← signatureFileId.orNull JsValue.toUuid
    let notes ← notes.orNull JsValue.toText
    check (db.pod? deliveryStopId = none) unique
    check (db.stop? deliveryStopId ≠ none) (.knownRequest .foreignKeyConstraint)
    checkFile db photoFileId
    checkFile db signatureFileId
    let row : Armada.ProofOfDelivery :=
      { id := input.uuid, deliveryStopId, receiverName, photoFileId, signatureFileId, notes,
        completedAt := input.now, createdBy }
    .ok (row, [.createPod row])

/-- The `upsert` of the conflict override, which sets no signature. -/
def upsert (deliveryStopId : Uuid) (receiverName photoFileId : JsValue) (notes : String)
    (createdBy : Uuid) : Statement store Unit :=
  query (fun _ _ => [.pod deliveryStopId]) fun input db => do
    let receiverName ← receiverName.toVarChar 100
    let photoFileId ← photoFileId.orNull JsValue.toUuid
    checkFile db photoFileId
    match db.pod? deliveryStopId with
    | some _ =>
        .ok ((), [.updatePod deliveryStopId { receiverName, photoFileId, notes := some notes }])
    | none => do
        check (db.stop? deliveryStopId ≠ none) (.knownRequest .foreignKeyConstraint)
        .ok ((), [.createPod
          { id := input.uuid, deliveryStopId, receiverName, photoFileId, signatureFileId := none,
            notes := some notes, completedAt := input.now, createdBy }])

end ProofOfDelivery

namespace DeliveryEvent

/-- Insert an event of a delivery. -/
def create (deliveryId : Uuid) (stopId : Option Uuid) (eventType : String) (actorUserId : Uuid)
    (metadataJson : EventMetadata) : Statement store Unit :=
  query (fun _ _ => []) fun input _ =>
    .ok ((), [.createEvent
      { id := input.uuid, deliveryId, stopId, eventType, actorUserId, metadataJson }])

end DeliveryEvent

namespace DeliveryConflict

/-- Read a ticket. -/
def findUnique (id : Uuid) : Statement store (Option DeliveryConflict) :=
  select fun db => .ok (db.conflict? id)

/-- Open a ticket. -/
def create (deliveryId : Uuid) (clientEventId conflictType serverState : String)
    (clientPayload : OutboxEventItem) : Statement store DeliveryConflict :=
  query (fun input _ => [.conflict input.uuid]) fun input db => do
    check (clientEventId.length ≤ 100) (.knownRequest .valueTooLong)
    let row : Armada.DeliveryConflict :=
      { id := input.uuid, deliveryId, clientEventId, conflictType, serverState, clientPayload }
    check (db.conflict? row.id = none) unique
    .ok (row, [.createConflict row])

/-- Update a ticket. -/
def update (id : Uuid) (data : Input → ResolutionData) : Statement store DeliveryConflict :=
  query (fun _ _ => [.conflict id]) fun input db =>
    match db.conflict? id with
    | none => .error notFound
    | some row => .ok ((data input).set row, [.updateConflict id (data input)])

end DeliveryConflict

namespace AuditLog

/-- Insert an audit row. -/
def create (row : AuditLog) : Statement store Unit :=
  query (fun _ _ => []) fun _ _ => .ok ((), [.createAuditLog row])

end AuditLog

namespace IdempotencyRecord

/-- Read a record. -/
def findUnique (key : IdempotencyKey) : Statement store (Option IdempotencyRecord) :=
  select fun db => .ok (db.record? key)

/-- A record that lives for 24 hours. -/
def create (key : IdempotencyKey) (responseStatus : Nat) (responseBody : ResponseBody) :
    Statement store Unit :=
  query (fun _ _ => [.record key]) fun input db => do
    check (db.record? key = none) unique
    .ok ((), [.createRecord
      { keyUserEndpoint := key, responseStatus, responseBody,
        expiresAt := input.now + 24 * 3600 * 1000 }])

/-- Update a record. -/
def update (key : IdempotencyKey) (data : ResponseData) : Statement store Unit :=
  query (fun _ _ => [.record key]) fun _ db => do
    check (db.record? key ≠ none) notFound
    .ok ((), [.updateRecord key data])

end IdempotencyRecord

namespace Route

/-- The distance and the duration of a route fit their columns. -/
def Storable (totalDistanceM estimatedDurationS : Rat) : Prop :=
  (∃ metres, asDecimal distanceColumn totalDistanceM = .ok metres) ∧
    ∃ seconds, asInt32 estimatedDurationS = .ok seconds

/-- `findFirst` ordered by version, descending; the version alone is selected. -/
def findMaxVersion (deliveryId : Uuid) : Statement store (Option Nat) :=
  select fun db => .ok ((db.routesOf deliveryId).map Route.version).max?

/-- Insert a route; a delivery has one for each version. -/
def create (deliveryId : Uuid) (version : Nat) (source : RouteSource) (totalDistanceM : Rat)
    (estimatedDurationS : Rat) : Statement store Route :=
  query (fun input _ => [.route input.uuid, .routeVersion deliveryId version])
    fun input db => do
      let estimatedDurationS ← asInt32 estimatedDurationS
      let totalDistanceM ← asDecimal distanceColumn totalDistanceM
      let row : Armada.Route :=
        { id := input.uuid, deliveryId, version, source, totalDistanceM, estimatedDurationS,
          selectedAt := input.now }
      check (db.routes.find? row.id = none) unique
      check (∀ other ∈ db.routesOf deliveryId, other.version ≠ version) unique
      .ok (row, [.createRoute row])

end Route

namespace RouteStop

/-- The inserted rows must differ in sequence and in stop, as the two unique
indexes of the model demand. -/
def createMany (rows : List RouteStop) : Statement store Unit :=
  query (fun _ _ => []) fun _ db => do
    check ((rows.map fun row => (row.routeId, row.sequence)).Nodup) unique
    check ((rows.map fun row => (row.routeId, row.deliveryStopId)).Nodup) unique
    check (∀ row ∈ rows, ∀ other ∈ db.routeStops, other.routeId = row.routeId →
      other.sequence ≠ row.sequence ∧ other.deliveryStopId ≠ row.deliveryStopId) unique
    .ok ((), [.createRouteStops rows])

end RouteStop

namespace Conversation

/-- Read a conversation. -/
def findUnique (id : Uuid) : Statement store (Option Conversation) :=
  select fun db => .ok (db.conversations.find? id)

end Conversation

namespace Device

/-- Read a device. -/
def findUnique (id : Uuid) : Statement store (Option Device) :=
  select fun db => .ok (db.devices.find? id)

end Device

namespace Message

/-- Insert a message, of devices that are there. -/
def create (conversationId senderUserId senderDeviceId recipientDeviceId : Uuid)
    (protocolVersion : Nat) (ciphertextBlob : String) (headerJson : List (String × JsValue)) :
    Statement store Message :=
  query (fun input _ => [.message input.uuid]) fun input db => do
    let row : Armada.Message :=
      { id := input.uuid, conversationId, senderUserId, senderDeviceId, recipientDeviceId,
        protocolVersion, ciphertextBlob, headerJson, createdAt := input.now }
    check (db.messages.find? row.id = none) unique
    .ok (row, [.createMessage row])

end Message

end Prisma

/-! ## Redis and the realtime gateway -/

/-- `incrRateLimit`: the counter lives outside the database, so its answer is an
input; without Redis it answers 1 and never fails. -/
def RedisService.incrRateLimit (_key : String) (_windowSeconds : Nat) : Statement store Nat where
  locks _ _ := []
  exec input _ := .ok (input.rateCount, [])

/-- `server.to(room).emit`, for each of the rooms. -/
def RealtimeGateway.emit (rooms : List Room) (payload : RealtimePayload) (actor : RealtimeActor) :
    Statement store Unit where
  locks _ _ := []
  exec _ _ := .ok ((), rooms.map fun room => .emit { room, payload, actor })

end Armada
