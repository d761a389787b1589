import Mathlib.Data.Rat.Init
import Armada.Relational.Table

/-!
# The database schema

The enums and models of `prisma/schema.prisma`, with the columns the services
below read or write. Column names are those of the Prisma client. Keys are the
primary keys, except where a service addresses a model by a unique index of its
own: a proof of delivery by its stop, an idempotency record by its triple.
-/

namespace Armada

open Relational

/-- A value of a `uuid` column. -/
abbrev Uuid := Nat

/-- A point in time, in milliseconds. -/
abbrev Instant := Nat

/-- How a text spells a UUID: as the database prints it, or with some of its letters in upper
case, which the pipe of a path parameter and the database read all the same. -/
inductive Spelling where
  | canonical
  | other (number : Nat)
  deriving DecidableEq

/-- A text that spells a UUID. Columns of text, names of rooms and messages keep it as it is;
a `uuid` column keeps the UUID. -/
structure IdText where
  uuid : Uuid
  spelling : Spelling := .canonical
  deriving DecidableEq

/-- A stored UUID, as it is printed. -/
def Uuid.text (uuid : Uuid) : IdText := { uuid }

/-- The printed text of a UUID spells it. -/
@[simp] theorem Uuid.uuid_text (id : Uuid) : id.text.uuid = id := rfl

/-- Different UUIDs are printed differently. -/
@[simp] theorem Uuid.text_inj {first second : Uuid} : first.text = second.text ↔ first = second :=
  ⟨congrArg IdText.uuid, congrArg Uuid.text⟩

/-- Where a UUID is asked for, the text is read. -/
instance : CoeOut IdText Uuid := ⟨IdText.uuid⟩

instance (uuid : Nat) : OfNat IdText uuid := ⟨{ uuid }⟩

instance : ToString IdText where
  toString text :=
    match text.spelling with
    | .canonical => toString text.uuid
    | .other number => s!"{text.uuid}/{number}"

/-- Which strings spell a UUID, and which one. The parser is that of the
database driver. -/
class UuidText where
  parse : String → Option Uuid

/-- A JavaScript value as far as the services look into it. Arrays and objects
are truthy and fit no scalar column. -/
inductive JsValue where
  | undefined
  | null
  | bool (value : Bool)
  | number (value : Rat)
  | string (text : String)
  | composite
  deriving DecidableEq

/-- Conversion to boolean. -/
def JsValue.truthy : JsValue → Bool
  | .undefined => false
  | .null => false
  | .bool value => value
  | .number value => value ≠ 0
  | .string text => text ≠ ""
  | .composite => true

/-- The operator `||`. -/
def JsValue.or (first second : JsValue) : JsValue :=
  if first.truthy then first else second

/-! ## Enums -/

/-- The roles of the code's checks. -/
inductive Role where
  | driver
  | owner
  | admin
  | superAdmin
  deriving DecidableEq

/-- The statuses of a delivery. -/
inductive DeliveryStatus where
  | draft
  | assigned
  | accepted
  | enRoute
  | completed
  | cancelled
  | failed
  deriving DecidableEq

/-- The statuses of a stop. -/
inductive StopStatus where
  | pending
  | enRoute
  | arrived
  | unloading
  | delivered
  | failed
  | skipped
  deriving DecidableEq

/-- How the order of the stops was chosen. -/
inductive RouteMode where
  | manual
  | recommended2opt
  deriving DecidableEq

/-- Where a route comes from. -/
inductive RouteSource where
  | manual
  | recommended2opt
  | externalOsrm
  deriving DecidableEq

/-- The statuses of a ticket. -/
inductive ConflictStatus where
  | opened
  | resolvedOverridden
  | resolvedDiscarded
  deriving DecidableEq

/-- The statuses of a device. -/
inductive DeviceStatus where
  | active
  | revoked
  deriving DecidableEq

/-- The spelling of a status in messages. -/
def DeliveryStatus.name : DeliveryStatus → String
  | .draft => "DRAFT"
  | .assigned => "ASSIGNED"
  | .accepted => "ACCEPTED"
  | .enRoute => "EN_ROUTE"
  | .completed => "COMPLETED"
  | .cancelled => "CANCELLED"
  | .failed => "FAILED"

/-- The spelling of a stop's status in messages. -/
def StopStatus.name : StopStatus → String
  | .pending => "PENDING"
  | .enRoute => "EN_ROUTE"
  | .arrived => "ARRIVED"
  | .unloading => "UNLOADING"
  | .delivered => "DELIVERED"
  | .failed => "FAILED"
  | .skipped => "SKIPPED"

/-- The spelling of a ticket's status in messages. -/
def ConflictStatus.name : ConflictStatus → String
  | .opened => "OPEN"
  | .resolvedOverridden => "RESOLVED_OVERRIDDEN"
  | .resolvedDiscarded => "RESOLVED_DISCARDED"

/-- `TERMINAL_DELIVERY_STATUSES`, declared alike in three services. -/
def terminalDeliveryStatuses : List DeliveryStatus := [.completed, .cancelled, .failed]

/-- A delivery status that ends the delivery. -/
def DeliveryStatus.Terminal (status : DeliveryStatus) : Prop :=
  status ∈ terminalDeliveryStatuses

instance (status : DeliveryStatus) : Decidable status.Terminal :=
  inferInstanceAs (Decidable (status ∈ terminalDeliveryStatuses))

/-- The set `terminalStatuses` of the completion evaluator. -/
def terminalStatuses : List StopStatus := [.delivered, .failed, .skipped]

/-- The evaluator counts the stop as finished. -/
def StopStatus.Terminal (status : StopStatus) : Prop :=
  status ∈ terminalStatuses

instance (status : StopStatus) : Decidable status.Terminal :=
  inferInstanceAs (Decidable (status ∈ terminalStatuses))

/-! ## Models -/

/-- A row of `drivers`, as far as deliveries look into it. -/
structure Driver where
  id : Uuid
  userId : Uuid
  organizationId : Option Uuid := none
  deriving DecidableEq

/-- A row of `vehicles`, as far as deliveries look into it. -/
structure Vehicle where
  id : Uuid
  organizationId : Option Uuid := none
  deriving DecidableEq

/-- A row of `deliveries`. -/
structure Delivery where
  id : Uuid
  deliveryCode : String
  driverId : Option Uuid := none
  vehicleId : Option Uuid := none
  organizationId : Option Uuid := none
  status : DeliveryStatus := .draft
  routeMode : RouteMode := .recommended2opt
  plannedStartAt : Option Instant := none
  startedAt : Option Instant := none
  completedAt : Option Instant := none
  createdBy : Uuid
  deriving DecidableEq

/-- A row of `delivery_items`. -/
structure DeliveryItem where
  deliveryId : Uuid
  itemCode : String
  itemName : String
  quantity : Rat
  unit : String
  weightKg : Option Rat
  volumeM3 : Option Rat
  deriving DecidableEq

/-- A row of `delivery_stops`. -/
structure DeliveryStop where
  id : Uuid
  deliveryId : Uuid
  sequence : Int
  destinationName : String := ""
  address : String := ""
  latitude : Rat := 0
  longitude : Rat := 0
  geofenceRadiusM : Rat := 100
  status : StopStatus := .pending
  arrivedAt : Option Instant := none
  completedAt : Option Instant := none
  deriving DecidableEq

/-- A row of `routes`: one version of the route of a delivery. -/
structure Route where
  id : Uuid
  deliveryId : Uuid
  version : Nat
  source : RouteSource
  totalDistanceM : Rat
  estimatedDurationS : Int
  selectedAt : Instant
  deriving DecidableEq

/-- A row of `route_stops`: a stop of one version, and its place there. -/
structure RouteStop where
  routeId : Uuid
  deliveryStopId : Uuid
  sequence : Int
  deriving DecidableEq

/-- A row of `proofs_of_delivery`, one for a stop at most. -/
structure ProofOfDelivery where
  id : Uuid
  deliveryStopId : Uuid
  receiverName : String
  signatureFileId : Option Uuid
  photoFileId : Option Uuid
  notes : Option String
  completedAt : Instant
  createdBy : Uuid
  deriving DecidableEq

/-- A row of `files`, as far as a proof looks into it. -/
structure FileRecord where
  id : Uuid
  uploadedBy : Uuid
  deriving DecidableEq

/-- `metadata_json` of the events the services record. -/
inductive EventMetadata where
  | pod (podId : Uuid) (receiverName : String)
  | reason (text : String)
  deriving DecidableEq

/-- A row of `delivery_events`. -/
structure DeliveryEvent where
  id : Uuid
  deliveryId : Uuid
  stopId : Option Uuid
  eventType : String
  actorUserId : Uuid
  metadataJson : EventMetadata
  deriving DecidableEq

/-- The properties of an offline event's payload that the services read. Every
other payload, an array or a string among them, has all of them undefined. -/
structure OutboxPayload where
  deliveryStopId : JsValue := .undefined
  stopId : JsValue := .undefined
  receiverName : JsValue := .undefined
  photoFileId : JsValue := .undefined
  signatureFileId : JsValue := .undefined
  notes : JsValue := .undefined
  deriving DecidableEq

/-- An event that a driver's device has recorded offline. -/
structure OutboxEventItem where
  clientEventId : String
  eventType : String
  payload : OutboxPayload
  idempotencyKey : Option Uuid := none
  deriving DecidableEq

/-- A row of `delivery_conflicts`: the ticket of an offline event that was rejected. -/
structure DeliveryConflict where
  id : Uuid
  deliveryId : Uuid
  clientEventId : String
  conflictType : String
  serverState : String
  clientPayload : OutboxEventItem
  status : ConflictStatus := .opened
  resolvedBy : Option Uuid := none
  resolutionNotes : Option String := none
  resolvedAt : Option Instant := none
  deriving DecidableEq

/-- A row of `audit_logs`. The services differ in what they know of the actor and of the entity,
and in what they put in `before_json` and `after_json`. -/
structure AuditEntry (Actor Entity Detail : Type) where
  actorUserId : Actor
  action : String
  entityType : String
  entityId : Entity
  result : String
  ipAddress : Option String := none
  userAgent : Option String := none
  detail : Option Detail := none
  deriving DecidableEq

/-- `after_json` of the audit rows the services record. -/
inductive AuditDetail where
  | assignment (driverId vehicleId : Uuid)
  | cancellation (reason : String)
  | resolution (status : ConflictStatus) (notes : Option String)
  deriving DecidableEq

/-- The entity is named as the request spells it. -/
abbrev AuditLog := AuditEntry Uuid IdText AuditDetail

/-- A row of `conversations`: its two members. -/
structure Conversation where
  id : Uuid
  ownerId : Uuid
  driverId : Uuid
  deriving DecidableEq

/-- A row of `devices`, as far as messages look into it. -/
structure Device where
  id : Uuid
  userId : Uuid
  status : DeviceStatus := .active
  deriving DecidableEq

/-- A row of `messages`. -/
structure Message where
  id : Uuid
  conversationId : Uuid
  senderUserId : Uuid
  senderDeviceId : Uuid
  recipientDeviceId : Uuid
  protocolVersion : Nat
  ciphertextBlob : String
  headerJson : List (String × JsValue)
  createdAt : Instant
  deliveredAt : Option Instant := none
  readAt : Option Instant := none
  deriving DecidableEq

/-- `response_body` of an idempotency record: the placeholder of a claimed key,
or the result of the operation that claimed it. -/
inductive ResponseBody where
  | pending
  | pod (podId deliveryStopId : Uuid) (completedAt : Instant)
  | route (routeId deliveryId : Uuid) (version : Nat) (source : RouteSource)
      (selectedAt : Instant)
  | reorder (routeId : Uuid) (deliveryId : IdText) (version : Nat) (source : RouteSource)
      (updatedAt : Instant)
  | message (message : Message)
  deriving DecidableEq

/-- The unique triple of an idempotency record. -/
structure IdempotencyKey where
  key : Uuid
  userId : Uuid
  endpoint : String
  deriving DecidableEq

/-- A row of `idempotency_records`. -/
structure IdempotencyRecord where
  keyUserEndpoint : IdempotencyKey
  responseStatus : Nat
  responseBody : ResponseBody
  expiresAt : Instant
  deriving DecidableEq

instance : Keyed Driver Uuid := ⟨Driver.id⟩
instance : Keyed Vehicle Uuid := ⟨Vehicle.id⟩
instance : Keyed Delivery Uuid := ⟨Delivery.id⟩
instance : Keyed DeliveryStop Uuid := ⟨DeliveryStop.id⟩
instance : Keyed Route Uuid := ⟨Route.id⟩
instance : Keyed ProofOfDelivery Uuid := ⟨ProofOfDelivery.deliveryStopId⟩
instance : Keyed FileRecord Uuid := ⟨FileRecord.id⟩
instance : Keyed DeliveryConflict Uuid := ⟨DeliveryConflict.id⟩
instance : Keyed Conversation Uuid := ⟨Conversation.id⟩
instance : Keyed Device Uuid := ⟨Device.id⟩
instance : Keyed Message Uuid := ⟨Message.id⟩
instance : Keyed IdempotencyRecord IdempotencyKey := ⟨IdempotencyRecord.keyUserEndpoint⟩

/-! ## Realtime events -/

/-- A room of Socket.IO that the services emit to; its name holds the text of the id. -/
inductive Room where
  | delivery (id : IdText)
  | fleetMonitoring
  deriving DecidableEq

/-- The events of a delivery, with what the clients read of them. -/
inductive RealtimePayload where
  | deliveryStatusChanged (deliveryId : IdText) (status : DeliveryStatus)
  | stopStatusChanged (deliveryId stopId : Uuid) (status : StopStatus)
  | podCreated (deliveryId stopId : Uuid) (podId : Option Uuid)
  | routeUpdated (deliveryId : IdText) (routeId : Uuid) (version : Nat) (source : RouteSource)
  deriving DecidableEq

/-- Who has caused an event. -/
structure RealtimeActor where
  userId : Uuid
  role : Role
  driverId : Option Uuid
  deriving DecidableEq

/-- An envelope emitted to a room. -/
structure Emission where
  room : Room
  payload : RealtimePayload
  actor : RealtimeActor
  deriving DecidableEq

/-- The store the services share: the tables, and the log of emitted events. -/
structure Db where
  drivers : Table Driver := .empty
  vehicles : Table Vehicle := .empty
  deliveries : Table Delivery := .empty
  deliveryItems : List DeliveryItem := []
  deliveryStops : Table DeliveryStop := .empty
  routes : Table Route := .empty
  routeStops : List RouteStop := []
  proofsOfDelivery : Table ProofOfDelivery := .empty
  files : Table FileRecord := .empty
  deliveryEvents : List DeliveryEvent := []
  deliveryConflicts : Table DeliveryConflict := .empty
  auditLogs : List AuditLog := []
  idempotencyRecords : Table IdempotencyRecord := .empty
  conversations : Table Conversation := .empty
  devices : Table Device := .empty
  messages : Table Message := .empty
  emitted : List Emission := []

namespace Db

/-- The delivery with an id. -/
def delivery? (db : Db) (id : Uuid) : Option Delivery := db.deliveries.find? id

/-- The stop with an id. -/
def stop? (db : Db) (id : Uuid) : Option DeliveryStop := db.deliveryStops.find? id

/-- The proof of a stop. -/
def pod? (db : Db) (stopId : Uuid) : Option ProofOfDelivery := db.proofsOfDelivery.find? stopId

/-- The record of a key. -/
def record? (db : Db) (key : IdempotencyKey) : Option IdempotencyRecord :=
  db.idempotencyRecords.find? key

/-- The ticket with an id. -/
def conflict? (db : Db) (id : Uuid) : Option DeliveryConflict := db.deliveryConflicts.find? id

/-- The stops of a delivery. -/
def stopsOf (db : Db) (deliveryId : Uuid) : List DeliveryStop :=
  db.deliveryStops.rows.filter fun stop => stop.deliveryId = deliveryId

/-- The versions of the route of a delivery, in the order made. -/
def routesOf (db : Db) (deliveryId : Uuid) : List Route :=
  db.routes.rows.filter fun route => route.deliveryId = deliveryId

/-- The status of the delivery a stop belongs to; foreign keys make it defined. -/
def parentStatus? (db : Db) (stop : DeliveryStop) : Option DeliveryStatus :=
  (db.delivery? stop.deliveryId).map Delivery.status

end Db

end Armada
