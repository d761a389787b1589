import Armada.Calls
import Armada.Requests
import Armada.Concurrency.RelyGuarantee

/-!
# What a request can commit

Every commit of every request is, up to rows that no other request decides by,
one of the effects below: the writes, with what the code has established about
the state they are committed in. The theorems about runs are proved from this
list and not from the code.
-/

namespace Armada

open Relational Concurrency

/-- A write to none of the deliveries, stops, proofs, tickets and routes. -/
def Write.ancillary : Write → Bool
  | .createItems _ | .createEvent _ | .createAuditLog _ | .createRecord _ | .updateRecord _ _
  | .createMessage _ | .emit _ => true
  | _ => false

/-- The writes that a lifecycle sees: all but the ancillary ones. -/
def essential (writes : List Write) : List Write :=
  writes.filter fun write => !write.ancillary

/-- No writes, no essential ones. -/
@[simp] theorem essential_nil : essential [] = [] := rfl

/-- Those of two parts come one after the other. -/
@[simp] theorem essential_append (first second : List Write) :
    essential (first ++ second) = essential first ++ essential second :=
  List.filter_append first second

/-- Each write is essential or not by itself. -/
theorem essential_cons (write : Write) (writes : List Write) :
    essential (write :: writes) =
      if write.ancillary then essential writes else write :: essential writes := by
  rw [essential, List.filter_cons]
  cases write.ancillary <;> rfl

/-- Writes that all count are all essential. -/
theorem essential_map {α : Type} {write : α → Write}
    (counts : ∀ item, (write item).ancillary = false) (items : List α) :
    essential (items.map write) = items.map write := by
  simp [essential, List.filter_map, Function.comp_def, counts]

namespace Db

/-- A part of the store on which none of the writes acts is as before. -/
theorem commit_idle {β : Type} (look : Db → β) {writes : List Write}
    (idle : ∀ write ∈ writes, ∀ db, look (write.apply db) = look db) (db : Db) :
    look (db.commit writes) = look db := by
  induction writes generalizing db with
  | nil => rfl
  | cons write writes inductionHypothesis =>
      rw [commit_cons, inductionHypothesis fun later member =>
        idle later (List.mem_cons_of_mem _ member)]
      exact idle write List.mem_cons_self db

/-- Two stores with the same deliveries, stops, proofs, tickets and routes. -/
structure Agree (left right : Db) : Prop where
  deliveries : left.deliveries = right.deliveries
  deliveryStops : left.deliveryStops = right.deliveryStops
  proofsOfDelivery : left.proofsOfDelivery = right.proofsOfDelivery
  deliveryConflicts : left.deliveryConflicts = right.deliveryConflicts
  routes : left.routes = right.routes
  routeStops : left.routeStops = right.routeStops

namespace Agree

variable {left right : Db}

/-- Agreement goes both ways. -/
theorem symm (agree : left.Agree right) : right.Agree left :=
  ⟨agree.deliveries.symm, agree.deliveryStops.symm, agree.proofsOfDelivery.symm,
    agree.deliveryConflicts.symm, agree.routes.symm, agree.routeStops.symm⟩

/-- Two stores that agree do so after one more write. -/
theorem apply (agree : left.Agree right) (write : Write) :
    (write.apply left).Agree (write.apply right) := by
  obtain ⟨deliveries, deliveryStops, proofsOfDelivery, deliveryConflicts, routes, routeStops⟩ := agree
  cases write <;> constructor <;> simp only [Write.apply, *]

/-- An ancillary write breaks no agreement. -/
theorem apply_ancillary (agree : left.Agree right) {write : Write}
    (ancillary : write.ancillary = true) : left.Agree (write.apply right) := by
  obtain ⟨deliveries, deliveryStops, proofsOfDelivery, deliveryConflicts, routes, routeStops⟩ := agree
  cases write <;> first | constructor <;> assumption | cases ancillary

/-- They have the same deliveries. -/
theorem delivery? (agree : left.Agree right) (id : Uuid) : left.delivery? id = right.delivery? id := by
  rw [Db.delivery?, agree.deliveries, Db.delivery?]

/-- They have the same stops. -/
theorem stop? (agree : left.Agree right) (id : Uuid) : left.stop? id = right.stop? id := by
  rw [Db.stop?, agree.deliveryStops, Db.stop?]

/-- They have the same proofs. -/
theorem pod? (agree : left.Agree right) (stopId : Uuid) : left.pod? stopId = right.pod? stopId := by
  rw [Db.pod?, agree.proofsOfDelivery, Db.pod?]

/-- They have the same tickets. -/
theorem conflict? (agree : left.Agree right) (id : Uuid) :
    left.conflict? id = right.conflict? id := by
  rw [Db.conflict?, agree.deliveryConflicts, Db.conflict?]

/-- They have the same stops of each delivery. -/
theorem stopsOf (agree : left.Agree right) (deliveryId : Uuid) :
    left.stopsOf deliveryId = right.stopsOf deliveryId := by
  rw [Db.stopsOf, agree.deliveryStops, Db.stopsOf]

/-- An update by status finds the same row in both. -/
theorem matched (agree : left.Agree right) (id : Uuid) (expected : List StopStatus)
    (excluded : List DeliveryStatus) :
    Prisma.DeliveryStop.matched left id expected excluded =
      Prisma.DeliveryStop.matched right id expected excluded := by
  simp only [Prisma.DeliveryStop.matched, parentStatus?, agree.stop?, agree.delivery?]

end Agree

/-- The essential writes leave a store that agrees with what all writes leave. -/
theorem commit_essential (db : Db) (writes : List Write) :
    (db.commit (essential writes)).Agree (db.commit writes) := by
  have along : ∀ (writes : List Write) (left right : Db), left.Agree right →
      (left.commit (essential writes)).Agree (right.commit writes) := by
    intro writes
    induction writes with
    | nil => exact fun left right agree => agree
    | cons write writes inductionHypothesis =>
        intro left right agree
        rw [essential_cons, commit_cons]
        split
        · rename_i ancillary
          exact inductionHypothesis _ _ (agree.apply_ancillary ancillary)
        · exact inductionHypothesis _ _ (agree.apply write)
  exact along writes db db ⟨rfl, rfl, rfl, rfl, rfl, rfl⟩

/-- Ancillary writes leave a store that agrees. -/
theorem agree_commit_of_ancillary (db : Db) {writes : List Write} (only : essential writes = []) :
    db.Agree (db.commit writes) := by
  have agree := db.commit_essential writes
  rw [only] at agree
  exact agree

end Db

/-- The five steps that a driver or an operator takes with a stop. -/
inductive StopMove where
  | depart
  | arrive
  | unload
  | fail
  | skip
  deriving DecidableEq

/-- The statuses that a step may start from, as the code lists them. -/
def StopMove.expected : StopMove → List StopStatus
  | .depart => [.pending]
  | .arrive => [.enRoute, .pending]
  | .unload => [.arrived]
  | .fail => [.arrived, .unloading, .enRoute]
  | .skip => [.pending]

/-- The status that a step leads to. -/
def StopMove.target : StopMove → StopStatus
  | .depart => .enRoute
  | .arrive => .arrived
  | .unload => .unloading
  | .fail => .failed
  | .skip => .skipped

/-- The requests that may complete a delivery because its stops are finished. -/
def Request.completes : Request → Bool
  | .completeDelivery .. | .failStop .. | .skipStop .. | .submitPod .. | .syncOutbox .. => true
  | _ => false

/-- The steps with a stop that a request may take. -/
def Request.takes : Request → StopMove → Bool
  | .departToStop .., move => move = .depart
  | .arriveAtStop .., move => move = .arrive
  | .startUnloading .., move => move = .unload
  | .failStop .., move => move = .fail
  | .skipStop .., move => move = .skip
  | .syncOutbox .., move => move = .depart ∨ move = .arrive ∨ move = .unload
  | _, _ => false

/-- The requests that may submit a proof of delivery. -/
def Request.submits : Request → Bool
  | .submitPod .. | .syncOutbox .. => true
  | _ => false

/-- A request to override a conflict. -/
def Request.overrides : Request → Bool
  | .resolveConflict _ dto _ _ => dto.status = .resolvedOverridden
  | _ => false

/-- The move of a stop to another place in the sequence. -/
def Write.resequence (item : Uuid × Int) : Write :=
  .updateStop item.1 { sequence := some item.2 }

/-- The proof of delivery that an override leaves behind: where the payload names a
receiver, its name and its photo. -/
inductive OverrideEvidence [UuidText] (payload : OutboxPayload) (stopId : Uuid) (db : Db) :
    List Write → Prop where
  | none (unnamed : payload.receiverName.truthy = false) : OverrideEvidence payload stopId db []
  | updated {data : PodData} (named : payload.receiverName.truthy = true)
      (present : db.pod? stopId ≠ Option.none)
      (receiver : payload.receiverName.toVarChar 100 = .ok data.receiverName)
      (photo : payload.photoFileId.orNull JsValue.toUuid = .ok data.photoFileId) :
      OverrideEvidence payload stopId db [.updatePod stopId data]
  | created {row : ProofOfDelivery} (named : payload.receiverName.truthy = true)
      (absent : db.pod? stopId = Option.none) (ofStop : row.deliveryStopId = stopId)
      (receiver : payload.receiverName.toVarChar 100 = .ok row.receiverName)
      (photo : payload.photoFileId.orNull JsValue.toUuid = .ok row.photoFileId)
      (unsigned : row.signatureFileId = Option.none) :
      OverrideEvidence payload stopId db [.createPod row]

/-- The completion that an override may bring about. -/
inductive OverrideCompletion (deliveryId : Uuid) (db : Db) : List Write → Prop where
  | unfinished (remain : DeliveryConflictsService.overrideCompletes (db.stopsOf deliveryId) = false) :
      OverrideCompletion deliveryId db []
  | completed {row : Delivery} {now : Instant} (found : db.delivery? deliveryId = some row)
      (finished : DeliveryConflictsService.overrideCompletes (db.stopsOf deliveryId) = true) :
      OverrideCompletion deliveryId db
        [.updateDelivery deliveryId { status := some .completed, completedAt := some now }]

/-- The evidence of an override is essential. -/
theorem OverrideEvidence.essential_eq [UuidText] {payload : OutboxPayload} {stopId : Uuid}
    {db : Db} {writes : List Write} (evidence : OverrideEvidence payload stopId db writes) :
    essential writes = writes := by
  cases evidence <;> rfl

/-- So is the completion it brings about. -/
theorem OverrideCompletion.essential_eq {deliveryId : Uuid} {db : Db} {writes : List Write}
    (completion : OverrideCompletion deliveryId db writes) : essential writes = writes := by
  cases completion <;> rfl

/-- What a resolution changes besides its ticket: nothing, unless it overrides a ticket
whose payload names a stop. -/
inductive Override [UuidText] (conflict : DeliveryConflict) (dto : ResolveConflictDto) (db : Db) :
    List Write → Prop where
  | plain (plain : dto.status = .resolvedOverridden →
      conflict.clientPayload.payload.target.truthy = false) : Override conflict dto db []
  | overridden {stopId : Uuid} {stop : DeliveryStop} {delivered : StopData}
      {evidence completion : List Write} (status : dto.status = .resolvedOverridden)
      (named : conflict.clientPayload.payload.target.truthy = true)
      (target : conflict.clientPayload.payload.target.toUuid = .ok stopId)
      (stopFound : db.stop? stopId = some stop)
      (evidenced : OverrideEvidence conflict.clientPayload.payload stopId db evidence)
      (outcome : delivered.status = some .delivered) (order : delivered.sequence = Option.none)
      (completes : OverrideCompletion conflict.deliveryId
        ((Write.updateStop stopId delivered).apply db) completion) :
      Override conflict dto db (evidence ++ [.updateStop stopId delivered] ++ completion)

/-- The audit row of a resolution. -/
def resolutionLog (conflictId : IdText) (dto : ResolveConflictDto) (actorUserId : Uuid) : AuditLog where
  actorUserId := actorUserId
  action := "CONFLICT_RESOLVED"
  entityType := "DELIVERY_CONFLICT"
  entityId := conflictId
  result := "SUCCESS"
  detail := some (.resolution dto.status dto.resolutionNotes)

/-- All that a resolution commits, on a ticket that need not be open any more. -/
inductive Resolution [UuidText] (conflict : DeliveryConflict) (conflictId : IdText)
    (dto : ResolveConflictDto) (actorUserId : Uuid) (db : Db) : List Write → Prop where
  | intro {ticket : DeliveryConflict} {data : ResolutionData} {changes : List Write}
      (found : db.conflict? conflictId = some ticket) (status : data.status = dto.status)
      (changed : Override conflict dto db changes) :
      Resolution conflict conflictId dto actorUserId db
        (.updateConflict conflictId data :: changes ++
          [.createAuditLog (resolutionLog conflictId dto actorUserId)])

/-- The essential writes of one commit of a request, and what holds of the state
they are committed in. -/
inductive Effect [UuidText] : Request → List Write → Db → Prop where
  | none {request : Request} {db : Db} : Effect request [] db
  | created {dto : CreateDeliveryDto} {creatorUserId : Uuid} {db : Db} {row : Delivery}
      {stops : List DeliveryStop} (fresh : db.delivery? row.id = Option.none)
      (draft : row.status = .draft)
      (pending : ∀ stop ∈ stops, stop.status = .pending ∧ stop.deliveryId = row.id ∧
        db.stop? stop.id = Option.none) :
      Effect (.createDelivery dto creatorUserId) (.createDelivery row :: stops.map .createStop) db
  | assigned {deliveryId : IdText} {dto : AssignDeliveryDto} {actor : DeliveryActor} {db : Db}
      {row : Delivery} (found : db.delivery? deliveryId = some row) :
      Effect (.assignDelivery deliveryId dto actor)
        [.updateDelivery deliveryId
          { driverId := some dto.driverId, vehicleId := some dto.vehicleId,
            status := some .assigned }] db
  | accepted {deliveryId : IdText} {actorDriverId actorUserId : Uuid} {db : Db} {row : Delivery}
      (found : db.delivery? deliveryId = some row) :
      Effect (.acceptDelivery deliveryId actorDriverId actorUserId)
        [.updateDelivery deliveryId { status := some .accepted }] db
  | started {deliveryId : IdText} {actorDriverId actorUserId : Uuid} {db : Db} {row : Delivery}
      {now : Instant} (found : db.delivery? deliveryId = some row) :
      Effect (.startDelivery deliveryId actorDriverId actorUserId)
        [.updateDelivery deliveryId { status := some .enRoute, startedAt := some now }] db
  | completed {request : Request} {deliveryId : Uuid} {db : Db} {row : Delivery}
      {target : DeliveryStatus} {now : Instant} (able : request.completes = true)
      (found : db.delivery? deliveryId = some row)
      (enRoute : row.status = .enRoute)
      (verdict : DeliveriesService.evaluateStops (db.stopsOf deliveryId) =
        { completed := true, targetStatus := some target }) :
      Effect request
        [.updateDelivery deliveryId { status := some target, completedAt := some now }] db
  | cancelled {deliveryId : IdText} {dto : CancelDeliveryDto} {actor : DeliveryActor} {db : Db}
      {row : Delivery} (found : db.delivery? deliveryId = some row)
      (operational : ¬row.status.Terminal) :
      Effect (.cancelDelivery deliveryId dto actor)
        [.updateDelivery deliveryId { status := some .cancelled }] db
  | moved {request : Request} {stopId : Uuid} {db : Db} {data : StopData} (move : StopMove)
      (able : request.takes move = true)
      (matched : Prisma.DeliveryStop.matched db stopId move.expected terminalDeliveryStatuses = true)
      (target : data.status = some move.target) (order : data.sequence = Option.none) :
      Effect request [.updateStop stopId data] db
  | delivered {request : Request} {stopId : Uuid} {db : Db} {data : StopData}
      {row : ProofOfDelivery} (able : request.submits = true)
      (matched : Prisma.DeliveryStop.matched db stopId [.unloading, .arrived]
        terminalDeliveryStatuses = true)
      (target : data.status = some .delivered) (order : data.sequence = Option.none)
      (absent : db.pod? stopId = Option.none) (ofStop : row.deliveryStopId = stopId) :
      Effect request [.updateStop stopId data, .createPod row] db
  | ticketed {dto : OutboxSyncDto} {actorDriverId actorUserId : Uuid} {db : Db}
      {row : DeliveryConflict} {stopId : Uuid} {stop : DeliveryStop}
      (fresh : db.conflict? row.id = Option.none)
      (target : row.clientPayload.payload.target.toUuid = .ok stopId)
      (found : db.stop? stopId = some stop) (owner : stop.deliveryId = row.deliveryId) :
      Effect (.syncOutbox dto actorDriverId actorUserId) [.createConflict row] db
  | resolved {conflictId : IdText} {dto : ResolveConflictDto} {actorUserId : Uuid}
      {actorRole : Role} {db : Db} {conflict : DeliveryConflict} {data : ResolutionData}
      (found : db.conflict? conflictId = some conflict)
      (plain : dto.status = .resolvedOverridden →
        conflict.clientPayload.payload.target.truthy = false) :
      Effect (.resolveConflict conflictId dto actorUserId actorRole)
        [.updateConflict conflictId data] db
  | overridden {conflictId : IdText} {dto : ResolveConflictDto} {actorUserId : Uuid}
      {actorRole : Role} {db : Db} {conflict : DeliveryConflict} {stopId : Uuid}
      {stop : DeliveryStop} {data : ResolutionData} {delivered : StopData}
      {evidence completion : List Write} (status : dto.status = .resolvedOverridden)
      (found : db.conflict? conflictId = some conflict)
      (named : conflict.clientPayload.payload.target.truthy = true)
      (target : conflict.clientPayload.payload.target.toUuid = .ok stopId)
      (stopFound : db.stop? stopId = some stop)
      (evidenced : OverrideEvidence conflict.clientPayload.payload stopId db evidence)
      (outcome : delivered.status = some .delivered) (order : delivered.sequence = Option.none)
      (completes : OverrideCompletion conflict.deliveryId
        ((Write.updateStop stopId delivered).apply db) completion) :
      Effect (.resolveConflict conflictId dto actorUserId actorRole)
        (.updateConflict conflictId data :: evidence ++ [.updateStop stopId delivered] ++
          completion) db
  | selected {deliveryId : IdText} {dto : SelectRouteDto} {actor : RouteActor} {db : Db}
      {route : Route} {rows : List RouteStop} {mode : RouteMode}
      (ofDelivery : route.deliveryId = deliveryId) (fresh : db.routes.find? route.id = Option.none) :
      Effect (.selectRoute deliveryId dto actor)
        [.createRoute route, .createRouteStops rows,
          .updateDelivery deliveryId { routeMode := some mode }] db
  | reordered {deliveryId : IdText} {dto : ManualReorderDto} {actor : RouteActor} {db : Db}
      {route : Route} {rows : List RouteStop} {mode : RouteMode} {moves : List (Uuid × Int)}
      (ofDelivery : route.deliveryId = deliveryId) (fresh : db.routes.find? route.id = Option.none)
      (own : ∀ item ∈ moves, ∃ stop, db.stop? item.1 = some stop ∧ stop.deliveryId = deliveryId) :
      Effect (.reorderStops deliveryId dto actor)
        (moves.map .resequence ++
          [.createRoute route, .createRouteStops rows,
            .updateDelivery deliveryId { routeMode := some mode }]) db

/-- What a request may commit. -/
def Allowed [UuidText] (request : Request) (writes : List Write) (db : Db) : Prop :=
  Effect request (essential writes) db

variable [UuidText]

/-- Writing nothing is always allowed. -/
theorem Allowed.nothing (request : Request) (db : Db) : Allowed request [] db := Effect.none

/-- A request meets its list of effects. -/
abbrev Request.Performs {α : Type} (request : Request) (process : Proc store α) : Prop :=
  process.Commits (.atomic Db.Extends (Allowed request))

/-- A process may go on believing what no write undoes. -/
theorem Request.Performs.remember {α : Type} {request : Request} {process : Proc store α}
    (performs : request.Performs process) (db : Db) :
    process.Meets (.atomic Db.Extends (Allowed request)) (fun _ current => db.Extends current) db :=
  ((performs db).remember Db.Extends.trans (fun writes state _ => state.extends_commit writes)
    (.refl db)).weaken fun _ _ both => both.1

/-! ## Calls that have no essential effect -/

section Calls

variable {request : Request} {β : Type}

/-- A call that writes only ancillary rows. -/
theorem performs_of_ancillary {statement : Statement store β}
    (only : ∀ input db value writes, statement.Succeeds input db value writes →
      essential writes = []) : request.Performs (liftM statement) := by
  refine Proc.Commits.statement (Allowed.nothing request) ?_
  intro db input value writes succeeded
  rw [Allowed, only input db value writes succeeded]
  exact .none

/-- A look writes nothing. -/
theorem performs_select {body : Db → Except PrismaError β} :
    request.Performs (liftM (select body)) := by
  refine performs_of_ancillary fun input db value writes succeeded => ?_
  rw [(select_succeeds.mp succeeded).2.2, essential_nil]

/-- An emission is ancillary. -/
theorem performs_emit {rooms : List Room} {payload : RealtimePayload} {actor : RealtimeActor} :
    request.Performs (liftM (RealtimeGateway.emit rooms payload actor)) := by
  refine performs_of_ancillary fun input db value writes succeeded => ?_
  rw [RealtimeGateway.emit_succeeds.mp succeeded]
  simp [essential, List.filter_map, Function.comp_def, Write.ancillary]

/-- So is an audit row. -/
theorem performs_audit {row : AuditLog} :
    request.Performs (liftM (Prisma.AuditLog.create row)) := by
  refine performs_of_ancillary fun input db value writes succeeded => ?_
  rw [(Prisma.AuditLog.create_succeeds.mp succeeded).2]
  rfl

/-- So is an event. -/
theorem performs_event {deliveryId : Uuid} {stopId : Option Uuid} {eventType : String}
    {actorUserId : Uuid} {metadataJson : EventMetadata} :
    request.Performs (liftM (Prisma.DeliveryEvent.create deliveryId stopId eventType actorUserId
      metadataJson)) := by
  refine performs_of_ancillary fun input db value writes succeeded => ?_
  rw [(Prisma.DeliveryEvent.create_succeeds.mp succeeded).2]
  rfl

/-- So is a count. -/
theorem performs_rateLimit {key : String} {windowSeconds : Nat} :
    request.Performs (liftM (RedisService.incrRateLimit key windowSeconds)) := by
  refine performs_of_ancillary fun input db value writes succeeded => ?_
  rw [(RedisService.incrRateLimit_succeeds.mp succeeded).2, essential_nil]

end Calls

end Armada
