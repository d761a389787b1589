import Armada.Alone
import Armada.Concurrency.Ledger

/-!
# What a request does in all

When no other request interferes and no call fails, all that a request does to the
statuses of deliveries and stops, to the audit rows of deliveries and to the status
events is one of the chronicles below.
-/

namespace Armada

open Relational Concurrency

/-! ## The writes that tell of a status -/

/-- A write that sets no status, adds no audit row of a delivery and emits no event about
a status. -/
def Write.quiet : Write → Bool
  | .createDelivery _ | .createStop _ => false
  | .updateDelivery _ data => data.status = none
  | .updateStop _ data => data.status = none
  | .createAuditLog log => log.entityType ≠ "DELIVERY"
  | .emit emission =>
      match emission.payload with
      | .routeUpdated .. => true
      | _ => false
  | _ => true

/-- The writes that a history of the delivery tells: all but the quiet ones. -/
def loud (writes : List Write) : List Write :=
  writes.filter fun write => !write.quiet

/-- No writes tell nothing. -/
@[simp] theorem loud_nil : loud [] = [] := rfl

/-- What two parts tell is told one after the other. -/
@[simp] theorem loud_append (first second : List Write) :
    loud (first ++ second) = loud first ++ loud second :=
  List.filter_append first second

/-- Each write is told or not by itself. -/
theorem loud_cons (write : Write) (writes : List Write) :
    loud (write :: writes) = if write.quiet then loud writes else write :: loud writes := by
  rw [loud, List.filter_cons]
  cases write.quiet <;> rfl

/-- Writes that all tell are all told. -/
theorem loud_map {α : Type} {write : α → Write} (tells : ∀ item, (write item).quiet = false)
    (items : List α) : loud (items.map write) = items.map write := by
  simp [loud, List.filter_map, Function.comp_def, tells]

/-- Quiet writes tell nothing. -/
theorem loud_map_quiet {α : Type} {write : α → Write} (none : ∀ item, (write item).quiet = true)
    (items : List α) : loud (items.map write) = [] := by
  simp [loud, List.filter_map, Function.comp_def, none]

/-- A projection of the store on which quiet writes do not act is folded over the others. -/
theorem Db.observe_loud {β : Type} (look : Db → β) (act : Write → β → β)
    (step : ∀ write db, look (write.apply db) = act write (look db))
    (idle : ∀ write found, write.quiet = true → act write found = found) (db : Db)
    (writes : List Write) :
    look (db.commit writes) = (loud writes).foldl (fun found write => act write found) (look db) := by
  rw [Db.observe_commit look act step]
  generalize look db = found
  induction writes generalizing found with
  | nil => rfl
  | cons write writes inductionHypothesis =>
      rw [List.foldl_cons, inductionHypothesis, loud_cons]
      split
      · rename_i quiet
        rw [idle write found quiet]
      · rfl

/-- So the quiet writes can be left out. -/
theorem Db.observe_loud_eq {β : Type} (look : Db → β) (act : Write → β → β)
    (step : ∀ write db, look (write.apply db) = act write (look db))
    (idle : ∀ write found, write.quiet = true → act write found = found) (db : Db)
    (writes : List Write) : look (db.commit (loud writes)) = look (db.commit writes) :=
  (Db.observe_commit look act step db (loud writes)).trans
    (Db.observe_loud look act step idle db writes).symm

/-- The requests of a day on which nothing is generated and no clock is read. -/
def plainEntries [UuidText] (db : Db) (requests : List Request) :
    List (Entry Request Response store) :=
  conduct Request.proc (fun _ _ => {}) db requests

/-- Requests played one after the other are a session. -/
theorem session_plain [UuidText] (db : Db) (requests : List Request) :
    Session Unfailing Request.proc db (plainEntries db requests) := by
  refine session_conduct Request.proc _ (fun _ _ => ?_) db requests
  exact (rfl : ({} : Input).fault = none)

/-! ## The chronicles -/

/-- The status that an audit row of a delivery tells of. -/
def AuditLog.replayed (log : AuditLog) : Option DeliveryStatus :=
  if log.action = "DELIVERY_CREATED" then some .draft
  else if log.action = "DELIVERY_ASSIGNED" then some .assigned
  else if log.action = "DELIVERY_ACCEPTED" then some .accepted
  else if log.action = "DELIVERY_STARTED" then some .enRoute
  else if log.action = "DELIVERY_COMPLETED" then some .completed
  else if log.action = "DELIVERY_FAILED" then some .failed
  else if log.action = "DELIVERY_CANCELLED" then some .cancelled
  else none

/-- The audit row is about a delivery with this text for its id. -/
def AuditLog.Tells (log : AuditLog) (deliveryId : IdText) : Prop :=
  log.entityType = "DELIVERY" ∧ log.entityId = deliveryId

/-- The audit row is about the delivery. -/
def AuditLog.Concerns (log : AuditLog) (deliveryId : Uuid) : Prop :=
  log.Tells deliveryId.text

instance (log : AuditLog) (deliveryId : Uuid) : Decidable (log.Concerns deliveryId) :=
  inferInstanceAs (Decidable (_ ∧ _))

/-- An event as it is emitted to some rooms. -/
def emissions (rooms : List Room) (payload : RealtimePayload) (actor : RealtimeActor) :
    List Write :=
  rooms.map fun room => .emit { room, payload, actor }

/-- The completion with which a request may end: no audit row tells of it. -/
inductive AutoCompletion (deliveryId : Uuid) (db : Db) : List Write → Prop where
  | idle : AutoCompletion deliveryId db []
  | completed {row : Delivery} {target : DeliveryStatus} {now : Instant} {actor : RealtimeActor}
      (found : db.delivery? deliveryId = some row) (enRoute : row.status = .enRoute)
      (verdict : DeliveriesService.evaluateStops (db.stopsOf deliveryId) =
        { completed := true, targetStatus := some target }) :
      AutoCompletion deliveryId db
        (.updateDelivery deliveryId { status := some target, completedAt := some now } ::
          emissions [.delivery deliveryId.text, .fleetMonitoring]
            (.deliveryStatusChanged deliveryId.text target) actor)

/-- It depends on the deliveries and on the stops. -/
theorem AutoCompletion.congr {deliveryId : Uuid} {db other : Db} {writes : List Write}
    (completion : AutoCompletion deliveryId db writes)
    (deliveries : other.deliveries = db.deliveries)
    (stops : other.deliveryStops = db.deliveryStops) : AutoCompletion deliveryId other writes := by
  cases completion with
  | idle => exact .idle
  | completed found enRoute verdict =>
      refine .completed ?_ enRoute ?_
      · rw [Db.delivery?, deliveries]
        exact found
      · rw [Db.stopsOf, stops]
        exact verdict

namespace DeliveryStopsService

/-- When `failStop` may go ahead. -/
def Fails (stop : DeliveryStop) (delivery : Delivery) : Prop :=
  ¬delivery.status ∈ terminalDeliveryStatuses ∧
    ¬(stop.status ≠ .arrived ∧ stop.status ≠ .unloading ∧ stop.status ≠ .enRoute)

/-- The stop may be skipped, by this actor. -/
def Skips (actor : DeliveryActor) (stop : DeliveryStop) (delivery : Delivery) : Prop :=
  ¬(actor.role = .owner ∧ delivery.createdBy ≠ actor.userId) ∧
    ¬delivery.status ∈ terminalDeliveryStatuses ∧ ¬stop.status ≠ .pending

end DeliveryStopsService

open DeliveryStopsService (verifiedDriver)

/-- Whom `getDeliveryById` shows the delivery. -/
def DeliveriesService.Shown (actor : DeliveryActor) (delivery : Delivery) : Prop :=
  ¬(actor.role = .driver ∧ (actor.driverId = none ∨ delivery.driverId ≠ actor.driverId)) ∧
    ¬(actor.role = .owner ∧ delivery.createdBy ≠ actor.userId ∧
      (actor.organizationId = none ∨ delivery.organizationId ≠ actor.organizationId))

/-- The delivery whose status a request asks to set, as its path spells it. -/
def Request.moves : Request → Option IdText
  | .assignDelivery deliveryId _ _ | .acceptDelivery deliveryId _ _
  | .startDelivery deliveryId _ _ | .completeDelivery deliveryId _
  | .cancelDelivery deliveryId _ _ => some deliveryId
  | _ => none

open DeliveriesService (Shown evaluateStops) in
/-- The request finds that it may set the status of the delivery. -/
inductive Request.Moves (db : Db) (deliveryId : IdText) (delivery : Delivery) : Request → Prop where
  | assigns {dto : AssignDeliveryDto} {actor : DeliveryActor} (shown : Shown actor delivery)
      (early : delivery.status = .draft ∨ delivery.status = .assigned)
      (driver : db.drivers.find? dto.driverId ≠ none)
      (vehicle : db.vehicles.find? dto.vehicleId ≠ none) :
      Moves db deliveryId delivery (.assignDelivery deliveryId dto actor)
  | accepts {actorDriverId actorUserId : Uuid} (own : delivery.driverId = some actorDriverId)
      (assigned : delivery.status = .assigned) :
      Moves db deliveryId delivery (.acceptDelivery deliveryId actorDriverId actorUserId)
  | starts {actorDriverId actorUserId : Uuid} (own : delivery.driverId = some actorDriverId)
      (accepted : delivery.status = .accepted) :
      Moves db deliveryId delivery (.startDelivery deliveryId actorDriverId actorUserId)
  | completes {actor : DeliveryActor} (shown : Shown actor delivery)
      (enRoute : delivery.status = .enRoute)
      (finished : (evaluateStops (db.stopsOf deliveryId)).completed = true) :
      Moves db deliveryId delivery (.completeDelivery deliveryId actor)
  | cancels {dto : CancelDeliveryDto} {actor : DeliveryActor} (shown : Shown actor delivery)
      (running : delivery.status ∉ terminalDeliveryStatuses) :
      Moves db deliveryId delivery (.cancelDelivery deliveryId dto actor)

/-- A request that moves a delivery names it. -/
theorem Request.Moves.moves {db : Db} {deliveryId : IdText} {delivery : Delivery}
    {request : Request} (moves : request.Moves db deliveryId delivery) :
    request.moves = some deliveryId := by
  cases moves <;> rfl

variable [UuidText]

/-- The request finds that it may finish the stop. -/
def Request.Ends (db : Db) (stop : DeliveryStop) (delivery : Delivery) : Request → Prop
  | .failStop stopId _ actorDriverId _ => Reaches db stopId (some actorDriverId) stop delivery ∧
      DeliveryStopsService.Fails stop delivery
  | .skipStop stopId _ actor => Reaches db stopId (verifiedDriver actor) stop delivery ∧
      DeliveryStopsService.Skips actor stop delivery
  | .submitPod stopId dto actor => Reaches db stopId (verifiedDriver actor) stop delivery ∧
      Submits stop delivery ∧ Submittable stopId dto actor db
  | _ => False

/-- The columns of the proof that an override leaves fit, and its file is there. -/
def OutboxPayload.Acceptable (payload : OutboxPayload) (db : Db) : Prop :=
  payload.receiverName.truthy = true → ∃ receiver photo,
    payload.receiverName.toVarChar 100 = .ok receiver ∧
    payload.photoFileId.orNull JsValue.toUuid = .ok photo ∧
    ∀ id ∈ photo, db.files.find? id ≠ none

/-- The request overrides a ticket, and with it delivers a stop. -/
inductive Request.OverridesTicket (db : Db) (conflict : DeliveryConflict) (stop : DeliveryStop) :
    Request → Prop where
  | intro {conflictId : IdText} {actorUserId : Uuid} {dto : ResolveConflictDto} {actorRole : Role}
      (operator : actorRole ≠ .driver) (status : dto.status = .resolvedOverridden)
      (found : db.conflict? conflictId = some conflict) (isOpen : conflict.status = .opened)
      (named : conflict.clientPayload.payload.target.truthy = true)
      (target : conflict.clientPayload.payload.target.toUuid = .ok stop.id)
      (stopFound : db.stop? stop.id = some stop)
      (acceptable : conflict.clientPayload.payload.Acceptable db) :
      OverridesTicket db conflict stop (.resolveConflict conflictId dto actorUserId actorRole)

omit [UuidText] in
/-- Another stop is as it was. -/
theorem Db.mem_stopsOf_update {db : Db} {deliveryId stopId : Uuid} {data : StopData}
    {other : DeliveryStop} (distinct : other.id ≠ stopId) :
    other ∈ ((Write.updateStop stopId data).apply db).stopsOf deliveryId ↔
      other ∈ db.stopsOf deliveryId := by
  rw [Db.mem_stopsOf, Db.mem_stopsOf, Write.stop?_apply, Write.onStop, if_neg distinct]

/-- A request that ends a stop reaches it. -/
theorem Request.Ends.reaches {request : Request} {db : Db} {stop : DeliveryStop}
    {delivery : Delivery} (ends : request.Ends db stop delivery) :
    ∃ stopId driver, Reaches db stopId driver stop delivery := by
  cases request with
  | failStop => exact ⟨_, _, ends.1⟩
  | skipStop => exact ⟨_, _, ends.1⟩
  | submitPod => exact ⟨_, _, ends.1⟩
  | _ => exact ends.elim

/-- The event that tells of the status of a stop. -/
inductive TellsOf (stop : DeliveryStop) : StopStatus → RealtimePayload → Prop where
  | changed (status : StopStatus) :
      TellsOf stop status (.stopStatusChanged stop.deliveryId stop.id status)
  | proven (podId : Option Uuid) : TellsOf stop .delivered (.podCreated stop.deliveryId stop.id podId)

/-- The loud writes of a request that began on `db`. -/
inductive Chronicle : Request → Db → List Write → Prop where
  | silent {request : Request} {db : Db} : Chronicle request db []
  | created {request : Request} {db : Db} {row : Delivery} {stops : List DeliveryStop}
      {log : AuditLog} (fresh : db.delivery? row.id = none) (draft : row.status = .draft)
      (pending : ∀ stop ∈ stops, stop.status = .pending ∧ stop.deliveryId = row.id ∧
        db.stop? stop.id = none)
      (concerns : log.Concerns row.id) (replayed : log.replayed = some .draft) :
      Chronicle request db
        (.createDelivery row :: stops.map .createStop ++ [.createAuditLog log])
  | moved {request : Request} {db : Db} {deliveryId : IdText} {row : Delivery}
      {data : DeliveryData} {status : DeliveryStatus} {log : AuditLog} {actor : RealtimeActor}
      (moves : request.Moves db deliveryId row) (found : db.delivery? deliveryId = some row)
      (sets : data.status = some status) (entity : log.Tells deliveryId)
      (replayed : log.replayed = some status) :
      Chronicle request db
        (.updateDelivery deliveryId data :: .createAuditLog log ::
          emissions [.delivery deliveryId, .fleetMonitoring]
            (.deliveryStatusChanged deliveryId status) actor)
  | stepped {request : Request} {db : Db} {stop : DeliveryStop} {data : StopData}
      {status : StopStatus} {payload : RealtimePayload} {actor : RealtimeActor}
      (found : db.stop? stop.id = some stop) (sets : data.status = some status)
      (tells : TellsOf stop status payload) :
      Chronicle request db
        (.updateStop stop.id data :: emissions [.delivery stop.deliveryId.text] payload actor)
  | finished {request : Request} {db : Db} {stop : DeliveryStop} {delivery : Delivery}
      {data : StopData} {status : StopStatus} {payload : RealtimePayload} {actor : RealtimeActor}
      {completion : List Write} (ends : request.Ends db stop delivery)
      (found : db.stop? stop.id = some stop) (sets : data.status = some status)
      (tells : TellsOf stop status payload)
      (completes : AutoCompletion stop.deliveryId ((Write.updateStop stop.id data).apply db)
        completion) :
      Chronicle request db
        (.updateStop stop.id data :: emissions [.delivery stop.deliveryId.text] payload actor ++
          completion)
  | resolved {conflictId : IdText} {actorUserId : Uuid} {dto : ResolveConflictDto} {actorRole : Role}
      {db : Db} {conflict : DeliveryConflict} {writes : List Write}
      (operator : actorRole ≠ .driver) (found : db.conflict? conflictId = some conflict)
      (isOpen : conflict.status = .opened)
      (acceptable : dto.status = .resolvedOverridden →
        conflict.clientPayload.payload.target.truthy = true →
          conflict.clientPayload.payload.Acceptable db)
      (resolution : Resolution conflict conflictId dto actorUserId db writes) :
      Chronicle (.resolveConflict conflictId dto actorUserId actorRole) db (loud writes)

/-- The loud writes of a resolution: none, or the stop that it delivers and the delivery
that it completes. -/
theorem Resolution.loud_eq {conflict : DeliveryConflict} {conflictId : IdText} {actorUserId : Uuid}
    {dto : ResolveConflictDto} {db : Db} {writes : List Write}
    (resolution : Resolution conflict conflictId dto actorUserId db writes) :
    loud writes = [] ∨ ∃ stop data completion, dto.status = .resolvedOverridden ∧
      conflict.clientPayload.payload.target.truthy = true ∧
      conflict.clientPayload.payload.target.toUuid = .ok stop.id ∧ db.stop? stop.id = some stop ∧
      data.status = some .delivered ∧ OverrideCompletion conflict.deliveryId
        ((Write.updateStop stop.id data).apply db) completion ∧
      loud writes = .updateStop stop.id data :: completion := by
  obtain ⟨_, _, changed⟩ := resolution
  cases changed with
  | plain => exact .inl (by simp [loud_cons, Write.quiet, resolutionLog])
  | @overridden stopId stop delivered evidence completion status named target stopFound evidenced
      outcome order completes =>
      obtain rfl : stop.id = stopId := Db.id_of_stop? stopFound
      have quiet : loud evidence = [] := by cases evidenced <;> rfl
      have rest : loud completion = completion := by cases completes <;> rfl
      refine .inr ⟨stop, delivered, completion, status, named, target, stopFound, outcome,
        completes, ?_⟩
      simp [loud_cons, Write.quiet, resolutionLog, quiet, rest, outcome]

/-- All writes of a request: those of one chronicle, or of one for each event of a batch. -/
inductive Narrated : Request → Db → List Write → Prop where
  | once {request : Request} {db : Db} {writes : List Write}
      (chronicle : Chronicle request db (loud writes)) : Narrated request db writes
  | synced {dto : OutboxSyncDto} {actorDriverId actorUserId : Uuid} {event : Request} {db : Db}
      {writes rest : List Write} (mild : event.overrides = false) (stays : event.moves = none)
      (turn : Chronicle event db (loud writes))
      (others : Narrated (.syncOutbox dto actorDriverId actorUserId) (db.commit writes) rest) :
      Narrated (.syncOutbox dto actorDriverId actorUserId) db (writes ++ rest)

/-- A process that, run alone, keeps to a chronicle of the request. -/
abbrev Request.Keeps {α : Type} (request : Request) (process : Proc store α) (db : Db) : Prop :=
  process.Meets (.ledger Unfailing db) (fun _ writes => Chronicle request db (loud writes)) []

end Armada
