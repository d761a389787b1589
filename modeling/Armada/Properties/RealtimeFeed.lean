import Armada.Properties.AuditTrail

/-!
# Following a delivery by its events

A client that starts from a snapshot of the statuses of a delivery and its stops and
applies the events of the delivery's room has the stored statuses after every operation,
except after an override that changes one, since overrides emit nothing, and after an operation
whose path spells the id of the delivery in another way: it emits to the room of that spelling.
-/

namespace Armada

open Relational Concurrency

/-- What a client shows of a delivery: its status, and those of its stops. -/
structure StatusView where
  delivery : Option DeliveryStatus
  stops : Uuid → Option StopStatus

/-- The delivery that a stop belongs to, and the status of the stop. -/
def Db.place? (db : Db) (stopId : Uuid) : Option (Uuid × StopStatus) :=
  (db.stop? stopId).map fun stop => (stop.deliveryId, stop.status)

/-- A snapshot of a delivery. -/
def Db.view (db : Db) (deliveryId : Uuid) : StatusView where
  delivery := db.status? deliveryId
  stops stopId := ((db.place? stopId).filter fun place => place.1 = deliveryId).map Prod.snd

namespace StatusView

/-- The view with the stop in the status. -/
def setStop (view : StatusView) (stopId : Uuid) (status : StopStatus) : StatusView :=
  { view with stops := Function.update view.stops stopId (some status) }

/-- What an event does to the view; the payload of `delivery.pod.created` says that the
stop is DELIVERED. -/
def receive (view : StatusView) : RealtimePayload → StatusView
  | .deliveryStatusChanged _ status => { view with delivery := some status }
  | .stopStatusChanged _ stopId status => view.setStop stopId status
  | .podCreated _ stopId _ => view.setStop stopId .delivered
  | .routeUpdated .. => view

end StatusView

/-- The event that a write emits to the room of the delivery. -/
def Write.event? (deliveryId : Uuid) : Write → Option RealtimePayload
  | .emit emission => if emission.room = .delivery deliveryId.text then some emission.payload else none
  | _ => none

/-- The view of a client that has received what the writes emit to the delivery's room. -/
def StatusView.follow (deliveryId : Uuid) (view : StatusView) (writes : List Write) : StatusView :=
  (writes.filterMap fun write => write.event? deliveryId).foldl receive view

/-- A client that started from a snapshot shows what is stored after the writes. -/
def Followed (deliveryId : Uuid) (db : Db) (writes : List Write) : Prop :=
  (db.view deliveryId).follow deliveryId writes = (db.commit writes).view deliveryId

/-! ## Views after some writes -/

namespace Write

/-- What a write makes of the place of a stop. -/
def onPlace (stopId : Uuid) : Write → Option (Uuid × StopStatus) → Option (Uuid × StopStatus)
  | .createStop row, found =>
      found.or (if row.id = stopId then some (row.deliveryId, row.status) else none)
  | .updateStop id data, found =>
      if id = stopId then found.map fun place => (place.1, data.status.getD place.2) else found
  | _, found => found

/-- The place after a write. -/
theorem place?_apply (write : Write) (db : Db) (stopId : Uuid) :
    (write.apply db).place? stopId = write.onPlace stopId (db.place? stopId) := by
  rw [Db.place?, write.stop?_apply, Db.place?]
  cases write with
  | createStop row =>
      by_cases here : row.id = stopId <;> cases db.stop? stopId <;> simp [onStop, onPlace, here]
  | updateStop id data =>
      by_cases here : id = stopId
      · subst here
        cases db.stop? id <;> simp [onStop, onPlace, StopData.set]
      · simp [onStop, onPlace, here, Ne.symm here]
  | _ => rfl

/-- A quiet write leaves the place. -/
theorem onPlace_of_quiet {write : Write} (quiet : write.quiet = true) (stopId : Uuid)
    (found : Option (Uuid × StopStatus)) : write.onPlace stopId found = found := by
  cases write with
  | createStop row => cases quiet
  | updateStop id data =>
      have idle : data.status = none := by simpa [Write.quiet] using quiet
      cases found <;> simp [onPlace, idle]
  | _ => rfl

end Write

/-- Following two runs of writes is following one after the other. -/
theorem StatusView.follow_append (deliveryId : Uuid) (view : StatusView)
    (first second : List Write) : view.follow deliveryId (first ++ second) =
      (view.follow deliveryId first).follow deliveryId second := by
  rw [follow, List.filterMap_append, List.foldl_append]
  rfl

/-- Quiet writes emit nothing that a client applies. -/
theorem StatusView.follow_loud (deliveryId : Uuid) (view : StatusView) (writes : List Write) :
    view.follow deliveryId (loud writes) = view.follow deliveryId writes := by
  induction writes generalizing view with
  | nil => rfl
  | cons write writes inductionHypothesis =>
      have apart : ∀ rest, view.follow deliveryId (write :: rest) =
          (view.follow deliveryId [write]).follow deliveryId rest :=
        fun rest => follow_append deliveryId view [write] rest
      rw [apart, loud_cons, ← inductionHypothesis]
      split
      · rename_i quiet
        have idle : view.follow deliveryId [write] = view := by
          cases write with
          | emit emission =>
              obtain ⟨room, payload, actor⟩ := emission
              cases payload with
              | routeUpdated =>
                  by_cases here : room = .delivery deliveryId.text <;>
                    simp [follow, Write.event?, here, receive]
              | _ => cases quiet
          | _ => rfl
        rw [idle]
      · rw [apart]

namespace Followed

variable {deliveryId : Uuid} {db : Db}

/-- No writes are followed. -/
theorem nil (deliveryId : Uuid) (db : Db) : Followed deliveryId db [] := rfl

/-- Two followed runs of writes are followed together. -/
theorem append {first second : List Write} (prior : Followed deliveryId db first)
    (suffix : Followed deliveryId (db.commit first) second) :
    Followed deliveryId db (first ++ second) := by
  rw [Followed, StatusView.follow_append, prior, suffix, Db.commit_append]

/-- It is a matter of the loud writes. -/
theorem of_loud {writes : List Write} (followed : Followed deliveryId db (loud writes)) :
    Followed deliveryId db writes := by
  have status : (db.commit (loud writes)).status? deliveryId = (db.commit writes).status? deliveryId :=
    Db.observe_loud_eq (·.status? deliveryId) (Write.onStatus deliveryId)
      (fun write db => write.status?_apply db deliveryId)
      (fun write found quiet => write.onStatus_of_quiet quiet deliveryId found) db writes
  have places : (db.commit (loud writes)).place? = (db.commit writes).place? :=
    funext fun stopId => Db.observe_loud_eq (·.place? stopId) (Write.onPlace stopId)
      (fun write db => write.place?_apply db stopId)
      (fun write found quiet => write.onPlace_of_quiet quiet stopId found) db writes
  rw [Followed, StatusView.follow_loud, Db.view, Db.view, status, places] at followed
  exact followed

end Followed

/-! ## Views and chronicles -/

section Views

variable {deliveryId : Uuid} {db : Db}

/-- The view after the update of a stop. -/
theorem view_updateStop {stop : DeliveryStop} {data : StopData} {status : StopStatus}
    (found : db.stop? stop.id = some stop) (sets : data.status = some status) :
    ((Write.updateStop stop.id data).apply db).view deliveryId =
      if stop.deliveryId = deliveryId then (db.view deliveryId).setStop stop.id status
      else db.view deliveryId := by
  have place : db.place? stop.id = some (stop.deliveryId, stop.status) := by
    rw [Db.place?, found, Option.map_some]
  have stops : ∀ other, ((Write.updateStop stop.id data).apply db).place? other =
      if stop.id = other then some (stop.deliveryId, status) else db.place? other := by
    intro other
    rw [Write.place?_apply, Write.onPlace]
    split
    · rename_i here
      subst here
      simp [place, sets]
    · rfl
  have same : ((Write.updateStop stop.id data).apply db).status? deliveryId =
      db.status? deliveryId := rfl
  split
  · rename_i owner
    simp only [Db.view, StatusView.setStop, same, StatusView.mk.injEq, true_and]
    funext other
    by_cases here : stop.id = other
    · subst here
      simp [stops, owner]
    · simp [stops, here, Function.update_of_ne (Ne.symm here)]
  · rename_i foreign
    simp only [Db.view, same, StatusView.mk.injEq, true_and]
    funext other
    by_cases here : stop.id = other
    · subst here
      simp [stops, foreign, place, Option.filter]
    · simp [stops, here]

/-- The view after the update of the delivery. -/
theorem view_updateDelivery {id : Uuid} {row : Delivery} {data : DeliveryData}
    {status : DeliveryStatus} (found : db.delivery? id = some row)
    (sets : data.status = some status) :
    ((Write.updateDelivery id data).apply db).view deliveryId =
      if id = deliveryId then { db.view deliveryId with delivery := some status }
      else db.view deliveryId := by
  have places : ((Write.updateDelivery id data).apply db).place? = db.place? := rfl
  split
  · rename_i here
    subst here
    simp only [Db.view, places, Write.status?_apply, Write.onStatus, if_true]
    simp [Db.status?, found, sets]
  · rename_i other
    simp only [Db.view, places, Write.status?_apply, Write.onStatus, if_neg other]

/-- Emissions leave the view. -/
theorem view_emissions (db : Db) (rooms : List Room) (payload : RealtimePayload)
    (actor : RealtimeActor) :
    (db.commit (emissions rooms payload actor)).view deliveryId = db.view deliveryId := by
  refine Db.commit_idle (·.view deliveryId) (fun write member db => ?_) db
  obtain ⟨room, _, rfl⟩ := List.mem_map.mp member
  rfl

/-- So do the stops of other deliveries. -/
theorem view_createStop {row : DeliveryStop} (foreign : row.deliveryId ≠ deliveryId) (db : Db) :
    ((Write.createStop row).apply db).view deliveryId = db.view deliveryId := by
  have same : ((Write.createStop row).apply db).status? deliveryId = db.status? deliveryId := rfl
  simp only [Db.view, same, StatusView.mk.injEq, true_and]
  funext other
  rw [Write.place?_apply, Write.onPlace]
  cases db.place? other with
  | some place => rfl
  | none => by_cases here : row.id = other <;> simp [here, foreign, Option.filter]

/-- A delivery that is not the client's comes with stops that are not the client's. -/
theorem followed_creation {row : Delivery} {stops : List DeliveryStop} {log : AuditLog}
    (other : row.id ≠ deliveryId) (owned : ∀ stop ∈ stops, stop.deliveryId = row.id) :
    Followed deliveryId db
      (.createDelivery row :: stops.map .createStop ++ [.createAuditLog log]) := by
  have created : ((Write.createDelivery row).apply db).view deliveryId = db.view deliveryId := by
    have places : ((Write.createDelivery row).apply db).place? = db.place? := rfl
    simp [Db.view, places, Write.status?_apply, Write.onStatus, other]
  have stopped : ∀ base : Db, (base.commit (stops.map .createStop)).view deliveryId =
      base.view deliveryId := by
    refine Db.commit_idle (·.view deliveryId) fun write member base => ?_
    obtain ⟨stop, inStops, rfl⟩ := List.mem_map.mp member
    exact view_createStop (fun here => other ((owned stop inStops).symm.trans here)) base
  have silent : (db.view deliveryId).follow deliveryId
      (.createDelivery row :: stops.map .createStop ++ [.createAuditLog log]) =
        db.view deliveryId := by
    simp [StatusView.follow, Write.event?]
  rw [Followed, silent, Db.commit_append, Db.commit_cons]
  exact (created.symm.trans (stopped _).symm)

/-- A stop is delivered without an event that was delivered before. -/
theorem followed_delivered {stop : DeliveryStop} {data : StopData}
    (found : db.stop? stop.id = some stop) (sets : data.status = some .delivered)
    (already : stop.deliveryId = deliveryId → stop.status = .delivered) :
    Followed deliveryId db [.updateStop stop.id data] := by
  change db.view deliveryId = ((Write.updateStop stop.id data).apply db).view deliveryId
  rw [view_updateStop found sets]
  split
  · rename_i owner
    have place : (db.view deliveryId).stops stop.id = some .delivered := by
      simp [Db.view, Db.place?, found, owner, already owner]
    rw [StatusView.setStop, ← place, Function.update_eq_self]
  · rfl

/-- A delivery is completed without an event that was completed before. -/
theorem followed_completed {id : Uuid} {row : Delivery} {data : DeliveryData}
    (found : db.delivery? id = some row) (sets : data.status = some .completed)
    (already : id = deliveryId → row.status = .completed) :
    Followed deliveryId db [.updateDelivery id data] := by
  change db.view deliveryId = ((Write.updateDelivery id data).apply db).view deliveryId
  rw [view_updateDelivery found sets]
  split
  · rename_i here
    subst here
    simp [Db.view, Db.status?, found, already rfl]
  · rfl

/-- Other rooms than the delivery's do not matter. -/
theorem StatusView.follow_emissions (view : StatusView) (id : IdText) (payload : RealtimePayload)
    (actor : RealtimeActor) (rooms : List Room)
    (others : ∀ room ∈ rooms, ∀ other, room ≠ .delivery other) :
    view.follow deliveryId (emissions (.delivery id :: rooms) payload actor) =
      if id = deliveryId.text then view.receive payload else view := by
  have silent : ∀ view : StatusView,
      view.follow deliveryId (emissions rooms payload actor) = view := by
    intro view
    have none : (emissions rooms payload actor).filterMap (fun write => write.event? deliveryId) =
        [] := by
      refine List.filterMap_eq_nil_iff.mpr fun write member => ?_
      obtain ⟨room, inRooms, rfl⟩ := List.mem_map.mp member
      exact if_neg (others room inRooms deliveryId.text)
    rw [follow, none, List.foldl_nil]
  change view.follow deliveryId ([.emit ⟨.delivery id, payload, actor⟩] ++
    emissions rooms payload actor) = _
  rw [follow_append, silent]
  by_cases here : id = deliveryId.text <;> simp [follow, Write.event?, here]

/-- A step of a stop, with the event of it. -/
theorem followed_step {stop : DeliveryStop} {data : StopData} {status : StopStatus}
    {payload : RealtimePayload} {actor : RealtimeActor} (found : db.stop? stop.id = some stop)
    (sets : data.status = some status) (tells : TellsOf stop status payload) :
    Followed deliveryId db
      (.updateStop stop.id data :: emissions [.delivery stop.deliveryId.text] payload actor) := by
  have told : ∀ view : StatusView, view.receive payload = view.setStop stop.id status := by
    cases tells <;> exact fun _ => rfl
  change (db.view deliveryId).follow deliveryId (emissions [.delivery stop.deliveryId.text] payload actor) =
    (((Write.updateStop stop.id data).apply db).commit
      (emissions [.delivery stop.deliveryId.text] payload actor)).view deliveryId
  rw [view_emissions, view_updateStop found sets, StatusView.follow_emissions _ _ _ _ _ (by simp),
    told]
  simp only [Uuid.text_inj]

/-- A move of a delivery, with the event of it in the delivery's room and perhaps an audit row. -/
theorem followed_move {id : IdText} {row : Delivery} {data : DeliveryData}
    {status : DeliveryStatus} {actor : RealtimeActor} (found : db.delivery? id = some row)
    (sets : data.status = some status) (printed : id.uuid = deliveryId → id = deliveryId.text)
    (logs : List AuditLog) :
    Followed deliveryId db (.updateDelivery id data :: logs.map .createAuditLog ++
      emissions [.delivery id, .fleetMonitoring] (.deliveryStatusChanged id status) actor) := by
  have logged : ∀ base : Db, (base.commit (logs.map .createAuditLog)).view deliveryId =
      base.view deliveryId := by
    refine Db.commit_idle (·.view deliveryId) fun write member db => ?_
    obtain ⟨log, _, rfl⟩ := List.mem_map.mp member
    rfl
  have silent : ∀ view : StatusView, view.follow deliveryId
      (.updateDelivery id data :: logs.map .createAuditLog) = view := by
    intro view
    simp [StatusView.follow, Write.event?]
  rw [Followed, StatusView.follow_append, silent, Db.commit_append, Db.commit_cons, view_emissions,
    logged, view_updateDelivery found sets, StatusView.follow_emissions _ _ _ _ _ (by simp)]
  by_cases here : id.uuid = deliveryId
  · rw [if_pos (printed here), if_pos here]
    rfl
  · rw [if_neg fun same => here (congrArg IdText.uuid same), if_neg here]

end Views

section Requests

variable [UuidText]

/-- The request changes a status of the delivery without an event in its room: it overrides a
ticket, with which it delivers a stop that is not delivered yet, or completes a delivery that is
not completed yet, or it moves the delivery under another spelling of its id. -/
inductive Request.Unannounced (deliveryId : Uuid) (db : Db) (request : Request) : Prop where
  | stop {conflict : DeliveryConflict} {stop : DeliveryStop}
      (overrides : request.OverridesTicket db conflict stop)
      (owner : stop.deliveryId = deliveryId) (undelivered : stop.status ≠ .delivered)
  | delivery {conflict : DeliveryConflict} {stop : DeliveryStop} {row : Delivery}
      (overrides : request.OverridesTicket db conflict stop)
      (owner : conflict.deliveryId = deliveryId) (found : db.delivery? deliveryId = some row)
      (last : ¬db.Remains deliveryId stop.id)
      (delivered : ∃ other ∈ db.stopsOf deliveryId, other.id = stop.id ∨ other.status = .delivered)
      (uncompleted : row.status ≠ .completed)
  | respelled {path : IdText} {row : Delivery} (moves : request.Moves db path row)
      (found : db.delivery? deliveryId = some row) (same : path.uuid = deliveryId)
      (otherwise : path ≠ deliveryId.text)

/-- Only a request to override has a ticket to override, and only a move a path to the delivery. -/
theorem Request.not_unannounced {request : Request} (mild : request.overrides = false)
    (stays : request.moves = none) (deliveryId : Uuid) (db : Db) : ¬request.Unannounced deliveryId db := by
  have none : ∀ conflict stop, ¬request.OverridesTicket db conflict stop := by
    rintro conflict stop ⟨_, status, _⟩
    simp [Request.overrides, status] at mild
  rintro (⟨overrides, _⟩ | ⟨overrides, _⟩ | ⟨moves, _⟩)
  · exact none _ _ overrides
  · exact none _ _ overrides
  · cases stays.symm.trans moves.moves

variable {deliveryId : Uuid} {db : Db}

/-- What is chronicled of a request is followed. -/
theorem Chronicle.followed {request : Request} {writes : List Write}
    (chronicle : Chronicle request db writes) (known : db.delivery? deliveryId ≠ none)
    (announced : ¬request.Unannounced deliveryId db) : Followed deliveryId db writes := by
  cases chronicle with
  | silent => exact .nil deliveryId db
  | @created _ _ row stops log fresh draft pending concerns replayed =>
      -- the new delivery is another one, and so are its stops
      have other : row.id ≠ deliveryId := fun here => known (here ▸ fresh)
      exact followed_creation other fun stop member => (pending stop member).2.1
  | @moved _ _ id row data status log actor moves found sets entity replayed =>
      have printed : id.uuid = deliveryId → id = deliveryId.text := fun same =>
        not_not.mp fun otherwise => announced (.respelled moves (same ▸ found) same otherwise)
      exact followed_move found sets printed [log]
  | stepped found sets tells => exact followed_step found sets tells
  | @finished _ _ stop delivery data status payload actor completion ends found sets tells completes =>
      refine (followed_step found sets tells).append ?_
      cases completes with
      | idle => exact .nil _ _
      | @completed row _ _ _ foundRow enRoute verdict =>
          have parent : (db.commit (.updateStop stop.id data ::
              emissions [.delivery stop.deliveryId.text] payload actor)).delivery? stop.deliveryId =
                some row := by
            rw [Db.commit_cons, Db.delivery?, Db.deliveries_commit_emissions]
            exact foundRow
          exact followed_move parent rfl (congrArg Uuid.text) []
  | @resolved conflictId actorUserId dto actorRole _ conflict writes operator found isOpen
      acceptable resolution =>
      rcases resolution.loud_eq with
        none | ⟨stop, data, completion, status, named, target, stopFound, outcome, completes, same⟩
      · rw [none]
        exact .nil deliveryId db
      · rw [same]
        have overrides : Request.OverridesTicket db conflict stop
            (.resolveConflict conflictId dto actorUserId actorRole) :=
          .intro operator status found isOpen named target stopFound (acceptable status named)
        have first : Followed deliveryId db [.updateStop stop.id data] :=
          followed_delivered stopFound outcome fun owner =>
            not_not.mp fun undelivered => announced (.stop overrides owner undelivered)
        refine first.append ?_
        cases completes with
        | unfinished => exact .nil _ _
        | @completed row now foundRow finished =>
            refine followed_completed foundRow rfl fun owner => ?_
            obtain ⟨all, some⟩ : _ ∧ _ := by
              simpa [DeliveryConflictsService.overrideCompletes] using finished
            exact not_not.mp fun uncompleted => announced (.delivery overrides owner
              (owner ▸ foundRow) (owner ▸ remains_of_update all)
              (owner ▸ delivered_of_update stopFound some) uncompleted)

/-- What a request's narration writes is followed, unless it is an unannounced one. -/
theorem Narrated.followed {request : Request} {writes : List Write}
    (narrated : Narrated request db writes) (known : db.delivery? deliveryId ≠ none)
    (announced : ¬request.Unannounced deliveryId db) : Followed deliveryId db writes := by
  induction narrated with
  | once chronicle => exact .of_loud (chronicle.followed known announced)
  | @synced dto driver user event db writes rest mild stays turn others inductionHypothesis =>
      have first : Followed deliveryId db writes :=
        .of_loud (turn.followed known (Request.not_unannounced mild stays _ _))
      obtain ⟨row, found⟩ := Option.ne_none_iff_exists'.mp known
      obtain ⟨later, foundLater⟩ := Db.delivery?_commit_of_some found writes
      exact first.append (inductionHypothesis (by simp [foundLater])
        (Request.not_unannounced rfl rfl _ _))

end Requests

/-! ## An override in silence -/

namespace SilentOverride

/-- The one UUID of the runs below. -/
@[reducible] def stopUuids : UuidText := ⟨fun text => if text = "s" then some 7 else none⟩

/-- A late proof of delivery, for a stop whose delivery is cancelled. -/
def ticket : DeliveryConflict where
  id := 5
  deliveryId := 1
  clientEventId := "e"
  conflictType := "STALE_OFFLINE_COMPLETION"
  serverState := "CANCELLED"
  clientPayload := { clientEventId := "e", eventType := "stop.pod",
                     payload := { stopId := .string "s" } }

def db : Db where
  deliveries := Table.empty.insert
    { id := 1, deliveryCode := "D-1", driverId := some 3, status := .cancelled, createdBy := 9 }
  deliveryStops := Table.empty.insert
    { id := 7, deliveryId := 1, sequence := 1, status := .arrived }
  deliveryConflicts := Table.empty.insert ticket

def entries (status : ConflictStatus) : List (Entry Request Response store) :=
  @plainEntries stopUuids db [.resolveConflict 5 { status } 9 .admin]

/-- The example's operations run one after the other. -/
theorem session (status : ConflictStatus) :
    Session Unfailing (@Request.proc stopUuids) db (entries status) :=
  @session_plain stopUuids db _

end SilentOverride

end Armada
