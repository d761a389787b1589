import Armada.Chronicle.Services

/-!
# The audit trail of a delivery

Every operation that sets the status of a delivery adds an audit row of it, except for
the completion that follows the last stop and the one that an override brings about; and the
row names the delivery as the request spells it, which need not be how the database does. In
every run without these the audit rows are in step with the statuses written, and
replaying them gives the stored status.
-/

namespace Armada

open Relational Concurrency

namespace Db

/-- The stored status of a delivery. -/
def status? (db : Db) (deliveryId : Uuid) : Option DeliveryStatus :=
  (db.delivery? deliveryId).map Delivery.status

/-- The audit rows of a delivery, in their order. -/
def audited (db : Db) (deliveryId : Uuid) : List AuditLog :=
  db.auditLogs.filter fun log => log.Concerns deliveryId

end Db

/-- The status that a write gives to the delivery. -/
def Write.sets (deliveryId : Uuid) : Write → Option DeliveryStatus
  | .createDelivery row => if row.id = deliveryId then some row.status else none
  | .updateDelivery id data => if id = deliveryId then data.status else none
  | _ => none

/-- The statuses that the writes set for the delivery, in their order. -/
def statusWrites (deliveryId : Uuid) (writes : List Write) : List DeliveryStatus :=
  writes.filterMap fun write => write.sets deliveryId

/-- The status that audit rows lead to. -/
def replay (logs : List AuditLog) : Option DeliveryStatus :=
  logs.foldl (fun status log => log.replayed <|> status) none

/-- What the claim asks of a store and of what has been written to it since: the new audit
rows of the delivery tell of the statuses written, one by one, and the replay of all gives
the stored status. -/
structure AuditTrail (deliveryId : Uuid) (db : Db) (writes : List Write) : Prop where
  corresponds : ∃ added, (db.commit writes).audited deliveryId = db.audited deliveryId ++ added ∧
    added.map AuditLog.replayed = (statusWrites deliveryId writes).map some
  replays : replay ((db.commit writes).audited deliveryId) = (db.commit writes).status? deliveryId

/-! ## Rows and statuses after some writes -/

namespace Write

/-- What a write makes of the delivery's status. -/
def onStatus (deliveryId : Uuid) : Write → Option DeliveryStatus → Option DeliveryStatus
  | .createDelivery row, found => found.or (if row.id = deliveryId then some row.status else none)
  | .updateDelivery id data, found =>
      if id = deliveryId then found.map data.status.getD else found
  | _, found => found

/-- What a write makes of the delivery's audit rows. -/
def onAudited (deliveryId : Uuid) : Write → List AuditLog → List AuditLog
  | .createAuditLog log, logs => if log.Concerns deliveryId then logs ++ [log] else logs
  | _, logs => logs

/-- The status after a write. -/
theorem status?_apply (write : Write) (db : Db) (deliveryId : Uuid) :
    (write.apply db).status? deliveryId = write.onStatus deliveryId (db.status? deliveryId) := by
  rw [Db.status?, write.delivery?_apply, Db.status?]
  cases write with
  | createDelivery row =>
      by_cases here : row.id = deliveryId <;> cases db.delivery? deliveryId <;>
        simp [onDelivery, onStatus, here]
  | updateDelivery id data =>
      by_cases here : id = deliveryId
      · subst here
        cases db.delivery? id <;> simp [onDelivery, onStatus, DeliveryData.set]
      · simp [onDelivery, onStatus, here, Ne.symm here]
  | _ => rfl

/-- The audit rows of the delivery after a write. -/
theorem audited_apply (write : Write) (db : Db) (deliveryId : Uuid) :
    (write.apply db).audited deliveryId = write.onAudited deliveryId (db.audited deliveryId) := by
  cases write with
  | createAuditLog log =>
      by_cases here : log.Concerns deliveryId <;>
        simp [Db.audited, apply, onAudited, List.filter_append, here]
  | _ => rfl

/-- A quiet write leaves the status. -/
theorem onStatus_of_quiet {write : Write} (quiet : write.quiet = true) (deliveryId : Uuid)
    (found : Option DeliveryStatus) : write.onStatus deliveryId found = found := by
  cases write with
  | createDelivery row => cases quiet
  | updateDelivery id data =>
      have idle : data.status = none := by simpa [Write.quiet] using quiet
      cases found <;> simp [onStatus, idle]
  | _ => rfl

/-- A quiet write leaves the audit rows. -/
theorem onAudited_of_quiet {write : Write} (quiet : write.quiet = true) (deliveryId : Uuid)
    (logs : List AuditLog) : write.onAudited deliveryId logs = logs := by
  cases write with
  | createAuditLog log =>
      have other : log.entityType ≠ "DELIVERY" := by simpa [Write.quiet] using quiet
      exact if_neg fun concerns => other concerns.1
  | _ => rfl

/-- A quiet write sets no status. -/
theorem sets_of_quiet {write : Write} (quiet : write.quiet = true) (deliveryId : Uuid) :
    write.sets deliveryId = none := by
  cases write with
  | createDelivery row => cases quiet
  | updateDelivery id data =>
      have idle : data.status = none := by simpa [Write.quiet] using quiet
      simp [sets, idle]
  | _ => rfl

end Write

/-- Leaving out the quiet writes loses no status. -/
theorem statusWrites_loud (deliveryId : Uuid) (writes : List Write) :
    statusWrites deliveryId (loud writes) = statusWrites deliveryId writes := by
  induction writes with
  | nil => rfl
  | cons write writes inductionHypothesis =>
      rw [loud_cons]
      split
      · rename_i quiet
        rw [inductionHypothesis, statusWrites, statusWrites, List.filterMap_cons,
          Write.sets_of_quiet quiet]
      · rw [statusWrites, List.filterMap_cons, statusWrites, List.filterMap_cons]
        simp only [statusWrites] at inductionHypothesis
        rw [inductionHypothesis]

/-- The writes add an audit row for every status they write to the delivery, which has
the last of them in the end. -/
def Recorded (deliveryId : Uuid) (db : Db) (writes : List Write) : Prop :=
  ∃ added, (db.commit writes).audited deliveryId = db.audited deliveryId ++ added ∧
    added.map AuditLog.replayed = (statusWrites deliveryId writes).map some ∧
    (db.commit writes).status? deliveryId =
      ((statusWrites deliveryId writes).getLast? <|> db.status? deliveryId)

namespace Recorded

variable {deliveryId : Uuid} {db : Db}

/-- No writes are recorded. -/
theorem nil (deliveryId : Uuid) (db : Db) : Recorded deliveryId db [] :=
  ⟨[], by simp, rfl, rfl⟩

/-- Two recorded runs of writes are recorded together. -/
theorem append {first second : List Write} (prior : Recorded deliveryId db first)
    (suffix : Recorded deliveryId (db.commit first) second) :
    Recorded deliveryId db (first ++ second) := by
  obtain ⟨added, rows, tell, last⟩ := prior
  obtain ⟨more, moreRows, moreTell, moreLast⟩ := suffix
  refine ⟨added ++ more, ?_, ?_, ?_⟩
  · rw [Db.commit_append, moreRows, rows, List.append_assoc]
  · simp [statusWrites, List.filterMap_append] at tell moreTell ⊢
    rw [tell, moreTell]
  · rw [Db.commit_append, moreLast, last]
    simp only [statusWrites, List.filterMap_append, List.getLast?_append]
    cases (second.filterMap fun write => write.sets deliveryId).getLast? <;> rfl

/-- It is a matter of the loud writes. -/
theorem of_loud {writes : List Write} (recorded : Recorded deliveryId db (loud writes)) :
    Recorded deliveryId db writes := by
  have rows : (db.commit (loud writes)).audited deliveryId = (db.commit writes).audited deliveryId :=
    Db.observe_loud_eq (·.audited deliveryId) (Write.onAudited deliveryId)
      (fun write db => write.audited_apply db deliveryId)
      (fun write found quiet => write.onAudited_of_quiet quiet deliveryId found) db writes
  have status : (db.commit (loud writes)).status? deliveryId = (db.commit writes).status? deliveryId :=
    Db.observe_loud_eq (·.status? deliveryId) (Write.onStatus deliveryId)
      (fun write db => write.status?_apply db deliveryId)
      (fun write found quiet => write.onStatus_of_quiet quiet deliveryId found) db writes
  rw [Recorded, rows, status, statusWrites_loud] at recorded
  exact recorded

end Recorded

/-! ## What is written about other deliveries -/

/-- A write that is not about the status of the delivery. -/
structure Write.Elsewhere (deliveryId : Uuid) (write : Write) : Prop where
  sets : write.sets deliveryId = none
  status : ∀ found, write.onStatus deliveryId found = found
  audited : ∀ logs, write.onAudited deliveryId logs = logs

namespace Write.Elsewhere

variable {deliveryId : Uuid}

/-- An emission is elsewhere. -/
theorem emit (emission : Emission) : (Write.emit emission).Elsewhere deliveryId :=
  ⟨rfl, fun _ => rfl, fun _ => rfl⟩

/-- A new stop is elsewhere. -/
theorem createStop (row : DeliveryStop) : (Write.createStop row).Elsewhere deliveryId :=
  ⟨rfl, fun _ => rfl, fun _ => rfl⟩

/-- The update of a stop is elsewhere. -/
theorem updateStop (id : Uuid) (data : StopData) : (Write.updateStop id data).Elsewhere deliveryId :=
  ⟨rfl, fun _ => rfl, fun _ => rfl⟩

/-- The creation of another delivery is elsewhere. -/
theorem createDelivery {row : Delivery} (other : row.id ≠ deliveryId) :
    (Write.createDelivery row).Elsewhere deliveryId :=
  ⟨if_neg other, fun found => by simp [onStatus, other], fun _ => rfl⟩

/-- The update of another delivery is elsewhere. -/
theorem updateDelivery {id : Uuid} (other : id ≠ deliveryId) (data : DeliveryData) :
    (Write.updateDelivery id data).Elsewhere deliveryId :=
  ⟨if_neg other, fun _ => if_neg other, fun _ => rfl⟩

/-- The audit row of another delivery is elsewhere. -/
theorem createAuditLog {log : AuditLog} {id : IdText} (entity : log.Tells id)
    (other : id.uuid ≠ deliveryId) : (Write.createAuditLog log).Elsewhere deliveryId :=
  ⟨rfl, fun _ => rfl, fun _ => if_neg fun here =>
    other (congrArg IdText.uuid (entity.2.symm.trans here.2))⟩

end Write.Elsewhere

/-- Writes elsewhere are recorded: they change neither the status nor the audit rows. -/
theorem Recorded.of_elsewhere {deliveryId : Uuid} {db : Db} {writes : List Write}
    (elsewhere : ∀ write ∈ writes, write.Elsewhere deliveryId) : Recorded deliveryId db writes := by
  have none : statusWrites deliveryId writes = [] :=
    List.filterMap_eq_nil_iff.mpr fun write member => (elsewhere write member).sets
  refine ⟨[], ?_, by rw [none]; rfl, ?_⟩
  · rw [List.append_nil]
    refine Db.commit_idle (·.audited deliveryId) (fun write member db => ?_) db
    rw [write.audited_apply, (elsewhere write member).audited]
  · rw [none]
    refine Db.commit_idle (·.status? deliveryId) (fun write member db => ?_) db
    rw [write.status?_apply, (elsewhere write member).status]

/-- The emissions of an operation are elsewhere. -/
theorem elsewhere_of_emissions {deliveryId : Uuid} {rooms : List Room} {payload : RealtimePayload}
    {actor : RealtimeActor} : ∀ write ∈ emissions rooms payload actor, write.Elsewhere deliveryId := by
  intro write member
  obtain ⟨room, _, rfl⟩ := List.mem_map.mp member
  exact .emit _

/-- A status of the delivery and the audit row of it. -/
theorem recorded_move {deliveryId : Uuid} {db : Db} {row : Delivery} {data : DeliveryData}
    {status : DeliveryStatus} {log : AuditLog} (found : db.delivery? deliveryId = some row)
    (sets : data.status = some status) (concerns : log.Concerns deliveryId)
    (replayed : log.replayed = some status) :
    Recorded deliveryId db [.updateDelivery deliveryId data, .createAuditLog log] := by
  have written : statusWrites deliveryId [.updateDelivery deliveryId data, .createAuditLog log] =
      [status] := by simp [statusWrites, Write.sets, sets]
  refine ⟨[log], ?_, by rw [written]; simp [replayed], ?_⟩
  · simp only [Db.commit_cons, Db.commit_nil, Write.audited_apply, Write.onAudited, concerns, if_true]
  · rw [written]
    simp only [Db.commit_cons, Db.commit_nil, Write.status?_apply, Write.onStatus, if_true]
    simp [Db.status?, found, sets]

/-- A new delivery and the audit row of it, with its stops in between. -/
theorem recorded_creation {db : Db} {row : Delivery} {stops : List DeliveryStop} {log : AuditLog}
    (fresh : db.delivery? row.id = none) (draft : row.status = .draft)
    (concerns : log.Concerns row.id) (replayed : log.replayed = some .draft) :
    Recorded row.id db (.createDelivery row :: stops.map .createStop ++ [.createAuditLog log]) := by
  have written : statusWrites row.id
      (.createDelivery row :: stops.map .createStop ++ [.createAuditLog log]) = [.draft] := by
    simp [statusWrites, Write.sets, draft]
  have idle : ∀ base : Db, (base.commit (stops.map .createStop)).audited row.id = base.audited row.id ∧
      (base.commit (stops.map .createStop)).status? row.id = base.status? row.id := by
    refine fun base => ⟨Db.commit_idle (·.audited row.id) ?_ base,
      Db.commit_idle (·.status? row.id) ?_ base⟩ <;>
    · intro write member db
      obtain ⟨stop, _, rfl⟩ := List.mem_map.mp member
      rfl
  refine ⟨[log], ?_, by rw [written]; simp [replayed], ?_⟩
  · simp only [Db.commit_append, Db.commit_cons, Db.commit_nil, Write.audited_apply,
      Write.onAudited, concerns, if_true, (idle _).1]
  · rw [written]
    simp only [Db.commit_append, Db.commit_cons, Db.commit_nil, Write.status?_apply,
      Write.onStatus, if_true, (idle _).2]
    simp [Db.status?, fresh, draft]

section Requests

variable [UuidText]

/-- Another stop of the delivery is unfinished. -/
def Db.Remains (db : Db) (deliveryId stopId : Uuid) : Prop :=
  ∃ other ∈ db.stopsOf deliveryId, other.id ≠ stopId ∧ ¬other.status.Terminal

/-- The request sets the status of the delivery without an audit row of it: it finishes the last
stop of a delivery on its way, overrides a ticket of a delivery whose other stops are finished,
or moves the delivery under another spelling of its id. -/
inductive Request.Unrecorded (deliveryId : Uuid) (db : Db) (request : Request) : Prop where
  | completed {stop : DeliveryStop} {delivery : Delivery} (ends : request.Ends db stop delivery)
      (owner : stop.deliveryId = deliveryId) (enRoute : delivery.status = .enRoute)
      (last : ¬db.Remains deliveryId stop.id)
  | respelled {path : IdText} {delivery : Delivery} (moves : request.Moves db path delivery)
      (found : db.delivery? deliveryId = some delivery) (same : path.uuid = deliveryId)
      (otherwise : path ≠ deliveryId.text)
  | overridden {conflict : DeliveryConflict} {stop : DeliveryStop}
      (overrides : request.OverridesTicket db conflict stop)
      (owner : conflict.deliveryId = deliveryId) (present : db.delivery? deliveryId ≠ none)
      (last : ¬db.Remains deliveryId stop.id)
      (delivered : ∃ other ∈ db.stopsOf deliveryId, other.id = stop.id ∨ other.status = .delivered)

omit [UuidText] in
/-- A stop whose update leaves every stop terminal is the one that remained. -/
theorem remains_of_update {db : Db} {deliveryId stopId : Uuid} {data : StopData}
    (finished : ∀ stop ∈ ((Write.updateStop stopId data).apply db).stopsOf deliveryId,
      stop.status.Terminal) : ¬db.Remains deliveryId stopId := by
  rintro ⟨other, member, distinct, unfinished⟩
  exact unfinished (finished other ((Db.mem_stopsOf_update distinct).mpr member))

omit [UuidText] in
/-- Who has been delivered is the stop itself, or was before. -/
theorem delivered_of_update {db : Db} {deliveryId : Uuid} {stop : DeliveryStop} {data : StopData}
    (found : db.stop? stop.id = some stop)
    (delivered : ∃ other ∈ ((Write.updateStop stop.id data).apply db).stopsOf deliveryId,
      other.status = .delivered) :
    ∃ other ∈ db.stopsOf deliveryId, other.id = stop.id ∨ other.status = .delivered := by
  obtain ⟨other, member, status⟩ := delivered
  by_cases same : other.id = stop.id
  · obtain ⟨foundOther, owner⟩ := Db.mem_stopsOf.mp member
    rw [same, Write.stop?_apply, Write.onStop, if_pos rfl, found] at foundOther
    cases foundOther
    exact ⟨stop, Db.mem_stopsOf.mpr ⟨found, owner⟩, .inl rfl⟩
  · exact ⟨other, (Db.mem_stopsOf_update same).mp member, .inr status⟩

/-- What is chronicled of a request is recorded. -/
theorem Chronicle.recorded {request : Request} {db : Db} {writes : List Write}
    (chronicle : Chronicle request db writes) {deliveryId : Uuid}
    (recorded : ¬request.Unrecorded deliveryId db) : Recorded deliveryId db writes := by
  cases chronicle with
  | silent => exact .nil deliveryId db
  | @created _ _ row stops log fresh draft pending concerns replayed =>
      by_cases here : row.id = deliveryId
      · subst here
        exact recorded_creation fresh draft concerns replayed
      · refine .of_elsewhere fun write member => ?_
        simp only [List.cons_append, List.mem_cons, List.mem_append, List.mem_map,
          List.not_mem_nil, or_false] at member
        rcases member with rfl | ⟨stop, _, rfl⟩ | rfl
        · exact .createDelivery here
        · exact .createStop stop
        · exact .createAuditLog concerns here
  | @moved _ _ id row data status log actor moves found sets entity replayed =>
      by_cases here : id.uuid = deliveryId
      · obtain rfl : id = deliveryId.text :=
          not_not.mp fun otherwise => recorded (.respelled moves (here ▸ found) here otherwise)
        exact (recorded_move found sets entity replayed).append (.of_elsewhere elsewhere_of_emissions)
      · refine .of_elsewhere fun write member => ?_
        rcases List.mem_cons.mp member with rfl | member
        · exact .updateDelivery here data
        · rcases List.mem_cons.mp member with rfl | member
          · exact .createAuditLog entity here
          · exact elsewhere_of_emissions write member
  | stepped found sets tells =>
      refine .of_elsewhere fun write member => ?_
      rcases List.mem_cons.mp member with rfl | member
      · exact .updateStop _ _
      · exact elsewhere_of_emissions write member
  | @finished _ _ stop delivery data status payload actor completion ends found sets tells completes =>
      have first : Recorded deliveryId db
          (.updateStop stop.id data :: emissions [.delivery stop.deliveryId.text] payload actor) := by
        refine .of_elsewhere fun write member => ?_
        rcases List.mem_cons.mp member with rfl | member
        · exact .updateStop _ _
        · exact elsewhere_of_emissions write member
      refine first.append ?_
      cases completes with
      | idle => exact .nil _ _
      | @completed row target now actor foundRow enRoute verdict =>
          -- it is another delivery that is completed
          have other : stop.deliveryId ≠ deliveryId := by
            intro owner
            obtain ⟨stopId, driver, _, parent, _⟩ := ends.reaches
            obtain rfl : row = delivery := Option.some.inj (foundRow.symm.trans parent)
            obtain ⟨_, all, _⟩ := DeliveriesService.evaluateStops_completed
              (congrArg CompletionEvaluation.completed verdict)
            exact recorded (.completed ends owner enRoute (owner ▸ remains_of_update all))
          refine .of_elsewhere fun write member => ?_
          rcases List.mem_cons.mp member with rfl | member
          · exact .updateDelivery other _
          · exact elsewhere_of_emissions write member
  | @resolved conflictId actorUserId dto actorRole _ conflict writes operator found isOpen
      acceptable resolution =>
      rcases resolution.loud_eq with
        none | ⟨stop, data, completion, status, named, target, stopFound, outcome, completes, same⟩
      · rw [none]
        exact .nil deliveryId db
      · rw [same]
        have first : Recorded deliveryId db [.updateStop stop.id data] :=
          .of_elsewhere fun write member => List.mem_singleton.mp member ▸ .updateStop _ _
        refine first.append ?_
        cases completes with
        | unfinished => exact .nil _ _
        | @completed row now foundRow finished =>
            have other : conflict.deliveryId ≠ deliveryId := by
              intro owner
              obtain ⟨all, some⟩ : _ ∧ _ := by
                simpa [DeliveryConflictsService.overrideCompletes] using finished
              have present : db.delivery? deliveryId ≠ .none :=
                owner ▸ Option.ne_none_iff_exists'.mpr ⟨row, foundRow⟩
              exact recorded (.overridden
                (.intro operator status found isOpen named target stopFound
                  (acceptable status named)) owner present (owner ▸ remains_of_update all)
                (owner ▸ delivered_of_update stopFound some))
            exact .of_elsewhere fun write member =>
              List.mem_singleton.mp member ▸ .updateDelivery other _

/-- Every request but a batch of the outbox. -/
def Request.single : Request → Bool
  | .syncOutbox .. => false
  | _ => true

/-- What a request's narration writes is recorded, unless its kind or its stop is an
unrecorded one. -/
theorem Narrated.recorded {request : Request} {db : Db} {writes : List Write}
    (narrated : Narrated request db writes) (single : request.single = true) {deliveryId : Uuid}
    (recorded : ¬request.Unrecorded deliveryId db) : Recorded deliveryId db writes := by
  cases narrated with
  | once chronicle => exact .of_loud (chronicle.recorded recorded)
  | synced => cases single

omit [UuidText] in
/-- Rows that each tell of a status lead to the last of these. -/
theorem replay_append {earlier added : List AuditLog} {statuses : List DeliveryStatus}
    (tell : added.map AuditLog.replayed = statuses.map some) :
    replay (earlier ++ added) = (statuses.getLast? <|> replay earlier) := by
  induction added using List.reverseRecOn with
  | nil =>
      obtain rfl : statuses = [] := by simpa using tell.symm
      rw [List.append_nil]
      rfl
  | append_singleton added log _ =>
      induction statuses using List.reverseRecOn with
      | nil => simp at tell
      | append_singleton statuses status _ =>
          have last : log.replayed = some status := by
            rw [List.map_append, List.map_append] at tell
            simpa using (List.append_inj' tell rfl).2
          rw [replay, ← List.append_assoc, List.foldl_append, List.foldl_cons, List.foldl_nil, last,
            List.getLast?_append]
          rfl

/-- In a session without an unrecorded request the audit rows of a delivery are in step
with its statuses, and lead to the stored one. -/
theorem audit_trail_of_recorded {db : Db} {entries : List (Entry Request Response store)}
    {deliveryId : Uuid} (session : Session Unfailing Request.proc db entries)
    (single : ∀ entry ∈ entries, entry.call.single = true)
    (faithful : replay (db.audited deliveryId) = db.status? deliveryId)
    (recorded : ∀ first entry rest, entries = first ++ entry :: rest →
      ¬entry.call.Unrecorded deliveryId (db.commit (journal first))) :
    ∀ first rest, entries = first ++ rest → AuditTrail deliveryId db (journal first) := by
  have along : ∀ first rest, entries = first ++ rest → Recorded deliveryId db (journal first) := by
    refine session.along (fun first => Recorded deliveryId db (journal first)) (.nil deliveryId db) ?_
    intro first entry rest split wrote prior
    rw [journal_append, journal_singleton]
    refine prior.append ((Request.narrated wrote).recorded (single entry ?_) (recorded first entry rest split))
    rw [split]
    exact List.mem_append_right first List.mem_cons_self
  intro first rest split
  obtain ⟨added, rows, tell, status⟩ := along first rest split
  refine ⟨⟨added, rows, tell⟩, ?_⟩
  rw [rows, status, ← faithful]
  exact replay_append tell

end Requests

/-! ## The last stop fails -/

namespace LastStopFails

/-- A delivery on its way, as its audit rows tell, with a stop that is reached. -/
def db : Db where
  deliveries := Table.empty.insert
    { id := 1, deliveryCode := "D-1", driverId := some 3, status := .enRoute, createdBy := 9 }
  deliveryStops := Table.empty.insert
    { id := 7, deliveryId := 1, sequence := 1, status := .arrived }
  auditLogs := [{ actorUserId := 30, action := "DELIVERY_STARTED", entityType := "DELIVERY",
                  entityId := 1, result := "SUCCESS" }]

/-- The same, where another stop is left. -/
def dbWithMore : Db :=
  (Write.createStop { id := 8, deliveryId := 1, sequence := 2 }).apply db

/-- The stop fails. -/
def entries (db : Db) : List (Entry Request Response store) :=
  @plainEntries noUuids db [.failStop 7 {} 3 30]

/-- The example's operations run one after the other. -/
theorem session (db : Db) : Session Unfailing (@Request.proc noUuids) db (entries db) :=
  @session_plain noUuids db _

/-- Another stop of the delivery remains. -/
theorem remains : dbWithMore.Remains 1 7 :=
  ⟨{ id := 8, deliveryId := 1, sequence := 2 }, by decide, by decide, by decide⟩

/-- So the failed stop is no unrecorded case. -/
theorem recorded : ¬@Request.Unrecorded noUuids 1 dbWithMore (.failStop 7 {} 3 30) := by
  rintro (⟨ends, _, _, last⟩ | ⟨⟨⟩⟩ | ⟨⟨⟩⟩)
  rw [Db.id_of_stop? ends.1.1] at last
  exact last remains

/-- The audit trail of a failed stop that leaves another one to do. -/
theorem audit_trail_of_recorded_of_failure :
    journal (entries dbWithMore) ≠ [] ∧ ∀ first rest, entries dbWithMore = first ++ rest →
      AuditTrail 1 dbWithMore (journal first) := by
  refine ⟨by decide, @audit_trail_of_recorded noUuids dbWithMore (entries dbWithMore) 1
    (session dbWithMore) (by decide) rfl fun first entry rest split => ?_⟩
  cases first with
  | nil =>
      obtain rfl : _ = entry := (List.cons.inj split).1
      exact recorded
  | cons other first =>
      have impossible : [] = first ++ entry :: rest := (List.cons.inj split).2
      simp at impossible

/-- Not every session leaves an audit trail. -/
theorem audit_trail_violated :
    ¬∀ [UuidText] (db : Db) (entries : List (Entry Request Response store)) (deliveryId : Uuid),
      Session Unfailing Request.proc db entries →
        (∀ entry ∈ entries, entry.call.single = true) →
          replay (db.audited deliveryId) = db.status? deliveryId →
            ∀ first rest, entries = first ++ rest → AuditTrail deliveryId db (journal first) := by
  intro always
  have trail := @always noUuids db (entries db) 1 (session db) (by decide) rfl (entries db) [] (by simp)
  exact absurd trail.replays (by decide)

end LastStopFails

end Armada
