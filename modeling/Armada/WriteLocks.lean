import Armada.Claims
import Armada.Statements

/-!
# The locks of what is written

Every call of the data layer locks the rows that it inserts or updates. What a transaction
commits is so no row that another has locked: the lookups of those rows stay as they are, and no
request overwrites what another has not committed yet.
-/

namespace Armada

open Relational Concurrency

/-- The lock of the row that a write inserts or updates. Rows that nobody updates have none. -/
def Write.lock : Write → Option Lock
  | .createDelivery row => some (.delivery row.id)
  | .updateDelivery id _ => some (.delivery id)
  | .createStop row => some (.stop row.id)
  | .updateStop id _ => some (.stop id)
  | .createRoute row => some (.route row.id)
  | .createPod row => some (.pod row.deliveryStopId)
  | .updatePod stopId _ => some (.pod stopId)
  | .createConflict row => some (.conflict row.id)
  | .updateConflict id _ => some (.conflict id)
  | .createRecord row => some (.record row.keyUserEndpoint)
  | .updateRecord key _ => some (.record key)
  | .createMessage row => some (.message row.id)
  | .createItems _ | .createRouteStops _ | .createEvent _ | .createAuditLog _ | .emit _ => none

/-- A write that creates no delivery, stop or route. -/
def Write.common : Write → Bool
  | .createDelivery _ | .createItems _ | .createStop _ | .createRoute _ | .createRouteStops _ => false
  | _ => true

/-- What the ordinary calls write. -/
def Write.ordinary : Write → Bool
  | .createRecord _ | .updateRecord .. | .updateStop .. => false
  | .createEvent row => row.eventType ≠ "POD_SUBMITTED"
  | write => write.common

/-- What is written once for a key, or once for a stop. -/
def Write.recording : Write → Bool
  | .createPod _ | .createEvent _ | .createRecord _ | .updateRecord .. => true
  | _ => false

/-- What the calls of `createDelivery` write besides, but for the stops. -/
def Write.creating : Write → Bool
  | .createDelivery _ | .createItems _ => true
  | _ => false

/-- What the calls of the operations on routes write besides, but for the stops. -/
def Write.routing : Write → Bool
  | .createRoute _ | .createRouteStops _ => true
  | _ => false

/-- A write of anything but stops. -/
def Write.stopless : Write → Bool
  | .createStop _ | .updateStop .. => false
  | _ => true

/-- What every request may write is common. -/
theorem Write.common_of_ordinary {write : Write} (ordinary : write.ordinary = true) :
    write.common = true := by
  cases write <;> first | rfl | cases ordinary

/-- What a record may write is common. -/
theorem Write.common_of_recording {write : Write} (recording : write.recording = true) :
    write.common = true := by
  cases write <;> first | rfl | cases recording

/-- The call writes what is allowed in the state that it reads, under locks of its own: one row,
or rows that have no lock. -/
structure Tidy (allowed : Db → Write → Prop) {β : Type} (statement : Statement store β) : Prop where
  locking : statement.Locking Write.lock
  writes : ∀ input db value writes, statement.Succeeds input db value writes →
    ∀ write ∈ writes, allowed db write
  single : ∀ input db value writes, statement.Succeeds input db value writes →
    writes.length ≤ 1 ∨ ∀ write ∈ writes, write.lock = none

variable {allowed : Db → Write → Prop}

/-- A look locks and writes nothing. -/
theorem tidy_select {β : Type} {body : Db → Except PrismaError β} : Tidy allowed (select body) where
  locking input db value writes executed := by
    rw [(select_succeeds.mp executed).2.2]
    exact Concurrency.Covered.nil _
  writes input db value writes executed := by
    rw [(select_succeeds.mp executed).2.2]
    exact List.forall_mem_nil _
  single input db value writes executed := by
    rw [(select_succeeds.mp executed).2.2]
    exact .inr (List.forall_mem_nil _)

/-- A call that makes one write at most. -/
theorem tidy_of_single {β : Type} {statement : Statement store β}
    (single : ∀ input db value writes, statement.Succeeds input db value writes →
      writes = [] ∨ ∃ write, writes = [write] ∧ allowed db write ∧
        ∀ own ∈ write.lock, own ∈ statement.locks input db) : Tidy allowed statement where
  locking input db value writes executed := by
    rcases single input db value writes executed with rfl | ⟨write, rfl, _, locked⟩
    · exact Concurrency.Covered.nil _
    · exact List.forall_mem_singleton.mpr locked
  writes input db value writes executed := by
    rcases single input db value writes executed with rfl | ⟨write, rfl, permitted, _⟩
    · exact List.forall_mem_nil _
    · exact List.forall_mem_singleton.mpr permitted
  single input db value writes executed := by
    rcases single input db value writes executed with rfl | ⟨write, rfl, _⟩
    · exact .inl (Nat.zero_le 1)
    · exact .inl le_rfl

/-- Events are emitted without a lock. -/
theorem tidy_emit (emits : ∀ db emission, allowed db (.emit emission)) (rooms : List Room)
    (payload : RealtimePayload) (actor : RealtimeActor) :
    Tidy allowed (RealtimeGateway.emit rooms payload actor) where
  locking input db value writes executed := by
    rw [RealtimeGateway.emit_succeeds.mp executed]
    intro write member own locks
    obtain ⟨room, _, rfl⟩ := List.mem_map.mp member
    cases locks
  writes input db value writes executed := by
    rw [RealtimeGateway.emit_succeeds.mp executed]
    intro write member
    obtain ⟨room, _, rfl⟩ := List.mem_map.mp member
    exact emits db _
  single input db value writes executed := by
    rw [RealtimeGateway.emit_succeeds.mp executed]
    refine .inr fun write member => ?_
    obtain ⟨room, _, rfl⟩ := List.mem_map.mp member
    rfl

open Prisma

/-- The ordinary statements are tidy where ordinary writes and steps of stops are allowed. -/
theorem ordinary_tidy [UuidText]
    (permits : ∀ db (write : Write), write.ordinary = true → allowed db write)
    (steps : ∀ db id row data, db.stop? id = some row → StopChange False row data →
      allowed db (.updateStop id data)) : Ordinary (Tidy allowed) where
  select _ := tidy_select
  incrRateLimit _ _ := tidy_of_single fun _ _ _ _ executed =>
    .inl (RedisService.incrRateLimit_succeeds.mp executed).2
  emit := tidy_emit fun _ _ => permits _ _ rfl
  createAuditLog _ := tidy_of_single fun _ _ _ _ executed =>
    .inr ⟨_, (AuditLog.create_succeeds.mp executed).2, permits _ _ rfl, nofun⟩
  createEvent _ _ _ _ _ other := tidy_of_single fun _ _ _ _ executed =>
    .inr ⟨_, (DeliveryEvent.create_succeeds.mp executed).2,
      permits _ _ (decide_eq_true other), nofun⟩
  updateDelivery _ _ := tidy_of_single fun _ _ _ _ executed =>
    .inr ⟨_, (Delivery.update_succeeds.mp executed).2.2, permits _ _ rfl,
      by simp [Write.lock, Delivery.update, query]⟩
  updateManyDelivery id status data := by
    refine tidy_of_single fun input db value writes executed => ?_
    obtain ⟨_, ⟨row, found, matched, _, made⟩ | ⟨_, _, none⟩⟩ :=
      Delivery.updateMany_succeeds.mp executed
    · exact .inr ⟨_, made, permits _ _ rfl, by simp [Write.lock, Delivery.updateMany, query, found, matched]⟩
    · exact .inl none
  updateManyStop id expected excluded data update := by
    refine tidy_of_single fun input db value writes executed => ?_
    obtain ⟨_, ⟨matched, _, made⟩ | ⟨_, _, none⟩⟩ := DeliveryStop.updateMany_succeeds.mp executed
    · obtain ⟨row, found, able, _⟩ := DeliveryStop.matched_iff.mp matched
      refine .inr ⟨_, made, steps db id row _ found (.updated (update input) able), ?_⟩
      rw [DeliveryStop.locks_updateMany data input matched]
      simp [Write.lock]
    · exact .inl none
  createConflict _ _ _ _ _ := by
    refine tidy_of_single fun input db value writes executed => ?_
    obtain ⟨_, _, _, own, made⟩ := DeliveryConflict.create_succeeds.mp executed
    exact .inr ⟨_, made, permits _ _ rfl, by simp [Write.lock, DeliveryConflict.create, query, own]⟩
  updateConflict _ _ := tidy_of_single fun _ _ _ _ executed =>
    .inr ⟨_, (DeliveryConflict.update_succeeds.mp executed).2.2, permits _ _ rfl,
      by simp [Write.lock, DeliveryConflict.update, query]⟩
  createMessage _ _ _ _ _ _ _ := by
    refine tidy_of_single fun input db value writes executed => ?_
    obtain ⟨own, _, _, made⟩ := Message.create_succeeds executed
    exact .inr ⟨_, made, permits _ _ rfl, by simp [Write.lock, Message.create, query, own]⟩

/-- Those of an override are, where its steps are allowed too. -/
theorem overriding_tidy [UuidText]
    (permits : ∀ db (write : Write), write.ordinary = true → allowed db write)
    (overrides : ∀ db id row data, db.stop? id = some row → StopChange True row data →
      allowed db (.updateStop id data)) : Overriding (Tidy allowed) where
  updateStop id := by
    refine tidy_of_single fun input db value writes executed => ?_
    obtain ⟨_, ⟨row, found, _⟩, made⟩ := DeliveryStop.update_succeeds.mp executed
    exact .inr ⟨_, made, overrides db id row _ found (.overridden trivial input.now),
      by simp [Write.lock, DeliveryStop.update, query]⟩
  upsertPod _ _ _ _ _ := by
    refine tidy_of_single fun input db value writes executed => .inr ?_
    obtain ⟨_, _, _, _, made⟩ | ⟨_, _, ofStop, _, _, _, made⟩ :=
      ProofOfDelivery.upsert_succeeds executed
    · exact ⟨_, made, permits _ _ rfl, by simp [Write.lock, ProofOfDelivery.upsert, query]⟩
    · exact ⟨_, made, permits _ _ rfl, by simp [Write.lock, ProofOfDelivery.upsert, query, ofStop]⟩

/-- Those of a record are. -/
theorem recording_tidy [UuidText]
    (permits : ∀ db (write : Write), write.recording = true → allowed db write) :
    Recording (Tidy allowed) where
  createPod _ _ _ _ _ _ := by
    refine tidy_of_single fun input db value writes executed => ?_
    obtain ⟨_, ofStop, _, _, _, _, _, _, _, _, _, _, _, made⟩ :=
      ProofOfDelivery.create_succeeds.mp executed
    exact .inr ⟨_, made, permits _ _ rfl, by simp [Write.lock, ProofOfDelivery.create, query, ofStop]⟩
  createPodEvent _ _ _ _ := tidy_of_single fun _ _ _ _ executed =>
    .inr ⟨_, (DeliveryEvent.create_succeeds.mp executed).2, permits _ _ rfl, nofun⟩
  createRecord _ _ _ := tidy_of_single fun _ _ _ _ executed =>
    .inr ⟨_, (IdempotencyRecord.create_succeeds.mp executed).2.2, permits _ _ rfl,
      by simp [Write.lock, IdempotencyRecord.create, query]⟩
  updateRecord _ _ := tidy_of_single fun _ _ _ _ executed =>
    .inr ⟨_, (IdempotencyRecord.update_succeeds.mp executed).2.2, permits _ _ rfl,
      by simp [Write.lock, IdempotencyRecord.update, query]⟩

/-- Those that create stops are, where fresh stops are allowed. -/
theorem creating_tidy
    (permits : ∀ db (write : Write), write.creating = true → allowed db write)
    (creates : ∀ db row, db.stop? row.id = none → row.Fresh → allowed db (.createStop row)) :
    Creating (Tidy allowed) where
  createDelivery _ _ _ := by
    refine tidy_of_single fun input db value writes executed => ?_
    obtain ⟨_, _, _, own, made⟩ := Delivery.create_succeeds.mp executed
    exact .inr ⟨_, made, permits _ _ rfl, by simp [Write.lock, Delivery.create, query, own]⟩
  createItems _ := tidy_of_single fun _ _ _ _ executed =>
    .inr ⟨_, (DeliveryItem.createMany_succeeds.mp executed).2, permits _ _ rfl, nofun⟩
  createStop row fresh := by
    refine tidy_of_single fun input db value writes executed => ?_
    obtain ⟨_, absent, _, made⟩ := DeliveryStop.create_succeeds.mp executed
    exact .inr ⟨_, made, creates db _ absent (fresh input.uuid),
      by simp [Write.lock, DeliveryStop.create, query]⟩

/-- Those of a route are, where renumbering stops is allowed. -/
theorem routing_tidy
    (permits : ∀ db (write : Write), write.routing = true → allowed db write)
    (moves : ∀ db id row data, db.stop? id = some row → StopChange False row data →
      allowed db (.updateStop id data)) : Routing (Tidy allowed) where
  selectForUpdate _ := tidy_of_single fun _ _ _ _ executed =>
    .inl (Delivery.selectForUpdate_succeeds.mp executed).2
  updateSequence id sequence := by
    refine tidy_of_single fun input db value writes executed => ?_
    obtain ⟨_, ⟨row, found, _⟩, made⟩ := DeliveryStop.updateSequence_succeeds.mp executed
    exact .inr ⟨_, made, moves db id row _ found (.resequenced sequence),
      by simp [Write.lock, DeliveryStop.updateSequence, query]⟩
  createRoute _ _ _ _ _ := by
    refine tidy_of_single fun input db value writes executed => ?_
    obtain ⟨own, _, _, _, _, _, made⟩ := Route.create_succeeds executed
    exact .inr ⟨_, made, permits _ _ rfl, by simp [Write.lock, Route.create, query, own]⟩
  createRouteStops _ := tidy_of_single fun _ _ _ _ executed =>
    .inr ⟨_, (RouteStop.createMany_succeeds.mp executed).2.2.2.2, permits _ _ rfl, nofun⟩

/-- A request that may override a conflict. -/
def Request.mayOverride : Request → Prop
  | .resolveConflict .. => True
  | _ => False

/-- What the calls of a request write, where the writes of stops are judged as they are made. -/
theorem Request.tidy_of [UuidText] (request : Request)
    (permits : ∀ db (write : Write), write.stopless = true → allowed db write)
    (creates : ∀ db row, db.stop? row.id = none → row.Fresh → allowed db (.createStop row))
    (changes : ∀ db id row data, db.stop? id = some row →
      StopChange request.mayOverride row data → allowed db (.updateStop id data)) :
    request.proc.Every (Tidy allowed) := by
  have steps : ∀ db id row data, db.stop? id = some row → StopChange False row data →
      allowed db (.updateStop id data) := fun db id row data found change =>
    changes db id row data found (change.mono False.elim)
  have recording : Recording (Tidy allowed) := recording_tidy fun db write recording =>
    permits db write (by cases write <;> first | rfl | cases recording)
  have routing : Routing (Tidy allowed) := routing_tidy (fun db write routing =>
    permits db write (by cases write <;> first | rfl | cases routing)) steps
  have ordinary : ∀ db (write : Write), write.ordinary = true → allowed db write :=
    fun db write ordinary => permits db write (by cases write <;> first | rfl | cases ordinary)
  refine Request.every (ordinary_tidy ordinary steps) ?_
  cases request with
  | createDelivery => exact creating_tidy (fun db write creating =>
      permits db write (by cases write <;> first | rfl | cases creating)) creates
  | resolveConflict => exact overriding_tidy ordinary changes
  | submitPod => exact recording
  | syncOutbox => exact recording
  | sendMessage => exact recording
  | selectRoute => exact ⟨recording, routing⟩
  | reorderStops => exact ⟨recording, routing⟩
  | _ => trivial

/-- Every request locks the rows that it writes. -/
theorem Request.locking [UuidText] (request : Request) :
    request.proc.Every (Statement.Locking Write.lock) :=
  (request.tidy_of (fun _ _ _ => trivial) (fun _ _ _ _ => trivial)
    fun _ _ _ _ _ _ => trivial : request.proc.Every (Tidy fun _ _ => True)).mono
      fun _ tidy => tidy.locking

/-! ## What others see -/

/-- The rows whose locks are held are as they were, and so are the routes of a locked delivery. -/
structure Framed (held : List Lock) (before after : Db) : Prop where
  pod : ∀ id, .pod id ∈ held → after.pod? id = before.pod? id
  record : ∀ key, .record key ∈ held → after.record? key = before.record? key
  delivery : ∀ id, .delivery id ∈ held → before.delivery? id = none → after.delivery? id = none
  routes : ∀ id, .delivery id ∈ held → after.routesOf id = before.routesOf id
  route : ∀ id, .route id ∈ held → after.routes.find? id = before.routes.find? id
  files : after.files = before.files

namespace Framed

variable {first second third db : Db} {held others : List Lock} {writes : List Write}

/-- Nothing has happened to the frame. -/
theorem refl (held : List Lock) (db : Db) : Framed held db db where
  pod _ _ := rfl
  record _ _ := rfl
  delivery _ _ absent := absent
  routes _ _ := rfl
  route _ _ := rfl
  files := rfl

/-- What frames twice frames. -/
theorem trans (left : Framed held first second) (right : Framed held second third) :
    Framed held first third where
  pod id locked := (right.pod id locked).trans (left.pod id locked)
  record key locked := (right.record key locked).trans (left.record key locked)
  delivery id locked absent := right.delivery id locked (left.delivery id locked absent)
  routes id locked := (right.routes id locked).trans (left.routes id locked)
  route id locked := (right.route id locked).trans (left.route id locked)
  files := right.files.trans left.files

/-- A relation that keeps the frame is stable. -/
theorem stable {rely : List Lock → Db → Db → Prop}
    (framed : ∀ {held before after}, rely held before after → Framed held before after) :
    Stable rely where
  pod relied locked := (framed relied).pod _ locked
  record relied locked := (framed relied).record _ locked
  routes relied locked := (framed relied).routes _ locked
  route relied locked := (framed relied).route _ locked
  files relied := (framed relied).files

/-- A lookup that only writes under a lock change, while another holds the lock. -/
theorem idle {β : Type} (look : Db → β) {own : Lock} (step : ∀ (write : Write) db,
    write.lock ≠ some own → look (write.apply db) = look db)
    (covered : Concurrency.Covered (S := store) Write.lock held writes)
    (compatible : Compatible (S := store) held others) (locked : own ∈ others) :
    look (db.commit writes) = look db := by
  have avoids := covered.avoids (fun _ => rfl) compatible locked
  exact Db.commit_idle look (fun write member db => step write db (avoids write member)) db

/-- What is written under locks keeps the frame of those who hold other ones. -/
theorem of_covered (covered : Concurrency.Covered (S := store) Write.lock held writes)
    (compatible : Compatible (S := store) held others)
    (routes : ∀ id, .delivery id ∈ others → (db.commit writes).routesOf id = db.routesOf id) :
    Framed others db (db.commit writes) := by
  refine ⟨?_, ?_, ?_, routes, ?_, ?_⟩
  · intro id locked
    refine idle (·.pod? id) (fun write db other => ?_) covered compatible locked
    rw [write.pod?_apply]
    cases write with
    | createPod row =>
        have apart : ¬row.deliveryStopId = id := fun same => other (by rw [Write.lock, same])
        rw [Write.onPod, if_neg apart, Option.or_none]
    | updatePod key data => exact if_neg fun same => other (by rw [Write.lock, same])
    | _ => rfl
  · intro key locked
    refine idle (·.record? key) (fun write db other => ?_) covered compatible locked
    rw [write.record?_apply]
    cases write with
    | createRecord row =>
        have apart : ¬row.keyUserEndpoint = key := fun same => other (by rw [Write.lock, same])
        rw [Write.onRecord, if_neg apart, Option.or_none]
    | updateRecord stored data => exact if_neg fun same => other (by rw [Write.lock, same])
    | _ => rfl
  · intro id locked absent
    refine (idle (·.delivery? id) (fun write db other => ?_) covered compatible locked).trans absent
    rw [write.delivery?_apply]
    cases write with
    | createDelivery row =>
        have apart : ¬row.id = id := fun same => other (by rw [Write.lock, same])
        rw [Write.onDelivery, if_neg apart, Option.or_none]
    | updateDelivery key data => exact if_neg fun same => other (by rw [Write.lock, same])
    | _ => rfl
  · intro id locked
    refine idle (·.routes.find? id) (fun write db other => ?_) covered compatible locked
    cases write with
    | createRoute row =>
        have apart : ¬row.id = id := fun same => other (by rw [Write.lock, same])
        exact (Table.find?_insert db.routes row id).trans (by simp [Keyed.key, apart])
    | _ => rfl
  · exact Db.commit_idle Db.files (fun write _ db => by cases write <;> rfl) db

end Framed

/-! ## No dirty writes -/

section Runs

variable [UuidText] {db : Db} {requests : List Request} {supplied : Input → Prop}
  {trace : List (Commit store)} {system : System store Response}

/-- In every run of any requests, two open transactions have written no row in common, and no
request commits a write to a row that another open transaction has written. -/
theorem no_dirty_writes
    (steps : (System.ofPool (Request.pool db requests)).Steps supplied trace system)
    {thread other : Nat} (different : other ≠ thread) {found rest : Thread store Response}
    (enabled : system.threads[thread]? = some found)
    (waiting : system.threads[other]? = some rest) :
    Unshared Write.lock found.written rest.written ∧ ∀ writes next,
      found.Moves supplied system.state (system.Free thread) writes next →
        Unshared Write.lock writes rest.written := by
  have locking : ∀ process ∈ (Request.pool db requests).procs,
      process.Every (Statement.Locking Write.lock) := by
    intro process member
    obtain ⟨request, _, rfl⟩ := List.mem_map.mp member
    exact request.locking
  have initially := System.locking_ofPool locking
  have exclusive := System.exclusive_ofPool (Request.pool db requests)
  exact ⟨steps.unshared initially exclusive (fun _ => rfl) different enabled waiting,
    fun _ _ => steps.commits_unshared initially exclusive (fun _ => rfl) different enabled waiting⟩

end Runs

/-! ## Two submissions for two stops -/

namespace TwoProofs

local instance : DecidableRel store.clash := inferInstanceAs (DecidableEq Lock)

/-- A driver. -/
def actor : DeliveryActor := { userId := 30, role := .driver, driverId := some 3 }

/-- Two stops of one delivery, both at the door. -/
def stop (id : Uuid) : DeliveryStop where
  id := id
  deliveryId := 1
  sequence := id
  status := .arrived

/-- The store with both. -/
def start : Db where
  deliveries := Table.empty.insert
    { id := 1, deliveryCode := "D-1", driverId := some 3, status := .enRoute, createdBy := 9 }
  deliveryStops := (Table.empty.insert (stop 7)).insert (stop 8)

/-- Two submissions, one for each stop. -/
def calls : List Request :=
  [.submitPod 7 { receiverName := .string "Ani" } actor,
    .submitPod 8 { receiverName := .string "Budi" } actor]

/-- Nobody has begun. -/
def initial : System store Response := .ofPool (@Request.pool noUuids start calls)

/-- Both transactions have updated their stop and inserted their proof. -/
def schedule : List (Nat × Input) :=
  (List.replicate 4 [0, 1]).flatten.map fun thread => (thread, {})

/-- The schedule is a run. -/
theorem steps : initial.Steps (fun _ => True) (initial.play schedule).1 (initial.play schedule).2 :=
  System.play_steps schedule initial

/-- The two transactions are open at once, and have written different rows. -/
theorem no_dirty_writes_proofs : ∃ first ∈ (initial.play schedule).2.threads[0]?,
    ∃ second ∈ (initial.play schedule).2.threads[1]?,
      first.written.length = 2 ∧ second.written.length = 2 ∧
        Unshared Write.lock first.written second.written ∧ ∀ writes next,
          first.Moves (fun _ => True) (initial.play schedule).2.state
            ((initial.play schedule).2.Free 0) writes next →
              Unshared Write.lock writes second.written := by
  have opened : ∃ first ∈ (initial.play schedule).2.threads[0]?,
      ∃ second ∈ (initial.play schedule).2.threads[1]?,
        first.written.length = 2 ∧ second.written.length = 2 := by
    decide +kernel
  obtain ⟨first, atFirst, second, atSecond, mine, theirs⟩ := opened
  exact ⟨first, atFirst, second, atSecond, mine, theirs,
    @no_dirty_writes noUuids _ _ _ _ _ steps 0 1 (by decide) _ _ atFirst atSecond⟩

end TwoProofs

end Armada
