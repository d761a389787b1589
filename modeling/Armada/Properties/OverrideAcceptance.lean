import Armada.Chronicle.Services
import Armada.Outbox.Batch

/-!
# Evidence accepted by an override

A proof of delivery that is synced in time is recorded by `submitPod`. One that is synced
after the delivery was cancelled is kept in a ticket, and recorded by the override of that
ticket, which reads the payload by itself: it knows no receiver by default, and no
signature.
-/

namespace Armada

open Relational Concurrency DeliveryConflictsService

/-- No call fails, and no id that is generated is that of a ticket. -/
def Supplied (db : Db) (input : Input) : Prop :=
  Unfailing input ∧ db.conflict? input.uuid = none

/-- The stop is DELIVERED. -/
def Db.Delivered (db : Db) (stopId : Uuid) : Prop :=
  ∃ stop, db.stop? stopId = some stop ∧ stop.status = .delivered

/-- Both stores have a proof of delivery for the stop, with the same evidence, and the stop
is delivered in both. -/
structure SameEvidence (stopId : Uuid) (left right : Db) : Prop where
  recorded : ∃ first second, left.pod? stopId = some first ∧ right.pod? stopId = some second ∧
    first.deliveryStopId = second.deliveryStopId ∧ first.receiverName = second.receiverName ∧
      first.photoFileId = second.photoFileId ∧ first.signatureFileId = second.signatureFileId
  delivered : left.Delivered stopId ∧ right.Delivered stopId

/-! ## A cancellation -/

/-- What a cancellation does to the store. -/
structure Cancels (deliveryId : Uuid) (before after : Db) : Prop where
  cancelled : ∃ row, after.delivery? deliveryId = some row ∧ row.status = .cancelled
  deliveryStops : after.deliveryStops = before.deliveryStops
  proofsOfDelivery : after.proofsOfDelivery = before.proofsOfDelivery
  deliveryConflicts : after.deliveryConflicts = before.deliveryConflicts
  files : after.files = before.files

namespace DeliveriesService

variable {supplied : Input → Prop} {before after : Db} {deliveryId : IdText}

/-- The look for the delivery answers its row and changes nothing. -/
theorem getDeliveryById_returns {actor : DeliveryActor} {row : Delivery}
    (returned : (getDeliveryById deliveryId actor).Returns supplied before row after) :
    before.delivery? deliveryId = some row ∧ after = before := by
  simp only [getDeliveryById, Proc.returns_bind, Proc.returns_require, Proc.returns_rejectIf,
    Proc.returns_pure] at returned
  obtain ⟨_, _, read, _, _, ⟨rfl, rfl⟩, _, _, ⟨_, rfl⟩, _, _, ⟨_, rfl⟩, rfl, rfl⟩ := returned
  obtain ⟨found, rfl⟩ := returns_select read
  exact ⟨Except.ok.inj found, rfl⟩

/-- A cancellation that returns has cancelled the delivery. -/
theorem cancelDelivery_returns {dto : CancelDeliveryDto} {actor : DeliveryActor}
    {answer : Option Delivery}
    (returned : (cancelDelivery deliveryId dto actor).Returns supplied before answer after) :
    Cancels deliveryId before after := by
  obtain ⟨_, _, read, rest⟩ := Proc.returns_bind.mp returned
  obtain ⟨_, rfl⟩ := getDeliveryById_returns read
  obtain ⟨updated, _, claimed, rest⟩ := Proc.returns_bind.mp rest
  obtain ⟨inputs, writes, _, ran, rfl⟩ := Proc.returns_transact.mp claimed
  obtain ⟨row, data, log, found, _, sets, _, _, _, rfl⟩ :=
    (claimCancellation_moves deliveryId dto actor).of_run ran
  simp only [Proc.returns_bind, Proc.returns_pure] at rest
  obtain ⟨_, _, emitted, _, rfl⟩ := rest
  obtain ⟨input, writes, _, succeeded, rfl⟩ := Proc.returns_lift.mp emitted
  rw [RealtimeGateway.emit_succeeds.mp succeeded]
  -- the events of the cancellation leave all tables as they are
  refine ⟨⟨data.set row, ?_, by simp [DeliveryData.set, sets]⟩, rfl, rfl, rfl, rfl⟩
  change ((Write.updateDelivery deliveryId data).apply _).delivery? deliveryId = _
  rw [Write.delivery?_apply, Write.onDelivery, if_pos rfl, found, Option.map_some]

end DeliveriesService

/-! ## An override -/

section Overrides

variable [UuidText] {supplied : Input → Prop} {before after : Db} {conflict : DeliveryConflict}
  {stopId actorUserId : Uuid}

/-- The store has what the override of a ticket needs. -/
structure Overridable (conflict : DeliveryConflict) (stopId : Uuid) (db : Db) : Prop where
  stop : db.stop? stopId ≠ none
  delivery : db.delivery? conflict.deliveryId ≠ none
  acceptable : conflict.clientPayload.payload.Acceptable db

/-- An upsert whose values fit stores the proof. -/
theorem Prisma.ProofOfDelivery.upsert_fits {receiverName photoFileId : JsValue} {notes : String}
    {createdBy : Uuid} {input : Input} {db : Db} {receiver : String} {photo : Option Uuid}
    (fault : input.fault = none) (fits : receiverName.toVarChar 100 = .ok receiver)
    (parsed : photoFileId.orNull JsValue.toUuid = .ok photo)
    (filed : ∀ id ∈ photo, db.files.find? id ≠ none) (stop : db.stop? stopId ≠ none) :
    ∃ answer writes,
      (upsert stopId receiverName photoFileId notes createdBy).Succeeds input db answer writes := by
  have checked : checkFile db photo = .ok () := check_ok.mpr filed
  have present : check (db.stop? stopId ≠ none) (.knownRequest .foreignKeyConstraint) = .ok () :=
    check_ok.mpr stop
  simp only [upsert, query_succeeds, fits, parsed, checked, present, bind, Except.bind, fault,
    true_and]
  cases db.pod? stopId <;> simp

namespace DeliveryConflictsService

variable {written : List Write}

omit [UuidText] in
/-- What no call needs: a body ends without an error of its own. -/
theorem aborts_pure {β : Type} {able : Prop} (value : β) :
    (pure value : Txn store β).Aborts supplied (Spoils supplied able) before written :=
  fun _ _ given refused => spoils_of_commit given refused

/-- The acceptance of the evidence aborts where its values spoil it. -/
theorem acceptEvidence_aborts
    (filed : (before.commit written).files = before.files) :
    (acceptEvidence conflict.clientPayload.payload stopId actorUserId).Aborts supplied
      (Spoils supplied (Overridable conflict stopId before)) before written := by
  rw [acceptEvidence]
  split
  · rename_i named
    refine fun input given => ⟨fun error => spoils_of_query given fun able fault => ?_,
      fun answer _ _ => aborts_pure answer⟩
    obtain ⟨receiver, photo, fits, parsed, files⟩ := able.acceptable named
    obtain ⟨stop, found⟩ := Option.ne_none_iff_exists'.mp able.stop
    obtain ⟨later, foundLater, _⟩ := (before.extends_commit written).stops stopId stop found
    refine Prisma.ProofOfDelivery.upsert_fits fault fits parsed ?_ ?_
    · rw [Db.applyAll_store, filed]
      exact files
    · rw [Db.applyAll_store, foundLater]
      exact Option.some_ne_none later
  · exact aborts_pure ()

/-- The delivery of the stop aborts where it is no longer operational. -/
theorem deliverStop_aborts :
    (deliverStop conflict.deliveryId stopId).Aborts supplied
      (Spoils supplied (Overridable conflict stopId before)) before written := by
  refine Txn.Aborts.step (fun input error given => spoils_of_query given fun able fault => ?_)
    fun _ updated writes _ _ => ?_
  · obtain ⟨stop, found⟩ := Option.ne_none_iff_exists'.mp able.stop
    obtain ⟨later, foundLater, _⟩ := (before.extends_commit written).stops stopId stop found
    exact ⟨_, _, Prisma.DeliveryStop.update_succeeds.mpr ⟨fault, ⟨later, foundLater, rfl⟩, rfl⟩⟩
  refine Txn.Aborts.step (fun input error given => spoils_of_select given fun _ => ⟨_, rfl⟩)
    fun _ stops reads _ _ => ?_
  split
  · refine Txn.Aborts.step (fun input error given => spoils_of_query given fun able fault => ?_)
      fun _ _ _ _ _ => aborts_pure ()
    obtain ⟨row, found⟩ := Option.ne_none_iff_exists'.mp able.delivery
    obtain ⟨later, foundLater⟩ := Db.delivery?_commit_of_some found (written ++ writes ++ reads)
    exact ⟨_, _, Prisma.Delivery.update_succeeds.mpr ⟨fault, ⟨later, foundLater, rfl⟩, rfl⟩⟩
  · exact aborts_pure ()

/-- An override aborts because its ticket cannot be overridden, or because of the
environment. -/
theorem resolve_aborts {conflictId : IdText} {dto : ResolveConflictDto}
    (found : before.conflict? conflictId = some conflict)
    (target : conflict.clientPayload.payload.target.toUuid = .ok stopId) :
    (resolve conflict conflictId dto actorUserId).Aborts supplied
      (Spoils supplied (Overridable conflict stopId before)) before [] := by
  have audited : ∀ (row : AuditLog) (answer : DeliveryConflict) made,
      (do Prisma.AuditLog.create row; return answer : Txn store DeliveryConflict).Aborts supplied
        (Spoils supplied (Overridable conflict stopId before)) before made := fun row answer made =>
    Txn.Aborts.step (fun input error given => spoils_of_query given fun _ fault =>
      ⟨(), [.createAuditLog row], Prisma.AuditLog.create_succeeds.mpr ⟨fault, rfl⟩⟩)
      fun _ _ _ _ _ => aborts_pure answer
  refine Txn.Aborts.step (fun input error given => spoils_of_query given fun _ fault => ?_)
    fun input updated writes _ succeeded => ?_
  · exact ⟨_, _, Prisma.DeliveryConflict.update_succeeds.mpr ⟨fault, ⟨conflict, found, rfl⟩, rfl⟩⟩
  obtain ⟨_, _, rfl⟩ := Prisma.DeliveryConflict.update_succeeds.mp succeeded
  dsimp only
  split
  · rw [override]
    split
    · rw [target]
      have any {γ : Type} {body : Txn store γ} {made : List Write} :
          body.Yields (fun _ _ => True) before made := .of_forall fun _ _ => trivial
      exact Txn.Aborts.bind (Txn.Aborts.bind (acceptEvidence_aborts rfl) any fun _ _ _ =>
        deliverStop_aborts) any fun _ made _ => audited _ updated made
    · exact audited _ updated _
  · exact audited _ updated _

/-- The run of a request to resolve an open ticket. -/
theorem resolveConflict_runs {conflictId : IdText} {dto : ResolveConflictDto} {role : Role}
    {outcome : Except Exception DeliveryConflict} (operator : role ≠ .driver)
    (healthy : Healthy supplied) (found : before.conflict? conflictId = some conflict)
    (isOpen : conflict.status = .opened)
    (target : conflict.clientPayload.payload.target.toUuid = .ok stopId)
    (ran : (resolveConflict conflictId dto actorUserId role).Runs supplied before outcome after) :
    after = before ∧ ¬Overridable conflict stopId before ∨
      ∃ writes, after = before.commit writes ∧
        Resolution conflict conflictId dto actorUserId before writes := by
  have answered : ∀ {condition : Prop} [Decidable condition] {error thrown : Exception} {later : Db},
      (Proc.rejectIf condition error : Proc store Unit).Runs supplied before (.error thrown) later →
        condition := fun rejected => (Proc.throws_rejectIf.mp rejected).1
  rcases Proc.runs_bind.mp ran with ⟨_, _, allowed, lookup⟩ | ⟨_, rejected, _⟩
  swap
  · exact absurd (answered rejected) operator
  obtain ⟨_, rfl⟩ := Proc.returns_rejectIf.mp allowed
  rcases Proc.runs_bind.mp lookup with ⟨row, _, read, check⟩ | ⟨_, unread, _⟩
  swap
  · obtain ⟨⟨_, _, failed⟩, _⟩ := throws_select unread
    cases failed healthy
  obtain ⟨same, rfl⟩ := returns_select read
  cases same
  rcases Proc.runs_bind.mp check with ⟨_, _, required, claim⟩ | ⟨_, missing, _⟩
  swap
  · cases (Proc.throws_require.mp missing).1.symm.trans found
  obtain ⟨present, rfl⟩ := Proc.returns_require.mp required
  cases present.symm.trans found
  rcases Proc.runs_bind.mp claim with ⟨_, _, allowed, decide⟩ | ⟨_, rejected, _⟩
  swap
  · exact absurd isOpen (answered rejected)
  obtain ⟨_, rfl⟩ := Proc.returns_rejectIf.mp allowed
  rcases Proc.runs_transact.mp decide with
    ⟨inputs, _, writes, _, committed, _, rfl⟩ | ⟨inputs, _, given, aborted, _, rfl⟩
  · exact .inr ⟨writes, rfl,
      (resolve_commits conflict conflictId dto actorUserId _).of_run committed⟩
  · exact .inl ⟨rfl, ((resolve_aborts found target).of_run given aborted).2 healthy⟩

end DeliveryConflictsService

/-- What an override records of the evidence for a stop without a proof. -/
def OverrideRecords (payload : OutboxPayload) (stopId : Uuid) (db : Db) : Prop :=
  payload.receiverName.truthy = false ∧ db.pod? stopId = none ∨
    payload.receiverName.truthy = true ∧ ∃ row, db.pod? stopId = some row ∧
      row.deliveryStopId = stopId ∧ payload.receiverName.toVarChar 100 = .ok row.receiverName ∧
      payload.photoFileId.orNull JsValue.toUuid = .ok row.photoFileId ∧ row.signatureFileId = none

/-- An override of the ticket of a stop without a proof. -/
theorem Resolution.records {conflictId : IdText} {dto : ResolveConflictDto} {writes : List Write}
    (resolution : Resolution conflict conflictId dto actorUserId before writes)
    (overridden : dto.status = .resolvedOverridden)
    (named : conflict.clientPayload.payload.target.truthy = true)
    (target : conflict.clientPayload.payload.target.toUuid = .ok stopId)
    (unproven : before.pod? stopId = none) :
    (before.commit writes).Delivered stopId ∧
      OverrideRecords conflict.clientPayload.payload stopId (before.commit writes) := by
  obtain ⟨_, _, changed⟩ := resolution
  cases changed with
  | plain plain => cases (plain overridden).symm.trans named
  | @overridden other stop delivered evidence completion _ _ parsed stopFound evidenced outcome
      order completes =>
      obtain rfl : other = stopId := Except.ok.inj (parsed.symm.trans target)
      constructor
      · refine ⟨delivered.set stop, ?_, by simp [StopData.set, outcome]⟩
        rw [Db.stop?_commit, stopFound]
        cases evidenced <;> cases completes <;> simp [Write.onStop]
      · rw [OverrideRecords, Db.pod?_commit, unproven]
        cases evidenced with
        | none unnamed => exact .inl ⟨unnamed, by cases completes <;> rfl⟩
        | updated _ present => exact absurd unproven present
        | @created row named _ ofStop receiver photo unsigned =>
            refine .inr ⟨named, row, ?_, ofStop, receiver, photo, unsigned⟩
            cases completes <;> simp [Write.onPod, ofStop]

end Overrides

/-! ## The two paths -/

section Paths

variable [UuidText] {supplied : Input → Prop} {db : Db} {dto : OutboxSyncDto} {item : OutboxEventItem}
  {stopId driver user : Uuid}

/-- The overrides of some tickets, one after the other, whose paths spell their ids alike. -/
def overrideTickets (spelling : Spelling) (notes : Option String) (operator : Uuid) (role : Role) :
    List SyncConflict → Proc store Unit
  | [] => return ()
  | ticket :: tickets => do
      let _ ← resolveConflict ⟨ticket.conflictId, spelling⟩ ⟨.resolvedOverridden, notes⟩ operator
        role
      overrideTickets spelling notes operator role tickets

/-- A batch is synced, and an operator overrides the tickets that it has opened. -/
def syncOverridden (dto : OutboxSyncDto) (driver user : Uuid) (spelling : Spelling)
    (notes : Option String) (operator : Uuid) (role : Role) : Proc store Unit := do
  let result ← syncOutbox dto driver user
  overrideTickets spelling notes operator role result.conflicts

/-- What is known where `submitPod` would accept the event: it would answer with a proof
that it has recorded then. -/
structure Acceptance (driver user stopId : Uuid) (item : OutboxEventItem) (db : Db)
    (stop : DeliveryStop) (delivery : Delivery) : Prop where
  own : Reaches db stopId (some driver) stop delivery
  submits : Submits stop delivery
  submittable : Submittable stopId (podOf item) (driverActor user driver) db

/-- A submission that returns a fresh body has accepted the evidence. -/
theorem acceptance_of_submitPod {body : ResponseBody} {after : Db}
    (accepted : (PodService.submitPod stopId (podOf item) (driverActor user driver)).Returns supplied
      db (.reply (.fresh body)) after) :
    ∃ stop delivery, Acceptance driver user stopId item db stop delivery := by
  obtain ⟨stop, delivery, own, submitted⟩ := PodService.submitPod_returns accepted
  cases submitted with
  | fresh unstored submits commit trailed => exact ⟨stop, delivery, own, submits, commit.submittable⟩

/-- A batch of one event is its turn. -/
theorem syncOutbox_single {outcome : Except Exception SyncResult} {after : Db}
    (only : dto.events = [item])
    (ran : (syncOutbox dto driver user).Runs supplied db outcome after) :
    ∃ turn, (syncItem item driver user).Runs supplied db turn after ∧
      outcome = .ok (.of [⟨item, db, turn, after⟩]) := by
  obtain ⟨turns, taken, rfl⟩ := syncOutbox_runs.mp ran
  rw [only] at taken
  cases taken with
  | cons synced rest =>
      cases rest with
      | nil => exact ⟨_, synced, rfl⟩

namespace Acceptance

variable {stop : DeliveryStop} {delivery : Delivery}
  (accepted : Acceptance driver user stopId item db stop delivery)
include accepted

/-- The stop and its delivery are found. -/
theorem finds : Finds db stopId (some (stop, delivery)) := ⟨accepted.own.1, accepted.own.2.1⟩

/-- Neither is cancelled. -/
theorem live : ¬∃ stop, Cancelled db stopId stop := by
  rw [cancelled_of_finds accepted.finds]
  intro cancelled
  exact accepted.submits.1 (by simp [cancelled, terminalDeliveryStatuses])

/-- In time, the event is recorded as it was submitted. -/
theorem in_time {outcome : Except Exception SyncResult} {after : Db} (healthy : Healthy supplied)
    (only : dto.events = [item]) (names : item.Names stopId) (isPod : item.command = some .pod)
    (ran : (syncOutbox dto driver user).Runs supplied db outcome after) :
    after.Delivered stopId ∧ ∃ row, after.pod? stopId = some row ∧ row.deliveryStopId = stopId ∧
      (podOf item).Evidences row := by
  obtain ⟨turn, synced, rfl⟩ := syncOutbox_single only ran
  cases turn with
  | error error =>
      exact absurd synced (not_throws healthy names accepted.finds accepted.live
        (not_rejected names isPod ⟨stop, delivery, accepted.own, .inr (.inr accepted.submits)⟩)
        fun faulty => faulty.2.1 accepted.submittable)
  | ok ticket =>
      have same : ∀ {other}, item.Names other → other = stopId := fun named =>
        Except.ok.inj (named.2.symm.trans names.2)
      cases syncItem_returns synced with
      | unnamed anonymous => cases anonymous.symm.trans names.1
      | unknown _ foreign => cases foreign.symm.trans isPod
      | stepped _ command commanded step =>
          exact absurd (Option.some.inj (commanded.symm.trans isPod)) step
      | ticketed named cancelled =>
          obtain rfl := same named
          exact absurd ⟨_, cancelled⟩ accepted.live
      | @submitted other named _ _ found parent own reply _ submitted =>
          obtain rfl := same named
          obtain rfl : found = stop := Option.some.inj (own.1.symm.trans accepted.own.1)
          cases submitted with
          | replayed stored => cases (accepted.submittable.unstored).symm.trans stored
          | delivered _ status => exact absurd (by simp [status]) accepted.submits.2
          | fresh unstored submits commit trailed =>
              obtain ⟨later, _, reached, delivered⟩ := commit.reaches own trailed
              obtain ⟨row, recorded, ofStop, evidence⟩ := commit.recorded
              exact ⟨⟨later, reached.1, delivered⟩, row, (trailed.pod? other).trans recorded,
                ofStop, evidence⟩

/-- After the cancellation nothing but the ticket has been recorded, and its override has
all that it needs. -/
theorem overridable {cancelled : Db} (cancels : Cancels stop.deliveryId db cancelled)
    {row : DeliveryConflict} (about : row.deliveryId = stop.deliveryId)
    (payload : row.clientPayload = item) :
    Overridable row stopId ((Write.createConflict row).apply cancelled) where
  stop := by
    change cancelled.deliveryStops.find? stopId ≠ none
    rw [cancels.deliveryStops, show db.deliveryStops.find? stopId = some stop from accepted.own.1]
    nofun
  delivery := by
    obtain ⟨parent, found, _⟩ := cancels.cancelled
    change cancelled.delivery? row.deliveryId ≠ none
    rw [about, found]
    nofun
  acceptable named := by
    obtain ⟨evidence, evidenced, filed⟩ := accepted.submittable.evidence
    rw [payload] at named ⊢
    have receiver := evidenced.receiverName
    rw [podOf, JsValue.or, if_pos named] at receiver
    refine ⟨evidence.receiverName, evidence.photoFileId, receiver, evidenced.photoFileId, ?_⟩
    rw [show ((Write.createConflict row).apply cancelled).files = db.files from cancels.files]
    exact filed.photo

/-- After the cancellation the event is recorded as the override reads it, if its id is
short enough for a ticket. -/
theorem too_late {cancelled after : Db} {outcome : Except Exception Unit} {notes : Option String}
    {spelling : Spelling} {operator : Uuid} {role : Role}
    (cancels : Cancels stop.deliveryId db cancelled) (only : dto.events = [item])
    (names : item.Names stopId) (allowed : role ≠ .driver)
    (ran : (syncOverridden dto driver user spelling notes operator role).Runs (Supplied db)
      cancelled outcome after) :
    ¬item.clientEventId.length ≤ 100 ∧ after.pod? stopId = none ∨
      item.clientEventId.length ≤ 100 ∧ after.Delivered stopId ∧
        OverrideRecords item.payload stopId after := by
  have healthy : Healthy (Supplied db) := fun _ given => given.1
  have unproven : cancelled.pod? stopId = none := by
    rw [Db.pod?, cancels.proofsOfDelivery]
    exact accepted.submittable.unproven
  have free : ∀ input, Supplied db input → cancelled.conflict? input.uuid = none := by
    intro input given
    rw [Db.conflict?, cancels.deliveryConflicts]
    exact given.2
  have late : Cancelled cancelled stopId stop := by
    refine ⟨?_, cancels.cancelled⟩
    rw [Db.stop?, cancels.deliveryStops]
    exact accepted.own.1
  rcases Proc.runs_bind.mp ran with ⟨result, middle, synced, rest⟩ | ⟨_, impossible, _⟩
  swap
  · obtain ⟨_, _, thrown⟩ := syncOutbox_single only impossible
    cases thrown
  obtain ⟨turn, taken, same⟩ := syncOutbox_single only synced
  cases same
  rcases Proc.runs_bind.mp (late_turn healthy names late taken) with
    ⟨ticket, _, opened, done⟩ | ⟨error, failed, rfl⟩
  · obtain ⟨rfl, rfl⟩ := Proc.runs_pure.mp done
    obtain ⟨row, fresh, short, ⟨ofDelivery, _, payload, status⟩, rfl, rfl⟩ :=
      openConflict_returns opened
    have present : ((Write.createConflict row).apply cancelled).conflict? row.id = some row := by
      rw [Write.conflict?_apply, fresh]
      simp [Write.onConflict]
    have target : row.clientPayload.payload.target.toUuid = .ok stopId := payload ▸ names.2
    -- whether the override returns or throws, what it leaves is the end of the path
    obtain ⟨answer, resolved⟩ : ∃ answer, (resolveConflict ⟨row.id, spelling⟩
        ⟨.resolvedOverridden, notes⟩ operator role).Runs (Supplied db)
          ((Write.createConflict row).apply cancelled) answer after := by
      rcases Proc.runs_bind.mp rest with ⟨answer, _, resolved, done⟩ | ⟨thrown, failed, _⟩
      · obtain ⟨_, rfl⟩ := Proc.runs_pure.mp done
        exact ⟨_, resolved⟩
      · exact ⟨_, failed⟩
    rcases resolveConflict_runs allowed healthy present status target resolved with
      ⟨_, unable⟩ | ⟨writes, rfl, resolution⟩
    · exact absurd (accepted.overridable cancels ofDelivery payload) unable
    · have recorded := resolution.records rfl (payload ▸ names.1) target unproven
      rw [payload] at recorded
      exact .inr ⟨short, recorded⟩
  · obtain ⟨_, rfl⟩ := openConflict_throws failed
    obtain ⟨_, rfl⟩ := Proc.runs_pure.mp rest
    exact .inl ⟨(openConflict_spoils free failed).2 healthy, unproven⟩

end Acceptance

omit [UuidText] in
/-- A value that is given is not stored as null. -/
theorem JsValue.orNull_eq_none {β : Type} {convert : JsValue → Except PrismaError β}
    {value : JsValue} {column : Option β} (stored : value.orNull convert = .ok column) :
    column = none ↔ value.truthy = false := by
  rw [JsValue.orNull] at stored
  split at stored
  · rename_i given
    obtain ⟨converted, _, rfl⟩ := except_map_ok.mp stored
    simp [given]
  · rename_i missing
    cases stored
    simpa using missing

/-- The override records what was submitted: the receiver is named, nothing is signed, and
the id of the event fits into a ticket. -/
def OutboxEventItem.Kept (item : OutboxEventItem) : Prop :=
  item.payload.receiverName.truthy = true ∧ item.payload.signatureFileId.truthy = false ∧
    item.clientEventId.length ≤ 100

/-- For an event that `submitPod` would accept: the sync of the event in time, and its sync
after a cancellation with the override of the ticket, leave the same evidence if and only if
the event is kept. -/
theorem same_evidence_iff_kept {body : ResponseBody} {elsewhere cancelled inTime overruled : Db}
    {stop : DeliveryStop} {cancellation : CancelDeliveryDto} {canceller : DeliveryActor}
    {answer : Option Delivery} {prompt : Except Exception SyncResult} {late : Except Exception Unit}
    {notes : Option String} {operator : Uuid} {role : Role} {spelling cancelSpelling : Spelling}
    (only : dto.events = [item]) (names : item.Names stopId) (isPod : item.command = some .pod)
    (accepted : (PodService.submitPod stopId (podOf item) (driverActor user driver)).Returns
      (Supplied db) db (.reply (.fresh body)) elsewhere)
    (found : db.stop? stopId = some stop)
    (first : (syncOutbox dto driver user).Runs (Supplied db) db prompt inTime)
    (cancels : (DeliveriesService.cancelDelivery ⟨stop.deliveryId, cancelSpelling⟩ cancellation
      canceller).Returns (Supplied db) db answer cancelled)
    (allowed : role ≠ .driver)
    (second : (syncOverridden dto driver user spelling notes operator role).Runs (Supplied db)
      cancelled late overruled) :
    SameEvidence stopId inTime overruled ↔ item.Kept := by
  obtain ⟨other, delivery, acceptance⟩ := acceptance_of_submitPod accepted
  obtain rfl : other = stop := Option.some.inj (acceptance.own.1.symm.trans found)
  have healthy : Healthy (Supplied db) := fun _ given => given.1
  obtain ⟨delivered, row, recorded, ofStop, evidence⟩ :=
    acceptance.in_time healthy only names isPod first
  rcases acceptance.too_late (DeliveriesService.cancelDelivery_returns cancels) only names allowed
    second with ⟨long, unproven⟩ |
      ⟨short, deliveredLate, ⟨unnamed, unproven⟩ | ⟨named, later, recordedLate,
      ofStopLate, receiver, photo, unsigned⟩⟩
  · constructor
    · rintro ⟨⟨_, _, _, impossible, _⟩, _⟩
      cases unproven.symm.trans impossible
    · exact fun kept => absurd kept.2.2 long
  · constructor
    · rintro ⟨⟨_, _, _, impossible, _⟩, _⟩
      cases unproven.symm.trans impossible
    · exact fun kept => by cases unnamed.symm.trans kept.1
  · have receiverInTime := evidence.receiverName
    rw [podOf, JsValue.or, if_pos named, receiver] at receiverInTime
    have unsignedInTime : row.signatureFileId = none ↔ item.payload.signatureFileId.truthy = false :=
      JsValue.orNull_eq_none evidence.signatureFileId
    constructor
    · rintro ⟨⟨one, two, isOne, isTwo, _, _, _, sameSignature⟩, _⟩
      cases recorded.symm.trans isOne
      cases recordedLate.symm.trans isTwo
      exact ⟨named, unsignedInTime.mp (sameSignature.trans unsigned), short⟩
    · rintro ⟨_, unsignedItem, _⟩
      exact ⟨⟨row, later, recorded, recordedLate, ofStop.trans ofStopLate.symm,
        (Except.ok.inj receiverInTime).symm,
        Except.ok.inj (evidence.photoFileId.symm.trans photo),
        (unsignedInTime.mpr unsignedItem).trans unsigned.symm⟩, delivered, deliveredLate⟩

end Paths

/-! ## A lost signature -/

namespace LostSignature

@[reducible] def stopUuids : UuidText := tableUuids [("s", 7), ("f", 4)]

def db : Db where
  deliveries := Table.empty.insert
    { id := 1, deliveryCode := "D-1", driverId := some 3, status := .enRoute, createdBy := 9 }
  deliveryStops := Table.empty.insert
    { id := 7, deliveryId := 1, sequence := 1, status := .arrived }
  files := Table.empty.insert { id := 4, uploadedBy := 30 }

/-- A proof of delivery that was taken offline. -/
def proof (signature : JsValue) : OutboxEventItem where
  clientEventId := "e"
  eventType := "stop.pod"
  payload := { stopId := .string "s", receiverName := .string "Ann", photoFileId := .string "f",
               signatureFileId := signature }

def batch (signature : JsValue) : OutboxSyncDto :=
  ⟨[proof signature], by simp, by simp [proof]⟩

/-- A process run on the clock and the ids of an idle day. -/
def ran {α : Type} (process : Proc store α) (db : Db) : Except Exception α × Db :=
  process.run (fun _ _ => {}) db

/-- The example's processes run so. -/
theorem runs {α : Type} (process : Proc store α) (now : Db) :
    process.Runs (Supplied db) now (ran process now).1 (ran process now).2 :=
  process.runs_run _ (fun _ _ => ⟨rfl, rfl⟩) now

def submission (signature : JsValue) : Proc store PodReply :=
  @PodService.submitPod stopUuids 7 (podOf (proof signature)) (driverActor 30 3)

def prompt (signature : JsValue) : Proc store SyncResult := @syncOutbox stopUuids (batch signature) 3 30

def cancelled : Db :=
  (ran (DeliveriesService.cancelDelivery 1 ⟨"late"⟩ ⟨9, .admin, none, none⟩) db).2

def late (signature : JsValue) : Proc store Unit :=
  @syncOverridden stopUuids (batch signature) 3 30 .canonical none 9 .admin

/-- The submission with a signature that fits is accepted. -/
theorem accepted (signature : JsValue) (fits : signature = .undefined ∨ signature = .string "f") :
    ∃ body, (submission signature).Returns (Supplied db) db (.reply (.fresh body))
      (ran (submission signature) db).2 := by
  have run := runs (submission signature) db
  rcases fits with rfl | rfl
  · exact ⟨.pod 0 7 0, run⟩
  · exact ⟨.pod 0 7 0, run⟩

/-- The equivalence for a proof without a signature. -/
theorem same_evidence_iff_kept_of_unsigned :
    SameEvidence 7 (ran (prompt .undefined) db).2 (ran (late .undefined) cancelled).2 ↔
      (proof .undefined).Kept := by
  obtain ⟨body, submitted⟩ := accepted .undefined (.inl rfl)
  exact @same_evidence_iff_kept stopUuids db (batch .undefined) (proof .undefined) 7 3 30 body _
    cancelled _ _ _ ⟨"late"⟩ ⟨9, .admin, none, none⟩ _ _ _ none 9 .admin .canonical .canonical rfl
    ⟨rfl, rfl⟩ rfl submitted rfl (runs _ _) (runs _ _) (by decide) (runs _ _)

/-- Not every override accepts what was submitted. -/
theorem same_evidence_violated :
    ¬∀ [UuidText] (db : Db) (dto : OutboxSyncDto) (item : OutboxEventItem)
      (stopId driver user : Uuid) (body : ResponseBody) (elsewhere cancelled inTime overruled : Db)
      (stop : DeliveryStop) (cancellation : CancelDeliveryDto) (canceller : DeliveryActor)
      (answer : Option Delivery) (prompt : Except Exception SyncResult)
      (late : Except Exception Unit) (notes : Option String) (operator : Uuid) (role : Role)
      (spelling cancelSpelling : Spelling),
      dto.events = [item] → item.Names stopId → item.command = some .pod →
      (PodService.submitPod stopId (podOf item) (driverActor user driver)).Returns (Supplied db) db
        (.reply (.fresh body)) elsewhere →
      db.stop? stopId = some stop →
      (syncOutbox dto driver user).Runs (Supplied db) db prompt inTime →
      (DeliveriesService.cancelDelivery ⟨stop.deliveryId, cancelSpelling⟩ cancellation
        canceller).Returns (Supplied db) db answer cancelled →
      role ≠ .driver →
      (syncOverridden dto driver user spelling notes operator role).Runs (Supplied db) cancelled
        late overruled →
        SameEvidence stopId inTime overruled := by
  intro always
  obtain ⟨body, submitted⟩ := accepted (.string "f") (.inr rfl)
  obtain ⟨⟨one, two, isOne, isTwo, _, _, _, same⟩, _⟩ := @always stopUuids db (batch (.string "f"))
    (proof (.string "f")) 7 3 30 body _ cancelled _ _ _ ⟨"late"⟩ ⟨9, .admin, none, none⟩ _ _ _ none 9
    .admin .canonical .canonical rfl ⟨rfl, rfl⟩ rfl submitted rfl (runs _ _) (runs _ _) (by decide)
      (runs _ _)
  have signed : ((ran (prompt (.string "f")) db).2.pod? 7).map ProofOfDelivery.signatureFileId =
      some (some 4) := rfl
  have unsigned : ((ran (late (.string "f")) cancelled).2.pod? 7).map
      ProofOfDelivery.signatureFileId = some none := rfl
  rw [show (ran (prompt (.string "f")) db).2.pod? 7 = some one from isOne, Option.map_some,
    Option.some.injEq] at signed
  rw [show (ran (late (.string "f")) cancelled).2.pod? 7 = some two from isTwo, Option.map_some,
    Option.some.injEq] at unsigned
  cases signed.symm.trans (same.trans unsigned)

end LostSignature

end Armada
