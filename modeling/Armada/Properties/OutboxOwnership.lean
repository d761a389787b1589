import Armada.Outbox.Batch
import Armada.Ownership

/-!
# Whose rows a sync touches

The operations that the sync calls check whose delivery a stop belongs to. The ticket for
a late event is opened before any of them, for whatever cancelled delivery the event
names a stop of. So a sync keeps to the deliveries of its driver exactly where no event
of the batch names a stop of somebody else's cancelled delivery.
-/

namespace Armada

open Relational Concurrency

/-- The row that a write makes or changes belongs to a delivery of the driver. -/
def Write.OwnedBy (driver : Uuid) (db : Db) : Write → Prop
  | .createStop row => ∃ delivery, db.delivery? row.deliveryId = some delivery ∧
      delivery.driverId = some driver
  | .updateStop id _ => ∃ stop delivery, Reaches db id (some driver) stop delivery
  | .createPod row => ∃ stop delivery, Reaches db row.deliveryStopId (some driver) stop delivery
  | .updatePod stopId _ => ∃ stop delivery, Reaches db stopId (some driver) stop delivery
  | .createEvent row => ∃ delivery, db.delivery? row.deliveryId = some delivery ∧
      delivery.driverId = some driver
  | .createConflict row => ∃ delivery, db.delivery? row.deliveryId = some delivery ∧
      delivery.driverId = some driver
  | .updateConflict id _ => ∃ row delivery, db.conflict? id = some row ∧
      db.delivery? row.deliveryId = some delivery ∧ delivery.driverId = some driver
  | _ => True

/-- Writes within the driver's part are owned by the driver. -/
theorem ownedBy_of_within {driver : Uuid} {db : Db} {writes : List Write}
    (within : Within (Belongs driver) writes db) : ∀ write ∈ writes, write.OwnedBy driver db := by
  intro write member
  by_cases touches : write.touches = true
  · obtain ⟨stopId, deliveryId, belongs, about⟩ := within write member touches
    have parent := belongs.delivery
    obtain ⟨stop, delivery, own, _⟩ := belongs
    cases write with
    | updateStop id data => exact ⟨stop, delivery, (show id = stopId from about) ▸ own⟩
    | createPod row => exact ⟨stop, delivery, (show row.deliveryStopId = stopId from about) ▸ own⟩
    | createEvent row =>
        obtain rfl : row.deliveryId = deliveryId := about
        exact parent
    | createConflict row =>
        obtain rfl : row.deliveryId = deliveryId := about
        exact parent
    | _ => exact about.elim
  · cases write <;> first | exact trivial | exact absurd rfl touches

section Sync

variable [UuidText] {driver user : Uuid}

/-- No event of the batch names a stop of a cancelled delivery of somebody else. -/
def OwnCancellations (driver : Uuid) (events : List OutboxEventItem) (db : Db) : Prop :=
  ∀ item ∈ events, ∀ stopId stop delivery, item.Names stopId → item.clientEventId.length ≤ 100 →
    db.stop? stopId = some stop → db.delivery? stop.deliveryId = some delivery →
      delivery.status = .cancelled → delivery.driverId = some driver

/-- The driver's cancellations stay the driver's own. -/
theorem OwnCancellations.advances {events : List OutboxEventItem} {before after : Db}
    (own : OwnCancellations driver events before) (advances : Advances before after) :
    OwnCancellations driver events after := by
  intro item member stopId later parent names short found foundParent cancelled
  obtain ⟨stop, delivery, reached, status⟩ := advances.reached ⟨found, foundParent, .inl rfl⟩
  obtain ⟨row, foundRow, sameDriver, _⟩ := advances.deliveries _ _ reached.2.1
  obtain ⟨next, foundNext, same, _⟩ := advances.stops _ _ reached.1
  obtain rfl := Option.some.inj (foundNext.symm.trans found)
  obtain rfl := Option.some.inj (foundRow.symm.trans (same ▸ foundParent))
  rw [sameDriver]
  refine own item member stopId stop delivery names short reached.1 reached.2.1 ?_
  rcases status with unchanged | ⟨_, completed | failed⟩
  · exact unchanged ▸ cancelled
  · cases cancelled.symm.trans completed
  · cases cancelled.symm.trans failed

namespace DeliveryConflictsService

/-- The writes are owned, in a state without cancellations of somebody else. -/
def OwnedIf (driver : Uuid) (events : List OutboxEventItem) (writes : List Write) (db : Db) : Prop :=
  OwnCancellations driver events db → ∀ write ∈ writes, write.OwnedBy driver db

variable {events : List OutboxEventItem}

/-- A secured process owns what it writes. -/
theorem ownedIf_of_secured {α : Type} {process : Proc store α}
    (secured : Secured Eq (Belongs driver) process) :
    process.Commits (.atomic Eq (OwnedIf driver events)) := fun db =>
  (secured db).mono (fun _ _ same => same) (fun _ _ within _ => ownedBy_of_within within)
    fun _ _ _ => trivial

/-- No writes are owned. -/
theorem ownedIf_nothing (db : Db) : OwnedIf driver events [] db := by
  intro _ write member
  cases member

/-- The operation of an event owns what it writes. -/
theorem dispatch_owns (item : OutboxEventItem) (stopId : Option Uuid) :
    (dispatch item stopId driver user).Commits (.atomic Eq (OwnedIf driver events)) := by
  have checkable := Belongs.checkable driver
  have lasting := checkable.toLasting
  refine ownedIf_of_secured ?_
  cases stopId with
  | none => exact .pure _
  | some stopId =>
      rw [dispatch_eq]
      split
      · exact .pure _
      · exact ((DeliveryStopsService.departToStop_verified lasting).secured checkable).map _
      · exact ((DeliveryStopsService.arriveAtStop_verified lasting).secured checkable).map _
      · exact ((DeliveryStopsService.startUnloading_verified lasting).secured checkable).map _
      · have verified : DeliveryStopsService.Verified Eq (Belongs driver) stopId (some driver)
            (PodService.submitPod stopId (podOf item) (driverActor user driver)) :=
          PodService.submitPod_verified lasting
        exact (verified.secured checkable).map _

/-- The ticket of an event is owned when the stop was the driver's. -/
theorem openConflict_owns {item : OutboxEventItem} (member : item ∈ events) {stopId : Uuid}
    {stop : DeliveryStop} {db : Db} (names : item.Names stopId) (cancelled : Cancelled db stopId stop) :
    (openConflict stop.deliveryId item).Meets (.atomic Eq (OwnedIf driver events))
    (fun _ _ => True) db := by
  refine Proc.Meets.bind (Q := fun _ _ => True) (.statement ?_ ?_) (fun _ _ _ => trivial)
    fun _ _ _ => trivial
  · exact fun next error _ => ⟨ownedIf_nothing next, trivial⟩
  · rintro next input row writes rfl succeeded
    obtain ⟨_, short, _, rfl, rfl⟩ := Prisma.DeliveryConflict.create_succeeds.mp succeeded
    refine ⟨fun own write here => ?_, trivial⟩
    obtain ⟨found, delivery, foundDelivery, status⟩ := cancelled
    rw [List.mem_singleton.mp here]
    exact ⟨delivery, foundDelivery, own item member stopId stop delivery names short found
      foundDelivery status⟩

/-- The reading tells whose delivery is cancelled. -/
theorem readTarget_learns (item : OutboxEventItem) (db : Db) :
    (readTarget item.payload.target).Meets (.atomic Eq (OwnedIf driver events))
      (OnResult (fun target current => ∀ stop delivery, target.bind Prod.snd = some (stop, delivery) →
        delivery.status = .cancelled → ∃ stopId, item.Names stopId ∧ Cancelled current stopId stop)
        fun _ _ => True) db := by
  have reads : (readTarget item.payload.target).Commits (.atomic Eq (OwnedIf driver events)) := by
    rw [readTarget]
    split
    · split
      · exact .throw _
      · exact (ownedIf_of_secured Secured.select).bind fun _ => .pure _
    · exact .pure _
  refine (reads db).of_all_runs fun result after ran => ?_
  cases result with
  | error error => exact trivial
  | ok target =>
      intro stop delivery read cancelled
      obtain ⟨same, ⟨_, rfl⟩ | ⟨stopId, found, named, parsed, rfl, finds⟩⟩ := readTarget_returns ran
      · cases read
      · subst same
        obtain rfl : found = some (stop, delivery) := read
        exact ⟨stopId, ⟨named, parsed⟩, finds.1, delivery, finds.2, cancelled⟩

/-- The turn of an event owns what it writes. -/
theorem syncItem_owns {item : OutboxEventItem} (member : item ∈ events) :
    (syncItem item driver user).Commits (.atomic Eq (OwnedIf driver events)) := by
  intro db
  have dispatched : ∀ stopId, (do
      dispatch item stopId driver user
      return (none : Option SyncConflict)).Commits (.atomic Eq (OwnedIf driver events)) :=
    fun stopId => (dispatch_owns item stopId).bind fun _ => .pure _
  refine (readTarget_learns item db).bind (fun _ _ _ => trivial) fun target current found => ?_
  split
  · rename_i stop delivery read
    split
    · rename_i cancelled
      obtain ⟨stopId, names, here⟩ := found stop delivery read cancelled
      exact (openConflict_owns member names here).bind (fun _ _ _ => trivial) fun _ _ _ => trivial
    · exact dispatched _ current
  · exact dispatched _ current

/-- So do the turns of a batch. -/
theorem syncItems_owns {items : List OutboxEventItem} (within : ∀ item ∈ items, item ∈ events)
    (result : SyncResult) :
    (syncItems driver user items result).Commits (.atomic Eq (OwnedIf driver events)) := by
  induction items generalizing result with
  | nil => exact .pure _
  | cons item items inductionHypothesis =>
      refine (Proc.Commits.tryCatch ?_ fun _ => .pure _).bind fun turn =>
        inductionHypothesis (fun other member => within other (List.mem_cons_of_mem _ member)) turn
      refine (syncItem_owns (within item List.mem_cons_self)).bind fun ticket => ?_
      cases ticket with
      | none => exact .pure _
      | some ticket => exact .pure _

end DeliveryConflictsService

/-- The one effect of a sync on the tickets. -/
theorem Allowed.conflict?_commit {dto : OutboxSyncDto} {db : Db} {writes : List Write}
    (allowed : Allowed (.syncOutbox dto driver user) writes db) {id : Uuid} {row : DeliveryConflict}
    (found : (db.commit writes).conflict? id = some row) :
    db.conflict? id = some row ∨ .createConflict row ∈ writes := by
  rw [← (db.commit_essential writes).conflict? id] at found
  have core : ∀ write ∈ essential writes, write ∈ writes := fun write member =>
    (List.mem_filter.mp member).1
  rw [Allowed] at allowed
  generalize essential writes = effect at allowed found core
  cases allowed with
  | none => exact .inl found
  | completed able enRoute verdict => exact .inl found
  | moved move able matched target order => exact .inl found
  | delivered able matched target order absent ofStop => exact .inl found
  | @ticketed _ _ _ _ ticket stopId stop fresh target foundStop owner =>
      rw [Db.commit_cons, Db.commit_nil, Write.conflict?_apply, Write.onConflict] at found
      cases old : db.conflict? id with
      | some earlier =>
          rw [old] at found
          exact .inl found
      | none =>
          rw [old, Option.none_or] at found
          split at found
          · cases found
            exact .inr (core _ List.mem_cons_self)
          · cases found

section Runs

variable {db : Db} {dto : OutboxSyncDto} {trace : List (Commit store)} {final : Pool store Response}

/-- Every commit of a sync is one of its effects. -/
theorem allowed_of_steps (steps : (Request.pool db [.syncOutbox dto driver user]).Steps trace final) :
    ∀ commit ∈ trace, Allowed (.syncOutbox dto driver user) commit.writes commit.before := by
  intro commit member
  obtain ⟨request, found, effect⟩ := Request.effect_of_steps steps commit member
  cases thread : commit.thread with
  | zero =>
      rw [thread] at found
      cases found
      exact effect
  | succ thread =>
      rw [thread] at found
      cases found

/-- The store only advances over a run. -/
theorem advances_of_steps (steps : (Request.pool db [.syncOutbox dto driver user]).Steps trace final) :
    Advances db final.state ∧ ∀ commit ∈ trace, Advances db commit.before :=
  steps.invariant (Advances db) (.refl db) fun commit member since =>
    since.trans (.of_allowed (allowed_of_steps steps commit member))

/-- Where all writes are owned, so are the deliveries of the new tickets. -/
theorem tickets_owned (steps : (Request.pool db [.syncOutbox dto driver user]).Steps trace final)
    (owned : ∀ commit ∈ trace, ∀ write ∈ commit.writes, write.OwnedBy driver commit.before) :
    ∀ id row, db.conflict? id = none → final.state.conflict? id = some row →
      ∃ delivery, final.state.delivery? row.deliveryId = some delivery ∧
        delivery.driverId = some driver := by
  refine (steps.invariant (fun state : Db => ∀ id row, db.conflict? id = none →
    state.conflict? id = some row → ∃ delivery, state.delivery? row.deliveryId = some delivery ∧
      delivery.driverId = some driver) (fun id row absent found => ?_)
    fun commit member before id row absent found => ?_).1
  · cases absent.symm.trans found
  · have allowed := allowed_of_steps steps commit member
    obtain ⟨delivery, foundBefore, driven⟩ : ∃ delivery,
        Db.delivery? commit.before row.deliveryId = some delivery ∧ delivery.driverId = some driver := by
      rcases allowed.conflict?_commit found with earlier | created
      · exact before id row absent earlier
      · exact owned commit member _ created
    obtain ⟨later, foundLater, same, _⟩ := (Advances.of_allowed allowed).deliveries _ _ foundBefore
    exact ⟨later, foundLater, same.trans driven⟩

end Runs

open DeliveryConflictsService in
/-- For every store, driver and batch: every write of every sync is to a row of a delivery
that is the driver's at that moment, if and only if no event names a stop of a cancelled
delivery of somebody else (under an id that fits its column). -/
theorem owned_iff_own_cancellations (db : Db) (dto : OutboxSyncDto) (driver user : Uuid) :
    (∀ trace final, (Request.pool db [.syncOutbox dto driver user]).Steps trace final →
      ∀ commit ∈ trace, ∀ write ∈ commit.writes, write.OwnedBy driver commit.before) ↔
    OwnCancellations driver dto.events db := by
  constructor
  · intro owned item member stopId stop delivery names short found foundParent cancelled
    obtain ⟨turns, final, row, ran, absent, present, ofDelivery⟩ : ∃ turns final row,
        Turns Unfailing driver user dto.events db turns final ∧ db.conflict? row.id = none ∧
          final.conflict? row.id = some row ∧ row.deliveryId = stop.deliveryId :=
      Turns.opens member names ⟨found, delivery, foundParent, cancelled⟩ short
    have whole : (Request.syncOutbox dto driver user).proc.Runs Unfailing db
        (.ok (.sync (.of turns))) final :=
      Proc.returns_map.mpr ⟨_, syncOutbox_runs.mpr ⟨turns, ran, rfl⟩, rfl⟩
    obtain ⟨trace, ended, steps⟩ := whole.steps
    obtain ⟨row', foundRow, driven⟩ := tickets_owned steps (owned trace _ steps) _ row absent present
    obtain ⟨later, foundLater, same, _⟩ := ran.advances.deliveries _ _ foundParent
    rw [ofDelivery] at foundRow
    obtain rfl := Option.some.inj (foundRow.symm.trans foundLater)
    exact same.symm.trans driven
  · intro own trace final steps commit member
    have owns : (syncOutbox dto driver user).Commits (.atomic Eq (OwnedIf driver dto.events)) :=
      syncItems_owns (fun _ within => within) {}
    exact (steps.alone (owns.map Response.sync db)).2 commit member (own.advances ((advances_of_steps steps).2 commit member))

end Sync

/-! ## A ticket for somebody else's delivery -/

namespace ForeignTicket

@[reducible] def stopUuids : UuidText := tableUuids [("s", 7)]

/-- The cancelled delivery is driver 4's. -/
def db : Db where
  deliveries := Table.empty.insert
    { id := 1, deliveryCode := "D-1", driverId := some 4, status := .cancelled, createdBy := 9 }
  deliveryStops := Table.empty.insert { id := 7, deliveryId := 1, sequence := 1 }

def proof : OutboxEventItem :=
  ⟨"e", "stop.pod", { stopId := .string "s", receiverName := .string "R" }, none⟩

def batch : OutboxSyncDto := ⟨[proof], by decide, by decide⟩

def ticket : DeliveryConflict :=
  { id := 0, deliveryId := 1, clientEventId := "e",
    conflictType := DeliveryConflictsService.staleOfflineCompletion, serverState := "CANCELLED",
    clientPayload := proof }

def pool : Pool store Response := @Request.pool stopUuids db [.syncOutbox batch 3 30]

def schedule : List (Nat × (Nat → store.Input)) :=
  [0, 0].map fun thread => (thread, fun _ => {})

/-- The schedule is a run. -/
theorem steps : pool.Steps (pool.play schedule).1 (pool.play schedule).2 :=
  Pool.play_steps schedule pool

/-- Driver 3 opens a ticket for the delivery of driver 4. -/
theorem opened : ∃ commit ∈ (pool.play schedule).1, .createConflict ticket ∈ commit.writes ∧
    (commit.before.delivery? 1).map Delivery.driverId = some (some 4) := by
  decide

/-- Not every write of a sync is to a row of the driver's deliveries. -/
theorem owned_violated :
    ¬∀ [UuidText] (db : Db) (dto : OutboxSyncDto) (driver user : Uuid) trace final,
      (Request.pool db [.syncOutbox dto driver user]).Steps trace final →
        ∀ commit ∈ trace, ∀ write ∈ commit.writes, write.OwnedBy driver commit.before := by
  intro always
  obtain ⟨commit, member, created, theirs⟩ := opened
  obtain ⟨delivery, found, own⟩ := @always stopUuids db batch 3 30 _ _ steps commit member _ created
  rw [show commit.before.delivery? 1 = some delivery from found, Option.map_some, own] at theirs
  cases theirs

end ForeignTicket

end Armada
