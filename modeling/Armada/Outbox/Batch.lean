import Mathlib.Data.Fintype.EquivFin
import Armada.Outbox.Turn

/-!
# The batch of an outbox

The runs of `syncOutbox` as the runs of its turns one after another, and what all of
them leave to the turns that come later.
-/

namespace Armada

open Relational Concurrency

/-- A turn that has been taken. -/
structure Turn where
  item : OutboxEventItem
  before : Db
  outcome : Except Exception (Option SyncConflict)
  after : Db

/-- What a turn adds to the result. -/
def SyncResult.add (result : SyncResult) (turn : Turn) : SyncResult :=
  match turn.outcome with
  | .ok (some ticket) => { result with conflicts := result.conflicts ++ [ticket] }
  | .ok none => { result with acked := result.acked ++ [turn.item.clientEventId] }
  | .error _ => result

/-- The result of the turns of a batch. -/
def SyncResult.of (turns : List Turn) : SyncResult :=
  turns.foldl SyncResult.add {}

namespace SyncResult

/-- The id that a turn acknowledges. -/
def ackedOf (turn : Turn) : Option String :=
  match turn.outcome with
  | .ok none => some turn.item.clientEventId
  | _ => none

/-- The ticket that a turn reports. -/
def ticketOf (turn : Turn) : Option SyncConflict :=
  match turn.outcome with
  | .ok ticket => ticket
  | .error _ => none

/-- The answer of a batch collects what its turns add. -/
theorem foldl_add (turns : List Turn) (result : SyncResult) :
    turns.foldl add result = { acked := result.acked ++ turns.filterMap ackedOf,
                               conflicts := result.conflicts ++ turns.filterMap ticketOf } := by
  induction turns generalizing result with
  | nil => simp
  | cons turn turns inductionHypothesis =>
      rw [List.foldl_cons, inductionHypothesis, add]
      cases outcome : turn.outcome with
      | error error => simp [ackedOf, ticketOf, outcome]
      | ok ticket => cases ticket <;> simp [ackedOf, ticketOf, outcome]

/-- The acknowledged ids, in their order. -/
theorem acked_of (turns : List Turn) : (of turns).acked = turns.filterMap ackedOf := by
  simp [of, foldl_add]

/-- The tickets, in their order. -/
theorem conflicts_of (turns : List Turn) : (of turns).conflicts = turns.filterMap ticketOf := by
  simp [of, foldl_add]

/-- An id is acknowledged if a turn of its event ended well without a ticket. -/
theorem mem_acked {turns : List Turn} {id : String} :
    id ∈ (of turns).acked ↔ ∃ turn ∈ turns, turn.outcome = .ok none ∧ turn.item.clientEventId = id := by
  rw [acked_of, List.mem_filterMap]
  refine exists_congr fun turn => and_congr_right fun _ => ?_
  rw [ackedOf]
  split <;> simp_all

/-- A ticket is reported if a turn ended with it. -/
theorem mem_conflicts {turns : List Turn} {ticket : SyncConflict} :
    ticket ∈ (of turns).conflicts ↔ ∃ turn ∈ turns, turn.outcome = .ok (some ticket) := by
  rw [conflicts_of, List.mem_filterMap]
  refine exists_congr fun turn => and_congr_right fun _ => ?_
  rw [ticketOf]
  split <;> simp_all

end SyncResult

/-- An id is free for another ticket. -/
theorem exists_free_conflict (db : Db) : ∃ id, db.conflict? id = none := by
  obtain ⟨id, free⟩ := Infinite.exists_notMem_finset
    (db.deliveryConflicts.rows.map DeliveryConflict.id).toFinset
  refine ⟨id, ?_⟩
  by_contra present
  obtain ⟨row, found⟩ := Option.ne_none_iff_exists'.mp present
  obtain ⟨member, same⟩ := Table.find?_eq_some.mp found
  exact free (by simpa using ⟨row, member, same⟩)

section Batch

variable [UuidText] {supplied : Input → Prop} {driver user : Uuid}

/-- The turns of the events, one after the other. -/
inductive Turns (supplied : Input → Prop) (driver user : Uuid) :
    List OutboxEventItem → Db → List Turn → Db → Prop where
  | nil {db : Db} : Turns supplied driver user [] db [] db
  | cons {item : OutboxEventItem} {items : List OutboxEventItem} {db next final : Db}
      {outcome : Except Exception (Option SyncConflict)} {turns : List Turn}
      (ran : (DeliveryConflictsService.syncItem item driver user).Runs supplied db outcome next)
      (rest : Turns supplied driver user items next turns final) :
      Turns supplied driver user (item :: items) db (⟨item, db, outcome, next⟩ :: turns) final

namespace DeliveryConflictsService

/-- The protected part of a turn, and its handler. -/
theorem runs_turn {item : OutboxEventItem} {result : SyncResult} {outcome : Except Exception SyncResult}
    {before after : Db} :
    (tryCatch
        (do
          let ticket ← syncItem item driver user
          match ticket with
          | some ticket => return { result with conflicts := result.conflicts ++ [ticket] }
          | none => return { result with acked := result.acked ++ [item.clientEventId] })
        fun _ => return result : Proc store SyncResult).Runs supplied before outcome after ↔
      ∃ turn, (syncItem item driver user).Runs supplied before turn after ∧
        outcome = .ok (result.add ⟨item, before, turn, after⟩) := by
  constructor
  · intro ran
    rcases Proc.runs_tryCatch.mp ran with ⟨value, returned, rfl⟩ | ⟨error, middle, failed, rest⟩
    · rcases Proc.runs_bind.mp returned with ⟨ticket, middle, synced, rest⟩ | ⟨_, _, impossible⟩
      · refine ⟨.ok ticket, ?_⟩
        cases ticket with
        | none =>
            obtain ⟨same, rfl⟩ := Proc.runs_pure.mp rest
            exact ⟨synced, same⟩
        | some ticket =>
            obtain ⟨same, rfl⟩ := Proc.runs_pure.mp rest
            exact ⟨synced, same⟩
      · cases impossible
    · obtain ⟨rfl, rfl⟩ := Proc.runs_pure.mp rest
      rcases Proc.runs_bind.mp failed with ⟨ticket, middle, _, rest⟩ | ⟨thrown, synced, _⟩
      · cases ticket <;> cases (Proc.runs_pure.mp rest).1
      · exact ⟨.error thrown, synced, rfl⟩
  · rintro ⟨turn, synced, rfl⟩
    refine Proc.runs_tryCatch.mpr ?_
    cases turn with
    | error thrown =>
        exact .inr ⟨thrown, after, Proc.runs_bind.mpr (.inr ⟨thrown, synced, rfl⟩),
          Proc.runs_pure.mpr ⟨rfl, rfl⟩⟩
    | ok ticket =>
        refine .inl ⟨_, Proc.runs_bind.mpr (.inl ⟨ticket, after, synced, ?_⟩), rfl⟩
        cases ticket <;> exact ⟨rfl, rfl⟩

/-- A batch runs as its items do, one after the other. -/
theorem syncItems_runs {items : List OutboxEventItem} {result : SyncResult}
    {outcome : Except Exception SyncResult} {before after : Db} :
    (syncItems driver user items result).Runs supplied before outcome after ↔
      ∃ turns, Turns supplied driver user items before turns after ∧
        outcome = .ok (turns.foldl SyncResult.add result) := by
  induction items generalizing result before with
  | nil =>
      constructor
      · intro ran
        obtain ⟨rfl, rfl⟩ := Proc.runs_pure.mp ran
        exact ⟨[], .nil, rfl⟩
      · rintro ⟨turns, ran, rfl⟩
        cases ran
        exact Proc.runs_pure.mpr ⟨rfl, rfl⟩
  | cons item items inductionHypothesis =>
      rw [syncItems, Proc.runs_bind]
      constructor
      · rintro (⟨value, middle, first, rest⟩ | ⟨error, first, _⟩)
        · obtain ⟨turn, synced, same⟩ := runs_turn.mp first
          cases same
          obtain ⟨turns, ran, rfl⟩ := inductionHypothesis.mp rest
          exact ⟨_, .cons synced ran, rfl⟩
        · obtain ⟨_, _, impossible⟩ := runs_turn.mp first
          cases impossible
      · rintro ⟨_, ran, rfl⟩
        cases ran with
        | cons synced rest =>
            exact .inl ⟨_, _, runs_turn.mpr ⟨_, synced, rfl⟩, inductionHypothesis.mpr ⟨_, rest, rfl⟩⟩

/-- A sync returns, and what it returns is the sum of its turns. -/
theorem syncOutbox_runs {dto : OutboxSyncDto} {outcome : Except Exception SyncResult}
    {before after : Db} :
    (syncOutbox dto driver user).Runs supplied before outcome after ↔
      ∃ turns, Turns supplied driver user dto.events before turns after ∧
        outcome = .ok (.of turns) :=
  syncItems_runs

end DeliveryConflictsService

namespace Turns

variable {items : List OutboxEventItem} {db final : Db} {turns : List Turn}

/-- The turns are those of the items. -/
theorem items_eq (ran : Turns supplied driver user items db turns final) :
    turns.map Turn.item = items := by
  induction ran with
  | nil => rfl
  | cons _ _ inductionHypothesis => rw [List.map_cons, inductionHypothesis]

/-- Two parts of a batch are one. -/
theorem append {first second : List OutboxEventItem} {middle : Db} {earlier later : List Turn}
    (ran : Turns supplied driver user first db earlier middle)
    (rest : Turns supplied driver user second middle later final) :
    Turns supplied driver user (first ++ second) db (earlier ++ later) final := by
  induction ran with
  | nil => exact rest
  | cons synced _ inductionHypothesis => exact .cons synced (inductionHypothesis rest)

/-- A batch comes to an end. -/
theorem total (given : ∃ input, supplied input) (items : List OutboxEventItem) (db : Db) :
    ∃ turns final, Turns supplied driver user items db turns final := by
  induction items generalizing db with
  | nil => exact ⟨[], db, .nil⟩
  | cons item items inductionHypothesis =>
      obtain ⟨outcome, next, synced⟩ :=
        (DeliveryConflictsService.syncItem item driver user).runs_total given db
      obtain ⟨turns, final, ran⟩ := inductionHypothesis next
      exact ⟨_, final, .cons synced ran⟩

/-- More inputs allow more runs. -/
theorem mono {supplied' : Input → Prop} (more : ∀ input, supplied input → supplied' input)
    (ran : Turns supplied driver user items db turns final) :
    Turns supplied' driver user items db turns final := by
  induction ran with
  | nil => exact .nil
  | cons synced _ inductionHypothesis => exact .cons (synced.mono more) inductionHypothesis

/-- What comes before a turn, the turn, and what comes after it. -/
theorem split (ran : Turns supplied driver user items db turns final) {turn : Turn}
    (member : turn ∈ turns) : ∃ first second earlier later,
      items = first ++ turn.item :: second ∧ turns = earlier ++ turn :: later ∧
        Turns supplied driver user first db earlier turn.before ∧
          (DeliveryConflictsService.syncItem turn.item driver user).Runs supplied turn.before
            turn.outcome turn.after ∧
            Turns supplied driver user second turn.after later final := by
  induction ran with
  | nil => cases member
  | @cons item items db next final outcome turns synced rest inductionHypothesis =>
      rcases List.mem_cons.mp member with rfl | inRest
      · exact ⟨[], items, [], turns, rfl, rfl, .nil, synced, rest⟩
      · obtain ⟨first, second, earlier, later, rfl, rfl, before, taken, after⟩ :=
          inductionHypothesis inRest
        exact ⟨item :: first, second, _ :: earlier, later, rfl, rfl, .cons synced before, taken, after⟩

/-- Each turn is a run of its item. -/
theorem runs (ran : Turns supplied driver user items db turns final) {turn : Turn}
    (member : turn ∈ turns) :
    (DeliveryConflictsService.syncItem turn.item driver user).Runs supplied turn.before
      turn.outcome turn.after := by
  obtain ⟨_, _, _, _, _, _, _, synced, _⟩ := ran.split member
  exact synced

/-- What an acknowledged turn has found and done. -/
theorem synced (ran : Turns supplied driver user items db turns final) {turn : Turn}
    (member : turn ∈ turns) {ticket : Option SyncConflict} (returned : turn.outcome = .ok ticket) :
    Synced driver user turn.item turn.before ticket turn.after := by
  have taken := ran.runs member
  rw [returned] at taken
  exact DeliveryConflictsService.syncItem_returns taken

/-- An item that fails fails for a reason of its own. -/
theorem failed (ran : Turns supplied driver user items db turns final) {turn : Turn}
    (member : turn ∈ turns) {error : Exception} (thrown : turn.outcome = .error error) :
    DeliveryConflictsService.Failed supplied driver user turn.item turn.before error turn.after := by
  have taken := ran.runs member
  rw [thrown] at taken
  exact DeliveryConflictsService.syncItem_throws taken

end Turns

/-! ## What the turns leave as it is -/

/-- A write that a sync may make. -/
def Write.ofSync : Write → Bool
  | .updateStop .. | .updateDelivery .. | .createPod _ | .createConflict _ => true
  | write => write.ancillary

/-- A batch writes what the outbox may write. -/
theorem Allowed.ofSync {dto : OutboxSyncDto} {db : Db} {writes : List Write}
    (allowed : Allowed (.syncOutbox dto driver user) writes db) :
    ∀ write ∈ writes, write.ofSync = true := by
  intro write member
  by_cases ancillary : write.ancillary = true
  · cases write <;> first | rfl | cases ancillary
  · have core : write ∈ essential writes := List.mem_filter.mpr ⟨member, by simpa using ancillary⟩
    rw [Allowed] at allowed
    generalize essential writes = effect at allowed core
    cases allowed with
    | none => cases core
    | completed able found enRoute verdict => rw [List.mem_singleton.mp core]; rfl
    | moved move able matched target order => rw [List.mem_singleton.mp core]; rfl
    | delivered able matched target order absent ofStop =>
        rcases List.mem_cons.mp core with rfl | last
        · rfl
        · rw [List.mem_singleton.mp last]; rfl
    | ticketed fresh target found owner => rw [List.mem_singleton.mp core]; rfl

omit [UuidText] in
/-- What a write by a sync cannot undo, no list of them can. -/
theorem Db.commit_of_sync {writes : List Write} (ofSync : ∀ write ∈ writes, write.ofSync = true)
    (holds : Db → Prop)
    (kept : ∀ (write : Write) db, write.ofSync = true → holds db → holds (write.apply db))
    {db : Db} (before : holds db) : holds (db.commit writes) := by
  induction writes generalizing db with
  | nil => exact before
  | cons write writes inductionHypothesis =>
      exact inductionHypothesis (fun later member => ofSync later (List.mem_cons_of_mem _ member))
        (kept write db (ofSync write List.mem_cons_self) before)

/-- Stops only go on, deliveries keep their driver and are at most completed, and stored
results and tickets stay. -/
structure Advances (before after : Db) : Prop where
  unknown : ∀ id, before.stop? id = none → after.stop? id = none
  unplanned : ∀ id, before.delivery? id = none → after.delivery? id = none
  stops : ∀ id stop, before.stop? id = some stop → ∃ later, after.stop? id = some later ∧
    later.deliveryId = stop.deliveryId ∧
      ∀ command : OutboxCommand, stop.status ∈ command.onwards → later.status ∈ command.onwards
  deliveries : ∀ id row, before.delivery? id = some row → ∃ later, after.delivery? id = some later ∧
    later.driverId = row.driverId ∧ (later.status = row.status ∨
      row.status = .enRoute ∧ (later.status = .completed ∨ later.status = .failed))
  records : ∀ key, before.record? key ≠ none → after.record? key ≠ none
  tickets : ∀ id row, before.conflict? id = some row → after.conflict? id = some row

namespace Advances

omit [UuidText] in
/-- A store has advanced to itself. -/
theorem refl (db : Db) : Advances db db :=
  ⟨fun _ => id, fun _ => id, fun _ stop found => ⟨stop, found, rfl, fun _ => id⟩,
    fun _ row found => ⟨row, found, rfl, .inl rfl⟩, fun _ => id, fun _ _ => id⟩

omit [UuidText] in
/-- What has advanced twice has advanced. -/
theorem trans {first second third : Db} (left : Advances first second)
    (right : Advances second third) : Advances first third where
  unknown id absent := right.unknown id (left.unknown id absent)
  unplanned id absent := right.unplanned id (left.unplanned id absent)
  stops id stop found := by
    obtain ⟨middle, foundMiddle, same, onwards⟩ := left.stops id stop found
    obtain ⟨last, foundLast, sameLast, onwardsLast⟩ := right.stops id middle foundMiddle
    exact ⟨last, foundLast, sameLast.trans same, fun command past =>
      onwardsLast command (onwards command past)⟩
  deliveries id row found := by
    obtain ⟨middle, foundMiddle, same, status⟩ := left.deliveries id row found
    obtain ⟨last, foundLast, sameLast, statusLast⟩ := right.deliveries id middle foundMiddle
    refine ⟨last, foundLast, sameLast.trans same, ?_⟩
    rcases statusLast with unchanged | ⟨enRoute, ended⟩
    · exact unchanged ▸ status
    · rcases status with unchanged | ⟨_, completed | failed⟩
      · exact .inr ⟨unchanged ▸ enRoute, ended⟩
      · cases enRoute.symm.trans completed
      · cases enRoute.symm.trans failed
  records key present := right.records key (left.records key present)
  tickets id row found := right.tickets id row (left.tickets id row found)

/-- A step of a stop goes on. -/
theorem onwards_of_stopStep {dto : OutboxSyncDto} {db : Db} {id : Uuid} {stop later : DeliveryStop}
    (found : db.stop? id = some stop)
    (step : StopStep (.syncOutbox dto driver user) db id stop later) (command : OutboxCommand)
    (past : stop.status ∈ command.onwards) : later.status ∈ command.onwards := by
  cases step with
  | unchanged => exact past
  | @moved data move able matched target order =>
      obtain ⟨row, same, expected, _⟩ := Prisma.DeliveryStop.matched_iff.mp matched
      obtain rfl : row = stop := Option.some.inj (same.symm.trans found)
      rw [show (data.set row).status = move.target by simp [StopData.set, target]]
      have able : move = .depart ∨ move = .arrive ∨ move = .unload := of_decide_eq_true able
      revert expected past
      rcases able with rfl | rfl | rfl <;> cases command <;> cases row.status <;> decide
  | @delivered data able matched target order =>
      rw [show (data.set stop).status = .delivered by simp [StopData.set, target]]
      cases command <;> decide
  | overridden requested => cases requested
  | resequenced requested => cases requested

/-- What the outbox may write advances the store. -/
theorem of_allowed {dto : OutboxSyncDto} {db : Db} {writes : List Write}
    (allowed : Allowed (.syncOutbox dto driver user) writes db) : Advances db (db.commit writes) where
  unknown id absent := by
    refine Db.commit_of_sync allowed.ofSync (fun db => db.stop? id = none) ?_ absent
    intro write db ofSync none
    rw [Write.stop?_apply, none]
    cases write with
    | updateStop key data => simp [Write.onStop]
    | _ => first | rfl | cases ofSync
  unplanned id absent := by
    refine Db.commit_of_sync allowed.ofSync (fun db => db.delivery? id = none) ?_ absent
    intro write db ofSync none
    rw [Write.delivery?_apply, none]
    cases write with
    | updateDelivery key data => simp [Write.onDelivery]
    | _ => first | rfl | cases ofSync
  stops id stop found := by
    obtain ⟨later, foundLater, same⟩ := (db.extends_commit writes).stops id stop found
    refine ⟨later, foundLater, same, fun command past => ?_⟩
    have core := (Db.commit_essential db writes).stop? id
    exact onwards_of_stopStep found (Effect.stopStep allowed found (core.trans foundLater)) command past
  deliveries id row found := by
    have present : (db.commit writes).delivery? id ≠ none := by
      refine Db.commit_of_sync allowed.ofSync (fun db => db.delivery? id ≠ none) ?_ (by simp [found])
      intro write db ofSync present
      rw [Write.delivery?_apply]
      cases write with
      | updateDelivery key data =>
          by_cases here : id = key <;> simpa [Write.onDelivery, here] using present
      | _ => first | exact present | cases ofSync
    obtain ⟨later, foundLater⟩ := Option.ne_none_iff_exists'.mp present
    refine ⟨later, foundLater, ?_⟩
    have core := (Db.commit_essential db writes).delivery? id
    cases Effect.deliveryStep allowed found (core.trans foundLater) with
    | unchanged => exact ⟨rfl, .inl rfl⟩
    | completed able enRoute verdict =>
        refine ⟨rfl, .inr ⟨enRoute, ?_⟩⟩
        have completed : (DeliveriesService.evaluateStops (db.stopsOf id)).completed = true := by
          rw [verdict]
        obtain ⟨_, _, same⟩ := DeliveriesService.evaluateStops_completed completed
        cases verdict.symm.trans same
        split
        · exact .inl rfl
        · exact .inr rfl
    | routed => exact ⟨rfl, .inl rfl⟩
    | assigned requested => cases requested
    | accepted requested => cases requested
    | started requested => cases requested
    | cancelled requested => cases requested
    | overridden requested => cases requested
  records key present := by
    refine Db.commit_of_sync allowed.ofSync (fun db => db.record? key ≠ none) ?_ present
    intro write db _ present
    rw [Write.record?_apply]
    cases write with
    | updateRecord other data => by_cases here : key = other <;> simpa [Write.onRecord, here] using present
    | createRecord row => simp [Write.onRecord, present]
    | _ => exact present
  tickets id row found := by
    refine Db.commit_of_sync allowed.ofSync (fun db => db.conflict? id = some row) ?_ found
    intro write db ofSync found
    rw [Write.conflict?_apply, found]
    cases write <;> first | rfl | cases ofSync

/-- So a run of an item does. -/
theorem of_runs {item : OutboxEventItem} {before after : Db}
    {outcome : Except Exception (Option SyncConflict)}
    (ran : (DeliveryConflictsService.syncItem item driver user).Runs supplied before outcome after) :
    Advances before after := by
  -- what a turn may commit does not depend on the batch
  let dto : OutboxSyncDto := ⟨[⟨"event", "type", {}, none⟩], by decide, by decide⟩
  exact Proc.Commits.of_runs (DeliveryConflictsService.syncItem_performs dto item driver user)
    Db.Extends.refl (Advances before)
    (fun _ _ allowed made => made.trans (of_allowed allowed)) ran (.refl before)

omit [UuidText] in
/-- Who reaches a stop before reaches it after, and no further back on its way. -/
theorem reaches {before after : Db} (advances : Advances before after) {stopId : Uuid}
    {caller : Option Uuid} {stop : DeliveryStop} {delivery : Delivery}
    (own : Reaches before stopId caller stop delivery) :
    ∃ later parent, Reaches after stopId caller later parent ∧
      (later.deliveryId = stop.deliveryId ∧
        ∀ command : OutboxCommand, stop.status ∈ command.onwards → later.status ∈ command.onwards) ∧
      (parent.status = delivery.status ∨
        delivery.status = .enRoute ∧ (parent.status = .completed ∨ parent.status = .failed)) := by
  obtain ⟨found, parentFound, driven⟩ := own
  obtain ⟨later, foundLater, same, onwards⟩ := advances.stops _ _ found
  obtain ⟨parent, foundParent, sameDriver, status⟩ := advances.deliveries _ _ parentFound
  exact ⟨later, parent, ⟨foundLater, same ▸ foundParent, sameDriver ▸ driven⟩, ⟨same, onwards⟩, status⟩

omit [UuidText] in
/-- Who reaches a stop after has reached it before. -/
theorem reached {before after : Db} (advances : Advances before after) {stopId : Uuid}
    {caller : Option Uuid} {later : DeliveryStop} {parent : Delivery}
    (own : Reaches after stopId caller later parent) :
    ∃ stop delivery, Reaches before stopId caller stop delivery ∧
      (parent.status = delivery.status ∨
        delivery.status = .enRoute ∧ (parent.status = .completed ∨ parent.status = .failed)) := by
  obtain ⟨found, parentFound, driven⟩ := own
  cases past : before.stop? stopId with
  | none => cases (advances.unknown _ past).symm.trans found
  | some stop =>
      obtain ⟨next, foundNext, same, _⟩ := advances.stops _ _ past
      obtain rfl : next = later := Option.some.inj (foundNext.symm.trans found)
      cases parentPast : before.delivery? stop.deliveryId with
      | none => cases (advances.unplanned _ parentPast).symm.trans (same ▸ parentFound)
      | some delivery =>
          obtain ⟨row, foundRow, sameDriver, status⟩ := advances.deliveries _ _ parentPast
          obtain rfl : row = parent := Option.some.inj (foundRow.symm.trans (same ▸ parentFound))
          exact ⟨stop, delivery, ⟨past, parentPast, sameDriver ▸ driven⟩, status⟩

omit [UuidText] in
/-- A cancelled delivery stays cancelled, and no other becomes so. -/
theorem cancelled_iff {before after : Db} (advances : Advances before after) {stopId : Uuid} :
    (∃ stop, Cancelled after stopId stop) ↔ ∃ stop, Cancelled before stopId stop := by
  constructor
  · rintro ⟨later, found, parent, foundParent, cancelled⟩
    obtain ⟨stop, delivery, own, status⟩ := advances.reached ⟨found, foundParent, .inl rfl⟩
    refine ⟨stop, own.1, delivery, own.2.1, ?_⟩
    rcases status with same | ⟨_, completed | failed⟩
    · exact same ▸ cancelled
    · cases cancelled.symm.trans completed
    · cases cancelled.symm.trans failed
  · rintro ⟨stop, found, delivery, foundDelivery, cancelled⟩
    obtain ⟨later, parent, own, _, status⟩ := advances.reaches ⟨found, foundDelivery, .inl rfl⟩
    refine ⟨later, own.1, parent, own.2.1, ?_⟩
    rcases status with same | ⟨enRoute, _⟩
    · exact same ▸ cancelled
    · cases cancelled.symm.trans enRoute

end Advances

namespace Turns

variable {items : List OutboxEventItem} {db final : Db} {turns : List Turn}

/-- A batch advances the store. -/
theorem advances (ran : Turns supplied driver user items db turns final) : Advances db final := by
  induction ran with
  | nil => exact .refl _
  | cons synced _ inductionHypothesis => exact (Advances.of_runs synced).trans inductionHypothesis

/-- So do the turns before any of them. -/
theorem advances_before (ran : Turns supplied driver user items db turns final) {turn : Turn}
    (member : turn ∈ turns) : Advances db turn.before := by
  obtain ⟨_, _, _, _, _, _, earlier, _, _⟩ := ran.split member
  exact earlier.advances

/-- And those after it. -/
theorem advances_after (ran : Turns supplied driver user items db turns final) {turn : Turn}
    (member : turn ∈ turns) : Advances turn.after final := by
  obtain ⟨_, _, _, _, _, _, _, _, later⟩ := ran.split member
  exact later.advances

/-- A late event opens a ticket for its delivery, at the latest in its own turn. -/
theorem opens {item : OutboxEventItem} (member : item ∈ items) {stopId : Uuid} {stop : DeliveryStop}
    (names : item.Names stopId) (cancelled : Cancelled db stopId stop)
    (short : item.clientEventId.length ≤ 100) :
    ∃ turns final row, Turns Unfailing driver user items db turns final ∧
      db.conflict? row.id = none ∧ final.conflict? row.id = some row ∧
        row.deliveryId = stop.deliveryId := by
  obtain ⟨front, back, rfl⟩ := List.append_of_mem member
  obtain ⟨prior, current, priorRan⟩ : ∃ prior current,
      Turns Unfailing driver user front db prior current := Turns.total Unfailing.given front db
  -- the delivery stays cancelled until the turn of the event
  obtain ⟨found, delivery, foundParent, status⟩ := cancelled
  obtain ⟨other, parent, reached, ⟨same, _⟩, _⟩ :=
    priorRan.advances.reaches ⟨found, foundParent, .inl rfl⟩
  obtain ⟨later, here⟩ :=
    priorRan.advances.cancelled_iff.mpr ⟨stop, found, delivery, foundParent, status⟩
  obtain rfl := Option.some.inj (here.1.symm.trans reached.1)
  obtain ⟨id, free⟩ := exists_free_conflict current
  obtain ⟨ticket, row, rfl, ofDelivery, opened⟩ : ∃ ticket row, row.id = id ∧
      row.deliveryId = later.deliveryId ∧
        (DeliveryConflictsService.syncItem item driver user).Returns Unfailing current (some ticket)
          ((Write.createConflict row).apply current) :=
    DeliveryConflictsService.syncItem_opens names here short id free
  obtain ⟨rest, final, restRan⟩ : ∃ rest final, Turns Unfailing driver user back
      ((Write.createConflict row).apply current) rest final := Turns.total Unfailing.given back _
  have present : ((Write.createConflict row).apply current).conflict? row.id = some row := by
    rw [Write.conflict?_apply, free]
    simp [Write.onConflict]
  refine ⟨_, final, row, priorRan.append (.cons opened restRan), ?_,
    restRan.advances.tickets _ row present, ofDelivery.trans same⟩
  cases old : db.conflict? row.id with
  | none => rfl
  | some earlier => cases (priorRan.advances.tickets _ earlier old).symm.trans free

/-- And the turn itself. -/
theorem advances_turn (ran : Turns supplied driver user items db turns final) {turn : Turn}
    (member : turn ∈ turns) : Advances turn.before turn.after :=
  .of_runs (ran.runs member)

end Turns

end Batch

end Armada
