import Armada.Outbox.Batch

/-!
# Acknowledged events

A client drops an event for good once it is acknowledged. The turn of an event ends in
an acknowledgement whenever nothing was thrown, so also where the event names no stop,
where no branch knows its type, and where a stored answer stands in for the work. These
are the turns that acknowledge an event without its effect, and there are no others.
-/

namespace Armada

open Relational Concurrency

section Acknowledgement

variable [UuidText] {supplied : Input → Prop} {before after : Db} {driver user : Uuid}
  {item : OutboxEventItem}

/-- The effect of an event is in the database: its stop belongs to a delivery of the
driver, and has come as far as its type says. -/
def Effected (driver : Uuid) (item : OutboxEventItem) (db : Db) : Prop :=
  ∃ stopId command stop delivery, item.Names stopId ∧ item.command = some command ∧
    Reaches db stopId (some driver) stop delivery ∧ stop.status ∈ command.onwards

/-- Every acknowledged id is that of an event whose effect is in the database. -/
def AckedInEffect (driver : Uuid) (events : List OutboxEventItem) (result : SyncResult) (db : Db) :
    Prop :=
  ∀ id ∈ result.acked, ∃ item ∈ events, item.clientEventId = id ∧ Effected driver item db

/-- The three ways in which the turn of an event does nothing and throws nothing: no stop
is named, no branch knows the type, or the answer of an earlier submission is replayed
for a stop that is not delivered. -/
inductive Unhandled (driver user : Uuid) (item : OutboxEventItem) (db : Db) : Prop where
  | unnamed (anonymous : item.payload.target.truthy = false)
  | unknown {stopId : Uuid} (names : item.Names stopId) (foreign : item.command = none)
      (found : Option (DeliveryStop × Delivery)) (finds : Finds db stopId found)
      (live : ∀ stop, ¬Cancelled db stopId stop)
  | replayed {stopId : Uuid} (names : item.Names stopId) (commanded : item.command = some .pod)
      (live : ∀ stop, ¬Cancelled db stopId stop) {stop : DeliveryStop} {delivery : Delivery}
      (own : Reaches db stopId (some driver) stop delivery)
      (stored : db.stored (PodService.recordKey (driverActor user driver) item.idempotencyKey) ≠ none)
      (waiting : stop.status ≠ .delivered)

/-- What is in effect stays so. -/
theorem Effected.advances (effected : Effected driver item before) (advances : Advances before after) :
    Effected driver item after := by
  obtain ⟨stopId, command, stop, delivery, names, commanded, own, past⟩ := effected
  obtain ⟨later, parent, ownLater, ⟨_, onwards⟩, _⟩ := advances.reaches own
  exact ⟨stopId, command, later, parent, names, commanded, ownLater, onwards command past⟩

/-- An acknowledgement stands for the effect of its event, or the event was unhandled. -/
theorem Synced.effected (synced : Synced driver user item before none after) :
    Unhandled driver user item before ∨ Effected driver item after := by
  cases synced with
  | unnamed anonymous => exact .inl (.unnamed anonymous)
  | unknown names foreign found finds live => exact .inl (.unknown names foreign found finds live)
  | @stepped stopId names command commanded step permitted after stepped =>
      obtain ⟨stop, delivery, own, _⟩ := permitted
      obtain ⟨data, sets, trailed⟩ := stepped
      obtain ⟨later, parent, ownLater, status⟩ := own.moved sets rfl (fun _ => rfl) trailed
      exact .inr ⟨stopId, command, later, parent, names, commanded, ownLater,
        status ▸ command.target_mem_onwards⟩
  | @submitted stopId names commanded live stop delivery own reply after submitted =>
      have delivered : ∀ {db : Db} {later : DeliveryStop} {parent : Delivery},
          Reaches db stopId (some driver) later parent → later.status = .delivered →
            Effected driver item db := fun {_ later parent} ownLater status =>
        ⟨stopId, .pod, later, parent, names, commanded, ownLater, status ▸ by decide⟩
      cases submitted with
      | replayed stored =>
          by_cases status : stop.status = .delivered
          · exact .inr (delivered own status)
          · exact .inl (.replayed names commanded live own (by
              intro unstored
              cases unstored.symm.trans stored) status)
      | delivered unstored status => exact .inr (delivered own status)
      | fresh unstored submits commit trailed =>
          obtain ⟨later, parent, ownLater, status⟩ := commit.reaches own trailed
          exact .inr (delivered ownLater status)

/-- Where nothing fails, an unhandled event is acknowledged and nothing is done. -/
theorem Unhandled.acknowledged (unhandled : Unhandled driver user item before)
    (healthy : Healthy supplied) {outcome : Except Exception (Option SyncConflict)}
    (ran : (DeliveryConflictsService.syncItem item driver user).Runs supplied before outcome after) :
    outcome = .ok none ∧ after = before := by
  cases outcome with
  | error error =>
      refine absurd ran ?_
      cases unhandled with
      | unnamed anonymous => exact DeliveryConflictsService.not_throws_of_unnamed healthy anonymous
      | @unknown stopId names foreign found finds live =>
          refine DeliveryConflictsService.not_throws healthy names finds (not_exists.mpr live)
            (DeliveryConflictsService.not_rejected_of_foreign foreign) fun ⟨commanded, _⟩ => ?_
          cases foreign.symm.trans commanded
      | @replayed stopId names commanded live stop delivery own stored waiting =>
          have finds : Finds before stopId (some (stop, delivery)) := ⟨own.1, own.2.1⟩
          exact DeliveryConflictsService.not_throws healthy names finds (not_exists.mpr live)
            (DeliveryConflictsService.not_rejected names commanded ⟨stop, delivery, own, .inl stored⟩)
            (DeliveryConflictsService.not_faulty_of_answered own (.inl stored))
  | ok ticket =>
      have synced := DeliveryConflictsService.syncItem_returns ran
      cases synced with
      | unnamed anonymous => exact ⟨rfl, rfl⟩
      | unknown => exact ⟨rfl, rfl⟩
      | @stepped stopId names command commanded step permitted after stepped =>
          cases unhandled with
          | unnamed anonymous => cases anonymous.symm.trans names.1
          | unknown _ foreign => cases foreign.symm.trans commanded
          | replayed _ isPod => exact absurd (Option.some.inj (commanded.symm.trans isPod)) step
      | @submitted stopId names commanded live stop delivery own reply after submitted =>
          refine ⟨rfl, ?_⟩
          cases unhandled with
          | unnamed anonymous => cases anonymous.symm.trans names.1
          | unknown _ foreign => cases foreign.symm.trans commanded
          | replayed _ _ _ _ stored _ =>
              cases submitted with
              | replayed => rfl
              | delivered => rfl
              | fresh unstored => exact absurd unstored stored
      | @ticketed stopId names stop cancelled short row fresh about =>
          cases unhandled with
          | unnamed anonymous => cases anonymous.symm.trans names.1
          | @unknown other named _ _ _ live =>
              obtain rfl : stopId = other := Except.ok.inj (names.2.symm.trans named.2)
              exact absurd cancelled (live stop)
          | @replayed other named _ live =>
              obtain rfl : stopId = other := Except.ok.inj (names.2.symm.trans named.2)
              exact absurd cancelled (live stop)

/-- A turn may always come to nothing: its first call can fail. -/
theorem DeliveryConflictsService.syncItem_idles (item : OutboxEventItem) (driver user : Uuid) (db : Db) :
    ∃ outcome, (syncItem item driver user).Runs (fun _ => True) db outcome db := by
  by_cases named : item.payload.target.truthy = true
  · have unread : ∃ error, (readTarget item.payload.target).Runs (fun _ => True) db (.error error) db := by
      rw [readTarget, if_pos named]
      split
      · exact ⟨_, Proc.runs_throw.mpr ⟨rfl, rfl⟩⟩
      · exact ⟨.prisma .unknownRequest, Proc.runs_bind.mpr (.inr ⟨_, Proc.runs_lift.mpr (.inr
          ⟨{ fault := some .unknownRequest }, _, trivial, rfl, rfl, rfl⟩), rfl⟩)⟩
    obtain ⟨error, unread⟩ := unread
    exact ⟨_, Proc.runs_bind.mpr (.inr ⟨error, unread, rfl⟩)⟩
  · obtain ⟨outcome, after, ran⟩ := (syncItem item driver user).runs_total Unfailing.given db
    obtain ⟨rfl, rfl⟩ := (Unhandled.unnamed (by simpa using named)).acknowledged Unfailing.healthy ran
    exact ⟨_, ran.mono fun _ _ => trivial⟩

/-- Turns without an event are there for every list. -/
theorem Turns.idle (driver user : Uuid) (items : List OutboxEventItem) (db : Db) :
    ∃ turns, Turns (fun _ => True) driver user items db turns db := by
  induction items with
  | nil => exact ⟨[], .nil⟩
  | cons item items inductionHypothesis =>
      obtain ⟨outcome, ran⟩ := DeliveryConflictsService.syncItem_idles item driver user db
      obtain ⟨turns, rest⟩ := inductionHypothesis
      exact ⟨_, .cons ran rest⟩

open DeliveryConflictsService in
/-- For every store, driver and batch: after every sync every acknowledged id is that of
an event whose effect is in the database, if and only if no event gets its turn unhandled,
unless another event of its id is in effect by then. -/
theorem acked_in_effect_iff (db : Db) (dto : OutboxSyncDto) (driver user : Uuid) :
    (∀ outcome final, (syncOutbox dto driver user).Runs (fun _ => True) db outcome final →
      ∃ result, outcome = .ok result ∧ AckedInEffect driver dto.events result final) ↔
    ∀ turns final, Turns (fun _ => True) driver user dto.events db turns final → ∀ turn ∈ turns,
      Unhandled driver user turn.item turn.before → ∃ item ∈ dto.events,
        item.clientEventId = turn.item.clientEventId ∧ Effected driver item turn.before := by
  constructor
  · intro sound turns final ran turn member unhandled
    obtain ⟨first, second, earlier, later, items, _, before, _, _⟩ := ran.split member
    obtain ⟨outcome, after, taken⟩ :=
      (syncItem turn.item driver user).runs_total Unfailing.given turn.before
    obtain ⟨rfl, rfl⟩ := unhandled.acknowledged Unfailing.healthy taken
    -- the later turns may all come to nothing, so the state stays that of the turn
    obtain ⟨idle, rest⟩ := Turns.idle driver user second turn.before
    have other := before.append (.cons (taken.mono fun _ _ => trivial) rest)
    rw [← items] at other
    obtain ⟨result, same, acked⟩ := sound _ _ (syncOutbox_runs.mpr ⟨_, other, rfl⟩)
    cases same
    exact acked turn.item.clientEventId (SyncResult.mem_acked.mpr
      ⟨⟨turn.item, turn.before, .ok none, turn.before⟩, by simp, rfl, rfl⟩)
  · intro handled outcome final whole
    obtain ⟨turns, ran, rfl⟩ := syncOutbox_runs.mp whole
    refine ⟨_, rfl, fun id acked => ?_⟩
    obtain ⟨turn, member, returned, rfl⟩ := SyncResult.mem_acked.mp acked
    rcases (ran.synced member returned).effected with unhandled | effected
    · obtain ⟨item, inBatch, same, effected⟩ := handled turns final ran turn member unhandled
      exact ⟨item, inBatch, same, effected.advances
        ((ran.advances_turn member).trans (ran.advances_after member))⟩
    · have inBatch : turn.item ∈ dto.events := ran.items_eq ▸ List.mem_map_of_mem member
      exact ⟨turn.item, inBatch, rfl, effected.advances (ran.advances_after member)⟩

end Acknowledgement

/-! ## An event of a type that nobody knows -/

namespace UnknownEvent

@[reducible] def stopUuids : UuidText := tableUuids [("s", 7)]

def db : Db where
  deliveries := Table.empty.insert
    { id := 1, deliveryCode := "D-1", driverId := some 3, status := .enRoute, createdBy := 9 }
  deliveryStops := Table.empty.insert { id := 7, deliveryId := 1, sequence := 1 }

/-- A stop id is given, but in no branch's type. -/
def batch : OutboxSyncDto where
  events := [⟨"e", "stop.skip", { stopId := .string "s" }, none⟩]
  bounded := by decide
  named := by decide

open DeliveryConflictsService

/-- The sync acknowledges the event and leaves the store as it was. -/
theorem acknowledged :
    (@syncOutbox stopUuids batch 3 30).run (fun _ _ => {}) db = (.ok ⟨["e"], []⟩, db) := by
  rfl

/-- Not every acknowledged event is in effect. -/
theorem acked_in_effect_violated :
    ¬∀ [UuidText] (db : Db) (dto : OutboxSyncDto) (driver user : Uuid) outcome final,
      (syncOutbox dto driver user).Runs (fun _ => True) db outcome final →
        ∃ result, outcome = .ok result ∧ AckedInEffect driver dto.events result final := by
  intro always
  let _ := stopUuids
  obtain ⟨result, same, acked⟩ := always db batch 3 30 _ _
    ((syncOutbox batch 3 30).runs_run (fun _ _ => {}) (fun _ _ => trivial) db)
  rw [acknowledged] at same acked
  cases same
  obtain ⟨item, member, _, _, command, _, _, _, commanded, _⟩ := acked "e" List.mem_cons_self
  obtain rfl := List.mem_singleton.mp member
  cases commanded

end UnknownEvent

end Armada
