import Armada.Outbox.Batch

/-!
# A batch that is sent again

A client that has lost an answer sends its batch again. A proof of delivery is answered
from what the first batch has left. A departure, an arrival or the start of unloading is
not: its stop is past the step, and the event is left out. And a late event opens another
ticket each time.
-/

namespace Armada

open Relational Concurrency DeliveryConflictsService

section Replay

variable [UuidText] {before after : Db} {driver user : Uuid} {item : OutboxEventItem}

/-- The tables of the deliveries, their stops, proofs, events and tickets are the same. -/
structure SameRecords (before after : Db) : Prop where
  deliveries : after.deliveries = before.deliveries
  deliveryStops : after.deliveryStops = before.deliveryStops
  proofsOfDelivery : after.proofsOfDelivery = before.proofsOfDelivery
  deliveryEvents : after.deliveryEvents = before.deliveryEvents
  deliveryConflicts : after.deliveryConflicts = before.deliveryConflicts

/-- What a client may expect of sending a batch again. -/
structure Repeated (first : SyncResult) (middle : Db) (second : SyncResult) (final : Db) : Prop where
  same : SameRecords middle final
  acked : ∀ id ∈ first.acked, id ∈ second.acked
  conflicts : ∀ ticket ∈ first.conflicts, ticket ∈ second.conflicts

/-- An event whose turn does what a second turn does not do again, or does once more: a
step of a stop that is permitted, or a ticket for a cancelled delivery. -/
inductive Unrepeatable (driver user : Uuid) (item : OutboxEventItem) (db : Db) : Prop where
  | step {stopId : Uuid} {command : OutboxCommand} (names : item.Names stopId)
      (commanded : item.command = some command) (step : command ≠ .pod)
      (permitted : DeliveryStopsService.Permits stopId (some driver)
        (command.Allows item driver user db) db)
  | ticket {stopId : Uuid} {stop : DeliveryStop} (names : item.Names stopId)
      (cancelled : Cancelled db stopId stop) (short : item.clientEventId.length ≤ 100)

/-! ## What the repeatable turns do -/

/-- The turns of a batch that is repeatable advance stops to `DELIVERED` only, and keep
proofs and files. -/
structure Delivers (before after : Db) : Prop extends Advances before after where
  delivered : ∀ id stop later, before.stop? id = some stop → after.stop? id = some later →
    later.status = stop.status ∨ later.status = .delivered
  proofs : ∀ id, before.pod? id ≠ none → after.pod? id ≠ none
  files : after.files = before.files

namespace Delivers

omit [UuidText] in
/-- Every state delivers to itself. -/
theorem refl (db : Db) : Delivers db db where
  toAdvances := .refl db
  delivered id stop later found foundLater := .inl (by
    rw [Option.some.inj (found.symm.trans foundLater)])
  proofs _ := id
  files := rfl

omit [UuidText] in
/-- Delivery is transitive. -/
theorem trans {first second third : Db} (left : Delivers first second)
    (right : Delivers second third) : Delivers first third where
  toAdvances := left.toAdvances.trans right.toAdvances
  delivered id stop last found foundLast := by
    obtain ⟨middle, foundMiddle, _⟩ := left.stops id stop found
    rcases right.delivered id middle last foundMiddle foundLast with same | delivered
    · exact same ▸ left.delivered id stop middle found foundMiddle
    · exact .inr delivered
  proofs id present := right.proofs id (left.proofs id present)
  files := right.files.trans left.files

omit [UuidText] in
/-- The commands that a state permits after repeatable turns were permitted before. -/
theorem permits {stopId : Uuid} {command : OutboxCommand} (delivers : Delivers before after)
    (step : command ≠ .pod) (permitted : DeliveryStopsService.Permits stopId (some driver)
      (command.Allows item driver user after) after) :
    DeliveryStopsService.Permits stopId (some driver) (command.Allows item driver user before)
      before := by
  obtain ⟨later, parent, ownLater, allowed⟩ := permitted
  obtain ⟨stop, delivery, own, status⟩ := delivers.reached ownLater
  refine ⟨stop, delivery, own, ?_⟩
  have stopStatus := delivers.delivered stopId stop later own.1 ownLater.1
  revert allowed stopStatus status
  cases command with
  | depart =>
      simp only [OutboxCommand.Allows, DeliveryStopsService.Departs]
      grind
  | arrive =>
      simp only [OutboxCommand.Allows, DeliveryStopsService.Arrives]
      grind
  | unload =>
      simp only [OutboxCommand.Allows, DeliveryStopsService.Unloads, terminalDeliveryStatuses]
      grind
  | pod => exact absurd rfl step

/-- So were the submissions. -/
theorem submits {stopId : Uuid} {dto : SubmitPodDto} {actor : DeliveryActor}
    (delivers : Delivers before after) {later : DeliveryStop} {parent : Delivery}
    (own : Reaches after stopId (some driver) later parent)
    (allowed : Submits later parent) (submittable : Submittable stopId dto actor after) :
    (∃ stop delivery, Reaches before stopId (some driver) stop delivery ∧ Submits stop delivery) ∧
      Submittable stopId dto actor before := by
  obtain ⟨stop, delivery, ownBefore, status⟩ := delivers.reached own
  refine ⟨⟨stop, delivery, ownBefore, ?_⟩, ?_, ?_, ?_⟩
  · have stopStatus := delivers.delivered stopId stop later ownBefore.1 own.1
    revert allowed stopStatus status
    simp only [Submits, terminalDeliveryStatuses]
    grind
  · refine Db.stored_eq_none.mpr fun key isKey => ?_
    by_contra present
    exact delivers.records key present (Db.stored_eq_none.mp submittable.unstored key isKey)
  · by_contra present
    exact delivers.proofs stopId present submittable.unproven
  · obtain ⟨row, evidence, photo, signature⟩ := submittable.evidence
    exact ⟨row, evidence, delivers.files ▸ photo, delivers.files ▸ signature⟩

end Delivers

/-- A turn that fails, though no call does by itself, leaves the store as it was. -/
theorem same_of_throws {error : Exception}
    (thrown : (syncItem item driver user).Throws Unfailing before error after) : after = before := by
  rcases syncItem_throws thrown with ⟨_, same, _⟩ | ⟨_, alone⟩
  · exact same
  · exact (alone Unfailing.healthy).1

/-- A turn of a repeatable event delivers. -/
theorem Delivers.of_turn {outcome : Except Exception (Option SyncConflict)}
    (ran : (syncItem item driver user).Runs Unfailing before outcome after)
    (repeatable : ¬Unrepeatable driver user item before) : Delivers before after where
  toAdvances := .of_runs ran
  proofs id present := by
    refine ran.keeps (fun db : Db => db.pod? id ≠ none) (fun write db present => ?_) present
    rw [Write.pod?_apply]
    cases write with
    | createPod row => simp [Write.onPod, present]
    | updatePod key data => by_cases here : id = key <;> simpa [Write.onPod, here] using present
    | _ => exact present
  files := ran.keeps (fun db : Db => db.files = before.files)
    (fun write db same => by cases write <;> exact same) rfl
  delivered id stop later found foundLater := by
    have unchanged : after = before → later.status = stop.status := by
      rintro rfl
      rw [Option.some.inj (found.symm.trans foundLater)]
    cases outcome with
    | error error => exact .inl (unchanged (same_of_throws ran))
    | ok ticket =>
        cases syncItem_returns ran with
        | unnamed anonymous => exact .inl (unchanged rfl)
        | unknown names foreign foundNow finds live => exact .inl (unchanged rfl)
        | stepped names command commanded step permitted stepped =>
            exact absurd (.step names commanded step permitted) repeatable
        | ticketed names cancelled short row fresh about =>
            exact absurd (.ticket names cancelled short) repeatable
        | @submitted stopId names commanded live other delivery own reply after submitted =>
            cases submitted with
            | replayed stored => exact .inl (unchanged rfl)
            | delivered unstored status => exact .inl (unchanged rfl)
            | @fresh body writes after unstored submits commit trailed =>
                obtain ⟨row, now, _, _, core⟩ := commit.essential_eq
                have agree := before.commit_essential writes
                rw [core] at agree
                have moved : after.stop? id = Write.onStop id
                    (.updateStop stopId { status := some .delivered, completedAt := some now })
                    (before.stop? id) :=
                  ((trailed.stop? id).trans (agree.stop? id).symm).trans (Write.stop?_apply _ before id)
                rw [foundLater, found] at moved
                by_cases here : id = stopId
                · rw [Write.onStop, if_pos here] at moved
                  cases moved
                  exact .inr rfl
                · rw [Write.onStop, if_neg here] at moved
                  cases moved
                  exact .inl rfl

/-! ## The second time -/

/-- What answers a submission the second time. -/
theorem answered_again {stopId : Uuid} {stop : DeliveryStop} {delivery : Delivery} {reply : PodReply}
    {final : Db} (own : Reaches before stopId (some driver) stop delivery)
    (submitted : Submitted stopId (podOf item) (driverActor user driver) stop delivery before reply
      after) (advanced : Delivers before after) (delivers : Delivers after final) :
    ∃ later parent, Reaches final stopId (some driver) later parent ∧
      (final.stored (PodService.recordKey (driverActor user driver) item.idempotencyKey) ≠ none ∨
        later.status = .delivered) := by
  have staysDelivered : ∀ {stop later : DeliveryStop}, stop.status = .delivered →
      (∀ command : OutboxCommand, stop.status ∈ command.onwards → later.status ∈ command.onwards) →
        later.status = .delivered := fun status onwards =>
    List.mem_singleton.mp (onwards .pod (by simp [status, OutboxCommand.onwards]))
  cases submitted with
  | replayed stored =>
      obtain ⟨later, parent, ownLater, _⟩ := (advanced.trans delivers).reaches own
      refine ⟨later, parent, ownLater, .inl fun unstored => ?_⟩
      have absent : before.stored
          (PodService.recordKey (driverActor user driver) item.idempotencyKey) = none := by
        refine Db.stored_eq_none.mpr fun key isKey => ?_
        by_contra present
        exact (advanced.trans delivers).records key present (Db.stored_eq_none.mp unstored key isKey)
      cases absent.symm.trans stored
  | delivered unstored status =>
      obtain ⟨later, parent, ownLater, ⟨_, onwards⟩, _⟩ := (advanced.trans delivers).reaches own
      exact ⟨later, parent, ownLater, .inr (staysDelivered status onwards)⟩
  | fresh unstored submits commit trailed =>
      obtain ⟨moved, row, ownMoved, status⟩ := commit.reaches own trailed
      obtain ⟨later, parent, ownLater, ⟨_, onwards⟩, _⟩ := delivers.reaches ownMoved
      exact ⟨later, parent, ownLater, .inr (staysDelivered status onwards)⟩

/-- A repeatable turn that was acknowledged does not fail the second time. -/
theorem not_throws_again {error : Exception} {final last : Db} (advanced : Delivers before after)
    (delivers : Delivers after final) (repeatable : ¬Unrepeatable driver user item before)
    (acked : (syncItem item driver user).Returns Unfailing before none after) :
    ¬(syncItem item driver user).Throws Unfailing final error last := by
  have whole := advanced.trans delivers
  have live : ∀ {stopId}, (∀ stop, ¬Cancelled before stopId stop) →
      ¬∃ stop, Cancelled final stopId stop := fun live cancelled =>
    (not_exists.mpr live) (whole.cancelled_iff.mp cancelled)
  cases syncItem_returns acked with
  | unnamed anonymous => exact not_throws_of_unnamed Unfailing.healthy anonymous
  | @unknown stopId names foreign found finds uncancelled =>
      obtain ⟨later, findsLater⟩ : ∃ later, Finds final stopId later := by
        cases found with
        | none => exact ⟨none, whole.unknown _ finds⟩
        | some row =>
            obtain ⟨later, parent, own, _⟩ := whole.reaches ⟨finds.1, finds.2, .inl rfl⟩
            exact ⟨some (later, parent), own.1, own.2.1⟩
      refine not_throws Unfailing.healthy names findsLater (live uncancelled)
        (not_rejected_of_foreign foreign) fun ⟨commanded, _⟩ => ?_
      cases foreign.symm.trans commanded
  | stepped names command commanded step permitted stepped =>
      exact absurd (.step names commanded step permitted) repeatable
  | @submitted stopId names commanded uncancelled stop delivery own reply after submitted =>
      obtain ⟨later, parent, ownLater, answered⟩ := answered_again own submitted advanced delivers
      have finds : Finds final stopId (some (later, parent)) := ⟨ownLater.1, ownLater.2.1⟩
      exact not_throws Unfailing.healthy names finds (live uncancelled)
        (not_rejected names commanded ⟨later, parent, ownLater, answered.imp_right .inl⟩)
        (not_faulty_of_answered ownLater answered)

/-- A submission that is open the second time was so the first time, and then was made. -/
theorem not_submittable_again {outcome : Except Exception (Option SyncConflict)} {final : Db}
    {stopId : Uuid} {later : DeliveryStop} {parent : Delivery}
    (ran : (syncItem item driver user).Runs Unfailing before outcome after)
    (delivers : Delivers after final) (repeatable : ¬Unrepeatable driver user item before)
    (names : item.Names stopId) (commanded : item.command = some .pod)
    (own : Reaches final stopId (some driver) later parent) (submits : Submits later parent) :
    ¬Submittable stopId (podOf item) (driverActor user driver) final := by
  intro submittable
  have whole := (Delivers.of_turn ran repeatable).trans delivers
  obtain ⟨⟨stop, delivery, ownBefore, submitsBefore⟩, submittableBefore⟩ :=
    whole.submits own submits submittable
  have finds : Finds before stopId (some (stop, delivery)) := ⟨ownBefore.1, ownBefore.2.1⟩
  have live : ¬∃ stop, Cancelled before stopId stop := fun cancelled => submitsBefore.1 (by
    rw [(cancelled_of_finds finds).mp cancelled]
    decide)
  cases outcome with
  | error error =>
      exact not_throws Unfailing.healthy names finds live
        (not_rejected names commanded ⟨stop, delivery, ownBefore, .inr (.inr submitsBefore)⟩)
        (fun ⟨_, unfit, _⟩ => unfit submittableBefore) ran
  | ok ticket =>
      have same : ∀ {other}, item.Names other → other = stopId := fun named =>
        Except.ok.inj (named.2.symm.trans names.2)
      cases syncItem_returns ran with
      | unnamed anonymous => cases anonymous.symm.trans names.1
      | unknown _ foreign => cases foreign.symm.trans commanded
      | stepped _ command isCommand step =>
          exact step (Option.some.inj (isCommand.symm.trans commanded))
      | ticketed named cancelled short =>
          exact repeatable (.ticket named cancelled short)
      | submitted named _ _ ownOther submitted =>
          obtain rfl := same named
          obtain rfl := Option.some.inj (ownOther.1.symm.trans ownBefore.1)
          cases submitted with
          | replayed stored => cases submittableBefore.unstored.symm.trans stored
          | delivered unstored status => exact submitsBefore.2 (by simp [status])
          | fresh unstored submitsOther commit trailed =>
              obtain ⟨moved, row, ownMoved, status⟩ := commit.reaches ownOther trailed
              obtain ⟨last, _, ownLast, ⟨_, onwards⟩, _⟩ := delivers.reaches ownMoved
              obtain rfl := Option.some.inj (ownLast.1.symm.trans own.1)
              have past := List.mem_singleton.mp (onwards .pod (by simp [status, OutboxCommand.onwards]))
              exact submits.2 (by simp [past])

/-- The second turn of a repeatable event does nothing, and opens no ticket. -/
theorem idle_again {outcome second : Except Exception (Option SyncConflict)} {final last : Db}
    (ran : (syncItem item driver user).Runs Unfailing before outcome after)
    (delivers : Delivers after final) (repeatable : ¬Unrepeatable driver user item before)
    (again : (syncItem item driver user).Runs Unfailing final second last) :
    last = final ∧ ∀ ticket, second ≠ .ok (some ticket) := by
  have advanced := Delivers.of_turn ran repeatable
  have whole := advanced.trans delivers
  cases second with
  | error error => exact ⟨same_of_throws again, fun _ => nofun⟩
  | ok ticket =>
      cases syncItem_returns again with
      | unnamed anonymous => exact ⟨rfl, fun _ => nofun⟩
      | unknown names foreign found finds live => exact ⟨rfl, fun _ => nofun⟩
      | stepped names command commanded step permitted stepped =>
          exact absurd (.step names commanded step (whole.permits step permitted)) repeatable
      | ticketed names cancelled short row fresh about =>
          obtain ⟨stop, earlier⟩ := whole.cancelled_iff.mp ⟨_, cancelled⟩
          exact absurd (.ticket names earlier short) repeatable
      | @submitted stopId names commanded live stop delivery own reply _ submitted =>
          refine ⟨?_, fun _ => nofun⟩
          cases submitted with
          | replayed stored => rfl
          | delivered unstored status => rfl
          | fresh unstored submits commit trailed =>
              exact absurd commit.submittable
                (not_submittable_again ran delivers repeatable names commanded own submits)

namespace Turns

variable {supplied : Input → Prop} {items : List OutboxEventItem} {db final : Db} {turns : List Turn}

/-- So do the turns of repeatable events. -/
theorem delivers (ran : Turns Unfailing driver user items db turns final)
    (repeatable : ∀ turn ∈ turns, ¬Unrepeatable driver user turn.item turn.before) :
    Delivers db final := by
  induction ran with
  | nil => exact .refl _
  | cons synced _ inductionHypothesis =>
      exact (Delivers.of_turn synced (repeatable _ List.mem_cons_self)).trans
        (inductionHypothesis fun turn member => repeatable turn (List.mem_cons_of_mem _ member))

/-- A batch of events that do nothing does nothing. -/
theorem idle_of_each (ran : Turns supplied driver user items db turns final)
    (each : ∀ item ∈ items, ∀ outcome after,
      (syncItem item driver user).Runs supplied db outcome after → after = db) :
    final = db ∧ ∀ turn ∈ turns, turn.before = db := by
  induction ran with
  | nil => exact ⟨rfl, by simp⟩
  | @cons item items db next final outcome turns synced rest inductionHypothesis =>
      obtain rfl := each item List.mem_cons_self outcome next synced
      obtain ⟨same, began⟩ := inductionHypothesis fun item member =>
        each item (List.mem_cons_of_mem _ member)
      exact ⟨same, by simpa using began⟩

end Turns

/-! ## The whole batch -/

/-- A batch of repeatable turns is repeated as the client expects. -/
theorem repeated_of_repeatable {db middle final : Db} {events : List OutboxEventItem}
    {first second : List Turn} (ran : Turns Unfailing driver user events db first middle)
    (again : Turns Unfailing driver user events middle second final)
    (repeatable : ∀ turn ∈ first, ¬Unrepeatable driver user turn.item turn.before) :
    Repeated (.of first) middle (.of second) final := by
  have rest : ∀ turn ∈ first, Delivers turn.after middle := by
    intro turn member
    obtain ⟨_, _, earlier, later, _, rfl, _, _, suffix⟩ := ran.split member
    exact suffix.delivers fun other inLater => repeatable other (by simp [inLater])
  have each : ∀ item ∈ events, ∀ outcome after,
      (syncItem item driver user).Runs Unfailing middle outcome after →
        after = middle ∧ ∀ ticket, outcome ≠ .ok (some ticket) := by
    intro item inBatch outcome after taken
    rw [← ran.items_eq] at inBatch
    obtain ⟨turn, member, rfl⟩ := List.mem_map.mp inBatch
    exact idle_again (ran.runs member) (rest turn member) (repeatable turn member) taken
  obtain ⟨rfl, began⟩ := again.idle_of_each fun item inBatch outcome after taken =>
    (each item inBatch outcome after taken).1
  refine ⟨⟨rfl, rfl, rfl, rfl, rfl⟩, fun id acked => ?_, fun ticket reported => ?_⟩
  · obtain ⟨turn, member, returned, rfl⟩ := SyncResult.mem_acked.mp acked
    -- the event has its turn the second time too
    have inBatch : turn.item ∈ second.map Turn.item := by
      rw [again.items_eq, ← ran.items_eq]
      exact List.mem_map_of_mem member
    obtain ⟨twin, inSecond, same⟩ := List.mem_map.mp inBatch
    refine SyncResult.mem_acked.mpr ⟨twin, inSecond, ?_, by rw [same]⟩
    have taken := again.runs inSecond
    rw [began twin inSecond, same] at taken
    have inEvents : turn.item ∈ events := ran.items_eq ▸ List.mem_map_of_mem member
    have firstRan := ran.runs member
    rw [returned] at firstRan
    cases outcome : twin.outcome with
    | error error =>
        rw [outcome] at taken
        exact absurd taken (not_throws_again (Delivers.of_turn firstRan (repeatable turn member))
          (rest turn member) (repeatable turn member) firstRan)
    | ok ticket =>
        cases ticket with
        | none => rfl
        | some ticket => exact absurd outcome ((each _ inEvents _ _ taken).2 ticket)
  · obtain ⟨turn, member, returned⟩ := SyncResult.mem_conflicts.mp reported
    obtain ⟨_, _, _, names, cancelled, short, _⟩ := (ran.synced member returned).ticketed_of_some
    exact absurd (.ticket names cancelled short) (repeatable turn member)

/-- A late event opens a ticket the second time, as the first. -/
theorem not_repeated_of_ticket {db middle : Db} {events : List OutboxEventItem} {first : List Turn}
    (ran : Turns Unfailing driver user events db first middle) {turn : Turn} (member : turn ∈ first)
    {stopId : Uuid} {stop : DeliveryStop} (names : turn.item.Names stopId)
    (cancelled : Cancelled turn.before stopId stop) (short : turn.item.clientEventId.length ≤ 100) :
    ∃ second final, Turns Unfailing driver user events middle second final ∧
      final.deliveryConflicts ≠ middle.deliveryConflicts := by
  have since := (ran.advances_turn member).trans (ran.advances_after member)
  obtain ⟨stopNow, cancelledNow⟩ := since.cancelled_iff.mpr ⟨stop, cancelled⟩
  obtain ⟨second, final, row, again, absent, present, _⟩ :=
    Turns.opens (ran.items_eq ▸ List.mem_map_of_mem member) names cancelledNow short
  refine ⟨second, final, again, fun same => ?_⟩
  rw [Db.conflict?, same] at present
  cases present.symm.trans absent

omit [UuidText] in
/-- A step that was taken is not permitted the second time. -/
theorem not_permitted_again {command : OutboxCommand} {stop : DeliveryStop}
    {delivery : Delivery} (step : command ≠ .pod) (past : stop.status ∈ command.onwards) {db : Db} :
    ¬command.Allows item driver user db stop delivery := by
  revert past
  cases command with
  | depart =>
      simp only [OutboxCommand.Allows, DeliveryStopsService.Departs, OutboxCommand.onwards]
      grind
  | arrive =>
      simp only [OutboxCommand.Allows, DeliveryStopsService.Arrives, OutboxCommand.onwards]
      grind
  | unload =>
      simp only [OutboxCommand.Allows, DeliveryStopsService.Unloads, OutboxCommand.onwards]
      grind
  | pod => exact absurd rfl step

/-- A step is not acknowledged the second time. -/
theorem not_acked_again {db middle final : Db} {events : List OutboxEventItem}
    {first second : List Turn} (ran : Turns Unfailing driver user events db first middle)
    (again : Turns Unfailing driver user events middle second final) {turn twin : Turn}
    (member : turn ∈ first) (inSecond : twin ∈ second) (same : twin.item = turn.item) {stopId : Uuid}
    {command : OutboxCommand} (names : turn.item.Names stopId)
    (commanded : turn.item.command = some command) (step : command ≠ .pod)
    (permitted : DeliveryStopsService.Permits stopId (some driver)
      (command.Allows turn.item driver user turn.before) turn.before) : twin.outcome ≠ .ok none := by
  intro acked
  obtain ⟨_, data, sets, trailed⟩ := stepped_of_permitted Unfailing.healthy names commanded step
    permitted (ran.runs member)
  obtain ⟨stop, delivery, own, _⟩ := permitted
  obtain ⟨moved, row, ownMoved, status⟩ := own.moved sets rfl (fun _ => rfl) trailed
  have since := (ran.advances_after member).trans (again.advances_before inSecond)
  obtain ⟨later, parent, ownLater, ⟨_, onwards⟩, _⟩ := since.reaches ownMoved
  have past := onwards command (status ▸ command.target_mem_onwards)
  have synced := again.synced inSecond acked
  rw [same] at synced
  generalize twin.after = next at synced
  cases synced with
  | unnamed anonymous => cases anonymous.symm.trans names.1
  | unknown _ foreign => cases foreign.symm.trans commanded
  | @stepped other named _ isCommand _ permittedNow =>
      obtain rfl : other = stopId := Except.ok.inj (named.2.symm.trans names.2)
      cases commanded.symm.trans isCommand
      obtain ⟨stopNow, deliveryNow, ownNow, allowed⟩ := permittedNow
      obtain rfl := Option.some.inj (ownNow.1.symm.trans ownLater.1)
      exact not_permitted_again step past allowed
  | submitted _ isPod => exact step (Option.some.inj (commanded.symm.trans isPod))

/-- For every store, driver and batch: where the first time no event gets its turn in a
state in which a step of its stop is permitted or a ticket is due, sending the batch again
changes nothing and answers the same. And where it does so, every such event is a step
whose id stands in the batch for another event as well: so if ids are distinct there is
none. -/
theorem repeated_iff_repeatable (db : Db) (dto : OutboxSyncDto) (driver user : Uuid) :
    ((∀ turns middle, Turns Unfailing driver user dto.events db turns middle →
        ∀ turn ∈ turns, ¬Unrepeatable driver user turn.item turn.before) →
      ∀ first middle second final, (syncOutbox dto driver user).Returns Unfailing db first middle →
        (syncOutbox dto driver user).Returns Unfailing middle second final →
          Repeated first middle second final) ∧
    ((∀ first middle second final, (syncOutbox dto driver user).Returns Unfailing db first middle →
        (syncOutbox dto driver user).Returns Unfailing middle second final →
          Repeated first middle second final) →
      ∀ turns middle, Turns Unfailing driver user dto.events db turns middle →
        ∀ turn ∈ turns, Unrepeatable driver user turn.item turn.before →
          ∃ twin ∈ dto.events, twin ≠ turn.item ∧ twin.clientEventId = turn.item.clientEventId) := by
  constructor
  · intro repeatable first middle second final sent sentAgain
    obtain ⟨turns, ran, same⟩ := syncOutbox_runs.mp sent
    obtain ⟨turnsAgain, again, sameAgain⟩ := syncOutbox_runs.mp sentAgain
    cases same
    cases sameAgain
    exact repeated_of_repeatable ran again (repeatable turns middle ran)
  · intro repeats turns middle ran turn member unrepeatable
    have answered : ∀ second final, Turns Unfailing driver user dto.events middle second final →
        Repeated (.of turns) middle (.of second) final := fun second final again =>
      repeats _ _ _ _ (syncOutbox_runs.mpr ⟨turns, ran, rfl⟩) (syncOutbox_runs.mpr ⟨second, again, rfl⟩)
    cases unrepeatable with
    | ticket names cancelled short =>
        obtain ⟨second, final, again, grown⟩ := not_repeated_of_ticket ran member names cancelled short
        exact absurd (answered second final again).same.deliveryConflicts grown
    | @step stopId command names commanded step permitted =>
        obtain ⟨second, final, again⟩ : ∃ second final,
            Turns Unfailing driver user dto.events middle second final := Turns.total Unfailing.given _ _
        obtain ⟨returned, _⟩ := stepped_of_permitted Unfailing.healthy names commanded step permitted
          (ran.runs member)
        have acked := (answered second final again).acked turn.item.clientEventId
          (SyncResult.mem_acked.mpr ⟨turn, member, returned, rfl⟩)
        obtain ⟨twin, inSecond, ackedAgain, sameId⟩ := SyncResult.mem_acked.mp acked
        have inBatch : twin.item ∈ dto.events := again.items_eq ▸ List.mem_map_of_mem inSecond
        refine ⟨twin.item, inBatch, fun same => ?_, sameId⟩
        exact not_acked_again ran again member inSecond same names commanded step permitted ackedAgain

end Replay

/-! ## A departure that is sent again -/

namespace RepeatedDeparture

@[reducible] def stopUuids : UuidText := tableUuids [("s", 7)]

def db : Db where
  deliveries := Table.empty.insert
    { id := 1, deliveryCode := "D-1", driverId := some 3, status := .enRoute, createdBy := 9 }
  deliveryStops := Table.empty.insert { id := 7, deliveryId := 1, sequence := 1 }

def batch : OutboxSyncDto where
  events := [⟨"e", "stop.depart", { stopId := .string "s" }, none⟩]
  bounded := by decide
  named := by decide

/-- The store after the departure. -/
def departed : Db := ((@syncOutbox stopUuids batch 3 30).run (fun _ _ => {}) db).2

/-- The departure is acknowledged once. -/
theorem acknowledged_once :
    ((@syncOutbox stopUuids batch 3 30).run (fun _ _ => {}) db).1 = .ok ⟨["e"], []⟩ ∧
      ((@syncOutbox stopUuids batch 3 30).run (fun _ _ => {}) departed).1 = .ok ⟨[], []⟩ := by
  constructor <;> rfl

/-- Sending a batch again is not always answered the same. -/
theorem repeated_violated :
    ¬∀ [UuidText] (db : Db) (dto : OutboxSyncDto) (driver user : Uuid) first middle second final,
      (syncOutbox dto driver user).Returns Unfailing db first middle →
        (syncOutbox dto driver user).Returns Unfailing middle second final →
          Repeated first middle second final := by
  intro always
  let _ := stopUuids
  have sent := runs_plain (syncOutbox batch 3 30) db
  have again := runs_plain (syncOutbox batch 3 30) departed
  rw [acknowledged_once.1] at sent
  rw [acknowledged_once.2] at again
  cases (always db batch 3 30 _ _ _ _ sent again).acked "e" List.mem_cons_self

end RepeatedDeparture

end Armada
