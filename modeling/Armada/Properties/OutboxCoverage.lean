import Armada.Outbox.Batch

/-!
# Events that are neither acknowledged nor reported

A late command should be acknowledged, or end in a ticket that keeps it for a review.
A cancellation is the one conflict for which the sync opens a ticket. Every other
command that its state does not permit throws, and the handler of the turn drops it.
-/

namespace Armada

open Relational Concurrency DeliveryConflictsService

/-- Whether a turn has come to an end of its own. -/
def Turn.returned (turn : Turn) : Bool :=
  match turn.outcome with
  | .ok _ => true
  | .error _ => false

/-- Every event of the batch stands once in the result, and those that stand among the
conflicts have an open ticket with their payload. -/
structure Covered (events : List OutboxEventItem) (result : SyncResult) (db : Db) : Prop where
  once : (result.acked ++ result.conflicts.map SyncConflict.clientEventId).Perm
    (events.map OutboxEventItem.clientEventId)
  ticketed : ∀ ticket ∈ result.conflicts, ∃ item ∈ events,
    item.clientEventId = ticket.clientEventId ∧ ∃ row, db.conflict? ticket.conflictId = some row ∧
      row.clientPayload = item ∧ row.status = .opened

/-- What is reported are the turns that have returned. -/
theorem SyncResult.perm_of {turns : List Turn}
    (named : ∀ turn ∈ turns, ∀ ticket, turn.outcome = .ok (some ticket) →
      ticket.clientEventId = turn.item.clientEventId) :
    ((of turns).acked ++ (of turns).conflicts.map SyncConflict.clientEventId).Perm
      ((turns.filter Turn.returned).map fun turn => turn.item.clientEventId) := by
  rw [acked_of, conflicts_of]
  induction turns with
  | nil => exact .nil
  | cons turn turns inductionHypothesis =>
      have rest := inductionHypothesis fun other member => named other (List.mem_cons_of_mem _ member)
      have own := named turn List.mem_cons_self
      cases outcome : turn.outcome with
      | error error => simpa [ackedOf, ticketOf, Turn.returned, outcome] using rest
      | ok answer =>
          cases answer with
          | none => simpa [ackedOf, ticketOf, Turn.returned, outcome] using rest
          | some ticket =>
              have here : ticket.clientEventId = turn.item.clientEventId := own ticket outcome
              simp only [List.filterMap_cons, ackedOf, ticketOf, outcome, List.map_cons,
                List.filter_cons, Turn.returned, if_true, here]
              exact List.perm_middle.trans (rest.cons _)

variable [UuidText] {supplied : Input → Prop} {driver user : Uuid}

namespace Turns

variable {events : List OutboxEventItem} {db final : Db} {turns : List Turn}

/-- Every ticket that is reported has an open row with its event. -/
theorem ticketed (ran : Turns supplied driver user events db turns final) :
    ∀ ticket ∈ (SyncResult.of turns).conflicts, ∃ item ∈ events,
      item.clientEventId = ticket.clientEventId ∧ ∃ row, final.conflict? ticket.conflictId = some row ∧
        row.clientPayload = item ∧ row.status = .opened := by
  intro ticket reported
  obtain ⟨turn, member, returned⟩ := SyncResult.mem_conflicts.mp reported
  obtain ⟨stopId, stop, row, _, _, _, fresh, ⟨_, _, payload, status⟩, rfl, after⟩ :=
    (ran.synced member returned).ticketed_of_some
  have opened : turn.after.conflict? row.id = some row := by
    rw [after, Write.conflict?_apply, fresh]
    simp [Write.onConflict]
  exact ⟨turn.item, ran.items_eq ▸ List.mem_map_of_mem member, rfl, row,
    (ran.advances_after member).tickets _ _ opened, payload, status⟩

/-- The result covers the batch if and only if every turn has returned. -/
theorem covered_iff_returned (ran : Turns supplied driver user events db turns final) :
    Covered events (.of turns) final ↔ ∀ turn ∈ turns, turn.returned = true := by
  have reported := SyncResult.perm_of fun turn member ticket returned => by
    obtain ⟨_, _, _, _, _, _, _, _, rfl, _⟩ := (ran.synced member returned).ticketed_of_some
    rfl
  have events_eq : events.map OutboxEventItem.clientEventId =
      turns.map fun turn => turn.item.clientEventId := by
    rw [← ran.items_eq, List.map_map]
    rfl
  constructor
  · intro covered
    have sameLength := (reported.symm.trans covered.once).length_eq
    rw [events_eq, List.length_map, List.length_map] at sameLength
    exact List.length_filter_eq_length_iff.mp sameLength
  · intro returned
    refine ⟨?_, ran.ticketed⟩
    rwa [List.filter_eq_self.mpr returned, ← events_eq] at reported

/-- A command that is rejected is neither acknowledged nor reported. -/
theorem not_rejected_of_synced {item : OutboxEventItem} {before after : Db}
    {ticket : Option SyncConflict} (synced : Synced driver user item before ticket after) :
    ¬Rejected driver user item before := by
  rintro ⟨stopId, command, names, commanded, live, unfit⟩
  have same : ∀ {other}, item.Names other → other = stopId := fun named =>
    Except.ok.inj (named.2.symm.trans names.2)
  cases synced with
  | unnamed anonymous => cases anonymous.symm.trans names.1
  | unknown _ foreign => cases foreign.symm.trans commanded
  | stepped named other isCommand _ permitted =>
      obtain rfl := same named
      cases commanded.symm.trans isCommand
      exact unfit permitted
  | submitted named isCommand _ own submitted =>
      obtain rfl := same named
      cases commanded.symm.trans isCommand
      refine unfit ⟨_, _, own, ?_⟩
      cases submitted with
      | replayed stored => exact .inl (by rw [show before.stored _ = _ from stored]; nofun)
      | delivered _ status => exact .inr (.inl status)
      | fresh _ submits => exact .inr (.inr submits)
  | ticketed named cancelled =>
      obtain rfl := same named
      exact live _ cancelled

/-- An event comes back exactly when it is not rejected. -/
theorem returned_iff (ran : Turns supplied driver user events db turns final) {turn : Turn}
    (member : turn ∈ turns) (unfailed : ∀ reason, turn.outcome ≠ .error (.prisma reason)) :
    turn.returned = true ↔ ¬Rejected driver user turn.item turn.before := by
  cases outcome : turn.outcome with
  | ok ticket =>
      simp only [Turn.returned, outcome, true_iff]
      exact not_rejected_of_synced (ran.synced member outcome)
  | error error =>
      simp only [Turn.returned, outcome, Bool.false_eq_true, false_iff, not_not]
      rcases ran.failed member outcome with ⟨_, _, rejected⟩ | ⟨⟨reason, rfl⟩, _⟩
      · exact rejected
      · exact absurd outcome (unfailed reason)

end Turns

/-- In every sync, turn by turn, in which no turn ends in an error of the database: the
result covers the batch if and only if no event gets its turn in a state in which its
command is not permitted, though the delivery is not cancelled. -/
theorem covered_iff_permitted {db final : Db} {dto : OutboxSyncDto} {turns : List Turn}
    (ran : Turns supplied driver user dto.events db turns final)
    (unfailed : ∀ turn ∈ turns, ∀ reason, turn.outcome ≠ .error (.prisma reason)) :
    (syncOutbox dto driver user).Runs supplied db (.ok (.of turns)) final ∧
      (Covered dto.events (.of turns) final ↔
        ∀ turn ∈ turns, ¬Rejected driver user turn.item turn.before) := by
  refine ⟨syncOutbox_runs.mpr ⟨turns, ran, rfl⟩, ran.covered_iff_returned.trans ?_⟩
  exact forall₂_congr fun turn member => ran.returned_iff member (unfailed turn member)

/-! ## A departure after the completion -/

namespace LateDeparture

omit [UuidText]

@[reducible] def stopUuids : UuidText := tableUuids [("s", 7)]

/-- An operator has completed the delivery without the second stop. -/
def db : Db where
  deliveries := Table.empty.insert
    { id := 1, deliveryCode := "D-1", driverId := some 3, status := .completed, createdBy := 9 }
  deliveryStops := Table.empty.insert { id := 7, deliveryId := 1, sequence := 1 }

def departure : OutboxEventItem := ⟨"e", "stop.depart", { stopId := .string "s" }, none⟩

def batch : OutboxSyncDto := ⟨[departure], by decide, by decide⟩

/-- The one turn of the batch. -/
def turn : Turn :=
  let ran := (@syncItem stopUuids departure 3 30).run (fun _ _ => {}) db
  ⟨departure, db, ran.1, ran.2⟩

/-- The batch is a run of one turn. -/
theorem ran : @Turns stopUuids Unfailing 3 30 batch.events db [turn] turn.after :=
  @Turns.cons stopUuids _ _ _ _ _ _ _ _ _ _
    (runs_plain (@syncItem stopUuids departure 3 30) db) (@Turns.nil stopUuids _ _ _ _)

/-- The turn does not fail. -/
theorem unfailed : ∀ late ∈ [turn], ∀ reason, late.outcome ≠ .error (.prisma reason) := by
  intro late member reason
  rw [List.mem_singleton.mp member]
  exact nofun

/-- The equivalence at the departure. -/
theorem covered_iff_permitted_of_departure :
    (@syncOutbox stopUuids batch 3 30).Runs Unfailing db (.ok (.of [turn])) turn.after ∧
      (Covered batch.events (.of [turn]) turn.after ↔
        ∀ late ∈ [turn], ¬@Rejected stopUuids 3 30 late.item late.before) :=
  @covered_iff_permitted stopUuids Unfailing 3 30 db turn.after batch [turn] ran unfailed

/-- The departure is dropped. -/
theorem dropped : SyncResult.of [turn] = ⟨[], []⟩ := by
  rfl

/-- Not every batch of commands for own stops is covered. -/
theorem covered_violated :
    ¬∀ [UuidText] (db : Db) (dto : OutboxSyncDto) (driver user : Uuid) (turns : List Turn) (final : Db),
      Turns Unfailing driver user dto.events db turns final →
      (∀ turn ∈ turns, ∀ reason, turn.outcome ≠ .error (.prisma reason)) →
      (∀ item ∈ dto.events, ∃ command stopId stop delivery, item.command = some command ∧
        item.Names stopId ∧ Reaches db stopId (some driver) stop delivery) →
        Covered dto.events (.of turns) final := by
  intro always
  have own : ∀ item ∈ batch.events, ∃ command stopId stop delivery, item.command = some command ∧
      @OutboxEventItem.Names stopUuids item stopId ∧ Reaches db stopId (some 3) stop delivery := by
    intro item member
    rw [List.mem_singleton.mp member]
    exact ⟨.depart, 7, _, _, rfl, ⟨rfl, rfl⟩, rfl, rfl, .inr rfl⟩
  have covered := @always stopUuids db batch 3 30 [turn] turn.after ran unfailed own
  have once := covered.once
  rw [dropped] at once
  cases once.length_eq

end LateDeparture

end Armada
