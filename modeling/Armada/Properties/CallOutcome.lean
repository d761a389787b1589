import Armada.Communication.Calls
import Armada.Concurrency.LateRecord

/-!
# Outcomes of calls

A call is answered, expired or ended. An answer and the watchdog claim a pending call with a
conditional UPDATE, so at most one of them does; a hang-up updates the row whatever its state.
-/

namespace Armada.Communication

open Relational Concurrency
open Auth (UuidSpelling spelled)
open CallSessionService

/-- The steps that the status of a call may take. -/
inductive RealtimeSessionStatus.Follows : RealtimeSessionStatus → RealtimeSessionStatus → Prop where
  | accepted : Follows .pending .active
  | declined : Follows .pending .declined
  | timedOut : Follows .pending .timeout
  | cancelled : Follows .pending .ended
  | hungUp : Follows .active .ended

section Runs

variable [UuidSpelling]

/-- An answer or the watchdog claims the call: its UPDATE counts one row. -/
def Claims (id : Uuid) (turn : Turn communication) : Prop :=
  ∃ sessionId instant, UuidText.parse sessionId = some id ∧
    ((∃ action, turn.Returned (claim sessionId action instant) 1) ∨
      turn.Returned (expire sessionId instant) 1)

/-- The outcomes of calls are final. -/
structure FinalOutcomes (trace : List (Turn communication)) : Prop where
  follows : ∀ turn ∈ trace, ∀ id row, turn.before.session? id = some row →
    ∃ next, turn.after.session? id = some next ∧
      (next.status = row.status ∨ row.status.Follows next.status)
  once : ∀ id, Once (Claims id) trace
  inTime : ∀ turn ∈ trace, ∀ id active, turn.after.session? id = some active →
    active.status = .active → turn.before.session? id = some active ∨
      ∃ row acceptedAt, turn.before.session? id = some row ∧ row.status = .pending ∧
        active.startedAt = some acceptedAt ∧ acceptedAt < row.expiresAt

/-- No hang-up reaches its UPDATE while the call is declined or timed out. -/
def HangUpsInTime (trace : List (Turn communication)) : Prop :=
  ∀ turn ∈ trace, ∀ sessionId instant, turn.Performs (finish sessionId instant) →
    (turn.inputs 0).fault = none → ∀ id row, UuidText.parse sessionId = some id →
      turn.before.session? id = some row → row.status ≠ .declined ∧ row.status ≠ .timeout

section Moves

variable {turn : Turn communication} {id : Uuid}

/-- An UPDATE of a pending row that leaves it otherwise settles the call. -/
theorem settles_of_updateMany {sessionId : String} {condition : RealtimeSession → Bool}
    {change : SessionChange}
    (returned : turn.Returned (Prisma.RealtimeSession.updateMany sessionId condition change) 1)
    (parsed : UuidText.parse sessionId = some id)
    (pending : ∀ row, condition row = true → row.status = .pending)
    (leaves : ∀ row, (change.apply row).status ≠ .pending) :
    ¬Settled id turn.before ∧ Settled id turn.after := by
  obtain ⟨row, holds, changes⟩ := updateMany_returned returned parsed
  constructor
  · rintro ⟨other, found, settled⟩
    obtain rfl := Option.some.inj (changes.found.symm.trans found)
    exact settled (pending row holds)
  · exact ⟨_, changes.after, leaves row⟩

/-- A claim finds the call pending and leaves it settled. -/
theorem Claims.settles (claims : Claims id turn) :
    ¬Settled id turn.before ∧ Settled id turn.after := by
  obtain ⟨sessionId, instant, parsed, ⟨action, returned⟩ | returned⟩ := claims
  · apply settles_of_updateMany returned parsed
    · exact fun row holds => (of_decide_eq_true holds).1
    · intro row
      cases action <;> exact nofun
  · apply settles_of_updateMany returned parsed
    · exact fun row holds => (of_decide_eq_true holds).1
    · exact fun row => nofun

variable {request : Request} {history : List (Turn communication)}

/-- A move that meets its condition follows the transitions and keeps a final status. -/
theorem Moves.follows (moves : Moves request history turn id) {row : RealtimeSession}
    (found : turn.before.session? id = some row)
    (inTime : ∀ sessionId instant, turn.Performs (finish sessionId instant) →
      (turn.inputs 0).fault = none → UuidText.parse sessionId = some id →
        row.status ≠ .declined ∧ row.status ≠ .timeout) :
    ∃ next, turn.after.session? id = some next ∧
      (next.status = row.status ∨ row.status.Follows next.status) := by
  cases moves with
  | stays same => exact ⟨row, same.trans found, .inl rfl⟩
  | begins _ fresh _ _ => cases fresh.symm.trans found
  | answers _ action _ _ _ _ _ _ pending _ changes =>
      obtain rfl := Option.some.inj (changes.found.symm.trans found)
      refine ⟨_, changes.after, .inr ?_⟩
      rw [pending]
      cases action with
      | accept => exact .accepted
      | decline => exact .declined
  | expires _ _ _ _ pending _ changes =>
      obtain rfl := Option.some.inj (changes.found.symm.trans found)
      refine ⟨_, changes.after, .inr ?_⟩
      rw [pending]
      exact .timedOut
  | ends sessionId instant old performs answered changes =>
      obtain rfl := Option.some.inj (changes.found.symm.trans found)
      obtain ⟨notDeclined, notTimedOut⟩ := inTime sessionId instant performs answered
        changes.spelled
      refine ⟨_, changes.after, ?_⟩
      cases status : old.status with
      | pending => exact .inr .cancelled
      | active => exact .inr .hungUp
      | declined => exact absurd status notDeclined
      | ended => exact .inl rfl
      | timeout => exact absurd status notTimedOut

/-- A call becomes active only while it is pending, before it expires. -/
theorem Moves.inTime (moves : Moves request history turn id) {active : RealtimeSession}
    (found : turn.after.session? id = some active) (isActive : active.status = .active) :
    turn.before.session? id = some active ∨
      ∃ row acceptedAt, turn.before.session? id = some row ∧ row.status = .pending ∧
        active.startedAt = some acceptedAt ∧ acceptedAt < row.expiresAt := by
  obtain same | ⟨_, _, instant, row, _, _, _, pending, early, changes, rfl⟩ :=
    moves.of_active found isActive
  · exact .inl same
  · exact .inr ⟨row, instant, changes.found, pending, rfl, early⟩

end Moves

/-- In every run of any requests, in any order of their steps, the outcomes of calls are final
exactly if no hang-up reaches its UPDATE while the call is declined or timed out. -/
theorem final_outcomes_iff {all : List Request} {db : Db} {trace : List (Turn communication)}
    {final : Pool communication (Option RealtimeSession)}
    (turns : (requests all db).Turns trace final) :
    FinalOutcomes trace ↔ HangUpsInTime trace := by
  constructor
  · intro outcomes turn member sessionId instant performs answered id row parsed found
    have changes := finish_changes performs answered parsed found
    obtain ⟨next, after, kept | followed⟩ := outcomes.follows turn member id row found
    · obtain rfl := Option.some.inj (changes.after.symm.trans after)
      constructor
      · intro declined
        cases kept.trans declined
      · intro timedOut
        cases kept.trans timedOut
    · obtain rfl := Option.some.inj (changes.after.symm.trans after)
      constructor
      · intro declined
        rw [declined] at followed
        cases followed
      · intro timedOut
        rw [timedOut] at followed
        cases followed
  · intro inTime
    constructor
    · intro turn member id row found
      obtain ⟨request, history, _, moves⟩ := moves_of_mem turns member id
      exact moves.follows found fun sessionId instant performs answered parsed =>
        inTime turn member sessionId instant performs answered id row parsed found
    · intro id
      apply Once.of_barred turns
      · exact fun _ _ => Claims.settles
      · intro turn member
        obtain ⟨request, history, _, moves⟩ := moves_of_mem turns member id
        exact moves.settled
    · intro turn member id active found isActive
      obtain ⟨request, history, _, moves⟩ := moves_of_mem turns member id
      exact moves.inTime found isActive

end Runs

/-! ### A hang-up after a decline -/

namespace DeclinedCall

local instance : UuidSpelling := letterSpelling

def calledDriver : UserActor := ⟨spelled 3, "DRIVER", some 2⟩

def callingOwner : UserActor := ⟨spelled 1, "OWNER", none⟩

/-- The driver declines; then the owner hangs up. -/
def declinedThenEnded : List Request :=
  [.respond "a" .decline calledDriver, .hangUp "a" callingOwner]

def declinedRun : List (Turn communication) × Pool communication (Option RealtimeSession) :=
  (requests declinedThenEnded ringing).perform
    (inOrder (List.replicate 6 0 ++ List.replicate 5 1))

/-- The owner alone hangs up. -/
theorem final_outcomes_iff_hangUp :
    let run := (requests [.hangUp "a" callingOwner] ringing).perform
      (inOrder (List.replicate 5 0))
    FinalOutcomes run.1 ↔ HangUpsInTime run.1 :=
  final_outcomes_iff (Pool.perform_turns _ _)

/-- The hang-up turns the DECLINED session into an ENDED one. -/
theorem declined_ended : ∃ turn ∈ declinedRun.1,
    (turn.before.session? 0).map RealtimeSession.status = some .declined ∧
      (turn.after.session? 0).map RealtimeSession.status = some .ended := by
  decide +kernel

/-- A declined call is ended. -/
theorem final_outcomes_fail :
    ¬∀ (all : List Request) (db : Db) (trace : List (Turn communication))
        (final : Pool communication (Option RealtimeSession)),
      (requests all db).Turns trace final → FinalOutcomes trace := by
  intro claimed
  have outcomes := claimed declinedThenEnded ringing declinedRun.1 declinedRun.2 (Pool.perform_turns _ _)
  obtain ⟨turn, member, declined, ended⟩ := declined_ended
  obtain ⟨row, found, wasDeclined⟩ := Option.map_eq_some_iff.mp declined
  obtain ⟨next, after, isEnded⟩ := Option.map_eq_some_iff.mp ended
  obtain ⟨other, same, follows⟩ := outcomes.follows turn member 0 row found
  obtain rfl := Option.some.inj (after.symm.trans same)
  rw [wasDeclined, isEnded] at follows
  rcases follows with ⟨⟨⟩⟩ | ⟨⟨⟩⟩

end DeclinedCall

end Armada.Communication
