import Armada.Communication.Calls

/-!
# Consent of the driver

A call becomes active when a participant accepts it, and everything that is relayed for it comes
after that. The caller and every admin are participants too, so it is the driver who accepts
exactly if none of them does in time.
-/

namespace Armada.Communication

open Relational Concurrency
open Auth (UuidSpelling spelled)
open Communication.RealtimeGateway CallSessionService

section Runs

variable [UuidSpelling]

/-! ## Becoming active -/

/-- The session with an id is active. -/
def Active (id : Uuid) (db : Db) : Prop :=
  ∃ row, db.session? id = some row ∧ row.status = .active

/-- A turn makes the session with an id active. -/
def Activates (id : Uuid) (turn : Turn communication) : Prop :=
  ¬Active id turn.before ∧ Active id turn.after

/-- A turn belongs to a request of the driver of the session to accept it. -/
def ByDriver (all : List Request) (id : Uuid) (turn : Turn communication) : Prop :=
  ∃ request sessionId actor row, all[turn.thread]? = some request ∧
    request.Responds sessionId .accept actor ∧ UuidText.parse sessionId = some id ∧
      turn.after.session? id = some row ∧ actor.driverId = some row.driverId

/-- A signal for the session with an id is relayed. -/
def RelaysFor (id : Uuid) (turn : Turn communication) : Prop :=
  ∃ room kind sessionId seq nonce body actor, UuidText.parse sessionId = some id ∧
    .emit ⟨room, .signal kind sessionId seq nonce body, actor⟩ ∈ turn.writes

/-- Calls become active, and signals are relayed, only after their driver has accepted. -/
structure Consented (all : List Request) (trace : List (Turn communication)) : Prop where
  accepted : ∀ turn ∈ trace, ∀ id, Activates id turn → ByDriver all id turn
  relayed : ∀ first turn rest, trace = first ++ turn :: rest → ∀ id, RelaysFor id turn →
    ∃ acceptance ∈ first, Activates id acceptance ∧ ByDriver all id acceptance

/-- Whoever runs the UPDATE of an ACCEPT while the call is pending and has not expired is its
driver. -/
def OnlyDriversInTime (all : List Request) (trace : List (Turn communication)) : Prop :=
  ∀ turn ∈ trace, ∀ request sessionId actor instant, all[turn.thread]? = some request →
    request.Responds sessionId .accept actor → turn.Performs (claim sessionId .accept instant) →
      (turn.inputs 0).fault = none → ∀ id row, UuidText.parse sessionId = some id →
        turn.before.session? id = some row → row.status = .pending → instant < row.expiresAt →
          actor.driverId = some row.driverId

variable {request : Request} {history : List (Turn communication)} {turn : Turn communication}
  {id : Uuid}

omit [UuidSpelling] in
/-- A request answers at most one call, with one action and for one actor. -/
theorem Request.Responds.unique {sessionId other : String} {action otherAction : CallAction}
    {actor otherActor : UserActor} (responds : request.Responds sessionId action actor)
    (again : request.Responds other otherAction otherActor) :
    sessionId = other ∧ action = otherAction ∧ actor = otherActor := by
  cases responds with
  | overRest => cases again with
    | overRest => exact ⟨rfl, rfl, rfl⟩
  | overSocket => cases again with
    | overSocket => exact ⟨rfl, rfl, rfl⟩

/-- A pending call that an ACCEPT claims is activated. -/
theorem Changes.activates {sessionId : String} {row : RealtimeSession} {instant : Int}
    (changes : Changes turn sessionId id row (.accept instant)) (pending : row.status = .pending) :
    Activates id turn := by
  refine ⟨?_, _, changes.after, rfl⟩
  rintro ⟨other, same, active⟩
  obtain rfl := Option.some.inj (changes.found.symm.trans same)
  cases pending.symm.trans active

/-- Only an ACCEPT that finds the call pending and early activates it. -/
theorem Moves.of_activates (moves : Moves request history turn id)
    (activates : Activates id turn) :
    ∃ sessionId actor instant row, request.Responds sessionId .accept actor ∧
      turn.Returned (claim sessionId .accept instant) 1 ∧ row.status = .pending ∧
        instant < row.expiresAt ∧ Changes turn sessionId id row (.accept instant) := by
  obtain ⟨inactive, active, found, isActive⟩ := activates
  obtain same | ⟨sessionId, actor, instant, row, asked, _, returned, pending, early, changes, _⟩ :=
    moves.of_active found isActive
  · exact absurd ⟨active, same, isActive⟩ inactive
  · exact ⟨sessionId, actor, instant, row, asked, returned, pending, early, changes⟩

/-- A signal is relayed by a request that has seen the call active. -/
theorem Allowed.of_relaysFor (allowed : Allowed request history turn)
    (relays : RelaysFor id turn) : ∃ look ∈ history, Active id look.before := by
  obtain ⟨room, kind, sessionId, seq, nonce, body, actor, parsed, sent⟩ := relays
  obtain quiet | ⟨write, made, due⟩ := allowed.written
  · cases quiet _ sent
  rw [made] at sent
  obtain rfl := List.mem_singleton.mp sent
  obtain ⟨_, _, _, _, ⟨⟩⟩ | ⟨_, client, dto, _, admitted, _, _, same⟩ := due
  obtain rfl : sessionId = dto.sessionId := by
    injection congrArg Emission.event same
  obtain ⟨look, past, session, returned, _, active, _⟩ := admitted.active
  obtain ⟨_, _, uuid, spelledAs, found⟩ := lookup_succeeds.mp returned.succeeds
  obtain rfl := Option.some.inj (parsed.symm.trans spelledAs)
  exact ⟨look, past, session, found.symm, active⟩

variable {all : List Request} {db : Db} {trace : List (Turn communication)}
  {final : Pool communication (Option RealtimeSession)}

/-- A call that is active was made so by a turn of the run. -/
theorem activated_of_active (turns : (requests all db).Turns trace final)
    (inactive : ¬Active id db) {first rest : List (Turn communication)}
    (split : trace = first ++ turn :: rest) (active : Active id turn.before) :
    ∃ activation ∈ first, Activates id activation := by
  obtain ⟨linked, _⟩ := turns.split split
  obtain ⟨_, commit, _, split, before, after, _⟩ := linked.since inactive active
  have member : commit ∈ first.map Turn.commit := split ▸ by simp
  obtain ⟨activation, among, rfl⟩ := List.mem_map.mp member
  exact ⟨activation, among, before, after⟩

/-- In every run of any requests from a start without active calls, calls become active and
signals are relayed only after their driver has accepted, exactly if no one else runs the UPDATE
of an ACCEPT while the call is pending and has not expired. -/
theorem consented_iff (turns : (requests all db).Turns trace final)
    (inactive : ∀ id, ¬Active id db) :
    Consented all trace ↔ OnlyDriversInTime all trace := by
  constructor
  · intro consented turn member request sessionId actor instant here responds performs answered id
      row parsed found pending early
    have changes := claim_changes performs answered parsed found pending early
    obtain ⟨other, _, _, _, same, again, _, after, drives⟩ :=
      consented.accepted turn member id (changes.activates pending)
    obtain rfl := Option.some.inj (here.symm.trans same)
    obtain ⟨_, _, rfl⟩ := responds.unique again
    obtain rfl := Option.some.inj (changes.after.symm.trans after)
    exact drives
  · intro drivers
    have accepted : ∀ turn ∈ trace, ∀ id, Activates id turn → ByDriver all id turn := by
      intro turn member id activates
      obtain ⟨request, history, here, moves⟩ := moves_of_mem turns member id
      obtain ⟨sessionId, actor, instant, row, asked, returned, pending, early, changes⟩ :=
        moves.of_activates activates
      obtain ⟨answered, _⟩ :=
        Prisma.RealtimeSession.updateMany_succeeds.mp returned.succeeds
      exact ⟨request, sessionId, actor, _, here, asked, changes.spelled, changes.after,
        drivers turn member request sessionId actor instant here asked returned.1 answered id row
          changes.spelled changes.found pending early⟩
    constructor
    · exact accepted
    · intro first turn rest split id relays
      obtain ⟨request, _, allowed⟩ := lawful_of_turns turns first turn rest split
      obtain ⟨look, past, active⟩ := allowed.of_relaysFor relays
      obtain ⟨earlier, later, rfl⟩ := List.append_of_mem (Pool.mem_own.mp past).1
      have splitLook : trace = earlier ++ look :: (later ++ turn :: rest) := by
        rw [split, List.append_assoc, List.cons_append]
      obtain ⟨activation, among, activates⟩ :=
        activated_of_active turns (inactive id) splitLook active
      have inTrace : activation ∈ trace := splitLook ▸ List.mem_append_left _ among
      exact ⟨activation, List.mem_append_left _ among, activates,
        accepted activation inTrace id activates⟩

/-- The checks of an answer let the driver pass, its caller and admins. So the condition is met
where neither an admin nor the owner of a call accepts it. -/
theorem onlyDriversInTime_of_strangers (turns : (requests all db).Turns trace final)
    (strangers : ∀ request ∈ all, ∀ sessionId actor, request.Responds sessionId .accept actor →
      actor.role ≠ "ADMIN" ∧ actor.role ≠ "SUPER_ADMIN" ∧
        ∀ id, UuidText.parse sessionId = some id → ∀ turn ∈ trace, ∀ row,
          turn.before.session? id = some row → spelled row.ownerId ≠ actor.userId) :
    OnlyDriversInTime all trace := by
  intro turn member request sessionId actor instant here responds performs answered id row parsed
    found pending early
  have changes := claim_changes performs answered parsed found pending early
  obtain ⟨first, rest, split⟩ := List.append_of_mem member
  obtain ⟨other, same, moves⟩ := moves_of_turns turns id first turn rest split
  obtain rfl := Option.some.inj (here.symm.trans same)
  obtain before | ⟨_, _, _, _, asked, answering, _⟩ := moves.of_active changes.after rfl
  · exact absurd ⟨_, before, rfl⟩ (changes.activates pending).1
  obtain ⟨rfl, _, rfl⟩ := responds.unique asked
  -- what was read of the parties when they were checked is still so
  obtain ⟨look, past, session, looked, participates⟩ := answering.participant
  obtain ⟨_, _, uuid, spelledAs, read⟩ := lookup_succeeds.mp looked.succeeds
  obtain rfl := Option.some.inj (parsed.symm.trans spelledAs)
  obtain ⟨earlier, later, rfl⟩ := List.append_of_mem (Pool.mem_own.mp past).1
  have atLook : trace = earlier ++ look :: (later ++ turn :: rest) := by simp [split]
  have keeps : ∀ other ∈ trace, Between id session.ownerId session.driverId other.before →
      Between id session.ownerId session.driverId other.after := by
    intro other among before
    obtain ⟨_, _, _, moves⟩ := moves_of_mem turns among id
    exact moves.between before
  have lookInTrace : look ∈ trace := by simp [atLook]
  obtain ⟨current, foundNow, _, driver⟩ := turns.reaches (Between id session.ownerId session.driverId)
    atLook (keeps look lookInTrace ⟨session, read.symm, rfl, rfl⟩)
    fun other among => keeps other (by simp [atLook, among])
  obtain rfl := Option.some.inj (found.symm.trans foundNow)
  obtain ⟨notAdmin, notSuperAdmin, notOwner⟩ :=
    strangers request (List.mem_of_getElem? here) sessionId actor responds
  have notOwner := notOwner id parsed look lookInTrace session read.symm
  have drives : actor.driverId = some session.driverId := by
    simpa [isAuthorizedParticipant, notAdmin, notSuperAdmin, notOwner] using participates
  rw [drives, driver]

end Runs

/-! ### A caller who answers -/

namespace AnsweringCaller

local instance : UuidSpelling := letterSpelling

/-- An ACCEPT of the session over REST. -/
def accepting (actor : UserActor) : List Request := [.respond "a" .accept actor]

def answeredRun (actor : UserActor) :
    List (Turn communication) × Pool communication (Option RealtimeSession) :=
  (requests (accepting actor) ringing).perform (inOrder (List.replicate 6 0))

/-- The ringing session is not active. -/
theorem inactive_ringing (id : Uuid) : ¬Active id ringing := by
  rintro ⟨row, found, active⟩
  have member := Table.mem_of_find? found
  have pending : ∀ row ∈ ringing.sessions.rows, row.status = .pending := by decide +kernel
  cases (pending row member).symm.trans active

/-- The driver answers. -/
theorem consented_iff_driver :
    let answer : UserActor := ⟨spelled 3, "DRIVER", some 2⟩
    Consented (accepting answer) (answeredRun answer).1 ↔
      OnlyDriversInTime (accepting answer) (answeredRun answer).1 :=
  consented_iff (Pool.perform_turns _ _) inactive_ringing

/-- The owner who calls. -/
def caller : UserActor := ⟨spelled 1, "OWNER", none⟩

/-- The caller's own answer activates it. -/
theorem caller_activates : ∃ turn ∈ (answeredRun caller).1,
    (turn.before.session? 0).map RealtimeSession.status = some .pending ∧
      (turn.after.session? 0).map RealtimeSession.status = some .active ∧ turn.thread = 0 := by
  decide +kernel

/-- The caller accepts its own call. -/
theorem consent_missing :
    ¬∀ (all : List Request) (db : Db) (trace : List (Turn communication))
        (final : Pool communication (Option RealtimeSession)),
      (∀ id, ¬Active id db) → (requests all db).Turns trace final → Consented all trace := by
  intro claimed
  have consented := claimed (accepting caller) ringing (answeredRun caller).1 (answeredRun caller).2
    inactive_ringing (Pool.perform_turns _ _)
  obtain ⟨turn, member, before, after, first⟩ := caller_activates
  obtain ⟨row, found, pending⟩ := Option.map_eq_some_iff.mp before
  obtain ⟨next, foundAfter, active⟩ := Option.map_eq_some_iff.mp after
  have activates : Activates 0 turn := by
    refine ⟨?_, next, foundAfter, active⟩
    rintro ⟨other, same, isActive⟩
    obtain rfl := Option.some.inj (found.symm.trans same)
    cases pending.symm.trans isActive
  obtain ⟨request, sessionId, actor, _, here, responds, _, _, drives⟩ :=
    consented.accepted turn member 0 activates
  rw [first] at here
  obtain rfl : Request.respond "a" .accept caller = request := Option.some.inj here
  cases responds
  cases drives

end AnsweringCaller

end Armada.Communication
