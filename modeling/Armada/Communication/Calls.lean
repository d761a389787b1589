import Armada.Communication.Handlers

/-!
# What a step does to a call

A step creates a pending call, answers or expires one that is pending, ends one whatever its
state, or leaves it as it is. What holds of calls in every run follows from these moves.
-/

namespace Armada.Communication

open Relational Concurrency
open Auth (UuidSpelling spelled)
open CallSessionService

/-! ## Updates of a session -/

/-- What is found after a call is inserted. -/
theorem Db.session?_insert {db : Db} {row : RealtimeSession} {id : Uuid} :
    (Write.apply (.createSession row) db).session? id =
      (db.session? id).or (if row.id = id then some row else none) :=
  Table.find?_insert db.sessions row id

/-- What is found after a call is updated. -/
theorem Db.session?_update {db : Db} {id other : Uuid} {change : SessionChange} :
    (Write.apply (.updateSession id change) db).session? other =
      if other = id then (db.session? id).map fun row => change.apply row
      else db.session? other := by
  change (db.sessions.modify id fun row => change.apply row).find? other = _
  rw [Table.find?_modify _ _ _ fun row => SessionChange.id_apply row change]
  split
  · rename_i same
    rw [same]
    rfl
  · rfl

/-- A call is found under its own id. -/
theorem Db.id_of_session? {db : Db} {id : Uuid} {row : RealtimeSession}
    (found : db.session? id = some row) : row.id = id :=
  Table.key_of_find? found

/-- A write to something else than the sessions. -/
def Write.sparesSessions : Write → Bool
  | .createSession _ => false
  | .updateSession _ _ => false
  | _ => true

/-- Writes that spare the calls leave them. -/
theorem sessions_applyAll {writes : List Write}
    (spared : ∀ write ∈ writes, write.sparesSessions = true) (db : Db) :
    (communication.applyAll writes db).sessions = db.sessions := by
  induction writes generalizing db with
  | nil => rfl
  | cons write writes inductionHypothesis =>
      obtain ⟨first, others⟩ := List.forall_mem_cons.mp spared
      refine (inductionHypothesis others (Write.apply write db)).trans ?_
      cases write with
      | createSession row => cases first
      | updateSession id change => cases first
      | _ => rfl

/-- Quiet writes do. -/
theorem Write.sparesSessions_of_quiet {write : Write} (quiet : write.quiet = true) :
    write.sparesSessions = true := by
  cases write with
  | createSession row => cases quiet
  | updateSession id change => cases quiet
  | _ => rfl

/-- So every call is found as it was. -/
theorem session?_of_spared {turn : Turn communication}
    (spared : ∀ write ∈ turn.writes, write.sparesSessions = true) (id : Uuid) :
    turn.after.session? id = turn.before.session? id := by
  rw [Db.session?, Turn.after, sessions_applyAll spared]
  rfl

/-! ## Moves -/

variable [UuidSpelling]

/-- A turn changes the session with an id from one row to another. -/
structure Changes (turn : Turn communication) (sessionId : String) (id : Uuid)
    (row : RealtimeSession) (change : SessionChange) : Prop where
  spelled : UuidText.parse sessionId = some id
  found : turn.before.session? id = some row
  after : turn.after.session? id = some (change.apply row)

/-- What a turn does to the session with an id. -/
inductive Moves (request : Request) (history : List (Turn communication))
    (turn : Turn communication) (id : Uuid) : Prop where
  | stays (same : turn.after.session? id = turn.before.session? id)
  | begins (row : RealtimeSession) (fresh : turn.before.session? id = none)
      (begun : turn.after.session? id = some row) (pending : row.status = .pending)
  | answers (sessionId : String) (action : CallAction) (actor : UserActor) (instant : Int)
      (row : RealtimeSession) (asked : request.Responds sessionId action actor)
      (answering : Answering sessionId actor instant history)
      (returned : turn.Returned (claim sessionId action instant) 1)
      (pending : row.status = .pending) (early : instant < row.expiresAt)
      (changes : Changes turn sessionId id row (action.change instant))
  | expires (sessionId : String) (instant : Int) (row : RealtimeSession)
      (returned : turn.Returned (expire sessionId instant) 1)
      (pending : row.status = .pending) (late : row.expiresAt ≤ instant)
      (changes : Changes turn sessionId id row .timeOut)
  | ends (sessionId : String) (instant : Int) (row : RealtimeSession)
      (performs : turn.Performs (finish sessionId instant))
      (answered : (turn.inputs 0).fault = none)
      (changes : Changes turn sessionId id row (.finish instant))

variable {turn : Turn communication}

omit [UuidSpelling] in
/-- The call after a turn that updates it. -/
theorem session?_of_updates {id other : Uuid} {row : RealtimeSession} {change : SessionChange}
    (found : turn.before.session? id = some row)
    (writes : turn.writes = [.updateSession id change]) :
    turn.after.session? other =
      if other = id then some (change.apply row) else turn.before.session? other := by
  rw [Turn.after, writes]
  refine Db.session?_update.trans ?_
  rw [found]
  rfl

/-- Such a turn changes the call, if it may be answered so. -/
theorem changes_of_updates {sessionId : String} {id : Uuid} {row : RealtimeSession}
    {change : SessionChange} (parsed : UuidText.parse sessionId = some id)
    (found : turn.before.session? id = some row)
    (writes : turn.writes = [.updateSession id change]) : Changes turn sessionId id row change where
  spelled := parsed
  found := found
  after := by rw [session?_of_updates found writes, if_pos rfl]

omit [UuidSpelling] in
/-- Other calls are found as they were. -/
theorem session?_of_updates_of_ne {id other : Uuid} {row : RealtimeSession} {change : SessionChange}
    (found : turn.before.session? id = some row)
    (writes : turn.writes = [.updateSession id change]) (different : other ≠ id) :
    turn.after.session? other = turn.before.session? other := by
  rw [session?_of_updates found writes, if_neg different]

/-- An `updateMany` that was performed changed its row, or it changed nothing. -/
theorem updateMany_ends {sessionId : String} {condition : RealtimeSession → Bool}
    {change : SessionChange}
    (performs : turn.Performs (Prisma.RealtimeSession.updateMany sessionId condition change)) :
    turn.writes = [] ∨ ∃ id row,
      turn.Returned (Prisma.RealtimeSession.updateMany sessionId condition change) 1 ∧
        UuidText.parse sessionId = some id ∧ turn.before.session? id = some row ∧
          condition row = true ∧ turn.writes = [.updateSession id change] := by
  rcases performs.ends with idle | ⟨count, succeeded⟩
  · exact .inl idle
  obtain ⟨_, id, parsed, changed | ⟨_, _, idle⟩⟩ :=
    Prisma.RealtimeSession.updateMany_succeeds.mp succeeded
  · obtain ⟨row, found, holds, rfl, writes⟩ := changed
    refine .inr ⟨id, row, ⟨performs, ?_⟩, parsed, found, holds, writes⟩
    rw [Statement.result, show _ = _ from succeeded]
    rfl
  · exact .inl idle

/-- An answer to a call that is pending and has not expired claims it. -/
theorem claim_changes {sessionId : String} {action : CallAction} {instant : Int} {id : Uuid}
    {row : RealtimeSession} (performs : turn.Performs (claim sessionId action instant))
    (answered : (turn.inputs 0).fault = none) (parsed : UuidText.parse sessionId = some id)
    (found : turn.before.session? id = some row) (pending : row.status = .pending)
    (early : instant < row.expiresAt) :
    Changes turn sessionId id row (action.change instant) := by
  have succeeded : (claim sessionId action instant).Succeeds (turn.inputs 0) turn.before 1
      [.updateSession id (action.change instant)] :=
    Prisma.RealtimeSession.updateMany_succeeds.mpr ⟨answered, id, parsed,
      .inl ⟨row, found, decide_eq_true ⟨pending, early⟩, rfl, rfl⟩⟩
  exact changes_of_updates parsed found (performs.writes_of_succeeds succeeded)

/-- A hang-up ends a call whatever its state. -/
theorem finish_changes {sessionId : String} {instant : Int} {id : Uuid} {row : RealtimeSession}
    (performs : turn.Performs (finish sessionId instant))
    (answered : (turn.inputs 0).fault = none) (parsed : UuidText.parse sessionId = some id)
    (found : turn.before.session? id = some row) :
    Changes turn sessionId id row (.finish instant) := by
  have succeeded : (finish sessionId instant).Succeeds (turn.inputs 0) turn.before _
      [.updateSession id (.finish instant)] :=
    Prisma.RealtimeSession.update_succeeds.mpr ⟨answered, id, row, parsed, found, rfl, rfl⟩
  exact changes_of_updates parsed found (performs.writes_of_succeeds succeeded)

/-- An `updateMany` that answers with one row has changed it. -/
theorem updateMany_returned {sessionId : String} {condition : RealtimeSession → Bool}
    {change : SessionChange} {id : Uuid}
    (returned : turn.Returned (Prisma.RealtimeSession.updateMany sessionId condition change) 1)
    (parsed : UuidText.parse sessionId = some id) :
    ∃ row, condition row = true ∧ Changes turn sessionId id row change := by
  obtain ⟨_, _, same, ⟨row, found, holds, _, writes⟩ | ⟨_, ⟨⟩, _⟩⟩ :=
    Prisma.RealtimeSession.updateMany_succeeds.mp returned.succeeds
  obtain rfl := Option.some.inj (parsed.symm.trans same)
  exact ⟨row, holds, changes_of_updates parsed found writes⟩

/-- A turn that spares the calls moves none. -/
theorem Moves.of_writes {request : Request} {history : List (Turn communication)}
    (spared : ∀ write ∈ turn.writes, write.sparesSessions = true) (id : Uuid) :
    Moves request history turn id :=
  .stays (session?_of_spared spared id)

/-- Every turn of a request moves calls in the way the request may. -/
theorem Allowed.moves {request : Request} {history : List (Turn communication)}
    (allowed : Allowed request history turn) (id : Uuid) : Moves request history turn id := by
  have plain : ∀ write : Write, write.sparesSessions = true → turn.writes = [write] →
      Moves request history turn id := fun write spares made =>
    .of_writes (made ▸ List.forall_mem_singleton.mpr spares) id
  cases allowed with
  | quiet quiet =>
      exact .of_writes (fun write member => Write.sparesSessions_of_quiet (quiet write member)) id
  | creates row created pending fresh =>
      have after : turn.after.session? id =
          (turn.before.session? id).or (if row.id = id then some row else none) := by
        rw [Turn.after, created]
        exact Db.session?_insert
      by_cases same : row.id = id
      · subst same
        rw [fresh, if_pos rfl, Option.none_or] at after
        exact .begins row fresh after pending
      · rw [if_neg same, Option.or_none] at after
        exact .stays after
  | claims sessionId action actor instant asked answering performs =>
      obtain idle | ⟨changed, row, returned, parsed, found, condition, writes⟩ :=
        updateMany_ends performs
      · exact .of_writes (idle ▸ List.forall_mem_nil _) id
      by_cases same : id = changed
      · subst same
        obtain ⟨pending, early⟩ := of_decide_eq_true condition
        exact .answers sessionId action actor instant row asked answering returned pending early
          (changes_of_updates parsed found writes)
      · exact .stays (session?_of_updates_of_ne found writes same)
  | expires sessionId instant performs =>
      obtain idle | ⟨changed, row, returned, parsed, found, condition, writes⟩ :=
        updateMany_ends performs
      · exact .of_writes (idle ▸ List.forall_mem_nil _) id
      by_cases same : id = changed
      · subst same
        obtain ⟨pending, late⟩ := of_decide_eq_true condition
        exact .expires sessionId instant row returned pending late
          (changes_of_updates parsed found writes)
      · exact .stays (session?_of_updates_of_ne found writes same)
  | finishes sessionId instant performs =>
      obtain idle | ⟨updated, succeeded⟩ := performs.ends
      · exact .of_writes (idle ▸ List.forall_mem_nil _) id
      obtain ⟨answered, changed, row, parsed, found, _, writes⟩ :=
        Prisma.RealtimeSession.update_succeeds.mp succeeded
      by_cases same : id = changed
      · subst same
        exact .ends sessionId instant row performs answered
          (changes_of_updates parsed found writes)
      · exact .stays (session?_of_updates_of_ne found writes same)
  | invites sessionId type driverId actor invited => exact plain _ rfl invited
  | relays kind client dto asked admitted clean performs =>
      exact plain _ rfl performs.writes
  | claimsNonce sessionId nonce performs =>
      obtain idle | ⟨_, writes⟩ := claimNonce_writes performs
      · exact .of_writes (idle ▸ List.forall_mem_nil _) id
      · exact plain _ rfl writes
  | advances kind client dto asked admitted performs =>
      obtain idle | ⟨_, writes⟩ := advanceSequence_writes performs
      · exact .of_writes (idle ▸ List.forall_mem_nil _) id
      · exact plain _ rfl writes
  | joins client room joined known => exact plain _ rfl joined
  | registers client reenters registered => exact plain _ rfl registered
  | passes elapsed passed => exact plain _ rfl passed

section Moves

variable {request : Request} {history : List (Turn communication)} {id : Uuid}

/-- A call that is active was so before, or an ACCEPT in time has made it so. -/
theorem Moves.of_active (moves : Moves request history turn id) {active : RealtimeSession}
    (found : turn.after.session? id = some active) (isActive : active.status = .active) :
    turn.before.session? id = some active ∨ ∃ sessionId actor instant row,
      request.Responds sessionId .accept actor ∧
        Answering sessionId actor instant history ∧
          turn.Returned (claim sessionId .accept instant) 1 ∧ row.status = .pending ∧
            instant < row.expiresAt ∧ Changes turn sessionId id row (.accept instant) ∧
              active = (SessionChange.accept instant).apply row := by
  cases moves with
  | stays same => exact .inl (same.symm.trans found)
  | begins row _ begun pending =>
      obtain rfl := Option.some.inj (begun.symm.trans found)
      cases pending.symm.trans isActive
  | answers sessionId action actor instant row asked answering returned pending early changes =>
      obtain rfl := Option.some.inj (changes.after.symm.trans found)
      cases action with
      | accept =>
          exact .inr ⟨sessionId, actor, instant, row, asked, answering, returned, pending, early,
            changes, rfl⟩
      | decline => cases isActive
  | expires _ _ _ _ _ _ changes =>
      obtain rfl := Option.some.inj (changes.after.symm.trans found)
      cases isActive
  | ends _ _ _ _ _ changes =>
      obtain rfl := Option.some.inj (changes.after.symm.trans found)
      cases isActive

/-- A call that is no longer pending stays as it is until it is ended. -/
theorem Moves.of_settled (moves : Moves request history turn id) {row : RealtimeSession}
    (found : turn.before.session? id = some row) (settled : row.status ≠ .pending) :
    turn.after.session? id = some row ∨
      ∃ instant, turn.after.session? id = some ((SessionChange.finish instant).apply row) := by
  cases moves with
  | stays same => exact .inl (same.trans found)
  | begins _ fresh _ _ => cases fresh.symm.trans found
  | answers _ _ _ _ _ _ _ _ pending _ changes =>
      obtain rfl := Option.some.inj (changes.found.symm.trans found)
      exact absurd pending settled
  | expires _ _ _ _ pending _ changes =>
      obtain rfl := Option.some.inj (changes.found.symm.trans found)
      exact absurd pending settled
  | ends _ instant _ _ _ changes =>
      obtain rfl := Option.some.inj (changes.found.symm.trans found)
      exact .inr ⟨instant, changes.after⟩

/-- The session with an id exists and is not pending. -/
def Settled (id : Uuid) (db : Db) : Prop :=
  ∃ row, db.session? id = some row ∧ row.status ≠ .pending

/-- A call that is settled stays so. -/
theorem Moves.settled (moves : Moves request history turn id)
    (before : Settled id turn.before) : Settled id turn.after := by
  obtain ⟨row, found, settled⟩ := before
  obtain same | ⟨instant, ended⟩ := moves.of_settled found settled
  · exact ⟨row, same, settled⟩
  · exact ⟨_, ended, nofun⟩

/-- The session with an id has these parties. -/
def Between (id ownerId driverId : Uuid) (db : Db) : Prop :=
  ∃ row, db.session? id = some row ∧ row.ownerId = ownerId ∧ row.driverId = driverId

/-- No step changes the parties of a call. -/
theorem Moves.between (moves : Moves request history turn id) {ownerId driverId : Uuid}
    (before : Between id ownerId driverId turn.before) : Between id ownerId driverId turn.after := by
  obtain ⟨row, found, rfl, rfl⟩ := before
  have changed : ∀ {sessionId old change}, Changes turn sessionId id old change →
      Between id row.ownerId row.driverId turn.after := by
    intro sessionId old change changes
    obtain rfl := Option.some.inj (changes.found.symm.trans found)
    refine ⟨_, changes.after, ?_, ?_⟩
    · cases change <;> rfl
    · cases change <;> rfl
  cases moves with
  | stays same => exact ⟨row, same.trans found, rfl, rfl⟩
  | begins _ fresh => cases fresh.symm.trans found
  | answers _ _ _ _ _ _ _ _ _ _ changes => exact changed changes
  | expires _ _ _ _ _ _ changes => exact changed changes
  | ends _ _ _ _ _ changes => exact changed changes

end Moves

/-! ## Runs -/

/-- In every run each turn moves calls as its request may. -/
theorem moves_of_turns {all : List Request} {db : Db} {trace : List (Turn communication)}
    {final : Pool communication (Option RealtimeSession)}
    (turns : (requests all db).Turns trace final) (id : Uuid) :
    ∀ first turn rest, trace = first ++ turn :: rest →
      ∃ request, all[turn.thread]? = some request ∧
        Moves request (Pool.own first turn.thread) turn id := by
  intro first turn rest split
  obtain ⟨request, here, allowed⟩ := lawful_of_turns turns first turn rest split
  exact ⟨request, here, allowed.moves id⟩

/-- The same for a turn of which only the run is known. -/
theorem moves_of_mem {all : List Request} {db : Db} {trace : List (Turn communication)}
    {final : Pool communication (Option RealtimeSession)}
    (turns : (requests all db).Turns trace final) (member : turn ∈ trace) (id : Uuid) :
    ∃ request history, all[turn.thread]? = some request ∧ Moves request history turn id := by
  obtain ⟨first, rest, split⟩ := List.append_of_mem member
  obtain ⟨request, here, moves⟩ := moves_of_turns turns id first turn rest split
  exact ⟨request, _, here, moves⟩

end Armada.Communication
