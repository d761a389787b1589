import Armada.Sessions.Effects

/-!
# The cap of concurrent sessions

A login that is not a driver's counts the sessions of its user, evicts all but four of them,
and inserts, in steps of their own. The evictions make room for one session more, so the cap of
five is kept as long as other logins do not use that room up between a count and the `INSERT`
that follows it; whatever else happens, rotations among it, keeps it.
-/

namespace Armada.Auth

open Relational Concurrency Proc

/-- The `INSERT` of a login, for a user. -/
def InsertsFor (userId : Uuid) (deed : Deed accounts) : Prop :=
  ∃ row, deed.writes = [Write.createSession row] ∧ row.userId = userId

/-- In every state that a run has reached the user has at most five sessions. -/
def Capped (userId : Uuid) (trace : List (Deed accounts)) : Prop :=
  ∀ deed ∈ trace, (unrevoked deed.after userId).length ≤ 5

section Steps

variable [UuidSpelling] {deed : Deed accounts} {userId : Uuid}

omit [UuidSpelling] in
/-- An exchange leaves no more sessions than there were. -/
theorem length_exchange {db : Accounts} {old row : Session} {refreshedAt : Instant}
    (found : db.session? old.id = some old) (isUnrevoked : old.isRevoked = false)
    (inserted : Inserted db row) (sameUser : row.userId = old.userId) :
    (unrevoked (db.commit [.revokeSession old.id (some refreshedAt), .createSession row])
      userId).length ≤ (unrevoked db userId).length := by
  by_cases own : row.userId = userId
  · have member : old.id ∈ unrevoked db userId :=
      mem_unrevoked.mpr ⟨old, found, sameUser.symm.trans own, isUnrevoked⟩
    have within :
        unrevoked (db.commit [.revokeSession old.id (some refreshedAt), .createSession row])
        userId ⊆ row.id :: (unrevoked db userId).erase old.id := by
      intro id isMember
      rcases (mem_unrevoked_exchange inserted).mp isMember with ⟨earlier, different⟩ | ⟨rfl, _⟩
      · exact List.mem_cons_of_mem _ ((List.mem_erase_of_ne different).mpr earlier)
      · exact List.mem_cons_self
    have bound := length_unrevoked_le within
    have positive := List.length_pos_of_mem member
    rw [List.length_cons, List.length_erase_of_mem member] at bound
    omega
  · refine length_unrevoked_le fun id isMember => ?_
    rcases (mem_unrevoked_exchange inserted).mp isMember with ⟨earlier, _⟩ | ⟨_, same⟩
    · exact earlier
    · exact absurd same own

/-- A step that is not the `INSERT` of a login leaves no more sessions than there were, or
it is a takeover and leaves one. -/
theorem length_after (effect : SessionEffect deed.before deed.writes)
    (other : ¬InsertsFor userId deed) :
    (unrevoked deed.after userId).length ≤ (unrevoked deed.before userId).length ∨
      (unrevoked deed.after userId).length ≤ 1 := by
  obtain ⟨thread, before, writes⟩ := deed
  rw [Accounts.after_whole]
  dsimp only at effect ⊢
  cases effect with
  | quiet none =>
      exact .inl (length_unrevoked_le (unrevoked_of_opensNone none))
  | @insert row inserted =>
      refine .inl (length_unrevoked_le fun id member => ?_)
      rcases (mem_unrevoked_insert inserted.fresh inserted.unrevoked).mp member with
        earlier | ⟨_, same⟩
      · exact earlier
      · exact absurd ⟨row, rfl, same⟩ other
  | @takeOver marks row marked inserted =>
      by_cases own : row.userId = userId
      · have alone : unrevoked (before.commit (marks ++ Prisma.Session.revocations none
            (Prisma.Session.selected (activeSessionsOf row.userId) before) ++ [.createSession row]))
            userId ⊆ [row.id] := by
          intro id member
          rcases unrevoked_takeOver marked inserted member with ⟨rfl, _⟩ | ⟨different, _⟩
          · exact List.mem_singleton_self _
          · exact absurd own different
        exact .inr (length_unrevoked_le alone)
      · refine .inl (length_unrevoked_le fun id member => ?_)
        rcases unrevoked_takeOver marked inserted member with ⟨_, same⟩ | ⟨_, earlier⟩
        · exact absurd same own
        · exact earlier
  | exchange found isUnrevoked inserted sameUser _ _ =>
      exact .inl (length_exchange found isUnrevoked inserted sameUser)

/-- The `INSERT` of a login adds one. -/
theorem length_after_insert (effect : SessionEffect deed.before deed.writes)
    (inserts : InsertsFor userId deed) :
    (unrevoked deed.after userId).length = (unrevoked deed.before userId).length + 1 := by
  obtain ⟨thread, before, writes⟩ := deed
  obtain ⟨row, rfl, same⟩ := inserts
  rw [Accounts.after_whole]
  have inserted : Inserted before row := by
    dsimp only at effect
    generalize written : [Write.createSession row] = writes at effect
    cases effect with
    | quiet none => exact (none (.createSession row) (written ▸ List.mem_singleton_self _)).elim
    | insert inserted =>
        cases written
        exact inserted
    | takeOver marked inserted =>
        have last := congrArg List.getLast? written
        simp only [List.getLast?_singleton, List.getLast?_append, Option.some_or, Option.some.injEq,
          Write.createSession.injEq] at last
        exact last ▸ inserted
    | exchange found isUnrevoked inserted => cases written
  have step : ∀ id, id ∈ unrevoked (before.commit [.createSession row]) userId ↔
      id ∈ row.id :: unrevoked before userId := by
    intro id
    rw [mem_unrevoked_insert inserted.fresh inserted.unrevoked, List.mem_cons]
    simp [same, or_comm]
  have absent : row.id ∉ unrevoked before userId := by
    intro member
    obtain ⟨old, found, _⟩ := mem_unrevoked.mp member
    cases found.symm.trans inserted.fresh
  exact ((List.perm_ext_iff_of_nodup (nodup_unrevoked _ _)
    (List.nodup_cons.mpr ⟨absent, nodup_unrevoked _ _⟩)).mpr step).length_eq

end Steps

/-! ## What a login has done before it inserts -/

/-- The count of a login: the sessions of its user that are not revoked. -/
def countOf (userId : Uuid) : Statement accounts.whole (List Session) :=
  (Prisma.Session.findOldestFirst (activeSessionsOf userId)).whole

/-- The turn revokes the session. -/
def Revokes (turn : Concurrency.Turn accounts.whole) (id : Uuid) : Prop :=
  ∃ lastRefreshedAt, Write.revokeSession id lastRefreshedAt ∈ turn.writes

/-- After a count all that were counted have been revoked, but for at most four. -/
def Evicted (userId : Uuid) (count : Concurrency.Turn accounts.whole)
    (later : List (Concurrency.Turn accounts.whole)) : Prop :=
  ∃ kept : List Uuid, kept.length ≤ min (unrevoked count.before userId).length 4 ∧
    ∀ id ∈ unrevoked count.before userId, id ∈ kept ∨ ∃ turn ∈ later, Revokes turn id

/-- A login for the user inserts where nothing is, or after a count and its evictions. -/
def InsertsAfterCount (userId : Uuid) (history : List (Concurrency.Turn accounts.whole))
    (turn : Concurrency.Turn accounts.whole) : Prop :=
  InsertsFor userId turn.commit → unrevoked turn.before userId = [] ∨
    ∃ early count later, history = early ++ count :: later ∧ count.Performs (countOf userId) ∧
      Evicted userId count later

section Services

variable [UuidSpelling] {thread : Nat} {userId : Uuid}

/-- The discipline under which a login inserts only after its count. -/
abbrev afterCount (userId : Uuid) (thread : Nat) :
    Discipline accounts (List (Concurrency.Turn accounts.whole)) :=
  (Discipline.turns (fun _ => True) thread (InsertsAfterCount userId)).ofWhole Write.durable

omit [UuidSpelling] in
/-- A turn that opens no session inserts none. -/
theorem InsertsAfterCount.of_opensNone (history : List (Concurrency.Turn accounts.whole))
    (turn : Concurrency.Turn accounts.whole) (none : ∀ write ∈ turn.writes, write.OpensNone) :
    InsertsAfterCount userId history turn := by
  rintro ⟨row, one, _⟩
  refine (none (.createSession row) ?_).elim
  rw [show turn.writes = _ from one]
  exact List.mem_singleton_self _

omit [UuidSpelling] in
/-- The discipline asks nothing of quiet statements. -/
theorem quiet_afterCount : Quiet (afterCount userId thread) :=
  fun confined => confined.wholly InsertsAfterCount.of_opensNone

omit [UuidSpelling] in
/-- A transaction, by what it commits. -/
theorem transact_afterCount {β : Type} {body : Txn accounts β}
    (committed : ∀ before, body.Yields (fun _ writes => ∀ history turn, turn.before = before →
      turn.writes = writes → InsertsAfterCount userId history turn) before []) :
    (transact body).Commits (afterCount userId thread) := by
  intro history
  rw [meets_transact]
  refine fun inputs before _ => ⟨?_, trivial⟩
  rcases (committed before).leaves Write.durable (inputs 0) with ⟨_, _, kept⟩ | ⟨_, _, made⟩
  · exact .of_opensNone _ _ fun write member => Write.opensNone_of_durable (kept write member)
  · exact made _ _ rfl rfl

omit [UuidSpelling] in
/-- A process that makes no session does not undo what has been done. -/
theorem grows_of_opensNone {α : Type} {process : Proc accounts α}
    (confined : process.Confined Write.OpensNone)
    (history : List (Concurrency.Turn accounts.whole)) :
    process.Meets (afterCount userId thread) (fun _ current => history <+: current) history := by
  have met : process.Meets (afterCount userId thread) (fun _ _ => True) history :=
    quiet_afterCount confined history
  exact (meets_whole.mp (meets_whole.mpr met).grows).weaken fun _ _ reached => reached.1

/-- An eviction that goes through has revoked its session. -/
theorem evict_meets (session : Session) (history : List (Concurrency.Turn accounts.whole)) :
    (SessionService.evict session).Meets (afterCount userId thread)
      (OnResult (fun _ current => ∃ later, current = history ++ later ∧
        ∃ turn ∈ later, Revokes turn session.id) fun _ _ => True) history := by
  rw [SessionService.evict, meets_bind]
  refine meets_asked (fun turn error _ idle => ⟨.of_opensNone _ _ ?_, trivial⟩)
    fun turn value _ executed => ?_
  · rw [idle]
    exact List.forall_mem_nil _
  obtain ⟨key, row, named, _, wrote⟩ := Prisma.Session.update_succeeds executed
  cases named
  refine ⟨.of_opensNone _ _ ?_, ?_⟩
  · rw [wrote]
    exact List.forall_mem_singleton.mpr trivial
  have revokes : Revokes turn session.id := ⟨none, by rw [wrote]; exact List.mem_singleton_self _⟩
  refine (grows_of_opensNone (.statement (confined_setRevocation fun _ => trivial)) _).weaken ?_
  rintro (error | _) current ⟨later, rfl⟩
  · trivial
  · exact ⟨turn :: later, by simp, turn, List.mem_cons_self, revokes⟩

/-- Evictions that go through have revoked all their sessions. -/
theorem forM_evict_meets (sessions : List Session)
    (history : List (Concurrency.Turn accounts.whole)) :
    (sessions.forM SessionService.evict).Meets (afterCount userId thread)
      (OnResult (fun _ current => ∃ later, current = history ++ later ∧
        ∀ session ∈ sessions, ∃ turn ∈ later, Revokes turn session.id) fun _ _ =>
          True) history := by
  induction sessions generalizing history with
  | nil => exact ⟨[], (List.append_nil history).symm, nofun⟩
  | cons session sessions inductionHypothesis =>
      rw [List.forM]
      refine (evict_meets session history).bind (fun _ _ _ => trivial) ?_
      rintro _ _ ⟨first, rfl, turn, member, revokes⟩
      refine (inductionHypothesis (history ++ first)).weaken ?_
      rintro (error | _) _ reached
      · trivial
      obtain ⟨later, rfl, each⟩ := reached
      refine ⟨first ++ later, List.append_assoc _ _ _, fun other isOther => ?_⟩
      rcases List.mem_cons.mp isOther with rfl | isOther
      · exact ⟨turn, List.mem_append_left _ member, revokes⟩
      · obtain ⟨last, isLast, too⟩ := each other isOther
        exact ⟨last, List.mem_append_right _ isLast, too⟩

omit [UuidSpelling] in
/-- The count of a login and its evictions leave at most four of those counted. -/
theorem evicted_of_count {count : Concurrency.Turn accounts.whole}
    {later : List (Concurrency.Turn accounts.whole)}
    {found : List Session}
    (counted : (Prisma.Session.findOldestFirst (activeSessionsOf userId)).Succeeds
      (count.inputs 0 0) count.before found count.writes)
    (revoked : ∀ session ∈ found.take (found.length - 4), ∃ turn ∈ later, Revokes turn session.id) :
    Evicted userId count later := by
  obtain ⟨_, sorted, _⟩ := Prisma.Session.findOldestFirst_succeeds.mp counted
  have perm : found.Perm (count.before.sessions.rows.filter (activeSessionsOf userId).selects) :=
    sorted ▸ List.perm_insertionSort _ _
  have same : (unrevoked count.before userId).Perm (found.map Session.id) := (perm.map _).symm
  refine ⟨(found.drop (found.length - 4)).map Session.id, ?_, fun id member => ?_⟩
  · rw [same.length_eq, List.length_map, List.length_map, List.length_drop]
    omega
  obtain ⟨session, isFound, rfl⟩ := List.mem_map.mp (same.mem_iff.mp member)
  rw [← List.take_append_drop (found.length - 4) found, List.mem_append] at isFound
  rcases isFound with evicted | kept
  · exact .inr (revoked session evicted)
  · exact .inl (List.mem_map_of_mem kept)

variable [TokenHash]

omit [UuidSpelling] in
/-- The `INSERT` of a login, after its count and its evictions. -/
theorem create_afterCount {user : Uuid} {deviceId : Except PrismaError Uuid}
    {rawRefreshToken : String}
    {tokenFamily : Uuid} {expiresAt : Instant} {history : List (Concurrency.Turn accounts.whole)}
    (counted : user = userId → ∃ early count later, history = early ++ count :: later ∧
      count.Performs (countOf userId) ∧ Evicted userId count later) :
    (liftM (Prisma.Session.create user deviceId (TokenHash.hashToken rawRefreshToken) tokenFamily
      expiresAt) : Proc accounts Session).Meets (afterCount userId thread) (fun _ _ => True)
        history := by
  refine meets_asked (fun turn error _ idle => ⟨.of_opensNone _ _ ?_, trivial⟩)
    fun turn row _ executed => ⟨?_, trivial⟩
  · rw [idle]
    exact List.forall_mem_nil _
  obtain ⟨_, _, opened, _, wrote⟩ := SessionService.opened_of_create executed
  rintro ⟨other, one, same⟩
  obtain rfl : row = other := by simpa using wrote.symm.trans one
  exact .inr (counted (opened.sameUser.symm.trans same))

/-- A login inserts after its count. -/
theorem createSession_afterCount {user : Uuid} {deviceId roleCode : String} :
    (SessionService.createSession user deviceId roleCode).Commits (afterCount userId thread) := by
  refine .bind (quiet_afterCount (.statement confined_ask)) fun generated => ?_
  dsimp only
  split
  · -- a takeover inserts and nothing else only where its user has no session
    refine transact_afterCount fun before => SessionService.takeOver_yields.mono ?_
    rintro _ _ ⟨marks, device, row, _, _, rfl, opened, _, _⟩ history turn rfl wrote ⟨other,
      one, same⟩
    obtain ⟨none, last⟩ := List.append_inj' (wrote.symm.trans one : _ ++ [_] = [] ++ [_]) rfl
    obtain rfl : row = other := by simpa using last
    obtain rfl : user = userId := opened.sameUser.symm.trans same
    have idle := (List.append_eq_nil_iff.mp none).2
    exact .inl (List.map_eq_nil_iff.mp idle)
  · intro history
    rw [meets_bind]
    refine meets_asked (fun turn error _ idle => ⟨.of_opensNone _ _ ?_, trivial⟩)
      fun count found performs executed => ⟨.of_opensNone _ _ ?_, ?_⟩
    · rw [idle]
      exact List.forall_mem_nil _
    · rw [(Prisma.Session.findOldestFirst_succeeds.mp executed).2.2]
      exact List.forall_mem_nil _
    have insert : ∀ later expiresAt, (user = userId → ∀ session ∈ found.take (found.length - 4),
        ∃ turn ∈ later, Revokes turn session.id) → (do
        let session ← Prisma.Session.create user (JsValue.string deviceId).toUuid
          (TokenHash.hashToken generated.secret) generated.uuid expiresAt
        return SessionResult.of session generated.secret : Proc accounts SessionResult).Meets
          (afterCount userId thread) (fun _ _ => True) (history ++ [count] ++ later) := by
      intro later expiresAt revoked
      refine (create_afterCount fun same => ?_).bind (fun _ _ _ => trivial) fun _ _ _ => trivial
      subst same
      exact ⟨history, count, later, by simp, performs, evicted_of_count executed (revoked rfl)⟩
    refine Meets.ite (fun many => ?_) fun few => ?_
    · refine (forM_evict_meets _ _).bind (fun _ _ _ => trivial) ?_
      rintro _ _ ⟨later, rfl, each⟩
      exact insert later _ fun _ => each
    · have none : found.length - 4 = 0 := by omega
      simpa using insert [] _ fun _ => by simp [none]

omit [UuidSpelling] in
/-- The transaction of a rotation inserts no session alone. -/
theorem exchange_afterCount (hashed : String) :
    (transact (SessionService.exchange hashed)).Commits (afterCount userId thread) := by
  refine transact_afterCount fun before => SessionService.exchange_yields.mono ?_
  rintro _ _ ⟨_, _, _, _, _, _, _, rfl, _, _⟩ history turn _ wrote ⟨_, one, _⟩
  cases wrote.symm.trans one

end Services

/-! ## What is opened in between -/

section Openings

variable {db : Accounts} {userId id : Uuid}

/-- The session that a write opens for the user. -/
def Write.openedFor (userId : Uuid) : Write → Option Uuid
  | .createSession row => if row.userId = userId then some row.id else none
  | _ => none

/-- The sessions of the user that some steps open. -/
def opened (userId : Uuid) (turns : List (Concurrency.Turn accounts.whole)) : List Uuid :=
  turns.flatMap fun turn => turn.writes.filterMap (Write.openedFor userId)

/-- The unrevoked sessions after a write. -/
theorem before_or_opened_write {write : Write}
    (member : id ∈ unrevoked (db.commit [write]) userId) :
    id ∈ unrevoked db userId ∨ write.openedFor userId = some id := by
  cases write with
  | createSession row =>
      obtain ⟨later, found, sameUser, isUnrevoked⟩ := mem_unrevoked.mp member
      rw [Accounts.commit_cons, Accounts.commit_nil, Write.session?_apply, Write.onSession] at found
      cases earlier : db.session? id with
      | some old =>
          rw [earlier, Option.some_or] at found
          cases found
          exact .inl (mem_unrevoked.mpr ⟨_, earlier, sameUser, isUnrevoked⟩)
      | none =>
          rw [earlier, Option.none_or] at found
          split at found
          · rename_i same
            cases found
            exact .inr (by simp [Write.openedFor, sameUser, same])
          · cases found
  | _ =>
      refine .inl (unrevoked_of_opensNone (fun other isOnly => ?_) member)
      rw [List.mem_singleton.mp isOnly]
      trivial

/-- Each session of the user that is there after some writes was there before, or is opened. -/
theorem before_or_opened {writes : List Write} (member : id ∈ unrevoked (db.commit writes) userId) :
    id ∈ unrevoked db userId ∨ id ∈ writes.filterMap (Write.openedFor userId) := by
  induction writes generalizing db with
  | nil => exact .inl member
  | cons write writes inductionHypothesis =>
      rw [List.mem_filterMap]
      rw [← List.singleton_append, Accounts.commit_append] at member
      rcases inductionHypothesis member with earlier | later
      · rcases before_or_opened_write earlier with before | now
        · exact .inl before
        · exact .inr ⟨write, List.mem_cons_self, now⟩
      · obtain ⟨other, isLater, opens⟩ := List.mem_filterMap.mp later
        exact .inr ⟨other, List.mem_cons_of_mem _ isLater, opens⟩

end Openings

section Runs

variable [UuidSpelling] [TokenHash] [Argon2] [JsonWebToken] {config : JwtConfig} {db : Accounts}
  {requests : List Request} {userId : Uuid}

/-- The cap is kept exactly if every login inserts where there is room. -/
theorem capped_iff {trace : List (Deed accounts)} {final : Pool accounts.whole Response}
    (steps : (Request.pool config db requests).Steps trace final)
    (initially : (unrevoked db userId).length ≤ 5) :
    Capped userId trace ↔
      ∀ deed ∈ trace, InsertsFor userId deed → (unrevoked deed.before userId).length ≤ 4 := by
  have effects := sessionEffect_of_steps steps
  constructor
  · intro capped deed member inserts
    have added := length_after_insert (effects deed member) inserts
    have bound := capped deed member
    omega
  · intro room
    have kept : ∀ deed ∈ trace, (unrevoked deed.before userId).length ≤ 5 →
        (unrevoked deed.after userId).length ≤ 5 := by
      intro deed member before
      by_cases inserts : InsertsFor userId deed
      · have added := length_after_insert (effects deed member) inserts
        have free := room deed member inserts
        omega
      · rcases length_after (effects deed member) inserts with fewer | one <;> omega
    obtain ⟨_, before⟩ := steps.invariant (fun db : Accounts => (unrevoked db userId).length ≤ 5)
      initially kept
    exact fun deed member => kept deed member (before deed member)

variable {trace : List (Concurrency.Turn accounts.whole)} {final : Pool accounts.whole Response}

/-- Whenever a login inserts, the sessions that it has let stand, of those that it counted four
at most, and those opened since its count are at most four. -/
def Spaced (userId : Uuid) (trace : List (Concurrency.Turn accounts.whole)) : Prop :=
  ∀ early count between insert rest, trace = early ++ count :: (between ++ insert :: rest) →
    count.thread = insert.thread → count.Performs (countOf userId) →
      InsertsFor userId insert.commit →
        min (unrevoked count.before userId).length 4 + (opened userId between).length ≤ 4

omit [UuidSpelling] [TokenHash] [Argon2] [JsonWebToken] in
/-- A count writes nothing. -/
theorem idle_of_count {count : Concurrency.Turn accounts.whole}
    (performs : count.Performs (countOf userId)) :
    count.writes = [] :=
  performs.idle fun _ _ _ _ counted => (Prisma.Session.findOldestFirst_succeeds.mp counted).2.2

/-- A session of the user that stands at a step after a count was counted, or opened since. -/
theorem counted_or_opened (turns : (Request.pool config db requests).Turns trace final)
    {early between rest : List (Concurrency.Turn accounts.whole)}
    {count insert : Concurrency.Turn accounts.whole}
    (split : trace = early ++ count :: (between ++ insert :: rest)) (idle : count.writes = [])
    {id : Uuid} (member : id ∈ unrevoked insert.before userId) :
    id ∈ unrevoked count.before userId ∨ id ∈ opened userId between := by
  by_contra! absent
  obtain ⟨uncounted, unopened⟩ := absent
  refine turns.reaches (fun current => id ∉ unrevoked current userId) split
    (Concurrency.Turn.after_of_idle idle ▸ uncounted) (fun other among before after => ?_) member
  rw [Concurrency.Turn.after, Signature.applyAll_whole] at after
  rcases before_or_opened after with earlier | now
  · exact before earlier
  · exact unopened (List.mem_flatMap.mpr ⟨other, among, now⟩)

/-- A session that is revoked between two steps does not stand at the second. -/
theorem not_mem_of_revokes (turns : (Request.pool config db requests).Turns trace final)
    {early between rest : List (Concurrency.Turn accounts.whole)}
    {count insert revoking : Concurrency.Turn accounts.whole}
    (split : trace = early ++ count :: (between ++ insert :: rest)) (among : revoking ∈ between)
    {id : Uuid} (counted : id ∈ unrevoked count.before userId) (revokes : Revokes revoking id) :
    id ∉ unrevoked insert.before userId := by
  obtain ⟨until_, since, rfl⟩ := List.append_of_mem among
  obtain ⟨row, found, _⟩ := mem_unrevoked.mp counted
  have known : ∃ row, Accounts.session? revoking.before id = some row := by
    refine turns.reaches (fun current => ∃ row, Accounts.session? current id = some row)
      (by simpa using split) ?_ fun other _ before => ?_
    · obtain ⟨later, foundLater, _⟩ :=
        (Accounts.extends_commit count.writes _).sessions id row found
      rw [Concurrency.Turn.after, Signature.applyAll_whole]
      exact ⟨later, foundLater⟩
    · obtain ⟨old, foundOld⟩ := before
      obtain ⟨later, foundLater, _⟩ :=
        (Accounts.extends_commit other.writes _).sessions id old foundOld
      rw [Concurrency.Turn.after, Signature.applyAll_whole]
      exact ⟨later, foundLater⟩
  have window : trace = (early ++ count :: until_) ++ revoking :: (since ++ insert :: rest) := by
    simpa using split
  have revoked : Accounts.Revoked insert.before id := by
    refine turns.reaches (fun current => Accounts.Revoked current id) window ?_
      fun other _ before => ?_
    · obtain ⟨_, foundNow⟩ := known
      obtain ⟨_, writes⟩ := revokes
      rw [Concurrency.Turn.after, Signature.applyAll_whole]
      exact Accounts.revoked_of_mem foundNow writes
    · rw [Concurrency.Turn.after, Signature.applyAll_whole]
      exact (Accounts.extends_commit other.writes _).revoked before
  intro member
  obtain ⟨later, foundLater, _, isUnrevoked⟩ := mem_unrevoked.mp member
  exact revoked.not_active ⟨later, foundLater, isUnrevoked⟩

/-- A login inserts while at most four sessions stand. -/
theorem length_before_insert (turns : (Request.pool config db requests).Turns trace final)
    (spaced : Spaced userId trace) {first rest : List (Concurrency.Turn accounts.whole)}
    {insert : Concurrency.Turn accounts.whole} (split : trace = first ++ insert :: rest)
    (inserts : InsertsFor userId insert.commit) : (unrevoked insert.before userId).length ≤ 4 := by
  have meets : ∀ (thread : Nat) process,
      (Request.pool config db requests).procs[thread]? = some process →
        process.Meets (.turns (fun _ => True) thread (InsertsAfterCount userId)) (fun _ _ => True)
          [] := by
    intro thread process found
    simp only [Request.pool, Pool.whole, List.getElem?_map, Option.map_eq_some_iff] at found
    obtain ⟨_, ⟨request, _, rfl⟩, rfl⟩ := found
    exact meets_whole.mpr (request.commits_of_openings quiet_afterCount
      (fun _ _ _ => createSession_afterCount) (fun hashed => exchange_afterCount hashed) config [])
  rcases (turns.own (fun _ _ => trivial) meets).1 first insert rest split inserts with
    none | ⟨early, count, later, own, performs, kept, few, evicted⟩
  · rw [none]
    exact Nat.zero_le 4
  obtain ⟨before, between, rfl, same, rfl⟩ := Pool.split_of_own own
  have window : trace = before ++ count :: (between ++ insert :: rest) := by simp [split]
  have room := spaced before count between insert rest window same performs inserts
  have within : unrevoked insert.before userId ⊆ kept ++ opened userId between := by
    intro id member
    refine List.mem_append.mpr ?_
    rcases counted_or_opened turns window (idle_of_count performs) member with counted | since
    · rcases evicted id counted with stands | ⟨revoking, isOwn, revokes⟩
      · exact .inl stands
      · have among := (Pool.mem_own.mp isOwn).1
        exact absurd member (not_mem_of_revokes turns window among counted revokes)
    · exact .inr since
  have bound := length_unrevoked_le within
  rw [List.length_append] at bound
  omega

/-- In every run in which logins leave each other room, the cap is kept. -/
theorem capped_of_spaced (turns : (Request.pool config db requests).Turns trace final)
    (initially : (unrevoked db userId).length ≤ 5) (spaced : Spaced userId trace) :
    Capped userId (trace.map Concurrency.Turn.commit) := by
  refine (capped_iff turns.steps initially).mpr fun deed member inserts => ?_
  obtain ⟨insert, isTurn, rfl⟩ := List.mem_map.mp member
  obtain ⟨first, rest, split⟩ := List.append_of_mem isTurn
  exact length_before_insert turns spaced split inserts

end Runs

/-! ## Two logins at the same time -/

namespace SimultaneousLogins

local instance : UuidSpelling := unarySpelling

local instance : TokenHash := plainHash

local instance : Argon2 := plainArgon2

local instance : JsonWebToken := tableTokens []

/-- An owner with four sessions. -/
def db : Accounts where
  users := LoggedIn.db.users
  devices := LoggedIn.db.devices
  sessions := [21, 22, 23, 24].foldl (fun table id => table.insert
    { LoggedIn.session with id, refreshTokenHash := toString id, tokenFamily := id }) Table.empty

def requests : List Request := [.createSession 1 "111" "OWNER", .createSession 1 "111" "OWNER"]

def pool : Pool accounts.whole Response := Request.pool {} db requests

/-- Both logins count the sessions before either inserts. -/
def schedule : List (Nat × (Nat → accounts.whole.Input)) :=
  [(0, 0), (0, 0), (1, 0), (1, 0), (0, 31), (1, 32)].map fun turn =>
    (turn.1, fun _ _ => { uuid := turn.2 })

/-- The schedule is a run. -/
theorem steps : pool.Steps (pool.play schedule).1 (pool.play schedule).2 :=
  Pool.play_steps schedule pool

/-- Six sessions are left unrevoked. -/
theorem six_sessions : ∃ deed ∈ (pool.play schedule).1, (unrevoked deed.after 1).length = 6 := by
  decide

/-- Not every run of logins and rotations keeps the cap. -/
theorem cap_exceeded :
    ¬∀ (config : JwtConfig) (db : Accounts) (requests : List Request) (trace : List (Deed accounts))
      (final : Pool accounts.whole Response) (userId : Uuid),
      (Request.pool config db requests).Steps trace final →
        (∀ request ∈ requests, (∃ user deviceId roleCode,
          request = .createSession user deviceId roleCode ∧ roleCode ≠ "DRIVER") ∨
            ∃ token, request = .rotateSession token) →
        (unrevoked db userId).length ≤ 5 → Capped userId trace := by
  intro always
  obtain ⟨deed, member, six⟩ := six_sessions
  have bound := always {} db requests _ _ 1 steps (fun request member => ?_) (by decide) deed member
  · omega
  · refine .inl ⟨1, "111", "OWNER", ?_, by decide⟩
    simpa [requests] using member

end SimultaneousLogins

/-! ## Logins that leave each other room -/

namespace SpacedLogins

local instance : UuidSpelling := unarySpelling

local instance : TokenHash := plainHash

local instance : Argon2 := plainArgon2

local instance : JsonWebToken := tableTokens []

/-- An owner with three sessions. -/
def db : Accounts where
  users := LoggedIn.db.users
  devices := LoggedIn.db.devices
  sessions := [21, 22, 23].foldl (fun table id => table.insert
    { LoggedIn.session with id, refreshTokenHash := toString id, tokenFamily := id }) Table.empty

def requests : List Request :=
  [.createSession 1 "111" "OWNER", .createSession 1 "111" "OWNER", .createSession 1 "111" "OWNER"]

def pool : Pool accounts.whole Response := Request.pool {} db requests

/-- Two logins count three sessions each before either inserts; the third counts five, and
evicts one of them. -/
def schedule : List (Nat × (Nat → accounts.whole.Input)) :=
  [(0, 0), (0, 0), (1, 0), (1, 0), (0, 31), (1, 32), (2, 0), (2, 0), (2, 0), (2, 0), (2, 33)].map
    fun turn => (turn.1, fun _ _ => { uuid := turn.2 })

def run : List (Concurrency.Turn accounts.whole) × Pool accounts.whole Response :=
    pool.perform schedule

/-- The condition, for a count and an insert at these positions. -/
def spacedAt (first second : Nat) : Bool :=
  match run.1[first]?, run.1[second]? with
  | some count, some insert =>
      count.thread ≠ insert.thread ∨ insert.writes.filterMap (Write.openedFor 1) = [] ∨
        min (unrevoked count.before 1).length 4 +
          (opened 1 ((run.1.drop (first + 1)).take (second - first - 1))).length ≤ 4
  | _, _ => true

/-- The logins of the schedule are spaced. -/
theorem all_spaced : ∀ second < 11, ∀ first < second, spacedAt first second = true := by decide

/-- So they are in the run. -/
theorem spaced : Spaced 1 run.1 := by
  intro early count between insert rest split same _ ⟨row, wrote, user⟩
  have bound : (early ++ count :: (between ++ insert :: rest)).length = 11 :=
    split ▸ (by decide : run.1.length = 11)
  simp only [List.length_append, List.length_cons] at bound
  have holds := all_spaced ((early ++ [count]) ++ between).length
    (by simp only [List.length_append, List.length_cons, List.length_nil]; omega) early.length
    (by simp only [List.length_append, List.length_cons, List.length_nil]; omega)
  have whole : run.1 = ((early ++ [count]) ++ between) ++ insert :: rest := by simp [split]
  have isCount : run.1[early.length]? = some count := by simp [split]
  have isInsert : run.1[((early ++ [count]) ++ between).length]? = some insert := by
    rw [whole, List.getElem?_append_right le_rfl, Nat.sub_self]
    rfl
  have isBetween : (run.1.drop (early.length + 1)).take
      (((early ++ [count]) ++ between).length - early.length - 1) = between := by
    have ahead : run.1.drop (early.length + 1) = between ++ insert :: rest := by
      rw [whole, List.append_assoc]
      exact List.drop_left' (by simp)
    rw [ahead]
    exact List.take_left' (by simp)
  have made : insert.writes.filterMap (Write.openedFor 1) = [row.id] := by
    rw [show insert.writes = [.createSession row] from wrote]
    simp [Write.openedFor, user]
  simp only [spacedAt, isCount, isInsert, isBetween, same, made] at holds
  simpa using holds

/-- Five sessions are left at most. -/
theorem capped_of_spaced_logins : Capped 1 (run.1.map Concurrency.Turn.commit) :=
  capped_of_spaced (Pool.perform_turns schedule pool) (by decide) spaced

end SpacedLogins

end Armada.Auth
