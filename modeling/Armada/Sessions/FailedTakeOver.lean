import Armada.Auth.Entitlement
import Armada.Auth.Footprint
import Armada.Sessions.Transactions

/-!
# What a failed takeover leaves

The transaction of a driver's login sets the markers of the old sessions in Redis before it
ends them in the database. When it is rolled back the sessions are as they were; the markers
stay. It sets either all of them or none: the two statements before the loop may fail, the
loop cannot.
-/

namespace Armada.Auth

open Relational Concurrency

/-! ## Markers -/

/-- A mark covers its own key until it expires. -/
theorem Accounts.isRevoked_setRevocation {db : Accounts} {key other : RevocationKey}
    {expiresAt now : Instant} :
    ((Write.setRevocation other expiresAt).apply db).isRevoked key now =
      if key = other then decide (now < expiresAt) else db.isRevoked key now := by
  rw [Write.apply, isRevoked, isRevoked, List.any_cons, List.any_filter]
  by_cases same : key = other
  · subst same
    rw [if_pos rfl]
    simp
  · rw [if_neg same]
    have differs : decide (other = key) = false := decide_eq_false fun here => same here.symm
    rw [differs, Bool.false_and, Bool.false_or]
    congr 1
    funext entry
    by_cases here : entry.1 = key
    · simp [here, same]
    · simp [here]

namespace SessionService

variable [UuidSpelling]

/-- Fifteen minutes, in milliseconds: how long a marker lives. -/
def markerLifetime : Nat := 900 * 1000

/-- Redis takes the call that sets a marker. -/
def takes (redisConnected : Bool) (input : Input) : Bool :=
  redisConnected || !input.redisFails

/-- The markers that the loop of a takeover sets; each of its calls has an input. -/
def markers (redisConnected : Bool) : List Session → (Nat → Input) → List Write
  | [], _ => []
  | session :: sessions, inputs =>
      (if takes redisConnected (inputs 0) then
        [.setRevocation (.session (spelled session.id)) ((inputs 0).now + markerLifetime)]
      else []) ++ markers redisConnected sessions fun index => inputs (index + 1)

/-- The loop sets a marker for a session that lives at a time. -/
def Marked (redisConnected : Bool) (sessions : List Session) (inputs : Nat → Input) (now : Instant)
    (session : Session) : Prop :=
  ∃ index, sessions[index]? = some session ∧ takes redisConnected (inputs index) ∧
    now < (inputs index).now + markerLifetime

variable {redisConnected : Bool} {session : Session} {sessions : List Session}
  {inputs : Nat → Input} {now : Instant} {db : Accounts}

omit [UuidSpelling] in
/-- Whether a session is marked, with one more session before it. -/
theorem marked_cons {first : Session} :
    Marked redisConnected (first :: sessions) inputs now session ↔
      (first = session ∧ takes redisConnected (inputs 0) ∧ now < (inputs 0).now + markerLifetime) ∨
        Marked redisConnected sessions (fun index => inputs (index + 1)) now session := by
  constructor
  · rintro ⟨index, found, marks⟩
    cases index with
    | zero => exact .inl ⟨Option.some.inj found, marks⟩
    | succ index => exact .inr ⟨index, found, marks⟩
  · rintro (⟨rfl, marks⟩ | ⟨index, found, marks⟩)
    · exact ⟨0, rfl, marks⟩
    · exact ⟨index + 1, found, marks⟩

/-- Nothing but markers. -/
theorem mem_markers {write : Write} (member : write ∈ markers redisConnected sessions inputs) :
    ∃ key expiresAt, write = .setRevocation key expiresAt := by
  induction sessions generalizing inputs with
  | nil => cases member
  | cons first sessions inductionHypothesis =>
      rcases List.mem_append.mp member with own | later
      · split at own
        · exact ⟨_, _, List.mem_singleton.mp own⟩
        · cases own
      · exact inductionHypothesis later

/-- Marks of other sessions change nothing for a key. -/
theorem isRevoked_markers_of_absent {key : RevocationKey}
    (absent : ∀ session ∈ sessions, key ≠ .session (spelled session.id)) :
    (db.commit (markers redisConnected sessions inputs)).isRevoked key now =
      db.isRevoked key now := by
  induction sessions generalizing inputs db with
  | nil => rfl
  | cons first sessions inductionHypothesis =>
      rw [markers, Accounts.commit_append,
        inductionHypothesis fun session member => absent session (List.mem_cons_of_mem _ member)]
      split
      · rw [Accounts.commit_cons, Accounts.commit_nil, Accounts.isRevoked_setRevocation,
          if_neg (absent first List.mem_cons_self)]
      · rfl

/-- After the loop a key is revoked that was revoked before or is that of a marked session. -/
theorem isRevoked_of_markers {key : RevocationKey}
    (revoked : (db.commit (markers redisConnected sessions inputs)).isRevoked key now = true) :
    db.isRevoked key now = true ∨ ∃ session, key = .session (spelled session.id) ∧
      Marked redisConnected sessions inputs now session := by
  induction sessions generalizing inputs db with
  | nil => exact .inl revoked
  | cons first sessions inductionHypothesis =>
      rw [markers, Accounts.commit_append] at revoked
      rcases inductionHypothesis revoked with before | ⟨session, same, marked⟩
      · split at before
        · rename_i takes
          rw [Accounts.commit_cons, Accounts.commit_nil, Accounts.isRevoked_setRevocation] at before
          split at before
          · rename_i same
            exact .inr ⟨first, same, marked_cons.mpr (.inl ⟨rfl, takes, of_decide_eq_true before⟩)⟩
          · exact .inl before
        · exact .inl before
      · exact .inr ⟨session, same, marked_cons.mpr (.inr marked)⟩

/-- A marked session is revoked after the loop: no later marker is one of its own. -/
theorem Marked.isRevoked (distinct : (sessions.map Session.id).Nodup)
    (marked : Marked redisConnected sessions inputs now session) :
    (db.commit (markers redisConnected sessions inputs)).isRevoked (.session (spelled session.id))
      now = true := by
  induction sessions generalizing inputs db with
  | nil =>
      obtain ⟨index, found, _⟩ := marked
      cases found
  | cons first sessions inductionHypothesis =>
      obtain ⟨absent, distinct⟩ := List.nodup_cons.mp distinct
      rw [markers, Accounts.commit_append]
      rcases marked_cons.mp marked with ⟨rfl, takes, lives⟩ | later
      · have others : ∀ other ∈ sessions,
            RevocationKey.session (spelled first.id) ≠ .session (spelled other.id) := by
          intro other member same
          refine absent (List.mem_map.mpr ⟨other, member, ?_⟩)
          simpa using same.symm
        rw [isRevoked_markers_of_absent others, if_pos takes, Accounts.commit_cons,
          Accounts.commit_nil, Accounts.isRevoked_setRevocation, if_pos rfl]
        exact decide_eq_true lives
      · exact inductionHypothesis distinct later

/-! ## The transaction -/

/-- The sessions that a takeover ends. -/
def activeOf (db : Accounts) (userId : Uuid) : List Session :=
  db.sessions.rows.filter (activeSessionsOf userId).selects

/-- The writes that a transaction takes back. -/
abbrev Undone (write : Write) : Prop := write.durable = false

/-- The loop sets all its markers, and if nothing after it is durable, they are all that stays. -/
theorem left_forM_bind {β : Type} {rest : PUnit → Txn accounts β}
    (undone : (rest ⟨⟩).Confined Undone) :
    ((sessions.forM fun session => (liftM (RedisService.setRevocation
      (.session (spelled session.id)) 900) : Txn accounts PUnit)) >>= rest).left Write.durable inputs
        db = markers db.redisConnected sessions inputs := by
  induction sessions generalizing inputs db with
  | nil => exact undone.leaves_nothing inputs db
  | cons first sessions inductionHypothesis =>
      have executed : (RedisService.setRevocation (.session (spelled first.id)) 900).Succeeds
          (inputs 0) db () (if takes db.redisConnected (inputs 0) then
            [.setRevocation (.session (spelled first.id)) ((inputs 0).now + markerLifetime)]
          else []) := by
        rw [RedisService.setRevocation, effect_succeeds]
        rfl
      refine (Txn.left_of_executed executed).trans ?_
      rw [markers, Accounts.applyAll_accounts]
      refine congrArg₂ (· ++ ·) ?_ (inductionHypothesis.trans ?_)
      · split <;> rfl
      · rw [Accounts.redisConnected_commit]

/-- What a takeover leaves that is rolled back: the markers of all sessions that it found, or
nothing when it did not get as far as that. -/
theorem left_takeOver [TokenHash] (userId : Uuid) (deviceId rawRefreshToken : String)
    (tokenFamily : Uuid) (expiresAt : Instant) (inputs : Nat → Input) (db : Accounts) :
    (takeOver userId deviceId rawRefreshToken tokenFamily expiresAt).left Write.durable inputs db =
      if (inputs 0).fault = none ∧ (inputs 1).fault = none then
        markers db.redisConnected (activeOf db userId) fun index => inputs (index + 2)
      else [] := by
  cases locked : (inputs 0).fault with
  | some error =>
      have refused : (Prisma.User.selectForUpdate userId).exec (inputs 0) db =
          .error (.prisma error) := by
        simp [Prisma.User.selectForUpdate, query, locked]
      rw [if_neg (by simp)]
      exact Txn.left_of_failed refused
  | none =>
      have entered : (Prisma.User.selectForUpdate userId).Succeeds (inputs 0) db () [] :=
        Prisma.User.selectForUpdate_succeeds.mpr ⟨locked, rfl⟩
      refine (Txn.left_of_executed entered).trans ?_
      cases read : (inputs 1).fault with
      | some error =>
          have refused : (Prisma.Session.findMany (.ok (activeSessionsOf userId))).exec (inputs 1) db =
              .error (.prisma error) := by
            simp [Prisma.Session.findMany, select, query, read]
          rw [if_neg (by simp)]
          exact Txn.left_of_failed refused
      | none =>
          have found : (Prisma.Session.findMany (.ok (activeSessionsOf userId))).Succeeds (inputs 1) db
              (activeOf db userId) [] :=
            Prisma.Session.findMany_succeeds.mpr ⟨read, rfl, _, rfl, rfl⟩
          refine (Txn.left_of_executed found).trans ?_
          rw [if_pos ⟨rfl, rfl⟩]
          refine left_forM_bind (.bind (confined_updateMany fun _ => rfl) fun _ => ?_)
          exact .bind (.statement (confined_createSession fun _ => rfl)) fun _ => .pure _

/-- The session of a driver, opened in one transaction after the values have been generated. -/
theorem run_createSession [TokenHash] (userId : Uuid) (deviceId : String)
    (inputs : Nat → Nat → accounts.whole.Input) (db : Accounts) :
    ∃ body, (∃ rawRefreshToken tokenFamily expiresAt,
        body = takeOver userId deviceId rawRefreshToken tokenFamily expiresAt) ∧
      ((createSession userId deviceId "DRIVER").whole Write.durable).run inputs db =
        (body.result (inputs 1 0) db, db.commit (body.effects Write.durable (inputs 1 0) db)) := by
  let generated : Input := inputs 0 0 0
  let body := takeOver userId deviceId generated.secret generated.uuid
    (generated.now + sessionLifetime)
  refine ⟨body, ⟨_, _, _, rfl⟩, ?_⟩
  have ended : ∀ (outcome : Except Exception SessionResult) (rest : Nat → Nat → accounts.whole.Input)
      (state : Accounts), ((Proc.ofExcept outcome).whole Write.durable).run rest state =
        (outcome, state) := by
    intro outcome rest state
    cases outcome <;> rfl
  simp only [createSession, if_true]
  refine (ended _ _ _).trans (congrArg (Prod.mk _) ?_)
  exact accounts.applyAll_whole _ db

end SessionService

end Armada.Auth
