import Armada.Sessions.Locking

/-!
# The single session of a driver

A login of a driver locks the user, revokes what sessions there are and inserts the new
one; a rotation does not lock the user, but its insertion does, through the foreign key,
and it stands under the lock of the session that it revokes. Whatever is committed so
replaces the session that the driver has.
-/

namespace Armada.Auth

open Relational Concurrency Proc

open Prisma.Session (revocations)

/-- Every login of a user is that of a driver. -/
def SessionCall.OfDriver (userId : Uuid) : SessionCall → Prop
  | .createSession user _ roleCode => user = userId → roleCode = "DRIVER"
  | _ => True

/-- Writes that keep the user from having a second session. -/
def KeepsSingle (userId : Uuid) (writes : List Write) (db : Accounts) : Prop :=
  (unrevoked db userId).length ≤ 1 → (unrevoked (db.commit writes) userId).length ≤ 1

/-- The contract of every call: what it writes is under its locks, and keeps a single
session single. -/
def singleSession (userId : Uuid) : System.Contract accounts (Option SessionResult) where
  inv db := (unrevoked db userId).length ≤ 1
  rely held before after := Undisturbed held before after
  guar _ held writes db := (∀ write ∈ writes, write.Guarded held) ∧ KeepsSingle userId writes db
  post _ _ _ := True
  orderly _ _ := True
  relyRefl held db _ := .refl held db
  relyTrans := Undisturbed.trans
  compatible _ _ _ _ single allowed _ := ⟨allowed.2 single, fun _ compatible =>
    undisturbed_of_guarded allowed.1 compatible⟩

section Writes

variable {userId : Uuid} {db : Accounts} {writes earlier : List Write} {held : List Lock} {row : Session}

/-- Writes after which fewer sessions are unrevoked keep the user at one. -/
theorem keepsSingle_of_subset (within : unrevoked (db.commit writes) userId ⊆ unrevoked db userId) :
    KeepsSingle userId writes db :=
  (length_unrevoked_le within).trans

/-- Writes that open no session keep the user at one. -/
theorem keepsSingle_of_opensNone (none : ∀ write ∈ writes, write.OpensNone) :
    KeepsSingle userId writes db :=
  keepsSingle_of_subset (unrevoked_of_opensNone none)

/-- A new session of somebody else. -/
theorem Makes.keepsSingle_of_other (makes : Makes held writes db earlier row)
    (other : row.userId ≠ userId) : KeepsSingle userId writes db := by
  refine keepsSingle_of_subset (unrevoked_of_others fun new member => ?_)
  rw [makes.writes] at member
  rcases List.mem_append.mp member with before | last
  · exact (makes.opensNone _ before).elim
  · cases List.mem_singleton.mp last
    exact other

/-- A new session in the place of all that there are. -/
theorem Makes.keepsSingle_of_all (makes : Makes held writes db earlier row)
    (all : ∀ id ∈ unrevoked db userId, ∃ at_, Write.revokeSession id at_ ∈ earlier) :
    KeepsSingle userId writes db := by
  intro _
  have alone : unrevoked (db.commit writes) userId ⊆ [row.id] := by
    intro id member
    rw [makes.writes, Accounts.commit_append] at member
    rcases (mem_unrevoked_insert (fresh_of_opensNone makes.opensNone makes.fresh)
      makes.isUnrevoked).mp member with before | ⟨rfl, _⟩
    · obtain ⟨at_, update⟩ := all id (unrevoked_of_opensNone makes.opensNone before)
      exact absurd before (not_mem_unrevoked_of_mem makes.opensNone update)
    · exact List.mem_singleton_self _
  exact length_unrevoked_le alone

/-- A new session in the place of one of them: there is no other. -/
theorem Makes.keepsSingle_of_one (makes : Makes held writes db earlier row) {id : Uuid}
    (member : id ∈ unrevoked db userId) {at_ : Option Instant}
    (update : Write.revokeSession id at_ ∈ earlier) : KeepsSingle userId writes db := by
  intro single
  refine makes.keepsSingle_of_all (fun other isMember => ⟨at_, ?_⟩) single
  obtain ⟨only, same⟩ := List.length_eq_one_iff.mp
    (le_antisymm single (List.length_pos_of_mem member))
  rw [same] at member isMember
  rw [List.mem_singleton.mp isMember, ← List.mem_singleton.mp member]
  exact update

end Writes

section Calls

variable {userId : Uuid}

/-- A process whose every commit leaves the user at most one unrevoked session. -/
abbrev CommitsSingle {α : Type} (userId : Uuid) (process : Proc accounts α) : Prop :=
  process.Commits ((singleSession userId).discipline 0)

/-- A statement that leaves the sessions alone is such a process. -/
theorem commits_of_spares {α : Type} {statement : Statement accounts α}
    (confined : statement.Confined Write.SparesSessions) :
    CommitsSingle userId (liftM statement : Proc accounts α) := by
  refine .locking fun db input value writes executed => ⟨fun write member => ?_,
    keepsSingle_of_opensNone fun write member => ?_⟩
  · exact (confined input db value writes executed write member).guarded _
  · exact (confined input db value writes executed write member).opensNone

/-- So is the marking of a revocation. -/
theorem commits_mark (key : RevocationKey) (ttlSeconds : Nat) :
    CommitsSingle userId (liftM (RedisService.setRevocation key ttlSeconds) : Proc accounts Unit) :=
  commits_of_spares (confined_setRevocation fun _ => trivial)

/-- So is a publication. -/
theorem commits_publish (event : Input → RevocationEventPayload) :
    CommitsSingle userId (liftM (RedisService.publish event) : Proc accounts Unit) :=
  commits_of_spares (confined_publish fun _ => trivial)

/-- So is an update of one session. -/
theorem commits_update (id : Except PrismaError Uuid) :
    CommitsSingle userId (liftM (Prisma.Session.update id) : Proc accounts Unit) := by
  refine .locking fun db input value writes executed => ?_
  obtain ⟨key, row, rfl, _, rfl⟩ := Prisma.Session.update_succeeds executed
  refine ⟨fun write member => ?_, keepsSingle_of_opensNone fun write member => ?_⟩
  · cases List.mem_singleton.mp member
    exact List.mem_singleton_self _
  · cases List.mem_singleton.mp member
    trivial

/-- So is a revocation of the sessions a filter selects. -/
theorem commits_updateMany {condition : Except PrismaError Prisma.SessionWhere}
    (usual : ∀ filter, condition = .ok filter → filter.Usual) :
    CommitsSingle userId (Proc.transact (Prisma.Session.updateMany condition)) := by
  refine .holding fun db => ?_
  cases condition with
  | error error => exact Txn.holds_fail _
  | ok filter =>
      refine (updateMany_holds id (usual filter rfl) (List.forall_mem_nil _)).mono ?_
      rintro _ locks _ current ⟨before, changed, _, _, _, updated⟩ last _
      obtain rfl := updated.wrote
      exact ⟨SessionService.guarded_revocations updated.locked,
        keepsSingle_of_opensNone SessionService.opensNone_revocations⟩

variable [TokenHash]

/-- The login of somebody else. -/
theorem commits_create {user : Uuid} (other : user ≠ userId) {deviceId : Except PrismaError Uuid}
    {rawRefreshToken : String} {tokenFamily : Uuid} {expiresAt : Instant} :
    CommitsSingle userId (liftM (Prisma.Session.create user deviceId (TokenHash.hashToken rawRefreshToken)
      tokenFamily expiresAt) : Proc accounts Session) := by
  refine .locking fun db input row writes executed => ?_
  obtain ⟨makes, rfl, _⟩ := SessionService.makes_of_create (fun within => within)
    (List.forall_mem_nil _) (List.forall_mem_nil _) executed (Undisturbed.refl (_ ++ []) db)
  rw [List.append_nil] at makes
  exact ⟨makes.guarded, makes.keepsSingle_of_other other⟩

variable [UuidSpelling]

/-- A login keeps the user at one session when the user's role is DRIVER. -/
theorem createSession_commitsSingle {user : Uuid} {deviceId roleCode : String}
    (driver : user = userId → roleCode = "DRIVER") :
    CommitsSingle userId (SessionService.createSession user deviceId roleCode) := by
  refine .bind (commits_of_spares confined_ask) fun generated => ?_
  dsimp only
  split
  · refine .holding fun db => (SessionService.takeOver_holds id).mono ?_
    intro _ locks made current ended last later
    obtain ⟨earlier, row, makes, rfl, all⟩ := ended last later
    refine ⟨makes.guarded, ?_⟩
    by_cases own : row.userId = userId
    · exact makes.keepsSingle_of_all (own ▸ all)
    · exact makes.keepsSingle_of_other own
  · rename_i otherRole
    have other : user ≠ userId := fun same => otherRole (driver same)
    have inserted : ∀ expiresAt, CommitsSingle userId (do
        let session ← Prisma.Session.create user (JsValue.string deviceId).toUuid
          (TokenHash.hashToken generated.secret) generated.uuid expiresAt
        return SessionResult.of session generated.secret : Proc accounts SessionResult) :=
      fun expiresAt => .bind (commits_create other) fun _ => .pure _
    refine .bind (commits_of_spares (confined_select _)) fun active => ?_
    split
    · refine .bind (.forM fun session _ => ?_) fun _ => inserted _
      exact .bind (commits_update _) fun _ => commits_mark _ _
    · exact inserted _

omit [TokenHash] in
/-- The revocation of a token family keeps it. -/
theorem revokeTokenFamily_commitsSingle (session : Session) :
    CommitsSingle userId (SessionService.revokeTokenFamily session) := by
  refine .bind (commits_updateMany fun filter same => ?_) fun _ => ?_
  · cases same
    simp [Prisma.SessionWhere.Usual]
  refine .bind (commits_mark _ _) fun _ => .bind (commits_mark _ _) fun _ => ?_
  refine .bind (commits_publish _) fun _ => .bind (commits_of_spares confined_ask) fun _ => ?_
  exact commits_of_spares (confined_createAuditLog trivial)

/-- A rotation keeps it: the old session is revoked where the new one opens. -/
theorem rotateSession_commitsSingle (rawRefreshToken : String) :
    CommitsSingle userId (SessionService.rotateSession rawRefreshToken) := by
  refine .tryCatch (.holding fun db => (SessionService.exchange_holds id).mono ?_) fun error => ?_
  · intro _ locks made current ended last later
    obtain ⟨old, row, refreshedAt, secret, makes, holder, isUnrevoked, sameUser, _⟩ := ended last later
    refine ⟨makes.guarded, ?_⟩
    by_cases own : row.userId = userId
    · have member : old.id ∈ unrevoked last userId := mem_unrevoked.mpr
        ⟨old, (Accounts.session_of_holder? holder).1, sameUser.symm.trans own, isUnrevoked⟩
      exact makes.keepsSingle_of_one member (List.mem_singleton_self _)
    · exact makes.keepsSingle_of_other own
  · cases error with
    | refreshTokenReuse session =>
        exact .bind (revokeTokenFamily_commitsSingle session) fun _ => .throw _
    | _ => exact .throw _

omit [TokenHash] in
/-- The revocation of one session keeps it. -/
theorem revokeSession_commitsSingle (sessionId user : JsValue) :
    CommitsSingle userId (SessionService.revokeSession sessionId user) := by
  rw [SessionService.revokeSession]
  split
  · exact .pure _
  refine .bind (commits_of_spares (confined_select _)) fun found => ?_
  cases found with
  | none => exact .pure _
  | some session =>
      dsimp only
      split
      · exact .pure _
      · exact .bind (commits_update _) fun _ => .bind (commits_mark _ _) fun _ => commits_publish _

omit [TokenHash] in
/-- The revocation of all sessions keeps it. -/
theorem revokeAllUserSessions_commitsSingle (user : JsValue) :
    CommitsSingle userId (SessionService.revokeAllUserSessions user) := by
  rw [SessionService.revokeAllUserSessions]
  split
  · exact .pure _
  refine .bind (.bind (commits_updateMany fun filter same => ?_) fun _ => .pure _) fun _ =>
    .bind (commits_mark _ _) fun _ => commits_publish _
  obtain ⟨id, _, rfl⟩ := except_map_ok.mp same
  simp [Prisma.SessionWhere.Usual, activeSessionsOf]

/-- Every call keeps the contract. -/
theorem SessionCall.commitsSingle (call : SessionCall) (driver : call.OfDriver userId) :
    CommitsSingle userId call.proc := by
  cases call with
  | createSession user deviceId roleCode => exact .map _ (createSession_commitsSingle driver)
  | rotateSession rawRefreshToken => exact .map _ (rotateSession_commitsSingle rawRefreshToken)
  | revokeTokenFamily session => exact .map _ (revokeTokenFamily_commitsSingle session)
  | revokeSession sessionId user => exact .map _ (revokeSession_commitsSingle sessionId user)
  | revokeAllUserSessions user => exact .map _ (revokeAllUserSessions_commitsSingle user)

end Calls

/-- In every state that a run of the calls reaches, statement by statement, a driver has at
most one session that is not revoked. -/
theorem single_active_session [UuidSpelling] [TokenHash] {supplied : Input → Prop} {db : Accounts}
    {calls : List SessionCall} {userId : Uuid} {trace : List (Commit accounts)}
    {final : System accounts (Option SessionResult)}
    (steps : (System.ofPool ⟨db, calls.map SessionCall.proc⟩).Steps supplied trace final)
    (driver : ∀ call ∈ calls, call.OfDriver userId)
    (initially : (unrevoked db userId).length ≤ 1) : (unrevoked final.state userId).length ≤ 1 := by
  have upheld : (singleSession userId).Upheld (System.ofPool ⟨db, calls.map SessionCall.proc⟩) := by
    refine System.Contract.upheld_ofPool initially fun thread process found => ?_
    rw [List.getElem?_map, Option.map_eq_some_iff] at found
    obtain ⟨call, atThread, rfl⟩ := found
    exact call.commitsSingle (driver call (List.mem_of_getElem? atThread)) db
  exact (steps.sound initially (System.exclusive_ofPool _) upheld fun _ _ => trivial).1

/-! ## A login during a rotation -/

namespace LoginDuringRotation

local instance : UuidSpelling := unarySpelling

local instance : TokenHash := plainHash

local instance : DecidableRel accounts.clash := fun mine theirs =>
  inferInstanceAs (Decidable (mine.clashes theirs = true))

def calls : List SessionCall := [.rotateSession "r", .createSession 1 "111" "DRIVER"]

def system : System accounts (Option SessionResult) :=
  .ofPool ⟨LoggedIn.db, calls.map SessionCall.proc⟩

/-- The rotation has found its session when the login revokes it, and then claims nothing. -/
def schedule : List (Nat × Input) :=
  (List.replicate 6 0 ++ List.replicate 9 1 ++ List.replicate 9 0).map fun thread =>
    (thread, { uuid := 30 + thread, secret := "s" })

/-- After a rotation that races with a login, one session is left. -/
theorem single_active_session_of_login :
    (unrevoked (system.play schedule).2.state 1).length ≤ 1 := by
  refine single_active_session (System.play_steps schedule system) (fun call member => ?_) (by decide)
  rcases List.mem_cons.mp member with rfl | later
  · trivial
  · cases List.mem_singleton.mp later
    exact fun _ => rfl

example : unrevoked (system.play schedule).2.state 1 = [31] := by decide

end LoginDuringRotation

end Armada.Auth
