import Mathlib.Data.List.Perm.Subperm
import Armada.Auth.Footprint
import Armada.Sessions.Transactions

/-!
# What a step can do to sessions

Every step of every request leaves the sessions as they are but for revocations, or it is
one of the three that make a session: the `INSERT` of a login, the takeover of a driver's
login, and the exchange of a refresh token.
-/

namespace Armada.Auth

open Relational Concurrency Proc

open Prisma.Session (selected revocations)

/-- Anything but a new session. -/
def Write.OpensNone : Write → Prop
  | .createSession _ => False
  | _ => True

/-- A durable write opens no session. -/
theorem Write.opensNone_of_durable {write : Write} (isDurable : write.durable = true) :
    write.OpensNone := by
  cases write with
  | createSession row => cases isDurable
  | _ => trivial

/-- What every request may write opens none. -/
theorem courteous_opensNone : Courteous Write.OpensNone :=
  ⟨fun _ => trivial, fun _ _ => trivial, fun _ => trivial⟩

/-- A row that is new, for a user and a device that are there. -/
structure Inserted (before : Accounts) (row : Session) : Prop where
  fresh : before.session? row.id = none
  user : before.user? row.userId ≠ none
  device : before.device? row.deviceId ≠ none
  unrevoked : row.isRevoked = false

/-- A session that was opened has been inserted with its hash. -/
theorem SessionService.Opened.inserted [TokenHash] {before : Accounts} {userId deviceId : Uuid}
    {rawRefreshToken : String} {tokenFamily : Uuid} {row : Session}
    (opened : Opened before userId deviceId rawRefreshToken tokenFamily row) : Inserted before row where
  fresh := opened.fresh
  user := opened.sameUser ▸ opened.user
  device := opened.sameDevice ▸ opened.device
  unrevoked := opened.unrevoked

/-- What the writes of one step are, as far as sessions are concerned. -/
inductive SessionEffect [UuidSpelling] (before : Accounts) : List Write → Prop where
  | quiet {writes : List Write} (none : ∀ write ∈ writes, write.OpensNone) :
      SessionEffect before writes
  | insert {row : Session} (inserted : Inserted before row) :
      SessionEffect before [.createSession row]
  | takeOver {marks : List Write} {row : Session}
      (marked : SessionService.Marks
        (before.sessions.rows.filter (activeSessionsOf row.userId).selects) marks)
      (inserted : Inserted before row) :
      SessionEffect before (marks ++ revocations none (selected (activeSessionsOf row.userId) before) ++
        [.createSession row])
  | exchange {old row : Session} {refreshedAt : Instant} (found : before.session? old.id = some old)
      (unrevoked : old.isRevoked = false) (inserted : Inserted before row)
      (sameUser : row.userId = old.userId) (sameDevice : row.deviceId = old.deviceId)
      (sameFamily : row.tokenFamily = old.tokenFamily) :
      SessionEffect before [.revokeSession old.id (some refreshedAt), .createSession row]

/-! ### What opens a session -/

/-- A discipline under which whatever makes no session is allowed. -/
def Quiet {H : Type*} (discipline : Discipline accounts H) : Prop :=
  ∀ {α : Type} {process : Proc accounts α}, process.Confined Write.OpensNone →
    process.Commits discipline

section Openings

variable [UuidSpelling] [TokenHash] {H : Type*} {discipline : Discipline accounts H}

/-- A rotation makes a session in its transaction only. -/
theorem SessionService.rotateSession_commits (quiet : Quiet discipline) {rawRefreshToken : String}
    (exchanges : (transact (exchange (TokenHash.hashToken rawRefreshToken))).Commits discipline) :
    (rotateSession rawRefreshToken).Commits discipline :=
  .tryCatch exchanges fun error =>
    quiet (handleReuse_confined courteous_opensNone (fun _ => trivial) error)

namespace AuthService

/-- A login makes a session in `createSession` only. -/
theorem login_commits [Argon2] (quiet : Quiet discipline) {config : JwtConfig} {dto : LoginDto}
    {clientIp userAgent : String}
    (creates : ∀ userId deviceId roleCode,
      (SessionService.createSession userId deviceId roleCode).Commits discipline) :
    (login config dto clientIp userAgent).Commits discipline := by
  refine .bind (quiet (throttle_confined _ _)) fun _ => ?_
  refine .bind (quiet (authenticate_confined courteous_opensNone.audit)) fun found => ?_
  refine .bind (quiet (.statement (confined_effect fun _ _ write member =>
    absurd member List.not_mem_nil))) fun _ => ?_
  refine .bind (quiet (rehash_confined fun salt => trivial)) fun _ => ?_
  refine .bind (quiet (deviceOf_confined fun row _ => trivial)) fun deviceId => ?_
  refine .bind (creates _ _ _) fun session => quiet ?_
  refine .bind (signAccessToken_confined _ _ _ _ _) fun accessToken => ?_
  refine .bind (.statement confined_ask) fun loggedInAt => ?_
  refine .bind (.statement (confined_updateUser fun _ _ _ => trivial)) fun _ => ?_
  exact .bind (.statement (confined_createAuditLog trivial)) fun _ => .pure _

/-- A refresh makes a session in the transaction of its rotation only. -/
theorem refresh_commits (quiet : Quiet discipline) {config : JwtConfig} {rawRefreshToken : String}
    {clientType : ClientType}
    (exchanges : (transact (SessionService.exchange (TokenHash.hashToken rawRefreshToken))).Commits
      discipline) :
    (refresh config rawRefreshToken clientType).Commits discipline := by
  refine .bind (.rejectIf _ _) fun _ => ?_
  refine .bind (SessionService.rotateSession_commits quiet exchanges) fun session => quiet ?_
  refine .bind (.statement (confined_select _)) fun found => ?_
  refine .bind (.require _ _) fun found => ?_
  refine .bind (.rejectIf _ _) fun _ => ?_
  exact .bind (signAccessToken_confined _ _ _ _ _) fun _ => .pure _

end AuthService

/-- A request keeps to a discipline if logins and exchanges do, and all that makes no session. -/
theorem Request.commits_of_openings [Argon2] [JsonWebToken] (quiet : Quiet discipline)
    (creates : ∀ userId deviceId roleCode,
      (SessionService.createSession userId deviceId roleCode).Commits discipline)
    (exchanges : ∀ hashed, (transact (SessionService.exchange hashed)).Commits discipline)
    (config : JwtConfig) (request : Request) : (request.proc config).Commits discipline := by
  by_cases opens : request.OpensSession
  · cases request with
    | login dto clientIp userAgent => exact .map _ (AuthService.login_commits quiet creates)
    | refresh rawRefreshToken clientType => exact .map _ (AuthService.refresh_commits quiet (exchanges _))
    | createSession userId deviceId roleCode => exact .map _ (creates userId deviceId roleCode)
    | rotateSession rawRefreshToken =>
        exact .map _ (SessionService.rotateSession_commits quiet (exchanges _))
    | _ => exact opens.elim
  · refine quiet ((request.confined config).mono fun write may => ?_)
    cases write with
    | createSession row => exact absurd may opens
    | _ => trivial

end Openings

section Services

variable [UuidSpelling] {durable : Write → Bool} {thread : Nat}

/-- The discipline under which a process does to sessions only what is listed. -/
abbrev onSessions (durable : Write → Bool) (thread : Nat) : Discipline accounts (List (Deed accounts)) :=
  .past durable thread fun writes before => SessionEffect before writes

/-- A process that makes no session. -/
theorem quiet_onSessions : Quiet (onSessions durable thread) :=
  fun confined => confined.commits fun _ _ none => .quiet none

variable [TokenHash]

namespace SessionService

/-- Inserting a session commits it under a fresh id. -/
theorem create_commits {userId : Uuid} {deviceId : Except PrismaError Uuid}
    {rawRefreshToken : String} {tokenFamily : Uuid} {expiresAt : Instant} :
    (liftM (Prisma.Session.create userId deviceId (TokenHash.hashToken rawRefreshToken) tokenFamily
      expiresAt) : Proc accounts Session).Commits (onSessions durable thread) := by
  refine fun deeds => Meets.did (fun _ _ _ _ => ⟨.quiet (List.forall_mem_nil _), trivial⟩) ?_
  intro before input row writes executed
  obtain ⟨_, _, opened, _, rfl⟩ := opened_of_create executed
  exact ⟨.insert opened.inserted, trivial⟩

/-- A login inserts, or takes over. -/
theorem createSession_commits (isDurable : ∀ write, durable write = true → write.OpensNone)
    {userId : Uuid} {deviceId roleCode : String} :
    (createSession userId deviceId roleCode).Commits (onSessions durable thread) := by
  refine .bind (quiet_onSessions (.statement confined_ask)) fun generated => ?_
  dsimp only
  split
  · refine fun deeds => Meets.transacted (fun before error writes kept => ?_) fun before => ?_
    · exact ⟨.quiet fun write member => isDurable write (kept write member), trivial⟩
    · refine takeOver_yields.mono ?_
      rintro result _ ⟨marks, device, row, marked, _, rfl, opened, _, _⟩
      obtain rfl := opened.sameUser
      exact ⟨.takeOver marked opened.inserted, trivial⟩
  · refine .bind (quiet_onSessions (.statement (confined_select _))) fun active => ?_
    have inserted : ∀ expiresAt, (do
        let session ← Prisma.Session.create userId (JsValue.string deviceId).toUuid
          (TokenHash.hashToken generated.secret) generated.uuid expiresAt
        return SessionResult.of session generated.secret : Proc accounts SessionResult).Commits
          (onSessions durable thread) :=
      fun expiresAt => .bind create_commits fun _ => .pure _
    split
    · refine .bind (quiet_onSessions (.forM fun session => ?_)) fun _ => inserted _
      refine .bind (.statement (confined_updateSession fun _ _ => trivial)) fun _ => ?_
      exact .statement (confined_setRevocation fun _ => trivial)
    · exact inserted _

/-- The transaction of a rotation puts one session in the place of another. -/
theorem exchange_commits (isDurable : ∀ write, durable write = true → write.OpensNone)
    (hashed : String) :
    (transact (exchange hashed)).Commits (onSessions durable thread) := by
  refine fun deeds => Meets.transacted (fun before error writes kept => ?_) fun before => ?_
  · exact ⟨.quiet fun write member => isDurable write (kept write member), trivial⟩
  · refine exchange_yields.mono ?_
    rintro result _ ⟨old, row, refreshedAt, secret, found, _, unrevoked, rfl, opened, _⟩
    exact ⟨.exchange found unrevoked opened.inserted opened.sameUser opened.sameDevice
      opened.sameFamily, trivial⟩

end SessionService

variable [Argon2] [JsonWebToken]

/-- Every request does to sessions only what is listed. -/
theorem Request.commits_onSessions (isDurable : ∀ write, durable write = true → write.OpensNone)
    (config : JwtConfig) (request : Request) :
    (request.proc config).Commits (onSessions durable thread) :=
  request.commits_of_openings quiet_onSessions
    (fun _ _ _ => SessionService.createSession_commits isDurable)
    (fun hashed => SessionService.exchange_commits isDurable hashed) config

end Services

/-- In every run each step does to sessions only what is listed. -/
theorem sessionEffect_of_steps [UuidSpelling] [TokenHash] [Argon2] [JsonWebToken] {config : JwtConfig}
    {db : Accounts} {requests : List Request} {trace : List (Deed accounts)}
    {final : Pool accounts.whole Response}
    (steps : (Request.pool config db requests).Steps trace final) :
    ∀ deed ∈ trace, SessionEffect deed.before deed.writes := by
  have meets : ∀ (thread : Nat) process, (requests.map (Request.proc config))[thread]? = some process →
      process.Meets (onSessions Write.durable thread) (fun _ _ => True) [] := by
    intro thread process found
    rw [List.getElem?_map, Option.map_eq_some_iff] at found
    obtain ⟨request, _, rfl⟩ := found
    exact request.commits_onSessions (fun _ => Write.opensNone_of_durable) config []
  exact (steps.past meets).1

/-- The marks and revocations of a rotation open no session. -/
theorem SessionService.Marks.opensNone_append [UuidSpelling] {sessions : List Session}
    {marks : List Write} (marked : SessionService.Marks sessions marks) (ids : List Uuid) :
    ∀ write ∈ marks ++ revocations none ids, write.OpensNone := by
  intro write member
  rcases List.mem_append.mp member with mark | update
  · obtain ⟨_, _, _, rfl⟩ := marked write mark
    trivial
  · obtain ⟨_, _, rfl⟩ := Prisma.Session.mem_revocations.mp update
    trivial

/-! ## The sessions of a user that are not revoked -/

/-- The ids of the unrevoked sessions of a user. -/
def unrevoked (db : Accounts) (userId : Uuid) : List Uuid := selected (activeSessionsOf userId) db

section Unrevoked

variable {db : Accounts} {userId id : Uuid}

/-- They are those of the rows that say so. -/
theorem mem_unrevoked : id ∈ unrevoked db userId ↔
    ∃ row, db.session? id = some row ∧ row.userId = userId ∧ row.isRevoked = false := by
  rw [unrevoked, Prisma.Session.mem_selected]
  refine exists_congr fun row => and_congr_right fun _ => ?_
  simp [activeSessionsOf, Prisma.SessionWhere.selects, eq_comm (a := userId)]

/-- Where no session is made, each that is there was there before. -/
theorem before_of_opensNone {writes : List Write} (none : ∀ write ∈ writes, write.OpensNone)
    {row : Session} (found : (db.commit writes).session? id = some row) :
    ∃ old, db.session? id = some old ∧ old.Later row := by
  have kept : ∀ {db : Accounts}, db.session? id = .none → (db.commit writes).session? id = .none := by
    clear found
    induction writes with
    | nil => exact fun absent => absent
    | cons write writes inductionHypothesis =>
        intro db absent
        refine inductionHypothesis (fun other member => none other (List.mem_cons_of_mem _ member)) ?_
        rw [write.session?_apply, absent]
        have opens := none write List.mem_cons_self
        cases write with
        | createSession row => exact opens.elim
        | revokeSession key at_ => simp [Write.onSession]
        | _ => rfl
  cases earlier : db.session? id with
  | none =>
      rw [kept earlier] at found
      cases found
  | some old =>
      obtain ⟨later, foundLater, descends⟩ := (Accounts.extends_commit writes db).sessions id old earlier
      cases found.symm.trans foundLater
      exact ⟨old, rfl, descends⟩

/-- A session that is unrevoked later was unrevoked before. -/
theorem Session.Later.unrevoked {old new : Session} (later : old.Later new)
    (unrevoked : new.isRevoked = false) : old.isRevoked = false := by
  cases isRevoked : old.isRevoked with
  | false => rfl
  | true => exact absurd unrevoked (by simp [later.isRevoked isRevoked])

/-- Writes that open none leave no more unrevoked sessions. -/
theorem unrevoked_of_opensNone {writes : List Write} (none : ∀ write ∈ writes, write.OpensNone) :
    unrevoked (db.commit writes) userId ⊆ unrevoked db userId := by
  intro id member
  obtain ⟨row, found, sameUser, isUnrevoked⟩ := mem_unrevoked.mp member
  obtain ⟨old, foundOld, later⟩ := before_of_opensNone none found
  exact mem_unrevoked.mpr ⟨old, foundOld, later.userId.symm.trans sameUser, later.unrevoked isUnrevoked⟩

/-- A new session is the only one that comes to those of its user. -/
theorem mem_unrevoked_insert {row : Session} (fresh : db.session? row.id = none)
    (isUnrevoked : row.isRevoked = false) :
    id ∈ unrevoked (db.commit [.createSession row]) userId ↔
      id ∈ unrevoked db userId ∨ (id = row.id ∧ row.userId = userId) := by
  simp only [mem_unrevoked, Accounts.commit_cons, Accounts.commit_nil, Write.session?_apply,
    Write.onSession]
  by_cases same : row.id = id
  · subst same
    rw [fresh]
    simp [isUnrevoked]
  · simp [same, Ne.symm same]

/-- The one that is revoked is the only one that leaves them. -/
theorem mem_unrevoked_revoke {key : Uuid} {lastRefreshedAt : Option Instant} :
    id ∈ unrevoked (db.commit [.revokeSession key lastRefreshedAt]) userId ↔
      id ∈ unrevoked db userId ∧ id ≠ key := by
  simp only [mem_unrevoked, Accounts.commit_cons, Accounts.commit_nil, Write.session?_apply,
    Write.onSession]
  by_cases same : id = key
  · simp only [same, if_true, ne_eq, not_true_eq_false, and_false, iff_false]
    rintro ⟨row, found, _, isUnrevoked⟩
    obtain ⟨old, _, rfl⟩ := Option.map_eq_some_iff.mp found
    cases isUnrevoked
  · simp [same]

/-- What is revoked, where no session is made, is not among them. -/
theorem not_mem_unrevoked_of_mem {writes : List Write} (none : ∀ write ∈ writes, write.OpensNone)
    {lastRefreshedAt : Option Instant} (update : Write.revokeSession id lastRefreshedAt ∈ writes) :
    id ∉ unrevoked (db.commit writes) userId := by
  intro member
  obtain ⟨later, foundLater, _, isUnrevoked⟩ := mem_unrevoked.mp member
  obtain ⟨old, foundOld, _⟩ := before_of_opensNone none foundLater
  exact (Accounts.revoked_of_mem foundOld update).not_active ⟨later, foundLater, isUnrevoked⟩

/-- No id is counted twice. -/
theorem nodup_unrevoked (db : Accounts) (userId : Uuid) : (unrevoked db userId).Nodup :=
  Prisma.Session.nodup_selected _ db

/-- A list that holds them all bounds their number. -/
theorem length_unrevoked_le {ids : List Uuid} (within : unrevoked db userId ⊆ ids) :
    (unrevoked db userId).length ≤ ids.length :=
  (List.subperm_of_subset (nodup_unrevoked db userId) within).length_le

/-- What is new before a step that makes no session is new after it. -/
theorem fresh_of_opensNone {writes : List Write} (none : ∀ write ∈ writes, write.OpensNone)
    (fresh : db.session? id = .none) : (db.commit writes).session? id = .none := by
  cases found : (db.commit writes).session? id with
  | none => rfl
  | some later =>
      obtain ⟨old, foundOld, _⟩ := before_of_opensNone none found
      cases foundOld.symm.trans fresh

/-- After a takeover its user has the new session alone, and nothing comes to the others. -/
theorem unrevoked_takeOver [UuidSpelling] {marks : List Write} {row : Session}
    (marked : SessionService.Marks
      (db.sessions.rows.filter (activeSessionsOf row.userId).selects) marks)
    (inserted : Inserted db row)
    (member : id ∈ unrevoked (db.commit (marks ++
      revocations none (selected (activeSessionsOf row.userId) db) ++ [.createSession row])) userId) :
    (id = row.id ∧ row.userId = userId) ∨ (row.userId ≠ userId ∧ id ∈ unrevoked db userId) := by
  rw [Accounts.commit_append] at member
  have none := marked.opensNone_append (selected (activeSessionsOf row.userId) db)
  rcases (mem_unrevoked_insert (fresh_of_opensNone none inserted.fresh) inserted.unrevoked).mp member with
    earlier | new
  · refine .inr ⟨fun same => ?_, unrevoked_of_opensNone none earlier⟩
    subst same
    -- a session of the user has been revoked, if it was there before
    have isSelected := unrevoked_of_opensNone none earlier
    have update : Write.revokeSession id .none ∈
        marks ++ revocations .none (selected (activeSessionsOf row.userId) db) :=
      List.mem_append_right _ (Prisma.Session.mem_revocations.mpr ⟨id, isSelected, rfl⟩)
    exact not_mem_unrevoked_of_mem none update earlier
  · exact .inl new

/-- An exchange puts the new session in the place of the old one. -/
theorem mem_unrevoked_exchange {old row : Session} {refreshedAt : Instant} (inserted : Inserted db row) :
    id ∈ unrevoked (db.commit [.revokeSession old.id (some refreshedAt), .createSession row]) userId ↔
      (id ∈ unrevoked db userId ∧ id ≠ old.id) ∨ (id = row.id ∧ row.userId = userId) := by
  have none : ∀ write ∈ [Write.revokeSession old.id (some refreshedAt)], write.OpensNone :=
    fun write member => List.mem_singleton.mp member ▸ trivial
  rw [show [Write.revokeSession old.id (some refreshedAt), .createSession row] =
      [.revokeSession old.id (some refreshedAt)] ++ [.createSession row] from rfl,
    Accounts.commit_append, mem_unrevoked_insert (fresh_of_opensNone none inserted.fresh)
      inserted.unrevoked, mem_unrevoked_revoke]

end Unrevoked

end Armada.Auth
