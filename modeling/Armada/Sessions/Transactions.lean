import Armada.Auth.Calls
import Armada.Sessions.SessionService

/-!
# What the transactions on sessions commit

The `UPDATE` of several sessions, the takeover of a driver's login and the exchange of a
refresh token, as what they write when each runs as one step.
-/

namespace Armada.Auth

open Relational Concurrency

/-! ## The update of several sessions -/

namespace Prisma.Session

/-- The ids of the sessions that a condition selects. -/
def selected (condition : SessionWhere) (db : Accounts) : List Uuid :=
  (db.sessions.rows.filter condition.selects).map Auth.Session.id

/-- Which sessions meet a condition. -/
theorem mem_selected {condition : SessionWhere} {db : Accounts} {id : Uuid} :
    id ∈ selected condition db ↔
      ∃ row, db.session? id = some row ∧ condition.selects row = true := by
  simp only [selected, List.mem_map, List.mem_filter, Accounts.mem_sessions]
  constructor
  · rintro ⟨row, ⟨found, selects⟩, rfl⟩
    exact ⟨row, found, selects⟩
  · rintro ⟨row, found, selects⟩
    obtain rfl := Accounts.id_of_session? found
    exact ⟨row, ⟨found, selects⟩, rfl⟩

/-- None is selected twice. -/
theorem nodup_selected (condition : SessionWhere) (db : Accounts) :
    (selected condition db).Nodup :=
  (List.filter_sublist.map Auth.Session.id).nodup db.sessions.unique

/-- The compare-and-set of one session selects it, if it is not revoked. -/
theorem selected_of_id {db : Accounts} {row : Auth.Session} (found : db.session? row.id = some row)
    (unrevoked : row.isRevoked = false) :
    selected { id := some row.id, isRevoked := some false } db = [row.id] := by
  have only : ∀ id ∈ selected { id := some row.id, isRevoked := some false } db, id = row.id := by
    intro id member
    obtain ⟨other, foundOther, selects⟩ := mem_selected.mp member
    rw [← Accounts.id_of_session? foundOther]
    have same : row.id = other.id := by simpa [SessionWhere.selects] using (Bool.and_eq_true_iff.mp selects).1
    exact same.symm
  have isSelected : row.id ∈ selected { id := some row.id, isRevoked := some false } db :=
    mem_selected.mpr ⟨row, found, by simp [SessionWhere.selects, unrevoked]⟩
  refine List.perm_singleton.mp ((List.perm_ext_iff_of_nodup (nodup_selected _ db)
    (List.nodup_singleton _)).mpr fun id => ?_)
  rw [List.mem_singleton]
  exact ⟨only id, fun same => same ▸ isSelected⟩

/-- The updates of a list of sessions. -/
def revocations (lastRefreshedAt : Option Instant) (ids : List Uuid) : List Write :=
  ids.map fun id => .revokeSession id lastRefreshedAt

/-- The revocations of a list of ids. -/
@[simp] theorem mem_revocations {lastRefreshedAt : Option Instant} {ids : List Uuid} {write : Write} :
    write ∈ revocations lastRefreshedAt ids ↔
      ∃ id ∈ ids, write = .revokeSession id lastRefreshedAt := by
  simp [revocations, eq_comm]

variable {condition : SessionWhere} {lastRefreshedAt : Option Instant} {base : Accounts}

/-- While nobody else runs, each of the rows that were found is still selected. -/
theorem updateEach_yields {ids : List Uuid} (distinct : ids.Nodup) {count : Nat}
    {written : List Write} (still : ∀ id ∈ ids, id ∈ selected condition (base.commit written)) :
    (updateEach condition lastRefreshedAt ids count).Yields (fun answer made =>
      answer = count + ids.length ∧ made = written ++ revocations lastRefreshedAt ids) base written := by
  induction ids generalizing count written with
  | nil => simp [updateEach, revocations]
  | cons id ids inductionHypothesis =>
      obtain ⟨absent, distinct⟩ := List.nodup_cons.mp distinct
      simp only [updateEach, Txn.yields_bind, Txn.yields_lift]
      intro input changed writes executed
      obtain ⟨row, found, selects⟩ := mem_selected.mp (still id List.mem_cons_self)
      obtain ⟨_, ⟨_, rfl, rfl⟩ | ⟨none, _, _⟩⟩ := updateIfStill_succeeds.mp executed
      · refine (inductionHypothesis distinct fun other member => ?_).mono fun answer made ended => ?_
        · obtain ⟨otherRow, otherFound, otherSelects⟩ :=
            mem_selected.mp (still other (List.mem_cons_of_mem _ member))
          have different : other ≠ id := fun same => absent (same ▸ member)
          refine mem_selected.mpr ⟨otherRow, ?_, otherSelects⟩
          rw [Accounts.commit_append, Accounts.commit_cons, Accounts.commit_nil,
            Write.session?_apply, otherFound]
          simp [Write.onSession, different]
        · obtain ⟨rfl, rfl⟩ := ended
          refine ⟨by rw [List.length_cons]; omega, ?_⟩
          rw [List.append_assoc]
          rfl
      · rw [Accounts.applyAll_accounts] at none
        cases (none row found).symm.trans selects

/-- Revoking many sessions revokes those that meet the condition, and counts them. -/
theorem updateMany_yields {written : List Write} :
    (updateMany (.ok condition) lastRefreshedAt).Yields (fun answer made =>
      answer = (selected condition (base.commit written)).length ∧
        made = written ++ revocations lastRefreshedAt (selected condition (base.commit written)))
      base written := by
  simp only [updateMany, Txn.yields_bind, Txn.yields_lift]
  intro input ids writes executed
  obtain ⟨_, rfl, rfl⟩ := candidates_succeeds.mp executed
  rw [List.append_nil]
  refine (updateEach_yields (nodup_selected condition _) fun id member => member).mono ?_
  rintro answer made ⟨rfl, rfl⟩
  exact ⟨Nat.zero_add _, rfl⟩

/-- What `updateMany` writes, for any condition that it is given. -/
theorem updateMany_yields_of {condition : Except PrismaError SessionWhere} {written : List Write} :
    (updateMany condition lastRefreshedAt).Yields (fun _ made => ∃ filter, condition = .ok filter ∧
      made = written ++ revocations lastRefreshedAt (selected filter (base.commit written)))
      base written := by
  cases condition with
  | error error => exact Txn.yields_fail _ _
  | ok filter => exact updateMany_yields.mono fun _ made ended => ⟨filter, rfl, ended.2⟩

end Prisma.Session

/-! ## The transactions of the session service -/

namespace SessionService

open Prisma.Session (created selected revocations)

variable {base : Accounts}

section Markers

variable [UuidSpelling]

/-- The markers of a takeover. -/
def Marks (sessions : List Session) (writes : List Write) : Prop :=
  ∀ write ∈ writes, ∃ session ∈ sessions, ∃ expiresAt,
    write = .setRevocation (.session (spelled session.id)) expiresAt

/-- A part of the store that markers do not touch. -/
theorem Marks.keeps {sessions : List Session} {marks : List Write} (marked : Marks sessions marks)
    {β : Type} (look : Accounts → β)
    (kept : ∀ key expiresAt db, look ((Write.setRevocation key expiresAt).apply db) = look db)
    (db : Accounts) : look (db.commit marks) = look db := by
  refine Accounts.commit_keeps look (fun write member => ?_) db
  obtain ⟨session, _, expiresAt, rfl⟩ := marked write member
  exact kept _ _

/-- Marking sessions sets one mark for each, or none where Redis is down. -/
theorem forM_mark_yields {sessions : List Session} {written : List Write} :
    (sessions.forM fun session =>
      (liftM (RedisService.setRevocation (.session (spelled session.id)) 900) : Txn accounts Unit)).Yields
      (fun _ made => ∃ marks, made = written ++ marks ∧ Marks sessions marks) base written := by
  induction sessions generalizing written with
  | nil =>
      rw [List.forM, Txn.yields_pure]
      exact ⟨[], by simp, fun write member => absurd member List.not_mem_nil⟩
  | cons session sessions inductionHypothesis =>
      rw [List.forM, Txn.yields_bind, Txn.yields_lift]
      intro input answer writes executed
      have own : ∀ write ∈ writes, ∃ expiresAt,
          write = .setRevocation (.session (spelled session.id)) expiresAt := by
        intro write member
        rcases RedisService.setRevocation_succeeds executed with rfl | ⟨_, rfl⟩
        · exact ⟨_, List.mem_singleton.mp member⟩
        · cases member
      refine inductionHypothesis.mono ?_
      rintro _ _ ⟨marks, rfl, marked⟩
      refine ⟨writes ++ marks, List.append_assoc _ _ _, fun write member => ?_⟩
      rcases List.mem_append.mp member with first | later
      · exact ⟨session, List.mem_cons_self, own write first⟩
      · obtain ⟨other, isOther, expiresAt, rfl⟩ := marked write later
        exact ⟨other, List.mem_cons_of_mem _ isOther, expiresAt, rfl⟩

end Markers

variable [TokenHash]

/-- A row that a login or a rotation makes, for a user and with a refresh token. -/
structure Opened (db : Accounts) (userId deviceId : Uuid) (rawRefreshToken : String)
    (tokenFamily : Uuid) (row : Session) : Prop where
  fresh : db.session? row.id = none
  user : db.user? userId ≠ none
  device : db.device? deviceId ≠ none
  sameUser : row.userId = userId
  sameDevice : row.deviceId = deviceId
  sameToken : row.refreshTokenHash = TokenHash.hashToken rawRefreshToken
  sameFamily : row.tokenFamily = tokenFamily
  unrevoked : row.isRevoked = false

/-- A session that was inserted is open, unrevoked and new. -/
theorem opened_of_create {userId : Uuid} {deviceId : Except PrismaError Uuid}
    {rawRefreshToken : String} {tokenFamily : Uuid} {expiresAt : Instant} {input : Input}
    {db : Accounts} {row : Session} {writes : List Write}
    (succeeds : (Prisma.Session.create userId deviceId (TokenHash.hashToken rawRefreshToken)
      tokenFamily expiresAt).Succeeds input db row writes) :
    ∃ device, deviceId = .ok device ∧ Opened db userId device rawRefreshToken tokenFamily row ∧
      row.expiresAt = expiresAt ∧ writes = [.createSession row] := by
  obtain ⟨device, parsed, rfl, fresh, user, known, rfl⟩ := Prisma.Session.create_succeeds succeeds
  exact ⟨device, parsed, ⟨fresh, user, known, rfl, rfl, rfl, rfl, rfl⟩, rfl, rfl⟩

/-- Updates of sessions and markers before the insertion are no part of what it needs. -/
theorem Opened.of_commit {db : Accounts} {writes : List Write} {userId deviceId : Uuid}
    {rawRefreshToken : String} {tokenFamily : Uuid} {row : Session}
    (opened : Opened (db.commit writes) userId deviceId rawRefreshToken tokenFamily row)
    (kept : ∀ write ∈ writes, (∃ id at_, write = .revokeSession id at_) ∨
      ∃ key expiresAt, write = .setRevocation key expiresAt) :
    Opened db userId deviceId rawRefreshToken tokenFamily row := by
  obtain ⟨fresh, user, device, sameUser, sameDevice, sameToken, sameFamily, unrevoked⟩ := opened
  refine ⟨(Accounts.extends_commit writes db).fresh fresh, ?_, ?_, sameUser, sameDevice, sameToken,
    sameFamily, unrevoked⟩
  · rwa [show (db.commit writes).user? userId = db.user? userId from
      Accounts.commit_keeps (·.user? userId) (fun write member before => by
        rcases kept write member with ⟨id, at_, rfl⟩ | ⟨key, expiresAt, rfl⟩ <;> rfl) db] at user
  · rwa [show (db.commit writes).device? deviceId = db.device? deviceId from
      Accounts.commit_keeps (·.device? deviceId) (fun write member before => by
        rcases kept write member with ⟨id, at_, rfl⟩ | ⟨key, expiresAt, rfl⟩ <;> rfl) db] at device

/-- What a takeover commits: markers, the end of all sessions of the user, and a new one. -/
theorem takeOver_yields [UuidSpelling] {userId : Uuid} {deviceId rawRefreshToken : String}
    {tokenFamily : Uuid}
    {expiresAt : Instant} :
    (takeOver userId deviceId rawRefreshToken tokenFamily expiresAt).Yields (fun result made =>
      ∃ marks device row, Marks (base.sessions.rows.filter (activeSessionsOf userId).selects) marks ∧
        (JsValue.string deviceId).toUuid = .ok device ∧
        made = marks ++ revocations none (selected (activeSessionsOf userId) base) ++
          [.createSession row] ∧
        Opened base userId device rawRefreshToken tokenFamily row ∧ row.expiresAt = expiresAt ∧
        result = .of row rawRefreshToken) base [] := by
  simp only [takeOver, Txn.yields_bind, Txn.yields_lift, Txn.yields_pure]
  intro input _ writes locked
  obtain ⟨_, rfl⟩ := Prisma.User.selectForUpdate_succeeds.mp locked
  intro input existing writes read
  obtain ⟨_, rfl, filter, isFilter, rfl⟩ := Prisma.Session.findMany_succeeds.mp read
  cases isFilter
  refine forM_mark_yields.mono ?_
  rintro _ made ⟨marks, same, marked⟩
  obtain rfl : made = marks := same
  refine Prisma.Session.updateMany_yields.mono ?_
  rintro _ _ ⟨_, rfl⟩
  intro input row writes inserted
  have same : selected (activeSessionsOf userId) (base.commit made) =
      selected (activeSessionsOf userId) base :=
    marked.keeps (selected _) (fun _ _ _ => rfl) base
  rw [same] at inserted ⊢
  obtain ⟨device, parsed, opened, expires, rfl⟩ := opened_of_create inserted
  refine ⟨made, device, row, marked, parsed, rfl, opened.of_commit fun write member => ?_, expires, rfl⟩
  rcases List.mem_append.mp member with mark | update
  · obtain ⟨session, _, until_, rfl⟩ := marked write mark
    exact .inr ⟨_, _, rfl⟩
  · obtain ⟨id, _, rfl⟩ := Prisma.Session.mem_revocations.mp update
    exact .inl ⟨_, _, rfl⟩

/-- What an exchange commits: the end of the session with the refresh token, which is not
revoked, and a new one for the same user, device and family. -/
theorem exchange_yields {hashed : String} :
    (exchange hashed).Yields (fun result (made : List Write) => ∃ old row refreshedAt secret,
      base.session? old.id = some old ∧ old.refreshTokenHash = hashed ∧ old.isRevoked = false ∧
        made = [.revokeSession old.id (some refreshedAt), .createSession row] ∧
        Opened base old.userId old.deviceId secret old.tokenFamily row ∧
        result = .of row secret) base [] := by
  simp only [exchange, Txn.yields_bind, Txn.yields_lift]
  intro input found writes read
  obtain ⟨rfl, hashes⟩ := Prisma.Session.findByHash_succeeds read
  cases found with
  | none => exact Txn.yields_fail _ _
  | some old =>
      obtain ⟨present, sameHash⟩ : base.session? old.id = some old ∧ _ := hashes old rfl
      simp only [Txn.yields_bind, Txn.yields_lift, Txn.yields_rejectIf, Txn.yields_pure]
      intro input now writes asked
      obtain ⟨rfl, rfl⟩ := ask_succeeds.mp asked
      intro valid input generated writes asked
      obtain ⟨rfl, rfl⟩ := ask_succeeds.mp asked
      intro input claimedAt writes asked
      obtain ⟨rfl, rfl⟩ := ask_succeeds.mp asked
      refine Prisma.Session.updateMany_yields.mono ?_
      rintro claimed _ ⟨_, rfl⟩ _ input row writes inserted
      have unrevoked : old.isRevoked = false := by
        simpa using fun isRevoked => valid (.inl isRevoked)
      have own := Prisma.Session.selected_of_id present unrevoked
      simp only [List.nil_append, Accounts.commit_nil, own] at inserted ⊢
      obtain ⟨device, parsed, opened, expires, rfl⟩ := opened_of_create inserted
      cases parsed
      refine ⟨old, row, claimedAt.now, generated.secret, present, sameHash, unrevoked, rfl, ?_, rfl⟩
      refine opened.of_commit fun write member => ?_
      obtain ⟨id, _, rfl⟩ := Prisma.Session.mem_revocations.mp member
      exact .inl ⟨_, _, rfl⟩

end SessionService

end Armada.Auth
