import Armada.Auth.Prisma
import Armada.Concurrency.Past

/-!
# What writes do to the rows of an account

The lookups of the store after a list of writes, as functions of the lookups before it, and
what no list of writes undoes: users, devices and sessions stay, with their owners, and what
is revoked stays revoked.
-/

namespace Armada.Auth

open Relational Concurrency

namespace Write

/-- The effect of a write on the user with an id. -/
def onUser (id : Uuid) : Write → Option User → Option User
  | .createUser row, found => found.or (if row.id = id then some row else none)
  | .updateUser key data, found => if id = key then found.map data.set else found
  | _, found => found

/-- What one write makes of the device with an id. -/
def onDevice (id : Uuid) : Write → Option Device → Option Device
  | .createDevice row, found => found.or (if row.id = id then some row else none)
  | .updateDevice key data, found => if id = key then found.map data.set else found
  | _, found => found

/-- What one write makes of the session with an id. -/
def onSession (id : Uuid) : Write → Option Session → Option Session
  | .createSession row, found => found.or (if row.id = id then some row else none)
  | .revokeSession key at_, found => if id = key then found.map (Session.revoke at_) else found
  | _, found => found

/-- The user found after a write. -/
theorem user?_apply (write : Write) (db : Accounts) (id : Uuid) :
    (write.apply db).user? id = write.onUser id (db.user? id) := by
  cases write with
  | createUser row => exact Table.find?_insert _ _ _
  | updateUser key data => exact Table.find?_modify _ _ _ fun _ => rfl
  | handleMessage =>
      simp only [apply, onUser]
      split <;> rfl
  | _ => rfl

/-- The device found after a write. -/
theorem device?_apply (write : Write) (db : Accounts) (id : Uuid) :
    (write.apply db).device? id = write.onDevice id (db.device? id) := by
  cases write with
  | createDevice row => exact Table.find?_insert _ _ _
  | updateDevice key data => exact Table.find?_modify _ _ _ fun _ => rfl
  | handleMessage =>
      simp only [apply, onDevice]
      split <;> rfl
  | _ => rfl

/-- The session found after a write. -/
theorem session?_apply (write : Write) (db : Accounts) (id : Uuid) :
    (write.apply db).session? id = write.onSession id (db.session? id) := by
  cases write with
  | createSession row => exact Table.find?_insert _ _ _
  | revokeSession key lastRefreshedAt => exact Table.find?_modify _ _ _ fun _ => rfl
  | handleMessage =>
      simp only [apply, onSession]
      split <;> rfl
  | _ => rfl

/-- No write touches the roles. -/
@[simp] theorem roles_apply (write : Write) (db : Accounts) : (write.apply db).roles = db.roles := by
  cases write with
  | handleMessage =>
      simp only [apply]
      split <;> rfl
  | _ => rfl

/-- Nor the drivers. -/
@[simp] theorem drivers_apply (write : Write) (db : Accounts) :
    (write.apply db).drivers = db.drivers := by
  cases write with
  | handleMessage =>
      simp only [apply]
      split <;> rfl
  | _ => rfl

/-- Nor whether Redis is connected. -/
@[simp] theorem redisConnected_apply (write : Write) (db : Accounts) :
    (write.apply db).redisConnected = db.redisConnected := by
  cases write with
  | handleMessage =>
      simp only [apply]
      split <;> rfl
  | _ => rfl

end Write

namespace Accounts

/-- The store after a list of writes. -/
def commit (db : Accounts) (writes : List Write) : Accounts := accounts.applyAll writes db

/-- No writes, no change. -/
@[simp] theorem commit_nil (db : Accounts) : db.commit [] = db := rfl

/-- The first of the writes comes first. -/
@[simp] theorem commit_cons (db : Accounts) (write : Write) (writes : List Write) :
    db.commit (write :: writes) = (write.apply db).commit writes := rfl

/-- Writes of two parts are applied part by part. -/
@[simp] theorem commit_append (db : Accounts) (first second : List Write) :
    db.commit (first ++ second) = (db.commit first).commit second :=
  accounts.applyAll_append first second db

/-- To commit is to apply the writes in their order. -/
@[simp] theorem applyAll_accounts (db : Accounts) (writes : List Write) :
    accounts.applyAll writes db = db.commit writes := rfl

/-- The state after a commit. -/
@[simp] theorem after_accounts (commit : Commit accounts) :
    commit.after = Accounts.commit commit.before commit.writes := rfl

/-- The state after a deed. -/
@[simp] theorem after_whole (deed : Deed accounts) :
    deed.after = Accounts.commit deed.before deed.writes :=
  accounts.applyAll_whole deed.writes deed.before

/-- A part of the store on which every write acts is folded over a list of writes. -/
theorem observe_commit {β : Type} (look : Accounts → β) (act : Write → β → β)
    (step : ∀ write db, look (write.apply db) = act write (look db)) (db : Accounts)
    (writes : List Write) :
    look (db.commit writes) = writes.foldl (fun found write => act write found) (look db) := by
  induction writes generalizing db with
  | nil => rfl
  | cons write writes inductionHypothesis =>
      rw [commit_cons, inductionHypothesis, step, List.foldl_cons]

/-- A part of the store that none of the writes touches. -/
theorem commit_keeps {β : Type} (look : Accounts → β) {writes : List Write}
    (kept : ∀ write ∈ writes, ∀ db, look (write.apply db) = look db) (db : Accounts) :
    look (db.commit writes) = look db := by
  induction writes generalizing db with
  | nil => rfl
  | cons write writes inductionHypothesis =>
      rw [commit_cons, inductionHypothesis fun other member =>
        kept other (List.mem_cons_of_mem _ member)]
      exact kept write List.mem_cons_self db

/-- The roles stay through a commit. -/
@[simp] theorem roles_commit (db : Accounts) (writes : List Write) :
    (db.commit writes).roles = db.roles :=
  commit_keeps roles (fun write _ => write.roles_apply) db

/-- So do the drivers. -/
@[simp] theorem drivers_commit (db : Accounts) (writes : List Write) :
    (db.commit writes).drivers = db.drivers :=
  commit_keeps drivers (fun write _ => write.drivers_apply) db

/-- So does the connection of Redis. -/
@[simp] theorem redisConnected_commit (db : Accounts) (writes : List Write) :
    (db.commit writes).redisConnected = db.redisConnected :=
  commit_keeps redisConnected (fun write _ => write.redisConnected_apply) db

/-- A user is found under its own id. -/
theorem id_of_user? {db : Accounts} {id : Uuid} {row : User} (found : db.user? id = some row) :
    row.id = id :=
  Table.key_of_find? found

/-- So is a session. -/
theorem id_of_session? {db : Accounts} {id : Uuid} {row : Session}
    (found : db.session? id = some row) : row.id = id :=
  Table.key_of_find? found

/-- The rows of the table are those that are found. -/
theorem mem_sessions {db : Accounts} {row : Session} :
    row ∈ db.sessions.rows ↔ db.session? row.id = some row := by
  rw [session?, Table.find?_eq_some]
  exact ⟨fun member => ⟨member, rfl⟩, And.left⟩

end Accounts

/-! ## What no write undoes -/

/-- A later version of a session row. -/
structure Session.Later (old new : Session) : Prop where
  id : new.id = old.id
  userId : new.userId = old.userId
  deviceId : new.deviceId = old.deviceId
  refreshTokenHash : new.refreshTokenHash = old.refreshTokenHash
  tokenFamily : new.tokenFamily = old.tokenFamily
  expiresAt : new.expiresAt = old.expiresAt
  isRevoked : old.isRevoked = true → new.isRevoked = true

/-- A session is as late as itself. -/
theorem Session.Later.refl (row : Session) : row.Later row :=
  ⟨rfl, rfl, rfl, rfl, rfl, rfl, fun revoked => revoked⟩

/-- What is later than a later one is later. -/
theorem Session.Later.trans {first second third : Session} (left : first.Later second)
    (right : second.Later third) : first.Later third where
  id := right.id.trans left.id
  userId := right.userId.trans left.userId
  deviceId := right.deviceId.trans left.deviceId
  refreshTokenHash := right.refreshTokenHash.trans left.refreshTokenHash
  tokenFamily := right.tokenFamily.trans left.tokenFamily
  expiresAt := right.expiresAt.trans left.expiresAt
  isRevoked revoked := right.isRevoked (left.isRevoked revoked)

/-- Revoking makes a session later. -/
theorem Session.later_revoke (lastRefreshedAt : Option Instant) (row : Session) :
    row.Later (row.revoke lastRefreshedAt) :=
  ⟨rfl, rfl, rfl, rfl, rfl, rfl, fun _ => rfl⟩

namespace Accounts

/-- The session that a refresh token belongs to: the first with its hash. -/
def holder? (db : Accounts) (refreshTokenHash : String) : Option Session :=
  db.sessions.rows.find? fun row => row.refreshTokenHash = refreshTokenHash

/-- The holder of a hash is found under its id. -/
theorem session_of_holder? {db : Accounts} {refreshTokenHash : String} {row : Session}
    (found : db.holder? refreshTokenHash = some row) :
    db.session? row.id = some row ∧ row.refreshTokenHash = refreshTokenHash :=
  ⟨mem_sessions.mp (List.mem_of_find?_eq_some found), by simpa using List.find?_some found⟩

/-- What may be believed of a store after others have run: rows stay, with what identifies
them, and in their order. -/
structure Extends (before after : Accounts) : Prop where
  users : ∀ id, before.user? id ≠ none → after.user? id ≠ none
  devices : ∀ id device, before.device? id = some device →
    ∃ later, after.device? id = some later ∧ later.userId = device.userId
  sessions : ∀ id session, before.session? id = some session →
    ∃ later, after.session? id = some later ∧ session.Later later
  holders : ∀ refreshTokenHash session, before.holder? refreshTokenHash = some session →
    ∃ later, after.holder? refreshTokenHash = some later ∧ session.Later later

/-- Every store extends itself. -/
theorem Extends.refl (db : Accounts) : db.Extends db where
  users _ found := found
  devices _ device found := ⟨device, found, rfl⟩
  sessions _ session found := ⟨session, found, .refl session⟩
  holders _ session found := ⟨session, found, .refl session⟩

/-- What extends an extension extends. -/
theorem Extends.trans {first second third : Accounts} (left : first.Extends second)
    (right : second.Extends third) : first.Extends third where
  users id found := right.users id (left.users id found)
  devices id device found := by
    obtain ⟨middle, foundMiddle, same⟩ := left.devices id device found
    obtain ⟨last, foundLast, sameLast⟩ := right.devices id middle foundMiddle
    exact ⟨last, foundLast, sameLast.trans same⟩
  sessions id session found := by
    obtain ⟨middle, foundMiddle, later⟩ := left.sessions id session found
    obtain ⟨last, foundLast, laterLast⟩ := right.sessions id middle foundMiddle
    exact ⟨last, foundLast, later.trans laterLast⟩
  holders refreshTokenHash session found := by
    obtain ⟨middle, foundMiddle, later⟩ := left.holders refreshTokenHash session found
    obtain ⟨last, foundLast, laterLast⟩ := right.holders refreshTokenHash middle foundMiddle
    exact ⟨last, foundLast, later.trans laterLast⟩

/-- A write takes nothing away that an extension keeps. -/
theorem extends_apply (write : Write) (db : Accounts) : db.Extends (write.apply db) where
  users id found := by
    rw [write.user?_apply]
    obtain ⟨row, same⟩ := Option.ne_none_iff_exists'.mp found
    rw [same]
    cases write with
    | updateUser key data => by_cases here : id = key <;> simp [Write.onUser, here]
    | _ => simp [Write.onUser]
  devices id device found := by
    rw [write.device?_apply, found]
    cases write with
    | updateDevice key data =>
        by_cases here : id = key <;> simp [Write.onDevice, here, DeviceData.set]
    | _ => exact ⟨device, rfl, rfl⟩
  sessions id session found := by
    rw [write.session?_apply, found]
    cases write with
    | revokeSession key lastRefreshedAt =>
        by_cases here : id = key
        · simp only [Write.onSession, here, if_true, Option.map_some]
          exact ⟨_, rfl, session.later_revoke lastRefreshedAt⟩
        · exact ⟨session, by simp [Write.onSession, here], .refl session⟩
    | _ => exact ⟨session, rfl, .refl session⟩
  holders refreshTokenHash session found := by
    cases write with
    | createSession row => exact ⟨session, Table.first_insert found, .refl session⟩
    | revokeSession key lastRefreshedAt =>
        have first := (Table.first_modify db.sessions key
          (fun row : Session => (rfl : (row.revoke lastRefreshedAt).id = row.id))
          fun _ => rfl).trans (congrArg _ found)
        refine ⟨_, first, ?_⟩
        dsimp only
        split
        · exact session.later_revoke lastRefreshedAt
        · exact .refl session
    | handleMessage =>
        refine ⟨session, ?_, .refl session⟩
        rw [Write.apply]
        split <;> exact found
    | _ => exact ⟨session, found, .refl session⟩

/-- Nor does a commit. -/
theorem extends_commit (writes : List Write) (db : Accounts) : db.Extends (db.commit writes) := by
  induction writes generalizing db with
  | nil => exact .refl db
  | cons write writes inductionHypothesis =>
      exact (extends_apply write db).trans (inductionHypothesis (write.apply db))

/-- A session that is not there was not there before. -/
theorem Extends.fresh {before after : Accounts} (within : before.Extends after) {id : Uuid}
    (fresh : after.session? id = none) : before.session? id = none := by
  cases found : before.session? id with
  | none => rfl
  | some row =>
      obtain ⟨later, foundLater, _⟩ := within.sessions id row found
      cases fresh.symm.trans foundLater

/-- The session with an id is there, and revoked. -/
def Revoked (db : Accounts) (id : Uuid) : Prop :=
  ∃ row, db.session? id = some row ∧ row.isRevoked = true

/-- The session with an id is there, and not revoked. -/
def Active (db : Accounts) (id : Uuid) : Prop :=
  ∃ row, db.session? id = some row ∧ row.isRevoked = false

/-- A revoked session is not active. -/
theorem Revoked.not_active {db : Accounts} {id : Uuid} (revoked : db.Revoked id) : ¬db.Active id := by
  rintro ⟨row, found, unrevoked⟩
  obtain ⟨same, foundToo, isRevoked⟩ := revoked
  cases found.symm.trans foundToo
  cases unrevoked.symm.trans isRevoked

/-- A revoked session stays revoked. -/
theorem Extends.revoked {before after : Accounts} (within : before.Extends after) {id : Uuid}
    (revoked : before.Revoked id) : after.Revoked id := by
  obtain ⟨row, found, isRevoked⟩ := revoked
  obtain ⟨later, foundLater, descends⟩ := within.sessions id row found
  exact ⟨later, foundLater, descends.isRevoked isRevoked⟩

/-- A revocation that is committed has effect on every row that is there. -/
theorem revoked_of_mem {db : Accounts} {id : Uuid} {row : Session} {writes : List Write}
    {lastRefreshedAt : Option Instant} (found : db.session? id = some row)
    (member : Write.revokeSession id lastRefreshedAt ∈ writes) : (db.commit writes).Revoked id := by
  induction writes generalizing db row with
  | nil => cases member
  | cons write writes inductionHypothesis =>
      rcases List.mem_cons.mp member with rfl | later
      · refine (extends_commit writes _).revoked ⟨row.revoke lastRefreshedAt, ?_, rfl⟩
        rw [Write.session?_apply, found]
        simp [Write.onSession]
      · obtain ⟨next, foundNext, _⟩ := (extends_apply write db).sessions id row found
        exact inductionHypothesis foundNext later

end Accounts

/-- Every step of a run extends the store. -/
theorem extends_of_linked {start final : Accounts} {trace : List (Deed accounts)}
    (linked : Linked (S := accounts.whole) start trace final) :
    start.Extends final ∧ ∀ deed ∈ trace, Accounts.Extends deed.before final :=
  linked.onwards Accounts.Extends.refl Accounts.Extends.trans fun deed _ => by
    rw [Accounts.after_whole]
    exact Accounts.extends_commit deed.writes deed.before

end Armada.Auth
