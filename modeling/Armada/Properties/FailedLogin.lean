import Armada.Sessions.FailedTakeOver

/-!
# A login that fails when it opens the session

A driver's login ends the old sessions in the database and in Redis inside one transaction,
and only the database takes it back. After a failed login the rows are as they were, but
`validate` asks Redis first: a session with a marker is refused. The old sessions stay
accepted exactly if the transaction fails before its loop, or none of the markers that the
loop has set is of a session that was accepted and is heard.
-/

namespace Armada.Auth

open Relational Concurrency

/-! ## The parts of a login -/

namespace AuthService

section Parts

variable [UuidSpelling] [Argon2]

/-- What a login does before it opens the session, with the right password. -/
def prepare (dto : LoginDto) (clientIp userAgent : String) :
    Proc accounts (Prisma.UserRecord × String) := do
  throttle dto.username clientIp
  let found ← authenticate dto clientIp userAgent
  RedisService.resetRateLimit s!"throttle:login:user:{dto.username}"
  rehash found.user dto.password
  let deviceId ← deviceOf dto found.user.id
  return (found, deviceId)

/-- What it does afterwards. -/
def conclude (config : JwtConfig) (dto : LoginDto) (clientIp userAgent : String)
    (found : Prisma.UserRecord) (deviceId : String) (sessionResult : SessionResult) :
    Proc accounts LoginResult := do
  let accessToken ← signAccessToken config found.user.id found.role.code deviceId
    sessionResult.sessionId
  let loggedInAt ← ask
  let _ ← Prisma.User.update (.ok found.user.id) fun _ => { lastLoginAt := some loggedInAt.now }
  Prisma.AuditLog.create
    { actorUserId := some found.user.id, action := "LOGIN_SUCCESS", entityType := "USER",
      entityId := spelled found.user.id, result := "SUCCESS", ipAddress := some clientIp,
      userAgent := some userAgent }
  let web := dto.clientType = some .web
  return {
    accessToken
    refreshToken := if web then none else some sessionResult.rawRefreshToken
    refreshCookie := if web then some sessionResult.rawRefreshToken else none
    expiresIn := 900
    user :=
      { id := found.user.id, username := found.user.username, role := found.role.code,
        driverId := found.driver.map Driver.id } }

variable [TokenHash]

/-- A login prepares and then creates the session. -/
theorem login_eq (config : JwtConfig) (dto : LoginDto) (clientIp userAgent : String) :
    login config dto clientIp userAgent =
      prepare dto clientIp userAgent >>= fun (found, deviceId) =>
        SessionService.createSession found.user.id deviceId found.role.code >>=
          conclude config dto clientIp userAgent found deviceId := by
  simp only [prepare, Proc.seq_assoc]
  rfl

end Parts

end AuthService

/-! ## What the guard looks at -/

/-- A request at a time, with what is to be had from Redis: a key that is heard of is answered
truly, of another one there is no answer. -/
structure Reading where
  now : Instant
  heard : RevocationKey → Bool

namespace Reading

variable [UuidSpelling]

def input (reading : Reading) (db : Accounts) : Input where
  now := reading.now
  redisAnswer key := if reading.heard key then some (db.isRevoked key reading.now) else none

/-- `JwtStrategy.validate` lets a token pass. -/
def Accepts (reading : Reading) (db : Accounts) (payload : JwtPayload) : Prop :=
  ∃ user, Auth.Accepts (JwtStrategy.validate payload) (reading.input db) db user

/-- Redis can be asked about a key. -/
def Hears (reading : Reading) (db : Accounts) (key : RevocationKey) : Prop :=
  db.redisConnected = true ∨ reading.heard key = true

/-- The guard gets the answer that a key is revoked. -/
def Finds (reading : Reading) (db : Accounts) (key : RevocationKey) : Prop :=
  reading.Hears db key ∧ db.isRevoked key reading.now = true

variable {reading : Reading} {db : Accounts} {payload : JwtPayload} {key : RevocationKey}

omit [UuidSpelling] in
/-- What Redis answers to the reading. -/
theorem redisAnswer_input :
    redisAnswer db (reading.input db) key = some true ↔ reading.Finds db key := by
  rw [redisAnswer, input, Finds, Hears]
  cases db.redisConnected <;> cases heard : reading.heard key <;> simp [heard]

/-- A payload is accepted when its type, marks and rows are in order. -/
theorem accepts_iff : reading.Accepts db payload ↔ payload.type = .string "ACCESS_TOKEN" ∧
    ¬reading.Finds db (.session payload.sessionId) ∧ ¬reading.Finds db (.user payload.sub) ∧
      ∃ record, Entitled db reading.now payload.sub payload.role payload.deviceId payload.sessionId
        record := by
  simp only [Accepts, JwtStrategy.accepts_validate, ne_eq, redisAnswer_input]
  constructor
  · rintro ⟨user, _, type, fresh, valid, record, entitled, _⟩
    exact ⟨type, fresh, valid, record, entitled⟩
  · rintro ⟨type, fresh, valid, record, entitled⟩
    exact ⟨_, rfl, type, fresh, valid, record, entitled, rfl⟩

end Reading

/-! ## What stays -/

/-- The rows that entitle are there still. -/
structure KeepsRows (before after : Accounts) : Prop where
  sessions : after.sessions = before.sessions
  users : ∀ id user, before.user? id = some user →
    ∃ later, after.user? id = some later ∧ later.roleId = user.roleId ∧ later.status = user.status
  devices : ∀ id device, before.device? id = some device → after.device? id = some device
  roles : after.roles = before.roles
  drivers : after.drivers = before.drivers

/-- A write that takes no entitlement away. -/
def Harmless : Write → Prop
  | .updateUser _ data => data.roleId = none ∧ data.status = none
  | .createDevice _ => True
  | .createAuditLog _ => True
  | .setRevocation _ _ => True
  | _ => False

namespace KeepsRows

/-- Every state keeps its rows. -/
theorem refl (db : Accounts) : KeepsRows db db where
  sessions := rfl
  users _ user found := ⟨user, found, rfl, rfl⟩
  devices _ _ found := found
  roles := rfl
  drivers := rfl

/-- Keeping is transitive. -/
theorem trans {first second third : Accounts} (left : KeepsRows first second)
    (right : KeepsRows second third) : KeepsRows first third where
  sessions := right.sessions.trans left.sessions
  users id user found := by
    obtain ⟨middle, foundMiddle, role, status⟩ := left.users id user found
    obtain ⟨last, foundLast, sameRole, sameStatus⟩ := right.users id middle foundMiddle
    exact ⟨last, foundLast, sameRole.trans role, sameStatus.trans status⟩
  devices id device found := right.devices id device (left.devices id device found)
  roles := right.roles.trans left.roles
  drivers := right.drivers.trans left.drivers

/-- A harmless write keeps the rows. -/
theorem of_apply {write : Write} (harmless : Harmless write) (db : Accounts) :
    KeepsRows db (write.apply db) where
  sessions := by cases write <;> first | rfl | exact harmless.elim
  users id user found := by
    rw [write.user?_apply, found]
    cases write with
    | updateUser key data =>
        obtain ⟨role, status⟩ := harmless
        by_cases here : id = key
        · simp [Write.onUser, here, UserData.set, role, status]
        · exact ⟨user, if_neg here, rfl, rfl⟩
    | _ => exact ⟨user, rfl, rfl, rfl⟩
  devices id device found := by
    rw [write.device?_apply, found]
    cases write <;> first | rfl | exact harmless.elim
  roles := write.roles_apply db
  drivers := write.drivers_apply db

/-- So do harmless writes. -/
theorem of_commit {writes : List Write} (harmless : ∀ write ∈ writes, Harmless write)
    (db : Accounts) : KeepsRows db (db.commit writes) := by
  induction writes generalizing db with
  | nil => exact refl db
  | cons write writes inductionHypothesis =>
      obtain ⟨first, later⟩ := List.forall_mem_cons.mp harmless
      exact (of_apply first db).trans (inductionHypothesis later _)

/-- Who was entitled still is. -/
theorem entitled [UuidSpelling] {before after : Accounts} (keeps : KeepsRows before after)
    {now : Instant} {userId role deviceId sessionId : JsValue} {record : Prisma.UserRecord}
    (entitled : Entitled before now userId role deviceId sessionId record) :
    ∃ later, Entitled after now userId role deviceId sessionId later := by
  obtain ⟨session, device, admits, sameUser, unexpired⟩ := entitled.admitted
  obtain ⟨later, found, sameRole, sameStatus⟩ := keeps.users _ _ entitled.foundUser
  have sameId : later.id = record.user.id := Accounts.id_of_user? found
  have admitsLater : Admits after userId deviceId sessionId session device :=
    { admits with
      foundSession := by rw [Accounts.session?, keeps.sessions]; exact admits.foundSession
      foundDevice := keeps.devices _ _ admits.foundDevice }
  refine ⟨⟨later, record.role, record.driver⟩, ?_, ⟨?_, ?_⟩, sameStatus.trans entitled.active,
    entitled.sameRole, session, device, admitsLater, sameUser.trans sameId.symm, unexpired⟩
  · exact sameId ▸ found
  · rw [← entitled.recorded.1, Accounts.role?, Accounts.role?, keeps.roles, sameRole]
  · rw [← entitled.recorded.2, Accounts.driver?, Accounts.driver?, keeps.drivers, sameId]

end KeepsRows

/-! ## A login whose session is not opened -/

section Login

open AuthService SessionService

/-- Only durable writes change what Redis holds. -/
theorem revocations_commit {writes : List Write} (undone : ∀ write ∈ writes, Undone write)
    (db : Accounts) : (db.commit writes).revocations = db.revocations := by
  refine Accounts.commit_keeps Accounts.revocations (fun write member other => ?_) db
  have taken := undone write member
  cases write with
  | setRevocation key expiresAt => cases taken
  | handleMessage =>
      rw [Write.apply]
      split <;> rfl
  | _ => rfl

variable [UuidSpelling] [Argon2]

/-- The first part of a login is harmless, and a transaction takes all of it back. -/
theorem prepare_confined (dto : LoginDto) (clientIp userAgent : String) :
    (prepare dto clientIp userAgent).Confined fun write => Harmless write ∧ Undone write := by
  refine .bind (throttle_confined _ _) fun _ => ?_
  refine .bind (authenticate_confined fun _ => ⟨trivial, rfl⟩) fun found => ?_
  refine .bind (.statement (confined_effect fun _ _ write member =>
    absurd member List.not_mem_nil)) fun _ => ?_
  refine .bind (rehash_confined fun _ => ⟨⟨rfl, rfl⟩, rfl⟩) fun _ => ?_
  exact .bind (deviceOf_confined fun _ _ => ⟨trivial, rfl⟩) fun deviceId => .pure _

variable [TokenHash]

/-- A login with the right password whose `createSession` fails. Each statement of its
transaction has an input. -/
structure FailedLogin (dto : LoginDto) (clientIp userAgent : String) (before after : Accounts) where
  found : Prisma.UserRecord
  deviceId : String
  middle : Accounts
  prepared : ((prepare dto clientIp userAgent).whole Write.durable).Returns (fun _ => True) before
    (found, deviceId) middle
  inputs : Nat → Nat → accounts.whole.Input
  error : Exception
  failed : ((createSession found.user.id deviceId found.role.code).whole Write.durable).run inputs
    middle = (.error error, after)

namespace FailedLogin

variable {config : JwtConfig} {dto : LoginDto} {clientIp userAgent : String}
  {before after : Accounts}

/-- The inputs of the statements of the transaction. -/
def statements (login : FailedLogin dto clientIp userAgent before after) : Nat → Input :=
  login.inputs 1 0

/-- The user of the login. -/
def userId (login : FailedLogin dto clientIp userAgent before after) : Uuid := login.found.user.id

/-- The transaction has got to its loop. -/
def Entered (login : FailedLogin dto clientIp userAgent before after) : Prop :=
  (login.statements 0).fault = none ∧ (login.statements 1).fault = none

instance (login : FailedLogin dto clientIp userAgent before after) : Decidable login.Entered :=
  inferInstanceAs (Decidable (_ ∧ _))

/-- What the login leaves of its transaction. -/
def remains (login : FailedLogin dto clientIp userAgent before after) : List Write :=
  if login.Entered then
    markers before.redisConnected (activeOf before login.userId) fun index =>
      login.statements (index + 2)
  else []

/-- A session of the user gets a marker that lives at a time. -/
def Marks (login : FailedLogin dto clientIp userAgent before after) (now : Instant)
    (session : Session) : Prop :=
  login.Entered ∧ Marked before.redisConnected (activeOf before login.userId)
    (fun index => login.statements (index + 2)) now session

variable (login : FailedLogin dto clientIp userAgent before after)

/-- It is a login that throws. -/
theorem throws (config : JwtConfig) :
    ((AuthService.login config dto clientIp userAgent).whole Write.durable).Throws (fun _ => True)
      before login.error after := by
  rw [login_eq, Proc.whole_bind, Proc.throws_bind]
  refine .inr ⟨_, _, login.prepared, ?_⟩
  rw [Proc.whole_bind, Proc.throws_bind]
  refine .inl ?_
  have ran : ((createSession login.found.user.id login.deviceId login.found.role.code).whole
      Write.durable).Runs (fun _ => True) login.middle _ _ :=
    Proc.runs_run _ login.inputs (fun _ _ => trivial) login.middle
  rwa [login.failed] at ran

/-- Whenever `createSession` fails in a login, the login is such a one. -/
theorem exists_of_throws {found : Prisma.UserRecord} {deviceId : String} {middle : Accounts}
    {error : Exception}
    (prepared : ((prepare dto clientIp userAgent).whole Write.durable).Returns (fun _ => True)
      before (found, deviceId) middle)
    (failed : ((createSession found.user.id deviceId found.role.code).whole Write.durable).Throws
      (fun _ => True) middle error after) :
    ∃ login : FailedLogin dto clientIp userAgent before after, login.found = found ∧
      login.deviceId = deviceId ∧ login.error = error := by
  have : Inhabited accounts.whole.Input := ⟨fun _ => {}⟩
  obtain ⟨inputs, ran⟩ := failed.exists_run
  exact ⟨⟨found, deviceId, middle, prepared, inputs, error, ran⟩, rfl, rfl, rfl⟩

/-- The first part keeps the rows, and writes nothing to Redis. -/
theorem middle_keeps : KeepsRows before login.middle ∧
    login.middle.revocations = before.revocations ∧
      login.middle.redisConnected = before.redisConnected := by
  obtain ⟨writes, all, same⟩ := (prepare_confined dto clientIp userAgent).runs login.prepared
  have whole : login.middle = before.commit writes := same
  rw [whole]
  exact ⟨.of_commit (fun write member => (all write member).1) before,
    revocations_commit (fun write member => (all write member).2) before,
    before.redisConnected_commit writes⟩

/-- What a failed login of a driver leaves. -/
theorem after_eq (driver : login.found.role.code = "DRIVER") :
    after = login.middle.commit login.remains := by
  obtain ⟨keeps, _, connected⟩ := login.middle_keeps
  have failed := login.failed
  rw [driver] at failed
  obtain ⟨body, ⟨rawRefreshToken, tokenFamily, expiresAt, rfl⟩, ran⟩ :=
    run_createSession login.found.user.id login.deviceId login.inputs login.middle
  obtain ⟨refused, left⟩ := Prod.mk.inj (ran.symm.trans failed)
  refine left.symm.trans (congrArg login.middle.commit ?_)
  rw [Txn.effects_of_failed refused, left_takeOver, connected, activeOf, keeps.sessions]
  rfl

/-- The rows are as they were before the login. -/
theorem keepsRows (driver : login.found.role.code = "DRIVER") : KeepsRows before after := by
  have harmless : ∀ write ∈ login.remains, Harmless write := by
    intro write member
    rw [remains] at member
    split at member
    · obtain ⟨_, _, rfl⟩ := mem_markers member
      trivial
    · cases member
  rw [login.after_eq driver]
  exact login.middle_keeps.1.trans (.of_commit harmless login.middle)

variable {login} {reading : Reading}

/-- A key that is revoked after the login has been before, or it is that of a marked session. -/
theorem finds_after (driver : login.found.role.code = "DRIVER") {key : RevocationKey}
    (finds : reading.Finds after key) : reading.Finds before key ∨
      ∃ session, key = .session (spelled session.id) ∧ reading.Hears before key ∧
        login.Marks reading.now session := by
  obtain ⟨_, same, connected⟩ := login.middle_keeps
  obtain ⟨hears, revoked⟩ := finds
  rw [login.after_eq driver] at hears revoked
  rw [Reading.Hears, Accounts.redisConnected_commit, connected] at hears
  have earlier (key : RevocationKey) :
      login.middle.isRevoked key reading.now = before.isRevoked key reading.now := by
    rw [Accounts.isRevoked, Accounts.isRevoked, same]
  rw [remains] at revoked
  split at revoked
  · rename_i entered
    rcases isRevoked_of_markers revoked with old | ⟨session, rfl, marked⟩
    · exact .inl ⟨hears, earlier key ▸ old⟩
    · exact .inr ⟨session, rfl, hears, entered, marked⟩
  · exact .inl ⟨hears, earlier key ▸ revoked⟩

/-- A marked session is found revoked after the login, if it is heard of. -/
theorem finds_of_marks (driver : login.found.role.code = "DRIVER") {session : Session}
    (marks : login.Marks reading.now session)
    (hears : reading.Hears before (.session (spelled session.id))) :
    reading.Finds after (.session (spelled session.id)) := by
  obtain ⟨_, _, connected⟩ := login.middle_keeps
  obtain ⟨entered, marked⟩ := marks
  have distinct : ((activeOf before login.userId).map Session.id).Nodup :=
    (List.filter_sublist.map Session.id).nodup before.sessions.unique
  rw [login.after_eq driver, remains, if_pos entered]
  refine ⟨?_, marked.isRevoked distinct⟩
  rwa [Reading.Hears, Accounts.redisConnected_commit, connected]

/-- A failed login of a driver leaves accepted what was accepted, exactly if no session that
was accepted has a marker that is heard of. -/
theorem keeps_accepted_iff (login : FailedLogin dto clientIp userAgent before after)
    (driver : login.found.role.code = "DRIVER") (reading : Reading) :
    (∀ payload, reading.Accepts before payload → reading.Accepts after payload) ↔
      ∀ session, login.Marks reading.now session →
        reading.Hears before (.session (spelled session.id)) → ∀ payload : JwtPayload,
          payload.sessionId = spelled session.id → ¬reading.Accepts before payload := by
  constructor
  · intro kept session marks hears payload named accepted
    have refused := (Reading.accepts_iff.mp (kept payload accepted)).2.1
    rw [named] at refused
    exact refused (finds_of_marks driver marks hears)
  · intro unmarked payload accepted
    obtain ⟨type, fresh, valid, record, entitled⟩ := Reading.accepts_iff.mp accepted
    have keeps := login.keepsRows driver
    refine Reading.accepts_iff.mpr ⟨type, fun finds => ?_, fun finds => ?_, keeps.entitled entitled⟩
    · rcases finds_after driver finds with old | ⟨session, same, hears, marks⟩
      · exact fresh old
      · have named := RevocationKey.session.inj same
        exact unmarked session marks (same ▸ hears) payload named accepted
    · rcases finds_after driver finds with old | ⟨session, same, _⟩
      · exact valid old
      · cases same

end FailedLogin

end Login

/-! ## A device that is not there -/

namespace UnknownDevice

local instance : UuidSpelling := unarySpelling

local instance : TokenHash := plainHash

local instance : Argon2 := plainArgon2

def driver : User where
  id := 1
  username := "d"
  phone := "0"
  passwordHash := "$argon2id$v=19$m=65536,t=3,p=4$s$p"
  roleId := 4
  status := .active

def db : Accounts :=
  { LoggedIn.db with users := Table.empty.insert driver }

/-- The client names a device that does not exist. -/
def dto : LoginDto where
  username := "d"
  password := "p"
  deviceId := some "1"

def found : Prisma.UserRecord := ⟨driver, { id := 4, code := "DRIVER" }, none⟩

/-- What the login leaves: the marker of the old session. -/
def left : Accounts :=
  { db with revocations := [(.session (spelled 3), 900000)] }

/-- Nothing fails but for the device. -/
def inputs : Nat → Nat → accounts.whole.Input :=
  fun _ _ _ => { uuid := 7 }

/-- The login's preparation succeeds. -/
theorem prepared : ((AuthService.prepare dto "" "").whole Write.durable).run inputs db =
    (.ok (found, "1"), db) := rfl

/-- The creation of the session fails at its foreign key. -/
theorem failed : ((SessionService.createSession 1 "1" "DRIVER").whole Write.durable).run inputs db =
    (.error (.prisma Prisma.foreignKey), left) := rfl

def login : FailedLogin dto "" "" db left where
  found := found
  deviceId := "1"
  middle := db
  prepared := by
    have ran : ((AuthService.prepare dto "" "").whole Write.durable).Runs (fun _ => True) db _ _ :=
      Proc.runs_run _ inputs (fun _ _ => trivial) db
    rwa [prepared] at ran
  inputs := inputs
  error := .prisma Prisma.foreignKey
  failed := failed

def reading : Reading where
  now := 1000
  heard _ := true

/-- The claims of the old session. -/
def payload : JwtPayload where
  sub := spelled 1
  role := .string "DRIVER"
  deviceId := spelled 2
  sessionId := spelled 3
  type := .string "ACCESS_TOKEN"
  exp := .absent

/-- The equivalence at the failed login. -/
theorem keeps_accepted_iff_here :
    (∀ payload, reading.Accepts db payload → reading.Accepts left payload) ↔
      ∀ session, login.Marks reading.now session →
        reading.Hears db (.session (spelled session.id)) → ∀ payload : JwtPayload,
          payload.sessionId = spelled session.id → ¬reading.Accepts db payload :=
  login.keeps_accepted_iff rfl reading

/-- Not every failed login leaves the old sessions accepted. -/
theorem keeps_accepted_violated :
    ¬∀ (dto : LoginDto) (clientIp userAgent : String) (before after : Accounts)
      (login : FailedLogin dto clientIp userAgent before after), login.found.role.code = "DRIVER" →
        ∀ (reading : Reading) (payload : JwtPayload), reading.Accepts before payload →
          reading.Accepts after payload := by
  intro always
  have accepted : reading.Accepts db payload :=
    ⟨JwtStrategy.userOf payload found, by decide +kernel⟩
  have refused : reading.Finds left (.session payload.sessionId) := ⟨.inl rfl, by decide +kernel⟩
  have kept := always dto "" "" db left login rfl reading payload accepted
  exact (Reading.accepts_iff.mp kept).2.1 refused

end UnknownDevice

end Armada.Auth
