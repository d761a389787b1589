import Mathlib.Data.List.Sort
import Armada.Realtime.WsConnectionManagerService
import Armada.Concurrency.Process

/-!
# The shared store of authentication

The tables that authentication uses, the revocation keys and the channel in Redis, and the
connection manager of the gateway, with the calls that the services make on them. A call of
Prisma may always fail for a reason of its own; the calls on Redis never throw.

An `UPDATE` of several rows is a transaction of its own, or a part of the one it stands in:
it finds its rows when it starts, then waits for the lock of each and looks at the row
again.
-/

namespace Armada.Auth

open Relational Concurrency

/-! ## Errors -/

/-- The statuses of the answers. -/
inductive HttpStatus where
  | badRequest
  | unauthorized
  | forbidden
  | notFound
  | tooManyRequests
  deriving DecidableEq

/-- What the services and guards below can throw. -/
inductive Exception where
  | http (status : HttpStatus) (code : Option String) (message : String)
  /-- A plain `Error`. -/
  | error (message : String)
  | refreshTokenReuse (session : Session)
  | prisma (error : PrismaError)
  | typeError
  deriving DecidableEq

/-- An answer with the status 401. -/
def unauthorized (code message : String) : Exception := .http .unauthorized (some code) message

/-! ## The state -/

/-- The store that the services of authentication share. -/
structure Accounts where
  users : Table User := .empty
  roles : Table RoleRecord := .empty
  drivers : List Driver := []
  devices : Table Device := .empty
  sessions : Table Session := .empty
  auditLogs : List AuditLog := []
  /-- The revocation keys in Redis, with the time at which each expires. -/
  revocations : List (RevocationKey × Instant) := []
  /-- The messages on `security:revocation` that have not been handled. -/
  published : List RevocationEventPayload := []
  /-- Redis is connected, and none of its calls fails. Otherwise the environment decides
  what a call answers. -/
  redisConnected : Bool := true
  connections : Realtime.WsConnectionManagerService := {}

namespace Accounts

/-- The user with an id. -/
def user? (db : Accounts) (id : Uuid) : Option User := db.users.find? id

/-- The device with an id. -/
def device? (db : Accounts) (id : Uuid) : Option Device := db.devices.find? id

/-- The session with an id. -/
def session? (db : Accounts) (id : Uuid) : Option Session := db.sessions.find? id

/-- The role of a user. -/
def role? (db : Accounts) (user : User) : Option RoleRecord := db.roles.find? user.roleId

/-- The driver that a user is, if it is one. -/
def driver? (db : Accounts) (user : User) : Option Driver :=
  db.drivers.find? fun row => row.userId = user.id

/-- A revocation key that has not expired. -/
def isRevoked (db : Accounts) (key : RevocationKey) (now : Instant) : Bool :=
  db.revocations.any fun entry => entry.1 = key && now < entry.2

end Accounts

/-! ## Writes -/

/-- The columns of `users` an update sets. -/
structure UserData where
  passwordHash : Option String := none
  roleId : Option Uuid := none
  status : Option AccountStatus := none
  lastLoginAt : Option Instant := none
  deriving DecidableEq

/-- The row after an update; what is not given stays. -/
def UserData.set (data : UserData) (row : User) : User :=
  { row with
    passwordHash := data.passwordHash.getD row.passwordHash
    roleId := data.roleId.getD row.roleId
    status := data.status.getD row.status
    lastLoginAt := data.lastLoginAt <|> row.lastLoginAt }

/-- The columns of `devices` an update sets. -/
structure DeviceData where
  platform : Option PlatformType := none
  appVersion : Option String := none
  pushToken : Option String := none
  status : Option DeviceStatus := none
  lastSeenAt : Option Instant := none
  deriving DecidableEq

/-- The row after an update; what is not given stays. -/
def DeviceData.set (data : DeviceData) (row : Device) : Device :=
  { row with
    platform := data.platform.getD row.platform
    appVersion := data.appVersion.getD row.appVersion
    pushToken := data.pushToken <|> row.pushToken
    status := data.status.getD row.status
    lastSeenAt := data.lastSeenAt.getD row.lastSeenAt }

/-- The updates of a session: each sets `isRevoked`, that of a rotation also the time. -/
def Session.revoke (lastRefreshedAt : Option Instant) (row : Session) : Session :=
  { row with isRevoked := true, lastRefreshedAt := lastRefreshedAt.getD row.lastRefreshedAt }

/-- A change of one row, of Redis or of the registered sockets. -/
inductive Write where
  | createUser (row : User)
  | updateUser (id : Uuid) (data : UserData)
  | createDevice (row : Device)
  | updateDevice (id : Uuid) (data : DeviceData)
  | createSession (row : Session)
  | revokeSession (id : Uuid) (lastRefreshedAt : Option Instant)
  | createAuditLog (row : AuditLog)
  | setRevocation (key : RevocationKey) (expiresAt : Instant)
  | publish (event : RevocationEventPayload)
  /-- The next message of the channel is handed to its handler. -/
  | handleMessage
  | registerSocket (socket : Realtime.Socket)
  | removeSocket (socketId : Realtime.SocketId)
  deriving DecidableEq

/-- Every socket that the connection manager disconnects calls `handleDisconnect` at once. -/
def Write.apply : Write → Accounts → Accounts
  | .createUser row, db => { db with users := db.users.insert row }
  | .updateUser id data, db => { db with users := db.users.modify id data.set }
  | .createDevice row, db => { db with devices := db.devices.insert row }
  | .updateDevice id data, db => { db with devices := db.devices.modify id data.set }
  | .createSession row, db => { db with sessions := db.sessions.insert row }
  | .revokeSession id lastRefreshedAt, db =>
      { db with sessions := db.sessions.modify id (Session.revoke lastRefreshedAt) }
  | .createAuditLog row, db => { db with auditLogs := db.auditLogs ++ [row] }
  | .setRevocation key expiresAt, db =>
      { db with
        revocations := (key, expiresAt) :: db.revocations.filter fun entry => entry.1 ≠ key }
  | .publish event, db => { db with published := db.published ++ [event] }
  | .handleMessage, db =>
      match db.published with
      | [] => db
      | event :: rest =>
          { db with
            published := rest
            connections := db.connections.handleRevocationMessage (fun _ => true) event }
  | .registerSocket socket, db =>
      { db with connections := db.connections.registerSocket (fun _ => true) socket }
  | .removeSocket socketId, db => { db with connections := db.connections.removeSocket socketId }

/-- Redis knows nothing of transactions: what has been written there stays. -/
def Write.durable : Write → Bool
  | .setRevocation _ _ => true
  | .publish _ => true
  | _ => false

/-! ## Locks and the signature -/

/-- The strength of a row lock. -/
inductive LockMode where
  | keyShare
  | noKeyUpdate
  | update
  deriving DecidableEq

/-- `FOR KEY SHARE` lets everything pass but `FOR UPDATE`. -/
def LockMode.conflicts : LockMode → LockMode → Bool
  | .keyShare, .update => true
  | .keyShare, _ => false
  | .update, _ => true
  | .noKeyUpdate, mode => mode ≠ .keyShare

/-- A locked row. All that lock a session update it or have inserted it. -/
inductive Lock where
  | user (id : Uuid) (mode : LockMode)
  | device (id : Uuid) (mode : LockMode)
  | session (id : Uuid)
  deriving DecidableEq

/-- Two locks that cannot be held together. -/
def Lock.clashes : Lock → Lock → Bool
  | .user id mode, .user other held => id = other && mode.conflicts held
  | .device id mode, .device other held => id = other && mode.conflicts held
  | .session id, .session other => id = other
  | _, _ => false

/-- What the environment supplies to one call: generated values, the clock, the answer of
the rate counter, what Redis answers when it is not connected, and a failure of the call's
own. -/
structure Input where
  uuid : Uuid := 0
  secret : String := ""
  salt : String := ""
  now : Instant := 0
  rateCount : Nat := 1
  redisAnswer : RevocationKey → Option Bool := fun _ => none
  redisFails : Bool := true
  fault : Option PrismaError := none

/-- The database and Redis as these services use them. -/
abbrev accounts : Signature where
  State := Accounts
  Write := Write
  Input := Input
  Lock := Lock
  Error := Exception
  apply := Write.apply
  clash mine theirs := mine.clashes theirs
  fault input := input.fault.map Exception.prisma

/-- A call of Prisma. -/
def query {β : Type} (locks : Input → Accounts → List Lock)
    (body : Input → Accounts → Except PrismaError (β × List Write)) : Statement accounts β where
  locks := locks
  exec input db :=
    match input.fault with
    | some error => .error (.prisma error)
    | none =>
        match body input db with
        | .ok result => .ok result
        | .error error => .error (.prisma error)

/-- A call of Prisma that only reads. -/
def select {β : Type} (body : Accounts → Except PrismaError β) : Statement accounts β :=
  query (fun _ _ => []) fun _ db => (body db).map fun value => (value, [])

/-- A call that takes no lock and never fails. -/
def effect {β : Type} (body : Input → Accounts → β × List Write) : Statement accounts β where
  locks _ _ := []
  exec input db := .ok (body input db)

/-- The clock and the generators of random values, for what is computed between two calls. -/
def ask : Statement accounts Input := effect fun input _ => (input, [])

/-! ## The calls of Prisma, by model -/

namespace Prisma

/-- A unique constraint is violated. -/
def unique : PrismaError := .knownRequest .uniqueConstraint

/-- A foreign key names no row. -/
def foreignKey : PrismaError := .knownRequest .foreignKeyConstraint

/-- The row of an update is not there. -/
def notFound : PrismaError := .knownRequest .recordNotFound

/-- Fail with an error unless a condition holds. -/
def check (condition : Prop) [Decidable condition] (error : PrismaError) :
    Except PrismaError Unit :=
  if condition then .ok () else .error error

/-- A user with its relations `role` and `driver`. -/
structure UserRecord where
  user : Auth.User
  role : RoleRecord
  driver : Option Driver

namespace User

/-- The relations of a row that has been found. -/
def withRelations (db : Accounts) : Option Auth.User → Except PrismaError (Option UserRecord)
  | none => .ok none
  | some user =>
      match db.role? user with
      | none => .error .unknownRequest
      | some role => .ok (some ⟨user, role, db.driver? user⟩)

/-- Read a user with its relations. -/
def findUnique (id : Except PrismaError Uuid) : Statement accounts (Option UserRecord) :=
  select fun db => do User.withRelations db (db.user? (← id))

/-- Read the first user that is selected. -/
def findFirst (selects : Auth.User → Bool) : Statement accounts (Option UserRecord) :=
  select fun db => User.withRelations db (db.users.rows.find? selects)

/-- `SELECT id FROM users WHERE id = … FOR UPDATE`. -/
def selectForUpdate (id : Uuid) : Statement accounts Unit :=
  query (fun _ _ => [.user id .update]) fun _ _ => .ok ((), [])

/-- Columns with unique indexes: `username`, `email` and `phone`. -/
def create (row : Input → Auth.User) : Statement accounts Auth.User :=
  query (fun _ _ => []) fun input db => do
    let row := row input
    check (db.user? row.id = none) unique
    check (∀ other ∈ db.users.rows, other.username ≠ row.username ∧ other.phone ≠ row.phone) unique
    check (∀ email ∈ row.email, ∀ other ∈ db.users.rows, other.email ≠ some email) unique
    check (db.role? row ≠ none) foreignKey
    .ok (row, [.createUser row])

/-- Update a user. -/
def update (id : Except PrismaError Uuid) (data : Input → UserData) : Statement accounts UserRecord :=
  query (fun _ _ => id.toOption.toList.map fun id => .user id .noKeyUpdate) fun input db => do
    let id ← id
    match db.user? id with
    | none => .error notFound
    | some row => do
        let row := (data input).set row
        match db.role? row with
        | none => .error foreignKey
        | some role => .ok (⟨row, role, db.driver? row⟩, [.updateUser id (data input)])

end User

namespace Role

/-- Read a role by its code. -/
def findUnique (code : String) : Statement accounts (Option RoleRecord) :=
  select fun db => .ok (db.roles.rows.find? fun row => row.code = code)

end Role

namespace Device

/-- Read a device. -/
def findUnique (id : Except PrismaError Uuid) : Statement accounts (Option Auth.Device) :=
  select fun db => do
    let id ← id
    .ok (db.device? id)

/-- Read the device of a user by its identifier. -/
def findFirst (userId : Uuid) (deviceIdentifier : String) : Statement accounts (Option Auth.Device) :=
  select fun db => .ok (db.devices.rows.find? fun row =>
    row.userId = userId && row.deviceIdentifier = deviceIdentifier)

/-- Insert a device. -/
def create (row : Input → Auth.Device) : Statement accounts Auth.Device :=
  query (fun input _ => [.user (row input).userId .keyShare]) fun input db => do
    let row := row input
    check (row.deviceIdentifier.length ≤ 100 ∧ row.appVersion.length ≤ 50) (.knownRequest .valueTooLong)
    check (db.device? row.id = none) unique
    check (db.user? row.userId ≠ none) foreignKey
    .ok (row, [.createDevice row])

/-- Update a device. -/
def update (id : Except PrismaError Uuid) (data : Input → DeviceData) :
    Statement accounts Auth.Device :=
  query (fun _ _ => id.toOption.toList.map fun id => .device id .noKeyUpdate) fun input db => do
    let id ← id
    match db.device? id with
    | none => .error notFound
    | some row => .ok ((data input).set row, [.updateDevice id (data input)])

end Device

/-- The conditions on sessions that the services use. -/
structure SessionWhere where
  id : Option Uuid := none
  userId : Option Uuid := none
  deviceId : Option Uuid := none
  tokenFamily : Option Uuid := none
  isRevoked : Option Bool := none

/-- The session meets the condition. -/
def SessionWhere.selects (condition : SessionWhere) (row : Auth.Session) : Bool :=
  condition.id.all (· = row.id) && condition.userId.all (· = row.userId) &&
    condition.deviceId.all (· = row.deviceId) &&
    condition.tokenFamily.all (· = row.tokenFamily) && condition.isRevoked.all (· = row.isRevoked)

namespace Session

/-- Read a session. -/
def findUnique (id : Except PrismaError Uuid) : Statement accounts (Option Auth.Session) :=
  select fun db => do
    let id ← id
    .ok (db.session? id)

/-- `findUnique` with the device of the session. -/
def findWithDevice (id : Except PrismaError Uuid) :
    Statement accounts (Option (Auth.Session × Auth.Device)) :=
  select fun db => do
    let id ← id
    match db.session? id with
    | none => .ok none
    | some session =>
        match db.device? session.deviceId with
        | none => .error .unknownRequest
        | some device => .ok (some (session, device))

/-- Read the session that holds the hash of a refresh token. -/
def findByHash (refreshTokenHash : String) : Statement accounts (Option Auth.Session) :=
  select fun db => .ok (db.sessions.rows.find? fun row => row.refreshTokenHash = refreshTokenHash)

/-- Read the sessions that meet a condition. -/
def findMany (condition : Except PrismaError SessionWhere) : Statement accounts (List Auth.Session) :=
  select fun db => do
    let condition ← condition
    .ok (db.sessions.rows.filter condition.selects)

/-- `findMany` with `orderBy: { lastRefreshedAt: 'asc' }`. -/
def findOldestFirst (condition : SessionWhere) : Statement accounts (List Auth.Session) :=
  select fun db => .ok ((db.sessions.rows.filter condition.selects).insertionSort fun left right =>
    left.lastRefreshedAt ≤ right.lastRefreshedAt)

/-- The data of `create`; `id` and `lastRefreshedAt` have defaults. The foreign keys lock
the rows of the user and the device. -/
def create (userId : Uuid) (deviceId : Except PrismaError Uuid) (refreshTokenHash : String)
    (tokenFamily : Uuid) (expiresAt : Instant) : Statement accounts Auth.Session :=
  query
    (fun input _ => .session input.uuid :: .user userId .keyShare ::
      deviceId.toOption.toList.map fun deviceId => .device deviceId .keyShare)
    fun input db => do
      let deviceId ← deviceId
      let row : Auth.Session :=
        { id := input.uuid, userId, deviceId, refreshTokenHash, tokenFamily, expiresAt,
          lastRefreshedAt := input.now }
      check (db.session? row.id = none) unique
      check (db.user? userId ≠ none) foreignKey
      check (db.device? deviceId ≠ none) foreignKey
      .ok (row, [.createSession row])

/-- The `update` of one row by its id, which sets `isRevoked`. -/
def update (id : Except PrismaError Uuid) : Statement accounts Unit :=
  query (fun _ _ => id.toOption.toList.map Lock.session) fun _ db => do
    let id ← id
    check (db.session? id ≠ none) notFound
    .ok ((), [.revokeSession id none])

/-- The rows that an `UPDATE` finds when it starts. -/
def candidates (condition : SessionWhere) : Statement accounts (List Uuid) :=
  select fun db => .ok ((db.sessions.rows.filter condition.selects).map Auth.Session.id)

/-- The `UPDATE` of one of its rows, if its condition still selects it. -/
def updateIfStill (condition : SessionWhere) (lastRefreshedAt : Option Instant) (id : Uuid) :
    Statement accounts Nat :=
  query (fun _ db => if (db.session? id).any condition.selects then [.session id] else [])
    fun _ db =>
      if (db.session? id).any condition.selects then .ok (1, [.revokeSession id lastRefreshedAt])
      else .ok (0, [])

/-- Revoke those of the candidates that meet the condition still. -/
def updateEach (condition : SessionWhere) (lastRefreshedAt : Option Instant) :
    List Uuid → Nat → Txn accounts Nat
  | [], count => pure count
  | id :: ids, count => do
      let changed ← updateIfStill condition lastRefreshedAt id
      updateEach condition lastRefreshedAt ids (count + changed)

/-- `updateMany` with `data: { isRevoked: true }`: the count of rows. -/
def updateMany (condition : Except PrismaError SessionWhere)
    (lastRefreshedAt : Option Instant := none) : Txn accounts Nat :=
  match condition with
  | .error error => .fail (.prisma error)
  | .ok condition => do
      let ids ← candidates condition
      updateEach condition lastRefreshedAt ids 0

end Session

namespace AuditLog

/-- Insert an audit row. -/
def create (row : Auth.AuditLog) : Statement accounts Unit :=
  query (fun _ _ => []) fun _ _ => .ok ((), [.createAuditLog row])

end AuditLog

end Prisma

/-! ## Redis -/

namespace RedisService

/-- `isRevoked`: `null` stands for an answer that is not to be had. -/
def isRevoked (key : RevocationKey) : Statement accounts (Option Bool) :=
  effect fun input db =>
    (if db.redisConnected then some (db.isRevoked key input.now) else input.redisAnswer key, [])

/-- Set a mark; nothing where Redis is down. -/
def setRevocation (key : RevocationKey) (ttlSeconds : Nat) : Statement accounts Unit :=
  effect fun input db =>
    ((), if db.redisConnected || !input.redisFails then
      [.setRevocation key (input.now + ttlSeconds * 1000)] else [])

/-- `publish` on `security:revocation`. -/
def publish (event : Input → RevocationEventPayload) : Statement accounts Unit :=
  effect fun input db =>
    ((), if db.redisConnected || !input.redisFails then [.publish (event input)] else [])

/-- `incrRateLimit`; the counter is read nowhere else. -/
def incrRateLimit (_key : String) (_windowSeconds : Nat) : Statement accounts Nat :=
  effect fun input _ => (input.rateCount, [])

/-- Delete a counter, which this store does not hold. -/
def resetRateLimit (_key : String) : Statement accounts Unit :=
  effect fun _ _ => ((), [])

end RedisService

end Armada.Auth
