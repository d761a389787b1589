import Armada.Auth.Calls
import Armada.Auth.Requests
import Armada.Concurrency.Sequential

/-!
# What the checks of tokens and sockets accept

`JwtStrategy.validate`, `validateHandshake` and `validateSocket` let pass only what the
database entitles: here for a check whose reads are one step, and for one that runs among
other requests, whose reading of the session row is one of its steps.
-/

namespace Armada.Auth

open Relational Concurrency

section Spelling

variable [UuidSpelling]

/-- The printed text of an id is read as the id. -/
@[simp] theorem toUuid_spelled (id : Uuid) : (spelled id).toUuid = .ok id := by
  simp [spelled, JsValue.toUuid, UuidSpelling.parse_text]

/-- No two ids are printed alike. -/
theorem spelled_injective {left right : Uuid} (same : spelled left = spelled right) : left = right :=
  Except.ok.inj ((toUuid_spelled left).symm.trans (same ▸ toUuid_spelled right))

/-- So texts may be compared instead of ids. -/
@[simp] theorem spelled_inj {left right : Uuid} : spelled left = spelled right ↔ left = right :=
  ⟨spelled_injective, congrArg spelled⟩

/-- No id is spelled as the empty string. -/
@[simp] theorem truthy_spelled (id : Uuid) : (spelled id).truthy = true := by
  rw [spelled, JsValue.truthy, decide_eq_true_eq]
  intro empty
  have parsed := UuidSpelling.parse_text id
  rw [empty, UuidSpelling.parse_empty] at parsed
  cases parsed

end Spelling

/-! ## Entitlement -/

/-- The session row that a token or a socket names, with its device: not revoked, on a
device that is active, and of the user and the device that are named too. -/
structure Admits [UuidSpelling] (db : Accounts) (userId deviceId sessionId : JsValue)
    (session : Session) (device : Device) : Prop where
  named : sessionId.toUuid = .ok session.id
  foundSession : db.session? session.id = some session
  foundDevice : db.device? session.deviceId = some device
  sameUser : spelled session.userId = userId
  sameDevice : spelled session.deviceId = deviceId
  owner : device.userId = session.userId
  unrevoked : session.isRevoked = false
  active : device.status = .active

/-- What a token or a socket has to have in the database: besides, the session has not
expired, and the user is active and has the role. -/
structure Entitled [UuidSpelling] (db : Accounts) (now : Instant)
    (userId role deviceId sessionId : JsValue) (record : Prisma.UserRecord) : Prop where
  foundUser : db.user? record.user.id = some record.user
  recorded : Prisma.User.Recorded db record
  active : record.user.status = .active
  sameRole : .string record.role.code = role
  admitted : ∃ session device, Admits db userId deviceId sessionId session device ∧
    session.userId = record.user.id ∧ now < session.expiresAt

/-- A check whose reads are one step lets pass, with a value. -/
def Accepts {α : Type} (check : Proc accounts α) (input : Input) (db : Accounts) (value : α) : Prop :=
  (check.run (fun _ _ => input) db).1 = .ok value

instance {α : Type} [DecidableEq α] (check : Proc accounts α) (input : Input) (db : Accounts)
    (value : α) : Decidable (Accepts check input db value) :=
  inferInstanceAs (Decidable (_ = _))

/-- What Redis answers about a key. -/
def redisAnswer (db : Accounts) (input : Input) (key : RevocationKey) : Option Bool :=
  if db.redisConnected then some (db.isRevoked key input.now) else input.redisAnswer key

/-! ## Checks whose reads are one step -/

section Alone

open Proc (returns_bind returns_bind_of_quiet returns_rejectIf returns_rejectIf_bind
  returns_require_bind)

variable {db after : Accounts} {input : Input}

/-- A check accepts if it returns, with one input throughout. -/
theorem accepts_iff {α : Type} {check : Proc accounts α} {value : α} :
    Accepts check input db value ↔ ∃ after, check.Returns (· = input) db value after := by
  simp only [Proc.Returns, Proc.runs_iff_run, Accepts]
  constructor
  · intro same
    exact ⟨_, Prod.ext same rfl⟩
  · rintro ⟨_, same⟩
    exact congrArg Prod.fst same

/-- A call that writes nothing leaves the store. -/
theorem returns_lift_of_quiet {β : Type} {statement : Statement accounts β} {value : β}
    (quiet : ∀ {value writes}, statement.Succeeds input db value writes → writes = []) :
    (liftM statement : Proc accounts β).Returns (· = input) db value after ↔
      statement.Succeeds input db value [] ∧ after = db := by
  rw [Proc.returns_lift]
  constructor
  · rintro ⟨_, writes, rfl, executed, rfl⟩
    obtain rfl := quiet executed
    exact ⟨executed, rfl⟩
  · rintro ⟨executed, rfl⟩
    exact ⟨input, [], rfl, executed, rfl⟩

/-- Who asks for the input gets it, and the store stays. -/
@[simp] theorem returns_ask {answer : Input} :
    (liftM ask : Proc accounts Input).Returns (· = input) db answer after ↔
      answer = input ∧ after = db := by
  rw [returns_lift_of_quiet fun executed => (ask_succeeds.mp executed).2]
  simp [ask_succeeds]

/-- Redis is asked once, and answers by its marks. -/
@[simp] theorem returns_isRevoked {key : RevocationKey} {answer : Option Bool} :
    (liftM (RedisService.isRevoked key) : Proc accounts _).Returns (· = input) db answer after ↔
      answer = redisAnswer db input key ∧ after = db := by
  rw [returns_lift_of_quiet fun executed => (RedisService.isRevoked_succeeds executed).1]
  refine and_congr_left fun _ => ?_
  rw [RedisService.isRevoked, effect_succeeds, Prod.mk.injEq]
  exact ⟨fun same => same.1.symm, fun same => ⟨same.symm, rfl⟩⟩

/-- A user is read without a change. -/
@[simp] theorem returns_findUser {id : Except PrismaError Uuid} {found : Option Prisma.UserRecord} :
    (liftM (Prisma.User.findUnique id) : Proc accounts _).Returns (· = input) db found after ↔
      (Prisma.User.findUnique id).Succeeds input db found [] ∧ after = db :=
  returns_lift_of_quiet fun executed => (Prisma.User.findUnique_succeeds.mp executed).2.1

/-- So is a session. -/
@[simp] theorem returns_findSession {id : Except PrismaError Uuid}
    {found : Option (Session × Device)} :
    (liftM (Prisma.Session.findWithDevice id) : Proc accounts _).Returns (· = input) db found after ↔
      (Prisma.Session.findWithDevice id).Succeeds input db found [] ∧ after = db :=
  returns_lift_of_quiet fun executed => (Prisma.Session.findWithDevice_succeeds.mp executed).2.1

section Steps

variable {β : Type} {value : β}

/-- A guard reads its input, the answers of Redis and the rows it looks up, and leaves the
store with each of them. -/
theorem returns_ask_bind {next : Input → Proc accounts β} :
    ((liftM ask : Proc accounts Input) >>= next).Returns (· = input) db value after ↔
      (next input).Returns (· = input) db value after := by
  rw [returns_bind_of_quiet returns_ask, exists_eq_left]

/-- The answer of Redis decides how the check goes on. -/
theorem returns_isRevoked_bind {key : RevocationKey} {next : Option Bool → Proc accounts β} :
    ((liftM (RedisService.isRevoked key) : Proc accounts _) >>= next).Returns (· = input) db value
        after ↔ (next (redisAnswer db input key)).Returns (· = input) db value after := by
  rw [returns_bind_of_quiet returns_isRevoked, exists_eq_left]

/-- The user that is found does. -/
theorem returns_findUser_bind {id : Except PrismaError Uuid}
    {next : Option Prisma.UserRecord → Proc accounts β} :
    ((liftM (Prisma.User.findUnique id) : Proc accounts _) >>= next).Returns (· = input) db value
        after ↔ ∃ found, (Prisma.User.findUnique id).Succeeds input db found [] ∧
          (next found).Returns (· = input) db value after :=
  returns_bind_of_quiet returns_findUser

/-- The session that is found does. -/
theorem returns_findSession_bind {id : Except PrismaError Uuid}
    {next : Option (Session × Device) → Proc accounts β} :
    ((liftM (Prisma.Session.findWithDevice id) : Proc accounts _) >>= next).Returns (· = input) db
        value after ↔ ∃ found, (Prisma.Session.findWithDevice id).Succeeds input db found [] ∧
          (next found).Returns (· = input) db value after :=
  returns_bind_of_quiet returns_findSession

end Steps

variable [UuidSpelling]

namespace JwtStrategy

/-- When a session is not refused: its user and device fit, nothing is revoked, it has not
expired. -/
theorem not_refused {session : Session} {device : Device} {userId deviceId : JsValue} {now : Instant} :
    ¬sessionRefused session device userId deviceId now ↔
      spelled session.userId = userId ∧ spelled session.deviceId = deviceId ∧
        device.userId = session.userId ∧ session.isRevoked = false ∧ now < session.expiresAt ∧
        device.status = .active := by
  simp only [sessionRefused, not_or, ne_eq, not_not, Bool.not_eq_true, Nat.not_le]
  constructor
  · rintro ⟨rfl, sameDevice, owner, rest⟩
    exact ⟨rfl, sameDevice, spelled_injective owner, rest⟩
  · rintro ⟨rfl, sameDevice, owner, rest⟩
    exact ⟨rfl, sameDevice, congrArg spelled owner, rest⟩

/-- The condition on the session row, of what has been read. -/
theorem admits_of_read {key : Uuid} {userId deviceId sessionId : JsValue} {session : Session}
    {device : Device} {now : Instant} (named : sessionId.toUuid = .ok key)
    (found : db.session? key = some session) (foundDevice : db.device? session.deviceId = some device)
    (accepted : ¬sessionRefused session device userId deviceId now) :
    Admits db userId deviceId sessionId session device ∧ now < session.expiresAt := by
  obtain ⟨sameUser, sameDevice, owner, unrevoked, unexpired, active⟩ := not_refused.mp accepted
  obtain rfl := Accounts.id_of_session? found
  exact ⟨⟨named, found, foundDevice, sameUser, sameDevice, owner, unrevoked, active⟩, unexpired⟩

/-- The check of a session passes exactly if the session is admitted and no fault comes. -/
theorem checkSession_returns {payload : JwtPayload} {refused : Exception} {answer : Unit} :
    (checkSession payload refused).Returns (· = input) db answer after ↔
      (input.fault = none ∧ ∃ session device,
        Admits db payload.sub payload.deviceId payload.sessionId session device ∧
          input.now < session.expiresAt) ∧ after = db := by
  simp only [checkSession, returns_findSession_bind, returns_require_bind, returns_ask_bind,
    returns_rejectIf, Prisma.Session.findWithDevice_succeeds]
  constructor
  · rintro ⟨_, ⟨fault, _, key, named, none | ⟨session, device, found, foundDevice, rfl⟩⟩, pair, same,
      accepted, rfl⟩
    · cases none.2.symm.trans same
    · cases same
      obtain ⟨admits, unexpired⟩ := admits_of_read named found foundDevice accepted
      exact ⟨⟨fault, session, device, admits, unexpired⟩, rfl⟩
  · rintro ⟨⟨fault, session, device, admits, unexpired⟩, rfl⟩
    exact ⟨_, ⟨fault, trivial, session.id, admits.named,
      .inr ⟨session, device, admits.foundSession, admits.foundDevice, rfl⟩⟩, (session, device), rfl,
      not_refused.mpr ⟨admits.sameUser, admits.sameDevice, admits.owner, admits.unrevoked, unexpired,
        admits.active⟩, rfl⟩

/-- What follows it runs exactly then. -/
theorem returns_checkSession_bind {β : Type} {payload : JwtPayload} {refused : Exception}
    {next : Unit → Proc accounts β} {value : β} :
    (checkSession payload refused >>= next).Returns (· = input) db value after ↔
      (input.fault = none ∧ ∃ session device,
        Admits db payload.sub payload.deviceId payload.sessionId session device ∧
          input.now < session.expiresAt) ∧ (next ()).Returns (· = input) db value after := by
  rw [returns_bind_of_quiet checkSession_returns]
  exact ⟨fun ⟨_, passed⟩ => passed, fun passed => ⟨(), passed⟩⟩

omit [UuidSpelling] in
/-- The session is looked at unless the answer is that it is revoked. -/
theorem looks_at_session {answer : Option Bool} (fresh : answer ≠ some true) :
    answer = some false ∨ answer = none := by
  cases answer with
  | none => exact .inr rfl
  | some revoked => cases revoked with
    | false => exact .inl rfl
    | true => exact absurd rfl fresh

/-- The user of a request with a token. -/
def userOf (payload : JwtPayload) (record : Prisma.UserRecord) : AuthUser where
  id := record.user.id
  username := record.user.username
  role := record.role.code
  organizationId := record.user.organizationId
  permissions := record.role.permissions
  deviceId := payload.deviceId
  sessionId := payload.sessionId
  driverId := record.driver.map Driver.id

/-- What has been read of a user and its session, put together. -/
theorem entitled_of_admits {userId role deviceId sessionId : JsValue} {key : Uuid}
    {record : Prisma.UserRecord} {session : Session} {device : Device} {now : Instant}
    (named : userId.toUuid = .ok key) (foundUser : db.user? key = some record.user)
    (recorded : Prisma.User.Recorded db record) (active : record.user.status = .active)
    (sameRole : .string record.role.code = role)
    (admits : Admits db userId deviceId sessionId session device)
    (unexpired : now < session.expiresAt) :
    Entitled db now userId role deviceId sessionId record := by
  obtain rfl := Accounts.id_of_user? foundUser
  have same : session.userId = record.user.id := by
    rw [← admits.sameUser, toUuid_spelled] at named
    exact Except.ok.inj named
  exact ⟨foundUser, recorded, active, sameRole, session, device, admits, same, unexpired⟩

/-- `validate` accepts the claims of an access token that the database entitles, unless Redis
says that its session or its user is revoked. -/
theorem accepts_validate {payload : JwtPayload} {user : AuthUser} :
    Accepts (validate payload) input db user ↔ input.fault = none ∧
      payload.type = .string "ACCESS_TOKEN" ∧
      redisAnswer db input (.session payload.sessionId) ≠ some true ∧
      redisAnswer db input (.user payload.sub) ≠ some true ∧
      ∃ record, Entitled db input.now payload.sub payload.role payload.deviceId payload.sessionId
        record ∧ user = userOf payload record := by
  rw [accepts_iff]
  simp only [validate, returns_rejectIf_bind, returns_isRevoked_bind, returns_findUser_bind,
    returns_require_bind, Prisma.User.findUnique_succeeds, ne_eq, not_not]
  constructor
  · rintro ⟨_, type, fresh, _, ⟨fault, _, key, named, read⟩, record, rfl, active, sameRole, valid, rest⟩
    rw [if_pos (looks_at_session fresh)] at rest
    rw [returns_checkSession_bind, Proc.returns_pure] at rest
    obtain ⟨⟨_, session, device, admits, unexpired⟩, rfl, rfl⟩ := rest
    rcases read with ⟨_, none⟩ | ⟨_, foundUser, found, recorded⟩
    · cases none
    · cases found
      exact ⟨fault, type, fresh, valid, record,
        entitled_of_admits named foundUser recorded active sameRole admits unexpired, rfl⟩
  · rintro ⟨fault, type, fresh, valid, record, entitled, rfl⟩
    obtain ⟨session, device, admits, same, unexpired⟩ := entitled.admitted
    have named : payload.sub.toUuid = .ok record.user.id := by
      rw [← admits.sameUser, same, toUuid_spelled]
    refine ⟨db, type, fresh, some record,
      ⟨fault, trivial, _, named, .inr ⟨record, entitled.foundUser, rfl, entitled.recorded⟩⟩, record, rfl,
      entitled.active, entitled.sameRole, valid, ?_⟩
    rw [if_pos (looks_at_session fresh)]
    rw [returns_checkSession_bind, Proc.returns_pure]
    exact ⟨⟨fault, session, device, admits, unexpired⟩, rfl, rfl⟩

end JwtStrategy

namespace WsJwtAuthGuard

/-- What a handshake leaves on the socket. -/
def dataOf (payload : JwtPayload) (record : Prisma.UserRecord) (accessTokenExp : Rat)
    (connectedAt : Instant) : AuthenticatedSocketData where
  userId := spelled record.user.id
  username := record.user.username
  role := record.role.code
  organizationId := record.user.organizationId
  permissions := record.role.permissions
  deviceId := payload.deviceId
  sessionId := payload.sessionId
  accessTokenExp := accessTokenExp
  driverId := record.driver.map Driver.id
  connectedAt := connectedAt

/-- The claims that the database entitles are not empty. -/
theorem claims_complete {payload : JwtPayload} {record : Prisma.UserRecord} {now : Instant}
    (entitled : Entitled db now payload.sub payload.role payload.deviceId payload.sessionId record) :
    payload.sessionId.truthy = true ∧ payload.sub.truthy = true ∧ payload.deviceId.truthy = true := by
  obtain ⟨session, device, admits, _, _⟩ := entitled.admitted
  refine ⟨?_, by rw [← admits.sameUser, truthy_spelled], by rw [← admits.sameDevice, truthy_spelled]⟩
  have named := admits.named
  cases value : payload.sessionId with
  | string text =>
      rw [value, JsValue.toUuid] at named
      rw [JsValue.truthy, decide_eq_true_eq]
      rintro rfl
      rw [UuidSpelling.parse_empty] at named
      cases named
  | _ => rw [value] at named; cases named

/-- A handshake accepts the claims that `validate` accepts, if they have an expiry. -/
theorem accepts_validatePayload {payload : JwtPayload} {data : AuthenticatedSocketData} :
    Accepts (validatePayload payload) input db data ↔ input.fault = none ∧
      payload.type = .string "ACCESS_TOKEN" ∧
      redisAnswer db input (.session payload.sessionId) ≠ some true ∧
      redisAnswer db input (.user payload.sub) ≠ some true ∧
      ∃ record, Entitled db input.now payload.sub payload.role payload.deviceId payload.sessionId
        record ∧ ∃ accessTokenExp, finite payload.exp = some accessTokenExp ∧
          data = dataOf payload record accessTokenExp input.now := by
  rw [accepts_iff]
  simp only [validatePayload, returns_rejectIf_bind, returns_isRevoked_bind, returns_findUser_bind,
    returns_require_bind, Prisma.User.findUnique_succeeds, ne_eq, not_not]
  constructor
  · rintro ⟨_, type, _, accessTokenExp, isFinite, fresh, _, ⟨fault, _, key, named, read⟩, record, rfl,
      active, sameRole, rest⟩
    rw [if_pos (JwtStrategy.looks_at_session fresh)] at rest
    rw [JwtStrategy.returns_checkSession_bind, returns_isRevoked_bind, returns_rejectIf_bind,
      returns_ask_bind, Proc.returns_pure] at rest
    obtain ⟨⟨_, session, device, admits, unexpired⟩, valid, rfl, rfl⟩ := rest
    rcases read with ⟨_, none⟩ | ⟨_, foundUser, found, recorded⟩
    · cases none
    · cases found
      exact ⟨fault, type, fresh, valid, record, JwtStrategy.entitled_of_admits named foundUser recorded
        active sameRole admits unexpired, accessTokenExp, isFinite, rfl⟩
  · rintro ⟨fault, type, fresh, valid, record, entitled, accessTokenExp, isFinite, rfl⟩
    obtain ⟨session, device, admits, same, unexpired⟩ := entitled.admitted
    have named : payload.sub.toUuid = .ok record.user.id := by
      rw [← admits.sameUser, same, toUuid_spelled]
    refine ⟨db, type, claims_complete entitled, accessTokenExp, isFinite, fresh, some record,
      ⟨fault, trivial, _, named, .inr ⟨record, entitled.foundUser, rfl, entitled.recorded⟩⟩, record, rfl,
      entitled.active, entitled.sameRole, ?_⟩
    rw [if_pos (JwtStrategy.looks_at_session fresh)]
    rw [JwtStrategy.returns_checkSession_bind, returns_isRevoked_bind, returns_rejectIf_bind,
      returns_ask_bind, Proc.returns_pure]
    exact ⟨⟨fault, session, device, admits, unexpired⟩, valid, rfl, rfl⟩

/-- `validateSocket` lets pass only a socket that the database entitles. -/
theorem accepts_validateSocket {data : AuthenticatedSocketData} {answer : Unit}
    (accepts : Accepts (validateSocket data) input db answer) :
    ∃ record, Entitled db input.now data.userId (.string data.role) data.deviceId data.sessionId
      record := by
  obtain ⟨_, passed⟩ := accepts_iff.mp accepts
  simp only [validateSocket, returns_rejectIf_bind, returns_ask_bind, returns_findSession_bind,
    returns_findUser_bind, returns_isRevoked_bind, returns_require_bind, not_or, ne_eq, not_not]
    at passed
  obtain ⟨_, _, _, readSession, _, readUser, _, pair, rfl, record, rfl, ⟨active, sameRole⟩, accepted, _⟩ :=
    passed
  obtain ⟨_, _, key, named, read⟩ := Prisma.Session.findWithDevice_succeeds.mp readSession
  obtain ⟨_, _, userKey, namedUser, readUser⟩ := Prisma.User.findUnique_succeeds.mp readUser
  rcases read with ⟨_, none⟩ | ⟨session, device, found, foundDevice, same⟩
  · cases none
  rcases readUser with ⟨_, none⟩ | ⟨_, foundUser, sameRecord, recorded⟩
  · cases none
  cases same
  cases sameRecord
  obtain ⟨admits, unexpired⟩ := JwtStrategy.admits_of_read named found foundDevice accepted
  exact ⟨record, JwtStrategy.entitled_of_admits namedUser foundUser recorded active
    (congrArg JsValue.string sameRole) admits unexpired⟩

/-- Whom the handshake's validation accepts: the payload verifies, and entitles. -/
theorem accepts_validateHandshake [JsonWebToken] {config : JwtConfig} {handshake : Handshake}
    {data : AuthenticatedSocketData} :
    Accepts (validateHandshake config handshake) input db data ↔ ∃ payload,
      verifyToken config handshake input.now = .ok payload ∧
        Accepts (validatePayload payload) input db data := by
  simp only [accepts_iff, validateHandshake, returns_bind, returns_ask, Proc.returns_ofExcept]
  constructor
  · rintro ⟨after, _, _, ⟨rfl, rfl⟩, payload, _, ⟨verified, rfl⟩, rest⟩
    exact ⟨payload, verified, after, rest⟩
  · rintro ⟨payload, verified, after, rest⟩
    exact ⟨after, input, db, ⟨rfl, rfl⟩, payload, db, ⟨verified, rfl⟩, rest⟩

end WsJwtAuthGuard

/-- Whom the strategy accepts: the token verifies, and its payload entitles. -/
theorem JwtStrategy.accepts_authenticate [JsonWebToken] {config : JwtConfig} {token : String}
    {user : AuthUser} :
    Accepts (authenticate config token) input db user ↔ token ≠ "" ∧ ∃ payload,
      JsonWebToken.verify token config.secretOrKey config.issuer config.audience input.now =
        .ok payload ∧ Accepts (validate payload) input db user := by
  simp only [accepts_iff, authenticate, returns_bind, returns_rejectIf, returns_ask]
  constructor
  · rintro ⟨after, _, _, ⟨named, rfl⟩, _, _, ⟨rfl, rfl⟩, rest⟩
    split at rest
    · exact absurd rest Proc.returns_throw
    · rename_i payload verified
      exact ⟨named, payload, verified, after, rest⟩
  · rintro ⟨named, payload, verified, after, rest⟩
    refine ⟨after, (), db, ⟨named, rfl⟩, input, db, ⟨rfl, rfl⟩, ?_⟩
    rwa [verified]

end Alone

/-! ## Checks among other requests -/

section Interleaved

open Proc

variable [UuidSpelling] {durable : Write → Bool} {thread : Nat} {deeds : List (Deed accounts)}

/-- One of the steps has found a session row that admits. -/
def Looked (history : List (Deed accounts)) (userId deviceId sessionId : JsValue) : Prop :=
  ∃ deed ∈ history, ∃ session device,
    Admits deed.before userId deviceId sessionId session device

/-- The check of a session has looked at it. -/
theorem JwtStrategy.checkSession_looks (payload : JwtPayload) (refused : Exception) :
    (checkSession payload refused).Meets (.past durable thread fun _ _ => True)
      (OnResult (fun _ history => Looked history payload.sub payload.deviceId payload.sessionId)
        fun _ _ => True) deeds := by
  refine Meets.first (fun _ _ _ _ => trivial) fun before input found writes read => ?_
  obtain ⟨_, rfl, key, named, read⟩ := Prisma.Session.findWithDevice_succeeds.mp read
  refine Meets.require (fun _ => trivial) fun pair same => ?_
  subst same
  rcases read with ⟨_, none⟩ | ⟨session, device, foundSession, foundDevice, same⟩
  · cases none
  cases same
  refine Meets.first (fun _ _ _ _ => trivial) fun _ present answer writes _ => ?_
  refine (meets_rejectIf _).mpr ⟨fun _ => trivial, fun accepted => ?_⟩
  refine ⟨⟨thread, before, []⟩, by simp, session, device, ?_⟩
  exact (admits_of_read named foundSession foundDevice accepted).1

/-- What has been looked at stays so as the history grows. -/
theorem Looked.grows {first second : List (Deed accounts)} {userId deviceId sessionId : JsValue}
    (looked : Looked first userId deviceId sessionId) :
    Looked (first ++ second) userId deviceId sessionId := by
  obtain ⟨deed, member, rest⟩ := looked
  exact ⟨deed, List.mem_append_left _ member, rest⟩

/-- The strategy has looked before it returns. -/
theorem JwtStrategy.validate_looks (payload : JwtPayload) :
    (validate payload).Meets (.past durable thread fun _ _ => True)
      (OnResult (fun user history => Looked history payload.sub user.deviceId user.sessionId)
        fun _ _ => True) deeds := by
  refine Meets.rejectIf (fun _ => trivial) fun _ => ?_
  refine Meets.first (fun _ _ _ _ => trivial) fun _ _ isSessionRevoked _ _ => ?_
  refine Meets.rejectIf (fun _ => trivial) fun fresh => ?_
  refine Meets.first (fun _ _ _ _ => trivial) fun _ _ found _ _ => ?_
  refine Meets.require (fun _ => trivial) fun record _ => ?_
  refine Meets.rejectIf (fun _ => trivial) fun _ => ?_
  refine Meets.rejectIf (fun _ => trivial) fun _ => ?_
  refine Meets.first (fun _ _ _ _ => trivial) fun _ _ isUserRevoked _ _ => ?_
  refine Meets.rejectIf (fun _ => trivial) fun _ => ?_
  rw [if_pos (looks_at_session fresh)]
  exact (checkSession_looks payload _).bind (fun _ _ _ => trivial) fun _ _ looked => looked

namespace WsJwtAuthGuard

/-- So has the validation of a payload. -/
theorem validatePayload_looks (payload : JwtPayload) :
    (validatePayload payload).Meets (.past durable thread fun _ _ => True)
      (OnResult (fun data history => Looked history data.userId data.deviceId data.sessionId)
        fun _ _ => True) deeds := by
  refine Meets.rejectIf (fun _ => trivial) fun _ => ?_
  refine Meets.rejectIf (fun _ => trivial) fun _ => ?_
  refine Meets.require (fun _ => trivial) fun accessTokenExp _ => ?_
  refine Meets.first (fun _ _ _ _ => trivial) fun _ _ isSessionRevoked _ _ => ?_
  refine Meets.rejectIf (fun _ => trivial) fun fresh => ?_
  refine Meets.first (fun _ _ _ _ => trivial) fun before _ found _ read => ?_
  obtain ⟨_, rfl, key, named, read⟩ := Prisma.User.findUnique_succeeds.mp read
  refine Meets.require (fun _ => trivial) fun record same => ?_
  subst same
  rcases read with ⟨_, none⟩ | ⟨_, foundUser, same, _⟩
  · cases none
  cases same
  obtain rfl := Accounts.id_of_user? foundUser
  refine Meets.rejectIf (fun _ => trivial) fun _ => ?_
  refine Meets.rejectIf (fun _ => trivial) fun _ => ?_
  rw [if_pos (JwtStrategy.looks_at_session fresh)]
  refine (JwtStrategy.checkSession_looks payload _).bind (fun _ _ _ => trivial) fun _ _ looked => ?_
  -- the user that was found is the one that the session names
  obtain ⟨deed, member, session, device, admits⟩ := looked
  have same : payload.sub = spelled record.user.id := by
    rw [← admits.sameUser, toUuid_spelled] at named
    rw [← admits.sameUser, Except.ok.inj named]
  refine Meets.first (fun _ _ _ _ => trivial) fun _ _ isUserRevoked _ _ => ?_
  refine Meets.rejectIf (fun _ => trivial) fun _ => ?_
  refine Meets.first (fun _ _ _ _ => trivial) fun _ _ connected _ _ => ?_
  exact ⟨deed, by simp [member], session, device, same ▸ admits⟩

/-- So has the validation of a handshake. -/
theorem validateHandshake_looks [JsonWebToken] (config : JwtConfig) (handshake : Handshake) :
    (validateHandshake config handshake).Meets (.past durable thread fun _ _ => True)
      (OnResult (fun data history => Looked history data.userId data.deviceId data.sessionId)
        fun _ _ => True) deeds := by
  refine Meets.first (fun _ _ _ _ => trivial) fun _ _ present _ _ => ?_
  rw [meets_bind, meets_ofExcept]
  cases verifyToken config handshake present.now with
  | error error => trivial
  | ok payload => exact validatePayload_looks payload

/-- So has the check of a socket. -/
theorem validateSocket_looks (data : AuthenticatedSocketData) :
    (validateSocket data).Meets (.past durable thread fun _ _ => True)
      (OnResult (fun _ history => Looked history data.userId data.deviceId data.sessionId)
        fun _ _ => True) deeds := by
  refine Meets.rejectIf (fun _ => trivial) fun _ => ?_
  refine Meets.first (fun _ _ _ _ => trivial) fun _ _ present _ _ => ?_
  refine Meets.rejectIf (fun _ => trivial) fun _ => ?_
  refine Meets.first (fun _ _ _ _ => trivial) fun before _ found _ read => ?_
  obtain ⟨_, rfl, key, named, read⟩ := Prisma.Session.findWithDevice_succeeds.mp read
  refine Meets.first (fun _ _ _ _ => trivial) fun _ _ foundUser _ _ => ?_
  refine Meets.first (fun _ _ _ _ => trivial) fun _ _ isSessionRevoked _ _ => ?_
  refine Meets.first (fun _ _ _ _ => trivial) fun _ _ isUserRevoked _ _ => ?_
  refine Meets.rejectIf (fun _ => trivial) fun _ => ?_
  refine Meets.require (fun _ => trivial) fun pair same => ?_
  subst same
  rcases read with ⟨_, none⟩ | ⟨session, device, foundSession, foundDevice, same⟩
  · cases none
  cases same
  refine Meets.require (fun _ => trivial) fun record _ => ?_
  refine Meets.rejectIf (fun _ => trivial) fun _ => ?_
  refine Meets.first (fun _ _ _ _ => trivial) fun _ _ present _ _ => ?_
  refine Meets.rejectIf (fun _ => trivial) fun accepted => ?_
  refine (meets_rejectIf _).mpr ⟨fun _ => trivial, fun _ => ?_⟩
  exact ⟨⟨thread, before, []⟩, by simp, session, device,
    (JwtStrategy.admits_of_read named foundSession foundDevice accepted).1⟩

end WsJwtAuthGuard

/-- The requests that check a token or a socket. -/
def Request.IsCheck : Request → Prop
  | .validate _ => True
  | .validateSocket _ => True
  | .connect _ _ => True
  | _ => False

/-- The device of a token or socket that has been accepted. -/
def Response.boundDevice : Response → JsValue
  | .user validated => validated.deviceId
  | .socket data => data.deviceId
  | _ => .undefined

/-- The session of a token or socket that has been accepted. -/
def Response.boundSession : Response → JsValue
  | .user validated => validated.sessionId
  | .socket data => data.sessionId
  | _ => .undefined

variable [TokenHash] [Argon2] [JsonWebToken]

/-- So has every request that is a check. -/
theorem Request.looks (config : JwtConfig) {request : Request} (check : request.IsCheck) :
    (request.proc config).Meets (.past durable thread fun _ _ => True)
      (OnResult (fun answer history => ∃ userId,
        Looked history userId answer.boundDevice answer.boundSession) fun _ _ => True) deeds := by
  cases request with
  | validate payload =>
      refine (meets_map _ _ _).mpr ((JwtStrategy.validate_looks payload).weaken ?_)
      intro result history looked
      cases result with
      | error error => trivial
      | ok user => exact ⟨_, looked⟩
  | validateSocket data =>
      refine (meets_map _ _ _).mpr ((WsJwtAuthGuard.validateSocket_looks data).weaken ?_)
      intro result history looked
      cases result with
      | error error => trivial
      | ok answer => exact ⟨_, looked⟩
  | connect socketId handshake =>
      refine (meets_map _ _ _).mpr ?_
      refine (WsJwtAuthGuard.validateHandshake_looks config handshake).bind (fun _ _ _ => trivial) ?_
      intro data history looked
      have kept : (RealtimeGateway.handleConnection socketId data).Meets
          (.past durable thread fun _ _ => True)
          (fun _ history => Looked history data.userId data.deviceId data.sessionId) history :=
        Meets.settled (fun _ _ held => held.grows) looked
      exact kept.bind (fun _ _ _ => trivial) fun _ _ held => ⟨_, held⟩
  | _ => exact check.elim

/-- A check that has been started after a part of a run, and has accepted, has looked at the
session in the other part. -/
theorem looked_later {config : JwtConfig} {db : Accounts} {requests : List Request}
    {trace rest : List (Deed accounts)} {middle final : Pool accounts.whole Response}
    (before : (Request.pool config db requests).Steps trace middle) (later : middle.Steps rest final)
    {check : Nat} {request : Request} (found : requests[check]? = some request)
    (isCheck : request.IsCheck) (unstarted : ∀ deed ∈ trace, deed.thread ≠ check)
    {process : Proc accounts.whole Response} {answer : Response}
    (ended : final.procs[check]? = some process) (accepted : process.finished = some (.ok answer)) :
    ∃ userId, Looked rest userId answer.boundDevice answer.boundSession := by
  have started : (requests.map (Request.proc config))[check]? = some (request.proc config) := by
    rw [List.getElem?_map, found, Option.map_some]
  obtain ⟨userId, deed, member, admitted⟩ :=
    (before.trans later).past_of_thread started (request.looks config isCheck) ended accepted
  obtain ⟨inRun, sameThread⟩ := Pool.mem_deeds.mp member
  rcases List.mem_append.mp inRun with early | late
  · exact absurd sameThread (unstarted deed early)
  · exact ⟨userId, deed, late, admitted⟩

end Interleaved

end Armada.Auth
