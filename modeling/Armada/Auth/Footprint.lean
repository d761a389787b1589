import Armada.Auth.Calls
import Armada.Auth.Requests
import Armada.Concurrency.Footprint

/-!
# What each request can write

Which rows and columns a request can set at all, whatever it reads: the columns of a user,
the status of a device, who opens and who ends sessions, and what happens to the registered
sockets. Everybody may write audit entries, markers and messages.
-/

namespace Armada.Auth

open Relational Concurrency

/-! ## The calls -/

section Calls

variable {kind : Write → Prop}

/-- A look makes no writes. -/
theorem confined_select {β : Type} (body : Accounts → Except PrismaError β) :
    (select body).Confined kind := by
  intro input db value writes executed
  obtain ⟨_, _, rfl⟩ := select_succeeds.mp executed
  exact List.forall_mem_nil _

/-- Asking for the input makes none. -/
theorem confined_ask : ask.Confined kind := by
  intro input db value writes executed
  obtain ⟨_, rfl⟩ := ask_succeeds.mp executed
  exact List.forall_mem_nil _

/-- A row lock makes none. -/
theorem confined_selectForUpdate (id : Uuid) : (Prisma.User.selectForUpdate id).Confined kind := by
  intro input db value writes executed
  obtain ⟨_, rfl⟩ := Prisma.User.selectForUpdate_succeeds.mp executed
  exact List.forall_mem_nil _

/-- A user is created. -/
theorem confined_createUser {row : Input → User} (allowed : ∀ input, kind (.createUser (row input))) :
    (Prisma.User.create row).Confined kind := by
  intro input db created writes executed write member
  obtain ⟨rfl, rfl, _⟩ := Prisma.User.create_succeeds executed
  exact List.mem_singleton.mp member ▸ allowed input

/-- A user is updated. -/
theorem confined_updateUser {id : Except PrismaError Uuid} {data : Input → UserData}
    (allowed : ∀ key input, id = .ok key → kind (.updateUser key (data input))) :
    (Prisma.User.update id data).Confined kind := by
  intro input db record writes executed write member
  obtain ⟨key, row, named, _, _, _, rfl⟩ := Prisma.User.update_succeeds executed
  exact List.mem_singleton.mp member ▸ allowed key input named

/-- A device is created. -/
theorem confined_createDevice {row : Input → Device}
    (allowed : ∀ input, kind (.createDevice (row input))) : (Prisma.Device.create row).Confined kind := by
  intro input db created writes executed write member
  obtain ⟨rfl, rfl, _, _⟩ := Prisma.Device.create_succeeds executed
  exact List.mem_singleton.mp member ▸ allowed input

/-- A device is updated. -/
theorem confined_updateDevice {id : Except PrismaError Uuid} {data : Input → DeviceData}
    (allowed : ∀ key input, id = .ok key → kind (.updateDevice key (data input))) :
    (Prisma.Device.update id data).Confined kind := by
  intro input db updated writes executed write member
  obtain ⟨key, row, named, _, _, rfl⟩ := Prisma.Device.update_succeeds executed
  exact List.mem_singleton.mp member ▸ allowed key input named

/-- A session is created. -/
theorem confined_createSession {userId : Uuid} {deviceId : Except PrismaError Uuid}
    {refreshTokenHash : String} {tokenFamily : Uuid} {expiresAt : Instant}
    (allowed : ∀ row, kind (.createSession row)) :
    (Prisma.Session.create userId deviceId refreshTokenHash tokenFamily expiresAt).Confined kind := by
  intro input db row writes executed write member
  obtain ⟨_, _, _, _, _, _, rfl⟩ := Prisma.Session.create_succeeds executed
  exact List.mem_singleton.mp member ▸ allowed row

/-- A session is revoked. -/
theorem confined_updateSession {id : Except PrismaError Uuid}
    (allowed : ∀ key, id = .ok key → kind (.revokeSession key none)) :
    (Prisma.Session.update id).Confined kind := by
  intro input db answer writes executed write member
  obtain ⟨key, _, named, _, rfl⟩ := Prisma.Session.update_succeeds executed
  exact List.mem_singleton.mp member ▸ allowed key named

/-- An audit row is written. -/
theorem confined_createAuditLog {row : AuditLog} (allowed : kind (.createAuditLog row)) :
    (Prisma.AuditLog.create row).Confined kind := by
  intro input db answer writes executed write member
  obtain ⟨_, same⟩ := query_succeeds.mp executed
  cases same
  exact List.mem_singleton.mp member ▸ allowed

/-- A mark is set. -/
theorem confined_setRevocation {key : RevocationKey} {ttlSeconds : Nat}
    (allowed : ∀ expiresAt, kind (.setRevocation key expiresAt)) :
    (RedisService.setRevocation key ttlSeconds).Confined kind := by
  intro input db answer writes executed write member
  rcases RedisService.setRevocation_succeeds executed with rfl | ⟨_, rfl⟩
  · exact List.mem_singleton.mp member ▸ allowed _
  · cases member

/-- A message is published. -/
theorem confined_publish {event : Input → RevocationEventPayload}
    (allowed : ∀ input, kind (.publish (event input))) :
    (RedisService.publish event).Confined kind := by
  intro input db answer writes executed write member
  rcases RedisService.publish_succeeds executed with rfl | ⟨_, rfl⟩
  · exact List.mem_singleton.mp member ▸ allowed input
  · cases member

/-- Asking Redis makes no writes. -/
theorem confined_isRevoked (key : RevocationKey) : (RedisService.isRevoked key).Confined kind := by
  intro input db answer writes executed
  obtain ⟨rfl, _⟩ := RedisService.isRevoked_succeeds executed
  exact List.forall_mem_nil _

/-- A call that writes one thing, or nothing at all. -/
theorem confined_effect {β : Type} {body : Input → Accounts → β × List Write}
    (allowed : ∀ input db, ∀ write ∈ (body input db).2, kind write) : (effect body).Confined kind := by
  intro input db value writes executed write member
  have made := effect_succeeds.mp executed
  exact allowed input db write (by rw [made]; exact member)

/-- The sessions that meet a condition are revoked. -/
theorem confined_updateMany {condition : Except PrismaError Prisma.SessionWhere}
    {lastRefreshedAt : Option Instant} (allowed : ∀ id, kind (.revokeSession id lastRefreshedAt)) :
    (Prisma.Session.updateMany condition lastRefreshedAt).Confined kind := by
  have each : ∀ (filter : Prisma.SessionWhere) ids count,
      (Prisma.Session.updateEach filter lastRefreshedAt ids count).Confined kind := by
    intro filter ids
    induction ids with
    | nil => exact fun _ => .pure _
    | cons id ids inductionHypothesis =>
        refine fun count => .bind (.statement ?_) fun changed => inductionHypothesis _
        intro input db answer writes executed write member
        obtain ⟨_, ⟨_, _, rfl⟩ | ⟨_, _, rfl⟩⟩ := Prisma.Session.updateIfStill_succeeds.mp executed
        · exact List.mem_singleton.mp member ▸ allowed id
        · cases member
  cases condition with
  | error error => exact .fail _
  | ok filter => exact .bind (.statement (confined_select _)) fun ids => each filter ids 0

end Calls

/-! ## The services -/

/-- A kind of writes with audit entries, markers and messages among them. -/
structure Courteous (kind : Write → Prop) : Prop where
  audit : ∀ row, kind (.createAuditLog row)
  mark : ∀ key expiresAt, kind (.setRevocation key expiresAt)
  publish : ∀ event, kind (.publish event)

section Services

variable [UuidSpelling] {kind : Write → Prop}

namespace SessionService

/-- The sessions of a user are revoked. -/
theorem revokeSessionsOf_confined {userId : JsValue} (ends : ∀ id, kind (.revokeSession id none)) :
    (revokeSessionsOf userId).Confined kind :=
  .bind (.transact (confined_updateMany ends)) fun _ => .pure _

/-- The same with the mark and the message. -/
theorem revokeAllUserSessions_confined {userId : JsValue} (courteous : Courteous kind)
    (ends : ∀ id, kind (.revokeSession id none)) : (revokeAllUserSessions userId).Confined kind := by
  rw [revokeAllUserSessions]
  split
  · exact .pure _
  · refine .bind (revokeSessionsOf_confined ends) fun _ => ?_
    refine .bind (.statement (confined_setRevocation fun _ => courteous.mark _ _)) fun _ => ?_
    exact .statement (confined_publish fun _ => courteous.publish _)

/-- One session is revoked, with its mark and message. -/
theorem revokeSession_confined {sessionId userId : JsValue} (courteous : Courteous kind)
    (ends : ∀ id, sessionId.toUuid = .ok id → kind (.revokeSession id none)) :
    (revokeSession sessionId userId).Confined kind := by
  rw [revokeSession]
  split
  · exact .pure _
  refine .bind (.statement (confined_select _)) fun found => ?_
  cases found with
  | none => exact .pure _
  | some session =>
      dsimp only
      split
      · exact .pure _
      · refine .bind (.statement (confined_updateSession ends)) fun _ => ?_
        refine .bind (.statement (confined_setRevocation fun _ => courteous.mark _ _)) fun _ => ?_
        exact .statement (confined_publish fun _ => courteous.publish _)

variable [TokenHash]

/-- A session is opened, and others are ended to make room. -/
theorem createSession_confined {userId : Uuid} {deviceId roleCode : String} (courteous : Courteous kind)
    (opens : ∀ row, kind (.createSession row)) (ends : ∀ id, kind (.revokeSession id none)) :
    (createSession userId deviceId roleCode).Confined kind := by
  have inserted : ∀ (token : String) (family : Uuid) (expiresAt : Instant), (Prisma.Session.create userId
      (JsValue.string deviceId).toUuid (TokenHash.hashToken token) family expiresAt).Confined kind :=
    fun _ _ _ => confined_createSession opens
  have marked : ∀ session : Session,
      (RedisService.setRevocation (.session (spelled session.id)) 900).Confined kind :=
    fun _ => confined_setRevocation fun _ => courteous.mark _ _
  refine .bind (.statement confined_ask) fun generated => ?_
  dsimp only
  split
  · refine .transact (.bind (.statement (confined_selectForUpdate _)) fun _ => ?_)
    refine .bind (.statement (confined_select _)) fun existing => ?_
    refine .bind (.forM fun session => .statement (marked session)) fun _ => ?_
    refine .bind (confined_updateMany ends) fun _ => ?_
    exact .bind (.statement (inserted _ _ _)) fun _ => .pure _
  · refine .bind (.statement (confined_select _)) fun active => ?_
    have evicted : ∀ sessions : List Session, (sessions.forM evict).Confined kind := fun sessions =>
      .forM fun session => .bind (.statement (confined_updateSession fun id _ => ends id)) fun _ =>
        .statement (marked session)
    split
    · refine .bind (evicted _) fun _ => ?_
      exact .bind (.statement (inserted _ _ _)) fun _ => .pure _
    · exact .bind (.statement (inserted _ _ _)) fun _ => .pure _

omit [TokenHash] in
/-- A token that is used again ends its family. -/
theorem handleReuse_confined (courteous : Courteous kind) (ends : ∀ id, kind (.revokeSession id none))
    (error : Exception) : (handleReuse error).Confined kind := by
  cases error with
  | refreshTokenReuse session =>
      refine .bind ?_ fun _ => .throw _
      refine .bind (.transact (confined_updateMany ends)) fun _ => ?_
      refine .bind (.statement (confined_setRevocation fun _ => courteous.mark _ _)) fun _ => ?_
      refine .bind (.statement (confined_setRevocation fun _ => courteous.mark _ _)) fun _ => ?_
      refine .bind (.statement (confined_publish fun _ => courteous.publish _)) fun _ => ?_
      refine .bind (.statement confined_ask) fun _ => ?_
      exact .statement (confined_createAuditLog (courteous.audit _))
  | _ => exact .throw _

/-- A rotation ends one session and opens the next. -/
theorem rotateSession_confined {rawRefreshToken : String} (courteous : Courteous kind)
    (opens : ∀ row, kind (.createSession row))
    (ends : ∀ id lastRefreshedAt, kind (.revokeSession id lastRefreshedAt)) :
    (rotateSession rawRefreshToken).Confined kind := by
  refine .tryCatch (.transact (.bind (.statement (confined_select _)) fun found => ?_)) fun error =>
    handleReuse_confined courteous (fun id => ends id none) error
  cases found with
  | none => exact .fail _
  | some existing =>
      refine .bind (.statement confined_ask) fun present => ?_
      refine .bind (.rejectIf _ _) fun _ => ?_
      refine .bind (.statement confined_ask) fun generated => ?_
      refine .bind (.statement confined_ask) fun claimedAt => ?_
      refine .bind (confined_updateMany fun id => ends id _) fun claimed => ?_
      refine .bind (.rejectIf _ _) fun _ => ?_
      exact .bind (.statement (confined_createSession opens)) fun _ => .pure _

end SessionService

namespace JwtStrategy

/-- The check of a session makes no writes. -/
theorem checkSession_confined (payload : JwtPayload) (refused : Exception) :
    (checkSession payload refused).Confined kind := by
  refine .bind (.statement (confined_select _)) fun found => ?_
  refine .bind (.require _ _) fun pair => ?_
  exact .bind (.statement confined_ask) fun present => .rejectIf _ _

/-- Nor does the strategy. -/
theorem validate_confined (payload : JwtPayload) : (validate payload).Confined kind := by
  refine .bind (.rejectIf _ _) fun _ => ?_
  refine .bind (.statement (confined_isRevoked _)) fun isSessionRevoked => ?_
  refine .bind (.rejectIf _ _) fun _ => ?_
  refine .bind (.statement (confined_select _)) fun found => ?_
  refine .bind (.require _ _) fun found => ?_
  refine .bind (.rejectIf _ _) fun _ => ?_
  refine .bind (.rejectIf _ _) fun _ => ?_
  refine .bind (.statement (confined_isRevoked _)) fun isUserRevoked => ?_
  refine .bind (.rejectIf _ _) fun _ => ?_
  exact .ite (.bind (checkSession_confined _ _) fun _ => .pure _) (.pure _)

end JwtStrategy

namespace WsJwtAuthGuard

/-- Nor does the validation of a payload. -/
theorem validatePayload_confined (payload : JwtPayload) : (validatePayload payload).Confined kind := by
  refine .bind (.rejectIf _ _) fun _ => ?_
  refine .bind (.rejectIf _ _) fun _ => ?_
  refine .bind (.require _ _) fun accessTokenExp => ?_
  refine .bind (.statement (confined_isRevoked _)) fun isSessionRevoked => ?_
  refine .bind (.rejectIf _ _) fun _ => ?_
  refine .bind (.statement (confined_select _)) fun found => ?_
  refine .bind (.require _ _) fun found => ?_
  refine .bind (.rejectIf _ _) fun _ => ?_
  refine .bind (.rejectIf _ _) fun _ => ?_
  refine .ite (.bind (JwtStrategy.checkSession_confined _ _) fun _ => ?_) ?_
  all_goals
    refine .bind (.statement (confined_isRevoked _)) fun isUserRevoked => ?_
    refine .bind (.rejectIf _ _) fun _ => ?_
    exact .bind (.statement confined_ask) fun _ => .pure _

/-- Nor does the validation of a handshake. -/
theorem validateHandshake_confined [JsonWebToken] (config : JwtConfig) (handshake : Handshake) :
    (validateHandshake config handshake).Confined kind := by
  refine .bind (.statement confined_ask) fun present => ?_
  exact .bind (.ofExcept _) fun payload => validatePayload_confined payload

/-- Nor does the check of a socket. -/
theorem validateSocket_confined (data : AuthenticatedSocketData) :
    (validateSocket data).Confined kind := by
  refine .bind (.rejectIf _ _) fun _ => ?_
  refine .bind (.statement confined_ask) fun present => ?_
  refine .bind (.rejectIf _ _) fun _ => ?_
  refine .bind (.statement (confined_select _)) fun session => ?_
  refine .bind (.statement (confined_select _)) fun user => ?_
  refine .bind (.statement (confined_isRevoked _)) fun isSessionRevoked => ?_
  refine .bind (.statement (confined_isRevoked _)) fun isUserRevoked => ?_
  refine .bind (.rejectIf _ _) fun _ => ?_
  refine .bind (.require _ _) fun pair => ?_
  refine .bind (.require _ _) fun found => ?_
  refine .bind (.rejectIf _ _) fun _ => ?_
  refine .bind (.statement confined_ask) fun present => ?_
  exact .bind (.rejectIf _ _) fun _ => .rejectIf _ _

end WsJwtAuthGuard

/-- A connection registers its socket. -/
theorem RealtimeGateway.connect_confined [JsonWebToken] (config : JwtConfig)
    (socketId : Realtime.SocketId) (handshake : Handshake)
    (registers : ∀ data, kind (.registerSocket ⟨socketId, some data⟩)) :
    (connect config socketId handshake).Confined kind := by
  refine .bind (WsJwtAuthGuard.validateHandshake_confined config handshake) fun data => ?_
  refine .bind ?_ fun _ => .pure _
  rw [handleConnection]
  split
  · refine .statement (confined_effect fun _ _ write member => ?_)
    exact List.mem_singleton.mp member ▸ registers data
  · exact .pure _

namespace DeviceService

/-- A registration creates a device or activates one. -/
theorem registerDevice_confined {userId : Uuid} {dto : RegisterDeviceDto} (courteous : Courteous kind)
    (creates : ∀ row, row.status = .active → kind (.createDevice row))
    (sets : ∀ id data, data.status = some .active → kind (.updateDevice id data)) :
    (registerDevice userId dto).Confined kind := by
  refine .bind (.statement (confined_select _)) fun existing => ?_
  cases existing with
  | none =>
      refine .bind (.statement (confined_createDevice fun _ => creates _ rfl)) fun device => ?_
      exact .bind (.statement (confined_createAuditLog (courteous.audit _))) fun _ => .pure _
  | some existing =>
      refine .bind (.bind (.statement confined_ask) fun seen => ?_) fun updated => ?_
      · exact .statement (confined_updateDevice fun _ _ _ => sets _ _ rfl)
      · exact .bind (.statement (confined_createAuditLog (courteous.audit _))) fun _ => .pure _

/-- A revocation marks the device and ends its sessions. -/
theorem revokeDevice_confined {deviceId : String} {actorUserId : Uuid} {actorRole : String}
    (courteous : Courteous kind)
    (sets : ∀ id, (JsValue.string deviceId).toUuid = .ok id →
      kind (.updateDevice id { status := some .revoked }))
    (ends : ∀ id, kind (.revokeSession id none)) :
    (revokeDevice deviceId actorUserId actorRole).Confined kind := by
  refine .bind (.statement (confined_select _)) fun found => ?_
  refine .bind (.require _ _) fun device => ?_
  refine .bind (.rejectIf _ _) fun _ => ?_
  refine .bind (.statement (confined_updateDevice fun id _ named => sets id named)) fun updated => ?_
  refine .bind (.statement (confined_select _)) fun sessions => ?_
  refine .bind (.forM fun session => .statement (confined_setRevocation fun _ =>
    courteous.mark _ _)) fun _ => ?_
  refine .bind (.transact (confined_updateMany ends)) fun _ => ?_
  refine .bind (.statement (confined_publish fun _ => courteous.publish _)) fun _ => ?_
  exact .bind (.statement (confined_createAuditLog (courteous.audit _))) fun _ => .pure _

end DeviceService

/-- A push token activates its device. -/
theorem NotificationService.registerPushToken_confined {dto : RegisterPushTokenDto} {actorUserId : Uuid}
    (courteous : Courteous kind)
    (sets : ∀ id data, (JsValue.string dto.deviceId).toUuid = .ok id → data.status = some .active →
      kind (.updateDevice id data)) : (registerPushToken dto actorUserId).Confined kind := by
  refine .bind (.statement (confined_select _)) fun found => ?_
  refine .bind (.require _ _) fun device => ?_
  refine .bind (.rejectIf _ _) fun _ => ?_
  refine .bind (.statement confined_ask) fun seen => ?_
  refine .bind (.statement (confined_updateDevice fun id _ named => sets id _ named rfl)) fun _ => ?_
  exact .bind (.statement (confined_createAuditLog (courteous.audit _))) fun _ => .pure _

omit [UuidSpelling] in
/-- A new hash, and what is done with it. -/
theorem hashPassword_confined [Argon2] {α : Type} {plainPassword : String}
    {next : String → Proc accounts α}
    (continued : ∀ salt, (next (Argon2.hash plainPassword salt)).Confined kind) :
    (hashPassword plainPassword >>= next).Confined kind := by
  refine ⟨confined_ask, fun result => ?_⟩
  cases result with
  | error error => trivial
  | ok input => exact continued input.salt

namespace UsersService

variable {targetUserId : String} {actorUserId : Uuid}

/-- Finding the user makes no writes. -/
theorem target_confined : (target targetUserId).Confined kind :=
  .bind (.statement (confined_select _)) fun _ => .require _ _

omit [UuidSpelling] in
/-- The mark and the message of a user. -/
theorem mark_confined (courteous : Courteous kind) : (mark targetUserId).Confined kind :=
  .statement (confined_setRevocation fun _ => courteous.mark _ _)

omit [UuidSpelling] in
/-- The audit row of an operation on a user. -/
theorem audit_confined {action : String} {detail : Option AuditDetail} (courteous : Courteous kind) :
    (audit actorUserId action targetUserId detail).Confined kind :=
  .statement (confined_createAuditLog (courteous.audit _))

/-- The role of one user is set, and its sessions end. -/
theorem updateUserRole_confined {newRoleCode : String} (courteous : Courteous kind)
    (sets : ∀ id roleId, (JsValue.string targetUserId).toUuid = .ok id →
      kind (.updateUser id { roleId := some roleId }))
    (ends : ∀ id, kind (.revokeSession id none)) :
    (updateUserRole targetUserId newRoleCode actorUserId).Confined kind := by
  refine .bind target_confined fun found => ?_
  refine .bind (.statement (confined_select _)) fun newRole => ?_
  refine .bind (.require _ _) fun newRole => ?_
  refine .bind (.statement (confined_updateUser fun id _ named => sets id _ named)) fun updated => ?_
  refine .bind (SessionService.revokeSessionsOf_confined ends) fun _ => ?_
  refine .bind (mark_confined courteous) fun _ => ?_
  refine .bind (.statement (confined_publish fun _ => courteous.publish _)) fun _ => ?_
  exact .bind (audit_confined courteous) fun _ => .pure _

/-- The status of one user is set, and its sessions end. -/
theorem updateUserStatus_confined {status : AccountStatus} (courteous : Courteous kind)
    (sets : ∀ id, (JsValue.string targetUserId).toUuid = .ok id →
      kind (.updateUser id { status := some status }))
    (ends : status = .suspended ∨ status = .disabled → ∀ id, kind (.revokeSession id none)) :
    (updateUserStatus targetUserId status actorUserId).Confined kind := by
  refine .bind target_confined fun found => ?_
  refine .bind (.statement (confined_updateUser fun id _ named => sets id named)) fun updated => ?_
  refine .bind ?_ fun _ => .bind (audit_confined courteous) fun _ => .pure _
  rw [revokeForStatus]
  split
  · rename_i revoking
    refine .bind (SessionService.revokeSessionsOf_confined (ends revoking)) fun _ => ?_
    refine .bind (mark_confined courteous) fun _ => ?_
    exact .statement (confined_publish fun _ => courteous.publish _)
  · exact .pure _

/-- The password of one user is set, and its sessions end. -/
theorem adminResetPassword_confined [Argon2] {newPass : String} (courteous : Courteous kind)
    (sets : ∀ id salt, (JsValue.string targetUserId).toUuid = .ok id →
      kind (.updateUser id { passwordHash := some (Argon2.hash newPass salt) }))
    (ends : ∀ id, kind (.revokeSession id none)) :
    (adminResetPassword targetUserId newPass actorUserId).Confined kind := by
  refine .bind target_confined fun found => ?_
  refine hashPassword_confined fun salt => ?_
  refine .bind (.statement (confined_updateUser fun id _ named => sets id salt named)) fun _ => ?_
  refine .bind (SessionService.revokeSessionsOf_confined ends) fun _ => ?_
  refine .bind (mark_confined courteous) fun _ => ?_
  refine .bind (audit_confined courteous) fun _ => ?_
  exact .bind (.statement (confined_publish fun _ => courteous.publish _)) fun _ => .pure _

end UsersService

namespace AuthService

omit [UuidSpelling] in
/-- The throttle makes no writes here. -/
theorem throttle_confined (username clientIp : String) : (throttle username clientIp).Confined kind := by
  have counted : ∀ (key : String) seconds, (RedisService.incrRateLimit key seconds).Confined kind :=
    fun _ _ => confined_effect fun _ _ write member => absurd member List.not_mem_nil
  refine .bind (.statement (counted _ _)) fun ipAttempts => ?_
  refine .bind (.rejectIf _ _) fun _ => ?_
  exact .bind (.statement (counted _ _)) fun userAttempts => .rejectIf _ _

omit [UuidSpelling] in
/-- Signing makes no writes. -/
theorem signAccessToken_confined (config : JwtConfig) (userId : Uuid) (role deviceId : String)
    (sessionId : Uuid) : (signAccessToken config userId role deviceId sessionId).Confined kind :=
  .bind (.statement confined_ask) fun _ => .pure _

/-- The device of a login is found or created. -/
theorem deviceOf_confined {dto : LoginDto} {userId : Uuid}
    (creates : ∀ row, row.status = .active → kind (.createDevice row)) :
    (deviceOf dto userId).Confined kind := by
  rw [deviceOf]
  split
  · exact .pure _
  · refine .bind (.statement confined_ask) fun created => ?_
    exact .bind (.statement (confined_createDevice fun _ => creates _ rfl)) fun _ => .pure _

variable [Argon2]

/-- Authenticating writes audit rows only. -/
theorem authenticate_confined {dto : LoginDto} {clientIp userAgent : String}
    (audit : ∀ row, kind (.createAuditLog row)) : (authenticate dto clientIp userAgent).Confined kind := by
  refine .bind (.statement (confined_select _)) fun found => ?_
  cases found with
  | none => exact .bind (.statement (confined_createAuditLog (audit _))) fun _ => .throw _
  | some found =>
      refine .bind (.rejectIf _ _) fun _ => .ite ?_ (.pure _)
      refine .bind (.statement (confined_createAuditLog (audit _))) fun _ => ?_
      exact .bind (.throw _) fun _ => .pure _

omit [UuidSpelling] in
/-- A hash may be renewed. -/
theorem rehash_confined {user : User} {password : String}
    (sets : ∀ salt, kind (.updateUser user.id { passwordHash := some (Argon2.hash password salt) })) :
    (rehash user password).Confined kind := by
  rw [rehash]
  split
  · refine hashPassword_confined fun salt => ?_
    refine .bind (.statement (confined_updateUser fun id _ named => ?_)) fun _ => .pure _
    cases named
    exact sets salt
  · exact .pure _

variable [TokenHash]

/-- A login does all of this, and opens a session. -/
theorem login_confined {config : JwtConfig} {dto : LoginDto} {clientIp userAgent : String}
    (courteous : Courteous kind)
    (sets : ∀ id salt, kind (.updateUser id { passwordHash := some (Argon2.hash dto.password salt) }))
    (seen : ∀ id now, kind (.updateUser id { lastLoginAt := some now }))
    (creates : ∀ row, row.status = .active → kind (.createDevice row))
    (opens : ∀ row, kind (.createSession row)) (ends : ∀ id, kind (.revokeSession id none)) :
    (login config dto clientIp userAgent).Confined kind := by
  refine .bind (throttle_confined _ _) fun _ => ?_
  refine .bind (authenticate_confined courteous.audit) fun found => ?_
  refine .bind (.statement (confined_effect fun _ _ write member =>
    absurd member List.not_mem_nil)) fun _ => ?_
  refine .bind (rehash_confined fun salt => sets _ salt) fun _ => ?_
  refine .bind (deviceOf_confined creates) fun deviceId => ?_
  refine .bind (SessionService.createSession_confined courteous opens ends) fun session => ?_
  refine .bind (signAccessToken_confined _ _ _ _ _) fun accessToken => ?_
  refine .bind (.statement confined_ask) fun loggedInAt => ?_
  refine .bind (.statement (confined_updateUser fun id _ _ => seen id _)) fun _ => ?_
  exact .bind (.statement (confined_createAuditLog (courteous.audit _))) fun _ => .pure _

omit [Argon2] in
/-- A refresh rotates the session. -/
theorem refresh_confined {config : JwtConfig} {rawRefreshToken : String} {clientType : ClientType}
    (courteous : Courteous kind) (opens : ∀ row, kind (.createSession row))
    (ends : ∀ id lastRefreshedAt, kind (.revokeSession id lastRefreshedAt)) :
    (refresh config rawRefreshToken clientType).Confined kind := by
  refine .bind (.rejectIf _ _) fun _ => ?_
  refine .bind (SessionService.rotateSession_confined courteous opens ends) fun session => ?_
  refine .bind (.statement (confined_select _)) fun found => ?_
  refine .bind (.require _ _) fun found => ?_
  refine .bind (.rejectIf _ _) fun _ => ?_
  exact .bind (signAccessToken_confined _ _ _ _ _) fun _ => .pure _

omit [UuidSpelling] [TokenHash] in
/-- A registration creates one user, who is not active yet. -/
theorem registerUser_confined {dto : RegisterUserDto}
    (creates : ∀ row, row.status = .pendingActivation → kind (.createUser row)) :
    (registerUser dto).Confined kind := by
  refine .bind (.statement (confined_select _)) fun existing => ?_
  refine .bind (.rejectIf _ _) fun _ => ?_
  refine .bind (.statement (confined_select _)) fun role => ?_
  refine .bind (.require _ _) fun role => ?_
  refine hashPassword_confined fun salt => ?_
  exact .bind (.statement (confined_createUser fun _ => creates _ rfl)) fun _ => .pure _

end AuthService

end Services

/-! ## The requests -/

variable [UuidSpelling] [Argon2]

/-- The columns of a user that a request sets. -/
def Request.SetsUser : Request → Uuid → UserData → Prop
  | .login dto _ _, _, data => data.roleId = none ∧ data.status = none ∧
      ∀ hash ∈ data.passwordHash, ∃ salt, hash = Argon2.hash dto.password salt
  | .updateUserRole targetUserId _ _, id, data =>
      (JsValue.string targetUserId).toUuid = .ok id ∧ data.status = none ∧ data.passwordHash = none
  | .updateUserStatus targetUserId status _, id, data =>
      (JsValue.string targetUserId).toUuid = .ok id ∧ data = { status := some status }
  | .adminResetPassword targetUserId newPass _, id, data =>
      (JsValue.string targetUserId).toUuid = .ok id ∧
        ∃ salt, data = { passwordHash := some (Argon2.hash newPass salt) }
  | _, _, _ => False

/-- The updates of a device; each of them sets the status. -/
def Request.SetsDevice : Request → Uuid → DeviceData → Prop
  | .registerDevice _ _, _, data => data.status = some .active
  | .registerPushToken dto _, id, data =>
      (JsValue.string dto.deviceId).toUuid = .ok id ∧ data.status = some .active
  | .revokeDevice deviceId _ _, id, data =>
      (JsValue.string deviceId).toUuid = .ok id ∧ data = { status := some .revoked }
  | _, _, _ => False

/-- The request may create a device. -/
def Request.CreatesDevice : Request → Prop
  | .login _ _ _ => True
  | .registerDevice _ _ => True
  | _ => False

/-- The request may open a session. -/
def Request.OpensSession : Request → Prop
  | .login _ _ _ => True
  | .refresh _ _ => True
  | .createSession _ _ _ => True
  | .rotateSession _ => True
  | _ => False

/-- The sessions that a request ends; what else it reads decides on them, but for a logout. -/
def Request.EndsSession : Request → Uuid → Prop
  | .logout sessionId _, id => sessionId.toUuid = .ok id
  | .logoutAll _, _ => True
  | .updateUserRole _ _ _, _ => True
  | .updateUserStatus _ status _, _ => status = .suspended ∨ status = .disabled
  | .adminResetPassword _ _ _, _ => True
  | .revokeDevice _ _ _, _ => True
  | request, _ => request.OpensSession

/-- What a request may write. -/
def Request.May (request : Request) : Write → Prop
  | .createUser row => ∃ dto, request = .registerUser dto ∧ row.status = .pendingActivation
  | .updateUser id data => request.SetsUser id data
  | .createDevice row => request.CreatesDevice ∧ row.status = .active
  | .updateDevice id data => request.SetsDevice id data
  | .createSession _ => request.OpensSession
  | .revokeSession id _ => request.EndsSession id
  | .createAuditLog _ => True
  | .setRevocation _ _ => True
  | .publish _ => True
  | .handleMessage => request = .handleRevocationMessage
  | .registerSocket socket => ∃ handshake, request = .connect socket.id handshake
  | .removeSocket socketId => request = .disconnect socketId

variable [TokenHash] [JsonWebToken]

omit [TokenHash] [JsonWebToken] in
/-- What a request may write includes what all of them do. -/
theorem Request.courteous (request : Request) : Courteous request.May :=
  ⟨fun _ => trivial, fun _ _ => trivial, fun _ => trivial⟩

/-- Every request writes only what it may. -/
theorem Request.confined (config : JwtConfig) (request : Request) :
    (request.proc config).Confined request.May := by
  have courteous := request.courteous
  cases request with
  | login dto clientIp userAgent =>
      refine .map _ (AuthService.login_confined courteous (fun id salt => ⟨rfl, rfl, ?_⟩)
        (fun id now => ⟨rfl, rfl, fun hash set => by cases set⟩) (fun row active => ⟨trivial, active⟩)
        (fun row => trivial) fun id => trivial)
      rintro _ ⟨⟩
      exact ⟨salt, rfl⟩
  | refresh rawRefreshToken clientType =>
      exact .map _ (AuthService.refresh_confined courteous (fun row => trivial) fun id at_ => trivial)
  | logout sessionId userId =>
      exact .map _ (SessionService.revokeSession_confined courteous fun id named => named)
  | logoutAll userId =>
      exact .map _ (SessionService.revokeAllUserSessions_confined courteous fun id => trivial)
  | registerUser dto =>
      exact .map _ (AuthService.registerUser_confined fun row pending => ⟨dto, rfl, pending⟩)
  | createSession userId deviceId roleCode =>
      exact .map _ (SessionService.createSession_confined courteous (fun row => trivial) fun id => trivial)
  | rotateSession rawRefreshToken =>
      exact .map _ (SessionService.rotateSession_confined courteous (fun row => trivial)
        fun id at_ => trivial)
  | updateUserRole targetUserId newRoleCode actorUserId =>
      exact .map _ (UsersService.updateUserRole_confined courteous
        (fun id roleId named => ⟨named, rfl, rfl⟩) fun id => trivial)
  | updateUserStatus targetUserId status actorUserId =>
      exact .map _ (UsersService.updateUserStatus_confined courteous (fun id named => ⟨named, rfl⟩)
        fun revoking id => revoking)
  | adminResetPassword targetUserId newPass actorUserId =>
      exact .map _ (UsersService.adminResetPassword_confined courteous
        (fun id salt named => ⟨named, salt, rfl⟩) fun id => trivial)
  | registerDevice userId dto =>
      exact .map _ (DeviceService.registerDevice_confined courteous
        (fun row active => ⟨trivial, active⟩) fun id data active => active)
  | revokeDevice deviceId actorUserId actorRole =>
      exact .map _ (DeviceService.revokeDevice_confined courteous (fun id named => ⟨named, rfl⟩)
        fun id => trivial)
  | registerPushToken dto actorUserId =>
      exact .map _ (NotificationService.registerPushToken_confined courteous
        fun id data named active => ⟨named, active⟩)
  | validate payload => exact .map _ (JwtStrategy.validate_confined payload)
  | validateSocket data => exact .map _ (WsJwtAuthGuard.validateSocket_confined data)
  | connect socketId handshake =>
      exact .map _ (RealtimeGateway.connect_confined config socketId handshake
        fun data => ⟨handshake, rfl⟩)
  | disconnect socketId =>
      refine .map _ (.statement (confined_effect fun _ _ write member => ?_))
      exact List.mem_singleton.mp member ▸ rfl
  | handleRevocationMessage =>
      refine .map _ (.statement (confined_effect fun _ _ write member => ?_))
      exact List.mem_singleton.mp member ▸ rfl

/-- In every run, each step writes what its request may write. -/
theorem may_of_steps {config : JwtConfig} {db : Accounts} {requests : List Request}
    {trace : List (Deed accounts)} {final : Pool accounts.whole Response}
    (steps : (Request.pool config db requests).Steps trace final) :
    ∀ deed ∈ trace, ∀ write ∈ deed.writes, ∀ request, requests[deed.thread]? = some request →
      request.May write := by
  have confined : ∀ (thread : Nat) process,
      (requests.map (Request.proc config))[thread]? = some process → process.Confined fun write =>
        ∀ request, requests[thread]? = some request → request.May write := by
    intro thread process found
    rw [List.getElem?_map, Option.map_eq_some_iff] at found
    obtain ⟨request, atThread, rfl⟩ := found
    refine (request.confined config).mono fun write may other atOther => ?_
    cases atThread.symm.trans atOther
    exact may
  exact steps.confined confined

end Armada.Auth
