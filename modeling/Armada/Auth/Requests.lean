import Armada.Auth.AuthController
import Armada.Concurrency.Past
import Armada.Notifications.NotificationService
import Armada.Realtime.RealtimeGateway
import Armada.Users.UsersService

/-!
# Requests

The calls on accounts, devices and sessions, the checks of tokens and sockets, and what
happens at the gateway, as the processes that run on the shared store.
-/

namespace Armada.Auth

open Relational Concurrency

/-- A call of one of the services, with its arguments. -/
inductive Request where
  | login (dto : LoginDto) (clientIp userAgent : String)
  | refresh (rawRefreshToken : String) (clientType : ClientType)
  | logout (sessionId userId : JsValue)
  | logoutAll (userId : JsValue)
  | registerUser (dto : RegisterUserDto)
  | createSession (userId : Uuid) (deviceId roleCode : String)
  | rotateSession (rawRefreshToken : String)
  | updateUserRole (targetUserId newRoleCode : String) (actorUserId : Uuid)
  | updateUserStatus (targetUserId : String) (status : AccountStatus) (actorUserId : Uuid)
  | adminResetPassword (targetUserId newPass : String) (actorUserId : Uuid)
  | registerDevice (userId : Uuid) (dto : RegisterDeviceDto)
  | revokeDevice (deviceId : String) (actorUserId : Uuid) (actorRole : String)
  | registerPushToken (dto : RegisterPushTokenDto) (actorUserId : Uuid)
  | validate (payload : JwtPayload)
  | validateSocket (data : AuthenticatedSocketData)
  | connect (socketId : Realtime.SocketId) (handshake : Handshake)
  | disconnect (socketId : Realtime.SocketId)
  | handleRevocationMessage

/-- What the services return. -/
inductive Response where
  | login (result : LoginResult)
  | refresh (result : RefreshResult)
  | session (result : SessionResult)
  | registered (user : RegisteredUser)
  | role (updated : UpdatedRole)
  | status (updated : UpdatedStatus)
  | reset (userId : String)
  | device (row : Device)
  | deviceId (id : Uuid)
  | user (user : AuthUser)
  | socket (data : AuthenticatedSocketData)
  | nothing

section Processes

variable [UuidSpelling] [TokenHash] [Argon2] [JsonWebToken]

/-- The process of a request. -/
def Request.proc (config : JwtConfig) : Request → Proc accounts Response
  | .login dto clientIp userAgent => Response.login <$> AuthService.login config dto clientIp userAgent
  | .refresh rawRefreshToken clientType =>
      Response.refresh <$> AuthService.refresh config rawRefreshToken clientType
  | .logout sessionId userId => (fun _ => .nothing) <$> AuthService.logout sessionId userId
  | .logoutAll userId => (fun _ => .nothing) <$> AuthService.logoutAll userId
  | .registerUser dto => Response.registered <$> AuthService.registerUser dto
  | .createSession userId deviceId roleCode =>
      Response.session <$> SessionService.createSession userId deviceId roleCode
  | .rotateSession rawRefreshToken =>
      Response.session <$> SessionService.rotateSession rawRefreshToken
  | .updateUserRole targetUserId newRoleCode actorUserId =>
      Response.role <$> UsersService.updateUserRole targetUserId newRoleCode actorUserId
  | .updateUserStatus targetUserId status actorUserId =>
      Response.status <$> UsersService.updateUserStatus targetUserId status actorUserId
  | .adminResetPassword targetUserId newPass actorUserId =>
      Response.reset <$> UsersService.adminResetPassword targetUserId newPass actorUserId
  | .registerDevice userId dto => Response.device <$> DeviceService.registerDevice userId dto
  | .revokeDevice deviceId actorUserId actorRole =>
      Response.deviceId <$> DeviceService.revokeDevice deviceId actorUserId actorRole
  | .registerPushToken dto actorUserId =>
      Response.deviceId <$> NotificationService.registerPushToken dto actorUserId
  | .validate payload => Response.user <$> JwtStrategy.validate payload
  | .validateSocket data => (fun _ => .socket data) <$> WsJwtAuthGuard.validateSocket data
  | .connect socketId handshake =>
      Response.socket <$> RealtimeGateway.connect config socketId handshake
  | .disconnect socketId =>
      (fun _ => .nothing) <$> (liftM (RealtimeGateway.handleDisconnect socketId) : Proc accounts Unit)
  | .handleRevocationMessage =>
      (fun _ => .nothing) <$> (liftM RealtimeGateway.handleRevocationMessage : Proc accounts Unit)

/-- Requests that start together on a state, each call and each transaction one step. -/
def Request.pool (config : JwtConfig) (db : Accounts) (requests : List Request) :
    Pool accounts.whole Response :=
  Pool.whole Write.durable db (requests.map (Request.proc config))

end Processes

/-! ## Instances for examples -/

/-- Ids in unary. -/
@[reducible] def unarySpelling : UuidSpelling where
  parse text := if text = "" then none else some (text.length - 1)
  text id := String.ofList (List.replicate (id + 1) '1')
  parse_text id := by
    rw [if_neg]
    · simp
    · intro empty
      simpa using congrArg String.length empty
  parse_empty := rfl

/-- A hash without collisions. -/
@[reducible] def plainHash : TokenHash := ⟨fun token => token⟩

/-- Hashes with current parameters. -/
@[reducible] def plainArgon2 : Argon2 where
  hash plainPassword salt := "$argon2id$v=19$m=65536,t=3,p=4$" ++ salt ++ "$" ++ plainPassword
  verify passwordHash plainPassword :=
    some (decide (("$" ++ plainPassword).toList.isSuffixOf passwordHash.toList))

/-- A token that somebody has signed. -/
structure SignedToken where
  text : String
  header : JwtHeader := { alg := .string "HS256", kid := .undefined }
  secret : String
  issuer : String
  audience : String
  payload : JwtPayload

/-- The token has expired. -/
def Expiry.passed (now : Instant) : Expiry → Bool
  | .at seconds => seconds ≤ ((now / 1000 : Nat) : Rat)
  | _ => false

/-- What the library finds when it verifies a token that has been signed. -/
def SignedToken.verify (token : SignedToken) (secret issuer audience : String) (now : Instant) :
    Except String JwtPayload :=
  if token.header.alg ≠ .string "HS256" then .error "invalid algorithm"
  else if token.secret ≠ secret then .error "invalid signature"
  else if token.payload.exp.passed now then .error "jwt expired"
  else if token.issuer ≠ issuer then .error "jwt issuer invalid"
  else if token.audience ≠ audience then .error "jwt audience invalid"
  else .ok token.payload

/-- What a token that verifies was made with. -/
theorem SignedToken.verify_ok {token : SignedToken} {secret issuer audience : String} {now : Instant}
    {payload : JwtPayload} (verified : token.verify secret issuer audience now = .ok payload) :
    token.header.alg = .string "HS256" ∧ payload = token.payload := by
  by_cases alg : token.header.alg = .string "HS256"
  · refine ⟨alg, ?_⟩
    rw [verify, if_neg (not_not_intro alg)] at verified
    split_ifs at verified
    exact (Except.ok.inj verified).symm
  · rw [verify, if_pos alg] at verified
    cases verified

/-- The library, on the tokens that have been signed. -/
@[reducible] def tableTokens (table : List SignedToken) : JsonWebToken where
  decode text := (table.find? fun token => token.text = text).map SignedToken.header
  verify text secret issuer audience now :=
    match table.find? fun token => token.text = text with
    | none => .error "jwt malformed"
    | some token => token.verify secret issuer audience now
  alg_of_verify := by
    intro text secret issuer audience now payload verified
    cases found : table.find? fun token => token.text = text with
    | none => simp [found] at verified
    | some token =>
        rw [found] at verified
        exact ⟨token.header, rfl, (SignedToken.verify_ok verified).1⟩
  payload_of_verify := by
    intro text secret issuer audience now payload verified _ _ _ _ _ verifiedToo
    cases found : table.find? fun token => token.text = text with
    | none => simp [found] at verified
    | some token =>
        rw [found] at verified verifiedToo
        rw [(SignedToken.verify_ok verified).2, (SignedToken.verify_ok verifiedToo).2]

/-! A driver who is logged in. -/

namespace LoggedIn

/-- A token. -/
def token : AccessToken where
  kid := "dms-2026-q3"
  issuer := "dms-api"
  audience := "dms-clients"
  sub := 1
  role := "DRIVER"
  deviceId := "111"
  sessionId := 3
  issuedAt := 0

/-- Its session. -/
def session : Session where
  id := 3
  userId := 1
  deviceId := 2
  refreshTokenHash := "r"
  tokenFamily := 5
  expiresAt := sessionLifetime

/-- The accounts it belongs to. -/
def db : Accounts where
  users := Table.empty.insert
    { id := 1, username := "d", phone := "0", passwordHash := "", roleId := 4, status := .active }
  roles := Table.empty.insert { id := 4, code := "DRIVER" }
  devices := Table.empty.insert
    { id := 2, userId := 1, status := .active, deviceIdentifier := "p", platform := .android,
      appVersion := "1" }
  sessions := Table.empty.insert session

end LoggedIn

end Armada.Auth
