import Mathlib.Data.List.Infix
import Armada.Sessions.SessionService

/-!
# AuthService

`src/modules/auth/auth.service.ts`, with `password.util.ts`. An access token is kept as its
claims; its signature matters only where a token comes back (`JwtStrategy`, `WsJwtAuthGuard`).
-/

namespace Armada.Auth

open Concurrency

/-- The library `@node-rs/argon2`. `verify` may throw, which is `none`. -/
class Argon2 where
  hash : (plainPassword salt : String) → String
  verify : (passwordHash plainPassword : String) → Option Bool

section Passwords

variable [Argon2]

/-- Hash a password with a salt of its own. -/
def hashPassword (plainPassword : String) : Proc accounts String := do
  let input ← ask
  return Argon2.hash plainPassword input.salt

/-- The password is the one that was hashed. -/
def verifyPassword (passwordHash plainPassword : String) : Bool :=
  (Argon2.verify passwordHash plainPassword).getD false

/-- The hash was made with settings that are no longer used. -/
def needsRehash (passwordHash : String) : Bool :=
  !("$argon2id$".toList.isPrefixOf passwordHash.toList) ||
    !decide ("m=65536,t=3,p=4".toList <:+: passwordHash.toList)

end Passwords

/-- The settings that sign and verify access tokens. -/
structure JwtConfig where
  secretOrKey : String := "default_long_secret_key_32_characters!"
  previousSecretOrKey : Option String := none
  currentKeyId : String := "dms-2026-q3"
  previousKeyId : Option String := none
  issuer : String := "dms-api"
  audience : String := "dms-clients"

/-- The clients that differ in how they keep the refresh token. -/
inductive ClientType where
  | mobile
  | web
  deriving DecidableEq

/-- The client as the code writes it. -/
def ClientType.name : ClientType → String
  | .mobile => "MOBILE"
  | .web => "WEB"

/-- The body of a login. -/
structure LoginDto where
  username : String
  password : String
  deviceId : Option String := none
  clientType : Option ClientType := some .mobile

/-- The body of a registration. -/
structure RegisterUserDto where
  username : String
  email : Option String := none
  phone : String
  password : String

/-- What a login answers of the user. -/
structure LoginUser where
  id : Uuid
  username : String
  role : String
  driverId : Option Uuid
  deriving DecidableEq

/-- The answer of a login. A web client gets its refresh token as a cookie. -/
structure LoginResult where
  accessToken : AccessToken
  refreshToken : Option String
  refreshCookie : Option String
  expiresIn : Nat
  user : LoginUser
  deriving DecidableEq

/-- What a refresh answers. -/
structure RefreshResult where
  accessToken : AccessToken
  refreshToken : Option String
  refreshCookie : Option String
  expiresIn : Nat
  deriving DecidableEq

/-- What a registration answers. -/
structure RegisteredUser where
  id : Uuid
  username : String
  role : String
  deriving DecidableEq

namespace AuthService

/-- Thrown when the limiter refuses a login. -/
def loginRateLimited (message : String) : Exception :=
  .http .tooManyRequests (some "LOGIN_RATE_LIMITED") message

/-- Thrown for an unknown user and for a wrong password alike. -/
def invalidCredentials : Exception :=
  unauthorized "INVALID_CREDENTIALS" "Invalid username or password"

/-- `jwtService.sign` at the present time. -/
def signAccessToken (config : JwtConfig) (userId : Uuid) (role deviceId : String)
    (sessionId : Uuid) : Proc accounts AccessToken := do
  let input ← ask
  return {
    kid := config.currentKeyId
    issuer := config.issuer
    audience := config.audience
    sub := userId
    role
    deviceId
    sessionId
    issuedAt := input.now / 1000 }

variable [UuidSpelling] [TokenHash] [Argon2]

/-- The two rate limits at the start of a login. -/
def throttle (username clientIp : String) : Proc accounts Unit := do
  let ipAttempts ← RedisService.incrRateLimit s!"throttle:login:ip:{clientIp}" 300
  Proc.rejectIf (ipAttempts > 30) (loginRateLimited
    "Too many login attempts from this IP address. Please try again in 5 minutes.")
  let userAttempts ← RedisService.incrRateLimit s!"throttle:login:user:{username}" 300
  Proc.rejectIf (userAttempts > 5) (loginRateLimited
    "Too many failed login attempts for this account. Please try again in 5 minutes.")

/-- The user that a login names, once its status and its password have been checked. -/
def authenticate (dto : LoginDto) (clientIp userAgent : String) :
    Proc accounts Prisma.UserRecord := do
  let found ← Prisma.User.findFirst fun row =>
    row.username = dto.username || row.email = some dto.username || row.phone = dto.username
  match found with
  | none => do
      Prisma.AuditLog.create
        { actorUserId := none, action := "LOGIN_FAILURE", entityType := "AUTH",
          entityId := .string dto.username, result := "FAILED", ipAddress := some clientIp,
          userAgent := some userAgent, detail := some (.reason "USER_NOT_FOUND") }
      throw invalidCredentials
  | some found => do
      Proc.rejectIf (found.user.status ≠ .active)
        (unauthorized s!"ACCOUNT_{found.user.status.name}"
          s!"Account is {found.user.status.lowerCase}")
      if ¬verifyPassword found.user.passwordHash dto.password then
        Prisma.AuditLog.create
          { actorUserId := some found.user.id, action := "LOGIN_FAILURE", entityType := "USER",
            entityId := spelled found.user.id, result := "FAILED", ipAddress := some clientIp,
            userAgent := some userAgent, detail := some (.reason "PASSWORD_MISMATCH") }
        throw invalidCredentials
      return found

/-- The hash that was read is replaced if its parameters are outdated. -/
def rehash (user : User) (password : String) : Proc accounts Unit :=
  if needsRehash user.passwordHash then do
    let newHash ← hashPassword password
    let _ ← Prisma.User.update (.ok user.id) fun _ => { passwordHash := some newHash }
  else pure ()

/-- The device of a login: the one the client names, or a new one. -/
def deviceOf (dto : LoginDto) (userId : Uuid) : Proc accounts String :=
  match dto.deviceId.filter fun text => text ≠ "" with
  | some deviceId => pure deviceId
  | none => do
      let created ← ask
      let clientType := (dto.clientType.map ClientType.name).getD "MOBILE"
      let defaultDevice ← Prisma.Device.create fun input =>
        { id := input.uuid, userId, status := .active
          deviceIdentifier := s!"{clientType}-{created.now}"
          platform := if dto.clientType = some .web then .web else .android
          appVersion := "1.0.0", lastSeenAt := input.now }
      return UuidSpelling.text defaultDevice.id

/-- What a login does once the password is right. -/
def openSession (config : JwtConfig) (dto : LoginDto) (clientIp userAgent : String)
    (found : Prisma.UserRecord) : Proc accounts LoginResult := do
  rehash found.user dto.password
  let deviceId ← deviceOf dto found.user.id
  let sessionResult ← SessionService.createSession found.user.id deviceId found.role.code
  let accessToken ← signAccessToken config found.user.id found.role.code deviceId
    sessionResult.sessionId
  let loggedInAt ← ask
  let _ ← Prisma.User.update (.ok found.user.id) fun _ => { lastLoginAt := some loggedInAt.now }
  Prisma.AuditLog.create
    { actorUserId := some found.user.id, action := "LOGIN_SUCCESS", entityType := "USER",
      entityId := spelled found.user.id, result := "SUCCESS", ipAddress := some clientIp,
      userAgent := some userAgent }
  let web := dto.clientType = some .web
  return {
    accessToken
    refreshToken := if web then none else some sessionResult.rawRefreshToken
    refreshCookie := if web then some sessionResult.rawRefreshToken else none
    expiresIn := 900
    user :=
      { id := found.user.id, username := found.user.username, role := found.role.code,
        driverId := found.driver.map Driver.id } }

/-- `login`: the checks, the device, the session and the tokens. -/
def login (config : JwtConfig) (dto : LoginDto) (clientIp userAgent : String) :
    Proc accounts LoginResult := do
  throttle dto.username clientIp
  let found ← authenticate dto clientIp userAgent
  RedisService.resetRateLimit s!"throttle:login:user:{dto.username}"
  openSession config dto clientIp userAgent found

/-- `refresh`: rotate the session, then look at its user again. -/
def refresh (config : JwtConfig) (rawRefreshToken : String) (clientType : ClientType) :
    Proc accounts RefreshResult := do
  Proc.rejectIf (rawRefreshToken = "")
    (unauthorized "MISSING_REFRESH_TOKEN" "Refresh token is required")
  let sessionResult ← SessionService.rotateSession rawRefreshToken
  let found ← Prisma.User.findUnique (.ok sessionResult.userId)
  let inactive := unauthorized "ACCOUNT_INACTIVE" "Account is inactive"
  let found ← Proc.require found inactive
  Proc.rejectIf (found.user.status ≠ .active) inactive
  let accessToken ← signAccessToken config found.user.id found.role.code
    (UuidSpelling.text sessionResult.deviceId) sessionResult.sessionId
  let web := clientType = .web
  return {
    accessToken
    refreshToken := if web then none else some sessionResult.rawRefreshToken
    refreshCookie := if web then some sessionResult.rawRefreshToken else none
    expiresIn := 900 }

/-- The answer `{ loggedOut: true }`. -/
def logout (sessionId userId : JsValue) : Proc accounts Unit :=
  SessionService.revokeSession sessionId userId

/-- The answer `{ loggedOutAll: true }`. -/
def logoutAll (userId : JsValue) : Proc accounts Unit :=
  SessionService.revokeAllUserSessions userId

/-- `registerUser`: an account that waits for its activation. -/
def registerUser (dto : RegisterUserDto) : Proc accounts RegisteredUser := do
  let existing ← Prisma.User.findFirst fun row =>
    row.username = dto.username || row.phone = dto.phone ||
      (dto.email.filter fun text => text ≠ "").any fun email => row.email = some email
  Proc.rejectIf (existing.isSome = true) (.http .badRequest none
    "User with this username, email, or phone already exists")
  let role ← Prisma.Role.findUnique "DRIVER"
  let role ← Proc.require role (.http .badRequest none
    "Default registration role is not configured")
  let passwordHash ← hashPassword dto.password
  let user ← Prisma.User.create fun input =>
    { id := input.uuid, username := dto.username, email := dto.email, phone := dto.phone,
      passwordHash, roleId := role.id, status := .pendingActivation }
  return { id := user.id, username := user.username, role := role.code }

end AuthService

end Armada.Auth
