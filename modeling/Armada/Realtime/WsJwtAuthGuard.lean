import Mathlib.Data.List.Infix
import Armada.Auth.JwtStrategy

/-!
# WsJwtAuthGuard

`src/modules/realtime/guards/ws-jwt-auth.guard.ts`: the same checks for a WebSocket, once at
the handshake and again before a sensitive operation.
-/

namespace Armada.Auth

open Concurrency

/-- Where a client may put its token. -/
structure Handshake where
  authToken : JsValue := .undefined
  authorization : JsValue := .undefined
  queryToken : JsValue := .undefined

namespace WsJwtAuthGuard

/-- What `trim` takes off: white space and line terminators. -/
def isTrimmed (char : Char) : Bool :=
  char.toNat ∈ [9, 10, 11, 12, 13, 32, 160, 5760, 8232, 8233, 8239, 8287, 12288, 65279] ||
    (8192 ≤ char.toNat && char.toNat ≤ 8202)

/-- `trim`, of a list of characters. -/
def trim (text : List Char) : String :=
  String.ofList ((text.dropWhile isTrimmed).reverse.dropWhile isTrimmed).reverse

/-- The token of a handshake: of `auth`, else of the header. -/
def extractToken (handshake : Handshake) : Option String :=
  match (handshake.authToken.or handshake.authorization).or handshake.queryToken with
  | .string text =>
      if text = "" then none
      else if "Bearer ".toList.isPrefixOf text.toList then some (trim (text.toList.drop 7))
      else some (trim text.toList)
  | _ => none

/-- Thrown to the client of a handshake. -/
def rejected (message : String) : Exception := .error s!"UNAUTHORIZED: {message}"

/-- The secret that the header selects. -/
def secretFor (config : JwtConfig) (header : JwtHeader) : String :=
  match config.previousKeyId, config.previousSecretOrKey with
  | some keyId, some secret =>
      if header.kid = .string keyId ∧ keyId ≠ "" ∧ secret ≠ "" then secret else config.secretOrKey
  | _, _ => config.secretOrKey

/-- `message.includes(part)`. -/
def includes (message part : String) : Bool := decide (part.toList <:+: message.toList)

/-- What becomes of an error of `jwt.verify`. -/
def verifyError (message : String) : Exception :=
  if includes message "expired" then rejected "Token expired"
  else if includes message "issuer" then rejected "Invalid issuer"
  else if includes message "audience" then rejected "Invalid audience"
  else rejected "Invalid signature"

/-- `Number.isFinite(exp)`, with the number. -/
def finite : Expiry → Option Rat
  | .at seconds => some seconds
  | .absent => none
  | .infinite => none

section Handshake

variable [JsonWebToken]

/-- The claims of a token: the checks that need no other state. -/
def verifyToken (config : JwtConfig) (handshake : Handshake) (now : Instant) :
    Except Exception JwtPayload :=
  match extractToken handshake with
  | none => .error (rejected "Token required")
  | some rawToken =>
      if rawToken = "" then .error (rejected "Token required")
      else
        match JsonWebToken.decode rawToken with
        | none => .error (rejected "Invalid token format")
        | some header =>
            if header.alg ≠ .string "HS256" then .error (rejected "Invalid token algorithm")
            else
              match JsonWebToken.verify rawToken (secretFor config header) config.issuer
                config.audience now with
              | .error message => .error (verifyError message)
              | .ok payload => .ok payload

variable [UuidSpelling]

/-- What `validateHandshake` does with the claims. -/
def validatePayload (payload : JwtPayload) : Proc accounts AuthenticatedSocketData := do
  Proc.rejectIf (payload.type ≠ .string "ACCESS_TOKEN") (rejected "Invalid token type")
  let incomplete := rejected "Incomplete token claims"
  Proc.rejectIf (¬(payload.sessionId.truthy ∧ payload.sub.truthy ∧ payload.deviceId.truthy))
    incomplete
  let accessTokenExp ← Proc.require (finite payload.exp) incomplete
  let isSessionRevoked ← RedisService.isRevoked (.session payload.sessionId)
  Proc.rejectIf (isSessionRevoked = some true) (rejected "Session revoked")
  let found ← Prisma.User.findUnique payload.sub.toUuid
  let found ← Proc.require found (rejected "User not found")
  Proc.rejectIf (found.user.status ≠ .active)
    (rejected s!"Account {found.user.status.lowerCase}")
  Proc.rejectIf (.string found.role.code ≠ payload.role) (rejected "ROLE_UPDATED_REAUTH_REQUIRED")
  if isSessionRevoked = some false ∨ isSessionRevoked = none then
    JwtStrategy.checkSession payload (rejected "Session revoked")
  let isUserRevoked ← RedisService.isRevoked (.user payload.sub)
  Proc.rejectIf (isUserRevoked = some true) (rejected "User revoked")
  let connected ← ask
  return {
    userId := spelled found.user.id
    username := found.user.username
    role := found.role.code
    organizationId := found.user.organizationId
    permissions := found.role.permissions
    deviceId := payload.deviceId
    sessionId := payload.sessionId
    accessTokenExp
    driverId := found.driver.map Driver.id
    connectedAt := connected.now }

/-- `validateHandshake`: the token, then the checks of its payload. -/
def validateHandshake (config : JwtConfig) (handshake : Handshake) :
    Proc accounts AuthenticatedSocketData := do
  let present ← ask
  let payload ← Proc.ofExcept (verifyToken config handshake present.now)
  validatePayload payload

end Handshake

variable [UuidSpelling]

/-- The four queries of `Promise.all` stand in the order in which they are sent. -/
def validateSocket (data : AuthenticatedSocketData) : Proc accounts Unit := do
  Proc.rejectIf (¬(data.userId.truthy ∧ data.sessionId.truthy ∧ data.deviceId.truthy))
    (rejected "Authentication context required")
  let present ← ask
  Proc.rejectIf (data.accessTokenExp ≤ ((present.now / 1000 : Nat) : Rat))
    (rejected "Access token expired")
  let session ← Prisma.Session.findWithDevice data.sessionId.toUuid
  let user ← Prisma.User.findUnique data.userId.toUuid
  let isSessionRevoked ← RedisService.isRevoked (.session data.sessionId)
  let isUserRevoked ← RedisService.isRevoked (.user data.userId)
  let refused := rejected "Session or device revoked"
  Proc.rejectIf (isSessionRevoked = some true ∨ isUserRevoked = some true) refused
  let (session, device) ← Proc.require session refused
  let found ← Proc.require user refused
  Proc.rejectIf (found.user.status ≠ .active ∨ found.role.code ≠ data.role) refused
  let present ← ask
  Proc.rejectIf (JwtStrategy.sessionRefused session device data.userId data.deviceId present.now)
    refused
  Proc.rejectIf (found.driver.map Driver.id ≠ data.driverId) refused

end WsJwtAuthGuard

end Armada.Auth
