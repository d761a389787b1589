import Armada.Auth.AuthService

/-!
# JwtStrategy

`src/modules/auth/strategies/jwt.strategy.ts`: `passport-jwt` verifies the bearer token with
the options of the constructor, then `validate` looks at what the claims name.
-/

namespace Armada.Auth

open Concurrency

/-- The header of a token, as far as the validators read it. -/
structure JwtHeader where
  alg : JsValue
  kid : JsValue
  deriving DecidableEq

/-- The library `jsonwebtoken`, which `passport-jwt` uses too. `verify` checks the signature
(HS256 alone), the expiry, the issuer and the audience, and fails with a message. -/
class JsonWebToken where
  decode : (token : String) → Option JwtHeader
  verify : (token secret issuer audience : String) → (now : Instant) → Except String JwtPayload
  /-- A token that verifies is well formed, and HS256 is the only algorithm. -/
  alg_of_verify : ∀ {token secret issuer audience now payload},
    verify token secret issuer audience now = .ok payload →
      ∃ header, decode token = some header ∧ header.alg = .string "HS256"
  /-- The claims are those in the token, whatever key it is checked with. -/
  payload_of_verify : ∀ {token secret issuer audience now payload},
    verify token secret issuer audience now = .ok payload →
      ∀ {secret' issuer' audience' now' payload'},
        verify token secret' issuer' audience' now' = .ok payload' → payload' = payload

namespace JwtStrategy

variable [UuidSpelling]

/-- Thrown for what has been revoked. -/
def revoked (message : String) : Exception := unauthorized "TOKEN_REVOKED" message

/-- What the condition on the session row refuses. -/
def sessionRefused (session : Session) (device : Device) (userId deviceId : JsValue)
    (now : Instant) : Prop :=
  spelled session.userId ≠ userId ∨ spelled session.deviceId ≠ deviceId ∨
    spelled device.userId ≠ userId ∨ session.isRevoked = true ∨ session.expiresAt ≤ now ∨
    device.status ≠ .active

instance (session : Session) (device : Device) (userId deviceId : JsValue) (now : Instant) :
    Decidable (sessionRefused session device userId deviceId now) :=
  inferInstanceAs (Decidable (_ ∨ _ ∨ _ ∨ _ ∨ _ ∨ _))

/-- The check of the session against the database. -/
def checkSession (payload : JwtPayload) (refused : Exception) : Proc accounts Unit := do
  let found ← Prisma.Session.findWithDevice payload.sessionId.toUuid
  let (session, device) ← Proc.require found refused
  let present ← ask
  Proc.rejectIf (sessionRefused session device payload.sub payload.deviceId present.now) refused

/-- `validate`, of the payload of a token that has verified. -/
def validate (payload : JwtPayload) : Proc accounts AuthUser := do
  Proc.rejectIf (payload.type ≠ .string "ACCESS_TOKEN")
    (unauthorized "INVALID_TOKEN_TYPE" "Invalid token type, expected ACCESS_TOKEN")
  let isSessionRevoked ← RedisService.isRevoked (.session payload.sessionId)
  Proc.rejectIf (isSessionRevoked = some true) (revoked "Token or session has been revoked")
  let found ← Prisma.User.findUnique payload.sub.toUuid
  let found ← Proc.require found (unauthorized "USER_NOT_FOUND" "User no longer exists")
  Proc.rejectIf (found.user.status ≠ .active)
    (unauthorized s!"ACCOUNT_{found.user.status.name}" s!"Account is {found.user.status.lowerCase}")
  Proc.rejectIf (.string found.role.code ≠ payload.role)
    (unauthorized "ROLE_UPDATED_REAUTH_REQUIRED"
      "User permissions or role have changed. Please re-authenticate.")
  let isUserRevoked ← RedisService.isRevoked (.user payload.sub)
  Proc.rejectIf (isUserRevoked = some true) (revoked "User tokens have been revoked")
  if isSessionRevoked = some false ∨ isSessionRevoked = none then
    checkSession payload (revoked "Token or session has been revoked")
  return {
    id := found.user.id
    username := found.user.username
    role := found.role.code
    organizationId := found.user.organizationId
    permissions := found.role.permissions
    deviceId := payload.deviceId
    sessionId := payload.sessionId
    driverId := found.driver.map Driver.id }

/-- The whole strategy on a bearer token. -/
def authenticate [JsonWebToken] (config : JwtConfig) (token : String) : Proc accounts AuthUser := do
  Proc.rejectIf (token = "") (unauthorized "UNAUTHORIZED" "No auth token")
  let present ← ask
  match JsonWebToken.verify token config.secretOrKey config.issuer config.audience present.now with
  | .error message => throw (unauthorized "UNAUTHORIZED" message)
  | .ok payload => validate payload

end JwtStrategy

end Armada.Auth
