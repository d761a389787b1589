import Armada.Prisma

/-!
# Accounts, devices and sessions

The models of `prisma/schema.prisma` that authentication reads and writes, with the
columns the services use, the claims of an access token, the keys and messages in Redis,
and what a socket remembers of the handshake. Services that a caller can give any text
for an id take the text; the database driver parses it.
-/

namespace Armada.Auth

open Relational

/-- How the database driver reads and spells a UUID. -/
class UuidSpelling extends UuidText where
  text : Uuid → String
  parse_text : ∀ id, parse (text id) = some id
  parse_empty : parse "" = none

/-- An id as a JavaScript string. -/
def spelled [UuidSpelling] (id : Uuid) : JsValue := .string (UuidSpelling.text id)

/-! ## Enums -/

/-- The statuses of an account. -/
inductive AccountStatus where
  | pendingActivation
  | active
  | suspended
  | disabled
  deriving DecidableEq

/-- The spelling of a status in messages. -/
def AccountStatus.name : AccountStatus → String
  | .pendingActivation => "PENDING_ACTIVATION"
  | .active => "ACTIVE"
  | .suspended => "SUSPENDED"
  | .disabled => "DISABLED"

/-- `status.toLowerCase()`. -/
def AccountStatus.lowerCase : AccountStatus → String
  | .pendingActivation => "pending_activation"
  | .active => "active"
  | .suspended => "suspended"
  | .disabled => "disabled"

/-- The platforms of a device. -/
inductive PlatformType where
  | android
  | ios
  | web
  deriving DecidableEq

/-! ## Models -/

/-- A role with the codes of its permissions. -/
structure RoleRecord where
  id : Uuid
  code : String
  permissions : List String := []
  deriving DecidableEq

/-- A row of `users`, as far as authentication looks into it. -/
structure User where
  id : Uuid
  username : String
  email : Option String := none
  phone : String
  passwordHash : String
  roleId : Uuid
  organizationId : Option Uuid := none
  status : AccountStatus := .pendingActivation
  lastLoginAt : Option Instant := none
  deriving DecidableEq

/-- A row of `devices`. -/
structure Device extends Armada.Device where
  deviceIdentifier : String
  platform : PlatformType
  appVersion : String
  pushToken : Option String := none
  lastSeenAt : Instant := 0
  deriving DecidableEq

/-- A row of `sessions`. -/
structure Session where
  id : Uuid
  userId : Uuid
  deviceId : Uuid
  refreshTokenHash : String
  tokenFamily : Uuid
  isRevoked : Bool := false
  expiresAt : Instant
  lastRefreshedAt : Instant := 0
  deriving DecidableEq

/-- What the services put in `before_json` and `after_json`. -/
inductive AuditDetail where
  | reason (text : String)
  | tokenReuse (tokenFamily : Uuid) (revokedAt : Instant)
  | role (before after : String)
  | status (before after : AccountStatus)
  deriving DecidableEq

/-- A login that finds no user has no actor, and names what it was given. -/
abbrev AuditLog := AuditEntry (Option Uuid) JsValue AuditDetail

instance : Keyed RoleRecord Uuid := ⟨RoleRecord.id⟩
instance : Keyed User Uuid := ⟨User.id⟩
instance : Keyed Device Uuid := ⟨fun row => row.id⟩
instance : Keyed Session Uuid := ⟨Session.id⟩

/-! ## Access tokens -/

/-- The claim `exp`. A token that verifies has a number there, if anything; a JSON number
may be too large for a finite one. -/
inductive Expiry where
  | absent
  | at (seconds : Rat)
  | infinite
  deriving DecidableEq

/-- The claims of a token that has been verified, any JSON values but for `exp`. -/
structure JwtPayload where
  sub : JsValue
  role : JsValue
  deviceId : JsValue
  sessionId : JsValue
  type : JsValue
  exp : Expiry
  deriving DecidableEq

/-- What the server signs into an access token. -/
structure AccessToken where
  kid : String
  issuer : String
  audience : String
  sub : Uuid
  role : String
  deviceId : String
  sessionId : Uuid
  /-- In seconds. -/
  issuedAt : Nat
  deriving DecidableEq

/-- Fifteen minutes, in seconds. -/
def accessTokenLifetime : Nat := 900

/-- When a token expires, in seconds. -/
def AccessToken.expiresAt (token : AccessToken) : Nat := token.issuedAt + accessTokenLifetime

/-- The claims that are read back from an access token. -/
def AccessToken.payload [UuidSpelling] (token : AccessToken) : JwtPayload where
  sub := spelled token.sub
  role := .string token.role
  deviceId := .string token.deviceId
  sessionId := spelled token.sessionId
  type := .string "ACCESS_TOKEN"
  exp := .at token.expiresAt

/-- What `JwtStrategy.validate` makes of a token, `req.user` of a guarded request. -/
structure AuthUser where
  id : Uuid
  username : String
  role : String
  organizationId : Option Uuid
  permissions : List String
  deviceId : JsValue
  sessionId : JsValue
  driverId : Option Uuid
  deriving DecidableEq

/-! ## Redis -/

/-- The keys `revoked:session:<id>` and `revoked:user:<id>`. -/
inductive RevocationKey where
  | session (id : JsValue)
  | user (id : JsValue)
  deriving DecidableEq

/-- What a message revokes. -/
inductive RevocationType where
  | userRevoked
  | deviceRevoked
  | sessionRevoked
  deriving DecidableEq

/-- A message on the channel `security:revocation`. -/
structure RevocationEventPayload where
  type : RevocationType
  userId : JsValue := .undefined
  deviceId : JsValue := .undefined
  sessionId : JsValue := .undefined
  reason : String
  timestamp : Option Instant := none
  deriving DecidableEq

/-! ## Sockets -/

/-- What a handshake leaves on the socket. -/
structure AuthenticatedSocketData where
  userId : JsValue
  username : String
  role : String
  organizationId : Option Uuid
  permissions : List String
  deviceId : JsValue
  sessionId : JsValue
  accessTokenExp : Rat
  driverId : Option Uuid
  connectedAt : Instant
  deriving DecidableEq

end Armada.Auth
