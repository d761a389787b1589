import Armada.Auth.AuthService

/-!
# UsersService

`src/modules/users/users.service.ts`: what an administrator does to an account. The id of
the target is the text of the request path, as it stands in the markers and messages.
-/

namespace Armada.Auth

open Concurrency

/-- What setting a role answers. -/
structure UpdatedRole where
  id : Uuid
  username : String
  role : String
  deriving DecidableEq

/-- What setting a status answers. -/
structure UpdatedStatus where
  id : Uuid
  username : String
  status : AccountStatus
  deriving DecidableEq

namespace UsersService

variable [UuidSpelling] [Argon2]

/-- Thrown for a user that is not there. -/
def userNotFound : Exception := .http .notFound none "User not found"

/-- The target of a request. -/
def target (targetUserId : String) : Proc accounts Prisma.UserRecord := do
  let found ← Prisma.User.findUnique (JsValue.string targetUserId).toUuid
  Proc.require found userNotFound

/-- The marker of all tokens of a user. -/
def mark (targetUserId : String) : Proc accounts Unit :=
  RedisService.setRevocation (.user (.string targetUserId)) 900

/-- The audit entry of an administrator's action on an account. -/
def audit (actorUserId : Uuid) (action targetUserId : String) (detail : Option AuditDetail) :
    Proc accounts Unit :=
  Prisma.AuditLog.create
    { actorUserId := some actorUserId, action, entityType := "USER",
      entityId := .string targetUserId, result := "SUCCESS", detail }

/-- `updateUserRole`: the role, the end of the sessions, the mark and the audit row. -/
def updateUserRole (targetUserId newRoleCode : String) (actorUserId : Uuid) :
    Proc accounts UpdatedRole := do
  let found ← target targetUserId
  let newRole ← Prisma.Role.findUnique newRoleCode
  let newRole ← Proc.require newRole
    (.http .badRequest none s!"Role {newRoleCode} does not exist")
  let updated ← Prisma.User.update (JsValue.string targetUserId).toUuid fun _ =>
    { roleId := some newRole.id }
  SessionService.revokeSessionsOf (.string targetUserId)
  mark targetUserId
  RedisService.publish fun input =>
    { type := .userRevoked, userId := .string targetUserId, reason := "ROLE_CHANGED",
      timestamp := some input.now }
  audit actorUserId "ROLE_CHANGED" targetUserId (some (.role found.role.code newRole.code))
  return { id := updated.user.id, username := updated.user.username, role := updated.role.code }

/-- `ACCOUNT_SUSPENDED` or `ACCOUNT_DISABLED`; the message has no timestamp. -/
def revokeForStatus (targetUserId : String) (status : AccountStatus) : Proc accounts Unit :=
  if status = .suspended ∨ status = .disabled then do
    SessionService.revokeSessionsOf (.string targetUserId)
    mark targetUserId
    RedisService.publish fun _ =>
      { type := .userRevoked, userId := .string targetUserId, reason := s!"ACCOUNT_{status.name}" }
  else pure ()

/-- `updateUserStatus`: the status, and the end of the sessions unless the user
is to be active. -/
def updateUserStatus (targetUserId : String) (status : AccountStatus) (actorUserId : Uuid) :
    Proc accounts UpdatedStatus := do
  let found ← target targetUserId
  let updated ← Prisma.User.update (JsValue.string targetUserId).toUuid fun _ =>
    { status := some status }
  revokeForStatus targetUserId status
  audit actorUserId "ACCOUNT_STATUS_CHANGED" targetUserId (some (.status found.user.status status))
  return { id := updated.user.id, username := updated.user.username, status := updated.user.status }

/-- The answer is `{ reset: true }` with the id of the user. -/
def adminResetPassword (targetUserId newPass : String) (actorUserId : Uuid) :
    Proc accounts String := do
  let _ ← target targetUserId
  let passwordHash ← hashPassword newPass
  let _ ← Prisma.User.update (JsValue.string targetUserId).toUuid fun _ =>
    { passwordHash := some passwordHash }
  SessionService.revokeSessionsOf (.string targetUserId)
  mark targetUserId
  audit actorUserId "ADMIN_PASSWORD_RESET" targetUserId none
  RedisService.publish fun input =>
    { type := .userRevoked, userId := .string targetUserId, reason := "ADMIN_PASSWORD_RESET",
      timestamp := some input.now }
  return targetUserId

end UsersService

end Armada.Auth
