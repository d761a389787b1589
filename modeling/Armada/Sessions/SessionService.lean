import Armada.Auth.Prisma

/-!
# SessionService

`src/modules/sessions/session.service.ts`: sessions are created at login, exchanged for a
successor with a refresh token, and revoked one by one, by family or by user.
-/

namespace Armada.Auth

open Concurrency

/-- `hashToken` of `token.util.ts`, which is SHA-256. -/
class TokenHash where
  hashToken : String → String

/-- What creating and rotating answer. -/
structure SessionResult where
  sessionId : Uuid
  tokenFamily : Uuid
  rawRefreshToken : String
  deviceId : Uuid
  userId : Uuid
  deriving DecidableEq

/-- The answer for a session and its refresh token. -/
def SessionResult.of (session : Session) (rawRefreshToken : String) : SessionResult where
  sessionId := session.id
  tokenFamily := session.tokenFamily
  rawRefreshToken := rawRefreshToken
  deviceId := session.deviceId
  userId := session.userId

/-- Seven days, in milliseconds. -/
def sessionLifetime : Nat := 7 * 24 * 60 * 60 * 1000

/-- `where: { userId, isRevoked: false }`. -/
def activeSessionsOf (userId : Uuid) : Prisma.SessionWhere where
  userId := some userId
  isRevoked := some false

/-- `where: { deviceId, isRevoked: false }`. -/
def activeSessionsOn (deviceId : Uuid) : Prisma.SessionWhere where
  deviceId := some deviceId
  isRevoked := some false

namespace SessionService

variable [UuidSpelling] [TokenHash]

/-- The transaction of a driver's login. -/
def takeOver (userId : Uuid) (deviceId : String) (rawRefreshToken : String) (tokenFamily : Uuid)
    (expiresAt : Instant) : Txn accounts SessionResult := do
  Prisma.User.selectForUpdate userId
  let existingSessions ← Prisma.Session.findMany (.ok (activeSessionsOf userId))
  existingSessions.forM fun session =>
    RedisService.setRevocation (.session (spelled session.id)) 900
  let _ ← Prisma.Session.updateMany (.ok (activeSessionsOf userId))
  let session ← Prisma.Session.create userId (JsValue.string deviceId).toUuid
    (TokenHash.hashToken rawRefreshToken) tokenFamily expiresAt
  return .of session rawRefreshToken

/-- The update and the marker of one session that makes room for a new one. -/
def evict (session : Session) : Proc accounts Unit := do
  Prisma.Session.update (.ok session.id)
  RedisService.setRevocation (.session (spelled session.id)) 900

/-- `createSession`: a driver's in a transaction that revokes the ones before, any other's after
evictions. -/
def createSession (userId : Uuid) (deviceId roleCode : String) : Proc accounts SessionResult := do
  let generated ← ask
  let rawRefreshToken := generated.secret
  let tokenFamily := generated.uuid
  let expiresAt := generated.now + sessionLifetime
  if roleCode = "DRIVER" then
    Proc.transact (takeOver userId deviceId rawRefreshToken tokenFamily expiresAt)
  else
    let activeSessions ← Prisma.Session.findOldestFirst (activeSessionsOf userId)
    if activeSessions.length ≥ 5 then
      (activeSessions.take (activeSessions.length - 4)).forM evict
    let session ← Prisma.Session.create userId (JsValue.string deviceId).toUuid
      (TokenHash.hashToken rawRefreshToken) tokenFamily expiresAt
    return .of session rawRefreshToken

/-- The transaction of a rotation. -/
def exchange (hashed : String) : Txn accounts SessionResult := do
  let found ← Prisma.Session.findByHash hashed
  match found with
  | none => .fail (unauthorized "INVALID_REFRESH_TOKEN" "Invalid or expired refresh token")
  | some existingSession =>
      let present ← ask
      Txn.rejectIf (existingSession.isRevoked = true ∨ existingSession.expiresAt ≤ present.now)
        (.refreshTokenReuse existingSession)
      let generated ← ask
      let claimedAt ← ask
      let claimed ← Prisma.Session.updateMany
        (.ok { id := some existingSession.id, isRevoked := some false }) (some claimedAt.now)
      Txn.rejectIf (claimed ≠ 1) (.refreshTokenReuse existingSession)
      let newSession ← Prisma.Session.create existingSession.userId (.ok existingSession.deviceId)
        (TokenHash.hashToken generated.secret) existingSession.tokenFamily
        (generated.now + sessionLifetime)
      return .of newSession generated.secret

/-- Revoke a family whose token was used again, and record it. -/
def revokeTokenFamily (session : Session) : Proc accounts Unit := do
  let _ ← Proc.transact
    (Prisma.Session.updateMany (.ok { tokenFamily := some session.tokenFamily }))
  RedisService.setRevocation (.session (spelled session.id)) 900
  RedisService.setRevocation (.user (spelled session.userId)) 900
  RedisService.publish fun input =>
    { type := .userRevoked, userId := spelled session.userId, sessionId := spelled session.id,
      reason := "TOKEN_REUSE_DETECTED", timestamp := some input.now }
  let revokedAt ← ask
  Prisma.AuditLog.create
    { actorUserId := some session.userId, action := "TOKEN_REUSE_DETECTED", entityType := "SESSION",
      entityId := spelled session.id, result := "FAILED",
      detail := some (.tokenReuse session.tokenFamily revokedAt.now) }

/-- What a rotation does with its errors. -/
def handleReuse : Exception → Proc accounts SessionResult
  | .refreshTokenReuse session => do
      revokeTokenFamily session
      throw (unauthorized "TOKEN_REUSE_DETECTED"
        "Refresh token reuse detected. All sessions in family have been revoked.")
  | error => throw error

/-- `rotateSession`: the exchange, and what its failure sets off. -/
def rotateSession (rawRefreshToken : String) : Proc accounts SessionResult :=
  tryCatch (Proc.transact (exchange (TokenHash.hashToken rawRefreshToken))) handleReuse

/-- `revokeSession`, by the user if one is named. -/
def revokeSession (sessionId userId : JsValue) : Proc accounts Unit :=
  if ¬sessionId.truthy then pure ()
  else do
    let found ← Prisma.Session.findUnique sessionId.toUuid
    match found with
    | none => pure ()
    | some session =>
        if userId.truthy ∧ spelled session.userId ≠ userId then pure ()
        else
          Prisma.Session.update sessionId.toUuid
          RedisService.setRevocation (.session sessionId) 900
          RedisService.publish fun input =>
            { type := .sessionRevoked, sessionId, userId := spelled session.userId,
              reason := "USER_LOGOUT", timestamp := some input.now }

/-- The update that revokes all sessions of a user. -/
def revokeSessionsOf (userId : JsValue) : Proc accounts Unit := do
  let _ ← Proc.transact (Prisma.Session.updateMany (userId.toUuid.map activeSessionsOf))

/-- `revokeAllUserSessions`. -/
def revokeAllUserSessions (userId : JsValue) : Proc accounts Unit :=
  if ¬userId.truthy then pure ()
  else do
    revokeSessionsOf userId
    RedisService.setRevocation (.user userId) 900
    RedisService.publish fun input =>
      { type := .userRevoked, userId, reason := "LOGOUT_ALL_SESSIONS", timestamp := some input.now }

end SessionService

/-- The calls of the service's methods. -/
inductive SessionCall where
  | createSession (userId : Uuid) (deviceId roleCode : String)
  | rotateSession (rawRefreshToken : String)
  | revokeTokenFamily (session : Session)
  | revokeSession (sessionId userId : JsValue)
  | revokeAllUserSessions (userId : JsValue)

/-- Those that return a session return it; the others return nothing. -/
def SessionCall.proc [UuidSpelling] [TokenHash] : SessionCall → Proc accounts (Option SessionResult)
  | .createSession userId deviceId roleCode =>
      some <$> SessionService.createSession userId deviceId roleCode
  | .rotateSession rawRefreshToken => some <$> SessionService.rotateSession rawRefreshToken
  | .revokeTokenFamily session => (fun _ => none) <$> SessionService.revokeTokenFamily session
  | .revokeSession sessionId userId =>
      (fun _ => none) <$> SessionService.revokeSession sessionId userId
  | .revokeAllUserSessions userId =>
      (fun _ => none) <$> SessionService.revokeAllUserSessions userId

end Armada.Auth
