import Armada.Communication.Prisma

/-!
# CallSessionService

`src/modules/communication/services/call-session.service.ts`. The watchdog of a pending call,
which `initiateCallSession` schedules, runs as a process of its own; the TURN credentials are
left out.
-/

namespace Armada.Communication

open Concurrency
open Auth (UuidSpelling spelled)

/-- The body of an invitation. -/
structure InitiateCallDto where
  driverId : String
  type : RealtimeSessionType
  deliveryId : Option String := none
  deriving DecidableEq

/-- What an answer says. -/
inductive CallAction where
  | accept
  | decline
  deriving DecidableEq

/-- The status that an answer leads to. -/
def CallAction.status : CallAction → RealtimeSessionStatus
  | .accept => .active
  | .decline => .declined

/-- What an answer changes of the row. -/
def CallAction.change (now : Int) : CallAction → SessionChange
  | .accept => .accept now
  | .decline => .decline

/-- An answer with the status 403. -/
def forbidden (code message : String) : Exception := .http ⟨.forbidden, code, message, none⟩

/-- An answer with the status 404. -/
def notFound (code message : String) : Exception := .http ⟨.notFound, code, message, none⟩

/-- An answer with the status 409. -/
def conflict (code message : String) : Exception := .http ⟨.conflict, code, message, none⟩

variable [UuidSpelling]

namespace CallSessionService

/-- Thrown for a call that is not there. -/
def sessionNotFound (sessionId : String) : Exception :=
  notFound "CALL_SESSION_NOT_FOUND" s!"Call session {sessionId} not found"

/-- Thrown for a user who takes no part in the call. -/
def notParticipant : Exception :=
  forbidden "RESOURCE_FORBIDDEN" "You are not a participant in this call session"

/-- Thrown for an invitation that has run out. -/
def expired : Exception := conflict "CALL_SESSION_EXPIRED" "Call session has expired"

/-- Thrown where the status of the call does not allow it. -/
def invalidState (status : RealtimeSessionStatus) : Exception :=
  conflict "INVALID_CALL_STATE"
    s!"Cannot respond to call in status {status.name}. Expected PENDING"

/-- The driver of the call, its caller, and every administrator take part. -/
def isAuthorizedParticipant (session : RealtimeSession) (actor : UserActor) : Bool :=
  if actor.role = "ADMIN" ∨ actor.role = "SUPER_ADMIN" then true
  else spelled session.ownerId = actor.userId ∨ actor.driverId = some session.driverId

/-- The invitation goes to a room named after the driver. -/
def broadcastCallInvite (sessionId : Uuid) (driverId : String) (type : RealtimeSessionType)
    (actor : UserActor) : Statement communication Unit :=
  Server.emit s!"driver:{driverId}" (.callInvite sessionId type driverId) actor

/-- The answer goes to the room of the call. -/
def broadcastCallResponded (sessionId : Uuid) (status : RealtimeSessionStatus)
    (actor : UserActor) : Statement communication Unit :=
  let text := UuidSpelling.text sessionId
  Server.emit s!"session:{text}" (.callResponded sessionId status) actor

/-- The end goes to the room of the call. -/
def broadcastCallEnded (sessionId reason : String) (actor : UserActor) :
    Statement communication Unit :=
  Server.emit s!"session:{sessionId}" (.callEnded (.string sessionId) reason) actor

/-- An owner calls about a delivery of its own, and the driver it is assigned to. -/
def checkDelivery (dto : InitiateCallDto) (actor : UserActor) : Proc communication Unit :=
  match dto.deliveryId with
  | none => return ()
  | some deliveryId =>
      if actor.role = "OWNER" then do
        let found ← Prisma.Delivery.findUnique deliveryId
        let refused := forbidden "RESOURCE_FORBIDDEN"
          "You are not authorized to initiate a call for this delivery"
        let delivery ← Proc.require found refused
        Proc.rejectIf (spelled delivery.createdBy ≠ actor.userId) refused
        Proc.rejectIf (delivery.driverId.map UuidSpelling.text ≠ some dto.driverId)
          (conflict "DRIVER_DELIVERY_MISMATCH"
            "Call driver must be assigned to the requested delivery")
      else return ()

/-- The row of a new call. -/
def pendingSession (dto : InitiateCallDto) (actor : UserActor) (expiresAt : Int) (id : Uuid)
    (createdAt : Int) : Except PrismaError RealtimeSession := do
  let ownerId ← actor.userId.toUuid
  let driverId ← (JsValue.string dto.driverId).toUuid
  let deliveryId ← dto.deliveryId.mapM fun deliveryId => (JsValue.string deliveryId).toUuid
  return { id, type := dto.type, ownerId, driverId, deliveryId, status := .pending, createdAt,
           expiresAt }

/-- A new call is pending, under the id that was generated for it. -/
theorem pendingSession_ok {dto : InitiateCallDto} {actor : UserActor} {expiresAt createdAt : Int}
    {id : Uuid} {row : RealtimeSession}
    (made : pendingSession dto actor expiresAt id createdAt = .ok row) :
    row.id = id ∧ row.status = .pending := by
  simp only [pendingSession, except_bind_ok] at made
  obtain ⟨_, _, _, _, _, _, same⟩ := made
  obtain rfl := Except.ok.inj same
  exact ⟨rfl, rfl⟩

/-- 30 seconds. -/
def pendingTimeoutMs : Int := 30000

/-- The audit row of an operation on a call. -/
def auditLog (actor : UserActor) (action : String) (entityId : JsValue) : AuditLog :=
  { actorUserId := actor.userId, action, entityType := "REALTIME_SESSION", entityId,
    result := "SUCCESS" }

/-- `initiateCallSession`: the checks, the pending call, its audit row and the invitation. -/
def initiateCallSession (dto : InitiateCallDto) (actor : UserActor) :
    Proc communication (Option RealtimeSession) := do
  Proc.rejectIf (actor.role ≠ "OWNER" ∧ actor.role ≠ "ADMIN" ∧ actor.role ≠ "SUPER_ADMIN")
    (forbidden "FORBIDDEN" "Only Owner or Admin can initiate a call session to a Driver")
  let rateCount ← RedisService.incrRateLimit s!"throttle:call:invite:{actor.userIdText}" 60
  Proc.rejectIf (3 < rateCount)
    (.http ⟨.tooManyRequests, "RATE_LIMIT_EXCEEDED",
      "Call invitation rate limit exceeded (Max 3 invites/min).", none⟩)
  checkDelivery dto actor
  let driver ← Prisma.Driver.findUnique dto.driverId
  let _ ← Proc.require driver
    (notFound "DRIVER_NOT_FOUND" s!"Driver with ID {dto.driverId} not found")
  let now ← now
  let session ← Prisma.RealtimeSession.create
    (pendingSession dto actor (now + pendingTimeoutMs))
  Prisma.AuditLog.create
    (auditLog actor (if dto.type = .voicePtt then "VOICE_SESSION_STARTED" else "VIDEO_REQUESTED")
      (spelled session.id))
  broadcastCallInvite session.id dto.driverId dto.type actor
  return some session

/-- The UPDATE of an answer: only of a call that is pending and has not expired. -/
def claim (sessionId : String) (action : CallAction) (now : Int) : Statement communication Nat :=
  Prisma.RealtimeSession.updateMany sessionId
    (fun row => row.status = .pending ∧ now < row.expiresAt) (action.change now)

/-- `respondToCallSession`: the checks on what was read, then the UPDATE that looks again. -/
def respondToCallSession (sessionId : String) (action : CallAction) (actor : UserActor) :
    Proc communication (Option RealtimeSession) := do
  let found ← Prisma.RealtimeSession.findUnique sessionId
  let session ← Proc.require found (sessionNotFound sessionId)
  Proc.rejectIf (isAuthorizedParticipant session actor = false) notParticipant
  let now ← now
  Proc.rejectIf (session.expiresAt ≤ now) expired
  Proc.rejectIf (session.status ≠ .pending) (invalidState session.status)
  let claimed ← claim sessionId action now
  if claimed = 1 then do
    let updated ← Prisma.RealtimeSession.findUnique sessionId
    Prisma.AuditLog.create
      (auditLog actor (if action = .accept then "VIDEO_ACCEPTED" else "VIDEO_DECLINED")
        (.string sessionId))
    broadcastCallResponded session.id action.status actor
    return updated
  else do
    let current ← Prisma.RealtimeSession.findUnique sessionId
    let later ← Communication.now
    Proc.rejectIf (∃ row ∈ current, row.expiresAt ≤ later) expired
    throw (invalidState ((current.map RealtimeSession.status).getD session.status))

/-- The UPDATE of a hang-up, whatever the state of the call. -/
def finish (sessionId : String) (endedAt : Int) : Statement communication RealtimeSession :=
  Prisma.RealtimeSession.update sessionId (.finish endedAt)

/-- `endCallSession`; a call that has ended already is answered as it is. -/
def endCallSession (sessionId : String) (actor : UserActor) :
    Proc communication (Option RealtimeSession) := do
  let found ← Prisma.RealtimeSession.findUnique sessionId
  let session ← Proc.require found (sessionNotFound sessionId)
  Proc.rejectIf (isAuthorizedParticipant session actor = false) notParticipant
  if session.status = .ended then return some session
  else do
    let endedAt ← now
    let updated ← finish sessionId endedAt
    Prisma.AuditLog.create (auditLog actor "CALL_SESSION_ENDED" (.string sessionId))
    broadcastCallEnded (UuidSpelling.text session.id) "USER_HANGUP" actor
    return some updated

/-- `authorizeSignal`: the call is active and the user takes part. -/
def authorizeSignal (sessionId : String) (actor : UserActor) :
    Proc communication RealtimeSession := do
  let found ← Prisma.RealtimeSession.findUnique sessionId
  let session ← Proc.require found (sessionNotFound sessionId)
  Proc.rejectIf (isAuthorizedParticipant session actor = false) notParticipant
  let now ← now
  Proc.rejectIf (session.status ≠ .active ∨ session.expiresAt ≤ now)
    (conflict "INVALID_CALL_STATE" s!"Cannot signal call in status {session.status.name}")
  return session

/-- The UPDATE of the watchdog: only of a call that is pending and has expired. -/
def expire (sessionId : String) (now : Int) : Statement communication Nat :=
  Prisma.RealtimeSession.updateMany sessionId
    (fun row => row.status = .pending ∧ row.expiresAt ≤ now) .timeOut

/-- The watchdog; its errors are caught. -/
def handlePendingTimeout (sessionId : String) : Proc communication (Option RealtimeSession) :=
  tryCatch (do
      let found ← Prisma.RealtimeSession.findUnique sessionId
      match found with
      | none => return none
      | some session =>
          if session.status = .pending then do
            let now ← now
            let claimed ← expire sessionId now
            if claimed = 1 then do
              broadcastCallEnded sessionId "TIMEOUT" ⟨spelled session.ownerId, "SYSTEM", none⟩
              return none
            else return none
          else return none)
    fun _ => return none

end CallSessionService

end Armada.Communication
