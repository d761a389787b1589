import Armada.Communication.CallSessionService
import Armada.Communication.WsRoomAuthorizerService

/-!
# RealtimeGateway

The connections, rooms and calls of `src/modules/realtime/gateways/realtime.gateway.ts`. The
heartbeat, telemetry, chat and the subscription to revocations are left out.
-/

namespace Armada.Communication

open Concurrency Realtime
open Auth (UuidSpelling spelled)

/-- The room of a session under a spelling of its id. -/
def sessionRoom (sessionId : String) : String := s!"session:{sessionId}"

/-- The room of a call is of the category of calls. -/
theorem category_sessionRoom (sessionId : String) :
    category (sessionRoom sessionId) = "session" := by
  apply @category_eq _ _ sessionId.toList
  · decide
  · simp [sessionRoom, String.toList_append, ToString.toString]

/-- The skew that a signal may have. -/
def maxSkewMs : Nat := 30000

/-- What the client is told when a relay fails. -/
def SignalKind.failure : SignalKind → String
  | .offer => "Failed to relay offer"
  | .answer => "Failed to relay answer"
  | .iceCandidate => "Failed to relay ICE candidate"

namespace RealtimeGateway

/-- Code and message of what was caught, with those that an exception without a response
gets. -/
def caught (event code message : String) : Exception → Event
  | .http exception => .error event exception.code exception.message
  | _ => .error event code message

variable [UuidSpelling]

/-- Check the socket's session again; one that fails is disconnected. -/
def revalidateSensitiveSocket (client : Client) : Proc communication Bool := do
  let valid ← Client.validate client
  if valid then return true
  else do
    Client.emit client
      (.error "auth_error" "UNAUTHORIZED" "Authentication context is no longer valid")
    Client.remove client.id
    return false

/-- A handler behind the revalidation and the check of the user. -/
def sensitive (client : Client) (handler : Proc communication Unit) : Proc communication Unit := do
  let valid ← revalidateSensitiveSocket client
  if valid = false then return ()
  else if client.data.userId.truthy = false then return ()
  else handler

/-- A socket with a user is registered. -/
def handleConnection (client : Client) : Proc communication Unit :=
  if client.data.userId.truthy then Client.register client
  else Client.remove client.id

/-- The socket is taken out. -/
def handleDisconnect (socketId : SocketId) : Proc communication Unit := Client.remove socketId

/-- `handleJoinRoom`: the authorizer decides, then the socket joins. -/
def handleJoinRoom (client : Client) (room : String) : Proc communication Unit := do
  let valid ← revalidateSensitiveSocket client
  if valid = false then return ()
  else if client.data.userId.truthy = false then
    Client.emit client
      (.error "room_error" "UNAUTHENTICATED" "Authentication context required to join rooms")
  else if room = "" then
    Client.emit client
      (.error "room_error" "INVALID_ROOM_FORMAT" "Valid room string is required")
  else do
    let authResult ← WsRoomAuthorizerService.authorizeRoomJoin client.data room
    if authResult.authorized = false then
      Client.emit client
        (.error "room_error" (authResult.reason.getD "ROOM_ACCESS_DENIED")
          "You are not authorized to subscribe to this channel")
    else do
      let targetRoom := authResult.normalizedRoom.getD room
      Client.join client targetRoom
      Client.emit client (.roomJoined targetRoom)

/-- `handleLeaveRoom`. -/
def handleLeaveRoom (client : Client) (room : String) : Proc communication Unit :=
  if room = "" then return ()
  else do
    Client.leave client room
    Client.emit client (.roomLeft room)

/-- `handleWebrtcCallRespond`; an error becomes a notice. -/
def handleWebrtcCallRespond (client : Client) (sessionId : String) (action : CallAction) :
    Proc communication Unit :=
  sensitive client <|
    tryCatch (do
        let _ ← CallSessionService.respondToCallSession sessionId action client.actor
        if action = .accept then Client.join client (sessionRoom sessionId)
        else return ())
      fun error =>
        Client.emit client
          (caught "call_error" "CALL_RESPOND_FAILED" "Failed to process call response" error)

/-- The nonce of a message is claimed for 60 seconds. -/
def claimNonce (sessionId nonce : String) : Statement communication Bool :=
  RedisService.setNxEx s!"replay:nonce:{sessionId}:{nonce}" 60

/-- The sequence number of a sender is kept for 3600 seconds. -/
def advanceSequence (sessionId senderId : String) (seq : Nat) : Statement communication Bool :=
  RedisService.verifyAndSetSequence s!"seq:webrtc:{sessionId}:{senderId}" seq 3600

/-- The time, the nonce and the sequence of a signal, in this order. -/
def validateWebrtcAntiReplay (client : Client) (sessionId senderId nonce : String) (seq : Nat)
    (timestamp : Int) : Proc communication Bool := do
  let now ← now
  if maxSkewMs < (now - timestamp).natAbs then do
    Client.emit client (.error "call_error" "CLOCK_SKEW_EXCEEDED" "Timestamp skew > 30s")
    return false
  else do
    let claimed ← claimNonce sessionId nonce
    if claimed = false then do
      Client.emit client (.error "call_error" "REPLAY_DETECTED" "Signaling nonce already used")
      return false
    else do
      let validSeq ← advanceSequence sessionId senderId seq
      if validSeq = false then do
        Client.emit client (.error "call_error" "OUT_OF_ORDER_SEQUENCE" "Out of order sequence")
        return false
      else return true

/-- Who may signal: the participants of an active call. -/
def assertWebrtcSignalAccess (client : Client) (sessionId : String) : Proc communication Unit := do
  let joined ← Client.inRoom client (sessionRoom sessionId)
  Proc.rejectIf (joined = false)
    (forbidden "ROOM_ACCESS_DENIED" "Join the call session room before sending signaling messages")
  let _ ← CallSessionService.authorizeSignal sessionId client.actor
  return ()

/-- ICE candidates are limited; the other kinds are not. -/
def withinCandidateLimit (client : Client) (kind : SignalKind) (sessionId : String) :
    Proc communication Bool :=
  if kind = .iceCandidate then do
    let candidateCount ← RedisService.incrRateLimit s!"throttle:ice:{client.id.text}:{sessionId}" 60
    if 50 < candidateCount then do
      Client.emit client
        (.error "call_error" "ICE_CANDIDATE_LIMIT_EXCEEDED" "Too many ICE candidates")
      return false
    else return true
  else return true

/-- The relay of a message, with the body and the numbers that it came with. -/
def relay (client : Client) (kind : SignalKind) (dto : WebrtcSignal) :
    Statement communication Unit :=
  Server.emit (sessionRoom dto.sessionId)
    (.signal kind dto.sessionId dto.seq dto.nonce dto.body) client.actor

/-- The three handlers of signals, which differ in their event and in the limit. -/
def handleWebrtcSignal (kind : SignalKind) (client : Client) (dto : WebrtcSignal) :
    Proc communication Unit :=
  sensitive client <|
    tryCatch (do
        assertWebrtcSignalAccess client dto.sessionId
        let isClean ← validateWebrtcAntiReplay client dto.sessionId client.actor.userIdText
          dto.nonce dto.seq dto.timestamp
        if isClean = false then return ()
        else do
          let within ← withinCandidateLimit client kind dto.sessionId
          if within = false then return ()
          else relay client kind dto)
      fun _ => Client.emit client (.error "call_error" "SIGNALING_FAILED" kind.failure)

/-- `handleWebrtcSignalOffer`. -/
def handleWebrtcSignalOffer : Client → WebrtcSignal → Proc communication Unit :=
  handleWebrtcSignal .offer

/-- `handleWebrtcSignalAnswer`. -/
def handleWebrtcSignalAnswer : Client → WebrtcSignal → Proc communication Unit :=
  handleWebrtcSignal .answer

/-- `handleWebrtcSignalIceCandidate`. -/
def handleWebrtcSignalIceCandidate : Client → WebrtcSignal → Proc communication Unit :=
  handleWebrtcSignal .iceCandidate

/-- `handleWebrtcCallHangup`; an error becomes a notice. -/
def handleWebrtcCallHangup (client : Client) (sessionId : String) : Proc communication Unit :=
  sensitive client <|
    tryCatch (do
        let _ ← CallSessionService.endCallSession sessionId client.actor
        return ())
      fun _ => Client.emit client (.error "call_error" "HANGUP_FAILED" "Failed to end call")

end RealtimeGateway

end Armada.Communication
