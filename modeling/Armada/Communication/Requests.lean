import Armada.Communication.RealtimeGateway
import Armada.Concurrency.Turns

/-!
# Requests about calls

The requests that reach call sessions and rooms, over REST and over sockets, with the watchdog
of a pending call, which may fire at any time, and the clock. Any requests run together, in any
order of their steps.
-/

namespace Armada.Communication

open Relational Concurrency Realtime
open Auth (UuidSpelling spelled)

/-- What arrives over HTTP and over the sockets, and the timeouts of invitations. -/
inductive Request where
  | initiate (dto : InitiateCallDto) (actor : UserActor)
  | timeout (sessionId : String)
  | respond (sessionId : String) (action : CallAction) (actor : UserActor)
  | hangUp (sessionId : String) (actor : UserActor)
  | connect (client : Client)
  | disconnect (socketId : SocketId)
  | joinRoom (client : Client) (room : String)
  | leaveRoom (client : Client) (room : String)
  | respondOverSocket (client : Client) (sessionId : String) (action : CallAction)
  | signal (kind : SignalKind) (client : Client) (dto : WebrtcSignal)
  | hangUpOverSocket (client : Client) (sessionId : String)
  | pass (elapsed : Nat)

variable [UuidSpelling]

open Communication.RealtimeGateway CallSessionService

/-- A request as a process; only calls have an answer. -/
def Request.proc : Request → Proc communication (Option RealtimeSession)
  | .initiate dto actor => initiateCallSession dto actor
  | .timeout sessionId => handlePendingTimeout sessionId
  | .respond sessionId action actor => respondToCallSession sessionId action actor
  | .hangUp sessionId actor => endCallSession sessionId actor
  | .connect client => (fun _ => none) <$> handleConnection client
  | .disconnect socketId => (fun _ => none) <$> handleDisconnect socketId
  | .joinRoom client room => (fun _ => none) <$> handleJoinRoom client room
  | .leaveRoom client room => (fun _ => none) <$> handleLeaveRoom client room
  | .respondOverSocket client sessionId action =>
      (fun _ => none) <$> handleWebrtcCallRespond client sessionId action
  | .signal .offer client dto => (fun _ => none) <$> handleWebrtcSignalOffer client dto
  | .signal .answer client dto => (fun _ => none) <$> handleWebrtcSignalAnswer client dto
  | .signal .iceCandidate client dto =>
      (fun _ => none) <$> handleWebrtcSignalIceCandidate client dto
  | .hangUpOverSocket client sessionId =>
      (fun _ => none) <$> handleWebrtcCallHangup client sessionId
  | .pass elapsed => (fun _ => none) <$> (liftM (Communication.pass elapsed) : Proc communication Unit)

/-- A signal answers nothing. -/
theorem Request.proc_signal (kind : SignalKind) (client : Client) (dto : WebrtcSignal) :
    (Request.signal kind client dto).proc =
      (fun _ => none) <$> handleWebrtcSignal kind client dto := by
  cases kind <;> rfl

/-- Requests that start together. -/
def requests (all : List Request) (db : Db) :
    Pool communication (Option RealtimeSession) where
  state := db
  procs := all.map Request.proc

/-- Every process of the pool is that of a request. -/
theorem requests_procs {all : List Request} {db : Db} {thread : Nat}
    {process : Proc communication (Option RealtimeSession)}
    (found : (requests all db).procs[thread]? = some process) :
    ∃ request, all[thread]? = some request ∧ process = request.proc := by
  simp only [requests, List.getElem?_map, Option.map_eq_some_iff] at found
  obtain ⟨request, here, rfl⟩ := found
  exact ⟨request, here, rfl⟩

/-! ## For examples -/

/-- Steps of these threads, with nothing out of the ordinary. -/
def inOrder (threads : List Nat) : List (Nat × (Nat → Input)) :=
  threads.map fun thread => (thread, fun _ => {})

/-- Ids in unary, in letters of either case. -/
@[reducible] def letterSpelling : UuidSpelling where
  parse text :=
    if text ≠ "" ∧ text.toList.all (fun char => char == 'a' || char == 'A') = true then
      some (text.length - 1)
    else none
  text id := String.ofList (List.replicate (id + 1) 'a')
  parse_text id := by
    rw [if_pos]
    · simp
    · constructor
      · intro empty
        simpa using congrArg String.length empty
      · simp
  parse_empty := rfl

/-- Owner 1 calls driver 2. -/
def ringing : Db where
  sessions := Table.empty.insert
    { id := 0, type := .video, ownerId := 1, driverId := 2, deliveryId := none,
      status := .pending, createdAt := 0, expiresAt := 30000 }

/-- The socket of driver 2, whose user is 3. -/
def driverClient : Client where
  id := ⟨"s", by decide, by decide⟩
  data :=
    { userId := spelled 3, username := "driver", role := "DRIVER", organizationId := none,
      permissions := [], deviceId := .undefined, sessionId := .undefined, accessTokenExp := 0,
      driverId := some 2, connectedAt := 0 }

end Armada.Communication
