import Armada.Collections.ExpiringKeys
import Armada.Concurrency.Process
import Armada.Prisma
import Armada.Realtime.WsConnectionManagerService

/-!
# Calls and signaling: the store

The tables that call sessions and the room authorizer use, the keys in Redis that guard
signaling, the rooms of Socket.IO, and a clock that the server, the database and Redis share.
Time is in milliseconds.
-/

namespace Armada.Communication

open Relational Concurrency Collections Realtime
open Auth (AuthenticatedSocketData UuidSpelling spelled)

/-! ## Tables -/

/-- The kinds of calls. -/
inductive RealtimeSessionType where
  | voicePtt
  | video
  deriving DecidableEq

/-- The statuses of a call. -/
inductive RealtimeSessionStatus where
  | pending
  | active
  | declined
  | ended
  | timeout
  deriving DecidableEq

/-- The spelling of a status in messages. -/
def RealtimeSessionStatus.name : RealtimeSessionStatus → String
  | .pending => "PENDING"
  | .active => "ACTIVE"
  | .declined => "DECLINED"
  | .ended => "ENDED"
  | .timeout => "TIMEOUT"

/-- A row of `realtime_sessions`. -/
structure RealtimeSession where
  id : Uuid
  type : RealtimeSessionType
  ownerId : Uuid
  driverId : Uuid
  deliveryId : Option Uuid
  status : RealtimeSessionStatus
  createdAt : Int
  expiresAt : Int
  startedAt : Option Int := none
  endedAt : Option Int := none
  deriving DecidableEq

/-- One hour. -/
def ACTIVE_CALL_LIFETIME_MS : Int := 60 * 60 * 1000

/-- What an UPDATE of a call session sets. -/
inductive SessionChange where
  | accept (now : Int)
  | decline
  | timeOut
  | finish (endedAt : Int)
  deriving DecidableEq

/-- The row after a change. -/
def SessionChange.apply (row : RealtimeSession) : SessionChange → RealtimeSession
  | .accept now =>
      { row with
        status := .active, startedAt := some now, expiresAt := now + ACTIVE_CALL_LIFETIME_MS }
  | .decline => { row with status := .declined, startedAt := none }
  | .timeOut => { row with status := .timeout }
  | .finish endedAt => { row with status := .ended, endedAt := some endedAt }

/-- No change renames a call. -/
theorem SessionChange.id_apply (row : RealtimeSession) (change : SessionChange) :
    (change.apply row).id = row.id := by
  cases change <;> rfl

/-- A row of `drivers`, as far as calls look into it. -/
structure Driver where
  id : Uuid
  userId : Uuid
  deriving DecidableEq

/-- A row of `deliveries`, as far as the rooms look into it. -/
structure Delivery where
  id : Uuid
  driverId : Option Uuid
  createdBy : Uuid
  organizationId : Option Uuid
  deriving DecidableEq

/-- A row of `conversations`, as far as the rooms look into it. -/
structure Conversation where
  id : Uuid
  ownerId : Uuid
  driverId : Uuid
  deriving DecidableEq

/-- Calls record no details. -/
abbrev AuditLog := AuditEntry JsValue JsValue Empty

instance : Keyed RealtimeSession Uuid := ⟨RealtimeSession.id⟩
instance : Keyed Driver Uuid := ⟨Driver.id⟩
instance : Keyed Delivery Uuid := ⟨Delivery.id⟩
instance : Keyed Conversation Uuid := ⟨Conversation.id⟩

/-! ## Sockets and events -/

/-- Who acts, by the data of the socket or of the token. -/
structure UserActor where
  userId : JsValue
  role : String
  driverId : Option Uuid
  deriving DecidableEq

/-- The id in texts; authentication leaves a string. -/
def UserActor.userIdText (actor : UserActor) : String :=
  match actor.userId with
  | .string text => text
  | _ => "undefined"

/-- A socket after its handshake. -/
structure Client where
  id : SocketId
  data : AuthenticatedSocketData

/-- The user of a socket. -/
def Client.actor (client : Client) : UserActor :=
  ⟨client.data.userId, client.data.role, client.data.driverId⟩

/-- The kinds of signals. -/
inductive SignalKind where
  | offer
  | answer
  | iceCandidate
  deriving DecidableEq

/-- A signaling message; the body is the SDP or the candidate. -/
structure WebrtcSignal where
  sessionId : String
  nonce : String
  seq : Nat
  timestamp : Int
  body : String
  deriving DecidableEq

/-- What is emitted. -/
inductive Event where
  | callInvite (sessionId : Uuid) (type : RealtimeSessionType) (driverId : String)
  | callResponded (sessionId : Uuid) (status : RealtimeSessionStatus)
  | callEnded (sessionId : JsValue) (reason : String)
  | signal (kind : SignalKind) (sessionId : String) (seq : Nat) (nonce body : String)
  | roomJoined (room : String)
  | roomLeft (room : String)
  | error (event code message : String)
  deriving DecidableEq

/-- `server.to(room).emit(event, ..)`; a socket has a room of its own, named by its id. -/
structure Emission where
  room : String
  event : Event
  actor : UserActor
  deriving DecidableEq

/-! ## The signature -/

/-- The store: the tables, the keys in Redis, the rooms, the sockets, and the clock. -/
structure Db where
  now : Int := 0
  sessions : Table RealtimeSession := .empty
  drivers : Table Driver := .empty
  deliveries : Table Delivery := .empty
  conversations : Table Conversation := .empty
  auditLogs : List AuditLog := []
  /-- The keys `replay:nonce:<sessionId>:<nonce>`. -/
  nonces : ExpiringKeys String Unit := fun _ => none
  /-- The keys `seq:webrtc:<sessionId>:<senderId>`. -/
  sequences : ExpiringKeys String Nat := fun _ => none
  connections : WsConnectionManagerService := {}
  /-- The rooms that each socket is in. -/
  rooms : SocketId → List String := fun _ => []
  emitted : List Emission := []

/-- The call with an id. -/
def Db.session? (db : Db) (id : Uuid) : Option RealtimeSession := db.sessions.find? id

/-- What a statement may change. -/
inductive Write where
  | createSession (row : RealtimeSession)
  | updateSession (id : Uuid) (change : SessionChange)
  | createAuditLog (row : AuditLog)
  | claimNonce (key : String) (deadline : Int)
  | setSequence (key : String) (seq : Nat) (deadline : Int)
  | registerSocket (client : Client) (reenters : SocketId → Bool)
  | removeSocket (id : SocketId)
  | join (id : SocketId) (room : String)
  | leave (id : SocketId) (room : String)
  | emit (emission : Emission)
  | passTime (elapsed : Nat)

/-- A socket that connects is in its own room; the sockets that the manager evicts for it have
been disconnected and are in no room. -/
def Db.register (db : Db) (client : Client) (reenters : SocketId → Bool) : Db :=
  let connections := db.connections.registerSocket reenters ⟨client.id, some client.data⟩
  { db with
    connections
    rooms := fun id =>
      if id = client.id then [client.id.text]
      else if (db.connections.sockets.lookup id).isSome ∧ connections.sockets.lookup id = none
        then [] else db.rooms id }

/-- The rooms after a change to those of one socket. -/
def Db.setRooms (db : Db) (id : SocketId) (rooms : List String) : Db :=
  { db with rooms := fun other => if other = id then rooms else db.rooms other }

/-- The store after one write. -/
def Write.apply : Write → Db → Db
  | .createSession row, db => { db with sessions := db.sessions.insert row }
  | .updateSession id change, db =>
      { db with sessions := db.sessions.modify id fun row => change.apply row }
  | .createAuditLog row, db => { db with auditLogs := db.auditLogs ++ [row] }
  | .claimNonce key deadline, db => { db with nonces := db.nonces.set key ⟨(), deadline⟩ }
  | .setSequence key seq deadline, db =>
      { db with sequences := db.sequences.set key ⟨seq, deadline⟩ }
  | .registerSocket client reenters, db => db.register client reenters
  | .removeSocket id, db =>
      { db.setRooms id [] with connections := db.connections.removeSocket id }
  | .join id room, db => db.setRooms id (room :: db.rooms id)
  | .leave id room, db => db.setRooms id ((db.rooms id).filter (· ≠ room))
  | .emit emission, db => { db with emitted := db.emitted ++ [emission] }
  | .passTime elapsed, db => { db with now := db.now + elapsed }

/-- What the environment supplies to one call: a generated UUID, whether Redis is connected and
what its rate counters answer, whether the session of a socket is still valid, which
disconnected sockets re-enter the manager, and a failure of the database. -/
structure Input where
  uuid : Uuid := 0
  connected : Bool := true
  rateCount : Nat := 1
  revalidated : Bool := true
  reenters : SocketId → Bool := fun _ => false
  fault : Option PrismaError := none

/-- The store as a signature of statements. -/
abbrev communication : Signature where
  State := Db
  Write := Write
  Input := Input
  Lock := Empty
  Error := Exception
  apply := Write.apply
  clash lock _ := lock.elim
  fault input := input.fault.map .prisma

end Armada.Communication
