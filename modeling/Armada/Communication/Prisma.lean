import Armada.Communication.Schema

/-!
# Calls and signaling: the calls on the store

The calls on the database, on the clock, on Redis and on Socket.IO that the services make,
with what a successful execution of each returns and writes. A call on the database may fail
for a reason of its own; `RedisService` answers its callers also while Redis is down.
-/

namespace Armada.Communication

open Relational Concurrency Collections Realtime
open Auth (UuidSpelling spelled)

variable {β : Type}

/-- A query, which a fault may stop. -/
def query (body : Input → Db → Except Exception (β × List Write)) : Statement communication β where
  locks _ _ := []
  exec input db :=
    match input.fault with
    | some error => .error (.prisma error)
    | none => body input db

/-- A call that cannot fail. -/
def effect (body : Input → Db → β × List Write) : Statement communication β where
  locks _ _ := []
  exec input db := .ok (body input db)

/-- A lookup by the text of an id. -/
def lookup [UuidText] (id : String) (read : Uuid → Db → β) : Statement communication β :=
  query fun _ db =>
    match UuidText.parse id with
    | some id => .ok (read id db, [])
    | none => .error (.prisma (.knownRequest .inconsistentColumnData))

variable {input : Input} {db : Db} {value : β} {writes : List Write}

/-- It succeeds if no fault comes and its body does. -/
theorem query_succeeds {body : Input → Db → Except Exception (β × List Write)} :
    (query body).Succeeds input db value writes ↔
      input.fault = none ∧ body input db = .ok (value, writes) := by
  simp only [query, Statement.Succeeds]
  cases input.fault with
  | some error => simp
  | none => simp

/-- An effect always succeeds. -/
theorem effect_succeeds {body : Input → Db → β × List Write} :
    (effect body).Succeeds input db value writes ↔ body input db = (value, writes) := by
  simp [effect, Statement.Succeeds]

/-- A lookup succeeds with what it finds, and writes nothing. -/
theorem lookup_succeeds [UuidText] {id : String} {read : Uuid → Db → β} :
    (lookup id read).Succeeds input db value writes ↔
      input.fault = none ∧ writes = [] ∧
        ∃ uuid, UuidText.parse id = some uuid ∧ value = read uuid db := by
  rw [lookup, query_succeeds]
  refine and_congr_right fun _ => ?_
  cases UuidText.parse id with
  | none => simp
  | some uuid => simp [eq_comm, and_comm]

/-! ## The database -/

namespace Prisma

namespace RealtimeSession

/-- Read a call. -/
def findUnique [UuidText] (id : String) :
    Statement communication (Option Communication.RealtimeSession) :=
  lookup id fun id db => db.session? id

/-- A row under a generated id, created now; an id among the values may be malformed. -/
def create (values : Uuid → Int → Except PrismaError Communication.RealtimeSession) :
    Statement communication Communication.RealtimeSession :=
  query fun input db =>
    match values input.uuid db.now with
    | .error error => .error (.prisma error)
    | .ok created =>
        if db.session? created.id = none then .ok (created, [.createSession created])
        else .error (.prisma (.knownRequest .uniqueConstraint))

/-- `updateMany` with the id and a further condition: the number of rows that it has changed. -/
def updateMany [UuidText] (id : String) (condition : Communication.RealtimeSession → Bool)
    (change : SessionChange) : Statement communication Nat :=
  query fun _ db =>
    match UuidText.parse id with
    | none => .error (.prisma (.knownRequest .inconsistentColumnData))
    | some id =>
        match db.session? id with
        | some row => .ok (if condition row then (1, [.updateSession id change]) else (0, []))
        | none => .ok (0, [])

/-- Update a call, whatever its status. -/
def update [UuidText] (id : String) (change : SessionChange) :
    Statement communication Communication.RealtimeSession :=
  query fun _ db =>
    match UuidText.parse id with
    | none => .error (.prisma (.knownRequest .inconsistentColumnData))
    | some id =>
        match db.session? id with
        | some row => .ok (change.apply row, [.updateSession id change])
        | none => .error (.prisma (.knownRequest .recordNotFound))

/-- A new call is what the caller makes of its id and the time. -/
theorem create_succeeds
    {values : Uuid → Int → Except PrismaError Communication.RealtimeSession}
    {created : Communication.RealtimeSession} :
    (create values).Succeeds input db created writes ↔
      input.fault = none ∧ values input.uuid db.now = .ok created ∧
        db.session? created.id = none ∧ writes = [.createSession created] := by
  rw [create, query_succeeds]
  refine and_congr_right fun _ => ?_
  cases values input.uuid db.now with
  | error error => simp
  | ok row =>
      dsimp only
      rw [Except.ok.injEq]
      split
      · rename_i fresh
        rw [Except.ok.injEq, Prod.mk.injEq]
        constructor
        · rintro ⟨rfl, rfl⟩
          exact ⟨rfl, fresh, rfl⟩
        · rintro ⟨rfl, _, rfl⟩
          exact ⟨rfl, rfl⟩
      · rename_i taken
        constructor
        · rintro ⟨⟩
        · rintro ⟨rfl, fresh, _⟩
          exact absurd fresh taken

/-- An UPDATE by condition counts one row or none, and writes accordingly. -/
theorem updateMany_succeeds [UuidText] {id : String}
    {condition : Communication.RealtimeSession → Bool} {change : SessionChange} {count : Nat} :
    (updateMany id condition change).Succeeds input db count writes ↔
      input.fault = none ∧ ∃ uuid, UuidText.parse id = some uuid ∧
        ((∃ row, db.session? uuid = some row ∧ condition row = true ∧ count = 1 ∧
            writes = [.updateSession uuid change]) ∨
          (∀ row, db.session? uuid = some row → condition row = false) ∧ count = 0 ∧
            writes = []) := by
  rw [updateMany, query_succeeds]
  refine and_congr_right fun _ => ?_
  cases UuidText.parse id with
  | none => simp
  | some uuid =>
      simp only [Option.some.injEq, exists_eq_left']
      cases db.session? uuid with
      | none =>
          simp only [Except.ok.injEq, Prod.mk.injEq, reduceCtorEq, false_and, exists_false, false_or,
            IsEmpty.forall_iff, implies_true, true_and]
          exact and_congr eq_comm eq_comm
      | some row =>
          simp only [Option.some.injEq, exists_eq_left', forall_eq', Except.ok.injEq]
          cases condition row with
          | true => simp [eq_comm]
          | false => simp [eq_comm]

/-- An update needs the row alone. -/
theorem update_succeeds [UuidText] {id : String} {change : SessionChange}
    {updated : Communication.RealtimeSession} :
    (update id change).Succeeds input db updated writes ↔
      input.fault = none ∧ ∃ uuid row, UuidText.parse id = some uuid ∧
        db.session? uuid = some row ∧ updated = change.apply row ∧
          writes = [.updateSession uuid change] := by
  rw [update, query_succeeds]
  refine and_congr_right fun _ => ?_
  cases UuidText.parse id with
  | none => simp
  | some uuid =>
      cases found : db.session? uuid with
      | none => simp [found]
      | some row => simp [found, eq_comm]

end RealtimeSession

namespace Driver

/-- Read a driver. -/
def findUnique [UuidText] (id : String) : Statement communication (Option Communication.Driver) :=
  lookup id fun id db => db.drivers.find? id

end Driver

namespace Delivery

/-- Read a delivery. -/
def findUnique [UuidText] (id : String) :
    Statement communication (Option Communication.Delivery) :=
  lookup id fun id db => db.deliveries.find? id

end Delivery

namespace Conversation

/-- Read a conversation. -/
def findUnique [UuidText] (id : String) :
    Statement communication (Option Communication.Conversation) :=
  lookup id fun id db => db.conversations.find? id

end Conversation

namespace AuditLog

/-- Insert an audit row. -/
def create (row : Communication.AuditLog) : Statement communication Unit :=
  query fun _ _ => .ok ((), [.createAuditLog row])

/-- It is appended. -/
theorem create_succeeds {row : Communication.AuditLog} {answer : Unit} :
    (create row).Succeeds input db answer writes ↔
      input.fault = none ∧ writes = [.createAuditLog row] := by
  simp [create, query_succeeds, eq_comm (a := writes)]

end AuditLog

end Prisma

/-- `new Date()` and `Date.now()`. -/
def now : Statement communication Int := effect fun _ db => (db.now, [])

/-- The clock is read without a change. -/
theorem now_succeeds {instant : Int} :
    now.Succeeds input db instant writes ↔ instant = db.now ∧ writes = [] := by
  simp [now, effect_succeeds, eq_comm]

/-! ## Redis -/

namespace RedisService

/-- The counters live outside the model, so the answer is an input; without Redis it is 1. -/
def incrRateLimit (_key : String) (_windowSeconds : Nat) : Statement communication Nat :=
  effect fun input _ => (if input.connected then input.rateCount else 1, [])

/-- `SET key 1 EX ttl NX` on a nonce key. -/
def setNxEx (key : String) (ttlSeconds : Int) : Statement communication Bool :=
  effect fun input db =>
    if input.connected = false then (true, [])
    else if db.nonces.get db.now key = none then
      (true, [.claimNonce key (db.now + ttlSeconds * 1000)])
    else (false, [])

/-- The script that compares a sequence number and sets it. -/
def verifyAndSetSequence (key : String) (seq : Nat) (ttlSeconds : Int) :
    Statement communication Bool :=
  effect fun input db =>
    if input.connected = false then (true, [])
    else if ∀ current ∈ db.sequences.get db.now key, current < seq then
      (true, [.setSequence key seq (db.now + ttlSeconds * 1000)])
    else (false, [])

variable {key : String} {ttlSeconds : Int} {claimed : Bool} {seq : Nat}

/-- `SET NX EX` claims a free key; where Redis is down it claims all. -/
theorem setNxEx_succeeds :
    (setNxEx key ttlSeconds).Succeeds input db claimed writes ↔
      (input.connected = false ∧ claimed = true ∧ writes = []) ∨
        (input.connected = true ∧ db.nonces.get db.now key = none ∧ claimed = true ∧
          writes = [.claimNonce key (db.now + ttlSeconds * 1000)]) ∨
        (input.connected = true ∧ db.nonces.get db.now key ≠ none ∧ claimed = false ∧
          writes = []) := by
  rw [setNxEx, effect_succeeds]
  cases input.connected with
  | false => simp [eq_comm]
  | true =>
      by_cases free : db.nonces.get db.now key = none
      · simp [free, eq_comm]
      · simp [free, eq_comm]

/-- The script takes a newer number only; where Redis is down it takes all. -/
theorem verifyAndSetSequence_succeeds :
    (verifyAndSetSequence key seq ttlSeconds).Succeeds input db claimed writes ↔
      (input.connected = false ∧ claimed = true ∧ writes = []) ∨
        (input.connected = true ∧ (∀ current ∈ db.sequences.get db.now key, current < seq) ∧
          claimed = true ∧ writes = [.setSequence key seq (db.now + ttlSeconds * 1000)]) ∨
        (input.connected = true ∧ (¬∀ current ∈ db.sequences.get db.now key, current < seq) ∧
          claimed = false ∧ writes = []) := by
  rw [verifyAndSetSequence, effect_succeeds]
  cases input.connected with
  | false => simp [eq_comm]
  | true =>
      rw [if_neg (by decide)]
      by_cases later : ∀ current ∈ db.sequences.get db.now key, current < seq
      · rw [if_pos later, Prod.mk.injEq]
        constructor
        · rintro ⟨rfl, rfl⟩
          exact .inr (.inl ⟨rfl, later, rfl, rfl⟩)
        · rintro (⟨⟨⟩, _⟩ | ⟨_, _, rfl, rfl⟩ | ⟨_, earlier, _⟩)
          · exact ⟨rfl, rfl⟩
          · exact absurd later earlier
      · rw [if_neg later, Prod.mk.injEq]
        constructor
        · rintro ⟨rfl, rfl⟩
          exact .inr (.inr ⟨rfl, later, rfl, rfl⟩)
        · rintro (⟨⟨⟩, _⟩ | ⟨_, holds, _⟩ | ⟨_, _, rfl, rfl⟩)
          · exact absurd holds later
          · exact ⟨rfl, rfl⟩

end RedisService

/-! ## Socket.IO and the connection manager -/

namespace Server

/-- Emit an event to a room. -/
def emit (room : String) (event : Event) (actor : UserActor) : Statement communication Unit :=
  effect fun _ _ => ((), [.emit ⟨room, event, actor⟩])

end Server

namespace Client

/-- `client.emit`: to the room of the socket itself. -/
def emit (client : Client) (event : Event) : Statement communication Unit :=
  Server.emit client.id.text event client.actor

/-- `client.rooms.has(room)`. -/
def inRoom (client : Client) (room : String) : Statement communication Bool :=
  effect fun _ db => (decide (room ∈ db.rooms client.id), [])

/-- Here also a socket that has been disconnected meanwhile is let in, which Socket.IO ignores:
there are more runs than in fact. -/
def join (client : Client) (room : String) : Statement communication Unit :=
  effect fun _ _ => ((), [.join client.id room])

/-- The socket leaves a room. -/
def leave (client : Client) (room : String) : Statement communication Unit :=
  effect fun _ _ => ((), [.leave client.id room])

/-- `connectionManager.registerSocket`, of a socket that has just connected. -/
def register (client : Client) : Statement communication Unit :=
  effect fun input _ => ((), [.registerSocket client input.reenters])

/-- A disconnected socket: `removeSocket` and the rooms that Socket.IO clears. -/
def remove (id : SocketId) : Statement communication Unit :=
  effect fun _ _ => ((), [.removeSocket id])

/-- `validateSocket`: whether session, device and user still allow the socket. -/
def validate (_client : Client) : Statement communication Bool :=
  effect fun input _ => (input.revalidated, [])

end Client

/-- Time passes. -/
def pass (elapsed : Nat) : Statement communication Unit :=
  effect fun _ _ => ((), [.passTime elapsed])

end Armada.Communication
