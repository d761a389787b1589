import Armada.Communication.Signals

/-!
# Signals that are replayed

A message is checked against the room and the session, against the clock, against the nonces of
its session and against the numbers of its sender. Nonces are kept for as long as two clocks can
disagree with one timestamp, and numbers for as long as a call can last, so nothing is relayed
twice, as long as a session goes by one spelling of its id.
-/

namespace Armada.Communication

open Relational Concurrency Collections
open Auth (UuidSpelling spelled)
open Communication.RealtimeGateway CallSessionService

/-- A message with the socket that it came from. -/
structure Message where
  kind : SignalKind
  client : Client
  dto : WebrtcSignal

/-- The request that sends the message. -/
def Message.request (message : Message) : Request :=
  .signal message.kind message.client message.dto

/-- Different messages are different requests. -/
theorem Message.request_inj {first second : Message} (same : first.request = second.request) :
    first = second := by
  cases first
  cases second
  cases same
  rfl

section Runs

variable [UuidSpelling]

/-! ## Protection -/

/-- A turn relays a message. -/
def Relays (all : List Request) (turn : Turn communication) (message : Message) : Prop :=
  all[turn.thread]? = some message.request ∧
    turn.Performs (relay message.client message.kind message.dto)

/-- A turn accepts the number of a message. -/
def Accepts (all : List Request) (turn : Turn communication) (message : Message) : Prop :=
  all[turn.thread]? = some message.request ∧
    turn.Returned (advanceSequence message.dto.sessionId message.client.actor.userIdText
      message.dto.seq) true

/-- When the checks of a message ran, its socket was in the room of the session and belonged to a
participant or to an admin, and the session was active and had not expired. -/
structure Authorized (message : Message) (checks : List (Turn communication)) : Prop where
  joined : ∃ check ∈ checks,
    sessionRoom message.dto.sessionId ∈ check.before.rooms message.client.id
  active : ∃ check ∈ checks, ∃ id session,
    UuidText.parse message.dto.sessionId = some id ∧ check.before.session? id = some session ∧
      session.status = .active ∧ check.before.now < session.expiresAt ∧
        (message.client.data.role = "ADMIN" ∨ message.client.data.role = "SUPER_ADMIN" ∨
          spelled session.ownerId = message.client.data.userId ∨
            message.client.data.driverId = some session.driverId)

/-- The steps of one message happen at one time. -/
def AtOnce (all : List Request) (trace : List (Turn communication)) : Prop :=
  ∀ message : Message, ∀ first ∈ trace, ∀ second ∈ trace, first.thread = second.thread →
    all[first.thread]? = some message.request → first.before.now = second.before.now

/-- An active call lasts for an hour at most. -/
def Timely (db : Db) : Prop :=
  ∀ id row, db.session? id = some row → row.status = .active →
    row.expiresAt ≤ db.now + ACTIVE_CALL_LIFETIME_MS

section Moves

variable {request : Request} {history : List (Turn communication)} {turn : Turn communication}
  {id : Uuid}

/-- A call becomes active for an hour from a time that was read before. -/
theorem Moves.timely (moves : Moves request history turn id)
    (past : ∀ reading ∈ history, reading.before.now ≤ turn.before.now)
    (timely : Timely turn.before) {row : RealtimeSession}
    (found : turn.after.session? id = some row) (active : row.status = .active) :
    row.expiresAt ≤ turn.after.now + ACTIVE_CALL_LIFETIME_MS := by
  have onwards := now_le_after turn
  obtain same | ⟨_, _, instant, old, _, ⟨⟨reading, member, read⟩, _⟩, _, _, _, _, rfl⟩ :=
    moves.of_active found active
  · have before := timely id row same active
    omega
  · have early := past reading member
    obtain ⟨rfl, _⟩ := now_succeeds.mp read.succeeds
    change reading.before.now + ACTIVE_CALL_LIFETIME_MS ≤ _
    omega

end Moves

variable {all : List Request} {db : Db} {trace : List (Turn communication)}
  {final : Pool communication (Option RealtimeSession)}

/-- An admitted message is authorized. -/
theorem Admitted.authorized {message : Message} {checks : List (Turn communication)}
    (admitted : Admitted message.client message.dto.sessionId checks)
    (atOnce : ∀ check ∈ checks, ∀ other ∈ checks, check.before.now = other.before.now) :
    Authorized message checks where
  joined := by
    obtain ⟨check, member, returned⟩ := admitted.joined
    have answered := effect_succeeds.mp returned.succeeds
    exact ⟨check, member, of_decide_eq_true (congrArg Prod.fst answered)⟩
  active := by
    obtain ⟨check, member, session, returned, participates, active, reading, read, instant, told,
      unexpired⟩ := admitted.active
    obtain ⟨_, _, id, parsed, found⟩ := lookup_succeeds.mp returned.succeeds
    obtain ⟨rfl, _⟩ := now_succeeds.mp told.succeeds
    refine ⟨check, member, id, session, parsed, found.symm, active,
      (atOnce check member reading read).trans_lt unexpired, ?_⟩
    rw [isAuthorizedParticipant] at participates
    split at participates
    · rename_i admin
      exact admin.imp_right .inl
    · exact .inr (.inr (of_decide_eq_true participates))

variable {first rest : List (Turn communication)} {turn : Turn communication} {message : Message}

omit [UuidSpelling] in
/-- The steps of a message are at the time of any of them. -/
theorem AtOnce.own (atOnce : AtOnce all trace) (split : trace = first ++ turn :: rest)
    (here : all[turn.thread]? = some message.request) {check : Turn communication}
    (member : check ∈ Pool.own first turn.thread) : check.before.now = turn.before.now := by
  obtain ⟨inFirst, same⟩ := Pool.mem_own.mp member
  apply atOnce message check (split ▸ List.mem_append_left _ inFirst) turn
    (split ▸ List.mem_append_right _ List.mem_cons_self) same
  rw [same, here]

/-- So it is in a run whose checks come at once. -/
theorem authorized_of_admitted (atOnce : AtOnce all trace) (split : trace = first ++ turn :: rest)
    (here : all[turn.thread]? = some message.request)
    (admitted : Admitted message.client message.dto.sessionId (Pool.own first turn.thread)) :
    Authorized message (Pool.own first turn.thread) := by
  apply admitted.authorized
  intro check member other otherMember
  rw [atOnce.own split here member, atOnce.own split here otherMember]

/-- A message whose number is accepted was authorized. -/
theorem Accepts.authorized (turns : (requests all db).Turns trace final)
    (connected : ∀ turn ∈ trace, (turn.inputs 0).connected = true) (atOnce : AtOnce all trace)
    (split : trace = first ++ turn :: rest) (accepts : Accepts all turn message) :
    Authorized message (Pool.own first turn.thread) := by
  obtain ⟨here, returned⟩ := accepts
  obtain ⟨request, same, allowed⟩ := lawful_of_turns turns first turn rest split
  obtain rfl := Option.some.inj (here.symm.trans same)
  have answered := connected turn (split ▸ List.mem_append_right _ List.mem_cons_self)
  obtain ⟨kind, client, dto, isSignal, admitted⟩ :=
    allowed.admitted_of_sets (sets_of_advanced answered returned)
  obtain rfl : message = ⟨kind, client, dto⟩ := Message.request_inj isSignal
  exact authorized_of_admitted atOnce split here admitted

/-- What is relayed is a message that was authorized, recent and new. -/
theorem relays_of_sends (turns : (requests all db).Turns trace final) (atOnce : AtOnce all trace)
    (split : trace = first ++ turn :: rest) {emission : Emission} {kind : SignalKind}
    {sessionId nonce body : String} {seq : Nat} (sent : .emit emission ∈ turn.writes)
    (signal : emission.event = .signal kind sessionId seq nonce body) :
    ∃ message, Relays all turn message ∧
      emission = ⟨sessionRoom message.dto.sessionId, .signal message.kind message.dto.sessionId
        message.dto.seq message.dto.nonce message.dto.body, message.client.actor⟩ ∧
      Authorized message (Pool.own first turn.thread) ∧
      Clean message.client.actor.userIdText message.dto (Pool.own first turn.thread) := by
  obtain ⟨request, here, allowed⟩ := lawful_of_turns turns first turn rest split
  obtain ⟨client, dto, rfl, admitted, clean, performs, same⟩ := allowed.of_sends sent signal
  exact ⟨⟨kind, client, dto⟩, ⟨here, performs⟩, same,
    authorized_of_admitted atOnce split here admitted, clean⟩

omit [UuidSpelling] in
/-- A relay sends. -/
theorem Relays.sends (relays : Relays all turn message) : Sends turn := by
  refine ⟨sessionRoom message.dto.sessionId, message.kind, message.dto.sessionId,
    message.dto.seq, message.dto.nonce, message.dto.body, message.client.actor, ?_⟩
  rw [relays.2.writes]
  exact List.mem_singleton_self _

/-- The relayed message is clean in its session. -/
theorem Relays.clean (turns : (requests all db).Turns trace final) (atOnce : AtOnce all trace)
    (split : trace = first ++ turn :: rest) (relays : Relays all turn message) :
    Clean message.client.actor.userIdText message.dto (Pool.own first turn.thread) := by
  obtain ⟨_, _, _, _, _, _, _, sent⟩ := relays.sends
  obtain ⟨other, again, _, _, clean⟩ := relays_of_sends turns atOnce split sent rfl
  obtain rfl : message = other :=
    Message.request_inj (Option.some.inj (relays.1.symm.trans again.1))
  exact clean

/-! ## Numbers and nonces -/

variable {earlier later : Turn communication} {between : List (Turn communication)}
  {other : Message}

omit [UuidSpelling] in
/-- What a message was told, its own thread has asked. -/
theorem own_of_mem (split : trace = first ++ turn :: rest) {check : Turn communication}
    (member : check ∈ Pool.own first turn.thread) :
    check ∈ trace ∧ check.thread = turn.thread := by
  obtain ⟨inFirst, same⟩ := Pool.mem_own.mp member
  exact ⟨split ▸ List.mem_append_left _ inFirst, same⟩

/-- A message claims its nonce within 30 seconds of its timestamp. -/
theorem Relays.claims (turns : (requests all db).Turns trace final) (atOnce : AtOnce all trace)
    (split : trace = first ++ turn :: rest) (relays : Relays all turn message) :
    ∃ check ∈ trace, check.thread = turn.thread ∧
      check.Returned (claimNonce message.dto.sessionId message.dto.nonce) true ∧
        (check.before.now - message.dto.timestamp).natAbs ≤ 30000 := by
  have clean := relays.clean turns atOnce split
  obtain ⟨check, member, claimed⟩ := clean.fresh
  obtain ⟨reading, read, _, told, recent⟩ := clean.recent
  obtain ⟨inTrace, thread⟩ := own_of_mem split member
  obtain ⟨rfl, _⟩ := now_succeeds.mp told.succeeds
  rw [atOnce.own split relays.1 read, ← atOnce.own split relays.1 member] at recent
  exact ⟨check, inTrace, thread, claimed, recent⟩

end Runs

/-! ### A session under two spellings -/

namespace TwoSpellings

local instance : UuidSpelling := letterSpelling

/-- An offer under a spelling of the session. -/
def offer (sessionId : String) : Message :=
  ⟨.offer, driverClient, { sessionId, nonce := "n", seq := 1, timestamp := 0, body := "sdp" }⟩

/-- The driver accepts, joins the room of the other spelling too, and sends its offer to both. -/
def spelledTwice : List Request :=
  [.connect driverClient, .respondOverSocket driverClient "a" .accept, .joinRoom driverClient "session:A",
    (offer "a").request, (offer "A").request]

def runTwice : List (Turn communication) × Pool communication (Option RealtimeSession) :=
  (requests spelledTwice ringing).perform
    (inOrder (0 :: List.replicate 8 1 ++ List.replicate 4 2 ++ List.replicate 8 3 ++
      List.replicate 8 4))

/-- The offer is relayed. -/
theorem relayed : runTwice.1[20]?.map (fun turn => (turn.thread, turn.act)) =
    some (3, .call (relay driverClient .offer (offer "a").dto)) := rfl

end TwoSpellings

end Armada.Communication
