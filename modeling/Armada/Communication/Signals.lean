import Armada.Communication.Calls
import Armada.Concurrency.ReplayWindow

/-!
# The guards of signaling

The clock does not go back, a nonce or a sequence number enters Redis only past what it holds,
and a message is relayed at most once, as the last step of its request.
-/

namespace Armada.Communication

open Relational Concurrency Collections
open Auth (UuidSpelling spelled)
open Communication.RealtimeGateway CallSessionService

/-! ## The clock -/

/-- No write turns the clock back. -/
theorem Write.now_le (write : Write) (db : Db) : db.now ≤ (write.apply db).now := by
  cases write with
  | passTime elapsed => exact Int.le_add_of_nonneg_right (Int.natCast_nonneg elapsed)
  | _ => exact le_refl _

/-- Nor do several. -/
theorem now_le_applyAll (writes : List Write) (db : Db) :
    db.now ≤ (communication.applyAll writes db).now := by
  induction writes generalizing db with
  | nil => exact le_refl _
  | cons write writes inductionHypothesis =>
      exact (write.now_le db).trans (inductionHypothesis (write.apply db))

/-- So time does not go back in a turn. -/
theorem now_le_after (turn : Turn communication) : turn.before.now ≤ turn.after.now :=
  now_le_applyAll turn.writes turn.before

section Clock

variable {α : Type} {start final : Pool communication α} {trace first rest : List (Turn communication)}
  {turn other : Turn communication}

end Clock

/-! ## Nonces and sequence numbers -/

/-- The sequence numbers, each a mark that only a greater one may follow. -/
def sequenceVault : Vault communication String Nat where
  clock := Db.now
  keys := Db.sequences
  sets turn key seq := ∃ deadline, turn.writes = [.setSequence key seq deadline]

section Guards

variable [UuidSpelling] {request : Request} {history : List (Turn communication)}
  {turn : Turn communication}

omit [UuidSpelling] in
/-- A sequence that was advanced is set. -/
theorem sets_of_advanced {sessionId senderId : String} {seq : Nat}
    (connected : (turn.inputs 0).connected = true)
    (returned : turn.Returned (advanceSequence sessionId senderId seq) true) :
    sequenceVault.sets turn s!"seq:webrtc:{sessionId}:{senderId}" seq := by
  obtain ⟨away, _⟩ | ⟨_, _, _, made⟩ | ⟨_, _, ⟨⟩, _⟩ :=
    RedisService.verifyAndSetSequence_succeeds.mp returned.succeeds
  · cases connected.symm.trans away
  · exact ⟨_, made⟩

/-- A number is set by a request that was admitted. -/
theorem Allowed.admitted_of_sets (allowed : Allowed request history turn) {key : String}
    {seq : Nat} (set : sequenceVault.sets turn key seq) :
    ∃ kind client dto, request = .signal kind client dto ∧
      Admitted client dto.sessionId history := by
  obtain ⟨deadline, made⟩ := set
  obtain quiet | ⟨write, writes, due⟩ := allowed.written
  · cases quiet _ (made ▸ List.mem_singleton_self _)
  · obtain rfl := List.singleton_inj.mp (made.symm.trans writes)
    exact due.2.2

end Guards

/-! ## Relays -/

/-- A turn relays a signal. -/
def Sends (turn : Turn communication) : Prop :=
  ∃ room kind sessionId seq nonce body actor,
    .emit ⟨room, .signal kind sessionId seq nonce body, actor⟩ ∈ turn.writes

section Relays

variable [UuidSpelling] {request : Request} {history : List (Turn communication)}
  {turn : Turn communication}

/-- What is relayed is the message of the request, which has passed the checks. -/
theorem Allowed.of_sends (allowed : Allowed request history turn) {emission : Emission}
    {kind : SignalKind} {sessionId nonce body : String} {seq : Nat}
    (sent : .emit emission ∈ turn.writes)
    (signal : emission.event = .signal kind sessionId seq nonce body) :
    ∃ client dto, request = .signal kind client dto ∧ Admitted client dto.sessionId history ∧
      Clean client.actor.userIdText dto history ∧ turn.Performs (relay client kind dto) ∧
        emission = ⟨sessionRoom dto.sessionId,
          .signal kind dto.sessionId dto.seq dto.nonce dto.body, client.actor⟩ := by
  obtain quiet | ⟨write, made, due⟩ := allowed.written
  · have plain := quiet _ sent
    rw [Write.quiet, signal] at plain
    cases plain
  rw [made] at sent
  obtain rfl := List.mem_singleton.mp sent
  obtain ⟨_, _, _, _, rfl⟩ | ⟨_, client, dto, asked, admitted, clean, performs, rfl⟩ := due
  · cases signal
  · cases signal
    exact ⟨client, dto, asked, admitted, clean, performs, rfl⟩

/-! ### The relay is the last step -/

section Silent

variable {supplied : Turn communication → Prop} {thread : Nat}

end Silent

end Relays

end Armada.Communication
