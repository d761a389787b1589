import Armada.Communication.Requests

/-!
# What the steps of a request do

Each step of a request makes at most one write that matters to calls, rooms or the keys in
Redis. `Allowed` lists them, each with what the step has found in the store and with what the
request has been told before; every request keeps to it.
-/

namespace Armada.Communication

open Relational Concurrency Realtime
open Auth (UuidSpelling spelled)

/-! ## Writes that do not matter -/

/-- Neither an invite nor a signal. -/
def Event.plain : Event → Bool
  | .callInvite _ _ _ => false
  | .signal _ _ _ _ _ => false
  | _ => true

/-- The audit log, sockets that leave, and plain events. -/
def Write.quiet : Write → Bool
  | .createAuditLog _ => true
  | .removeSocket _ => true
  | .leave _ _ => true
  | .emit emission => emission.event.plain
  | _ => false

/-- None of the writes changes a call, a guard or a room. -/
def Quiet (writes : List Write) : Prop := ∀ write ∈ writes, write.quiet = true

/-- No writes are quiet. -/
theorem quiet_nil : Quiet [] := List.forall_mem_nil _

/-- One quiet write is. -/
theorem quiet_singleton {write : Write} (quiet : write.quiet = true) : Quiet [write] :=
  List.forall_mem_singleton.mpr quiet

/-- A call that makes only quiet writes takes quiet turns. -/
theorem quiet_of_performs {β : Type} {statement : Statement communication β}
    {turn : Turn communication}
    (each : ∀ input before value writes, statement.Succeeds input before value writes →
      Quiet writes)
    (performs : turn.Performs statement) : Quiet turn.writes := by
  rcases performs.ends with idle | ⟨value, succeeded⟩
  · rw [idle]
    exact quiet_nil
  · exact each _ _ _ _ succeeded

/-- An effect that is quiet whatever it finds. -/
theorem quiet_effect {β : Type} {body : Input → Db → β × List Write}
    (each : ∀ input db, Quiet (body input db).2) (input : Input) (before : Db) (value : β)
    (writes : List Write) (executed : (effect body).Succeeds input before value writes) :
    Quiet writes := by
  have same := each input before
  rwa [effect_succeeds.mp executed] at same

/-- A lookup is quiet. -/
theorem quiet_lookup [UuidText] {β : Type} {id : String} {read : Uuid → Db → β} (input : Input)
    (before : Db) (value : β) (writes : List Write)
    (executed : (lookup id read).Succeeds input before value writes) : Quiet writes := by
  obtain ⟨_, rfl, _⟩ := lookup_succeeds.mp executed
  exact quiet_nil

/-! ## What a request has been told -/

/-- A request answers a call. -/
inductive Request.Responds : Request → String → CallAction → UserActor → Prop where
  | overRest (sessionId : String) (action : CallAction) (actor : UserActor) :
      Responds (.respond sessionId action actor) sessionId action actor
  | overSocket (client : Client) (sessionId : String) (action : CallAction) :
      Responds (.respondOverSocket client sessionId action) sessionId action client.actor

open Communication.RealtimeGateway CallSessionService

variable [UuidSpelling]

/-- A socket was in the room of a session and took part in it while it was active. -/
structure Admitted (client : Client) (sessionId : String)
    (history : List (Turn communication)) : Prop where
  joined : ∃ turn ∈ history, turn.Returned (Client.inRoom client (sessionRoom sessionId)) true
  active : ∃ turn ∈ history, ∃ session,
    turn.Returned (Prisma.RealtimeSession.findUnique sessionId) (some session) ∧
      isAuthorizedParticipant session client.actor = true ∧ session.status = .active ∧
        ∃ reading ∈ history, ∃ instant, reading.Returned now instant ∧
          instant < session.expiresAt

/-- Who answers a call took part in it when its row was read, and an instant was read. -/
structure Answering (sessionId : String) (actor : UserActor) (instant : Int)
    (history : List (Turn communication)) : Prop where
  told : ∃ reading ∈ history, reading.Returned now instant
  participant : ∃ look ∈ history, ∃ session,
    look.Returned (Prisma.RealtimeSession.findUnique sessionId) (some session) ∧
      isAuthorizedParticipant session actor = true

/-- A message was recent, and its nonce and its number were new to Redis. -/
structure Clean (senderId : String) (dto : WebrtcSignal)
    (history : List (Turn communication)) : Prop where
  recent : ∃ reading ∈ history, ∃ instant, reading.Returned now instant ∧
    (instant - dto.timestamp).natAbs ≤ maxSkewMs
  fresh : ∃ turn ∈ history, turn.Returned (claimNonce dto.sessionId dto.nonce) true
  ordered : ∃ turn ∈ history,
    turn.Returned (advanceSequence dto.sessionId senderId dto.seq) true

/-- Who was admitted was admitted, as the history grows. -/
theorem Admitted.mono {client : Client} {sessionId : String}
    {history later : List (Turn communication)} (admitted : Admitted client sessionId history)
    (extended : history ⊆ later) : Admitted client sessionId later where
  joined := by
    obtain ⟨turn, member, joined⟩ := admitted.joined
    exact ⟨turn, extended member, joined⟩
  active := by
    obtain ⟨turn, member, session, read, authorized, active, reading, past, instant, rest⟩ :=
      admitted.active
    exact ⟨turn, extended member, session, read, authorized, active, reading, extended past,
      instant, rest⟩

omit [UuidSpelling] in
/-- What was checked was checked, as the history grows. -/
theorem Clean.mono {senderId : String} {dto : WebrtcSignal}
    {history later : List (Turn communication)} (clean : Clean senderId dto history)
    (extended : history ⊆ later) : Clean senderId dto later where
  recent := by
    obtain ⟨reading, member, rest⟩ := clean.recent
    exact ⟨reading, extended member, rest⟩
  fresh := by
    obtain ⟨turn, member, claimed⟩ := clean.fresh
    exact ⟨turn, extended member, claimed⟩
  ordered := by
    obtain ⟨turn, member, advanced⟩ := clean.ordered
    exact ⟨turn, extended member, advanced⟩

/-- The rooms that the authorizer knows. -/
def joinable : List String := ["delivery", "conversation", "session", "fleet"]

/-- What a turn of a request may do after those it has taken before. -/
inductive Allowed (request : Request) (history : List (Turn communication))
    (turn : Turn communication) : Prop where
  | quiet (quiet : Quiet turn.writes)
  | creates (row : RealtimeSession) (created : turn.writes = [.createSession row])
      (pending : row.status = .pending) (fresh : turn.before.session? row.id = none)
  | claims (sessionId : String) (action : CallAction) (actor : UserActor) (instant : Int)
      (asked : request.Responds sessionId action actor)
      (answering : Answering sessionId actor instant history)
      (performs : turn.Performs (claim sessionId action instant))
  | expires (sessionId : String) (instant : Int)
      (performs : turn.Performs (expire sessionId instant))
  | finishes (sessionId : String) (instant : Int)
      (performs : turn.Performs (finish sessionId instant))
  | invites (sessionId : Uuid) (type : RealtimeSessionType) (driverId : String)
      (actor : UserActor)
      (invited : turn.writes =
        [.emit ⟨s!"driver:{driverId}", .callInvite sessionId type driverId, actor⟩])
  | relays (kind : SignalKind) (client : Client) (dto : WebrtcSignal)
      (asked : request = .signal kind client dto)
      (admitted : Admitted client dto.sessionId history)
      (clean : Clean client.actor.userIdText dto history)
      (performs : turn.Performs (relay client kind dto))
  | claimsNonce (sessionId nonce : String) (performs : turn.Performs (claimNonce sessionId nonce))
  | advances (kind : SignalKind) (client : Client) (dto : WebrtcSignal)
      (asked : request = .signal kind client dto)
      (admitted : Admitted client dto.sessionId history)
      (performs : turn.Performs
        (advanceSequence dto.sessionId client.actor.userIdText dto.seq))
  | joins (client : Client) (room : String) (joined : turn.writes = [.join client.id room])
      (known : category room ∈ joinable)
  | registers (client : Client) (reenters : SocketId → Bool)
      (registered : turn.writes = [.registerSocket client reenters])
  | passes (elapsed : Nat) (passed : turn.writes = [.passTime elapsed])

/-! ## What is written -/

/-- What is known of a write that a turn makes on its own; what it does to calls is in
`Communication.Calls`. -/
def Due (request : Request) (history : List (Turn communication)) (turn : Turn communication) :
    Write → Prop
  | .claimNonce key deadline =>
      deadline = turn.before.now + 60 * 1000 ∧ turn.before.nonces.get turn.before.now key = none
  | .setSequence key seq deadline =>
      deadline = turn.before.now + 3600 * 1000 ∧
        (∀ current ∈ turn.before.sequences.get turn.before.now key, current < seq) ∧
          ∃ kind client dto, request = .signal kind client dto ∧
            Admitted client dto.sessionId history
  | .join _ room => category room ∈ joinable
  | .emit emission =>
      (∃ sessionId type driverId actor, emission =
        ⟨s!"driver:{driverId}", .callInvite sessionId type driverId, actor⟩) ∨
      ∃ kind client dto, request = .signal kind client dto ∧
        Admitted client dto.sessionId history ∧ Clean client.actor.userIdText dto history ∧
          turn.Performs (relay client kind dto) ∧ emission =
            ⟨sessionRoom dto.sessionId, .signal kind dto.sessionId dto.seq dto.nonce dto.body,
              client.actor⟩
  | _ => True

variable {request : Request} {history : List (Turn communication)} {turn : Turn communication}

omit [UuidSpelling] in
/-- An UPDATE by condition writes its change, or nothing. -/
theorem updateMany_writes [UuidText] {sessionId : String} {condition : RealtimeSession → Bool}
    {change : SessionChange}
    (performs : turn.Performs (Prisma.RealtimeSession.updateMany sessionId condition change)) :
    turn.writes = [] ∨ ∃ id, turn.writes = [.updateSession id change] := by
  rcases performs.ends with idle | ⟨count, succeeded⟩
  · exact .inl idle
  · obtain ⟨_, id, _, ⟨_, _, _, _, writes⟩ | ⟨_, _, idle⟩⟩ :=
      Prisma.RealtimeSession.updateMany_succeeds.mp succeeded
    · exact .inr ⟨id, writes⟩
    · exact .inl idle

omit [UuidSpelling] in
/-- A nonce is claimed if it is free. -/
theorem claimNonce_writes {sessionId nonce : String}
    (performs : turn.Performs (claimNonce sessionId nonce)) :
    turn.writes = [] ∨
      turn.before.nonces.get turn.before.now s!"replay:nonce:{sessionId}:{nonce}" = none ∧
        turn.writes = [.claimNonce s!"replay:nonce:{sessionId}:{nonce}"
          (turn.before.now + 60 * 1000)] := by
  rcases performs.ends with idle | ⟨claimed, succeeded⟩
  · exact .inl idle
  · obtain ⟨_, _, idle⟩ | ⟨_, absent, _, writes⟩ | ⟨_, _, _, idle⟩ :=
      RedisService.setNxEx_succeeds.mp succeeded
    · exact .inl idle
    · exact .inr ⟨absent, writes⟩
    · exact .inl idle

omit [UuidSpelling] in
/-- A sequence is advanced if it is newer. -/
theorem advanceSequence_writes {sessionId senderId : String} {seq : Nat}
    (performs : turn.Performs (advanceSequence sessionId senderId seq)) :
    turn.writes = [] ∨
      (∀ current ∈ turn.before.sequences.get turn.before.now s!"seq:webrtc:{sessionId}:{senderId}",
        current < seq) ∧
        turn.writes = [.setSequence s!"seq:webrtc:{sessionId}:{senderId}" seq
          (turn.before.now + 3600 * 1000)] := by
  rcases performs.ends with idle | ⟨advanced, succeeded⟩
  · exact .inl idle
  · obtain ⟨_, _, idle⟩ | ⟨_, later, _, writes⟩ | ⟨_, _, _, idle⟩ :=
      RedisService.verifyAndSetSequence_succeeds.mp succeeded
    · exact .inl idle
    · exact .inr ⟨later, writes⟩
    · exact .inl idle

/-- A turn makes only quiet writes, or one write that is due. -/
theorem Allowed.written (allowed : Allowed request history turn) :
    Quiet turn.writes ∨ ∃ write, turn.writes = [write] ∧ Due request history turn write := by
  have idle : turn.writes = [] → Quiet turn.writes := fun none => none ▸ quiet_nil
  cases allowed with
  | quiet quiet => exact .inl quiet
  | creates row created pending fresh => exact .inr ⟨_, created, trivial⟩
  | claims sessionId action actor instant asked answering performs =>
      obtain none | ⟨id, writes⟩ := updateMany_writes performs
      · exact .inl (idle none)
      · exact .inr ⟨_, writes, trivial⟩
  | expires sessionId instant performs =>
      obtain none | ⟨id, writes⟩ := updateMany_writes performs
      · exact .inl (idle none)
      · exact .inr ⟨_, writes, trivial⟩
  | finishes sessionId instant performs =>
      obtain none | ⟨updated, succeeded⟩ := performs.ends
      · exact .inl (idle none)
      · obtain ⟨_, id, _, _, _, _, writes⟩ :=
          Prisma.RealtimeSession.update_succeeds.mp succeeded
        exact .inr ⟨_, writes, trivial⟩
  | invites sessionId type driverId actor invited =>
      exact .inr ⟨_, invited, .inl ⟨sessionId, type, driverId, actor, rfl⟩⟩
  | relays kind client dto asked admitted clean performs =>
      exact .inr ⟨_, performs.writes,
        .inr ⟨kind, client, dto, asked, admitted, clean, performs, rfl⟩⟩
  | claimsNonce sessionId nonce performs =>
      obtain none | ⟨absent, writes⟩ := claimNonce_writes performs
      · exact .inl (idle none)
      · exact .inr ⟨_, writes, rfl, absent⟩
  | advances kind client dto asked admitted performs =>
      obtain none | ⟨later, writes⟩ := advanceSequence_writes performs
      · exact .inl (idle none)
      · exact .inr ⟨_, writes, rfl, later, kind, client, dto, asked, admitted⟩
  | joins client room joined known => exact .inr ⟨_, joined, known⟩
  | registers client reenters registered => exact .inr ⟨_, registered, trivial⟩
  | passes elapsed passed => exact .inr ⟨_, passed, trivial⟩

/-! ## The parts of the requests -/

section Parts

variable {supplied : Turn communication → Prop} {thread : Nat}
  {guar : List (Turn communication) → Turn communication → Prop}
  (quiet : ∀ history turn, Quiet turn.writes → guar history turn)

include quiet

omit [UuidSpelling] in
/-- A quiet statement is allowed to every request. -/
theorem quiet_commits {β : Type} {statement : Statement communication β}
    (each : ∀ input before value writes, statement.Succeeds input before value writes →
      Quiet writes) :
    (liftM statement : Proc communication β).Commits (.turns supplied thread guar) :=
  Proc.Commits.performs fun history _ performs =>
    quiet history _ (quiet_of_performs each performs)

omit [UuidSpelling] in
/-- A call that writes the same whatever it finds. -/
theorem effect_commits {β : Type} {body : Input → Db → β × List Write}
    (each : ∀ input db, Quiet (body input db).2) :
    (liftM (effect body) : Proc communication β).Commits (.turns supplied thread guar) :=
  quiet_commits quiet (quiet_effect each)

/-- A lookup is. -/
theorem lookup_commits {β : Type} (id : String) (read : Uuid → Db → β) :
    (liftM (lookup id read) : Proc communication β).Commits (.turns supplied thread guar) :=
  quiet_commits quiet quiet_lookup

omit [UuidSpelling] in
/-- The clock is. -/
theorem now_commits :
    (liftM now : Proc communication Int).Commits (.turns supplied thread guar) :=
  effect_commits quiet fun _ _ => quiet_nil

omit [UuidSpelling] in
/-- A count is. -/
theorem incrRateLimit_commits (key : String) (windowSeconds : Nat) :
    (liftM (RedisService.incrRateLimit key windowSeconds) : Proc communication Nat).Commits
      (.turns supplied thread guar) :=
  effect_commits quiet fun _ _ => quiet_nil

omit [UuidSpelling] in
/-- An audit row is. -/
theorem audit_commits (row : AuditLog) :
    (liftM (Prisma.AuditLog.create row) : Proc communication Unit).Commits
      (.turns supplied thread guar) := by
  apply quiet_commits quiet
  intro input db answer writes executed
  obtain ⟨_, rfl⟩ := Prisma.AuditLog.create_succeeds.mp executed
  exact quiet_singleton rfl

omit [UuidSpelling] in
/-- An emission that relays no signal is. -/
theorem emit_commits (room : String) {event : Event} (plain : event.plain = true)
    (actor : UserActor) :
    (liftM (Server.emit room event actor) : Proc communication Unit).Commits
      (.turns supplied thread guar) :=
  effect_commits quiet fun _ _ => quiet_singleton plain

omit [UuidSpelling] in
/-- So is a notice to the client. -/
theorem clientEmit_commits (client : Client) {event : Event} (plain : event.plain = true) :
    (liftM (Client.emit client event) : Proc communication Unit).Commits
      (.turns supplied thread guar) :=
  emit_commits quiet _ plain _

/-- The checks of an invitation's delivery are. -/
theorem checkDelivery_commits (dto : InitiateCallDto) (actor : UserActor) :
    (checkDelivery dto actor).Commits (.turns supplied thread guar) := by
  rw [checkDelivery]
  cases dto.deliveryId with
  | none => exact Proc.Commits.pure ()
  | some deliveryId =>
      refine Proc.Commits.ite ?_ (Proc.Commits.pure ())
      refine (lookup_commits quiet _ _).bind fun found => ?_
      refine (Proc.Commits.require _ _).bind fun delivery => ?_
      exact (Proc.Commits.rejectIf _ _).bind fun _ => Proc.Commits.rejectIf _ _

/-- An invitation inserts a pending call. -/
theorem initiateCallSession_commits (dto : InitiateCallDto) (actor : UserActor)
    (creates : ∀ history turn row, turn.writes = [.createSession row] → row.status = .pending →
      turn.before.session? row.id = none → guar history turn)
    (invites : ∀ history turn sessionId, turn.writes =
      [.emit ⟨s!"driver:{dto.driverId}", .callInvite sessionId dto.type dto.driverId, actor⟩] →
        guar history turn) :
    (initiateCallSession dto actor).Commits (.turns supplied thread guar) := by
  rw [initiateCallSession]
  apply (Proc.Commits.rejectIf _ _).bind
  intro _
  apply (incrRateLimit_commits quiet _ _).bind
  intro _
  apply (Proc.Commits.rejectIf _ _).bind
  intro _
  apply (checkDelivery_commits quiet dto actor).bind
  intro _
  apply (lookup_commits quiet _ _).bind
  intro driver
  apply (Proc.Commits.require _ _).bind
  intro _
  apply (now_commits quiet).bind
  intro instant
  have stored : (liftM (Prisma.RealtimeSession.create
      (pendingSession dto actor (instant + pendingTimeoutMs))) :
        Proc communication RealtimeSession).Commits (.turns supplied thread guar) := by
    apply Proc.Commits.performs
    intro history turn performs
    rcases performs.ends with idle | ⟨created, executed⟩
    · exact quiet _ _ (idle ▸ quiet_nil)
    · obtain ⟨_, values, fresh, made⟩ := Prisma.RealtimeSession.create_succeeds.mp executed
      exact creates _ _ created made (pendingSession_ok values).2 fresh
  apply stored.bind
  intro session
  apply (audit_commits quiet _).bind
  intro _
  have sent : (liftM (broadcastCallInvite session.id dto.driverId dto.type actor) :
      Proc communication Unit).Commits (.turns supplied thread guar) :=
    Proc.Commits.performs fun _ _ performs => invites _ _ session.id performs.writes
  exact sent.bind fun _ => Proc.Commits.pure _

/-- An answer is claimed by a participant, at an instant that was read before. -/
theorem respondToCallSession_commits (sessionId : String) (action : CallAction)
    (actor : UserActor)
    (claims : ∀ history turn instant, Answering sessionId actor instant history →
      turn.Performs (claim sessionId action instant) → guar history turn) :
    (respondToCallSession sessionId action actor).Commits (.turns supplied thread guar) := by
  rw [respondToCallSession]
  intro history
  have failed : ∀ (error : Exception) (current : List (Turn communication)), True :=
    fun _ _ => trivial
  refine Proc.Meets.told (fun turn performs => quiet _ _ (quiet_of_performs quiet_lookup performs))
    failed fun found look looked => ?_
  refine Proc.Meets.require (fun _ => trivial) fun session present => ?_
  subst present
  refine Proc.Meets.rejectIf (fun _ => trivial) fun authorized => ?_
  have participates : isAuthorizedParticipant session actor = true := by simpa using authorized
  apply Proc.Meets.told _ failed
  · intro instant reading read
    apply (Proc.Commits.rejectIf _ _).next failed
    intro _ current first
    apply (Proc.Commits.rejectIf _ _).next failed
    intro _ current second
    have past : ∀ turn ∈ history ++ [look] ++ [reading], turn ∈ current :=
      fun _ member => (first.trans second).subset member
    have answering : Answering sessionId actor instant current :=
      ⟨⟨reading, past _ (by simp), read⟩, ⟨look, past _ (by simp), session, looked, participates⟩⟩
    apply Proc.Meets.told _ failed
    · intro claimed turn _
      split
      · apply (lookup_commits quiet _ _).bind
        intro updated
        apply (audit_commits quiet _).bind
        intro _
        exact (emit_commits quiet _ rfl _).bind fun _ => Proc.Commits.pure _
      · apply (lookup_commits quiet _ _).bind
        intro current
        apply (now_commits quiet).bind
        intro later
        exact (Proc.Commits.rejectIf _ _).bind fun _ => Proc.Commits.throw _
    · intro turn performs
      exact claims _ _ instant answering performs
  · intro turn performs
    exact quiet _ _ (quiet_of_performs (quiet_effect fun _ _ => quiet_nil) performs)

/-- A hang-up finishes a call. -/
theorem endCallSession_commits (sessionId : String) (actor : UserActor)
    (finishes : ∀ history turn instant, turn.Performs (finish sessionId instant) →
      guar history turn) :
    (endCallSession sessionId actor).Commits (.turns supplied thread guar) := by
  rw [endCallSession]
  apply (lookup_commits quiet _ _).bind
  intro found
  apply (Proc.Commits.require _ _).bind
  intro session
  apply (Proc.Commits.rejectIf _ _).bind
  intro _
  apply Proc.Commits.ite (Proc.Commits.pure _)
  apply (now_commits quiet).bind
  intro instant
  have updates : (liftM (finish sessionId instant) :
      Proc communication RealtimeSession).Commits (.turns supplied thread guar) :=
    Proc.Commits.performs fun _ _ => finishes _ _ instant
  apply updates.bind
  intro updated
  apply (audit_commits quiet _).bind
  intro _
  exact (emit_commits quiet _ rfl _).bind fun _ => Proc.Commits.pure _

/-- A timeout expires a call that is still pending. -/
theorem handlePendingTimeout_commits (sessionId : String)
    (expires : ∀ history turn instant, turn.Performs (expire sessionId instant) →
      guar history turn) :
    (handlePendingTimeout sessionId).Commits (.turns supplied thread guar) := by
  rw [handlePendingTimeout]
  apply Proc.Commits.tryCatch _ fun _ => Proc.Commits.pure _
  apply (lookup_commits quiet _ _).bind
  intro found
  cases found with
  | none => exact Proc.Commits.pure _
  | some session =>
      apply Proc.Commits.ite _ (Proc.Commits.pure _)
      apply (now_commits quiet).bind
      intro instant
      have updates : (liftM (expire sessionId instant) : Proc communication Nat).Commits
          (.turns supplied thread guar) :=
        Proc.Commits.performs fun _ _ => expires _ _ instant
      apply updates.bind
      intro claimed
      apply Proc.Commits.ite _ (Proc.Commits.pure _)
      exact (emit_commits quiet _ rfl _).bind fun _ => Proc.Commits.pure _

end Parts

end Armada.Communication
