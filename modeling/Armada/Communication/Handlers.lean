import Armada.Communication.Effects

/-!
# What the steps of the gateway do

The handlers of the gateway around the services, and with them the contract of every request.
A message is relayed only by a request that has been told, in this order, that the socket is in
the room, that the session is active, and that the message is recent and new.
-/

namespace Armada.Communication

open Relational Concurrency Realtime
open Auth (AuthenticatedSocketData UuidSpelling spelled)
open Communication.RealtimeGateway CallSessionService

/-! ## Rooms -/

/-- The rooms that an authorization lets in. -/
def Known (result : Except Exception RoomAuthorizationResult) : Prop :=
  ∀ granted, result = .ok granted → granted.authorized = true →
    ∃ room, granted.normalizedRoom = some room ∧ category room ∈ joinable

/-- A denial names no room. -/
theorem known_denied (reason : String) : Known (.ok (.denied reason)) := by
  rintro _ ⟨⟩ ⟨⟩

/-- A room is granted if it is of a known category. -/
theorem known_granted {room : String} (known : category room ∈ joinable) :
    Known (.ok (.granted room)) := by
  rintro _ ⟨⟩ _
  exact ⟨room, rfl, known⟩

/-- An error grants nothing. -/
theorem known_error (error : Exception) : Known (.error error) := nofun

/-- Either answer of a branch. -/
theorem known_ite {condition : Prop} [Decidable condition] {room reason : String}
    (known : category room ∈ joinable) :
    Known (.ok (if condition then .granted room else .denied reason)) := by
  split
  · exact known_granted known
  · exact known_denied reason

/-- What is caught is told to the socket as a plain event. -/
theorem plain_caught (event code message : String) (error : Exception) :
    (caught event code message error).plain = true := by
  cases error <;> rfl

/-! ## The parts of the handlers -/

variable [UuidSpelling]

section Parts

variable {supplied : Turn communication → Prop} {thread : Nat}
  {guar : List (Turn communication) → Turn communication → Prop}
  (quiet : ∀ history turn, Quiet turn.writes → guar history turn)

include quiet

omit [UuidSpelling] in
/-- Removing the socket is allowed to every request. -/
theorem remove_commits (socketId : SocketId) :
    (liftM (Client.remove socketId) : Proc communication Unit).Commits
      (.turns supplied thread guar) :=
  effect_commits quiet fun _ _ => quiet_singleton rfl

omit [UuidSpelling] in
/-- Checking it again is. -/
theorem revalidateSensitiveSocket_commits (client : Client) :
    (revalidateSensitiveSocket client).Commits (.turns supplied thread guar) := by
  rw [revalidateSensitiveSocket]
  apply (effect_commits quiet fun _ _ => quiet_nil).bind
  intro valid
  apply Proc.Commits.ite (Proc.Commits.pure _)
  apply (clientEmit_commits quiet client _).bind
  · intro _
    exact (remove_commits quiet client.id).bind fun _ => Proc.Commits.pure _
  · rfl

omit [UuidSpelling] in
/-- So is what is guarded by that check. -/
theorem sensitive_commits (client : Client) {handler : Proc communication Unit}
    (handled : handler.Commits (.turns supplied thread guar)) :
    (sensitive client handler).Commits (.turns supplied thread guar) := by
  rw [sensitive]
  apply (revalidateSensitiveSocket_commits quiet client).bind
  intro valid
  exact Proc.Commits.ite (Proc.Commits.pure _) (Proc.Commits.ite (Proc.Commits.pure _) handled)

/-- A hang-up over the socket finishes a call. -/
theorem handleWebrtcCallHangup_commits (client : Client) (sessionId : String)
    (finishes : ∀ history turn instant, turn.Performs (finish sessionId instant) →
      guar history turn) :
    (handleWebrtcCallHangup client sessionId).Commits (.turns supplied thread guar) := by
  apply sensitive_commits quiet
  apply Proc.Commits.tryCatch
  · exact (endCallSession_commits quiet sessionId _ finishes).bind fun _ => Proc.Commits.pure _
  · intro error
    exact clientEmit_commits quiet client rfl

/-- An answer over the socket claims a call after the checks. -/
theorem handleWebrtcCallRespond_commits (client : Client) (sessionId : String)
    (action : CallAction)
    (claims : ∀ history turn instant, Answering sessionId client.actor instant history →
      turn.Performs (claim sessionId action instant) → guar history turn)
    (joins : ∀ history turn, turn.writes = [.join client.id (sessionRoom sessionId)] →
      guar history turn) :
    (handleWebrtcCallRespond client sessionId action).Commits (.turns supplied thread guar) := by
  apply sensitive_commits quiet
  apply Proc.Commits.tryCatch
  · apply (respondToCallSession_commits quiet sessionId action _ claims).bind
    intro _
    apply Proc.Commits.ite _ (Proc.Commits.pure _)
    exact Proc.Commits.performs fun _ _ performs => joins _ _ performs.writes
  · intro error
    exact clientEmit_commits quiet client (plain_caught _ _ _ error)

/-- A lookup and what it decides. -/
theorem lookup_known {β : Type} {id : String} {read : Uuid → Db → β}
    {resume : β → Proc communication RoomAuthorizationResult}
    {history : List (Turn communication)}
    (decided : ∀ found current,
      (resume found).Meets (.turns supplied thread guar) (fun result _ => Known result) current) :
    (liftM (lookup id read) >>= resume).Meets (.turns supplied thread guar)
      (fun result _ => Known result) history :=
  (lookup_commits quiet id read).next (fun error _ => known_error error)
    fun found current _ => decided found current

namespace WsRoomAuthorizerService

variable {data : AuthenticatedSocketData} {room : String} (known : category room ∈ joinable)
  (id : String) (history : List (Turn communication))

include known

/-- A delivery's room is known. -/
theorem authorizeDeliveryRoom_meets :
    (authorizeDeliveryRoom data id room).Meets (.turns supplied thread guar)
      (fun result _ => Known result) history := by
  apply Proc.Meets.ite
  · intro _
    exact known_denied _
  intro _
  apply lookup_known quiet
  intro found current
  cases found with
  | none => exact known_denied _
  | some delivery => exact known_ite known

/-- A conversation's room is known. -/
theorem authorizeConversationRoom_meets :
    (authorizeConversationRoom data id room).Meets (.turns supplied thread guar)
      (fun result _ => Known result) history := by
  apply Proc.Meets.ite
  · intro _
    exact known_denied _
  intro _
  apply lookup_known quiet
  intro found current
  cases found with
  | none => exact known_denied _
  | some conversation => exact known_ite known

/-- A call's room is known. -/
theorem authorizeRealtimeSessionRoom_meets :
    (authorizeRealtimeSessionRoom data id room).Meets (.turns supplied thread guar)
      (fun result _ => Known result) history := by
  apply Proc.Meets.ite
  · intro _
    exact known_denied _
  intro _
  apply Proc.Meets.ite
  · intro _
    exact known_granted known
  intro _
  apply lookup_known quiet
  intro found current
  cases found with
  | none => exact known_denied _
  | some session => exact known_ite known

omit known

/-- Whatever room is granted is known. -/
theorem authorizeRoomJoin_meets (roomName : String) :
    (authorizeRoomJoin data roomName).Meets (.turns supplied thread guar)
      (fun result _ => Known result) history := by
  rw [authorizeRoomJoin]
  dsimp only
  generalize trim roomName = room
  have known : ∀ kind ∈ joinable, category room = kind → category room ∈ joinable :=
    fun kind member same => same ▸ member
  apply Proc.Meets.ite
  · intro _
    exact known_denied _
  intro _
  apply Proc.Meets.ite
  · intro _
    exact known_denied _
  intro _
  apply Proc.Meets.ite
  · intro kind
    exact authorizeDeliveryRoom_meets quiet (known _ (by simp [joinable]) kind) _ _
  intro _
  apply Proc.Meets.ite
  · intro kind
    exact authorizeConversationRoom_meets quiet (known _ (by simp [joinable]) kind) _ _
  intro _
  apply Proc.Meets.ite
  · intro kind
    exact authorizeRealtimeSessionRoom_meets quiet (known _ (by simp [joinable]) kind) _ _
  intro _
  apply Proc.Meets.ite
  · intro kind
    apply Proc.Meets.ite
    · intro _
      exact known_ite (known _ (by simp [joinable]) kind)
    · intro _
      exact known_denied _
  · intro _
    exact known_denied _

end WsRoomAuthorizerService

/-- A join enters a known room. -/
theorem handleJoinRoom_commits (client : Client) (room : String)
    (joins : ∀ history turn target, category target ∈ joinable →
      turn.writes = [.join client.id target] → guar history turn) :
    (handleJoinRoom client room).Commits (.turns supplied thread guar) := by
  rw [handleJoinRoom]
  apply (revalidateSensitiveSocket_commits quiet client).bind
  intro valid
  apply Proc.Commits.ite (Proc.Commits.pure _)
  apply Proc.Commits.ite (clientEmit_commits quiet client rfl)
  apply Proc.Commits.ite (clientEmit_commits quiet client rfl)
  intro history
  apply (WsRoomAuthorizerService.authorizeRoomJoin_meets quiet history room).bind
  · exact fun _ _ _ => trivial
  intro authResult current isKnown
  apply Proc.Meets.ite
  · intro _
    exact clientEmit_commits quiet client rfl current
  · intro authorized
    obtain ⟨target, same, known⟩ := isKnown _ rfl (by simpa using authorized)
    rw [same]
    have entered : (liftM (Client.join client target) : Proc communication Unit).Commits
        (.turns supplied thread guar) :=
      Proc.Commits.performs fun _ _ performs => joins _ _ target known performs.writes
    exact (entered.bind fun _ => clientEmit_commits quiet client rfl) current

/-! ### Signals -/

omit [UuidSpelling] in
/-- A reading call and what follows once it has answered. -/
theorem read_meets {α β : Type} {body : Input → Db → β × List Write}
    {resume : β → Proc communication α} {post : Except Exception α → List (Turn communication) → Prop}
    {history : List (Turn communication)} (each : ∀ input db, Quiet (body input db).2)
    (failed : ∀ error current, post (.error error) current)
    (continued : ∀ value turn, turn.Returned (effect body) value →
      (resume value).Meets (.turns supplied thread guar) post (history ++ [turn])) :
    (liftM (effect body) >>= resume).Meets (.turns supplied thread guar) post history :=
  Proc.Meets.told (fun _ performs => quiet _ _ (quiet_of_performs (quiet_effect each) performs))
    failed continued

/-- What a signal needs is read from the session and from the clock. -/
theorem authorizeSignal_meets (sessionId : String) (actor : UserActor)
    (history : List (Turn communication)) :
    (authorizeSignal sessionId actor).Meets (.turns supplied thread guar)
      (OnResult (fun session current => ∃ turn ∈ current,
        turn.Returned (Prisma.RealtimeSession.findUnique sessionId) (some session) ∧
          isAuthorizedParticipant session actor = true ∧ session.status = .active ∧
            ∃ reading ∈ current, ∃ instant, reading.Returned now instant ∧
              instant < session.expiresAt) fun _ _ => True) history := by
  rw [authorizeSignal]
  apply Proc.Meets.told
  · intro turn performs
    exact quiet _ _ (quiet_of_performs quiet_lookup performs)
  · exact fun _ _ => trivial
  intro found turn read
  apply Proc.Meets.require fun _ => trivial
  rintro session rfl
  apply Proc.Meets.rejectIf fun _ => trivial
  intro authorized
  apply read_meets quiet (fun _ _ => quiet_nil) fun _ _ => trivial
  intro instant reading told
  apply Proc.Meets.rejectIf fun _ => trivial
  intro open_
  obtain ⟨active, early⟩ := not_or.mp open_
  refine ⟨turn, by simp, read, by simpa using authorized, by simpa using active, reading, by simp,
    instant, told, by omega⟩

/-- Who may signal has been admitted. -/
theorem assertWebrtcSignalAccess_meets (client : Client) (sessionId : String)
    (history : List (Turn communication)) :
    (assertWebrtcSignalAccess client sessionId).Meets (.turns supplied thread guar)
      (OnResult (fun _ current => Admitted client sessionId current) fun _ _ => True) history := by
  rw [assertWebrtcSignalAccess]
  apply read_meets quiet (fun _ _ => quiet_nil) fun _ _ => trivial
  intro joined turn told
  apply Proc.Meets.rejectIf fun _ => trivial
  intro inside
  obtain rfl : joined = true := by simpa using inside
  apply (authorizeSignal_meets quiet sessionId client.actor _).grows.bind fun _ _ _ => trivial
  rintro session current ⟨extended, active⟩
  have past : turn ∈ current :=
    extended.subset (List.mem_append_right _ List.mem_cons_self)
  obtain ⟨look, member, read, authorized, status, rest⟩ := active
  exact ⟨⟨turn, past, told⟩, look, member, session, read, authorized, status, rest⟩

section Claims

variable {client : Client} {senderId : String} {dto : WebrtcSignal}
  {history : List (Turn communication)}
  (claims : ∀ current turn, turn.Performs (claimNonce dto.sessionId dto.nonce) →
    guar current turn)
  (advances : ∀ current turn, history ⊆ current →
    turn.Performs (advanceSequence dto.sessionId senderId dto.seq) → guar current turn)

include claims advances

omit [UuidSpelling] in
/-- A signal that passes the guards is clean. -/
theorem validateWebrtcAntiReplay_meets :
    (validateWebrtcAntiReplay client dto.sessionId senderId dto.nonce dto.seq dto.timestamp).Meets
      (.turns supplied thread guar)
      (OnResult (fun isClean current => isClean = true → Clean senderId dto current)
        fun _ _ => True) history := by
  have refused : ∀ (event code message : String) current,
      ((do
        Client.emit client (.error event code message)
        return false) : Proc communication Bool).Meets (.turns supplied thread guar)
          (OnResult (fun isClean current => isClean = true → Clean senderId dto current)
            fun _ _ => True) current := by
    intro event code message current
    apply (clientEmit_commits quiet client _).next fun _ _ => trivial
    · rintro _ _ _ ⟨⟩
    · rfl
  rw [validateWebrtcAntiReplay]
  apply read_meets quiet (fun _ _ => quiet_nil) fun _ _ => trivial
  intro instant reading told
  apply Proc.Meets.ite
  · intro _
    exact refused _ _ _ _
  intro close
  apply Proc.Meets.told (claims _) fun _ _ => trivial
  intro claimed first nonce
  apply Proc.Meets.ite
  · intro _
    exact refused _ _ _ _
  intro unused
  obtain rfl : claimed = true := by simpa using unused
  apply Proc.Meets.told (fun turn => advances _ turn (by simp)) fun _ _ => trivial
  intro validSeq second sequence
  apply Proc.Meets.ite
  · intro _
    exact refused _ _ _ _
  intro inOrder
  obtain rfl : validSeq = true := by simpa using inOrder
  intro _
  constructor
  · exact ⟨reading, by simp, instant, told, by omega⟩
  · exact ⟨first, by simp, nonce⟩
  · exact ⟨second, by simp, sequence⟩

omit [UuidSpelling] claims advances in
/-- Counting candidates is allowed to every request. -/
theorem withinCandidateLimit_commits (kind : SignalKind) (sessionId : String) :
    (withinCandidateLimit client kind sessionId).Commits (.turns supplied thread guar) := by
  apply Proc.Commits.ite _ (Proc.Commits.pure _)
  apply (incrRateLimit_commits quiet _ _).bind
  intro candidateCount
  apply Proc.Commits.ite _ (Proc.Commits.pure _)
  exact (clientEmit_commits quiet client rfl).bind fun _ => Proc.Commits.pure _

end Claims

/-- A signal claims its nonce, advances its sequence and is relayed, in this order. -/
theorem handleWebrtcSignal_commits (kind : SignalKind) (client : Client) (dto : WebrtcSignal)
    (claims : ∀ history turn, turn.Performs (claimNonce dto.sessionId dto.nonce) →
      guar history turn)
    (advances : ∀ history turn, Admitted client dto.sessionId history →
      turn.Performs (advanceSequence dto.sessionId client.actor.userIdText dto.seq) →
        guar history turn)
    (relays : ∀ history turn, Admitted client dto.sessionId history →
      Clean client.actor.userIdText dto history → turn.Performs (relay client kind dto) →
        guar history turn) :
    (handleWebrtcSignal kind client dto).Commits (.turns supplied thread guar) := by
  apply sensitive_commits quiet
  apply Proc.Commits.tryCatch _ fun _ => clientEmit_commits quiet client rfl
  intro history
  apply (assertWebrtcSignalAccess_meets quiet client dto.sessionId history).bind
    fun _ _ _ => trivial
  intro _ current admitted
  have advancing : ∀ later turn, current ⊆ later →
      turn.Performs (advanceSequence dto.sessionId client.actor.userIdText dto.seq) →
        guar later turn := fun later turn extended =>
    advances later turn (admitted.mono extended)
  apply (validateWebrtcAntiReplay_meets quiet claims advancing).grows.bind fun _ _ _ => trivial
  rintro isClean checked ⟨extended, clean⟩
  apply Proc.Meets.ite
  · exact fun _ => trivial
  intro passes
  apply (withinCandidateLimit_commits quiet kind dto.sessionId).next fun _ _ => trivial
  intro within limited later
  apply Proc.Meets.ite
  · exact fun _ => trivial
  intro _
  apply Proc.Meets.performs
  intro turn performs
  exact relays _ _ (admitted.mono (extended.trans later).subset)
    ((clean (by simpa using passes)).mono later.subset) performs

/-! ### Connections -/

omit [UuidSpelling] in
/-- A connection registers its socket. -/
theorem handleConnection_commits (client : Client)
    (registers : ∀ history turn reenters, turn.writes = [.registerSocket client reenters] →
      guar history turn) :
    (handleConnection client).Commits (.turns supplied thread guar) := by
  apply Proc.Commits.ite _ (remove_commits quiet client.id)
  exact Proc.Commits.performs fun _ _ performs => registers _ _ _ performs.writes

omit [UuidSpelling] in
/-- Leaving a room is allowed to every request. -/
theorem handleLeaveRoom_commits (client : Client) (room : String) :
    (handleLeaveRoom client room).Commits (.turns supplied thread guar) := by
  apply Proc.Commits.ite (Proc.Commits.pure _)
  apply (effect_commits quiet fun _ _ => quiet_singleton rfl).bind
  intro _
  exact clientEmit_commits quiet client rfl

end Parts

/-! ## The contract of every request -/

/-- Every turn of a request is one that it is allowed. -/
theorem Request.commits (request : Request) {supplied : Turn communication → Prop}
    {thread : Nat} : request.proc.Commits (.turns supplied thread (Allowed request)) := by
  have quiet : ∀ history turn, Quiet turn.writes → Allowed request history turn :=
    fun _ _ => .quiet
  cases request with
  | initiate dto actor =>
      apply initiateCallSession_commits quiet dto actor
      · exact fun _ _ row made pending fresh => .creates row made pending fresh
      · exact fun _ _ sessionId sent => .invites sessionId _ _ _ sent
  | timeout sessionId =>
      exact handlePendingTimeout_commits quiet sessionId fun _ _ instant => .expires _ instant
  | respond sessionId action actor =>
      exact respondToCallSession_commits quiet sessionId action actor fun _ _ instant answering =>
        .claims _ _ _ instant (.overRest _ _ _) answering
  | hangUp sessionId actor =>
      exact endCallSession_commits quiet sessionId actor fun _ _ instant => .finishes _ instant
  | connect client =>
      apply Proc.Commits.map
      exact handleConnection_commits quiet client fun _ _ reenters => .registers _ reenters
  | disconnect socketId => exact (remove_commits quiet socketId).map _
  | joinRoom client room =>
      apply Proc.Commits.map
      exact handleJoinRoom_commits quiet client room fun _ _ target known made =>
        .joins _ target made known
  | leaveRoom client room => exact (handleLeaveRoom_commits quiet client room).map _
  | respondOverSocket client sessionId action =>
      apply Proc.Commits.map
      apply handleWebrtcCallRespond_commits quiet client sessionId action
      · exact fun _ _ instant answering =>
          .claims _ _ _ instant (.overSocket _ _ _) answering
      · intro _ _ made
        refine .joins _ _ made ?_
        rw [category_sessionRoom]
        simp [joinable]
  | signal kind client dto =>
      rw [Request.proc_signal]
      apply Proc.Commits.map
      apply handleWebrtcSignal_commits quiet kind client dto
      · exact fun _ _ => .claimsNonce _ _
      · exact fun _ _ admitted => .advances _ _ _ rfl admitted
      · exact fun _ _ admitted clean => .relays _ _ _ rfl admitted clean
  | hangUpOverSocket client sessionId =>
      apply Proc.Commits.map
      exact handleWebrtcCallHangup_commits quiet client sessionId fun _ _ instant =>
        .finishes _ instant
  | pass elapsed =>
      apply Proc.Commits.map
      exact Proc.Commits.performs fun _ _ performs => .passes elapsed performs.writes

/-! ## Runs -/

/-- A turn of a run is one that its request may take. -/
def Lawful (all : List Request) (thread : Nat) (history : List (Turn communication))
    (turn : Turn communication) : Prop :=
  ∃ request, all[thread]? = some request ∧ Allowed request history turn

/-- So every turn of a run is a turn of the service. -/
theorem lawful_of_turns {all : List Request} {db : Db} {trace : List (Turn communication)}
    {final : Pool communication (Option RealtimeSession)}
    (turns : (requests all db).Turns trace final) :
    ∀ first turn rest, trace = first ++ turn :: rest →
      Lawful all turn.thread (Pool.own first turn.thread) turn := by
  have contract : ∀ (thread : Nat) process, (requests all db).procs[thread]? = some process →
      process.Meets (.turns (fun _ => True) thread (Lawful all thread)) (fun _ _ => True) [] := by
    intro thread process found
    obtain ⟨request, here, rfl⟩ := requests_procs found
    have same : Lawful all thread = Allowed request := by
      ext history turn
      simp [Lawful, here]
    rw [same]
    exact request.commits []
  exact (@Pool.Turns.own _ _ _ _ _ turns (fun _ => True) (Lawful all) (fun _ _ _ => True)
    (fun _ _ => trivial) contract).1

/-- The same for a turn of which only the run is known. -/
theorem lawful_of_mem {all : List Request} {db : Db} {trace : List (Turn communication)}
    {final : Pool communication (Option RealtimeSession)}
    (turns : (requests all db).Turns trace final) {turn : Turn communication}
    (member : turn ∈ trace) : ∃ history, Lawful all turn.thread history turn := by
  obtain ⟨first, rest, split⟩ := List.append_of_mem member
  exact ⟨_, lawful_of_turns turns first turn rest split⟩

end Armada.Communication
