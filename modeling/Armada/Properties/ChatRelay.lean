import Armada.Conversations.ChatGateway
import Armada.Properties.MessageParticipants
import Mathlib.Algebra.Order.BigOperators.Group.List
import Mathlib.Algebra.Order.Group.Multiset

/-!
# Stored and relayed messages

Both transports store a message with one service, but only the socket handler relays it, to a
room that is named as the client has spelled the conversation. So what is relayed is what is
stored exactly if messages are stored over sockets only, whose clients spell as the store does.
-/

namespace Armada.ChatRelay

open Relational Concurrency Auth RealtimeGateway
open MessageParticipants (Silent)

/-! ## What is stored, and what is relayed -/

/-- The id and the conversation of the message that a write stores. -/
def created : Write → Option (Uuid × Uuid)
  | .createMessage row => some (row.id, row.conversationId)
  | _ => none

/-- The id and the conversation of a message that is relayed to the room of its conversation. -/
def relayedHome [UuidSpelling] : ChatEmission → Option (Uuid × Uuid)
  | .relayed room message _ =>
      if room = conversationRoom (UuidSpelling.text message.conversationId) then
        some (message.id, message.conversationId)
      else none
  | _ => none

/-- A message that has been sent, or not. -/
abbrev Sending := Entry ChatSend (List ChatEmission) store

/-- The emissions of an answer. -/
def emissions (result : Except Exception (List ChatEmission)) : List ChatEmission :=
  result.toOption.getD []

/-- What has been stored by all. -/
def stored (sendings : List Sending) : Multiset (Uuid × Uuid) :=
  (journal sendings).filterMap created

/-- What has been relayed by all. -/
def relayed [UuidSpelling] (sendings : List Sending) : Multiset (Uuid × Uuid) :=
  (sendings.flatMap fun sending => emissions sending.result).filterMap relayedHome

/-- The message is sent over a socket, and the client spells the conversation as the store does. -/
def Spelled [UuidSpelling] (call : ChatSend) (conversationId : Uuid) : Prop :=
  ∃ valid data dto, call = .socket valid data dto ∧
    dto.conversationId = UuidSpelling.text conversationId

/-- A message that is stored is sent so. -/
def Relayable [UuidSpelling] (sending : Sending) : Prop :=
  ∀ row, .createMessage row ∈ sending.writes → Spelled sending.call row.conversationId

/-! ## What the service leaves -/

/-- Silent writes store no message. -/
theorem created_of_silent {writes : List Write} (silent : ∀ write ∈ writes, Silent write) :
    writes.filterMap created = [] := by
  rw [List.filterMap_eq_nil_iff]
  intro write member
  cases write with
  | createMessage row => exact (silent _ member).elim
  | _ => rfl

/-- Either nothing is stored and no new message returned, or the message that is returned. -/
inductive Sent (conversationId : Uuid) : Except Exception Reply → List Write → Prop where
  | none {result : Except Exception Reply} {writes : List Write}
      (answer : ∀ message, result ≠ .ok (.fresh (.message message)))
      (silent : ∀ write ∈ writes, Silent write) : Sent conversationId result writes
  | one {writes : List Write} (message : Message) (same : message.conversationId = conversationId)
      (only : writes.filterMap created = [(message.id, message.conversationId)])
      (member : .createMessage message ∈ writes) :
      Sent conversationId (.ok (.fresh (.message message))) writes

section Service

variable {supplied : Input → Prop} {base : Db} {conversationId : Uuid} {β : Type}

/-- What stores no message may come first. -/
theorem silently {first : Proc store β} {next : β → Proc store Reply} {written : List Write}
    (confined : first.Confined Silent) (silent : ∀ write ∈ written, Silent write)
    (continued : ∀ value later, (∀ write ∈ later, Silent write) →
      (next value).Meets (.ledger supplied base) (Sent conversationId) later) :
    (first >>= next).Meets (.ledger supplied base) (Sent conversationId) written := by
  refine (confined.ledger written).bind ?_ ?_
  · rintro error _ ⟨more, rfl, quiet⟩
    exact .none (fun _ => nofun) (List.forall_mem_append.mpr ⟨silent, quiet⟩)
  · rintro value _ ⟨more, rfl, quiet⟩
    exact continued value _ (List.forall_mem_append.mpr ⟨silent, quiet⟩)

/-- The access check writes nothing that stores or relays. -/
theorem verifyConversationAccess_confined (conversationId : Uuid) (actor : UserActor) :
    (ConversationsService.verifyConversationAccess conversationId actor).Confined Silent :=
  (Proc.Confined.statement confined_select).bind fun _ => (Proc.Confined.require _ _).bind fun _ =>
    (Proc.Confined.rejectIf _ _).bind fun _ => .pure _

/-- To save the record neither fails nor stores a message. -/
theorem saveRecord_saves (key : Option IdempotencyKey) (message : Message) (written : List Write) :
    (MessagesService.saveRecord key message).Meets (.ledger supplied base)
      (fun result later => result = .ok () ∧
        ∃ more, later = written ++ more ∧ ∀ write ∈ more, Silent write) written := by
  cases key with
  | none => exact ⟨rfl, [], (List.append_nil _).symm, List.forall_mem_nil _⟩
  | some key =>
      have confined : (liftM (Prisma.IdempotencyRecord.create key 201 (.message message)) :
          Proc store Unit).Confined Silent := .statement (confined_createRecord _ _ _)
      exact (confined.ledger written).tryCatch (fun _ _ extended => ⟨rfl, extended⟩)
        fun _ _ extended => ⟨rfl, extended⟩

/-- A send stores at most one message, and answers it when it does. -/
theorem sendMessage_sent (conversationId : Uuid) (dto : SendMessageDto) (actor : UserActor)
    (channel : MessageChannel) {written : List Write} (silent : ∀ write ∈ written, Silent write) :
    (MessagesService.sendMessage conversationId dto actor channel).Meets (.ledger supplied base)
      (Sent conversationId) written := by
  rw [MessagesService.sendMessage]
  refine silently (verifyConversationAccess_confined _ _) silent fun _ _ silent => ?_
  refine silently (.require _ _) silent fun deviceId _ silent => ?_
  refine silently (.statement confined_select) silent fun _ _ silent => ?_
  refine silently (.rejectIf _ _) silent fun _ _ silent => ?_
  refine silently (.statement confined_select) silent fun _ _ silent => ?_
  refine silently (.rejectIf _ _) silent fun _ _ silent => ?_
  refine silently (MessagesService.enforceSendRateLimit_confined _) silent fun _ _ silent => ?_
  refine silently (Idempotency.stored_confined _) silent fun record written silent => ?_
  have failed : ∀ {error written}, (∀ write ∈ written, Silent write) →
      Sent conversationId (.error error) written := fun silent => .none (by simp) silent
  cases record with
  | some body => exact .none (by simp) silent
  | none =>
      refine Ledger.next (fun _ _ _ _ => failed silent) fun input message writes _ executed => ?_
      obtain ⟨_, sameConversation, _, rfl⟩ := Prisma.Message.create_succeeds executed
      refine (saveRecord_saves _ message _).bind ?_ ?_
      · rintro error _ ⟨impossible, _⟩
        cases impossible
      · rintro _ _ ⟨_, more, rfl, quiet⟩
        refine .one message sameConversation ?_ (by simp)
        simp [created, created_of_silent silent, created_of_silent quiet]

end Service

/-! ## What a send leaves -/

section Sends

variable [UuidSpelling] {supplied : Input → Prop} {base : Db}

/-- Either nothing is stored and nothing relayed, or a message that is relayed to its room if it
is sent so. -/
def Sends (call : ChatSend) (result : Except Exception (List ChatEmission)) (writes : List Write) :
    Prop :=
  (writes.filterMap created = [] ∧ (emissions result).filterMap relayedHome = []) ∨
    ∃ message : Message, writes.filterMap created = [(message.id, message.conversationId)] ∧
      (Spelled call message.conversationId →
        (emissions result).filterMap relayedHome = [(message.id, message.conversationId)]) ∧
      (¬Spelled call message.conversationId → (emissions result).filterMap relayedHome = [])

/-- A call that stores and relays nothing keeps the relation. -/
theorem sends_of_silent {call : ChatSend} {result : Except Exception (List ChatEmission)}
    {writes : List Write} (silent : ∀ write ∈ writes, Silent write)
    (nothing : (emissions result).filterMap relayedHome = []) : Sends call result writes :=
  .inl ⟨created_of_silent silent, nothing⟩

/-- A message goes to the room of its conversation if that is spelled as the store does. -/
theorem relayedHome_relayed (typed : String) (message : Message) (actor : RealtimeEventActor) :
    relayedHome (.relayed (conversationRoom typed) message actor) =
      if typed = UuidSpelling.text message.conversationId then
        some (message.id, message.conversationId)
      else none := by
  rw [relayedHome, conversationRoom, conversationRoom]
  simp only [String.append_right_inj]

/-- What is emitted after a message has been sent. -/
theorem relayedHome_acknowledge (data : AuthenticatedSocketData) (typed : String)
    (message : Message) :
    (acknowledge data typed (.fresh (.message message))).filterMap relayedHome =
      if typed = UuidSpelling.text message.conversationId then [(message.id, message.conversationId)]
      else [] := by
  rw [acknowledge, List.filterMap_cons_none rfl]
  by_cases home : typed = UuidSpelling.text message.conversationId
  · rw [if_pos home, List.filterMap_cons_some ((relayedHome_relayed _ _ _).trans (if_pos home))]
    rfl
  · rw [if_neg home, List.filterMap_cons_none ((relayedHome_relayed _ _ _).trans (if_neg home))]
    rfl

/-- A replayed answer relays nothing. -/
theorem relayedHome_acknowledge_of_replay (data : AuthenticatedSocketData) (typed : String)
    {reply : Reply} (old : ∀ message, reply ≠ .fresh (.message message)) :
    (acknowledge data typed reply).filterMap relayedHome = [] := by
  match reply with
  | .fresh (.message message) => exact absurd rfl (old message)
  | .replayed (.message message) => rfl
  | .fresh .pending | .fresh (.pod ..) | .fresh (.route ..) | .fresh (.reorder ..) => rfl
  | .replayed .pending | .replayed (.pod ..) | .replayed (.route ..) | .replayed (.reorder ..) => rfl

/-- The conversation of a socket message is spelled as the room is. -/
theorem spelled_socket {valid : Bool} {data : AuthenticatedSocketData} {dto : ChatSendWsDto}
    {id : Uuid} : Spelled (.socket valid data dto) id ↔ dto.conversationId = UuidSpelling.text id := by
  constructor
  · rintro ⟨_, _, _, same, spelled⟩
    cases same
    exact spelled
  · exact fun spelled => ⟨valid, data, dto, rfl, spelled⟩

/-- The gateway's handler relays what it stores. -/
theorem sendChatMessage_sends (valid : Bool) (data : AuthenticatedSocketData) (dto : ChatSendWsDto) :
    (sendChatMessage data dto).Meets (.ledger supplied base)
      (OnResult (fun emitted => Sends (.socket valid data dto) (.ok emitted))
        fun _ writes => ∀ write ∈ writes, Silent write) [] := by
  have quiet : ∀ write ∈ ([] : List Write), Silent write := List.forall_mem_nil _
  rw [sendChatMessage]
  cases (RealtimeGateway.chatActor data).mapError Exception.prisma with
  | error error => exact quiet
  | ok actor =>
  cases (JsValue.string dto.conversationId).toUuid.mapError Exception.prisma with
  | error error => exact quiet
  | ok conversationId =>
      refine (sendMessage_sent conversationId dto.toSendMessageDto actor .socket quiet).bind ?_ ?_
      · intro error writes sent
        cases sent with
        | none _ silent => exact silent
      · intro reply writes sent
        cases sent with
        | none answer silent =>
            refine sends_of_silent silent (relayedHome_acknowledge_of_replay data _ ?_)
            exact fun message same => answer message (congrArg _ same)
        | one message _ only _ =>
            refine .inr ⟨message, only, fun spelled => ?_, fun misspelled => ?_⟩
            · rw [spelled_socket] at spelled
              exact (relayedHome_acknowledge data _ message).trans (if_pos spelled)
            · rw [spelled_socket] at misspelled
              exact (relayedHome_acknowledge data _ message).trans (if_neg misspelled)

/-- The REST send relays nothing. -/
theorem sendMessage_rest_sends (conversationId : Uuid) (dto : SendMessageDto) (user : Auth.AuthUser) :
    (ChatSend.rest conversationId dto user).proc.Meets (.ledger supplied base)
      (Sends (.rest conversationId dto user)) [] := by
  have quiet : ∀ write ∈ ([] : List Write), Silent write := List.forall_mem_nil _
  have activated : (RolesGuard.activate operators user).Confined Silent :=
    (Proc.Confined.rejectIf _ _).bind fun _ => .require _ _
  have sent : (ConversationsController.sendMessage conversationId dto user).Meets
      (.ledger supplied base) (Sent conversationId) [] :=
    silently activated quiet fun role _ silent => sendMessage_sent conversationId dto _ .rest silent
  have nothing : ∀ {result : Except Exception Reply} {writes : List Write},
      Sent conversationId result writes → ∀ answer : Except Exception (List ChatEmission),
        (emissions answer).filterMap relayedHome = [] →
          Sends (.rest conversationId dto user) answer writes := by
    intro result writes sent answer idle
    cases sent with
    | none _ silent => exact sends_of_silent silent idle
    | one message _ only _ =>
        refine .inr ⟨message, only, ?_, fun _ => idle⟩
        rintro ⟨_, _, _, impossible, _⟩
        cases impossible
  exact sent.bind (fun error _ sent => nothing sent _ rfl) fun _ _ sent => nothing sent _ rfl

/-- Every call keeps the relation. -/
theorem proc_sends (call : ChatSend) :
    call.proc.Meets (.ledger supplied base) (Sends call) [] := by
  have quiet : ∀ write ∈ ([] : List Write), Silent write := List.forall_mem_nil _
  cases call with
  | rest conversationId dto user => exact sendMessage_rest_sends conversationId dto user
  | socket valid data dto =>
      rw [ChatSend.proc, handleChatMessageSend]
      refine Proc.Meets.ite (fun _ => sends_of_silent quiet rfl) fun _ => ?_
      refine Proc.Meets.ite (fun _ => sends_of_silent quiet rfl) fun _ => ?_
      refine (sendChatMessage_sends valid data dto).tryCatch (fun _ _ sent => sent) ?_
      intro error writes silent
      refine sends_of_silent silent ?_
      cases error <;> rfl

end Sends

/-! ## Runs -/

section Runs

variable [UuidSpelling] {supplied : Input → Prop} {start : Db} {sendings : List Sending}

/-- What one send has stored. -/
def storedBy (sending : Sending) : Multiset (Uuid × Uuid) := sending.writes.filterMap created

/-- What one send has relayed. -/
def relayedBy (sending : Sending) : Multiset (Uuid × Uuid) :=
  (emissions sending.result).filterMap relayedHome

omit [UuidSpelling] in
/-- The stored messages of a session are those of its calls. -/
theorem stored_eq_sum (sendings : List Sending) : stored sendings = (sendings.map storedBy).sum := by
  induction sendings with
  | nil => rfl
  | cons sending rest inductionHypothesis =>
      rw [List.map_cons, List.sum_cons, ← inductionHypothesis, stored, journal, List.flatMap_cons,
        List.filterMap_append, ← Multiset.coe_add]
      rfl

/-- The relayed messages of a session are those of its calls. -/
theorem relayed_eq_sum (sendings : List Sending) :
    relayed sendings = (sendings.map relayedBy).sum := by
  induction sendings with
  | nil => rfl
  | cons sending rest inductionHypothesis =>
      rw [List.map_cons, List.sum_cons, ← inductionHypothesis, relayed, List.flatMap_cons,
        List.filterMap_append, ← Multiset.coe_add]
      rfl

/-- A call relays at most what it stores. -/
theorem Sends.relayedBy_le {sending : Sending}
    (sends : Sends sending.call sending.result sending.writes) :
    relayedBy sending ≤ storedBy sending := by
  rw [relayedBy, storedBy]
  rcases sends with ⟨_, idle⟩ | ⟨message, only, home, astray⟩
  · rw [idle]
    exact Multiset.zero_le _
  · by_cases spelled : Spelled sending.call message.conversationId
    · rw [only, home spelled]
    · rw [astray spelled]
      exact Multiset.zero_le _

/-- It relays all of it exactly when it is relayable. -/
theorem Sends.relayedBy_eq_iff {sending : Sending}
    (sends : Sends sending.call sending.result sending.writes) :
    relayedBy sending = storedBy sending ↔ Relayable sending := by
  have listed : ∀ row, .createMessage row ∈ sending.writes →
      (row.id, row.conversationId) ∈ sending.writes.filterMap created :=
    fun row member => List.mem_filterMap.mpr ⟨_, member, rfl⟩
  rw [relayedBy, storedBy]
  rcases sends with ⟨nothing, idle⟩ | ⟨message, only, home, astray⟩
  · rw [nothing, idle]
    refine ⟨fun _ row member => ?_, fun _ => rfl⟩
    rw [nothing] at listed
    cases listed row member
  · rw [only] at listed ⊢
    by_cases spelled : Spelled sending.call message.conversationId
    · rw [home spelled]
      refine ⟨fun _ row member => ?_, fun _ => rfl⟩
      have same : row.conversationId = message.conversationId := by
        simpa using congrArg Prod.snd (List.mem_singleton.mp (listed row member))
      rwa [same]
    · rw [astray spelled]
      refine ⟨fun impossible => by simp at impossible, fun relayable => absurd ?_ spelled⟩
      have member : (message.id, message.conversationId) ∈ sending.writes.filterMap created := by
        simp [only]
      obtain ⟨write, among, same⟩ := List.mem_filterMap.mp member
      cases write with
      | createMessage row =>
          have sameConversation : row.conversationId = message.conversationId :=
            congrArg Prod.snd (Option.some.inj same)
          exact sameConversation ▸ relayable row among
      | _ => cases same

/-- Each call of a session keeps the relation. -/
theorem sends_of_mem (session : Session supplied ChatSend.proc start sendings) {sending : Sending}
    (member : sending ∈ sendings) : Sends sending.call sending.result sending.writes := by
  obtain ⟨first, rest, split⟩ := List.append_of_mem member
  have wrote := session.wrote split
  exact Ledger.of_wrote (proc_sends sending.call) wrote

/-- In every sequential run of sends, what is relayed to the rooms of the conversations is what
is stored exactly if each message that is stored is sent over a socket whose client spells the
conversation as the store does. -/
theorem relayed_eq_stored_iff (session : Session supplied ChatSend.proc start sendings) :
    relayed sendings = stored sendings ↔ ∀ sending ∈ sendings, Relayable sending := by
  have atMost : ∀ sending ∈ sendings, relayedBy sending ≤ storedBy sending :=
    fun sending member => (sends_of_mem session member).relayedBy_le
  rw [stored_eq_sum, relayed_eq_sum]
  constructor
  · intro same sending member
    rw [← (sends_of_mem session member).relayedBy_eq_iff]
    by_contra different
    have less := List.sum_lt_sum relayedBy storedBy atMost
      ⟨sending, member, lt_of_le_of_ne (atMost sending member) different⟩
    exact less.ne same
  · intro relayable
    have same : sendings.map relayedBy = sendings.map storedBy :=
      List.map_congr_left fun sending member =>
        (sends_of_mem session member).relayedBy_eq_iff.mpr (relayable sending member)
    rw [same]

end Runs

/-! ### A message over REST -/

namespace Unrelayed

local instance : UuidSpelling := unarySpelling

/-- A conversation of an owner with a driver, and a device of each. -/
def db : Db where
  drivers := Table.empty.insert { id := 7, userId := 8 }
  conversations := Table.empty.insert { id := 10, ownerId := 1, driverId := 7 }
  devices := (Table.empty.insert { id := 2, userId := 1 }).insert { id := 21, userId := 8 }

def dto : SendMessageDto where
  recipientDeviceId := 21
  ciphertextBlob := "blob"

def user : Auth.AuthUser where
  id := 1
  username := "d"
  role := "OWNER"
  organizationId := none
  permissions := []
  deviceId := spelled 2
  sessionId := spelled 3
  driverId := none

def data : AuthenticatedSocketData where
  userId := spelled 1
  username := "d"
  role := "OWNER"
  organizationId := none
  permissions := []
  deviceId := spelled 2
  sessionId := spelled 3
  accessTokenExp := 900
  driverId := none
  connectedAt := 0

def overSocket : List ChatSend :=
  [.socket true data { dto with conversationId := UuidSpelling.text 10 }]

def overRest : List ChatSend := [.rest 10 dto user]

def inputs : Nat → Nat → Input := fun _ _ => { uuid := 30 }

/-- The sends one after another. -/
def sendings (calls : List ChatSend) : List Sending := conduct ChatSend.proc inputs db calls

/-- The calls run one after the other. -/
theorem session (calls : List ChatSend) :
    Session (fun _ => True) ChatSend.proc db (sendings calls) :=
  session_conduct ChatSend.proc inputs (fun _ _ => trivial) db calls

/-- The equivalence at a send over the socket. -/
theorem relayed_eq_stored_iff_socket :
    relayed (sendings overSocket) = stored (sendings overSocket) ↔
      ∀ sending ∈ sendings overSocket, Relayable sending :=
  relayed_eq_stored_iff (session overSocket)

/-- The message is stored, and relayed to nobody. -/
theorem not_relayed :
    ¬∀ (start : Db) (sendings : List Sending), Session (fun _ => True) ChatSend.proc start sendings →
      relayed sendings = stored sendings := by
  intro always
  have same := always db (sendings overRest) (session overRest)
  have one : stored (sendings overRest) = {(30, 10)} := by rfl
  have nothing : relayed (sendings overRest) = 0 := by rfl
  rw [one, nothing] at same
  exact Multiset.zero_ne_singleton _ same

end Unrelayed

end Armada.ChatRelay
