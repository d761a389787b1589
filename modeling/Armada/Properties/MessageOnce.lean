import Armada.Calls
import Armada.Concurrency.LateRecord
import Armada.Conversations.MessagesService

/-!
# Messages that are sent again

`sendMessage` looks for the record of its key, inserts the message and saves the record, one
after the other and under a key that names the endpoint. So calls over one endpoint store a
message once if each looks only when those that have looked before have saved their record.
-/

namespace Armada

open Relational Concurrency

/-- A call of `sendMessage`: who sends, and over which channel. -/
structure MessageCall where
  actor : UserActor
  channel : MessageChannel

namespace MessageCall

/-- Calls for one conversation and with one body that start together. -/
def pool (conversationId : Uuid) (dto : SendMessageDto) (calls : List MessageCall) (db : Db) :
    Pool store Reply where
  state := db
  procs := calls.map fun call =>
    MessagesService.sendMessage conversationId dto call.actor call.channel

/-- The record of a key of a user, for a channel. -/
def recordKey (key user : Uuid) (channel : MessageChannel) : IdempotencyKey :=
  ⟨key, user, channel.endpoint⟩

/-- The turn inserts a message, which is the body of the answer. -/
def Inserts (turn : Concurrency.Turn store) (body : ResponseBody) : Prop :=
  ∃ row, .createMessage row ∈ turn.writes ∧ body = .message row

/-- The turn looks for the record of the key. -/
def Looks (key user : Uuid) (channel : MessageChannel) (turn : Concurrency.Turn store) : Prop :=
  turn.Performs (Prisma.IdempotencyRecord.findUnique (recordKey key user channel))

/-- The turn saves a record. -/
def Saves (turn : Concurrency.Turn store) : Prop := ∃ row, .createRecord row ∈ turn.writes

/-- To insert a message is the work of the calls; the record of a key of a user for a channel
holds the result of those that use it. -/
def record (key user : Uuid) (channel : MessageChannel) : LateRecord store ResponseBody where
  works := Inserts
  looks := Looks key user channel
  found turn := turn.before.record? (recordKey key user channel) ≠ none
  saves := Saves
  recorded db := db.record? (recordKey key user channel) ≠ none
  stored db body := ∃ found,
    db.record? (recordKey key user channel) = some found ∧ found.responseBody = body

/-- At most one message is inserted, and every answer carries it. -/
def StoredOnce (trace : List (Concurrency.Turn store)) (final : Pool store Reply) : Prop :=
  Once (fun turn => ∃ body, Inserts turn body) trace ∧
    ∀ (thread : Nat) process reply, final.procs[thread]? = some process →
      process.finished = some (.ok reply) → ∃ turn ∈ trace, ∃ body, Inserts turn body ∧
        Reply.body reply = body

variable {key user : Uuid} {channel : MessageChannel} {supplied : Concurrency.Turn store → Prop}
    {thread : Nat}

/-- A turn that writes nothing. -/
def Idle (turn : Concurrency.Turn store) : Prop := turn.writes = []

/-- An idle turn does not insert. -/
theorem Idle.not_works {turn : Concurrency.Turn store} (idle : Idle turn) :
    ¬(record key user channel).Works turn := by
  rintro ⟨_, row, member, _⟩
  exact List.ne_nil_of_mem member idle

/-- An idle turn needs no guard. -/
theorem guards_of_idle (history : List (Concurrency.Turn store)) (turn : Concurrency.Turn store)
    (idle : Idle turn) :
    (record key user channel).Guards history turn := by
  refine LateRecord.Guards.of_idle idle ?_ ?_
  · rintro _ ⟨row, member, _⟩
    exact List.ne_nil_of_mem member
  · rintro ⟨row, member⟩
    exact List.ne_nil_of_mem member

section Parts

variable {guar : List (Concurrency.Turn store) → Concurrency.Turn store → Prop}
  (quiet : ∀ history turn, Idle turn → guar history turn)

include quiet

/-- The access check commits under every guard. -/
theorem verifyConversationAccess_commits (conversationId : Uuid) (actor : UserActor) :
    (ConversationsService.verifyConversationAccess conversationId actor).Commits
      (.turns supplied thread guar) := by
  have reads : (liftM (Prisma.Conversation.findUnique conversationId) :
      Proc store _).Commits (.turns supplied thread guar) :=
    Proc.Commits.reads quiet fun _ _ _ _ executed =>
      (Prisma.Conversation.findUnique_succeeds.mp executed).2.2
  refine reads.bind fun found => (Proc.Commits.require _ _).bind fun conversation => ?_
  exact (Proc.Commits.rejectIf _ _).bind fun _ => Proc.Commits.pure _

/-- So does the look for the device. -/
theorem findDevice_commits (deviceId : Uuid) :
    (liftM (Prisma.Device.findUnique deviceId) : Proc store _).Commits
      (.turns supplied thread guar) :=
  Proc.Commits.reads quiet fun _ _ _ _ executed =>
    (Prisma.Device.findUnique_succeeds.mp executed).2.2

/-- So does the rate limit. -/
theorem enforceSendRateLimit_commits (userId : Uuid) :
    (MessagesService.enforceSendRateLimit userId).Commits
      (.turns supplied thread guar) := by
  have reads : (liftM (RedisService.incrRateLimit s!"throttle:chat:send:{userId}" 1) :
      Proc store _).Commits (.turns supplied thread guar) :=
    Proc.Commits.reads quiet fun _ _ _ _ executed =>
      (RedisService.incrRateLimit_succeeds.mp executed).2
  exact reads.bind fun _ => Proc.Commits.rejectIf _ _

end Parts

/-- A message is inserted after a lookup that missed. -/
theorem guards_create {history : List (Concurrency.Turn store)} {turn : Concurrency.Turn store}
    {message : Message}
    (created : turn.writes = [.createMessage message])
    (none : ∀ earlier ∈ history, ¬(record key user channel).Works earlier)
    (missed : ∃ lookup ∈ history, (record key user channel).looks lookup ∧
      ¬(record key user channel).found lookup) :
    (record key user channel).Guards history turn where
  works _ := ⟨none, missed⟩
  saves saved := by
    obtain ⟨row, member⟩ := saved
    simp [created] at member
  stores result stored := by
    obtain ⟨found, placed, rfl⟩ := stored
    rw [Concurrency.Turn.after, created] at placed
    exact .inl ⟨found, placed, rfl⟩

/-- The creation of the record guards the key. -/
theorem guards_saveRecord {history : List (Concurrency.Turn store)} {turn : Concurrency.Turn store}
    {message : Message}
    {saved : IdempotencyRecord} (created : turn.writes = [.createRecord saved])
    (own : saved.keyUserEndpoint = recordKey key user channel)
    (body : saved.responseBody = .message message)
    (done : ∃ work ∈ history, .createMessage message ∈ work.writes) :
    (record key user channel).Guards history turn where
  works worked := by
    obtain ⟨_, row, member, _⟩ := worked
    simp [created] at member
  saves _ := by
    rw [Concurrency.Turn.after, created]
    change ((Write.createRecord saved).apply turn.before).record? _ ≠ none
    rw [Write.record?_apply, Write.onRecord, if_pos own]
    cases turn.before.record? (recordKey key user channel) <;> simp
  stores result stored := by
    obtain ⟨found, placed, rfl⟩ := stored
    obtain ⟨work, member, inserted⟩ := done
    rw [Concurrency.Turn.after, created] at placed
    change ((Write.createRecord saved).apply turn.before).record? _ = some found at placed
    rw [Write.record?_apply, Write.onRecord] at placed
    cases before : turn.before.record? (recordKey key user channel) with
    | some old =>
        rw [before, Option.some_or, Option.some.injEq] at placed
        exact .inl ⟨old, before, by rw [placed]⟩
    | none =>
        rw [before, Option.none_or, if_pos own] at placed
        obtain rfl := Option.some.inj placed
        exact .inr ⟨work, member, message, inserted, body⟩

/-- The record is saved after its message. -/
theorem saveRecord_meets {message : Message} {history : List (Concurrency.Turn store)}
    (done : ∃ work ∈ history, .createMessage message ∈ work.writes) :
    (MessagesService.saveRecord (some (recordKey key user channel)) message).Meets
      (.turns supplied thread (record key user channel).Guards)
      (fun _ current => ∃ work ∈ current, .createMessage message ∈ work.writes) history := by
  obtain ⟨work, member, inserted⟩ := done
  rw [MessagesService.saveRecord]
  refine Proc.Meets.tryCatch
    (Q := fun _ current => ∃ work ∈ current, .createMessage message ∈ work.writes)
    (Proc.Meets.call (fun inputs before error _ failure => ?_)
      fun inputs before answer writes _ executed => ?_)
    (fun _ _ lasting => lasting) fun _ _ lasting => (Proc.meets_pure _ _).mpr lasting
  · exact ⟨guards_of_idle _ _ (Concurrency.Turn.writes_of_error failure),
      work, List.mem_append_left _ member, inserted⟩
  · obtain ⟨_, _, created⟩ := Prisma.IdempotencyRecord.create_succeeds.mp executed
    have wrote := Concurrency.Turn.writes_of_succeeds thread executed
    exact ⟨guards_saveRecord (wrote.trans created) rfl rfl
      ⟨work, member, inserted⟩, work, List.mem_append_left _ member, inserted⟩

/-- A call with the key keeps to the protocol of a record that is saved afterwards. -/
theorem sendMessage_meets (conversationId : Uuid) {dto : SendMessageDto}
    (keyed : dto.idempotencyKey = some key) {actor : UserActor} (sender : actor.userId = user)
    (channel : MessageChannel) :
    (MessagesService.sendMessage conversationId dto actor channel).Meets
      (.turns supplied thread (record key user channel).Guards)
      ((record key user channel).Post fun reply body => reply.body = body) [] := by
  have failed : ∀ error current, (record key user channel).Post
      (fun reply body => Reply.body reply = body) (.error error) current :=
    fun _ _ => trivial
  have ours : MessagesService.recordKey channel actor dto.idempotencyKey =
      some (recordKey key user channel) := by
    rw [MessagesService.recordKey, keyed, sender]
    rfl
  have quiet : ∀ (history : List (Concurrency.Turn store)) turn, Idle turn → Idle turn :=
    fun _ _ idle => idle
  rw [MessagesService.sendMessage]
  -- up to the lookup nothing is written
  refine (verifyConversationAccess_commits quiet _ _).nextly guards_of_idle failed
    (fun _ _ _ sofar => ?_) (List.forall_mem_nil _)
  refine (Proc.Commits.require _ _).nextly guards_of_idle failed (fun deviceId _ _ sofar => ?_)
    sofar
  refine (findDevice_commits quiet _).nextly guards_of_idle failed
    (fun senderDevice _ _ sofar => ?_) sofar
  refine (Proc.Commits.rejectIf _ _).nextly guards_of_idle failed (fun _ _ _ sofar => ?_) sofar
  refine (findDevice_commits quiet _).nextly guards_of_idle failed
    (fun recipientDevice _ _ sofar => ?_) sofar
  refine (Proc.Commits.rejectIf _ _).nextly guards_of_idle failed (fun _ _ _ sofar => ?_) sofar
  refine (enforceSendRateLimit_commits quiet _).nextly guards_of_idle failed
    (fun _ current _ sofar => ?_) sofar
  dsimp only
  rw [ours, Idempotency.stored, Proc.meets_bind]
  refine Proc.Meets.next (fun inputs before error _ failure => ?_)
    fun lookupInputs lookedAt found writes _ executed => ?_
  · exact ⟨guards_of_idle _ _ (Concurrency.Turn.writes_of_error failure), trivial⟩
  obtain ⟨_, looked, rfl⟩ := Prisma.IdempotencyRecord.findUnique_succeeds.mp executed
  have idle := Concurrency.Turn.writes_of_succeeds thread executed
  refine ⟨guards_of_idle _ _ idle, ?_⟩
  cases found with
  | some earlier =>
      refine ⟨earlier.responseBody, rfl, .inr ⟨_, List.mem_append_right _ List.mem_cons_self, ?_⟩⟩
      exact ⟨earlier, looked, rfl⟩
  | none =>
      have none : ∀ earlier ∈ current ++ [⟨thread, .call
          (Prisma.IdempotencyRecord.findUnique (recordKey key user channel)), lookupInputs,
            lookedAt⟩], ¬(record key user channel).Works earlier :=
        List.forall_mem_append.mpr ⟨fun earlier member => (sofar earlier member).not_works,
          List.forall_mem_singleton.mpr (Idle.not_works idle)⟩
      refine Proc.Meets.next (fun inputs before error _ failure => ?_)
        fun inputs before message writes _ executed => ?_
      · exact ⟨guards_of_idle _ _ (Concurrency.Turn.writes_of_error failure), trivial⟩
      obtain ⟨_, _, _, rfl⟩ := Prisma.Message.create_succeeds executed
      have inserted := Concurrency.Turn.writes_of_succeeds thread executed
      refine ⟨guards_create inserted none
        ⟨_, List.mem_append_right _ List.mem_cons_self, rfl, fun found => found looked⟩, ?_⟩
      refine (saveRecord_meets ⟨_, List.mem_append_right _ List.mem_cons_self, ?_⟩).bind
        (fun _ _ _ => trivial) fun _ final lasting => ?_
      · rw [inserted]
        exact List.mem_cons_self
      · obtain ⟨work, member, worked⟩ := lasting
        exact ⟨.message message, rfl, .inl ⟨work, member, message, worked, rfl⟩⟩

end MessageCall

open MessageCall

/-- A record stays. -/
theorem record?_after {turn : Concurrency.Turn store} {key : IdempotencyKey}
    (recorded : turn.before.record? key ≠ none) : turn.after.record? key ≠ none := by
  change (Db.commit turn.before turn.writes).record? key ≠ none
  rw [Db.record?_commit]
  generalize turn.before.record? key = found at recorded
  induction turn.writes generalizing found with
  | nil => exact recorded
  | cons write writes inductionHypothesis =>
      refine inductionHypothesis _ ?_
      obtain ⟨row, rfl⟩ := Option.ne_none_iff_exists'.mp recorded
      cases write with
      | updateRecord other data =>
          simp only [Write.onRecord]
          split <;> simp
      | _ => simp [Write.onRecord]

/-- Of any calls with a key of a user over one channel, in any order of their steps, at most
one inserts a message and all successful ones answer with it, if every call that looks for the
record finds those that have looked before it done: they have saved the record of the message
that they have inserted, or insert none. -/
theorem messages_once_of_awaited {conversationId : Uuid} {dto : SendMessageDto} {key user : Uuid}
    {channel : MessageChannel} (keyed : dto.idempotencyKey = some key) {calls : List MessageCall}
    (sender : ∀ call ∈ calls, call.actor.userId = user)
    (oneChannel : ∀ call ∈ calls, call.channel = channel) {db : Db}
    (unrecorded : db.record? (recordKey key user channel) = none)
    {trace : List (Concurrency.Turn store)} {final : Pool store Reply}
    (turns : (pool conversationId dto calls db).Turns trace final)
    (awaited : Awaited (fun turn => ∃ body, Inserts turn body) (Looks key user channel) Saves
      trace) : StoredOnce trace final := by
  have anything : ∀ turn ∈ trace, True := fun _ _ => trivial
  refine LateRecord.once_answered_of_awaited (record key user channel) turns anything
    ?_ ?_ (fun turn _ recorded => record?_after recorded) (fun turn _ _ recorded =>
      recorded) awaited
  · rintro _ ⟨found, placed, _⟩
    cases placed.symm.trans unrecorded
  · intro thread process found
    simp only [pool, List.getElem?_map, Option.map_eq_some_iff] at found
    obtain ⟨call, among, rfl⟩ := found
    have member := List.mem_of_getElem? among
    rw [oneChannel call member]
    exact sendMessage_meets conversationId keyed (sender call member) channel

/-! ### A message that is sent again -/

/-- The owner of the conversation and two devices. -/
def chatDb : Db where
  conversations := Table.empty.insert { id := 10, ownerId := 1, driverId := 2 }
  devices := (Table.empty.insert { id := 20, userId := 1 }).insert { id := 21, userId := 3 }

def chatDto : SendMessageDto where
  recipientDeviceId := 21
  ciphertextBlob := "blob"
  idempotencyKey := some 99

def chatActor : UserActor where
  userId := 1
  role := .owner
  deviceId := some 20

/-- The turns of a call from its beginning to its end. -/
def chatTurns (thread : Nat) (uuid : Uuid) : List (Nat × (Nat → Input)) :=
  List.replicate 7 (thread, fun _ => { uuid })

/-- The turns of the chat are those of its thread. -/
theorem thread_of_chatTurns {thread : Nat} {uuid : Uuid} {pool : Pool store Reply}
    {turn : Concurrency.Turn store} (member : turn ∈ (pool.perform (chatTurns thread uuid)).1) :
    turn.thread = thread :=
  congrArg Prod.fst (List.eq_of_mem_replicate (Pool.mem_perform member))

def retriedCalls : List MessageCall := [⟨chatActor, .rest⟩, ⟨chatActor, .rest⟩]

/-- The first of the calls runs. -/
def firstRun : List (Concurrency.Turn store) × Pool store Reply :=
  (pool 10 chatDto retriedCalls chatDb).perform (chatTurns 0 30)

/-- Then the second. -/
def retryRun : List (Concurrency.Turn store) × Pool store Reply :=
  firstRun.2.perform (chatTurns 1 31)

/-- The retry is a run. -/
theorem retry_turns :
    (pool 10 chatDto retriedCalls chatDb).Turns (firstRun.1 ++ retryRun.1) retryRun.2 := by
  have one := Pool.perform_turns (chatTurns 0 30) (pool 10 chatDto retriedCalls chatDb)
  have two := Pool.perform_turns (chatTurns 1 31) firstRun.2
  exact one.trans two

/-- The retry comes after the record of the first call. -/
theorem retry_awaited :
    Awaited (fun turn => ∃ body, Inserts turn body) (Looks 99 1 .rest) Saves
      (firstRun.1 ++ retryRun.1) := by
  have own : ∀ turn ∈ firstRun.1, turn.thread = 0 := fun turn => thread_of_chatTurns
  have ownAgain : ∀ turn ∈ retryRun.1, turn.thread = 1 := fun turn => thread_of_chatTurns
  obtain ⟨save, found, saves⟩ : ∃ save, firstRun.1[6]? = some save ∧ Saves save :=
    ⟨_, rfl, _, List.mem_cons_self⟩
  refine (awaited_of_thread own).append (awaited_of_thread ownAgain) ?_ fun work member _ => ?_
  · intro turn member later memberToo
    rw [own turn member, ownAgain later memberToo]
    decide
  · have among := List.mem_of_getElem? found
    exact ⟨save, among, (own save among).trans (own work member).symm, saves⟩

/-- A message is sent, and sent again when the answer is lost: it is stored once, and the second
answer is the one on record. -/
theorem messages_once_of_awaited_of_retry :
    StoredOnce (firstRun.1 ++ retryRun.1) retryRun.2 ∧
      ∃ process message, retryRun.2.procs[1]? = some process ∧
        process.finished = some (.ok (.replayed (.message message))) ∧ message.id = 30 := by
  have keyed : chatDto.idempotencyKey = some 99 := rfl
  have sender : ∀ call ∈ retriedCalls, call.actor.userId = 1 := by simp [retriedCalls, chatActor]
  have oneChannel : ∀ call ∈ retriedCalls, call.channel = .rest := by simp [retriedCalls]
  refine ⟨messages_once_of_awaited keyed sender oneChannel rfl retry_turns retry_awaited, ?_⟩
  exact ⟨_, _, rfl, rfl, rfl⟩

/-- A message that is sent over REST and again over the socket is stored twice. -/
theorem messages_not_once :
    ¬∀ (conversationId : Uuid) (dto : SendMessageDto) (key user : Uuid) (calls : List MessageCall)
        (db : Db) (trace : List (Concurrency.Turn store)) (final : Pool store Reply),
      dto.idempotencyKey = some key → (∀ call ∈ calls, call.actor.userId = user) →
        (∀ channel, db.record? (recordKey key user channel) = none) →
          (pool conversationId dto calls db).Turns trace final → StoredOnce trace final := by
  intro claimed
  have once := (claimed 10 chatDto 99 1 [⟨chatActor, .rest⟩, ⟨chatActor, .socket⟩] chatDb _ _ rfl
    (by simp [chatActor]) (fun _ => rfl)
    (Pool.perform_turns (chatTurns 0 30 ++ chatTurns 1 31) _)).1
  have same : 5 = 12 := once.eq_of_works rfl rfl ⟨_, _, List.mem_cons_self, rfl⟩
    ⟨_, _, List.mem_cons_self, rfl⟩
  cases same

end Armada
