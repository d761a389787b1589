import Armada.Conversations.ConversationsController
import Armada.Elsewhere
import Armada.Footprint
import Armada.Properties.ValidatorAgreement
import Armada.Relational.Preserved

/-!
# Messages and the participants of their conversation

`sendMessage` checks the sender against the conversation and authentication ties the sender
to the device, but the recipient's device is only looked up. So the messages of a run stay
within their conversations exactly if those who send name a device of another participant.
-/

namespace Armada.MessageParticipants

open Relational Concurrency

/-! ## What lasts -/

/-- A message and what receipts make of it. -/
structure SameMessage (row current : Message) : Prop where
  id : current.id = row.id
  conversationId : current.conversationId = row.conversationId
  senderUserId : current.senderUserId = row.senderUserId
  senderDeviceId : current.senderDeviceId = row.senderDeviceId
  recipientDeviceId : current.recipientDeviceId = row.recipientDeviceId

/-- A message is the same as itself. -/
theorem SameMessage.refl (row : Message) : SameMessage row row := ⟨rfl, rfl, rfl, rfl, rfl⟩

/-- Sameness is transitive. -/
theorem SameMessage.trans {first second third : Message} (prior : SameMessage first second)
    (suffix : SameMessage second third) : SameMessage first third where
  id := suffix.id.trans prior.id
  conversationId := suffix.conversationId.trans prior.conversationId
  senderUserId := suffix.senderUserId.trans prior.senderUserId
  senderDeviceId := suffix.senderDeviceId.trans prior.senderDeviceId
  recipientDeviceId := suffix.recipientDeviceId.trans prior.recipientDeviceId

/-- The device has the user it had. -/
def SameUser (row current : Device) : Prop := current.userId = row.userId

/-- A device has its own user. -/
theorem SameUser.refl (row : Device) : SameUser row row := rfl

/-- This is transitive. -/
theorem SameUser.trans {first second third : Device} (prior : SameUser first second)
    (suffix : SameUser second third) : SameUser first third :=
  Eq.trans suffix prior

/-- Nothing is taken back: conversations and drivers stay as they are, devices stay with
their users, and messages keep what they were sent with. -/
structure Extends (before after : Db) : Prop where
  conversations : Preserved Eq before.conversations after.conversations
  devices : Preserved SameUser before.devices after.devices
  drivers : after.drivers = before.drivers
  messages : Preserved SameMessage before.messages after.messages

namespace Extends

variable {before middle after : Db}

/-- Every state extends itself. -/
theorem refl (db : Db) : Extends db db where
  conversations := .refl fun _ => rfl
  devices := .refl SameUser.refl
  drivers := rfl
  messages := .refl SameMessage.refl

/-- Extension is transitive. -/
theorem trans (prior : Extends before middle) (suffix : Extends middle after) :
    Extends before after where
  conversations := prior.conversations.trans Eq.trans suffix.conversations
  devices := prior.devices.trans SameUser.trans suffix.devices
  drivers := suffix.drivers.trans prior.drivers
  messages := prior.messages.trans SameMessage.trans suffix.messages

/-- A change elsewhere extends. -/
theorem elsewhere (changed : Elsewhere before after) : Extends before after := by
  obtain ⟨conversations, devices, drivers, messages⟩ := refl before
  cases changed with
  | createDevice row => exact ⟨conversations, .insert SameUser.refl row, drivers, messages⟩
  | updateDevice id status =>
      exact ⟨conversations, .modify SameUser.refl id (fun _ => rfl) fun _ => rfl, drivers, messages⟩
  | createConversation row => exact ⟨.insert (fun _ => rfl) row, devices, drivers, messages⟩
  | updateMessage id deliveredAt readAt =>
      exact ⟨conversations, devices, drivers,
        .modify SameMessage.refl id (fun _ => rfl) fun _ => ⟨rfl, rfl, rfl, rfl, rfl⟩⟩
  | createFile row => exact ⟨conversations, devices, drivers, messages⟩

/-- A write extends. -/
theorem apply (write : Write) (db : Db) : Extends db (write.apply db) := by
  obtain ⟨conversations, devices, drivers, messages⟩ := refl db
  cases write with
  | createMessage row => exact ⟨conversations, devices, drivers, .insert SameMessage.refl row⟩
  | _ => exact ⟨conversations, devices, drivers, messages⟩

/-- So do writes. -/
theorem commit (writes : List Write) (db : Db) : Extends db (db.commit writes) := by
  induction writes generalizing db with
  | nil => exact refl db
  | cons write writes inductionHypothesis =>
      exact (apply write db).trans (inductionHypothesis (write.apply db))

end Extends

/-- A message of the rest of the system is an old one. -/
theorem elsewhere_message {before after : Db} {message : Message}
    (changed : Elsewhere before after) (member : message ∈ after.messages.rows) :
    ∃ old ∈ before.messages.rows, SameMessage old message := by
  cases changed with
  | updateMessage id deliveredAt readAt =>
      have keyed : ∀ row : Message,
          Keyed.key ({ row with deliveredAt, readAt } : Message) = Keyed.key row := fun _ => rfl
      obtain ⟨old, inBefore, rfl⟩ := (Table.mem_modify keyed).mp member
      refine ⟨old, inBefore, ?_⟩
      split
      · exact ⟨rfl, rfl, rfl, rfl, rfl⟩
      · exact .refl old
  | _ => exact ⟨message, member, .refl message⟩

/-- The messages after a commit are those before it and those it creates. -/
theorem mem_commit_messages {writes : List Write} {db : Db} {message : Message}
    (member : message ∈ (db.commit writes).messages.rows) :
    message ∈ db.messages.rows ∨ .createMessage message ∈ writes := by
  induction writes generalizing db with
  | nil => exact .inl member
  | cons write writes inductionHypothesis =>
      rw [Db.commit_cons] at member
      rcases inductionHypothesis member with earlier | later
      · cases write with
        | createMessage row =>
            rcases Table.mem_of_mem_insert earlier with old | rfl
            · exact .inl old
            · exact .inr List.mem_cons_self
        | _ => exact .inl earlier
      · exact .inr (List.mem_cons_of_mem _ later)

/-! ## Participants -/

/-- The user is the owner or the driver of the conversation. -/
def Participant (db : Db) (conversation : Conversation) (userId : Uuid) : Prop :=
  conversation.ownerId = userId ∨
    ∃ driver, db.drivers.find? conversation.driverId = some driver ∧ driver.userId = userId

/-- The device is one of the user. -/
def OwnDevice (db : Db) (userId deviceId : Uuid) : Prop :=
  ∃ device, db.devices.find? deviceId = some device ∧ device.userId = userId

/-- The device is one of a participant other than the sender. -/
def ReachesOther (db : Db) (conversation : Conversation) (sender deviceId : Uuid) : Prop :=
  ∃ userId, userId ≠ sender ∧ Participant db conversation userId ∧ OwnDevice db userId deviceId

section Lasting

variable {before after : Db} (growth : Extends before after) {conversation : Conversation}
  {userId deviceId sender : Uuid}

include growth

/-- Who takes part does not change. -/
theorem participant_iff :
    Participant after conversation userId ↔ Participant before conversation userId := by
  rw [Participant, Participant, growth.drivers]

/-- A user's own device stays the user's own. -/
theorem OwnDevice.later (own : OwnDevice before userId deviceId) : OwnDevice after userId deviceId := by
  obtain ⟨device, found, rfl⟩ := own
  obtain ⟨current, foundAfter, same⟩ := growth.devices deviceId device found
  exact ⟨current, foundAfter, same⟩

/-- A device that was there has been with its user all along. -/
theorem OwnDevice.earlier (own : OwnDevice after userId deviceId)
    (present : (before.devices.find? deviceId).isSome) : OwnDevice before userId deviceId := by
  obtain ⟨device, found⟩ := Option.isSome_iff_exists.mp present
  obtain ⟨current, foundAfter, same⟩ := growth.devices deviceId device found
  obtain ⟨_, foundToo, rfl⟩ := own
  obtain rfl := Option.some.inj (foundAfter.symm.trans foundToo)
  exact ⟨device, found, same.symm⟩

/-- Whether a device reaches the other side does not change. -/
theorem reachesOther_iff (present : (before.devices.find? deviceId).isSome) :
    ReachesOther after conversation sender deviceId ↔
      ReachesOther before conversation sender deviceId := by
  constructor
  · rintro ⟨userId, other, participant, own⟩
    exact ⟨userId, other, (participant_iff growth).mp participant, own.earlier growth present⟩
  · rintro ⟨userId, other, participant, own⟩
    exact ⟨userId, other, (participant_iff growth).mpr participant, own.later growth⟩

end Lasting

/-! ## What sending a message establishes -/

/-- The conversation has been looked up, and the actor may use it. -/
def Accessed (conversationId : Uuid) (actor : UserActor)
    (history : List (Concurrency.Turn store)) : Prop :=
  ∃ lookup ∈ history, ∃ conversation,
    lookup.before.conversations.find? conversationId = some conversation ∧
      (actor.role = .admin ∨ actor.role = .superAdmin ∨ conversation.ownerId = actor.userId ∨
        actor.driverId = some conversation.driverId)

/-- The device has been looked up, and found. -/
def Found (deviceId : Uuid) (history : List (Concurrency.Turn store)) : Prop :=
  ∃ lookup ∈ history, (lookup.before.devices.find? deviceId).isSome

/-- What `sendMessage` has found out by the time it stores a message. -/
structure Prepared (conversationId : Uuid) (dto : SendMessageDto) (actor : UserActor)
    (history : List (Concurrency.Turn store)) (row : Message) : Prop where
  conversation : row.conversationId = conversationId
  sender : row.senderUserId = actor.userId
  senderDevice : actor.deviceId = some row.senderDeviceId
  recipientDevice : row.recipientDeviceId = dto.recipientDeviceId
  accessed : Accessed conversationId actor history
  found : Found dto.recipientDeviceId history

/-- The write stores no message. -/
def Silent : Write → Prop
  | .createMessage _ => False
  | _ => True

instance : Permissive Silent where
  plain write plain := by
    cases write with
    | createMessage row => cases plain
    | _ => trivial

/-- A turn of a request stores no message, or one that it has prepared. -/
def Sends (request : Request) (history : List (Concurrency.Turn store))
    (turn : Concurrency.Turn store) : Prop :=
  ∀ row, .createMessage row ∈ turn.writes → turn.writes = [.createMessage row] ∧
    turn.before.messages.find? row.id = none ∧ ∃ conversationId dto actor channel,
      request = .sendMessage conversationId dto actor channel ∧
        Prepared conversationId dto actor history row

section Contract

variable {request : Request} {thread : Nat} {history later : List (Concurrency.Turn store)}
  {conversationId deviceId : Uuid} {actor : UserActor}

/-- Access that was verified stays so. -/
theorem Accessed.mono (accessed : Accessed conversationId actor history) (extended : history ⊆ later) :
    Accessed conversationId actor later := by
  obtain ⟨lookup, member, conversation, found, allowed⟩ := accessed
  exact ⟨lookup, extended member, conversation, found, allowed⟩

/-- A device that was found stays so. -/
theorem Found.mono (found : Found deviceId history) (extended : history ⊆ later) :
    Found deviceId later := by
  obtain ⟨lookup, member, present⟩ := found
  exact ⟨lookup, extended member, present⟩

/-- A silent turn sends nothing. -/
theorem sends_of_silent (history : List (Concurrency.Turn store)) (turn : Concurrency.Turn store)
    (silent : ∀ write ∈ turn.writes, Silent write) : Sends request history turn :=
  fun _ member => (silent _ member).elim

/-- An idle turn sends nothing. -/
theorem sends_of_idle (history : List (Concurrency.Turn store)) (turn : Concurrency.Turn store)
    (idle : turn.writes = []) : Sends request history turn := by
  apply sends_of_silent
  rw [idle]
  exact List.forall_mem_nil _

/-- A read sends nothing. -/
theorem sends_of_select {β : Type} {body : Db → Except PrismaError β} (turn : Concurrency.Turn store)
    (performs : turn.Performs (select body)) : Sends request history turn := by
  apply sends_of_idle
  rcases performs.ends with idle | ⟨value, executed⟩
  · exact idle
  · exact (select_succeeds.mp executed).2.2

/-- The check answers the conversation it has verified. -/
theorem verifyConversationAccess_meets (conversationId : Uuid) (actor : UserActor) :
    (ConversationsService.verifyConversationAccess conversationId actor).Meets
      (.turns (fun _ => True) thread (Sends request))
      (fun result current => result.isOk → Accessed conversationId actor current) history := by
  rw [ConversationsService.verifyConversationAccess]
  refine Proc.Meets.told sends_of_select (fun _ _ => nofun) fun found turn returned => ?_
  refine Proc.Meets.require (fun _ => nofun) fun conversation same => ?_
  refine Proc.Meets.rejectIf (fun _ => nofun) fun allowed => ?_
  rw [Proc.meets_pure]
  intro _
  obtain ⟨_, looked, _⟩ := Prisma.Conversation.findUnique_succeeds.mp returned.succeeds
  refine ⟨turn, List.mem_append_right _ List.mem_cons_self, conversation, looked.trans same, ?_⟩
  by_cases admin : actor.role = .admin <;> by_cases superAdmin : actor.role = .superAdmin <;>
    by_cases owner : conversation.ownerId = actor.userId <;> simp_all

/-- A usable device was found. -/
theorem usable_isSome {device : Option Device} (usable : ¬MessagesService.usable device = false) :
    device.isSome := by
  cases device with
  | none => exact absurd rfl usable
  | some row => rfl

/-- A message is created only after its checks. -/
theorem sendMessage_meets (conversationId : Uuid) (dto : SendMessageDto) (actor : UserActor)
    (channel : MessageChannel) (history : List (Concurrency.Turn store)) :
    (MessagesService.sendMessage conversationId dto actor channel).Meets
      (.turns (fun _ => True) thread (Sends (.sendMessage conversationId dto actor channel)))
      (fun _ _ => True) history := by
  have silent : ∀ {α : Type} {process : Proc store α}, process.Confined Silent → process.Commits
      (.turns (fun _ => True) thread (Sends (.sendMessage conversationId dto actor channel))) :=
    fun quiet => quiet.turns sends_of_silent
  rw [MessagesService.sendMessage]
  refine (verifyConversationAccess_meets conversationId actor).bind (fun _ _ _ => trivial)
    fun conversation past accessed => ?_
  have accessed : Accessed conversationId actor past := accessed rfl
  refine Proc.Meets.require (fun _ => trivial) fun deviceId device => ?_
  refine Proc.Meets.told sends_of_select (fun _ _ => trivial) fun senderDevice turn _ => ?_
  refine Proc.Meets.rejectIf (fun _ => trivial) fun _ => ?_
  refine Proc.Meets.told sends_of_select (fun _ _ => trivial) fun recipient lookup returned => ?_
  refine Proc.Meets.rejectIf (fun _ => trivial) fun usable => ?_
  obtain ⟨_, looked, _⟩ := Prisma.Device.findUnique_succeeds.mp returned.succeeds
  have found : Found dto.recipientDeviceId (past ++ [turn] ++ [lookup]) := by
    refine ⟨lookup, List.mem_append_right _ List.mem_cons_self, ?_⟩
    rw [looked]
    exact usable_isSome usable
  have accessed : Accessed conversationId actor (past ++ [turn] ++ [lookup]) :=
    accessed.mono fun _ member => List.mem_append_left _ (List.mem_append_left _ member)
  refine (silent (MessagesService.enforceSendRateLimit_confined _)).next (fun _ _ => trivial)
    fun _ limited counted => ?_
  refine (silent (Idempotency.stored_confined _)).next (fun _ _ => trivial) fun record now read => ?_
  have extended : past ++ [turn] ++ [lookup] ⊆ now := (counted.trans read).subset
  cases record with
  | some body => exact trivial
  | none =>
      refine Proc.Meets.next (fun inputs before error _ failure => ?_)
        fun inputs before message writes _ executed => ?_
      · exact ⟨sends_of_idle _ _ (Concurrency.Turn.writes_of_error failure), trivial⟩
      · obtain ⟨_, conversationId, fresh, rfl⟩ := Prisma.Message.create_succeeds executed
        obtain ⟨sender, senderDevice, recipientDevice⟩ := Prisma.Message.create_addresses executed
        have created := Concurrency.Turn.writes_of_succeeds thread executed
        refine ⟨fun row member => ?_, silent ?_ _⟩
        · rw [created] at member
          obtain rfl : row = message := by simpa using member
          exact ⟨created, fresh, _, _, _, _, rfl, conversationId, sender, senderDevice ▸ device,
            recipientDevice, accessed.mono extended, found.mono extended⟩
        · exact (MessagesService.saveRecord_confined _ _).bind fun _ => .pure _

/-- So it is in every request. -/
theorem proc_meets [UuidText] (request : Request) (thread : Nat) :
    request.proc.Meets (.turns (fun _ => True) thread (Sends request)) (fun _ _ => True) [] := by
  cases request with
  | sendMessage conversationId dto actor channel =>
      exact (sendMessage_meets conversationId dto actor channel []).bind (fun _ _ _ => trivial)
        fun _ _ _ => trivial
  | _ =>
      refine Proc.Confined.turns (Request.confined ?_) sends_of_silent []
      simp [Request.Permits, Silent]

end Contract

/-! ## Who sends -/

section Senders

/-- A sender has the device and the driver profile that it names. -/
structure Genuine (db : Db) (actor : UserActor) : Prop where
  device : ∀ id, actor.deviceId = some id → OwnDevice db actor.userId id
  driver : ∀ id, actor.driverId = some id →
    ∃ row, db.drivers.find? id = some row ∧ row.userId = actor.userId

/-- A genuine actor stays genuine. -/
theorem Genuine.later {before after : Db} {actor : UserActor} (genuine : Genuine before actor)
    (growth : Extends before after) : Genuine after actor where
  device id named := (genuine.device id named).later growth
  driver id named := by
    rw [growth.drivers]
    exact genuine.driver id named

/-- What authentication has read of the accounts is in the store. -/
structure Mirrored (accounts : Auth.Accounts) (db : Db) : Prop where
  devices : ∀ id device, accounts.device? id = some device → OwnDevice db device.userId id
  drivers : ∀ driver ∈ accounts.drivers, ∃ row, db.drivers.find? driver.id = some row ∧
    row.userId = driver.userId

variable [Auth.UuidSpelling] [Auth.JsonWebToken]

/-- The sender is the user of an access token, or that of a socket that such a token has
opened. -/
inductive Authenticated (db : Db) : UserActor → MessageChannel → Prop where
  | rest {config : Auth.JwtConfig} {token : String} {input : Auth.Input} {accounts : Auth.Accounts}
      {user : Auth.AuthUser} {role : Role} (mirrored : Mirrored accounts db)
      (accepted : Auth.Accepts (Auth.JwtStrategy.authenticate config token) input accounts user)
      (named : role.name = user.role) :
      Authenticated db (ConversationsController.extractActor user role) .rest
  | socket {config : Auth.JwtConfig} {handshake : Auth.Handshake} {input : Auth.Input}
      {accounts : Auth.Accounts} {data : Auth.AuthenticatedSocketData} {actor : UserActor}
      (mirrored : Mirrored accounts db)
      (accepted : Auth.Accepts (Auth.WsJwtAuthGuard.validateHandshake config handshake) input
        accounts data)
      (sender : RealtimeGateway.chatActor data = .ok actor) : Authenticated db actor .socket

omit [Auth.JsonWebToken] in
/-- An actor entitled by the accounts is genuine. -/
theorem genuine_of_entitled {accounts : Auth.Accounts} {db : Db} {now : Instant}
    {userId role deviceId sessionId : JsValue} {record : Auth.Prisma.UserRecord}
    (mirrored : Mirrored accounts db)
    (entitled : Auth.Entitled accounts now userId role deviceId sessionId record) {actor : UserActor}
    (user : actor.userId = record.user.id) (device : actor.deviceId = deviceId.toUuid.toOption)
    (driver : actor.driverId = record.driver.map Driver.id) : Genuine db actor := by
  obtain ⟨session, row, admits, sameUser, _⟩ := entitled.admitted
  constructor
  · intro id named
    rw [device, ← admits.sameDevice, Auth.toUuid_spelled] at named
    obtain rfl : session.deviceId = id := Option.some.inj named
    rw [user, ← sameUser, ← admits.owner]
    exact mirrored.devices _ row admits.foundDevice
  · intro id named
    rw [driver, Option.map_eq_some_iff] at named
    obtain ⟨profile, found, rfl⟩ := named
    have looked := entitled.recorded.2
    rw [found] at looked
    obtain ⟨current, present, same⟩ := mirrored.drivers profile (List.mem_of_find?_eq_some looked)
    have ofUser : profile.userId = record.user.id := by simpa using List.find?_some looked
    exact ⟨current, present, by rw [same, ofUser, user]⟩

/-- An authenticated actor is genuine. -/
theorem Authenticated.genuine {db : Db} {actor : UserActor} {channel : MessageChannel}
    (authenticated : Authenticated db actor channel) : Genuine db actor := by
  cases authenticated with
  | rest mirrored accepted _ =>
      obtain ⟨_, payload, _, _, record, entitled, rfl⟩ := Auth.accepts_http.mp accepted
      exact genuine_of_entitled mirrored entitled rfl rfl rfl
  | socket mirrored accepted sender =>
      obtain ⟨payload, _, passed⟩ := Auth.WsJwtAuthGuard.accepts_validateHandshake.mp accepted
      obtain ⟨_, _, _, _, record, entitled, exp, _, rfl⟩ :=
        Auth.WsJwtAuthGuard.accepts_validatePayload.mp passed
      simp only [RealtimeGateway.chatActor, Auth.WsJwtAuthGuard.dataOf, Auth.toUuid_spelled] at sender
      cases sender
      exact genuine_of_entitled mirrored entitled rfl rfl rfl

/-- Whoever sends a message is authenticated. -/
def Admits (db : Db) (request : Request) : Prop :=
  ∀ conversationId dto actor channel, request = .sendMessage conversationId dto actor channel →
    Authenticated db actor channel

end Senders

/-! ## Runs -/

/-- A turn of the system extends. -/
theorem turn_extends (turn : Concurrency.Turn store) : Extends turn.before turn.after :=
  Extends.commit turn.writes turn.before

section Runs

variable [Auth.UuidSpelling] [Auth.JsonWebToken] {start final : Db}
  {trace : List (Concurrency.Turn store)} {arrived : List (Request × Proc store Response)}

/-- The message was sent with the rights of an administrator. -/
def SentByAdministrator (trace : List (Concurrency.Turn store))
    (arrived : List (Request × Proc store Response)) (message : Message) : Prop :=
  ∃ turn ∈ trace, ∃ row conversationId dto actor channel, .createMessage row ∈ turn.writes ∧
    row.id = message.id ∧
    Service.MadeBy arrived turn (.sendMessage conversationId dto actor channel) ∧
    (actor.role = .admin ∨ actor.role = .superAdmin)

/-- The message stays within its conversation. -/
def Contained (trace : List (Concurrency.Turn store))
    (arrived : List (Request × Proc store Response)) (db : Db) (message : Message) : Prop :=
  ∃ conversation, db.conversations.find? message.conversationId = some conversation ∧
    (Participant db conversation message.senderUserId ∨ SentByAdministrator trace arrived message) ∧
    OwnDevice db message.senderUserId message.senderDeviceId ∧
    ReachesOther db conversation message.senderUserId message.recipientDeviceId

/-- If the turn stores a message, its request names a device of a participant other than the
sender. -/
def NamesOther (arrived : List (Request × Proc store Response)) (turn : Concurrency.Turn store) : Prop :=
  ∀ row conversationId dto actor channel, .createMessage row ∈ turn.writes →
    Service.MadeBy arrived turn (.sendMessage conversationId dto actor channel) →
    ∃ conversation, turn.before.conversations.find? conversationId = some conversation ∧
      ReachesOther turn.before conversation actor.userId dto.recipientDeviceId

/-- What is known of a message of a run. -/
structure Sent (arrived : List (Request × Proc store Response)) (db : Db)
    (turn : Concurrency.Turn store) (row : Message) (dto : SendMessageDto) (actor : UserActor)
    (conversation : Conversation) : Prop where
  made : ∃ channel,
    Service.MadeBy arrived turn (.sendMessage row.conversationId dto actor channel)
  sender : row.senderUserId = actor.userId
  senderDevice : actor.deviceId = some row.senderDeviceId
  recipientDevice : row.recipientDeviceId = dto.recipientDeviceId
  found : turn.before.conversations.find? row.conversationId = some conversation
  allowed : actor.role = .admin ∨ actor.role = .superAdmin ∨ conversation.ownerId = actor.userId ∨
    actor.driverId = some conversation.driverId
  present : (turn.before.devices.find? row.recipientDeviceId).isSome
  stored : turn.after.messages.find? row.id = some row
  genuine : Genuine db actor
  later : Extends turn.after db

omit [Auth.UuidSpelling] [Auth.JsonWebToken] in
/-- The database has grown since a message was sent. -/
theorem Sent.growth {turn : Concurrency.Turn store} {row : Message} {dto : SendMessageDto}
    {actor : UserActor} {conversation : Conversation}
    (sent : Sent arrived final turn row dto actor conversation) : Extends turn.before final :=
  (turn_extends turn).trans sent.later

/-- The database grows over a run. -/
theorem onwards (runs : (Request.service Admits).Runs start trace final arrived) :
    (∀ turn ∈ trace, Extends turn.after final) ∧
      ∀ request ∈ arrived.map Prod.fst, ∃ db, Admits db request ∧ Extends db final :=
  runs.onwards Extends.refl Extends.trans Extends.elsewhere fun turn _ => turn_extends turn

/-- A created message was sent by a request. -/
theorem sent_of_turn (runs : (Request.service Admits).Runs start trace final arrived)
    {turn : Concurrency.Turn store} (member : turn ∈ trace) {row : Message}
    (created : .createMessage row ∈ turn.writes) :
    ∃ dto actor conversation, Sent arrived final turn row dto actor conversation := by
  obtain ⟨first, rest, split⟩ := List.append_of_mem member
  obtain ⟨request, made, sends⟩ :=
    runs.own (fun _ request thread _ => proc_meets request thread) first turn rest split
  obtain ⟨only, fresh, conversationId, dto, actor, channel, rfl, prepared⟩ := sends row created
  obtain rfl := prepared.conversation
  obtain ⟨later, admissions⟩ := onwards runs
  obtain ⟨earlier, before⟩ := runs.before first turn rest split
  have past : ∀ lookup ∈ Pool.own first turn.thread, Extends lookup.before turn.before :=
    fun lookup inPast => (turn_extends lookup).trans
      ((onwards before).1 lookup (Pool.mem_own.mp inPast).1)
  obtain ⟨lookup, inPast, conversation, found, allowed⟩ := prepared.accessed
  obtain ⟨_, current, rfl⟩ := (past lookup inPast).conversations _ conversation found
  obtain ⟨sighting, inPastToo, present⟩ := prepared.found
  obtain ⟨db, admitted, growth⟩ := admissions _ (List.mem_of_getElem? made)
  refine ⟨dto, actor, conversation, ⟨channel, made⟩, prepared.sender, prepared.senderDevice,
    prepared.recipientDevice, current, allowed, ?_, ?_, ?_, later turn member⟩
  · obtain ⟨device, seen⟩ := Option.isSome_iff_exists.mp present
    obtain ⟨now, still, _⟩ := (past sighting inPastToo).devices _ device seen
    rw [prepared.recipientDevice, still]
    rfl
  · rw [Concurrency.Turn.after, only]
    change (turn.before.messages.insert row).find? row.id = some row
    rw [Table.find?_insert, fresh]
    exact if_pos rfl
  · exact (admitted _ _ _ _ rfl).genuine.later growth

/-- Every message of a run has been stored by a turn. -/
theorem stored_by_turn (empty : start.messages = .empty)
    (runs : (Request.service Admits).Runs start trace final arrived) :
    ∀ message ∈ final.messages.rows, ∃ turn ∈ trace, ∃ row, .createMessage row ∈ turn.writes ∧
      SameMessage row message := by
  refine runs.along (fun past db => ∀ message ∈ db.messages.rows, ∃ turn ∈ past, ∃ row,
    .createMessage row ∈ turn.writes ∧ SameMessage row message) ?_ ?_ ?_
  · rw [empty]
    exact List.forall_mem_nil _
  · intro past before after changed stored message member
    obtain ⟨old, inBefore, same⟩ := elsewhere_message changed member
    obtain ⟨turn, inPast, row, created, sent⟩ := stored old inBefore
    exact ⟨turn, inPast, row, created, sent.trans same⟩
  · intro past turn _ _ stored message member
    rcases mem_commit_messages member with old | created
    · obtain ⟨earlier, inPast, row, created, sent⟩ := stored message old
      exact ⟨earlier, List.mem_append_left _ inPast, row, created, sent⟩
    · exact ⟨turn, List.mem_append_right _ List.mem_cons_self, message, created, .refl message⟩

/-- In every run, all stored messages stay within their conversations exactly if each turn
that stores one names a device of another participant. -/
theorem messages_contained_iff (empty : start.messages = .empty)
    (runs : (Request.service Admits).Runs start trace final arrived) :
    (∀ message ∈ final.messages.rows, Contained trace arrived final message) ↔
      ∀ turn ∈ trace, NamesOther arrived turn := by
  constructor
  · intro contained turn member row conversationId dto actor channel created made
    obtain ⟨dto', actor', conversation, sent⟩ := sent_of_turn runs member created
    obtain ⟨channel', madeToo⟩ := sent.made
    obtain ⟨rfl, rfl, rfl, rfl⟩ := Request.sendMessage.inj (made.unique madeToo)
    obtain ⟨message, current, same⟩ := sent.later.messages row.id row sent.stored
    obtain ⟨found, looked, _, _, reaches⟩ := contained message (Table.mem_of_find? current)
    obtain ⟨_, still, rfl⟩ := sent.growth.conversations _ conversation sent.found
    rw [same.conversationId] at looked
    obtain rfl := Option.some.inj (still.symm.trans looked)
    rw [same.senderUserId, same.recipientDeviceId, sent.sender,
      reachesOther_iff sent.growth sent.present] at reaches
    exact ⟨conversation, sent.found, sent.recipientDevice ▸ reaches⟩
  · intro names message member
    obtain ⟨turn, inTrace, row, created, same⟩ := stored_by_turn empty runs message member
    obtain ⟨dto, actor, conversation, sent⟩ := sent_of_turn runs inTrace created
    obtain ⟨channel, made⟩ := sent.made
    obtain ⟨other, found, reaches⟩ := names turn inTrace row _ _ _ _ created made
    obtain rfl := Option.some.inj (found.symm.trans sent.found)
    obtain ⟨_, still, rfl⟩ := sent.growth.conversations _ other found
    refine ⟨other, same.conversationId ▸ still, ?_, ?_, ?_⟩
    · rw [same.senderUserId, sent.sender]
      rcases sent.allowed with admin | superAdmin | owner | driver
      · exact .inr ⟨turn, inTrace, row, _, dto, actor, channel, created, same.id.symm, made, .inl admin⟩
      · exact .inr ⟨turn, inTrace, row, _, dto, actor, channel, created, same.id.symm, made,
          .inr superAdmin⟩
      · exact .inl (.inl owner)
      · exact .inl (.inr (sent.genuine.driver _ driver))
    · rw [same.senderUserId, same.senderDeviceId, sent.sender]
      exact sent.genuine.device _ sent.senderDevice
    · rw [same.senderUserId, same.recipientDeviceId, sent.sender,
        reachesOther_iff sent.growth sent.present, sent.recipientDevice]
      exact reaches

end Runs

/-! ### A message to the device of a stranger -/

namespace Misaddressed

open Auth

local instance : UuidSpelling := unarySpelling

/-- The token of an owner. -/
def token : AccessToken := { LoggedIn.token with role := "OWNER" }

local instance : JsonWebToken := tableTokens
  [{ text := "t", secret := "default_long_secret_key_32_characters!", issuer := token.issuer,
     audience := token.audience, payload := token.payload }]

def accounts : Accounts := { LoggedIn.db with roles := Table.empty.insert { id := 4, code := "OWNER" } }

def user : Auth.AuthUser where
  id := 1
  username := "d"
  role := "OWNER"
  organizationId := none
  permissions := []
  deviceId := .string "111"
  sessionId := .string "1111"
  driverId := none

/-- A conversation of the owner with a driver, and a device of neither. -/
def db : Db where
  drivers := Table.empty.insert { id := 7, userId := 8 }
  conversations := Table.empty.insert { id := 10, ownerId := 1, driverId := 7 }
  devices := (Table.empty.insert { id := 2, userId := 1 }).insert { id := 21, userId := 3 }

def dto : SendMessageDto where
  recipientDeviceId := 21
  ciphertextBlob := "blob"

def request : Request :=
  .sendMessage 10 dto (ConversationsController.extractActor user .owner) .rest

/-- The accounts are those of the store. -/
theorem mirrored : Mirrored accounts db where
  devices := by
    intro id device found
    obtain ⟨member, rfl⟩ := Table.find?_eq_some.mp found
    obtain rfl := List.mem_singleton.mp member
    exact ⟨{ id := 2, userId := 1 }, by decide, rfl⟩
  drivers := List.forall_mem_nil _

/-- The request is admitted. -/
theorem admits : Admits db request := by
  intro conversationId dto actor channel same
  cases same
  have accepted : Accepts (JwtStrategy.authenticate {} "t") {} accounts user := by decide
  exact .rest mirrored accepted rfl

/-- The request runs to its end. -/
def played : List (Concurrency.Turn store) × Pool store Response :=
  Pool.perform (List.replicate 5 (0, fun _ => { uuid := 30 })) ⟨db, [request.proc]⟩

/-- The example is a run of the service. -/
theorem runs : ∃ arrived, arrived.map Prod.fst = [request] ∧
    (Request.service Admits).Runs db played.1 played.2.state arrived := by
  have started : (Request.service Admits).Runs db [] db [] := .start
  have turns : (⟨db, [request.proc]⟩ : Pool store Response).Turns played.1 played.2 :=
    Pool.perform_turns _ _
  obtain ⟨later, runs, requests, _⟩ := (started.arrive admits).turns turns
  exact ⟨later, requests, runs⟩

def row : Message where
  id := 30
  conversationId := 10
  senderUserId := 1
  senderDeviceId := 2
  recipientDeviceId := 21
  protocolVersion := 1
  ciphertextBlob := "blob"
  headerJson := []
  createdAt := 0

/-- The equivalence at the misaddressed message. -/
theorem messages_contained_iff_misaddressed : ∃ arrived,
    ((∀ message ∈ played.2.state.messages.rows, Contained played.1 arrived played.2.state message) ↔
      ∀ turn ∈ played.1, NamesOther arrived turn) := by
  obtain ⟨arrived, _, ran⟩ := runs
  exact ⟨arrived, messages_contained_iff rfl ran⟩

/-- The message that is stored is for a stranger. -/
theorem not_contained : ¬∀ (start final : Db) (trace : List (Concurrency.Turn store))
    (arrived : List (Request × Proc store Response)), start.messages = .empty →
      (Request.service Admits).Runs start trace final arrived →
        ∀ message ∈ final.messages.rows, Contained trace arrived final message := by
  intro always
  obtain ⟨arrived, _, ran⟩ := runs
  have stored : row ∈ played.2.state.messages.rows := by decide
  obtain ⟨conversation, found, _, _, userId, _, participant, device, foundDevice, ofUser⟩ :=
    always db played.2.state played.1 arrived rfl ran row stored
  have sameConversation : played.2.state.conversations.find? row.conversationId =
      some { id := 10, ownerId := 1, driverId := 7 } := by decide
  have sameDevice : played.2.state.devices.find? row.recipientDeviceId =
      some { id := 21, userId := 3 } := by decide
  have sameDriver : played.2.state.drivers.find? 7 = some { id := 7, userId := 8 } := by decide
  obtain rfl := Option.some.inj (found.symm.trans sameConversation)
  obtain rfl := Option.some.inj (foundDevice.symm.trans sameDevice)
  obtain rfl := ofUser
  rcases participant with owner | ⟨driver, foundDriver, ofDriver⟩
  · cases owner
  · obtain rfl := Option.some.inj (foundDriver.symm.trans sameDriver)
    cases ofDriver

end Misaddressed

end Armada.MessageParticipants
