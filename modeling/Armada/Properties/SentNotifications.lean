import Armada.Notifications.OperationalNotifications
import Armada.Properties.PushReports

/-!
# Notifications that are sent and read

A notification is set to `SENT` whatever the provider has reported, and whatever its status has
become in the meantime. So the status tells the truth exactly if FCM has not refused every token
and the notification has not been read before.
-/

namespace Armada.Notifications

open Concurrency FcmNotificationProvider NotificationService Relational

/-! ## What a turn may do -/

/-- The turn sets the status of the notification. -/
def Sets (turn : Concurrency.Turn inbox) (id : Uuid) (status : NotificationStatus) : Prop :=
  .updateNotification id status ∈ turn.writes

/-- The turn stores a new notification under the id. -/
def Creates (turn : Concurrency.Turn inbox) (id : Uuid) : Prop :=
  ∃ row : Notification, row.id = id ∧ row.status = .queued ∧
    turn.before.notification? id = none ∧ turn.writes = [.createNotification row]

/-- The turn sends tokens to FCM. -/
def Pushes (fcmServerKey : Option String) (turn : Concurrency.Turn inbox) (tokens : List String)
    (payload : PushNotificationPayload) : Prop :=
  tokens ≠ [] ∧ turn.Performs (dispatch fcmServerKey tokens payload)

/-- A request has stored its notification, and has sent tokens to FCM. -/
structure Ready (fcmServerKey : Option String) (history : List (Concurrency.Turn inbox))
    (id : Uuid) : Prop where
  created : ∃ creation ∈ history, Creates creation id
  pushed : ∃ push ∈ history, ∃ tokens payload, Pushes fcmServerKey push tokens payload

/-- What is ready stays so. -/
theorem Ready.append {fcmServerKey : Option String} {history : List (Concurrency.Turn inbox)}
    {id : Uuid} (ready : Ready fcmServerKey history id) (more : List (Concurrency.Turn inbox)) :
    Ready fcmServerKey (history ++ more) id := by
  obtain ⟨⟨creation, created, creates⟩, push, pushed, pushes⟩ := ready
  exact ⟨⟨creation, List.mem_append_left _ created, creates⟩,
    push, List.mem_append_left _ pushed, pushes⟩

/-- What a turn of a request does after its own turns. -/
inductive Deed (fcmServerKey : Option String) (history : List (Concurrency.Turn inbox))
    (turn : Concurrency.Turn inbox) : Prop where
  | idle (idle : turn.writes = [])
  | created {id : Uuid} (creates : Creates turn id)
  | cleared (only : ∀ write ∈ turn.writes, ∃ deviceId, write = .clearPushToken deviceId)
  | sent {id : Uuid} (ready : Ready fcmServerKey history id)
      (writes : turn.writes = [.updateNotification id .sent])
  | read {id : Uuid} (found : turn.before.status? id ≠ none)
      (writes : turn.writes = [.updateNotification id .read])

section Requests

variable {fcmServerKey : Option String} {supplied : Concurrency.Turn inbox → Prop} {thread : Nat}
  {history : List (Concurrency.Turn inbox)}

/-- A call that only reads. -/
theorem idle_deed {β : Type} {body : Input → Inbox → Except Failure (β × List Write)}
    {turn : Concurrency.Turn inbox}
    (reads : ∀ input before value writes, body input before = .ok (value, writes) → writes = [])
    (performs : turn.Performs (query body)) : Deed fcmServerKey history turn :=
  .idle (performs.idle fun _ _ _ _ executed => reads _ _ _ _ (query_succeeds.mp executed).2)

/-- The last call of a request that sends. -/
theorem update_meets {id : Uuid} (ready : Ready fcmServerKey history id) :
    (liftM (Prisma.Notification.update id .sent) : Proc inbox Notification).Meets
      (.turns supplied thread (Deed fcmServerKey)) (fun _ _ => True) history := by
  refine Proc.Meets.call (fun inputs before error _ failed => ⟨?_, trivial⟩)
    fun inputs before row writes _ executed => ⟨?_, trivial⟩
  · exact .idle (Concurrency.Turn.writes_of_error failed)
  · refine .sent ready ?_
    rw [Concurrency.Turn.writes_of_succeeds thread executed,
      (Prisma.Notification.update_succeeds executed).2]

/-- The sending of a notification is such deeds. -/
theorem sendOperationalNotification_meets (asked : Operational) :
    (sendOperationalNotification fcmServerKey asked).Meets
      (.turns supplied thread (Deed fcmServerKey)) (fun _ _ => True) history := by
  rw [sendOperationalNotification]
  refine Proc.Meets.next
    (fun _ _ _ _ failed => ⟨.idle (Concurrency.Turn.writes_of_error failed), trivial⟩)
    fun inputs before notif writes _ created => ?_
  obtain ⟨rfl, fresh, stored⟩ := Prisma.Notification.create_succeeds created
  have creates : Creates ⟨thread, .call (Prisma.Notification.create (newNotification asked)),
      inputs, before⟩ (newNotification asked (inputs 0)).id :=
    ⟨newNotification asked (inputs 0), rfl, rfl, fresh,
      (Concurrency.Turn.writes_of_succeeds thread created).trans stored⟩
  refine ⟨.created creates, ?_⟩
  generalize (⟨thread, .call (Prisma.Notification.create (newNotification asked)), inputs,
    before⟩ : Concurrency.Turn inbox) = creation at creates ⊢
  refine Proc.Meets.told (fun _ => idle_deed (by rintro _ _ _ _ ⟨⟩; rfl)) (fun _ _ => trivial)
    fun activeDevices look _ => ?_
  dsimp only
  split
  · exact trivial
  · rename_i nonempty
    refine Proc.Meets.told (fun _ performs => ?_) (fun _ _ => trivial)
      fun pushResult push told => ?_
    · exact .idle performs.writes
    have ready : Ready fcmServerKey (history ++ [creation] ++ [look] ++ [push])
        (newNotification asked (inputs 0)).id :=
      ⟨⟨creation, by simp, creates⟩, push, by simp, _, _, nonempty, told.1⟩
    split
    · refine Proc.Meets.next
        (fun _ _ _ _ failed => ⟨.idle (Concurrency.Turn.writes_of_error failed), trivial⟩)
        fun _ _ _ writes _ cleared => ⟨.cleared ?_, update_meets (ready.append _)⟩
      rw [Concurrency.Turn.writes_of_succeeds thread cleared]
      exact Prisma.Device.updateMany_succeeds cleared
    · exact update_meets ready

/-- So is the marking as read. -/
theorem markAsRead_meets (notificationId actorUserId : Uuid) :
    (markAsRead notificationId actorUserId).Meets
      (.turns supplied thread (Deed fcmServerKey)) (fun _ _ => True) history := by
  rw [markAsRead]
  refine Proc.Meets.told (fun _ => idle_deed (by rintro _ _ _ _ ⟨⟩; rfl)) (fun _ _ => trivial)
    fun found _ _ => ?_
  refine Proc.Meets.require (fun _ => trivial) fun notif _ => ?_
  refine Proc.Meets.rejectIf (fun _ => trivial) fun _ => ?_
  refine Proc.Meets.call
    (fun _ _ _ _ failed => ⟨.idle (Concurrency.Turn.writes_of_error failed), trivial⟩)
    fun inputs before row writes _ executed => ⟨?_, trivial⟩
  obtain ⟨present, written⟩ := Prisma.Notification.update_succeeds executed
  refine .read ?_ ((Concurrency.Turn.writes_of_succeeds thread executed).trans written)
  simpa [Inbox.status?] using present

/-- So is every request. -/
theorem process_meets (request : Request) :
    (request.process fcmServerKey).Meets (.turns supplied thread (Deed fcmServerKey))
      (fun _ _ => True) history := by
  cases request with
  | sendOperationalNotification asked => exact sendOperationalNotification_meets asked
  | markAsRead notificationId actorUserId => exact markAsRead_meets notificationId actorUserId

end Requests

/-! ## The status of a notification -/

section Status

variable {db : Inbox} {id : Uuid}

/-- The status after a creation. -/
theorem status?_create (row : Notification) :
    ((Write.createNotification row).apply db).status? id =
      (db.status? id).or (if row.id = id then some row.status else none) := by
  have found : ((Write.createNotification row).apply db).notification? id =
      (db.notification? id).or (if row.id = id then some row else none) :=
    Table.find?_insert db.notifications row id
  rw [Inbox.status?, found, Inbox.status?]
  cases db.notification? id with
  | some old => rfl
  | none => by_cases same : row.id = id <;> simp [same]

/-- The status after an update. -/
theorem status?_update (other : Uuid) (status : NotificationStatus) :
    ((Write.updateNotification other status).apply db).status? id =
      if id = other then (db.status? id).map fun _ => status else db.status? id := by
  have found : ((Write.updateNotification other status).apply db).notification? id =
      if id = other then (db.notification? id).map (Notification.setStatus status)
      else db.notification? id :=
    Table.find?_modify db.notifications other id (Notification.key_setStatus status)
  rw [Inbox.status?, found, Inbox.status?]
  split
  · rw [Option.map_map, Option.map_map]
    rfl
  · rfl

/-- Clearing tokens leaves the statuses. -/
theorem status?_cleared {writes : List Write}
    (only : ∀ write ∈ writes, ∃ deviceId, write = .clearPushToken deviceId) :
    Inbox.status? (inbox.applyAll writes db) id = db.status? id := by
  induction writes generalizing db with
  | nil => rfl
  | cons write writes inductionHypothesis =>
      obtain ⟨⟨deviceId, rfl⟩, rest⟩ := List.forall_mem_cons.mp only
      exact inductionHypothesis rest

variable {fcmServerKey : Option String} {history : List (Concurrency.Turn inbox)}
  {turn : Concurrency.Turn inbox}

/-- A new notification is queued. -/
theorem Creates.status? (creates : Creates turn id) : turn.after.status? id = some .queued := by
  obtain ⟨row, rfl, queued, fresh, writes⟩ := creates
  have absent : Inbox.status? turn.before row.id = none := by rw [Inbox.status?, fresh]; rfl
  rw [Concurrency.Turn.after, writes]
  exact (status?_create row).trans (by rw [absent, Option.none_or, if_pos rfl, queued])

/-- What a turn does to the status of a notification. -/
theorem Deed.status? (deed : Deed fcmServerKey history turn) (id : Uuid) :
    turn.after.status? id = turn.before.status? id ∨ Creates turn id ∨
      ∃ status, Sets turn id status ∧ (status = .sent ∨ status = .read) ∧
        turn.after.status? id = (turn.before.status? id).map fun _ => status := by
  rw [Concurrency.Turn.after]
  cases deed with
  | idle idle =>
      rw [idle]
      exact .inl rfl
  | @created other creates =>
      by_cases same : other = id
      · exact .inr (.inl (same ▸ creates))
      · obtain ⟨row, rfl, _, _, writes⟩ := creates
        rw [writes]
        exact .inl ((status?_create row).trans (by rw [if_neg same, Option.or_none]))
  | cleared only => exact .inl (status?_cleared only)
  | @sent other _ writes =>
      rw [writes]
      by_cases same : id = other
      · subst same
        exact .inr (.inr ⟨.sent, by simp [Sets, writes], .inl rfl,
          (status?_update id .sent).trans (if_pos rfl)⟩)
      · exact .inl ((status?_update other .sent).trans (if_neg same))
  | @read other _ writes =>
      rw [writes]
      by_cases same : id = other
      · subst same
        exact .inr (.inr ⟨.read, by simp [Sets, writes], .inr rfl,
          (status?_update id .read).trans (if_pos rfl)⟩)
      · exact .inl ((status?_update other .read).trans (if_neg same))

/-- A notification stays read unless the turn sets it to sent. -/
theorem Deed.stays_read (deed : Deed fcmServerKey history turn) (unsent : ¬Sets turn id .sent)
    (isRead : turn.before.status? id = some .read) : turn.after.status? id = some .read := by
  rcases deed.status? id with same | ⟨row, rfl, _, fresh, _⟩ | ⟨status, sets, sent | rfl, after⟩
  · rw [same, isRead]
  · rw [Inbox.status?, fresh] at isRead
    cases isRead
  · exact absurd (sent ▸ sets) unsent
  · rw [after, isRead, Option.map_some]

/-- A notification is read only once a turn has set it so. -/
theorem Deed.stays_unread (deed : Deed fcmServerKey history turn) (unread : ¬Sets turn id .read)
    (notRead : turn.before.status? id ≠ some .read) : turn.after.status? id ≠ some .read := by
  rcases deed.status? id with same | creates | ⟨status, sets, rfl | read, after⟩
  · rwa [same]
  · rw [creates.status?]
    nofun
  · rw [after]
    cases Inbox.status? turn.before id <;> simp
  · exact absurd (read ▸ sets) unread

/-- A turn that sets a status is of a request that is ready to send, or finds the notification
that it reads. -/
theorem Deed.of_sets {status : NotificationStatus} (deed : Deed fcmServerKey history turn)
    (sets : Sets turn id status) :
    turn.writes = [.updateNotification id status] ∧
      ((status = .sent ∧ Ready fcmServerKey history id) ∨
        (status = .read ∧ turn.before.status? id ≠ none)) := by
  cases deed with
  | idle idle =>
      rw [Sets, idle] at sets
      cases sets
  | created creates =>
      obtain ⟨_, _, _, _, writes⟩ := creates
      rw [Sets, writes, List.mem_singleton] at sets
      cases sets
  | cleared only =>
      obtain ⟨_, same⟩ := only _ sets
      cases same
  | sent ready writes =>
      rw [Sets, writes, List.mem_singleton] at sets
      cases sets
      exact ⟨writes, .inl ⟨rfl, ready⟩⟩
  | read found writes =>
      rw [Sets, writes, List.mem_singleton] at sets
      cases sets
      exact ⟨writes, .inr ⟨rfl, found⟩⟩

/-- A turn that marks a notification READ leaves it so. -/
theorem Deed.read_of_sets (deed : Deed fcmServerKey history turn) (sets : Sets turn id .read) :
    turn.after.status? id = some .read := by
  obtain ⟨writes, ⟨same, _⟩ | ⟨_, found⟩⟩ := deed.of_sets sets
  · cases same
  obtain ⟨old, present⟩ := Option.ne_none_iff_exists'.mp found
  rw [Concurrency.Turn.after, writes]
  exact (status?_update id .read).trans (by rw [if_pos rfl, present, Option.map_some])

/-- A turn that marks it SENT comes after its creation and a push. -/
theorem Deed.ready_of_sets (deed : Deed fcmServerKey history turn) (sets : Sets turn id .sent) :
    Ready fcmServerKey history id := by
  obtain ⟨_, ⟨_, ready⟩ | ⟨same, _⟩⟩ := deed.of_sets sets
  · exact ready
  · cases same

end Status

/-! ## Runs -/

/-- FCM answers as it documents. -/
def Answers (trace : List (Concurrency.Turn inbox)) : Prop :=
  ∀ turn ∈ trace, (turn.inputs 0).fetch.Documented

/-- A notification is set to sent only by a request that was told that at least one token was
sent, and never if it is read. -/
def SentRightly (fcmServerKey : Option String) (trace : List (Concurrency.Turn inbox)) : Prop :=
  ∀ early turn rest id, trace = early ++ turn :: rest → Sets turn id .sent →
    (∃ push ∈ Pool.own early turn.thread, ∃ tokens payload result,
      Pushes fcmServerKey push tokens payload ∧
        push.Returned (dispatch fcmServerKey tokens payload) result ∧ 1 ≤ result.sentCount) ∧
      turn.before.status? id ≠ some .read

/-- FCM has not refused every token of a request that sets a notification to sent, and no
request has set it to read before. -/
def Deliverable (fcmServerKey : Option String) (trace : List (Concurrency.Turn inbox)) : Prop :=
  ∀ early turn rest id, trace = early ++ turn :: rest → Sets turn id .sent →
    (∃ push ∈ Pool.own early turn.thread, ∃ tokens payload,
      Pushes fcmServerKey push tokens payload ∧
        ¬Refused ((push.inputs 0).fetch (fcmRequest tokens payload))) ∧
      ∀ other ∈ early, ¬Sets other id .read

/-- Requests that are about to run. -/
def pool (fcmServerKey : Option String) (requests : List Request) (db : Inbox) :
    Pool inbox Notification :=
  ⟨db, requests.map (Request.process fcmServerKey)⟩

section Runs

variable {key : String} {requests : List Request} {db : Inbox}
  {final : Pool inbox Notification} {trace : List (Concurrency.Turn inbox)}

/-- Every turn of a run of requests is one that its request may take. -/
theorem deed_of_turns (turns : (pool (some key) requests db).Turns trace final)
    {early rest : List (Concurrency.Turn inbox)} {turn : Concurrency.Turn inbox}
    (split : trace = early ++ turn :: rest) :
    Deed (some key) (Pool.own early turn.thread) turn := by
  have meets : ∀ (thread : Nat) process, (pool (some key) requests db).procs[thread]? =
      some process →
        process.Meets (.turns (fun _ => True) thread (Deed (some key))) (fun _ _ => True) [] := by
    intro thread process found
    obtain ⟨request, _, rfl⟩ := List.mem_map.mp (List.mem_of_getElem? found)
    exact process_meets request
  exact (turns.own (fun _ _ => trivial) meets).1 early turn rest split

/-- The number of sent tokens that a push reports. -/
theorem sentCount_of_push (configured : key ≠ "") {push : Concurrency.Turn inbox}
    {tokens : List String} {payload : PushNotificationPayload}
    (documented : (push.inputs 0).fetch.Documented)
    (pushes : Pushes (some key) push tokens payload) :
    (∃ result, push.Returned (dispatch (some key) tokens payload) result ∧
      1 ≤ result.sentCount) ↔ ¬Refused ((push.inputs 0).fetch (fcmRequest tokens payload)) := by
  rw [← one_le_sentCount configured documented pushes.1]
  constructor
  · rintro ⟨result, ⟨_, returned⟩, atLeast⟩
    obtain rfl := Except.ok.inj returned
    exact atLeast
  · exact fun atLeast => ⟨_, ⟨pushes.2, rfl⟩, atLeast⟩

/-- A notification is not read when it is set to sent exactly if no turn has set it so before:
it was queued by the request itself, and no other turn takes `READ` back. -/
theorem sentRightly_iff (configured : key ≠ "")
    (turns : (pool (some key) requests db).Turns trace final) (answers : Answers trace) :
    SentRightly (some key) trace ↔ Deliverable (some key) trace := by
  have documented : ∀ {early rest : List (Concurrency.Turn inbox)}
      {turn push : Concurrency.Turn inbox}, trace = early ++ turn :: rest →
        push ∈ Pool.own early turn.thread → (push.inputs 0).fetch.Documented := by
    rintro early rest turn push rfl member
    exact answers push (List.mem_append_left _ (Pool.mem_own.mp member).1)
  constructor
  · intro rightly early turn rest id split sets
    obtain ⟨⟨push, own, tokens, payload, result, pushes, told⟩, unread⟩ :=
      rightly early turn rest id split sets
    have reaches := (sentCount_of_push configured (documented split own) pushes).mp ⟨result, told⟩
    refine ⟨⟨push, own, tokens, payload, pushes, reaches⟩, ?_⟩
    -- `READ` would stay: a turn that takes it back is one that is not right
    intro other member reads
    obtain ⟨first, between, rfl⟩ := List.append_of_mem member
    rw [List.append_assoc, List.cons_append] at split
    refine unread (turns.reaches (fun db => db.status? id = some .read) split
      ((deed_of_turns turns split).read_of_sets reads) fun later among isRead => ?_)
    obtain ⟨front, back, rfl⟩ := List.append_of_mem among
    have place : trace = (first ++ other :: front) ++ later :: (back ++ turn :: rest) := by
      simp [split]
    refine (deed_of_turns turns place).stays_read (fun sent => ?_) isRead
    exact (rightly _ _ _ id place sent).2 isRead
  · intro deliverable early turn rest id split sets
    obtain ⟨⟨push, own, tokens, payload, pushes, reaches⟩, unread⟩ :=
      deliverable early turn rest id split sets
    obtain ⟨result, told⟩ :=
      (sentCount_of_push configured (documented split own) pushes).mpr reaches
    refine ⟨⟨push, own, tokens, payload, result, pushes, told⟩, ?_⟩
    obtain ⟨creation, created, creates⟩ :=
      ((deed_of_turns turns split).ready_of_sets sets).created
    obtain ⟨first, between, rfl⟩ := List.append_of_mem (Pool.mem_own.mp created).1
    rw [List.append_assoc, List.cons_append] at split
    have queued : creation.after.status? id ≠ some .read := by
      rw [creates.status?]
      nofun
    refine turns.reaches (fun db => db.status? id ≠ some .read) split queued
      fun later among notRead => ?_
    obtain ⟨front, back, rfl⟩ := List.append_of_mem among
    have place : trace = (first ++ creation :: front) ++ later :: (back ++ turn :: rest) := by
      simp [split]
    exact (deed_of_turns turns place).stays_unread
      (unread later (List.mem_append_right _ (List.mem_cons_of_mem _ among))) notRead

/-- With a key, and FCM answering as it documents: a result of the provider is truthful exactly
if there is nothing to send, or FCM accepts a token or refuses every one; and in a run of the
service a notification is set to sent rightly exactly if FCM has not refused every token of it
and it has not been read before. -/
theorem push_reports (configured : key ≠ "") :
    (∀ fetch tokens payload, Fetch.Documented fetch →
      (Truthful tokens (fetch (fcmRequest tokens payload))
          (sendPushNotification (some key) fetch tokens payload) ↔
        tokens = [] ∨ Accepted (fetch (fcmRequest tokens payload)) ∨
          Refused (fetch (fcmRequest tokens payload)))) ∧
      ∀ requests db trace final, (pool (some key) requests db).Turns trace final →
        Answers trace → (SentRightly (some key) trace ↔ Deliverable (some key) trace) :=
  ⟨fun _ _ _ documented => sendPushNotification_truthful configured documented,
    fun _ _ _ _ turns answers => sentRightly_iff configured turns answers⟩

end Runs

/-! ### A token that FCM does not reach -/

/-- An answer of the 200s in which every token has failed for now. -/
def unavailable : Fetch := fun request =>
  .ok { status := 200
        json := some
          { success := some 0
            failure := some request.registrationIds.length
            results := some (.replicate request.registrationIds.length
              { error := some "Unavailable" }) } }

/-- The unavailable service is documented. -/
theorem unavailable_documented : unavailable.Documented := by
  intro request response resolved _
  obtain rfl := Except.ok.inj resolved
  refine ⟨_, _, rfl, rfl, List.length_replicate, ?_, ?_⟩
  · simp [List.countP_replicate]
  · simp [List.countP_replicate]

def arrival : Operational where
  targetUserId := 3
  type := "DELIVERY_ASSIGNED"
  title := "New delivery"
  body := "A delivery is waiting"

def onePhone : Inbox where
  userIds := [3]
  devices := Table.empty.insert
    { id := 9, userId := 3, deviceIdentifier := "phone", platform := .android, appVersion := "1"
      pushToken := some "token" }

def given (uuid : Uuid) (_ : Nat) : Input := { uuid, fetch := unavailable }

/-- The notification is read between the answer of FCM and the last step of the request. -/
def readInBetween : List (Concurrency.Turn inbox) × Pool inbox Notification :=
  (pool (some "key") [.sendOperationalNotification arrival, .markAsRead 5 3] onePhone).perform
    [(0, given 5), (0, given 0), (0, given 0), (1, given 0), (1, given 0), (0, given 0)]

/-- The example is a run. -/
theorem readInBetween_turns :
    (pool (some "key") [.sendOperationalNotification arrival, .markAsRead 5 3] onePhone).Turns
      readInBetween.1 readInBetween.2 :=
  Pool.perform_turns _ _

/-- Its calls of the provider are answered as documented. -/
theorem readInBetween_answers : Answers readInBetween.1 := by
  intro turn member
  have scheduled := Pool.mem_perform member
  simp only [List.mem_cons, List.not_mem_nil, or_false, Prod.mk.injEq] at scheduled
  have same : (turn.inputs 0).fetch = unavailable := by
    rcases scheduled with ⟨_, same⟩ | ⟨_, same⟩ | ⟨_, same⟩ | ⟨_, same⟩ | ⟨_, same⟩ | ⟨_, same⟩ <;>
      rw [same] <;> rfl
  rw [same]
  exact unavailable_documented

/-- Both equivalences at the run. -/
theorem push_reports_readInBetween :
    (Truthful ["token"] (unavailable (fcmRequest ["token"] (payload arrival)))
        (sendPushNotification (some "key") unavailable ["token"] (payload arrival)) ↔
      ["token"] = [] ∨ Accepted (unavailable (fcmRequest ["token"] (payload arrival))) ∨
        Refused (unavailable (fcmRequest ["token"] (payload arrival)))) ∧
      (SentRightly (some "key") readInBetween.1 ↔ Deliverable (some "key") readInBetween.1) :=
  ⟨(push_reports (by decide)).1 _ _ _ unavailable_documented,
    (push_reports (by decide)).2 _ _ _ _ readInBetween_turns readInBetween_answers⟩

/-- The provider counts the token as sent, and the service takes `READ` back. -/
theorem push_reports_untruthful :
    (¬∀ key fetch tokens payload, key ≠ "" → Fetch.Documented fetch →
      Truthful tokens (fetch (fcmRequest tokens payload))
        (sendPushNotification (some key) fetch tokens payload)) ∧
      ¬∀ key requests db trace final, key ≠ "" →
        (pool (some key) requests db).Turns trace final → Answers trace →
          SentRightly (some key) trace := by
  constructor
  · intro truthful
    have sent := (truthful "key" unavailable ["token"] (payload arrival) (by decide)
      unavailable_documented).sent
    exact absurd sent (by decide)
  · intro rightly
    have overwritten : ∃ early turn, readInBetween.1 = early ++ [turn] ∧ Sets turn 5 .sent ∧
        turn.before.status? 5 = some .read :=
      ⟨readInBetween.1.take 5, readInBetween.1.get ⟨5, by decide⟩, rfl, List.mem_cons_self, rfl⟩
    obtain ⟨early, turn, split, sets, isRead⟩ := overwritten
    have right := rightly "key" _ _ _ _ (by decide) readInBetween_turns readInBetween_answers
    exact (right early turn [] 5 split sets).2 isRead

end Armada.Notifications
