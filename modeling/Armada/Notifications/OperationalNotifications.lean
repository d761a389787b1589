import Armada.Auth.Schema
import Armada.Concurrency.Turns
import Armada.Notifications.FcmNotificationProvider

/-!
# Operational notifications

`sendOperationalNotification` and `markAsRead` of
`src/modules/notifications/services/notification.service.ts`, on the tables they use. A
notification is stored, sent to the active devices of its user, and then updated; in between
its user may have read it.
-/

namespace Armada.Notifications

open Concurrency Relational

/-! ## The store -/

/-- The statuses of a notification. -/
inductive NotificationStatus where
  | queued
  | sent
  | failed
  | read
  deriving DecidableEq

/-- A row of `notifications`. -/
structure Notification where
  id : Uuid
  userId : Uuid
  type : String
  title : String
  body : String
  payloadJson : JsonRecord
  provider : String
  status : NotificationStatus := .queued
  createdAt : Instant

instance : Keyed Notification Uuid := ⟨Notification.id⟩

/-- The row in another status. -/
def Notification.setStatus (status : NotificationStatus) (row : Notification) : Notification :=
  { row with status }

/-- It is the same notification. -/
theorem Notification.key_setStatus (status : NotificationStatus) (row : Notification) :
    Keyed.key (row.setStatus status) = Keyed.key row := rfl

/-- Of the users only the ids are used, as a foreign key. -/
structure Inbox where
  userIds : List Uuid := []
  devices : Table Auth.Device := .empty
  notifications : Table Notification := .empty

namespace Inbox

/-- The notification with an id. -/
def notification? (db : Inbox) (id : Uuid) : Option Notification := db.notifications.find? id

/-- The status of a notification. -/
def status? (db : Inbox) (id : Uuid) : Option NotificationStatus :=
  (db.notification? id).map Notification.status

end Inbox

/-- What a statement may change. -/
inductive Write where
  | createNotification (row : Notification)
  | updateNotification (id : Uuid) (status : NotificationStatus)
  | clearPushToken (deviceId : Uuid)

/-- The tables after one write. -/
def Write.apply : Write → Inbox → Inbox
  | .createNotification row, db => { db with notifications := db.notifications.insert row }
  | .updateNotification id status, db =>
      { db with notifications := db.notifications.modify id (Notification.setStatus status) }
  | .clearPushToken deviceId, db =>
      { db with devices := db.devices.modify deviceId fun row => { row with pushToken := none } }

/-- How an operation may fail. -/
inductive Failure where
  | http (status : HttpStatus) (code message : String)
  | prisma (error : PrismaError)
  deriving DecidableEq

/-- What the environment supplies to one call: a generated UUID, the clock, the order in which
the database returns rows, FCM, and a failure of the call's own. -/
structure Input where
  uuid : Uuid := 0
  now : Instant := 0
  order : List Auth.Device → List Auth.Device := id
  fetch : Fetch
  fault : Option PrismaError := none

/-- The tables as a signature of statements. -/
abbrev inbox : Signature where
  State := Inbox
  Write := Write
  Input := Input
  Lock := Empty
  Error := Failure
  apply := Write.apply
  clash lock _ := lock.elim
  fault input := input.fault.map Failure.prisma

/-! ## The calls -/

/-- A query, which a fault may stop. -/
def query {β : Type} (body : Input → Inbox → Except Failure (β × List Write)) :
    Statement inbox β where
  locks _ _ := []
  exec input db :=
    match input.fault with
    | some error => .error (.prisma error)
    | none => body input db

/-- Fail with an error of Prisma unless a condition holds. -/
def check (condition : Prop) [Decidable condition] (error : PrismaError) : Except Failure Unit :=
  if condition then .ok () else .error (.prisma error)

variable {input : Input} {db : Inbox} {writes : List Write}

/-- It succeeds if no fault comes and its body does. -/
theorem query_succeeds {β : Type} {body : Input → Inbox → Except Failure (β × List Write)}
    {value : β} :
    (query body).Succeeds input db value writes ↔
      input.fault = none ∧ body input db = .ok (value, writes) := by
  simp only [query, Statement.Succeeds]
  cases input.fault with
  | some error => simp
  | none => simp

/-- A check of a query passes exactly if its condition holds. -/
theorem check_ok {condition : Prop} [Decidable condition] {error : PrismaError} {answer : Unit} :
    check condition error = .ok answer ↔ condition := by
  by_cases holds : condition <;> simp [check, holds]

namespace Prisma

namespace Notification

/-- Insert a notification. -/
def create (values : Input → Notifications.Notification) :
    Statement inbox Notifications.Notification :=
  query fun input db => do
    let row := values input
    check (row.type.length ≤ 50 ∧ row.title.length ≤ 255 ∧ row.provider.length ≤ 50)
      (.knownRequest .valueTooLong)
    check (row.userId ∈ db.userIds) (.knownRequest .foreignKeyConstraint)
    check (db.notification? row.id = none) (.knownRequest .uniqueConstraint)
    .ok (row, [.createNotification row])

/-- Read a notification. -/
def findUnique (id : Uuid) : Statement inbox (Option Notifications.Notification) :=
  query fun _ db => .ok (db.notification? id, [])

/-- Set the status of a notification. -/
def update (id : Uuid) (status : NotificationStatus) :
    Statement inbox Notifications.Notification :=
  query fun _ db =>
    match db.notification? id with
    | none => .error (.prisma (.knownRequest .recordNotFound))
    | some row => .ok (row.setStatus status, [.updateNotification id status])

/-- A new notification is the row given, under a fresh id. -/
theorem create_succeeds {values : Input → Notifications.Notification}
    {row : Notifications.Notification}
    (executed : (create values).Succeeds input db row writes) :
    row = values input ∧ db.notification? row.id = none ∧ writes = [.createNotification row] := by
  obtain ⟨_, made⟩ := query_succeeds.mp executed
  simp only [except_bind_ok, check_ok, exists_const] at made
  obtain ⟨_, _, fresh, made⟩ := made
  obtain ⟨rfl, rfl⟩ := Prod.mk.inj (Except.ok.inj made)
  exact ⟨rfl, fresh, rfl⟩

/-- Setting a status needs the row alone. -/
theorem update_succeeds {id : Uuid} {status : NotificationStatus} {row : Notifications.Notification}
    (executed : (update id status).Succeeds input db row writes) :
    db.notification? id ≠ none ∧ writes = [.updateNotification id status] := by
  obtain ⟨_, made⟩ := query_succeeds.mp executed
  cases found : db.notification? id with
  | none =>
      rw [found] at made
      cases made
  | some old =>
      rw [found] at made
      obtain ⟨_, rfl⟩ := Prod.mk.inj (Except.ok.inj made)
      exact ⟨nofun, rfl⟩

end Notification

namespace Device

/-- The ids and push tokens of the active devices of a user that have a token. -/
def findMany (userId : Uuid) : Statement inbox (List (Uuid × Option String)) :=
  query fun input db =>
    let found := db.devices.rows.filter fun row =>
      row.userId = userId ∧ row.status = .active ∧ row.pushToken ≠ none
    let rows := if (input.order found).Perm found then input.order found else found
    .ok (rows.map fun row => (row.id, row.pushToken), [])

/-- The devices with one of the tokens lose it. An `undefined` in the list is refused. -/
def updateMany (pushTokens : List (Option String)) : Statement inbox Unit :=
  query fun _ db => do
    check (none ∉ pushTokens) .validation
    let rows := db.devices.rows.filter fun row => row.pushToken ≠ none ∧ row.pushToken ∈ pushTokens
    .ok ((), rows.map fun row => .clearPushToken row.id)

/-- Clearing tokens clears tokens only. -/
theorem updateMany_succeeds {pushTokens : List (Option String)} {answer : Unit}
    (executed : (updateMany pushTokens).Succeeds input db answer writes) :
    ∀ write ∈ writes, ∃ deviceId, write = .clearPushToken deviceId := by
  obtain ⟨_, made⟩ := query_succeeds.mp executed
  simp only [except_bind_ok, check_ok, exists_const] at made
  obtain ⟨_, rfl⟩ := Prod.mk.inj (Except.ok.inj made.2)
  intro write member
  obtain ⟨row, _, rfl⟩ := List.mem_map.mp member
  exact ⟨row.id, rfl⟩

end Device

end Prisma

/-- `fcmProvider.sendPushNotification`, which does not throw. -/
def dispatch (fcmServerKey : Option String) (tokens : List String)
    (payload : PushNotificationPayload) : Statement inbox PushNotificationResult where
  locks _ _ := []
  exec input _ :=
    .ok (FcmNotificationProvider.sendPushNotification fcmServerKey input.fetch tokens payload, [])

/-! ## The service -/

namespace NotificationService

/-- What the service is asked to send. -/
structure Operational where
  targetUserId : Uuid
  type : String
  title : String
  body : String
  payloadJson : JsonRecord := []

/-- What is sent to the devices. -/
def payload (asked : Operational) : PushNotificationPayload where
  title := asked.title
  body := asked.body
  type := asked.type
  payloadJson := asked.payloadJson

/-- The row that is stored. -/
def newNotification (asked : Operational) (input : Input) : Notification where
  id := input.uuid
  userId := asked.targetUserId
  type := asked.type
  title := asked.title
  body := asked.body
  payloadJson := asked.payloadJson
  provider := "FCM"
  status := .queued
  createdAt := input.now

/-- The tokens that are neither missing nor empty. -/
def validTokens (activeDevices : List (Uuid × Option String)) : List String :=
  (activeDevices.filterMap Prod.snd).filter fun token => 0 < token.length

/-- `sendOperationalNotification`: the row first, then the push and its result. -/
def sendOperationalNotification (fcmServerKey : Option String) (asked : Operational) :
    Proc inbox Notification := do
  let notif ← Prisma.Notification.create (newNotification asked)
  let activeDevices ← Prisma.Device.findMany asked.targetUserId
  let tokens := validTokens activeDevices
  if tokens = [] then
    return notif
  else
    let pushResult ← dispatch fcmServerKey tokens (payload asked)
    if pushResult.invalidTokens ≠ [] then Prisma.Device.updateMany pushResult.invalidTokens
    Prisma.Notification.update notif.id .sent

/-- `markAsRead`, by the recipient. -/
def markAsRead (notificationId actorUserId : Uuid) : Proc inbox Notification := do
  let found ← Prisma.Notification.findUnique notificationId
  let notif ← Proc.require found
    (.http .notFound "NOTIFICATION_NOT_FOUND" "Notification not found")
  Proc.rejectIf (notif.userId ≠ actorUserId)
    (.http .forbidden "RESOURCE_FORBIDDEN" "You are not authorized to modify this notification")
  Prisma.Notification.update notificationId .read

/-- A call of the service. -/
inductive Request where
  | sendOperationalNotification (asked : Operational)
  | markAsRead (notificationId actorUserId : Uuid)

/-- A call as a process. -/
def Request.process (fcmServerKey : Option String) : Request → Proc inbox Notification
  | .sendOperationalNotification asked =>
      NotificationService.sendOperationalNotification fcmServerKey asked
  | .markAsRead notificationId actorUserId =>
      NotificationService.markAsRead notificationId actorUserId

end NotificationService

end Armada.Notifications
