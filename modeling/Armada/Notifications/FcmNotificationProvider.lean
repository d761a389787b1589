import Armada.Common.LogSanitizer

/-!
# FcmNotificationProvider

`src/modules/notifications/providers/fcm-notification.provider.ts`. What FCM answers comes from
outside. Without a key, without an answer, and after an answer that is not of the 200s, the
provider reports that every token was sent.
-/

namespace Armada.Notifications

open Collections Common

/-- A value of JSON. -/
abbrev Json := LogData Rat

/-- An object of JSON. -/
abbrev JsonRecord := List (String × Json)

/-- What is to be shown on the devices. -/
structure PushNotificationPayload where
  title : String
  body : String
  type : String
  payloadJson : JsonRecord := []

/-- A token is missing where FCM answers for more tokens than it was given. -/
structure PushNotificationResult where
  sentCount : Int
  failedCount : Int
  invalidTokens : List (Option String)
  deriving DecidableEq

/-! ## FCM -/

/-- The body of the request. -/
structure FcmRequest where
  registrationIds : List String
  title : String
  body : String
  data : JsonRecord

/-- The answer for one token. -/
structure FcmResult where
  messageId : Option String := none
  error : Option String := none
  deriving DecidableEq

/-- The token is not known any more. -/
def FcmResult.unregistered (res : FcmResult) : Bool :=
  res.error = some "NotRegistered" ∨ res.error = some "InvalidRegistration"

/-- The fields that are read of the body, where they are there. -/
structure FcmBody where
  success : Option Nat := none
  failure : Option Nat := none
  results : Option (List FcmResult) := none
  deriving DecidableEq

/-- A response with what its body is, unless that is `null` or cannot be read. -/
structure FcmResponse where
  status : Nat
  json : Option FcmBody
  deriving DecidableEq

/-- `fetch` rejects with a message, or resolves. -/
abbrev Fetch := FcmRequest → Except String FcmResponse

/-- `response.ok`. -/
def FcmResponse.ok (response : FcmResponse) : Bool := 200 ≤ response.status ∧ response.status ≤ 299

namespace FcmNotificationProvider

/-- `{ ...record, [key]: value }`, where a key that is there keeps its place. -/
def put (record : JsonRecord) (entry : String × Json) : JsonRecord :=
  if entry.1 ∈ record.map Prod.fst then
    record.map fun old => if old.1 = entry.1 then entry else old
  else record ++ [entry]

/-- `{ type, ...payloadJson }`. -/
def pushData (payload : PushNotificationPayload) : JsonRecord :=
  payload.payloadJson.foldl put [("type", .leaf (.string payload.type))]

/-- The request to the service, for all tokens at once. -/
def fcmRequest (tokens : List String) (payload : PushNotificationPayload) : FcmRequest where
  registrationIds := tokens
  title := payload.title
  body := payload.body
  data := pushData payload

/-- The loop over `data.results`, with the index in `tokens`. -/
def invalidTokens (tokens : List String) (data : FcmBody) : List (Option String) :=
  (data.results.getD []).zipIdx.filterMap fun entry =>
    if entry.1.unregistered then some tokens[entry.2]? else none

/-- `count || fallback`: zero is falsy. -/
def orCount (count : Option Nat) (fallback : Int) : Int :=
  match count with
  | none => fallback
  | some 0 => fallback
  | some (count + 1) => (count + 1 : Nat)

/-- What is reported for an answer that has been read. -/
def report (tokens : List String) (data : FcmBody) : PushNotificationResult where
  sentCount := orCount data.success (tokens.length - (invalidTokens tokens data).length)
  failedCount := orCount data.failure (invalidTokens tokens data).length
  invalidTokens := invalidTokens tokens data

/-- The fallback for an environment without a key. -/
def mockResult (tokens : List String) : PushNotificationResult where
  sentCount := tokens.length
  failedCount := 0
  invalidTokens := []

/-- The body of an answer of the 200s. The `try` block swallows every other end. -/
def answeredBody (answer : Except String FcmResponse) : Option FcmBody :=
  match answer with
  | .ok response => if response.ok then response.json else none
  | .error _ => none

/-- `sendPushNotification`; without a key, and after a failure, it falls through to the mock. -/
def sendPushNotification (fcmServerKey : Option String) (fetch : Fetch) (tokens : List String)
    (payload : PushNotificationPayload) : PushNotificationResult :=
  if tokens = [] then ⟨0, 0, []⟩
  else if (fcmServerKey.getD "") = "" then mockResult tokens
  else
    match answeredBody (fetch (fcmRequest tokens payload)) with
    | some data => report tokens data
    | none => mockResult tokens

end FcmNotificationProvider

/-! ## What FCM documents -/

/-- One result for each token, and counts that match the results. -/
structure FcmBody.Matches (data : FcmBody) (tokens : List String) (answers : List FcmResult) :
    Prop where
  results : data.results = some answers
  length : answers.length = tokens.length
  success : data.success = some (answers.countP fun res => res.error.isNone)
  failure : data.failure = some (answers.countP fun res => res.error.isSome)

/-- An answer of the 200s has a body that matches the request. -/
def Fetch.Documented (fetch : Fetch) : Prop :=
  ∀ request response, fetch request = .ok response → response.ok = true →
    ∃ data answers, response.json = some data ∧ data.Matches request.registrationIds answers

end Armada.Notifications
