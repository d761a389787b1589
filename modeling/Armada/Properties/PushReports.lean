import Armada.Notifications.FcmNotificationProvider

/-!
# Push reports

What the provider reports is what FCM has accepted exactly if FCM answers, and accepts a token
or reports every token as unregistered.
-/

namespace Armada.Notifications

open FcmNotificationProvider

/-! ## What the provider reports -/

/-- The number of tokens that an answer accepts. -/
def accepted (answer : Except String FcmResponse) : Nat :=
  match answeredBody answer with
  | some data => (data.results.getD []).countP fun res => res.error.isNone
  | none => 0

/-- The tokens that an answer reports as unregistered. -/
def unregistered (tokens : List String) (answer : Except String FcmResponse) : List String :=
  match answeredBody answer with
  | some data =>
      ((tokens.zip (data.results.getD [])).filter fun pair => pair.2.unregistered).map Prod.fst
  | none => []

/-- The result is what the answer says. -/
structure Truthful (tokens : List String) (answer : Except String FcmResponse)
    (result : PushNotificationResult) : Prop where
  sent : result.sentCount = accepted answer
  total : result.sentCount + result.failedCount = tokens.length
  invalid : result.invalidTokens = (unregistered tokens answer).map some

/-- Every token is reported as unregistered. -/
def Refused (answer : Except String FcmResponse) : Prop :=
  ∃ data answers, answeredBody answer = some data ∧ data.results = some answers ∧
    ∀ res ∈ answers, res.unregistered = true

/-- A token is accepted. -/
def Accepted (answer : Except String FcmResponse) : Prop :=
  ∃ data answers, answeredBody answer = some data ∧ data.results = some answers ∧
    ∃ res ∈ answers, res.error = none

/-- Filtering the answers with their places is filtering them beside their tokens. -/
theorem filterMap_zipIdx (kind : FcmResult → Bool) {tokens : List String}
    {answers : List FcmResult} (length : answers.length = tokens.length) (passed : List String) :
    ((answers.zipIdx passed.length).filterMap fun entry =>
        if kind entry.1 then some (passed ++ tokens)[entry.2]? else none) =
      (((tokens.zip answers).filter fun pair => kind pair.2).map Prod.fst).map some := by
  induction tokens generalizing answers passed with
  | nil =>
      obtain rfl := List.eq_nil_of_length_eq_zero length
      rfl
  | cons token tokens inductionHypothesis =>
      cases answers with
      | nil => cases length
      | cons res answers =>
          have rest := inductionHypothesis (Nat.succ.inj length) (passed ++ [token])
          simp only [List.length_append, List.length_singleton, List.append_assoc,
            List.singleton_append] at rest
          rw [List.zipIdx_cons, List.filterMap_cons, List.zip_cons_cons, List.filter_cons]
          by_cases isKind : kind res = true
          · simp [isKind, rest]
          · simp [isKind, rest]

section Answers

variable {data : FcmBody} {tokens : List String} {answers : List FcmResult}

/-- The invalid tokens are those whose answer says unregistered. -/
theorem invalidTokens_eq (matching : data.Matches tokens answers) :
    invalidTokens tokens data =
      (((tokens.zip answers).filter fun pair => pair.2.unregistered).map Prod.fst).map some := by
  rw [invalidTokens, matching.results]
  exact filterMap_zipIdx FcmResult.unregistered matching.length []

/-- There are as many as there are such answers. -/
theorem length_invalidTokens (matching : data.Matches tokens answers) :
    (invalidTokens tokens data).length = answers.countP FcmResult.unregistered := by
  have second : (tokens.zip answers).map Prod.snd = answers :=
    List.map_snd_zip (Nat.le_of_eq matching.length)
  rw [invalidTokens_eq matching, List.length_map, List.length_map, ← List.countP_eq_length_filter]
  conv_rhs => rw [← second, List.countP_map]
  rfl

/-- Every token is accepted or not. -/
theorem countP_accepted (matching : data.Matches tokens answers) :
    (answers.countP fun res => res.error.isNone) +
      (answers.countP fun res => res.error.isSome) = tokens.length := by
  have others : (answers.countP fun res => res.error.isSome) =
      answers.countP fun res => ¬(res.error.isNone = true) :=
    List.countP_congr fun res _ => by simp [Option.isSome_iff_ne_none]
  rw [others, ← matching.length]
  exact (List.length_eq_countP_add_countP _).symm

/-- A token that is reported as unregistered is not accepted. -/
theorem countP_unregistered (answers : List FcmResult) :
    answers.countP FcmResult.unregistered ≤ answers.countP fun res => res.error.isSome := by
  refine List.countP_mono_left fun res _ invalid => ?_
  simp only [FcmResult.unregistered, decide_eq_true_eq] at invalid
  rcases invalid with same | same <;> simp [same]

/-- A count of 0 is replaced by the fallback. -/
theorem orCount_eq (count : Nat) (fallback : Int) :
    orCount (some count) fallback = if count = 0 then fallback else count := by
  cases count with
  | zero => rfl
  | succ count => simp [orCount]

/-- The counts that are reported for an answer that has been read. -/
theorem report_truthful (matching : data.Matches tokens answers) (nonempty : tokens ≠ []) :
    ((report tokens data).sentCount = answers.countP (fun res => res.error.isNone) ∧
      (report tokens data).sentCount + (report tokens data).failedCount = tokens.length) ↔
      (∃ res ∈ answers, res.error = none) ∨ ∀ res ∈ answers, res.unregistered = true := by
  have positive := List.length_pos_of_ne_nil nonempty
  have total := countP_accepted matching
  have below := countP_unregistered answers
  have some_accepted : (∃ res ∈ answers, res.error = none) ↔
      0 < answers.countP fun res => res.error.isNone := by
    simp [List.countP_pos_iff]
  have all_unregistered : (∀ res ∈ answers, res.unregistered = true) ↔
      answers.countP FcmResult.unregistered = tokens.length := by
    rw [← matching.length, List.countP_eq_length]
  rw [some_accepted, all_unregistered]
  simp only [report, matching.success, matching.failure, orCount_eq, length_invalidTokens matching]
  split <;> split <;> omega

end Answers

variable {key : String} {fetch : Fetch} {tokens : List String} {payload : PushNotificationPayload}

/-- A body was answered when the response was well and carried one. -/
theorem answeredBody_eq_some {answer : Except String FcmResponse} {data : FcmBody} :
    answeredBody answer = some data ↔
      ∃ response, answer = .ok response ∧ response.ok = true ∧ response.json = some data := by
  cases answer with
  | error message => simp [answeredBody]
  | ok response => by_cases ok : response.ok = true <;> simp [answeredBody, ok]

/-- With a key, FCM is asked. -/
theorem sendPushNotification_answered (configured : key ≠ "") (nonempty : tokens ≠ [])
    {data : FcmBody} (answered : answeredBody (fetch (fcmRequest tokens payload)) = some data) :
    sendPushNotification (some key) fetch tokens payload = report tokens data := by
  simp [sendPushNotification, nonempty, configured, answered]

/-- Without an answer the result is that of the mock. -/
theorem sendPushNotification_unanswered (nonempty : tokens ≠ [])
    (answered : answeredBody (fetch (fcmRequest tokens payload)) = none) :
    sendPushNotification (some key) fetch tokens payload = mockResult tokens := by
  simp [sendPushNotification, nonempty, answered]

/-- An answered body of the documented service matches the tokens. -/
theorem matches_of_answered (documented : fetch.Documented) {data : FcmBody}
    (answered : answeredBody (fetch (fcmRequest tokens payload)) = some data) :
    ∃ answers, data.Matches tokens answers := by
  obtain ⟨response, resolved, ok, json⟩ := answeredBody_eq_some.mp answered
  obtain ⟨body, answers, same, matching⟩ := documented _ response resolved ok
  obtain rfl := Option.some.inj (same.symm.trans json)
  exact ⟨answers, matching⟩

/-- An answer that has been read accepts a token, or refuses every one, by its results. -/
theorem accepted_or_refused {answer : Except String FcmResponse} {data : FcmBody}
    {answers : List FcmResult} (answered : answeredBody answer = some data)
    (results : data.results = some answers) :
    (Accepted answer ↔ ∃ res ∈ answers, res.error = none) ∧
      (Refused answer ↔ ∀ res ∈ answers, res.unregistered = true) := by
  simp [Accepted, Refused, answered, results]

/-- Nothing is sent, and FCM is not asked. -/
theorem sendPushNotification_nil (documented : fetch.Documented) :
    Truthful [] (fetch (fcmRequest [] payload))
      (sendPushNotification (some key) fetch [] payload) := by
  have none_accepted : accepted (fetch (fcmRequest [] payload)) = 0 := by
    rw [accepted]
    split
    · rename_i data answered
      obtain ⟨answers, matching⟩ := matches_of_answered documented answered
      obtain rfl := List.eq_nil_of_length_eq_zero matching.length
      simp [matching.results]
    · rfl
  refine ⟨?_, rfl, ?_⟩
  · rw [none_accepted]
    rfl
  · rw [unregistered]
    split <;> rfl

/-- The provider reports what FCM has answered exactly if there is nothing to send, or FCM
accepts a token or refuses every one. -/
theorem sendPushNotification_truthful (configured : key ≠ "") (documented : fetch.Documented) :
    Truthful tokens (fetch (fcmRequest tokens payload))
        (sendPushNotification (some key) fetch tokens payload) ↔
      tokens = [] ∨ Accepted (fetch (fcmRequest tokens payload)) ∨
        Refused (fetch (fcmRequest tokens payload)) := by
  by_cases nonempty : tokens = []
  · subst nonempty
    exact ⟨fun _ => .inl rfl, fun _ => sendPushNotification_nil documented⟩
  cases answered : answeredBody (fetch (fcmRequest tokens payload)) with
  | none =>
      -- every token is reported as sent, and none is accepted
      rw [sendPushNotification_unanswered nonempty answered]
      refine ⟨fun truthful => ?_, ?_⟩
      · have all := truthful.sent
        rw [accepted, answered] at all
        exact .inl (List.eq_nil_of_length_eq_zero (Int.ofNat_inj.mp all))
      · simp [nonempty, Accepted, Refused, answered]
  | some data =>
      obtain ⟨answers, matching⟩ := matches_of_answered documented answered
      obtain ⟨accepts, refuses⟩ := accepted_or_refused answered matching.results
      have counted : accepted (fetch (fcmRequest tokens payload)) =
          answers.countP fun res => res.error.isNone := by
        simp [accepted, answered, matching.results]
      have listed : (report tokens data).invalidTokens =
          (unregistered tokens (fetch (fcmRequest tokens payload))).map some := by
        simp only [unregistered, answered, matching.results, Option.getD_some]
        exact invalidTokens_eq matching
      rw [sendPushNotification_answered configured nonempty answered, accepts, refuses,
        ← report_truthful matching nonempty]
      constructor
      · exact fun truthful => .inr ⟨counted ▸ truthful.sent, truthful.total⟩
      · rintro (empty | ⟨sent, total⟩)
        · exact absurd empty nonempty
        · exact ⟨counted ▸ sent, total, listed⟩

/-- A count of at least one is reported exactly if not every token is refused. -/
theorem one_le_sentCount (configured : key ≠ "") (documented : fetch.Documented)
    (nonempty : tokens ≠ []) :
    1 ≤ (sendPushNotification (some key) fetch tokens payload).sentCount ↔
      ¬Refused (fetch (fcmRequest tokens payload)) := by
  have positive := List.length_pos_of_ne_nil nonempty
  cases answered : answeredBody (fetch (fcmRequest tokens payload)) with
  | none =>
      rw [sendPushNotification_unanswered nonempty answered]
      simp only [mockResult, Refused, answered]
      simp
      omega
  | some data =>
      obtain ⟨answers, matching⟩ := matches_of_answered documented answered
      obtain ⟨_, refuses⟩ := accepted_or_refused answered matching.results
      have all_unregistered : (∀ res ∈ answers, res.unregistered = true) ↔
          answers.countP FcmResult.unregistered = tokens.length := by
        rw [← matching.length, List.countP_eq_length]
      have total := countP_accepted matching
      have below := countP_unregistered answers
      rw [sendPushNotification_answered configured nonempty answered, refuses, all_unregistered]
      simp only [report, matching.success, orCount_eq, length_invalidTokens matching]
      split <;> omega

end Armada.Notifications
