import Armada.WriteLocks

/-!
# Answers

What the operations under an idempotency key answer: a body that reports a row of the store. A
record, once committed, keeps its body, and no row that a body reports is removed.
-/

namespace Armada

open Relational Concurrency

namespace Db

/-- The row that a body reports is there. The placeholder reports none. -/
def Reports (db : Db) : ResponseBody → Prop
  | .pending => False
  | .pod podId stopId completedAt =>
      ∃ row, db.pod? stopId = some row ∧ row.id = podId ∧ row.completedAt = completedAt
  | .route routeId deliveryId version _ _ =>
      ∃ row, db.routes.find? routeId = some row ∧ row.deliveryId = deliveryId ∧
        row.version = version
  | .reorder routeId deliveryId version _ _ =>
      ∃ row, db.routes.find? routeId = some row ∧ row.deliveryId = deliveryId.uuid ∧
        row.version = version
  | .message row => db.messages.find? row.id = some row

/-- Every record has a body that reports a row. -/
def Settled (db : Db) : Prop :=
  ∀ key record, db.record? key = some record → db.Reports record.responseBody

/-- A body that reports a row, and that is recorded under its key. -/
def Recorded (db : Db) (key : Option IdempotencyKey) (body : ResponseBody) : Prop :=
  db.Reports body ∧ ∀ own ∈ key, ∃ record, db.record? own = some record ∧ record.responseBody = body

/-- The events that tell of proofs for a stop. -/
def submissions (db : Db) (stopId : Uuid) : List DeliveryEvent :=
  db.deliveryEvents.filter fun event => event.eventType = "POD_SUBMITTED" ∧
    event.stopId = some stopId

/-- A proof is submitted for a stop once, and is there from then on. -/
def SubmittedOnce (db : Db) : Prop :=
  ∀ stopId, (db.submissions stopId).length ≤ 1 ∧ (db.submissions stopId ≠ [] →
    db.pod? stopId ≠ none)

/-- The rows that bodies report stay. -/
structure Retains (before after : Db) : Prop where
  pods : ∀ stopId row, before.pod? stopId = some row → ∃ later, after.pod? stopId = some later ∧
    later.id = row.id ∧ later.completedAt = row.completedAt
  routes : ∀ id row, before.routes.find? id = some row → after.routes.find? id = some row
  messages : ∀ id row, before.messages.find? id = some row → after.messages.find? id = some row

/-- Records stay as they are. -/
def KeepsRecords (before after : Db) : Prop :=
  ∀ key record, before.record? key = some record → after.record? key = some record

variable {first second third db : Db}

namespace Retains

/-- Nothing is lost at once. -/
theorem refl (db : Db) : db.Retains db :=
  ⟨fun _ row found => ⟨row, found, rfl, rfl⟩, fun _ _ found => found, fun _ _ found => found⟩

/-- What is retained twice is retained. -/
theorem trans (left : first.Retains second) (right : second.Retains third) :
    first.Retains third where
  pods stopId row found := by
    obtain ⟨between, foundBetween, id, time⟩ := left.pods stopId row found
    obtain ⟨later, foundLater, idLater, timeLater⟩ := right.pods stopId between foundBetween
    exact ⟨later, foundLater, idLater.trans id, timeLater.trans time⟩
  routes id row found := right.routes id row (left.routes id row found)
  messages id row found := right.messages id row (left.messages id row found)

/-- No write removes such a row. -/
theorem apply (write : Write) (db : Db) : db.Retains (write.apply db) where
  pods stopId row found := by
    rw [write.pod?_apply, found]
    cases write with
    | updatePod key data =>
        by_cases here : stopId = key
        · exact ⟨data.set row, if_pos here, rfl, rfl⟩
        · exact ⟨row, if_neg here, rfl, rfl⟩
    | _ => exact ⟨row, rfl, rfl, rfl⟩
  routes id row found := by
    cases write with
    | createRoute added => exact Table.find?_insert_of_some found
    | _ => exact found
  messages id row found := by
    cases write with
    | createMessage added => exact Table.find?_insert_of_some found
    | _ => exact found

/-- No commit takes a row away. -/
theorem commit (writes : List Write) (db : Db) : db.Retains (db.commit writes) := by
  induction writes generalizing db with
  | nil => exact refl db
  | cons write writes inductionHypothesis =>
      exact (apply write db).trans (inductionHypothesis (write.apply db))

/-- What was reported is reported still. -/
theorem reports (retains : first.Retains second) {body : ResponseBody}
    (reported : first.Reports body) :
    second.Reports body := by
  cases body with
  | pending => exact reported
  | pod podId stopId completedAt =>
      obtain ⟨row, found, rfl, rfl⟩ := reported
      exact retains.pods stopId row found
  | route routeId deliveryId version source selectedAt =>
      obtain ⟨row, found, same⟩ := reported
      exact ⟨row, retains.routes routeId row found, same⟩
  | reorder routeId deliveryId version source updatedAt =>
      obtain ⟨row, found, same⟩ := reported
      exact ⟨row, retains.routes routeId row found, same⟩
  | message row => exact retains.messages row.id row reported

/-- A recorded body stays recorded while the records are kept. -/
theorem recorded (retains : first.Retains second) (records : first.KeepsRecords second)
    {key : Option IdempotencyKey} {body : ResponseBody} (recorded : first.Recorded key body) :
    second.Recorded key body := by
  refine ⟨retains.reports recorded.1, fun own isKey => ?_⟩
  obtain ⟨record, found, same⟩ := recorded.2 own isKey
  exact ⟨record, records own record found, same⟩

end Retains

end Db

/-! ## Commits -/

/-- What a commit does to records and submissions. -/
structure Answering (held : List Lock) (writes : List Write) (db : Db) : Prop where
  /-- Routes are made under the lock of their delivery. -/
  routes : ∀ row, .createRoute row ∈ writes → .delivery row.deliveryId ∈ held
  records : db.KeepsRecords (db.commit writes)
  settles : ∀ key record, db.record? key = none → (db.commit writes).record? key = some record →
    (db.commit writes).Reports record.responseBody
  once : db.SubmittedOnce → (db.commit writes).SubmittedOnce

/-- A write that touches no record and tells of no proof. -/
def Write.unkeyed : Write → Bool
  | .createRecord _ | .updateRecord .. | .createRoute _ => false
  | .createEvent row => row.eventType ≠ "POD_SUBMITTED"
  | _ => true

section Unkeyed

variable {db : Db} {held : List Lock} {writes : List Write}

/-- A write that touches no record. -/
def Write.unrecorded : Write → Bool
  | .createRecord _ | .updateRecord .. => false
  | _ => true

/-- Writes beside the records leave each as it is. -/
theorem record?_of_unrecorded (unrecorded : ∀ write ∈ writes, write.unrecorded = true)
    (key : IdempotencyKey) : (db.commit writes).record? key = db.record? key := by
  refine Db.commit_idle (·.record? key) (fun write member db => ?_) db
  have own := unrecorded write member
  rw [write.record?_apply]
  cases write <;> first | rfl | cases own

/-- So do writes under no key. -/
theorem record?_of_unkeyed (unkeyed : ∀ write ∈ writes, write.unkeyed = true)
    (key : IdempotencyKey) : (db.commit writes).record? key = db.record? key := by
  refine record?_of_unrecorded (fun write member => ?_) key
  have own := unkeyed write member
  cases write <;> first | rfl | cases own

/-- Nor do they submit a proof. -/
theorem submissions_of_unkeyed (unkeyed : ∀ write ∈ writes, write.unkeyed = true) (stopId : Uuid) :
    (db.commit writes).submissions stopId = db.submissions stopId := by
  refine Db.commit_idle (·.submissions stopId) (fun write member db => ?_) db
  have own := unkeyed write member
  cases write with
  | createEvent row =>
      have other : ¬(row.eventType = "POD_SUBMITTED" ∧ row.stopId = some stopId) :=
        fun both => of_decide_eq_true own both.1
      simp [Db.submissions, Write.apply, List.filter_append, other]
  | _ => rfl

/-- The submissions stay, and the proofs too. -/
theorem Db.SubmittedOnce.of_submissions {after : Db} (once : db.SubmittedOnce)
    (same : ∀ stopId, after.submissions stopId = db.submissions stopId)
    (retains : db.Retains after) : after.SubmittedOnce := by
  intro stopId
  rw [same]
  obtain ⟨single, proven⟩ := once stopId
  refine ⟨single, fun told => ?_⟩
  obtain ⟨row, found⟩ := Option.ne_none_iff_exists'.mp (proven told)
  obtain ⟨later, foundLater, _⟩ := retains.pods stopId row found
  exact Option.ne_none_iff_exists'.mpr ⟨later, foundLater⟩

/-- Writes under no key answer nobody. -/
theorem Answering.of_unkeyed (unkeyed : ∀ write ∈ writes, write.unkeyed = true) :
    Answering held writes db where
  routes row member := nomatch unkeyed _ member
  records key record found := (record?_of_unkeyed unkeyed key).trans found
  settles key record absent found := by
    rw [record?_of_unkeyed unkeyed, absent] at found
    cases found
  once once := once.of_submissions (submissions_of_unkeyed unkeyed) (.commit writes db)

/-- A keyed transaction records what it has done: its key was free, and holds the body now. -/
theorem record?_of_claim {key : Option IdempotencyKey} {claimed made : List Write} {status : Nat}
    {body : ResponseBody} (claim : Claimed db key claimed)
    (unrecorded : ∀ write ∈ made, write.unrecorded = true) (other : IdempotencyKey) :
    ∃ expiresAt, (db.commit (claimed ++ made ++ settled key status body)).record? other =
      if key = some other then some ⟨other, status, body, expiresAt⟩ else db.record? other := by
  cases claim with
  | keyless =>
      refine ⟨0, ?_⟩
      rw [settled, Option.toList_none, List.map_nil, List.append_nil, List.nil_append,
        record?_of_unrecorded unrecorded]
      rfl
  | @placed own row absent keyed =>
      subst keyed
      refine ⟨row.expiresAt, ?_⟩
      rw [settled, Option.toList_some, List.map_singleton, Db.commit_append, Db.commit_cons,
        Db.commit_nil, Write.record?_apply, Db.commit_append, record?_of_unrecorded unrecorded,
        Db.commit_cons, Db.commit_nil, Write.record?_apply, Write.onRecord, Write.onRecord]
      by_cases same : row.keyUserEndpoint = other
      · subst same
        rw [if_pos rfl, if_pos rfl, if_pos rfl, absent]
        rfl
      · rw [if_neg (Ne.symm same), if_neg same, Option.or_none,
          if_neg (fun equal => same (Option.some.inj equal))]

/-- A key that could be claimed had no record. -/
theorem Claimed.free {key : Option IdempotencyKey} {claimed : List Write}
    (claim : Claimed db key claimed) {own : IdempotencyKey} (isKey : key = some own) :
    db.record? own = none := by
  cases claim with
  | keyless => cases isKey
  | placed absent keyed => exact Option.some.inj isKey ▸ absent

/-- A keyed transaction whose body reports what it has made. -/
theorem Answering.of_claim {key : Option IdempotencyKey} {claimed made : List Write} {status : Nat}
    {body : ResponseBody} (claim : Claimed db key claimed)
    (unrecorded : ∀ write ∈ made, write.unrecorded = true)
    (routes : ∀ row, .createRoute row ∈ made → .delivery row.deliveryId ∈ held)
    (reports : (db.commit (claimed ++ made ++ settled key status body)).Reports body)
    (once : db.SubmittedOnce →
      (db.commit (claimed ++ made ++ settled key status body)).SubmittedOnce) :
    Answering held (claimed ++ made ++ settled key status body) db ∧
      (db.commit (claimed ++ made ++ settled key status body)).Recorded key body := by
  have records := @record?_of_claim db key claimed made status body claim unrecorded
  refine ⟨⟨fun row member => ?_, fun own record found => ?_, fun own record absent found => ?_,
    once⟩, reports, fun own isKey => ?_⟩
  · rcases List.mem_append.mp member with before | last
    · rcases List.mem_append.mp before with first | second
      · cases claim with
        | keyless => exact absurd first List.not_mem_nil
        | placed => exact nomatch List.mem_singleton.mp first
      · exact routes row second
    · obtain ⟨own, _, impossible⟩ := List.mem_map.mp last
      exact nomatch impossible
  · obtain ⟨expiresAt, now⟩ := records own
    have other : key ≠ some own := by
      intro same
      rw [claim.free same] at found
      cases found
    rw [now, if_neg other]
    exact found
  · obtain ⟨expiresAt, now⟩ := records own
    rw [now] at found
    split at found
    · cases found
      exact reports
    · rw [absent] at found
      cases found
  · obtain ⟨expiresAt, now⟩ := records own
    exact ⟨_, now.trans (if_pos isKey), rfl⟩

/-- Without writes there is nothing to answer for. -/
theorem Answering.nothing : Answering held [] db := .of_unkeyed (List.forall_mem_nil _)

end Unkeyed

end Armada
