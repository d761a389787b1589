import Armada.Concurrency.RowHistory
import Armada.WriteLocks

/-!
# How far a stop has come

The steps of drivers and operators, submissions, overrides and reorders all update a stop under
its lock, from a status that the update itself tests. However they interleave under READ COMMITTED
a stop does not go back, its times tell what has happened to it, and each of its steps is taken by
one request at most.
-/

namespace Armada

open Relational Concurrency

/-! ## A stop as a row -/

/-- A stop, and its lock. -/
def stopRow (id : Uuid) : Row store (Option DeliveryStop) where
  read db := db.stop? id
  change := Write.onStop id
  own := .stop id
  read_apply write db := write.stop?_apply db id

variable {id : Uuid} {overrides : Prop} {found : Option DeliveryStop}

/-- The updates of the stop's row are guarded by its lock. -/
theorem stopRow_guarded (id : Uuid) (overrides : Prop) :
    (stopRow id).Guarded Write.lock (Write.StepsStop overrides id) where
  reflexive _ := rfl
  idle write value other := by
    cases write with
    | createStop row =>
        have apart : ¬row.id = id := fun same => other (by rw [Write.lock, same]; rfl)
        exact (congrArg value.or (if_neg apart)).trans Option.or_none
    | updateStop key data => exact if_neg fun same => other (by rw [Write.lock, same]; rfl)
    | _ => rfl
  free write value other := by
    cases write with
    | createStop row => exact fun same => absurd (by rw [Write.lock, same]; rfl) other
    | updateStop key data => exact fun same => absurd (by rw [Write.lock, same]; rfl) other
    | _ => trivial

/-- A call that writes one row, or rows without a lock, follows what it may write. -/
theorem Tidy.follows {V β : Type} {row : Row store V} {permitted : Write → V → Prop}
    {statement : Statement store β} (guarded : row.Guarded Write.lock permitted)
    (tidy : Tidy (fun db write => permitted write (row.read db)) statement) :
    row.Follows Write.lock permitted statement where
  locking := tidy.locking
  path input db value writes executed := by
    rcases tidy.single input db value writes executed with few | lockless
    · have permits := tidy.writes input db value writes executed
      cases writes with
      | nil => trivial
      | cons write rest =>
          obtain rfl : rest = [] := List.eq_nil_of_length_eq_zero (by simpa using few)
          exact ⟨permits write List.mem_cons_self, trivial⟩
    · refine guarded.path_of_apart fun write member same => ?_
      rw [lockless write member] at same
      cases same

/-- The requests of a run that may override. -/
def Overrides (requests : List Request) (thread : Nat) : Prop :=
  ∃ request, requests[thread]? = some request ∧ request.mayOverride

/-- What the threads of requests may do to a stop. -/
abbrev stopAllowed (requests : List Request) (id : Uuid) (thread : Nat) :
    Write → Option DeliveryStop → Prop :=
  Write.StepsStop (Overrides requests thread) id

/-! ## Times -/

/-- The stop that is there is consistent. -/
def WellTimed (found : Option DeliveryStop) : Prop := ∀ row ∈ found, row.Timed

/-- The stop stays, and nothing that has happened to it is undone. -/
def Progresses (before after : Option DeliveryStop) : Prop :=
  WellTimed before → WellTimed after ∧ ∀ row ∈ before, ∃ later ∈ after, row.Onward later

/-- No change progresses. -/
theorem Progresses.refl (found : Option DeliveryStop) : Progresses found found :=
  fun timely => ⟨timely, fun row present => ⟨row, present, .refl row⟩⟩

/-- Progress is transitive. -/
theorem Progresses.trans {first second third : Option DeliveryStop} (left : Progresses first second)
    (right : Progresses second third) : Progresses first third := by
  intro timely
  obtain ⟨timelySecond, laterSecond⟩ := left timely
  obtain ⟨timelyThird, laterThird⟩ := right timelySecond
  refine ⟨timelyThird, fun row present => ?_⟩
  obtain ⟨between, foundBetween, onward⟩ := laterSecond row present
  obtain ⟨later, foundLater, further⟩ := laterThird between foundBetween
  exact ⟨later, foundLater, onward.trans further⟩

/-- A step of the stop progresses. -/
theorem Write.StepsStop.advances {write : Write} (steps : write.StepsStop overrides id found) :
    Progresses found (write.onStop id found) := by
  cases write with
  | createStop row =>
      by_cases own : row.id = id
      · obtain ⟨rfl, fresh⟩ := steps own
        rw [Write.onStop, if_pos own, Option.none_or]
        refine fun _ => ⟨fun other same => Option.some.inj same ▸ fresh.timed, fun other same => ?_⟩
        cases same
      · rw [Write.onStop, if_neg own, Option.or_none]
        exact .refl found
  | updateStop key data =>
      by_cases own : id = key
      · obtain ⟨row, rfl, change⟩ := steps own
        rw [Write.onStop, if_pos own]
        intro timely
        have timed := timely row rfl
        refine ⟨fun other same => Option.some.inj same ▸ change.timed timed, fun other same => ?_⟩
        exact ⟨data.set row, rfl, Option.some.inj same ▸ change.onward timed⟩
      · rw [Write.onStop, if_neg own]
        exact .refl found
  | _ => exact .refl found

/-- So does a path of steps. -/
theorem advances_of_path {writes : List Write}
    (path : (stopRow id).Path (Write.StepsStop overrides id) writes found) :
    Progresses found ((stopRow id).after writes found) := by
  induction writes generalizing found with
  | nil => exact .refl found
  | cons write writes inductionHypothesis =>
      exact path.1.advances.trans (inductionHypothesis path.2)

/-! ## What a request has written -/

/-- A step of a stop to a status is among the writes. -/
def Took (id : Uuid) (status : StopStatus) (written : List Write) : Prop :=
  ∃ expected data, StopUpdate expected data ∧ data.status = some status ∧
    .updateStop id data ∈ written

/-- What was taken stays taken as more is written. -/
theorem Took.grow {status : StopStatus} {written later : List Write} (took : Took id status written)
    (grows : written ⊆ later) : Took id status later := by
  obtain ⟨expected, data, update, target, member⟩ := took
  exact ⟨expected, data, update, target, grows member⟩

/-- The step that a request has taken, if it answers so. -/
def Request.took : Request → Response → Option (Uuid × StopStatus)
  | .departToStop id .., .stop _ => some (id, .enRoute)
  | .arriveAtStop id .., .stop _ => some (id, .arrived)
  | .startUnloading id .., .stop _ => some (id, .unloading)
  | .failStop id .., .stop _ => some (id, .failed)
  | .skipStop id .., .stop _ => some (id, .skipped)
  | .submitPod id .., .pod (.reply (.fresh _)) => some (id, .delivered)
  | _, _ => none

section Own

open Proc.Meets (own_trivial)

/-- What is known of the writes lasts to the end of the process. -/
theorem took_after {α : Type} (process : Proc store α) {status : StopStatus} {written : List Write}
    (took : Took id status written) :
    process.Meets .own (OnResult (fun _ written => Took id status written) fun _ _ =>
      True) written := by
  refine (Proc.Meets.accumulates process written).weaken fun result later grows => ?_
  cases result with
  | error error => trivial
  | ok value => exact took.grow grows.subset

/-- What the last part of a process has written, whatever the first has. -/
theorem own_of_bind {α β : Type} {first : Proc store β} {next : β → Proc store α}
    {post : α → List Write → Prop} {written : List Write}
    (rest : ∀ value written, (next value).Meets .own (OnResult post fun _ _ => True) written) :
    (first >>= next).Meets .own (OnResult post fun _ _ => True) written :=
  (own_trivial first written).bind (fun _ _ _ => trivial) fun value written _ => rest value written

namespace DeliveryStopsService

/-- An update that returns has taken its step. -/
theorem updateStopIfOperational_took {expected : List StopStatus} {data : Input → StopData}
    {status : StopStatus} (update : ∀ input, StopUpdate expected (data input))
    (target : ∀ input, (data input).status = some status) (written : List Write) :
    (updateStopIfOperational id expected data).Meets .own
      (OnResult (fun _ written => Took id status written) fun _ _ => True) written := by
  refine Proc.Meets.bind (Q := OnResult (fun count written => count = 1 → Took id status written)
    fun _ _ => True) ?_ (fun _ _ _ => trivial) fun count later took =>
      .ite (fun rejected => ?_) fun accepted => ?_
  · rw [Proc.meets_lift]
    refine ⟨fun state input count writes executed isOne => ?_, fun _ => trivial⟩
    obtain ⟨_, ⟨_, _, rfl⟩ | ⟨_, rfl, _⟩⟩ := Prisma.DeliveryStop.updateMany_succeeds.mp executed
    · exact ⟨expected, data input, update input, target input, by simp⟩
    · cases isOne
  · -- the error depends on what is read, but there is one
    refine own_of_bind fun current later => ?_
    cases current with
    | none => trivial
    | some found => exact own_of_bind fun _ _ => (Proc.meets_throw _ _).mpr trivial
  · exact took_after _ (took (Decidable.not_not.mp accepted))

/-- A departure that returns has taken its step. -/
theorem departToStop_took (actorDriverId actorUserId : Uuid) :
    (departToStop id actorDriverId actorUserId).Meets .own
      (OnResult (fun _ written => Took id .enRoute written) fun _ _ => True) [] := by
  refine own_of_bind fun found _ => own_of_bind fun _ _ => own_of_bind fun _ written => ?_
  refine (updateStopIfOperational_took (fun _ => .departed) (fun _ => rfl) written).bind
    (fun _ _ _ => trivial) fun _ _ took => took_after _ took

/-- So has an arrival. -/
theorem arriveAtStop_took (actorDriverId actorUserId : Uuid) :
    (arriveAtStop id actorDriverId actorUserId).Meets .own
      (OnResult (fun _ written => Took id .arrived written) fun _ _ => True) [] := by
  refine own_of_bind fun found _ => own_of_bind fun _ _ => own_of_bind fun _ written => ?_
  exact (updateStopIfOperational_took (fun _ => .arrived _) (fun _ => rfl) written).bind
    (fun _ _ _ => trivial) fun _ _ took => took_after _ took

/-- So has the start of the unloading. -/
theorem startUnloading_took (actorDriverId actorUserId : Uuid) :
    (startUnloading id actorDriverId actorUserId).Meets .own
      (OnResult (fun _ written => Took id .unloading written) fun _ _ => True) [] := by
  refine own_of_bind fun found _ => own_of_bind fun _ _ => own_of_bind fun _ written => ?_
  exact (updateStopIfOperational_took (fun _ => .unloading) (fun _ => rfl) written).bind
    (fun _ _ _ => trivial) fun _ _ took => took_after _ took

/-- So has a failed stop. -/
theorem failStop_took (dto : StopReasonDto) (actorDriverId actorUserId : Uuid) :
    (failStop id dto actorDriverId actorUserId).Meets .own
      (OnResult (fun _ written => Took id .failed written) fun _ _ => True) [] := by
  refine own_of_bind fun found _ => own_of_bind fun _ _ => own_of_bind fun _ written => ?_
  exact (updateStopIfOperational_took (fun _ => .failed _) (fun _ => rfl) written).bind
    (fun _ _ _ => trivial) fun _ _ took => took_after _ took

/-- So has a skipped one. -/
theorem skipStop_took (dto : StopReasonDto) (actor : DeliveryActor) :
    (skipStop id dto actor).Meets .own
      (OnResult (fun _ written => Took id .skipped written) fun _ _ => True) [] := by
  refine own_of_bind fun found _ => own_of_bind fun _ _ => own_of_bind fun _ _ =>
    own_of_bind fun _ written => ?_
  exact (updateStopIfOperational_took (fun _ => .skipped) (fun _ => rfl) written).bind
    (fun _ _ _ => trivial) fun _ _ took => took_after _ took

end DeliveryStopsService

namespace PodService

variable [UuidText]

/-- The transaction of a submission delivers the stop. -/
theorem claimPod_took (deliveryId : Uuid) (dto : SubmitPodDto) (actor : DeliveryActor)
    (state : Db) :
    (claimPod id deliveryId dto actor).Holds (fun _ _ _ => True)
      (fun _ _ made _ => Took id .delivered made) [] [] state := by
  have onwards : ∀ {β : Type} (body : Txn store β) {held made state}, Took id .delivered made →
      body.Holds (fun _ _ _ => True) (fun _ _ made _ =>
        Took id .delivered made) held made state := by
    intro β body held made state took
    have ends : body.Holds (fun _ _ _ => True) (fun _ _ _ _ => True) held made state :=
      .always (fun _ _ _ _ => trivial) body held made state
    exact ends.grows.mono fun _ _ _ _ both => took.grow both.2.subset
  rw [claimPod, Txn.holds_bind]
  refine Txn.Holds.always (S := store) (fun _ held made state => ?_) _ [] [] state
  rw [Txn.holds_bind, Txn.holds_lift]
  intro next _ input count writes executed
  rw [Txn.holds_bind, Txn.holds_rejectIf]
  intro claimed
  obtain ⟨_, ⟨_, _, rfl⟩ | ⟨_, rfl, _⟩⟩ := Prisma.DeliveryStop.updateMany_succeeds.mp executed
  · exact onwards _ ⟨_, _, .delivered input.now, rfl, by simp⟩
  · exact absurd (by decide) claimed

omit [UuidText] in
/-- What is recovered after an error is a replay. -/
theorem recover_replays (key : Option IdempotencyKey) (clash : Exception → Bool) (error : Exception)
    (written : List Write) : (Idempotency.recover key clash error).Meets .own
      (OnResult (fun reply written => ∀ body, reply = .fresh body → Took id .delivered written)
        fun _ _ => True) written := by
  cases key with
  | none => trivial
  | some key =>
      refine .ite (fun _ => own_of_bind fun record _ => ?_) fun _ => trivial
      cases record with
      | none => trivial
      | some record => exact nofun

/-- A submission that is not a replay has delivered the stop. -/
theorem submitPod_took (dto : SubmitPodDto) (actor : DeliveryActor) :
    (submitPod id dto actor).Meets .own (OnResult (fun reply written => ∀ body,
      reply = .reply (.fresh body) → Took id .delivered written) fun _ _ => True) [] := by
  refine own_of_bind fun found _ => own_of_bind fun existing written => ?_
  cases existing with
  | some body => exact nofun
  | none =>
      refine .ite (fun _ => own_of_bind fun _ _ => (Proc.meets_pure _ _).mpr nofun) fun _ => ?_
      refine own_of_bind fun _ _ => own_of_bind fun _ written => ?_
      refine Proc.Meets.bind (Q := OnResult (fun reply written => ∀ body, reply = .fresh body →
        Took id .delivered written) fun _ _ => True) ?_ (fun _ _ _ => trivial)
        fun reply written took => ?_
      · refine Proc.Meets.tryCatch (Q := OnResult (fun _ written => Took id .delivered written)
          fun _ _ => True) ?_ (fun _ _ took _ _ => took) fun error written _ => ?_
        · rw [Proc.meets_map, Proc.meets_transact]
          refine ⟨fun state => (claimPod_took _ dto actor state).mono fun _ _ made _ took => ?_,
            fun _ => trivial⟩
          exact took.grow (List.suffix_append written made).subset
        · exact recover_replays _ _ error written
      · cases reply with
        | replayed body => exact nofun
        | fresh body =>
            refine (took_after _ (took body rfl)).weaken fun result later known => ?_
            cases result with
            | error error => trivial
            | ok reply => exact fun _ _ => known

end PodService

end Own

section Requests

open Proc.Meets (own_trivial)

variable [UuidText]

/-- The request has written the step that it answers with. -/
abbrev Request.Tells (request : Request) : Prop :=
  request.proc.Meets .own (OnResult (fun response written => ∀ id status,
    request.took response = some (id, status) → Took id status written) fun _ _ => True) []

/-- A request tells what its process answers. -/
theorem Request.tells_of {α : Type} {request : Request} {process : Proc store α}
    {answer : α → Response} {known : α → List Write → Prop}
    (is : request.proc = answer <$> process)
    (met : process.Meets .own (OnResult known fun _ _ => True) [])
    (answers : ∀ value written id status, known value written →
      request.took (answer value) = some (id, status) →
        Took id status written) : request.Tells := by
  rw [Request.Tells, is, Proc.meets_map]
  refine met.weaken fun result written post => ?_
  cases result with
  | error error => trivial
  | ok value => exact fun id status => answers value written id status post

/-- A request that takes no step of its own. -/
theorem Request.tells_of_none {α : Type} {request : Request} {process : Proc store α}
    {answer : α → Response} (is : request.proc = answer <$> process)
    (none : ∀ value, request.took (answer value) = none) : request.Tells := by
  have met : process.Meets .own (OnResult (fun _ _ => True) fun _ _ => True) [] :=
    (own_trivial process []).weaken fun result _ _ => by cases result <;> trivial
  refine Request.tells_of is met fun value _ _ _ _ told => ?_
  rw [none] at told
  cases told

open DeliveryStopsService in
/-- Every request tells what it took. -/
theorem Request.tells (request : Request) : request.Tells := by
  cases request with
  | departToStop id driver user =>
      exact tells_of rfl (departToStop_took driver user) fun _ _ _ _ took told => by
        cases told
        exact took
  | arriveAtStop id driver user =>
      exact tells_of rfl (arriveAtStop_took driver user) fun _ _ _ _ took told => by
        cases told
        exact took
  | startUnloading id driver user =>
      exact tells_of rfl (startUnloading_took driver user) fun _ _ _ _ took told => by
        cases told
        exact took
  | failStop id dto driver user =>
      exact tells_of rfl (failStop_took dto driver user) fun _ _ _ _ took told => by
        cases told
        exact took
  | skipStop id dto actor =>
      exact tells_of rfl (skipStop_took dto actor) fun _ _ _ _ took told => by
        cases told
        exact took
  | submitPod id dto actor =>
      refine tells_of rfl (PodService.submitPod_took dto actor) fun reply _ _ _ took told => ?_
      match reply with
      | .reply (.fresh body) =>
          cases told
          exact took body rfl
  | _ => exact tells_of_none rfl fun _ => rfl

end Requests

/-! ## Levels -/

/-- A step leaves the stop at least at the level it had passed. -/
theorem Write.StepsStop.level_le {write : Write} {level : Nat}
    (steps : write.StepsStop overrides id found) (passed : ∃ row ∈ found,
      level ≤ row.status.level) :
    ∃ row ∈ write.onStop id found, level ≤ row.status.level := by
  obtain ⟨row, rfl, high⟩ := passed
  cases write with
  | createStop added => exact ⟨row, rfl, high⟩
  | updateStop key data =>
      rw [Write.onStop]
      split
      · rename_i own
        obtain ⟨same, isSame, change⟩ := steps own
        cases isSame
        exact ⟨data.set row, rfl, high.trans change.level_le⟩
      · exact ⟨row, rfl, high⟩
  | _ => exact ⟨row, rfl, high⟩

/-- A level of a stop, below which it does not fall. -/
def levelBound (requests : List Request) (id : Uuid) (level : Nat) :
    (stopRow id).Bound (stopAllowed requests id) where
  passed found := ∃ row ∈ found, level ≤ row.status.level
  kept allowed passed := Write.StepsStop.level_le allowed passed

/-- Who steps to a level, and does not override, passes it. -/
theorem passes_of_step {requests : List Request} (id : Uuid) {thread : Nat}
    {expected : List StopStatus} {data : StopData}
    {status : StopStatus} (plain : ¬Overrides requests thread) (update : StopUpdate expected data)
    (target : data.status = some status) :
    (levelBound requests id status.level).Passes thread (.updateStop id data) := by
  intro found allowed
  obtain ⟨row, rfl, change⟩ := allowed rfl
  have reached : (data.set row).status = status := by rw [StopData.set, target]; rfl
  refine ⟨?_, data.set row, if_pos rfl, reached.symm ▸ le_rfl⟩
  rintro ⟨same, isSame, high⟩
  cases isSame
  cases change with
  | updated other able =>
      have higher := other.level_lt able
      rw [reached] at higher
      exact absurd high (not_le.mpr higher)
  | overridden able now => exact plain able
  | resequenced sequence => cases target

/-! ## Runs -/

section Runs

variable [UuidText] {db : Db} {requests : List Request} {supplied : Input → Prop}
  {trace : List (Commit store)} {system : System store Response}

/-- Every commit changes a stop as its request may. -/
theorem stop_paths (steps : (System.ofPool (Request.pool db requests)).Steps supplied trace system)
    (id : Uuid) : ∀ commit ∈ trace, (stopRow id).Path (stopAllowed requests id commit.thread)
      commit.writes (commit.before.stop? id) := by
  refine steps.path (fun thread => stopRow_guarded id _) fun thread process found => ?_
  obtain ⟨request, asked, rfl⟩ := Option.map_eq_some_iff.mp (List.getElem?_map.symm.trans found)
  refine (request.tidy_of (fun db write stopless => ?_) (fun db row absent fresh same => ?_)
    fun db key row data present change same => ?_).mono fun _ => Tidy.follows (stopRow_guarded id _)
  · cases write <;> trivial
  · subst same
    exact ⟨absent, fresh⟩
  · subst same
    exact ⟨row, present, change.mono fun may => ⟨request, asked, may⟩⟩

/-- In every run of any requests every stop is consistent with its times, and a stop that was
there comes no step back, keeps its time of arrival, and stays completed. -/
theorem stops_keep_time
    (steps : (System.ofPool (Request.pool db requests)).Steps supplied trace system)
    (timed : ∀ id row, db.stop? id = some row → row.Timed) :
    (∀ id row, system.state.stop? id = some row → row.Timed) ∧
      ∀ id row, db.stop? id = some row →
        ∃ later, system.state.stop? id = some later ∧ row.Onward later := by
  have advances : ∀ id, Progresses (db.stop? id) (system.state.stop? id) := by
    intro id
    have each : ∀ commit ∈ trace, Progresses (commit.before.stop? id) (commit.after.stop? id) := by
      intro commit member
      have after := (stopRow id).read_applyAll commit.writes commit.before
      rw [show commit.after.stop? id = _ from after]
      exact advances_of_path (stop_paths steps id commit member)
    have onwards := @Linked.onwards store db system.state trace steps.linked
      (fun before after => Progresses (before.stop? id) (after.stop? id))
    exact (onwards (fun state => .refl _) (fun left right => left.trans right) each).1
  exact ⟨fun id => (advances id (timed id)).1, fun id => (advances id (timed id)).2⟩

/-- A request that ended took what its answer says, in some transaction of its own. -/
theorem took_of_ended
    (steps : (System.ofPool (Request.pool db requests)).Steps supplied trace system) {thread : Nat}
    {request : Request} {response : Response} (asked : requests[thread]? = some request)
    (ended : system.Ended thread (.ok response)) {status : StopStatus}
    (took : request.took response = some (id, status)) :
    Took id status (System.committed trace thread) := by
  obtain ⟨process, atThread, finished⟩ := ended
  have owned := @System.Steps.own store Response supplied db _ trace system steps
    (fun thread result written => ∀ request, requests[thread]? = some request →
      OnResult (fun response written => ∀ id status, request.took response = some (id, status) →
        Took id status written) (fun _ _ => True) result written) (fun thread process found => by
      obtain ⟨request, asked, rfl⟩ := Option.map_eq_some_iff.mp (List.getElem?_map.symm.trans found)
      exact request.tells.weaken fun result written told other same => by
        cases asked.symm.trans same
        exact told) thread _ atThread
  exact (owned.post_of_finished finished) request asked id status took

omit [UuidText] in
/-- A request that took a step is no override. -/
theorem not_overrides_of_took {thread : Nat} {request : Request} {response : Response}
    (asked : requests[thread]? = some request) {status : StopStatus}
    (took : request.took response = some (id, status)) : ¬Overrides requests thread := by
  rintro ⟨same, askedSame, may⟩
  cases asked.symm.trans askedSame
  cases request <;> first | exact may | cases took

/-- Of all requests that answer with a step of a stop, no two answer with steps to one level: a
stop is departed to, arrived at, unloaded and finished by one request each. -/
theorem stop_steps_taken_once
    (steps : (System.ofPool (Request.pool db requests)).Steps supplied trace system)
    {first second : Nat} (different : first ≠ second) {one other : Request} {left right : Response}
    (askedFirst : requests[first]? = some one) (askedSecond : requests[second]? = some other)
    (endedFirst : system.Ended first (.ok left)) (endedSecond : system.Ended second (.ok right))
    {mine theirs : StopStatus} (tookFirst : one.took left = some (id, mine))
    (tookSecond : other.took right = some (id, theirs)) : mine.level ≠ theirs.level := by
  intro level
  obtain ⟨_, data, update, target, made⟩ := took_of_ended steps askedFirst endedFirst tookFirst
  obtain ⟨_, others, updates, targets, makes⟩ :=
    took_of_ended steps askedSecond endedSecond tookSecond
  have passes := passes_of_step id (not_overrides_of_took askedFirst tookFirst) update target
  have passesToo := passes_of_step id (not_overrides_of_took askedSecond tookSecond) updates targets
  rw [← level] at passesToo
  exact different (steps.passed_once _ (stop_paths steps id) made makes passes passesToo)

end Runs

/-! ## An arrival beside a departure -/

namespace Overtaken

local instance : DecidableRel store.clash := inferInstanceAs (DecidableEq Lock)

def start : Db where
  deliveries := Table.empty.insert
    { id := 1, deliveryCode := "D-1", driverId := some 3, status := .enRoute, createdBy := 9 }
  deliveryStops := Table.empty.insert { id := 7, deliveryId := 1, sequence := 1 }

def calls : List Request := [.arriveAtStop 7 3 30, .departToStop 7 3 30]

def pool : Pool store Response := @Request.pool noUuids start calls

/-- Both find the stop pending, the departure is written first. -/
def schedule : List (Nat × Input) :=
  ([0, 1, 1] ++ List.replicate 9 0 ++ List.replicate 9 1).map fun thread => (thread, { now := 60 })

def final : System store Response := ((System.ofPool pool).play schedule).2

/-- The schedule is a run. -/
theorem steps : (System.ofPool pool).Steps (fun _ => True) ((System.ofPool pool).play schedule).1
    final :=
  System.play_steps schedule (System.ofPool pool)

/-- The stop is timed at the start. -/
theorem timed : ∀ id row, start.stop? id = some row → row.Timed := by
  intro id row found
  have only := (Table.find?_insert Table.empty _ id).symm.trans found
  simp only [Table.find?_empty, Option.none_or, Option.ite_none_right_eq_some] at only
  obtain ⟨_, same⟩ := only
  cases same
  exact DeliveryStop.Fresh.timed ⟨rfl, rfl, rfl⟩

/-- The stop has arrived at its time. -/
theorem stops_keep_time_of_arrival : ∃ row, final.state.stop? 7 = some row ∧
    row.status = .arrived ∧ row.arrivedAt = some 60 ∧ row.Timed := by
  have shown : ∃ row ∈ final.state.stop? 7, row.status = .arrived ∧ row.arrivedAt = some 60 := by
    decide +kernel
  obtain ⟨row, found, arrived, time⟩ := shown
  exact ⟨row, found, arrived, time, (@stops_keep_time noUuids _ _ _ _ _ steps timed).1 7 row found⟩

/-- What a thread that has ended well answers. -/
def answer? (thread : Nat) : Option (Option (DeliveryStop × Delivery)) :=
  match final.threads[thread]? with
  | some (.outside (.done (.stop row))) => some row
  | _ => none

/-- A thread that has an answer has ended with it. -/
theorem ended_of_answer {thread : Nat} {row : Option (DeliveryStop × Delivery)}
    (found : answer? thread = some row) : final.Ended thread (.ok (.stop row)) := by
  rw [answer?] at found
  split at found
  · rename_i other atThread
    cases found
    exact ⟨_, atThread, rfl⟩
  · cases found

/-- The two requests take different levels. -/
theorem stop_steps_taken_once_each : ∃ arrival, answer? 0 = some arrival ∧
    ∃ departure, answer? 1 = some departure ∧
      StopStatus.level .arrived ≠ StopStatus.level .enRoute := by
  have both : ∃ arrival ∈ answer? 0, ∃ departure ∈ answer? 1, arrival ≠ none ∧
    departure ≠ none := by
    decide +kernel
  obtain ⟨arrival, atFirst, departure, atSecond, _⟩ := both
  exact ⟨arrival, atFirst, departure, atSecond, @stop_steps_taken_once 7 noUuids _ _ _ _ _ steps
    0 1 (by decide) _ _ _ _ rfl rfl (ended_of_answer atFirst)
      (ended_of_answer atSecond) _ _ rfl rfl⟩

end Overtaken

end Armada
