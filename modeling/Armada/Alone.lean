import Armada.Concurrency.Sequential
import Armada.Claims

/-!
# Services that run alone

What the successful runs of the service operations read, write and return when no
other request interferes: the snapshot an operation checks is then the state that its
writes are committed in.
-/

namespace Armada

open Relational Concurrency

variable {supplied : Input → Prop}

/-- A look returns what it finds. -/
theorem returns_select {β : Type} {body : Db → Except PrismaError β} {before after : Db}
    {value : β} (returned : (liftM (select body) : Proc store β).Returns supplied before value after) :
    body before = .ok value ∧ after = before := by
  obtain ⟨input, writes, _, succeeded, rfl⟩ := Proc.returns_lift.mp returned
  obtain ⟨_, read, rfl⟩ := select_succeeds.mp succeeded
  exact ⟨read, rfl⟩

/-- Nothing that is supplied makes a call fail. -/
def Healthy (supplied : Input → Prop) : Prop :=
  ∀ input, supplied input → input.fault = none

/-- The environment of a day on which no call fails. -/
def Unfailing (input : Input) : Prop := input.fault = none

/-- An unfailing input is healthy. -/
theorem Unfailing.healthy : Healthy Unfailing := fun _ given => given

/-- There are unfailing inputs. -/
theorem Unfailing.given : ∃ input, Unfailing input := ⟨{}, rfl⟩

/-- The run of a process that generates no ids and reads no clock. -/
theorem runs_plain {α : Type} (process : Proc store α) (db : Db) :
    process.Runs Unfailing db (process.run (fun _ _ => {}) db).1
      (process.run (fun _ _ => {}) db).2 := by
  refine process.runs_run _ (fun _ _ => ?_) db
  exact (rfl : ({} : Input).fault = none)

/-- A call fails because of the environment, or by itself. -/
theorem query_fails {β : Type} {locks : Input → Db → List Lock}
    {body : Input → Db → Except PrismaError (β × List Write)} {input : Input} {db : Db}
    {error : Exception} (failed : (query locks body).exec input db = .error error) :
    ∃ reason, error = .prisma reason ∧ (input.fault = none → body input db = .error reason) := by
  simp only [query] at failed
  split at failed
  · rename_i reason fault
    cases failed
    exact ⟨reason, rfl, fun healthy => by cases healthy.symm.trans fault⟩
  · split at failed
    · cases failed
    · rename_i reason read
      cases failed
      exact ⟨reason, rfl, fun _ => read⟩

/-- The error of a call that fails because of the environment where the state is `able`. -/
def Spoils (supplied : Input → Prop) (able : Prop) (error : Exception) : Prop :=
  (∃ reason, error = .prisma reason) ∧ (Healthy supplied → ¬able)

/-- If only a fault or its own refusal can fail a query, a failure is spoiled. -/
theorem spoils_of_query {β : Type} {locks : Input → Db → List Lock}
    {body : Input → Db → Except PrismaError (β × List Write)} {input : Input} {db : Db}
    {error : Exception} {able : Prop} (given : supplied input)
    (fine : able → input.fault = none →
      ∃ value writes, (query locks body).Succeeds input db value writes)
    (failed : (query locks body).exec input db = .error error) : Spoils supplied able error := by
  obtain ⟨reason, rfl, _⟩ := query_fails failed
  refine ⟨⟨reason, rfl⟩, fun healthy holds => ?_⟩
  obtain ⟨value, writes, succeeded⟩ := fine holds (healthy input given)
  cases succeeded.symm.trans failed

/-- A look that can answer is spoiled by a fault only. -/
theorem spoils_of_select {β : Type} {body : Db → Except PrismaError β} {input : Input} {db : Db}
    {error : Exception} {able : Prop} (given : supplied input)
    (fine : able → ∃ value, body db = .ok value)
    (failed : (select body).exec input db = .error error) : Spoils supplied able error :=
  spoils_of_query given (fun holds fault => by
    obtain ⟨value, read⟩ := fine holds
    exact ⟨value, [], select_succeeds.mpr ⟨fault, read, rfl⟩⟩) failed

/-- A fault at the commit spoils. -/
theorem spoils_of_commit {input : Input} {error : Exception} {able : Prop}
    (given : supplied input) (refused : store.fault input = some error) :
    Spoils supplied able error := by
  obtain ⟨reason, fault, rfl⟩ := Option.map_eq_some_iff.mp refused
  exact ⟨⟨reason, rfl⟩, fun healthy _ => by cases (healthy input given).symm.trans fault⟩

/-- A look fails with an error of the database. -/
theorem throws_select {β : Type} {body : Db → Except PrismaError β} {before after : Db}
    {error : Exception}
    (thrown : (liftM (select body) : Proc store β).Throws supplied before error after) :
    (∃ reason, error = .prisma reason ∧ (Healthy supplied → body before = .error reason)) ∧
      after = before := by
  obtain ⟨input, given, failed, rfl⟩ := Proc.throws_lift.mp thrown
  obtain ⟨reason, rfl, unread⟩ := query_fails failed
  refine ⟨⟨reason, rfl, fun healthy => ?_⟩, rfl⟩
  have read := unread (healthy input given)
  cases found : body after with
  | ok value => simp [found, Except.map] at read
  | error other =>
      simp only [found, Except.map, Except.error.injEq] at read
      rw [read]

/-- How an operation fails that is `permitted` in some states: it refuses in the others,
and then has done nothing; or a call has failed. -/
def Refuses (supplied : Input → Prop) (permitted : Prop) (before : Db) (error : Exception)
    (after : Db) : Prop :=
  (∃ exception, error = .http exception) ∧ ¬permitted ∧ after = before ∨
    (∃ reason, error = .prisma reason) ∧ (Healthy supplied → ¬permitted ∧ after = before)

/-! ## The end of a request -/

/-- What comes after the work of a request changes no stop, proof, record, route or
message, and leaves every delivery with its driver. -/
structure Trailed (before after : Db) : Prop where
  deliveryStops : after.deliveryStops = before.deliveryStops
  proofsOfDelivery : after.proofsOfDelivery = before.proofsOfDelivery
  idempotencyRecords : after.idempotencyRecords = before.idempotencyRecords
  routes : after.routes = before.routes
  messages : after.messages = before.messages
  drivers : ∀ id row, before.delivery? id = some row →
    ∃ later, after.delivery? id = some later ∧ later.driverId = row.driverId

namespace Trailed

/-- Nothing has to follow. -/
theorem refl (db : Db) : Trailed db db :=
  ⟨rfl, rfl, rfl, rfl, rfl, fun _ row found => ⟨row, found, rfl⟩⟩

/-- What follows twice has followed. -/
theorem trans {first second third : Db} (left : Trailed first second)
    (right : Trailed second third) : Trailed first third where
  deliveryStops := right.deliveryStops.trans left.deliveryStops
  proofsOfDelivery := right.proofsOfDelivery.trans left.proofsOfDelivery
  idempotencyRecords := right.idempotencyRecords.trans left.idempotencyRecords
  routes := right.routes.trans left.routes
  messages := right.messages.trans left.messages
  drivers id row found := by
    obtain ⟨middle, foundMiddle, same⟩ := left.drivers id row found
    obtain ⟨last, foundLast, sameLast⟩ := right.drivers id middle foundMiddle
    exact ⟨last, foundLast, sameLast.trans same⟩

/-- Emissions are such a trail. -/
theorem of_emissions (db : Db) (rooms : List Room) (emission : Room → Emission) :
    Trailed db (db.commit (rooms.map fun room => .emit (emission room))) := by
  induction rooms generalizing db with
  | nil => exact .refl db
  | cons room rooms inductionHypothesis =>
      have first : Trailed db ((Write.emit (emission room)).apply db) :=
        ⟨rfl, rfl, rfl, rfl, rfl, fun _ row found => ⟨row, found, rfl⟩⟩
      exact first.trans (inductionHypothesis _)

/-- So is the completion of a delivery that keeps its driver. -/
theorem of_completion (db : Db) (id : Uuid) {data : DeliveryData} (same : data.driverId = none) :
    Trailed db (db.commit [.updateDelivery id data]) := by
  refine ⟨rfl, rfl, rfl, rfl, rfl, fun other row found => ?_⟩
  rw [Db.commit_cons, Db.commit_nil, Write.delivery?_apply, found]
  by_cases here : other = id
  · exact ⟨data.set row, by rw [Write.onDelivery, if_pos here, Option.map_some],
      by simp [DeliveryData.set, same]⟩
  · exact ⟨row, by rw [Write.onDelivery, if_neg here], rfl⟩

variable {before after : Db} (trailed : Trailed before after)
include trailed

/-- The stops stay as they are. -/
theorem stop? (id : Uuid) : after.stop? id = before.stop? id := by
  rw [Db.stop?, trailed.deliveryStops, Db.stop?]

/-- So do the proofs. -/
theorem pod? (stopId : Uuid) : after.pod? stopId = before.pod? stopId := by
  rw [Db.pod?, trailed.proofsOfDelivery, Db.pod?]

/-- And the records. -/
theorem record? (key : IdempotencyKey) : after.record? key = before.record? key := by
  rw [Db.record?, trailed.idempotencyRecords, Db.record?]

end Trailed

/-- A process that only trails. -/
abbrev Trails {α : Type} (process : Proc store α) : Prop :=
  process.Commits (.atomic Eq fun writes (db : Db) => Trailed db (db.commit writes))

/-- What a process leaves behind is what its commits leave. -/
theorem Trails.of_runs {α : Type} {process : Proc store α} (trails : Trails process)
    {before after : Db} {result : Except Exception α} (runs : process.Runs supplied before result after) :
    Trailed before after :=
  Proc.Commits.of_runs trails (fun _ => rfl) (Trailed before)
    (fun _ _ further made => made.trans further) runs (.refl before)

/-- Emitting leaves such a trail. -/
theorem trails_emit {rooms : List Room} {payload : RealtimePayload} {actor : RealtimeActor} :
    Trails (liftM (RealtimeGateway.emit rooms payload actor)) := by
  refine Proc.Commits.statement (fun db => .refl db) fun db input value writes succeeded => ?_
  rw [RealtimeGateway.emit_succeeds.mp succeeded]
  exact .of_emissions db rooms _

namespace DeliveriesService

/-- The completion that follows a stop writes nothing, or the status of its delivery. -/
theorem claimIfEligible_completes (deliveryId : Uuid) (db : Db) :
    (claimIfEligible deliveryId).Yields (fun _ (writes : List Write) =>
      writes = [] ∨ ∃ target now, writes =
      [.updateDelivery deliveryId { status := some target, completedAt := some now }]) db [] := by
  have held : (claimIfEligible deliveryId).Holds (fun _ before after => before = after) _ [] [] db :=
    claimIfEligible_holds deliveryId db
  refine (held.yields fun _ => rfl).mono fun _ writes made => ?_
  obtain ⟨_, outcome⟩ := made
  exact outcome

/-- Evaluating the delivery leaves such a trail. -/
theorem trails_completeDeliveryIfEligible (deliveryId : Uuid) (actor : DeliveryActor) :
    Trails (completeDeliveryIfEligible deliveryId actor) := by
  refine .tryCatch (.bind (.transaction (fun db => .refl db) fun db =>
    (claimIfEligible_completes deliveryId db).mono fun _ writes made => ?_) fun updated => ?_)
    fun _ => .pure _
  · obtain rfl | ⟨target, now, rfl⟩ := made
    · exact .refl db
    · exact .of_completion db deliveryId rfl
  · cases updated with
    | none => exact .pure _
    | some row => exact trails_emit

end DeliveriesService

/-! ## The steps of a stop -/

/-- The stop exists, and its delivery has the driver, if one is asked for. -/
def Reaches (db : Db) (stopId : Uuid) (driver : Option Uuid) (stop : DeliveryStop)
    (delivery : Delivery) : Prop :=
  db.stop? stopId = some stop ∧ db.delivery? stop.deliveryId = some delivery ∧
    (driver = none ∨ delivery.driverId = driver)

namespace DeliveryStopsService

variable {before after : Db} {stopId actorDriverId actorUserId : Uuid}

/-- The stop is found with its delivery, and is the driver's if there is one. -/
theorem getStopAndVerifyDriver_returns {driver : Option Uuid} {stop : DeliveryStop}
    {delivery : Delivery}
    (returned : (getStopAndVerifyDriver stopId driver).Returns supplied before (stop, delivery)
      after) : Reaches before stopId driver stop delivery ∧ after = before := by
  simp only [getStopAndVerifyDriver, Proc.returns_bind, Proc.returns_require,
    Proc.returns_rejectIf, Proc.returns_pure] at returned
  obtain ⟨_, _, read, _, _, ⟨rfl, rfl⟩, _, _, ⟨driven, rfl⟩, rfl, rfl⟩ := returned
  obtain ⟨read, rfl⟩ := returns_select read
  split at read
  · cases read
  · rename_i stop found
    split at read
    · cases read
    · rename_i delivery parent
      cases read
      exact ⟨⟨found, parent, by tauto⟩, rfl⟩

/-- It is refused only if it cannot be reached. -/
theorem getStopAndVerifyDriver_throws {driver : Option Uuid} {error : Exception}
    (thrown : (getStopAndVerifyDriver stopId driver).Throws supplied before error after) :
    Refuses supplied (∃ stop delivery, Reaches before stopId driver stop delivery) before error
      after := by
  simp only [getStopAndVerifyDriver, Proc.throws_bind, Proc.throws_require, Proc.throws_rejectIf,
    Proc.throws_pure, Proc.returns_require, Proc.returns_rejectIf, and_false, exists_false,
    or_false] at thrown
  rcases thrown with failed | ⟨found, _, read, missing | ⟨_, _, ⟨rfl, rfl⟩, foreign⟩⟩
  · obtain ⟨⟨reason, rfl, unreadable⟩, rfl⟩ := throws_select failed
    refine .inr ⟨⟨reason, rfl⟩, fun healthy => ⟨?_, rfl⟩⟩
    rintro ⟨stop, delivery, found, parent, _⟩
    have read := unreadable healthy
    simp [found, parent] at read
  · obtain ⟨read, rfl⟩ := returns_select read
    obtain ⟨rfl, rfl, rfl⟩ := missing
    refine .inl ⟨⟨_, rfl⟩, ?_, rfl⟩
    rintro ⟨stop, delivery, found, parent, _⟩
    simp [found, parent] at read
  · obtain ⟨read, rfl⟩ := returns_select read
    obtain ⟨⟨driven, other⟩, rfl, rfl⟩ := foreign
    refine .inl ⟨⟨_, rfl⟩, ?_, rfl⟩
    rintro ⟨stop, delivery, found, parent, same⟩
    simp only [found, parent, Except.ok.injEq, Option.some.injEq] at read
    subst read
    tauto

/-- A step of a stop that succeeds has updated the stop. -/
theorem updateStopIfOperational_returns {expected : List StopStatus} {data : Input → StopData}
    {updated : Option (DeliveryStop × Delivery)}
    (returned : (updateStopIfOperational stopId expected data).Returns supplied before updated
      after) : ∃ input, after = (Write.updateStop stopId (data input)).apply before := by
  rw [updateStopIfOperational, Proc.returns_bind] at returned
  obtain ⟨count, middle, counted, rest⟩ := returned
  obtain ⟨input, writes, _, succeeded, rfl⟩ := Proc.returns_lift.mp counted
  obtain ⟨_, ⟨_, rfl, rfl⟩ | ⟨_, rfl, rfl⟩⟩ := Prisma.DeliveryStop.updateMany_succeeds.mp succeeded
  · rw [if_neg (by decide)] at rest
    exact ⟨input, (returns_select rest).2⟩
  · rw [if_pos (by decide), Proc.returns_bind] at rest
    obtain ⟨current, _, _, thrown⟩ := rest
    cases current with
    | none => cases thrown.1
    | some found =>
        obtain ⟨_, _, _, impossible, _⟩ := Proc.returns_bind.mp thrown
        cases impossible

/-- A stop that has been updated, and its delivery, are still there. -/
theorem readable_of_matched {expected : List StopStatus} (data : StopData)
    (matched : Prisma.DeliveryStop.matched before stopId expected terminalDeliveryStatuses = true) :
    ∃ stop delivery, ((Write.updateStop stopId data).apply before).stop? stopId = some stop ∧
      ((Write.updateStop stopId data).apply before).delivery? stop.deliveryId = some delivery := by
  obtain ⟨stop, found, _, parent, foundParent, _⟩ := Prisma.DeliveryStop.matched_iff.mp matched
  refine ⟨data.set stop, parent, ?_, foundParent⟩
  rw [Write.stop?_apply, Write.onStop, if_pos rfl, found, Option.map_some]

/-- A step of a stop that the snapshot allows fails because of the environment only. -/
theorem updateStopIfOperational_throws {expected : List StopStatus} {data : Input → StopData}
    {error : Exception} (matched : Prisma.DeliveryStop.matched before stopId expected
      terminalDeliveryStatuses = true)
    (thrown : (updateStopIfOperational stopId expected data).Throws supplied before error after) :
    (∃ reason, error = .prisma reason) ∧ ¬Healthy supplied := by
  rw [updateStopIfOperational, Proc.throws_bind] at thrown
  rcases thrown with failed | ⟨count, middle, counted, rest⟩
  · obtain ⟨input, given, failed, _⟩ := Proc.throws_lift.mp failed
    simp only [Prisma.DeliveryStop.updateMany, query, matched, if_true] at failed
    split at failed
    · rename_i reason fault
      cases failed
      exact ⟨⟨reason, rfl⟩, fun healthy => by cases (healthy input given).symm.trans fault⟩
    · cases failed
  · obtain ⟨input, writes, _, succeeded, rfl⟩ := Proc.returns_lift.mp counted
    obtain ⟨_, ⟨_, rfl, rfl⟩ | ⟨unmatched, _⟩⟩ := Prisma.DeliveryStop.updateMany_succeeds.mp succeeded
    · rw [if_neg (by decide)] at rest
      obtain ⟨⟨reason, rfl, unreadable⟩, _⟩ := throws_select rest
      refine ⟨⟨reason, rfl⟩, fun healthy => ?_⟩
      have read := unreadable healthy
      obtain ⟨stop, parent, foundNow, parentNow⟩ :=
        readable_of_matched (data input) matched
      simp [foundNow, parentNow] at read
    · cases matched.symm.trans unmatched

/-- What a step of a stop has done. -/
def Stepped (stopId : Uuid) (target : StopStatus) (before after : Db) : Prop :=
  ∃ data, data.status = some target ∧ Trailed ((Write.updateStop stopId data).apply before) after

/-- The states in which a step with a stop is permitted. -/
def Permits (stopId : Uuid) (driver : Option Uuid) (allowed : DeliveryStop → Delivery → Prop)
    (db : Db) : Prop :=
  ∃ stop delivery, Reaches db stopId driver stop delivery ∧ allowed stop delivery

/-- A request for a stop fails as what follows its reading does. -/
theorem throws_of_reading {α : Type} {rest : DeliveryStop × Delivery → Proc store α}
    {error : Exception} {allowed : DeliveryStop → Delivery → Prop} {driver : Option Uuid}
    (thrown : (getStopAndVerifyDriver stopId driver >>= rest).Throws supplied before error after)
    (refuses : ∀ stop delivery, Reaches before stopId driver stop delivery →
      (rest (stop, delivery)).Throws supplied before error after →
        Refuses supplied (allowed stop delivery) before error after) :
    Refuses supplied (Permits stopId driver allowed before) before error after := by
  rcases Proc.throws_bind.mp thrown with failed | ⟨⟨stop, delivery⟩, current, read, failed⟩
  · rcases getStopAndVerifyDriver_throws failed with ⟨http, foreign, same⟩ | ⟨prisma, alone⟩
    · exact .inl ⟨http, fun ⟨stop, delivery, own, _⟩ => foreign ⟨stop, delivery, own⟩, same⟩
    · exact .inr ⟨prisma, fun healthy =>
        ⟨fun ⟨stop, delivery, own, _⟩ => (alone healthy).1 ⟨stop, delivery, own⟩, (alone healthy).2⟩⟩
  · obtain ⟨own, rfl⟩ := getStopAndVerifyDriver_returns read
    -- the rows that were checked are those that the permission is about
    have only : Permits stopId driver allowed current → allowed stop delivery := by
      rintro ⟨other, parent, reached, permitted⟩
      obtain rfl : other = stop := Option.some.inj (reached.1.symm.trans own.1)
      obtain rfl : parent = delivery := Option.some.inj (reached.2.1.symm.trans own.2.1)
      exact permitted
    rcases refuses stop delivery own failed with ⟨http, unfit, same⟩ | ⟨prisma, alone⟩
    · exact .inl ⟨http, fun permitted => unfit (only permitted), same⟩
    · exact .inr ⟨prisma, fun healthy =>
        ⟨fun permitted => (alone healthy).1 (only permitted), (alone healthy).2⟩⟩

section Checked

variable {first second : Prop} [Decidable first] [Decidable second]
  {refusal mismatch : HttpException} {expected : List StopStatus} {data : Input → StopData}
  {rooms : List Room} {payload : RealtimePayload} {actor : RealtimeActor}

/-- The tail of the three steps of a driver: two checks, the update and the broadcast. -/
theorem checked_throws {error : Exception}
    (matched : ¬first → ¬second → Prisma.DeliveryStop.matched before stopId expected
      terminalDeliveryStatuses = true)
    (thrown : (do
      Proc.rejectIf first (.http refusal)
      Proc.rejectIf second (.http mismatch)
      let updated ← updateStopIfOperational stopId expected data
      RealtimeGateway.emit rooms payload actor
      return updated : Proc store (Option (DeliveryStop × Delivery))).Throws supplied before error
        after) :
    Refuses supplied (¬first ∧ ¬second) before error after := by
  simp only [Proc.throws_bind, Proc.returns_rejectIf, Proc.throws_rejectIf, Proc.throws_pure,
    and_false, exists_false, or_false] at thrown
  rcases thrown with ⟨refused, rfl, rfl⟩ | ⟨_, current, ⟨passed, same⟩, rest⟩
  · exact .inl ⟨⟨refusal, rfl⟩, fun both => both.1 refused, rfl⟩
  subst same
  rcases rest with ⟨refused, rfl, rfl⟩ | ⟨_, current, ⟨fits, same⟩, rest⟩
  · exact .inl ⟨⟨mismatch, rfl⟩, fun both => both.2 refused, rfl⟩
  subst same
  rcases rest with failed | ⟨_, _, _, failed⟩
  · obtain ⟨reason, ill⟩ := updateStopIfOperational_throws (matched passed fits) failed
    exact .inr ⟨reason, fun healthy => absurd healthy ill⟩
  · obtain ⟨input, _, impossible, _⟩ := Proc.throws_lift.mp failed
    cases impossible

/-- The common tail of the stop operations: two checks, the update, the broadcast. -/
theorem checked_returns {updated : Option (DeliveryStop × Delivery)} {target : StopStatus}
    (sets : ∀ input, (data input).status = some target)
    (returned : (do
      Proc.rejectIf first (.http refusal)
      Proc.rejectIf second (.http mismatch)
      let updated ← updateStopIfOperational stopId expected data
      RealtimeGateway.emit rooms payload actor
      return updated : Proc store (Option (DeliveryStop × Delivery))).Returns supplied before
        updated after) :
    (¬first ∧ ¬second) ∧ Stepped stopId target before after := by
  simp only [Proc.returns_bind, Proc.returns_rejectIf] at returned
  obtain ⟨_, _, ⟨passed, rfl⟩, _, _, ⟨fits, rfl⟩, _, _, moved, _, _, emitted, _, rfl⟩ := returned
  obtain ⟨input, rfl⟩ := updateStopIfOperational_returns moved
  exact ⟨⟨passed, fits⟩, data input, sets input, trails_emit.of_runs emitted⟩

end Checked

/-- When `departToStop` may go ahead. -/
def Departs (stop : DeliveryStop) (delivery : Delivery) : Prop :=
  ¬delivery.status ≠ .enRoute ∧ ¬stop.status ≠ .pending

/-- The stop may be arrived at. -/
def Arrives (stop : DeliveryStop) (delivery : Delivery) : Prop :=
  ¬delivery.status ≠ .enRoute ∧ ¬(stop.status ≠ .enRoute ∧ stop.status ≠ .pending)

/-- Its unloading may start. -/
def Unloads (stop : DeliveryStop) (delivery : Delivery) : Prop :=
  ¬delivery.status ∈ terminalDeliveryStatuses ∧ ¬stop.status ≠ .arrived

variable {error : Exception} {updated : Option (DeliveryStop × Delivery)}

/-- A departure that returns was permitted, and has moved the stop. -/
theorem departToStop_returns
    (returned : (departToStop stopId actorDriverId actorUserId).Returns supplied before updated
      after) :
    Permits stopId (some actorDriverId) Departs before ∧ Stepped stopId .enRoute before after := by
  obtain ⟨⟨stop, delivery⟩, _, read, rest⟩ := Proc.returns_bind.mp returned
  obtain ⟨own, rfl⟩ := getStopAndVerifyDriver_returns read
  obtain ⟨permitted, stepped⟩ := checked_returns (fun _ => rfl) rest
  exact ⟨⟨stop, delivery, own, permitted⟩, stepped⟩

/-- It is refused only if it was not permitted. -/
theorem departToStop_throws
    (thrown : (departToStop stopId actorDriverId actorUserId).Throws supplied before error after) :
    Refuses supplied (Permits stopId (some actorDriverId) Departs before) before error after := by
  refine throws_of_reading thrown fun stop delivery own failed => ?_
  refine checked_throws (fun passed fits => ?_) failed
  exact Prisma.DeliveryStop.matched_iff.mpr ⟨stop, own.1, by simp_all, delivery, own.2.1,
    by rw [not_not.mp passed]; decide⟩

/-- An arrival that returns was permitted, and has moved the stop. -/
theorem arriveAtStop_returns
    (returned : (arriveAtStop stopId actorDriverId actorUserId).Returns supplied before updated
      after) :
    Permits stopId (some actorDriverId) Arrives before ∧ Stepped stopId .arrived before after := by
  obtain ⟨⟨stop, delivery⟩, _, read, rest⟩ := Proc.returns_bind.mp returned
  obtain ⟨own, rfl⟩ := getStopAndVerifyDriver_returns read
  obtain ⟨permitted, stepped⟩ := checked_returns (fun _ => rfl) rest
  exact ⟨⟨stop, delivery, own, permitted⟩, stepped⟩

/-- It is refused only if it was not permitted. -/
theorem arriveAtStop_throws
    (thrown : (arriveAtStop stopId actorDriverId actorUserId).Throws supplied before error after) :
    Refuses supplied (Permits stopId (some actorDriverId) Arrives before) before error after := by
  refine throws_of_reading thrown fun stop delivery own failed => ?_
  refine checked_throws (fun passed fits => ?_) failed
  exact Prisma.DeliveryStop.matched_iff.mpr ⟨stop, own.1, by simp; tauto, delivery, own.2.1,
    by rw [not_not.mp passed]; decide⟩

/-- An unloading that returns was permitted, and has moved the stop. -/
theorem startUnloading_returns
    (returned : (startUnloading stopId actorDriverId actorUserId).Returns supplied before updated
      after) :
    Permits stopId (some actorDriverId) Unloads before ∧ Stepped stopId .unloading before after := by
  obtain ⟨⟨stop, delivery⟩, _, read, rest⟩ := Proc.returns_bind.mp returned
  obtain ⟨own, rfl⟩ := getStopAndVerifyDriver_returns read
  obtain ⟨permitted, stepped⟩ := checked_returns (fun _ => rfl) rest
  exact ⟨⟨stop, delivery, own, permitted⟩, stepped⟩

/-- It is refused only if it was not permitted. -/
theorem startUnloading_throws
    (thrown : (startUnloading stopId actorDriverId actorUserId).Throws supplied before error after) :
    Refuses supplied (Permits stopId (some actorDriverId) Unloads before) before error after := by
  refine throws_of_reading thrown fun stop delivery own failed => ?_
  refine checked_throws (fun passed fits => ?_) failed
  exact Prisma.DeliveryStop.matched_iff.mpr ⟨stop, own.1, by simp_all, delivery, own.2.1, passed⟩

end DeliveryStopsService

/-! ## Idempotency keys -/

/-- The result that is stored under a key. -/
def Db.stored (db : Db) (key : Option IdempotencyKey) : Option ResponseBody :=
  key.bind fun key => (db.record? key).map IdempotencyRecord.responseBody

/-- No body is stored where there is no record, or no key. -/
theorem Db.stored_eq_none {db : Db} {key : Option IdempotencyKey} :
    db.stored key = none ↔ ∀ own ∈ key, db.record? own = none := by
  cases key <;> simp [stored]

namespace Idempotency

variable {before after : Db} {key : Option IdempotencyKey} {error : Exception}

/-- The lookup answers the body that is stored. -/
theorem stored_returns {body : Option ResponseBody}
    (returned : (stored key).Returns supplied before body after) :
    before.stored key = body ∧ after = before := by
  cases key with
  | none =>
      obtain ⟨rfl, rfl⟩ := Proc.returns_pure.mp returned
      exact ⟨rfl, rfl⟩
  | some key =>
      simp only [stored, Proc.returns_bind, Proc.returns_pure] at returned
      obtain ⟨record, _, read, rfl, rfl⟩ := returned
      obtain ⟨found, rfl⟩ := returns_select read
      cases found
      exact ⟨rfl, rfl⟩

/-- It fails only by a fault. -/
theorem stored_throws (thrown : (stored key).Throws supplied before error after) :
    (∃ reason, error = .prisma reason) ∧ ¬Healthy supplied := by
  cases key with
  | none => exact absurd thrown Proc.throws_pure
  | some key =>
      simp only [stored, Proc.throws_bind, Proc.throws_pure, and_false, exists_false,
        or_false] at thrown
      obtain ⟨⟨reason, rfl, unreadable⟩, _⟩ := throws_select thrown
      exact ⟨⟨reason, rfl⟩, fun healthy => by cases unreadable healthy⟩

/-- Where nothing is stored, a result is a fresh one. -/
theorem transactOnce_returns {clash : Exception → Bool} {body : Txn store ResponseBody}
    {post : ResponseBody → List Write → Prop} {reply : Reply} (unstored : before.stored key = none)
    (yields : body.Yields post before [])
    (returned : (transactOnce key clash body).Returns supplied before reply after) :
    ∃ value writes, reply = .fresh value ∧ post value writes ∧ after = before.commit writes := by
  rcases Proc.returns_tryCatch.mp returned with committed | ⟨error, middle, failed, recovered⟩
  · obtain ⟨value, ran, rfl⟩ := Proc.returns_map.mp committed
    obtain ⟨inputs, writes, _, made, rfl⟩ := Proc.returns_transact.mp ran
    exact ⟨value, writes, rfl, yields.of_run made, rfl⟩
  · obtain ⟨_, _, _, rfl⟩ := Proc.throws_transact.mp (Proc.throws_map.mp failed)
    -- nothing has been stored in the meantime
    cases key with
    | none => exact absurd recovered Proc.returns_throw
    | some key =>
        rw [recover] at recovered
        split at recovered
        · obtain ⟨record, _, read, rest⟩ := Proc.returns_bind.mp recovered
          obtain ⟨found, rfl⟩ := returns_select read
          cases found
          rw [Db.stored_eq_none.mp unstored key rfl] at rest
          exact absurd rest Proc.returns_throw
        · exact absurd recovered Proc.returns_throw

/-- Where nothing is stored, the error is that of the work. -/
theorem transactOnce_throws {clash : Exception → Bool} {body : Txn store ResponseBody}
    {post : Exception → Prop} (aborts : body.Aborts supplied post before [])
    (thrown : (transactOnce key clash body).Throws supplied before error after) :
    after = before ∧ (post error ∨ (∃ reason, error = .prisma reason) ∧ ¬Healthy supplied) := by
  obtain ⟨first, middle, failed, rest⟩ := Proc.throws_tryCatch.mp thrown
  obtain ⟨inputs, given, ran, rfl⟩ := Proc.throws_transact.mp (Proc.throws_map.mp failed)
  have reason := aborts.of_run given ran
  cases key with
  | none =>
      obtain ⟨rfl, rfl⟩ := Proc.throws_throw.mp rest
      exact ⟨rfl, .inl reason⟩
  | some key =>
      rw [recover] at rest
      split at rest
      · rcases Proc.throws_bind.mp rest with unread | ⟨record, _, read, rest⟩
        · obtain ⟨⟨fault, rfl, unreadable⟩, rfl⟩ := throws_select unread
          exact ⟨rfl, .inr ⟨⟨fault, rfl⟩, fun healthy => by cases unreadable healthy⟩⟩
        · obtain ⟨_, rfl⟩ := returns_select read
          cases record with
          | none =>
              obtain ⟨rfl, rfl⟩ := Proc.throws_throw.mp rest
              exact ⟨rfl, .inl reason⟩
          | some record => exact absurd rest Proc.throws_pure
      · obtain ⟨rfl, rfl⟩ := Proc.throws_throw.mp rest
        exact ⟨rfl, .inl reason⟩

end Idempotency

/-! ## Proofs of delivery -/

section Pod

variable [UuidText] {before after : Db} {stopId deliveryId : Uuid} {dto : SubmitPodDto}
  {actor : DeliveryActor}

/-- Nothing but the environment keeps the submission from being recorded. -/
structure Submittable (stopId : Uuid) (dto : SubmitPodDto) (actor : DeliveryActor) (db : Db) :
    Prop where
  unstored : db.stored (PodService.recordKey actor dto.idempotencyKey) = none
  unproven : db.pod? stopId = none
  evidence : ∃ row, dto.Evidences row ∧ row.Filed db

/-- The essential writes of a submission: the stop and its proof. -/
theorem PodCommit.essential_eq {deliveryId : Uuid} {dto : SubmitPodDto} {actor : DeliveryActor}
    {body : ResponseBody} {writes : List Write}
    (commit : PodCommit stopId deliveryId dto actor before body writes) :
    ∃ row now, row.deliveryStopId = stopId ∧ dto.Evidences row ∧ essential writes =
      [.updateStop stopId { status := some .delivered, completedAt := some now }, .createPod row] := by
  cases commit with
  | @intro claimed row now event claim absent ofStop author evidence filed eventOf =>
      refine ⟨row, now, ofStop, evidence, ?_⟩
      rw [essential_append, essential_append, claim.essential_eq, essential_settled, List.append_nil]
      rfl

/-- What a submission has found. -/
theorem PodCommit.submittable {deliveryId : Uuid} {dto : SubmitPodDto} {actor : DeliveryActor}
    {body : ResponseBody} {writes : List Write}
    (commit : PodCommit stopId deliveryId dto actor before body writes) :
    Submittable stopId dto actor before := by
  cases commit with
  | intro event claim absent ofStop author evidence filed eventOf =>
      refine ⟨Db.stored_eq_none.mpr fun key isKey => ?_, absent, _, evidence, filed⟩
      generalize PodService.recordKey actor dto.idempotencyKey = own at claim isKey
      cases claim with
      | keyless => cases isKey
      | placed unclaimed same =>
          cases isKey
          exact unclaimed

/-- What a submission leaves. -/
theorem PodCommit.recorded {deliveryId : Uuid} {dto : SubmitPodDto} {actor : DeliveryActor}
    {body : ResponseBody} {writes : List Write}
    (commit : PodCommit stopId deliveryId dto actor before body writes) :
    ∃ row, (before.commit writes).pod? stopId = some row ∧ row.deliveryStopId = stopId ∧
      dto.Evidences row := by
  obtain ⟨row, now, ofStop, evidence, core⟩ := commit.essential_eq
  refine ⟨row, ?_, ofStop, evidence⟩
  rw [← (before.commit_essential writes).pod? stopId, core, Db.pod?_commit,
    commit.submittable.unproven]
  simp [Write.onPod, ofStop]

omit [UuidText] in
/-- A claim aborts on a key that is taken, else the rest decides. -/
theorem Idempotency.claim_aborts {β : Type} {key : Option IdempotencyKey} {next : Unit → Txn store β}
    {able : Prop} (unstored : able → before.stored key = none)
    (rest : ∀ claimed, Claimed before key claimed →
      (next ()).Aborts supplied (Spoils supplied able) before claimed) :
    (claim key >>= next).Aborts supplied (Spoils supplied able) before [] := by
  cases key with
  | none => exact rest [] .keyless
  | some key =>
      refine Txn.Aborts.step (fun input error given => spoils_of_query given fun holds fault => ?_)
        fun input answer writes given succeeded => ?_
      · exact ⟨(), _, Prisma.IdempotencyRecord.create_succeeds.mpr
          ⟨fault, Db.stored_eq_none.mp (unstored holds) key rfl, rfl⟩⟩
      · obtain ⟨_, absent, rfl⟩ := Prisma.IdempotencyRecord.create_succeeds.mp succeeded
        exact rest _ (.placed absent rfl)

omit [UuidText] in
/-- The settling of a claimed record aborts only with the rest. -/
theorem Idempotency.settle_aborts {key : Option IdempotencyKey} {status : Nat} {body : ResponseBody}
    {able : Prop} {claimed between : List Write} (claim : Claimed before key claimed)
    (idle : ∀ db : Db, (db.commit between).idempotencyRecords = db.idempotencyRecords) :
    (settle key status body >>= fun _ => pure body).Aborts supplied (Spoils supplied able) before
      (claimed ++ between) := by
  have done : ∀ written, (pure body : Txn store ResponseBody).Aborts supplied
      (Spoils supplied able) before written := fun _ input error given refused =>
    spoils_of_commit given refused
  cases claim with
  | keyless => exact done _
  | @placed key row absent own =>
      refine Txn.Aborts.step (fun input error given => spoils_of_query given fun _ fault => ?_)
        fun _ _ writes _ _ => done _
      refine ⟨(), _, Prisma.IdempotencyRecord.update_succeeds.mpr ⟨fault, ?_, rfl⟩⟩
      -- the placeholder is there
      have placed : ((Write.createRecord row).apply before).record? key = some row := by
        rw [Write.record?_apply, absent, Write.onRecord, if_pos own]
        rfl
      rw [Db.applyAll_store, Db.commit_append, Db.record?, idle]
      exact fun impossible => by cases impossible.symm.trans placed

/-- On a stop that waits for its proof the transaction fails only if the submission is at
fault, or the environment. -/
theorem PodService.claimPod_aborts
    (matched : Prisma.DeliveryStop.matched before stopId [.unloading, .arrived]
      terminalDeliveryStatuses = true) :
    (claimPod stopId deliveryId dto actor).Aborts supplied
      (Spoils supplied (Submittable stopId dto actor before)) before [] := by
  refine Idempotency.claim_aborts Submittable.unstored fun claimed claim => ?_
  have agree := before.agree_commit_of_ancillary claim.essential_eq
  have files : (before.commit claimed).files = before.files := claim.files_eq
  have matchedNow := (agree.symm.matched stopId [.unloading, .arrived] terminalDeliveryStatuses).trans
    matched
  refine Txn.Aborts.step (fun input error given => spoils_of_query given fun _ fault => ?_)
    fun input count writes given succeeded => ?_
  · exact ⟨_, _, Prisma.DeliveryStop.updateMany_succeeds.mpr
      ⟨fault, .inl ⟨matchedNow, rfl, rfl⟩⟩⟩
  obtain ⟨_, ⟨_, rfl, rfl⟩ | ⟨unmatched, _⟩⟩ := Prisma.DeliveryStop.updateMany_succeeds.mp succeeded
  swap
  · cases matchedNow.symm.trans unmatched
  refine Txn.Aborts.rejectIf (fun impossible => absurd rfl impossible) fun _ => ?_
  refine Txn.Aborts.step (fun podInput error given => spoils_of_query given fun able fault => ?_)
    fun podInput row writes given created => ?_
  · obtain ⟨row, evidence, filed⟩ := able.evidence
    obtain ⟨stop, found, _⟩ := Prisma.DeliveryStop.matched_iff.mp matchedNow
    refine ⟨{ row with id := podInput.uuid, deliveryStopId := stopId, completedAt := podInput.now,
                       createdBy := actor.userId }, _, Prisma.ProofOfDelivery.create_succeeds.mpr
      ⟨fault, rfl, rfl, rfl, rfl, evidence.receiverName, evidence.photoFileId,
        evidence.signatureFileId, evidence.notes, ?_, ?_, ?_, ?_, rfl⟩⟩
    · rw [Db.applyAll_store, Db.commit_append]
      exact (agree.pod? stopId).symm.trans able.unproven
    · rw [Db.applyAll_store, Db.commit_append, Db.commit_cons, Db.commit_nil, Write.stop?_apply,
        found, Write.onStop, if_pos rfl]
      exact fun impossible => by cases impossible
    · rw [Db.applyAll_store, Db.commit_append]
      exact fun id member => files ▸ filed.photo id member
    · rw [Db.applyAll_store, Db.commit_append]
      exact fun id member => files ▸ filed.signature id member
  obtain ⟨_, _, _, _, _, _, _, _, _, _, _, _, _, rfl⟩ :=
    Prisma.ProofOfDelivery.create_succeeds.mp created
  refine Txn.Aborts.step (fun input error given => spoils_of_query given fun _ fault => ?_)
    fun eventInput answer writes given reported => ?_
  · exact ⟨(), _, Prisma.DeliveryEvent.create_succeeds.mpr ⟨fault, rfl⟩⟩
  obtain ⟨_, rfl⟩ := Prisma.DeliveryEvent.create_succeeds.mp reported
  simp only [List.append_assoc]
  exact Idempotency.settle_aborts claim fun _ => rfl

/-- When `submitPod` may go on to its transaction. -/
def Submits (stop : DeliveryStop) (delivery : Delivery) : Prop :=
  ¬delivery.status ∈ terminalDeliveryStatuses ∧ ¬(stop.status ≠ .unloading ∧ stop.status ≠ .arrived)

/-- What a successful submission has found and done. -/
inductive Submitted (stopId : Uuid) (dto : SubmitPodDto) (actor : DeliveryActor)
    (stop : DeliveryStop) (delivery : Delivery) (before : Db) : PodReply → Db → Prop where
  | replayed {body : ResponseBody}
      (stored : before.stored (PodService.recordKey actor dto.idempotencyKey) = some body) :
      Submitted stopId dto actor stop delivery before (.reply (.replayed body)) before
  | delivered (unstored : before.stored (PodService.recordKey actor dto.idempotencyKey) = none)
      (status : stop.status = .delivered) :
      Submitted stopId dto actor stop delivery before
        (.alreadySubmitted ((before.pod? stopId).map ProofOfDelivery.id) stopId
          ((before.pod? stopId).map ProofOfDelivery.completedAt <|> stop.completedAt)) before
  | fresh {body : ResponseBody} {writes : List Write} {after : Db}
      (unstored : before.stored (PodService.recordKey actor dto.idempotencyKey) = none)
      (submits : Submits stop delivery)
      (commit : PodCommit stopId stop.deliveryId dto actor before body writes)
      (trailed : Trailed (before.commit writes) after) :
      Submitted stopId dto actor stop delivery before (.reply (.fresh body)) after

namespace PodService

open DeliveryStopsService

omit [UuidText] in
/-- The update of a stop that may be submitted finds it. -/
theorem matched_of_submits {stop : DeliveryStop} {delivery : Delivery} {driver : Option Uuid}
    (submits : Submits stop delivery) (own : Reaches before stopId driver stop delivery) :
    Prisma.DeliveryStop.matched before stopId [.unloading, .arrived] terminalDeliveryStatuses =
      true := by
  obtain ⟨operational, waiting⟩ := submits
  exact Prisma.DeliveryStop.matched_iff.mpr
    ⟨stop, own.1, by simp; tauto, delivery, own.2.1, operational⟩

/-- In the state that a transaction begins in, its commit is that of the submission. -/
theorem claimPod_commits (db : Db) :
    (claimPod stopId deliveryId dto actor).Yields
      (fun body writes => PodCommit stopId deliveryId dto actor db body writes) db [] := by
  have lasting : Txn.Lasting (S := store) (fun _ before after => before = after)
      fun _ _ => True := ⟨fun _ _ => trivial, fun _ _ => trivial⟩
  refine ((claimPod_holds .alone lasting (fun _ _ _ _ => trivial) db).yields
    fun _ => rfl).mono fun body writes made => ?_
  obtain ⟨_, commit, _⟩ := made
  exact commit

/-- A submission that returns has written the proof and moved the stop. -/
theorem submitPod_returns {reply : PodReply}
    (returned : (submitPod stopId dto actor).Returns supplied before reply after) :
    ∃ stop delivery, Reaches before stopId (verifiedDriver actor) stop delivery ∧
      Submitted stopId dto actor stop delivery before reply after := by
  obtain ⟨⟨stop, delivery⟩, _, read, rest⟩ := Proc.returns_bind.mp returned
  obtain ⟨own, rfl⟩ := getStopAndVerifyDriver_returns read
  obtain ⟨existing, _, lookup, rest⟩ := Proc.returns_bind.mp rest
  obtain ⟨stored, rfl⟩ := Idempotency.stored_returns lookup
  refine ⟨stop, delivery, own, ?_⟩
  cases existing with
  | some body =>
      obtain ⟨rfl, rfl⟩ := Proc.returns_pure.mp rest
      exact .replayed stored
  | none =>
      dsimp only at rest
      split at rest
      · rename_i status
        obtain ⟨pod, _, found, done⟩ := Proc.returns_bind.mp rest
        obtain ⟨found, rfl⟩ := returns_select found
        cases found
        obtain ⟨rfl, rfl⟩ := Proc.returns_pure.mp done
        exact .delivered stored status
      · simp only [submitOnce, Proc.returns_bind, Proc.returns_rejectIf] at rest
        obtain ⟨_, _, ⟨operational, rfl⟩, _, _, ⟨waiting, rfl⟩, outcome, _, once, rest⟩ := rest
        obtain ⟨body, writes, rfl, commit, rfl⟩ :=
          Idempotency.transactOnce_returns stored (claimPod_commits _) once
        simp only [Proc.returns_bind, Proc.returns_pure] at rest
        obtain ⟨_, _, emitted, _, _, completed, rfl, rfl⟩ := rest
        exact .fresh stored ⟨operational, waiting⟩ commit
          ((trails_emit.of_runs emitted).trans
            ((DeliveriesService.trails_completeDeliveryIfEligible _ _).of_runs completed))

/-- When a submission is answered, as far as its state matters. -/
def Accepts (dto : SubmitPodDto) (actor : DeliveryActor) (db : Db) (stop : DeliveryStop)
    (delivery : Delivery) : Prop :=
  db.stored (recordKey actor dto.idempotencyKey) ≠ none ∨ stop.status = .delivered ∨
    Submits stop delivery

/-- A submission that throws has left nothing. -/
theorem submitOnce_throws {stop : DeliveryStop} {delivery : Delivery} {driver : Option Uuid}
    {error : Exception} (own : Reaches before stopId driver stop delivery)
    (thrown : (submitOnce stop delivery stopId dto actor).Throws supplied before error after) :
    after = before ∧ ((∃ exception, error = .http exception) ∧ ¬Submits stop delivery ∨
      Spoils supplied (Submittable stopId dto actor before) error ∧ Submits stop delivery) := by
  simp only [submitOnce, Proc.throws_bind, Proc.returns_rejectIf, Proc.throws_rejectIf] at thrown
  rcases thrown with ⟨refused, rfl, rfl⟩ | ⟨_, current, ⟨operational, same⟩, rest⟩
  · exact ⟨rfl, .inl ⟨⟨_, rfl⟩, fun submits => submits.1 refused⟩⟩
  subst same
  rcases rest with ⟨refused, rfl, rfl⟩ | ⟨_, current, ⟨waiting, same⟩, rest⟩
  · exact ⟨rfl, .inl ⟨⟨_, rfl⟩, fun submits => submits.2 refused⟩⟩
  subst same
  have submits : Submits stop delivery := ⟨operational, waiting⟩
  rcases rest with failed | ⟨reply, _, _, rest⟩
  · obtain ⟨rfl, spoiled | ⟨reason, ill⟩⟩ :=
      Idempotency.transactOnce_throws (claimPod_aborts (matched_of_submits submits own)) failed
    · exact ⟨rfl, .inr ⟨spoiled, submits⟩⟩
    · exact ⟨rfl, .inr ⟨⟨reason, fun healthy => absurd healthy ill⟩, submits⟩⟩
  · -- what follows the transaction does not fail
    cases reply with
    | replayed body => exact absurd rest Proc.throws_pure
    | fresh body =>
        simp only [Proc.throws_bind, Proc.throws_pure, and_false, exists_false, or_false] at rest
        rcases rest with failed | ⟨_, _, _, failed⟩
        · obtain ⟨input, _, impossible, _⟩ := Proc.throws_lift.mp failed
          cases impossible
        · obtain ⟨_, _, _, impossible⟩ := Proc.throws_tryCatch.mp failed
          exact absurd impossible Proc.throws_pure

/-- A submission fails because the stop does not accept one; because it is at fault itself,
or the environment. -/
theorem submitPod_throws {error : Exception}
    (thrown : (submitPod stopId dto actor).Throws supplied before error after) :
    Refuses supplied (Permits stopId (verifiedDriver actor) (Accepts dto actor before) before)
        before error after ∨
      after = before ∧ Spoils supplied (Submittable stopId dto actor before) error ∧
        before.stored (recordKey actor dto.idempotencyKey) = none ∧
          Permits stopId (verifiedDriver actor) Submits before := by
  rcases Proc.throws_bind.mp thrown with failed | ⟨⟨stop, delivery⟩, current, read, rest⟩
  · refine .inl ?_
    rcases getStopAndVerifyDriver_throws failed with ⟨http, foreign, same⟩ | ⟨prisma, alone⟩
    · exact .inl ⟨http, fun ⟨stop, delivery, own, _⟩ => foreign ⟨stop, delivery, own⟩, same⟩
    · exact .inr ⟨prisma, fun healthy =>
        ⟨fun ⟨stop, delivery, own, _⟩ => (alone healthy).1 ⟨stop, delivery, own⟩, (alone healthy).2⟩⟩
  obtain ⟨own, rfl⟩ := getStopAndVerifyDriver_returns read
  rcases Proc.throws_bind.mp rest with failed | ⟨existing, _, lookup, rest⟩
  · obtain ⟨prisma, ill⟩ := Idempotency.stored_throws failed
    exact .inl (.inr ⟨prisma, fun healthy => absurd healthy ill⟩)
  obtain ⟨stored, rfl⟩ := Idempotency.stored_returns lookup
  cases existing with
  | some body => exact absurd rest Proc.throws_pure
  | none =>
      dsimp only at rest
      split at rest
      · simp only [alreadySubmitted, Proc.throws_bind, Proc.throws_pure, and_false, exists_false,
          or_false] at rest
        obtain ⟨⟨reason, rfl, unread⟩, _⟩ := throws_select rest
        exact .inl (.inr ⟨⟨reason, rfl⟩, fun healthy => by cases unread healthy⟩)
      · rename_i waiting
        obtain ⟨rfl, ⟨http, unfit⟩ | ⟨spoiled, submits⟩⟩ := submitOnce_throws own rest
        · refine .inl (.inl ⟨http, ?_, rfl⟩)
          rintro ⟨other, parent, reached, accepted⟩
          obtain rfl : other = stop := Option.some.inj (reached.1.symm.trans own.1)
          obtain rfl : parent = delivery := Option.some.inj (reached.2.1.symm.trans own.2.1)
          rcases accepted with replayed | delivered | submits
          · exact replayed stored
          · exact waiting delivered
          · exact unfit submits
        · exact .inr ⟨rfl, spoiled, stored, stop, delivery, own, submits⟩

end PodService

end Pod

end Armada
