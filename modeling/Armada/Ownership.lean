import Armada.Alone
import Armada.Effects.Services

/-!
# What an ownership check secures

The operations on a stop begin with a reading that checks whose delivery the stop
belongs to, and from then on write about that stop and that delivery alone. The contract
below says so for any interference under which the check can be remembered.
-/

namespace Armada

open Relational Concurrency

/-- The write makes or changes a stop, a proof, an event or a ticket. -/
def Write.touches : Write → Bool
  | .createStop _ | .updateStop .. | .createPod _ | .updatePod .. | .createEvent _
  | .createConflict _ | .updateConflict .. => true
  | _ => false

/-- The write is about the stop, or about the delivery. -/
def Write.About (stopId deliveryId : Uuid) : Write → Prop
  | .updateStop id _ => id = stopId
  | .createPod row => row.deliveryStopId = stopId
  | .createEvent row => row.deliveryId = deliveryId
  | .createConflict row => row.deliveryId = deliveryId
  | _ => False

/-- What has been checked for a stop and its delivery, as a predicate of the store that
interference and the update of a stop leave true. -/
structure Lasting (rely : Db → Db → Prop) (checked : Uuid → Uuid → Db → Prop) : Prop where
  keep : ∀ {since next stopId deliveryId}, rely since next → checked stopId deliveryId since →
    checked stopId deliveryId next
  stays : ∀ {db stopId deliveryId id data}, checked stopId deliveryId db →
    checked stopId deliveryId ((Write.updateStop id data).apply db)

/-- What the reading of a stop that is the driver's establishes, whenever it is made. -/
structure Checkable (rely : Db → Db → Prop) (driver : Option Uuid)
    (checked : Uuid → Uuid → Db → Prop) : Prop extends Lasting rely checked where
  learn : ∀ {since next stopId stop delivery}, rely since next →
    Reaches next stopId driver stop delivery → checked stopId stop.deliveryId next

/-- The stop belongs to the delivery, and the delivery to the driver. -/
def Belongs (driver stopId deliveryId : Uuid) (db : Db) : Prop :=
  ∃ stop delivery, Reaches db stopId (some driver) stop delivery ∧ stop.deliveryId = deliveryId

/-- A delivery that a stop belongs to is there, and the driver's. -/
theorem Belongs.delivery {driver stopId deliveryId : Uuid} {db : Db}
    (belongs : Belongs driver stopId deliveryId db) :
    ∃ delivery, db.delivery? deliveryId = some delivery ∧ delivery.driverId = some driver := by
  obtain ⟨stop, delivery, ⟨_, parent, driven⟩, rfl⟩ := belongs
  exact ⟨delivery, parent, driven.resolve_left nofun⟩

/-- Whose delivery a stop belongs to is not changed by the update of a stop. -/
theorem Belongs.checkable (driver : Uuid) : Checkable Eq (some driver) (Belongs driver) where
  learn := fun same own => ⟨_, _, own, rfl⟩
  keep := fun same belongs => same ▸ belongs
  stays := by
    rintro db stopId deliveryId id data ⟨stop, delivery, ⟨found, parent, driven⟩, rfl⟩
    by_cases here : stopId = id
    · refine ⟨data.set stop, delivery, ⟨?_, parent, driven⟩, rfl⟩
      rw [Write.stop?_apply, Write.onStop, if_pos here, found, Option.map_some]
    · refine ⟨stop, delivery, ⟨?_, parent, driven⟩, rfl⟩
      rw [Write.stop?_apply, Write.onStop, if_neg here, found]

/-- Writes that touch only what has been checked. -/
def Within (checked : Uuid → Uuid → Db → Prop) (writes : List Write) (db : Db) : Prop :=
  ∀ write ∈ writes, write.touches = true →
    ∃ stopId deliveryId, checked stopId deliveryId db ∧ write.About stopId deliveryId

section Contract

variable {rely : Db → Db → Prop} {checked : Uuid → Uuid → Db → Prop}

/-- Writes that touch no stop stay within any. -/
theorem Within.of_untouched {writes : List Write} {db : Db}
    (untouched : ∀ write ∈ writes, write.touches = false) : Within checked writes db := by
  intro write member touches
  cases (untouched write member).symm.trans touches

/-- Without writes nothing is touched. -/
theorem Within.nothing (db : Db) : Within checked [] db :=
  .of_untouched (by simp)

/-- Writes about one checked stop stay within the checked ones. -/
theorem Within.of_about {stopId deliveryId : Uuid} {writes : List Write} {db : Db}
    (known : checked stopId deliveryId db)
    (about : ∀ write ∈ writes, write.touches = true → write.About stopId deliveryId) :
    Within checked writes db := fun write member touches =>
  ⟨stopId, deliveryId, known, about write member touches⟩

/-- A process that touches only what has been checked, whatever it reads. -/
abbrev Secured {α : Type} (rely : Db → Db → Prop) (checked : Uuid → Uuid → Db → Prop)
    (process : Proc store α) : Prop :=
  process.Commits (.atomic rely (Within checked))

namespace Secured

/-- A statement that touches no stop is secured. -/
theorem of_untouched {β : Type} {statement : Statement store β}
    (untouched : ∀ input db value writes, statement.Succeeds input db value writes →
      ∀ write ∈ writes, write.touches = false) : Secured rely checked (liftM statement) :=
  Proc.Commits.statement Within.nothing fun _ input value writes succeeded =>
    .of_untouched (untouched input _ value writes succeeded)

/-- A look is secured. -/
theorem select {β : Type} {body : Db → Except PrismaError β} :
    Secured rely checked (liftM (select body)) := by
  refine of_untouched fun input db value writes succeeded => ?_
  rw [(select_succeeds.mp succeeded).2.2]
  simp

/-- So is an emission. -/
theorem emit {rooms : List Room} {payload : RealtimePayload} {actor : RealtimeActor} :
    Secured rely checked (liftM (RealtimeGateway.emit rooms payload actor)) := by
  refine of_untouched fun input db value writes succeeded write member => ?_
  rw [RealtimeGateway.emit_succeeds.mp succeeded] at member
  obtain ⟨room, _, rfl⟩ := List.mem_map.mp member
  rfl

end Secured

namespace DeliveriesService

/-- So is the evaluation of a delivery. -/
theorem completeDeliveryIfEligible_secured (deliveryId : Uuid) (actor : DeliveryActor) :
    Secured rely checked (completeDeliveryIfEligible deliveryId actor) := by
  refine .tryCatch (.bind (.transaction Within.nothing fun db =>
    (claimIfEligible_completes deliveryId db).mono fun _ writes made => ?_) fun updated => ?_)
    fun _ => .pure _
  · obtain rfl | ⟨target, now, rfl⟩ := made
    · exact .nothing db
    · exact .of_untouched (by simp [Write.touches])
  · cases updated with
    | none => exact .pure _
    | some row => exact Secured.emit

end DeliveriesService

namespace DeliveryStopsService

variable {stopId : Uuid} {driver : Option Uuid}

/-- The reading of a stop learns whose delivery it belongs to. -/
theorem getStopAndVerifyDriver_learns (checkable : Checkable rely driver checked) (db : Db) :
    (getStopAndVerifyDriver stopId driver).Meets (.atomic rely (Within checked))
      (OnResult (fun found current => checked stopId found.1.deliveryId current) fun _ _ => True) db := by
  refine Proc.Meets.bind (Q := fun result (current : Db) => ∀ stop delivery,
      result = .ok (some (stop, delivery)) → current.stop? stopId = some stop ∧
        current.delivery? stop.deliveryId = some delivery ∧ ∃ since, rely since current)
    (.statement ?_ ?_) (fun _ _ _ => trivial) fun found current read => ?_
  · exact fun next error _ => ⟨.nothing next, fun _ _ impossible => by cases impossible⟩
  · intro next input found writes within succeeded
    obtain ⟨_, rfl, read⟩ := Prisma.DeliveryStop.findUnique_succeeds.mp succeeded
    refine ⟨.nothing next, fun stop delivery same => ?_⟩
    cases same
    rcases read with ⟨impossible, _⟩ | ⟨row, parent, same, foundStop, foundParent⟩
    · cases impossible
    · cases same
      exact ⟨foundStop, foundParent, db, within⟩
  · refine .require (fun _ => trivial) fun row same => .rejectIf (fun _ => trivial) fun driven => ?_
    obtain ⟨stop, delivery⟩ := row
    obtain ⟨foundStop, foundParent, since, within⟩ := read stop delivery (by rw [same])
    exact checkable.learn within ⟨foundStop, foundParent, by tauto⟩

/-- The process reads and verifies the stop, and then touches only what that has checked. -/
def Verified {α : Type} (rely : Db → Db → Prop) (checked : Uuid → Uuid → Db → Prop) (stopId : Uuid)
    (driver : Option Uuid) (process : Proc store α) : Prop :=
  ∃ rest : DeliveryStop × Delivery → Proc store α,
    process = getStopAndVerifyDriver stopId driver >>= rest ∧
      ∀ found db, checked stopId found.1.deliveryId db →
        (rest found).Meets (.atomic rely (Within checked)) (fun _ _ => True) db

/-- A process that verifies before it writes is secured. -/
theorem Verified.secured {α : Type} {process : Proc store α}
    (verified : Verified rely checked stopId driver process)
    (checkable : Checkable rely driver checked) : Secured rely checked process := by
  obtain ⟨rest, rfl, continued⟩ := verified
  exact fun db => (getStopAndVerifyDriver_learns checkable db).bind (fun _ _ _ => trivial)
    fun found current known => continued found current known

/-- What is made of the answer does not matter. -/
theorem Verified.map {α β : Type} {process : Proc store α} (function : α → β)
    (verified : Verified rely checked stopId driver process) :
    Verified rely checked stopId driver (function <$> process) := by
  obtain ⟨rest, rfl, continued⟩ := verified
  refine ⟨fun found => function <$> rest found, Proc.bind_assoc _ _ _, fun found db known => ?_⟩
  exact (continued found db known).bind (fun _ _ _ => trivial) fun _ _ _ => trivial

/-- A step of a stop that has been checked. -/
theorem updateStopIfOperational_secured (lasting : Lasting rely checked)
    {deliveryId : Uuid} {expected : List StopStatus} {data : Input → StopData} {db : Db}
    (known : checked stopId deliveryId db) :
    (updateStopIfOperational stopId expected data).Meets (.atomic rely (Within checked))
      (OnResult (fun _ current => checked stopId deliveryId current) fun _ _ => True) db := by
  refine Proc.Meets.bind (Q := OnResult (fun count current => count = 1 →
    checked stopId deliveryId current)
      fun _ _ => True) (.statement ?_ ?_) (fun _ _ _ => trivial) fun count current updated => ?_
  · exact fun next error _ => ⟨.nothing next, trivial⟩
  · intro next input count writes within succeeded
    have now := lasting.keep within known
    obtain ⟨_, ⟨_, rfl, rfl⟩ | ⟨_, rfl, rfl⟩⟩ := Prisma.DeliveryStop.updateMany_succeeds.mp succeeded
    · exact ⟨.of_about now (by simp [Write.About]), fun _ => lasting.stays now⟩
    · exact ⟨.nothing next, nofun⟩
  · split
    · refine Proc.Meets.bind (Q := fun _ _ => True) (Secured.select current) (fun _ _ _ => trivial)
        fun found after _ => ?_
      cases found with
      | none => exact trivial
      | some row => exact .rejectIf (fun _ => trivial) fun _ => trivial
    · rename_i one
      have now := updated (not_not.mp one)
      refine .statement (fun next error _ => ⟨.nothing next, trivial⟩) fun next input found writes within
        succeeded => ?_
      rw [(Prisma.DeliveryStop.findUnique_succeeds.mp succeeded).2.1]
      exact ⟨.nothing next, lasting.keep within now⟩

variable {actorDriverId actorUserId : Uuid}

/-- What a stop that fails or is skipped leaves to do: its event, and the completion. -/
theorem event_secured {deliveryId : Uuid} (lasting : Lasting rely checked)
    {eventType : String} {metadata : EventMetadata} {eventStop : Option Uuid} {db : Db}
    (known : checked stopId deliveryId db) {α : Type} {rest : Unit → Proc store α}
    (secured : ∀ answer, Secured rely checked (rest answer)) :
    ((liftM (Prisma.DeliveryEvent.create deliveryId eventStop eventType actorUserId metadata) :
        Proc store Unit) >>= rest).Meets (.atomic rely (Within checked)) (fun _ _ => True) db := by
  refine Proc.Meets.bind (Q := fun _ _ => True) (.statement (fun next error _ => ⟨.nothing next, trivial⟩)
    fun next input answer writes within succeeded => ?_) (fun _ _ _ => trivial) fun answer after _ =>
    secured answer after
  obtain ⟨_, rfl⟩ := Prisma.DeliveryEvent.create_succeeds.mp succeeded
  exact ⟨.of_about (lasting.keep within known) (by simp [Write.About]), trivial⟩

/-- A departure verifies the driver before it writes. -/
theorem departToStop_verified (lasting : Lasting rely checked) :
    Verified rely checked stopId (some actorDriverId)
      (departToStop stopId actorDriverId actorUserId) :=
  ⟨_, rfl, fun _ _ known =>
    .rejectIf (fun _ => trivial) fun _ => .rejectIf (fun _ => trivial) fun _ =>
    (updateStopIfOperational_secured lasting known).bind (fun _ _ _ => trivial)
    fun _ after _ => (Secured.emit.bind fun _ => .pure _) after⟩

/-- So does an arrival. -/
theorem arriveAtStop_verified (lasting : Lasting rely checked) :
    Verified rely checked stopId (some actorDriverId)
      (arriveAtStop stopId actorDriverId actorUserId) :=
  ⟨_, rfl, fun _ _ known =>
    .rejectIf (fun _ => trivial) fun _ => .rejectIf (fun _ => trivial) fun _ =>
    (updateStopIfOperational_secured lasting known).bind (fun _ _ _ => trivial)
    fun _ after _ => (Secured.emit.bind fun _ => .pure _) after⟩

/-- So does the start of an unloading. -/
theorem startUnloading_verified (lasting : Lasting rely checked) :
    Verified rely checked stopId (some actorDriverId)
      (startUnloading stopId actorDriverId actorUserId) :=
  ⟨_, rfl, fun _ _ known =>
    .rejectIf (fun _ => trivial) fun _ => .rejectIf (fun _ => trivial) fun _ =>
    (updateStopIfOperational_secured lasting known).bind (fun _ _ _ => trivial)
    fun _ after _ => (Secured.emit.bind fun _ => .pure _) after⟩

/-- So does the failing of a stop. -/
theorem failStop_verified (lasting : Lasting rely checked) (dto : StopReasonDto) :
    Verified rely checked stopId (some actorDriverId)
      (failStop stopId dto actorDriverId actorUserId) :=
  ⟨_, rfl, fun _ _ known =>
    .rejectIf (fun _ => trivial) fun _ => .rejectIf (fun _ => trivial) fun _ =>
    (updateStopIfOperational_secured lasting known).bind (fun _ _ _ => trivial)
    fun _ _ known => event_secured lasting known fun _ => Secured.emit.bind fun _ =>
      (DeliveriesService.completeDeliveryIfEligible_secured _ _).bind fun _ => .pure _⟩

/-- Skipping a stop verifies the driver if there is one. -/
theorem skipStop_verified (lasting : Lasting rely checked) (dto : StopReasonDto)
    (actor : DeliveryActor) :
    Verified rely checked stopId (verifiedDriver actor) (skipStop stopId dto actor) :=
  ⟨_, rfl, fun _ _ known =>
    .rejectIf (fun _ => trivial) fun _ => .rejectIf (fun _ => trivial) fun _ =>
    .rejectIf (fun _ => trivial) fun _ =>
    (updateStopIfOperational_secured lasting known).bind (fun _ _ _ => trivial)
    fun _ _ known => event_secured lasting known fun _ => Secured.emit.bind fun _ =>
      (DeliveriesService.completeDeliveryIfEligible_secured _ _).bind fun _ => .pure _⟩

end DeliveryStopsService

namespace Idempotency

/-- Looking up a record keeps what has been checked. -/
theorem stored_secured (lasting : Lasting rely checked)
    {stopId deliveryId : Uuid} {db : Db} (known : checked stopId deliveryId db)
    (key : Option IdempotencyKey) :
    (stored key).Meets (.atomic rely (Within checked))
      (fun _ current => checked stopId deliveryId current) db := by
  cases key with
  | none => exact known
  | some key =>
      refine Proc.Meets.bind (Q := fun _ current => checked stopId deliveryId current)
        (.statement ?_ ?_) (fun _ _ now => now) fun _ _ now => now
      · exact fun next error within => ⟨.nothing next, lasting.keep within known⟩
      · intro next input found writes within succeeded
        rw [(Prisma.IdempotencyRecord.findUnique_succeeds.mp succeeded).2.2]
        exact ⟨.nothing next, lasting.keep within known⟩

/-- The lookup after a clash writes nothing. -/
theorem recover_secured (key : Option IdempotencyKey) (clash : Exception → Bool) (error : Exception) :
    Secured rely checked (recover key clash error) := by
  cases key with
  | none => exact .throw _
  | some key =>
      rw [recover]
      split
      · refine Secured.select.bind fun record => ?_
        cases record with
        | none => exact .throw _
        | some record => exact .pure _
      · exact .throw _

end Idempotency

namespace PodService

open DeliveryStopsService (verifiedDriver Verified)

variable [UuidText] {stopId : Uuid} {dto : SubmitPodDto} {actor : DeliveryActor}

/-- The commit of a submission is about its stop and delivery. -/
theorem about_of_podCommit {deliveryId : Uuid} {db : Db} {body : ResponseBody} {writes : List Write}
    (commit : PodCommit stopId deliveryId dto actor db body writes) :
    ∀ write ∈ writes, write.touches = true → write.About stopId deliveryId := by
  cases commit with
  | @intro claimed row now event claim absent ofStop author evidence filed eventOf =>
      have claimedUntouched : ∀ write ∈ claimed, write.touches = false := by
        generalize recordKey actor dto.idempotencyKey = key at claim
        cases claim with
        | keyless => simp
        | placed unclaimed own => simp [Write.touches]
      have settledUntouched : ∀ {key status body}, ∀ write ∈ settled key status body,
          write.touches = false := by
        intro key status body
        cases key <;> simp [settled, Write.touches]
      intro write member touches
      rcases List.mem_append.mp member with front | last
      · rcases List.mem_append.mp front with first | middle
        · cases (claimedUntouched write first).symm.trans touches
        · simp only [List.mem_cons, List.not_mem_nil, or_false] at middle
          rcases middle with rfl | rfl | rfl
          · exact rfl
          · exact ofStop
          · exact eventOf.2.1
      · cases (settledUntouched write last).symm.trans touches

/-- A submission stays within the stop that was checked. -/
theorem submitOnce_secured (lasting : Lasting rely checked)
    {stop : DeliveryStop} {delivery : Delivery} {db : Db} (known : checked stopId stop.deliveryId db) :
    (submitOnce stop delivery stopId dto actor).Meets (.atomic rely (Within checked))
      (fun _ _ => True) db := by
  refine .rejectIf (fun _ => trivial) fun _ => .rejectIf (fun _ => trivial) fun _ =>
    Proc.Meets.bind (Q := fun _ _ => True) (Proc.Meets.tryCatch (Q := fun _ _ => True)
      (.bind (Q := fun _ _ => True) (.transaction ?_ ?_) (fun _ _ _ => trivial) fun _ _ _ => trivial)
      (fun _ _ _ => trivial) fun error after _ => Idempotency.recover_secured _ _ error after)
    (fun _ _ _ => trivial) fun reply after _ => ?_
  · exact fun next error _ => ⟨.nothing next, trivial⟩
  · exact fun next within => (claimPod_commits next).mono fun body writes commit =>
      ⟨.of_about (lasting.keep within known) (about_of_podCommit commit), trivial⟩
  · cases reply with
    | replayed body => exact trivial
    | fresh body =>
        exact (Secured.emit.bind fun _ =>
          (DeliveriesService.completeDeliveryIfEligible_secured _ _).bind fun _ => .pure _) after

/-- It verifies the driver before it writes. -/
theorem submitPod_verified (lasting : Lasting rely checked) :
    Verified rely checked stopId (verifiedDriver actor) (submitPod stopId dto actor) := by
  refine ⟨_, rfl, fun found db known => (Idempotency.stored_secured lasting known _).bind
    (fun _ _ _ => trivial) fun existing after now => ?_⟩
  cases existing with
  | some body => exact trivial
  | none =>
      obtain ⟨stop, delivery⟩ := found
      dsimp only
      split
      · exact (Secured.select.bind fun _ => .pure _) after
      · exact submitOnce_secured lasting now

end PodService

end Contract

end Armada
