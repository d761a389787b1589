import Armada.Concurrency.Charge
import Armada.Alone

/-!
# Deliveries that are still running

A delivery that is EN_ROUTE has something left to do, at the latest when all requests have
ended: who finishes its last stop evaluates it afterwards. Two commits can spoil that, the
start of a delivery whose stops are finished already, and an override that has read the
other stops before they were finished.
-/

namespace Armada

open Relational Concurrency

namespace Db

/-- The delivery is EN_ROUTE. -/
def Running (db : Db) (deliveryId : Uuid) : Prop :=
  ∃ row, db.delivery? deliveryId = some row ∧ row.status = .enRoute

/-- The delivery has stops, and all of them are finished. -/
structure Finished (db : Db) (deliveryId : Uuid) : Prop where
  present : ∃ stop, stop ∈ db.stopsOf deliveryId
  all : ∀ stop ∈ db.stopsOf deliveryId, stop.status.Terminal

/-- The delivery is EN_ROUTE with nothing left to do. -/
structure Stranded (db : Db) (deliveryId : Uuid) : Prop where
  running : db.Running deliveryId
  finished : db.Finished deliveryId

end Db

/-- The commit neither starts a delivery whose stops are finished already, nor is it an
override that delivers the last unfinished stop of a running delivery without completing it. -/
structure Orderly (writes : List Write) (db : Db) : Prop where
  started : ∀ id data, .updateDelivery id data ∈ writes → data.status = some .enRoute →
    ¬db.Finished id
  overridden : ∀ conflictId data, .updateConflict conflictId data ∈ writes →
    ∀ stopId change stop, .updateStop stopId change ∈ writes → db.stop? stopId = some stop →
      db.Running stop.deliveryId →
        (∀ other ∈ db.stopsOf stop.deliveryId, other.id = stopId ∨ other.status.Terminal) →
          ∃ completion, .updateDelivery stop.deliveryId completion ∈ writes

/-- The watch over a delivery. -/
def stranding (deliveryId : Uuid) : Watch store where
  bad db := db.Stranded deliveryId
  orderly := Orderly
  rely := Db.Extends
  supplied := Unfailing
  refl := .refl
  trans := .trans
  commits := Db.extends_commit

/-! ## Writes that strand no delivery -/

namespace Write

/-- The write puts a delivery EN_ROUTE. -/
def starts : Write → Bool
  | .createDelivery row => row.status = .enRoute
  | .updateDelivery _ data => data.status = some .enRoute
  | _ => false

/-- The write puts a stop in a terminal status. -/
def finishes : Write → Bool
  | .createStop row => row.status.Terminal
  | .updateStop _ data => data.status.any fun status => status.Terminal
  | _ => false

/-- A write that neither starts a delivery nor finishes a stop. -/
def mild (write : Write) : Bool := !write.starts && !write.finishes

/-- A write that starts no delivery, and touches no stop but the one. -/
def spares (stopId : Uuid) (write : Write) : Bool :=
  !write.starts && match write with
    | .createStop _ => false
    | .updateStop id _ => id = stopId
    | _ => true

end Write

variable {db : Db} {deliveryId stopId owner : Uuid} {write : Write} {writes : List Write}

/-- The stop is one of the delivery's. -/
def Db.IsStop (db : Db) (stopId deliveryId : Uuid) : Prop :=
  ∃ stop, db.stop? stopId = some stop ∧ stop.deliveryId = deliveryId

/-- A stop stays a stop of its delivery. -/
theorem Db.IsStop.extends {before after : Db} (within : before.Extends after)
    (isStop : before.IsStop stopId deliveryId) : after.IsStop stopId deliveryId := by
  obtain ⟨stop, found, rfl⟩ := isStop
  exact within.stops stopId stop found

/-- It is a stop of one delivery. -/
theorem Db.IsStop.unique (isStop : db.IsStop stopId deliveryId) (isOther : db.IsStop stopId owner) :
    deliveryId = owner := by
  obtain ⟨stop, found, rfl⟩ := isStop
  obtain ⟨same, foundSame, rfl⟩ := isOther
  rw [Option.some.inj (found.symm.trans foundSame)]

namespace Write

/-- A write that starts nothing leaves the delivery running where it was. -/
theorem running_of_apply (starts : write.starts = false)
    (running : (write.apply db).Running deliveryId) : db.Running deliveryId := by
  obtain ⟨row, found, enRoute⟩ := running
  rw [write.delivery?_apply] at found
  cases write with
  | createDelivery new =>
      refine ⟨row, ?_, enRoute⟩
      cases old : db.delivery? deliveryId with
      | some other => simpa [onDelivery, old] using found
      | none =>
          simp only [onDelivery, old, Option.none_or] at found
          split at found
          · cases found
            simp [Write.starts, enRoute] at starts
          · cases found
  | updateDelivery id data =>
      by_cases here : deliveryId = id
      · subst here
        simp only [onDelivery, if_true, Option.map_eq_some_iff] at found
        obtain ⟨old, foundOld, rfl⟩ := found
        refine ⟨old, foundOld, ?_⟩
        cases sets : data.status with
        | none => simpa [DeliveryData.set, sets] using enRoute
        | some status => simp_all [DeliveryData.set, Write.starts]
      · rw [onDelivery, if_neg here] at found
        exact ⟨row, found, enRoute⟩
  | _ => exact ⟨row, found, enRoute⟩

/-- The stops after an update of one. -/
theorem mem_stopsOf_updateStop {data : StopData} {stop : DeliveryStop} :
    stop ∈ ((Write.updateStop stopId data).apply db).stopsOf deliveryId ↔
      ∃ old ∈ db.stopsOf deliveryId, (if old.id = stopId then data.set old else old) = stop := by
  rw [Db.stopsOf_updateStop, List.mem_map]

/-- A write that finishes nothing leaves the delivery unfinished. -/
theorem finished_of_apply (finishes : write.finishes = false)
    (finished : (write.apply db).Finished deliveryId) : db.Finished deliveryId := by
  obtain ⟨⟨stop, member⟩, all⟩ := finished
  cases write with
  | createStop new =>
      -- a new stop of the delivery would not be finished
      have same : ((Write.createStop new).apply db).stopsOf deliveryId = db.stopsOf deliveryId ∨
          new ∈ ((Write.createStop new).apply db).stopsOf deliveryId := by
        by_cases own : new.deliveryId = deliveryId
        · simp only [Db.stopsOf, apply, Table.insert]
          split
          · exact .inr (by simp [own])
          · exact .inl rfl
        · exact .inl (Db.stopsOf_createStop own)
      rcases same with same | added
      · rw [same] at member all
        exact ⟨⟨stop, member⟩, all⟩
      · simp [Write.finishes, all new added] at finishes
  | updateStop id data =>
      refine ⟨?_, fun old present => ?_⟩
      · obtain ⟨old, present, _⟩ := mem_stopsOf_updateStop.mp member
        exact ⟨old, present⟩
      · have later := all _ (mem_stopsOf_updateStop.mpr ⟨old, present, rfl⟩)
        split at later
        · cases sets : data.status with
          | none => simpa [StopData.set, sets] using later
          | some status => simp_all [StopData.set, Write.finishes]
        · exact later
  | _ => exact ⟨⟨stop, member⟩, all⟩

/-- A mild write strands nothing. -/
theorem stranded_of_mild (mild : write.mild = true)
    (stranded : (write.apply db).Stranded deliveryId) :
    db.Stranded deliveryId := by
  simp only [Write.mild, Bool.and_eq_true, Bool.not_eq_true'] at mild
  exact ⟨running_of_apply mild.1 stranded.running, finished_of_apply mild.2 stranded.finished⟩

/-- A sparing write leaves the other stops. -/
theorem stop?_of_spares (spares : write.spares stopId = true) {id : Uuid} (other : id ≠ stopId) :
    (write.apply db).stop? id = db.stop? id := by
  rw [write.stop?_apply]
  cases write with
  | createStop row => simp [Write.spares] at spares
  | updateStop key data =>
      simp only [Write.spares, Bool.and_eq_true, decide_eq_true_eq] at spares
      rw [onStop, if_neg (spares.2 ▸ other)]
  | _ => rfl

/-- It leaves to which delivery they belong. -/
theorem isStop_of_spares (spares : write.spares stopId = true)
    (isStop : (write.apply db).IsStop stopId deliveryId) : db.IsStop stopId deliveryId := by
  obtain ⟨stop, found, same⟩ := isStop
  rw [write.stop?_apply] at found
  cases write with
  | createStop row => simp [Write.spares] at spares
  | updateStop key data =>
      rw [onStop] at found
      split at found
      · obtain ⟨old, foundOld, rfl⟩ := Option.map_eq_some_iff.mp found
        exact ⟨old, foundOld, same⟩
      · exact ⟨stop, found, same⟩
  | _ => exact ⟨stop, found, same⟩

/-- A stop that is finished strands no delivery but its own. -/
theorem isStop_of_stranded (spares : write.spares stopId = true)
    (stranded : (write.apply db).Stranded deliveryId) (good : ¬db.Stranded deliveryId) :
    db.IsStop stopId deliveryId := by
  have starts : write.starts = false := by
    simp only [Write.spares, Bool.and_eq_true, Bool.not_eq_true'] at spares
    exact spares.1
  by_contra foreign
  refine good ⟨running_of_apply starts stranded.running, ?_⟩
  obtain ⟨present, all⟩ := stranded.finished
  have same : (write.apply db).stopsOf deliveryId = db.stopsOf deliveryId := by
    cases write with
    | createStop row => simp [Write.spares] at spares
    | updateStop key data =>
        simp only [Write.spares, Bool.and_eq_true, decide_eq_true_eq] at spares
        rw [Db.stopsOf_updateStop]
        refine (List.map_congr_left fun stop member => if_neg fun same => ?_).trans (List.map_id _)
        obtain ⟨found, own⟩ := Db.mem_stopsOf.mp member
        exact foreign ⟨stop, spares.2 ▸ same ▸ found, own⟩
    | _ => rfl
  rw [same] at present all
  exact ⟨present, all⟩

end Write

namespace Db

/-- A delivery is stranded in a state that agrees. -/
theorem Agree.stranded {left right : Db} (agree : left.Agree right)
    (stranded : left.Stranded deliveryId) : right.Stranded deliveryId := by
  obtain ⟨⟨row, found, enRoute⟩, present, all⟩ := stranded
  rw [agree.delivery?] at found
  rw [agree.stopsOf] at present all
  exact ⟨⟨row, found, enRoute⟩, present, all⟩

/-- Writes that start nothing start no delivery. -/
theorem running_of_commit (starts : ∀ write ∈ writes, write.starts = false)
    (running : (db.commit writes).Running deliveryId) : db.Running deliveryId := by
  induction writes generalizing db with
  | nil => exact running
  | cons write writes inductionHypothesis =>
      exact Write.running_of_apply (starts write List.mem_cons_self)
        (inductionHypothesis (fun later member => starts later (List.mem_cons_of_mem _ member)) running)

/-- A delivery that a commit completes does not run afterwards. -/
theorem not_running_of_completed {data : DeliveryData} {status : DeliveryStatus}
    (starts : ∀ write ∈ writes, write.starts = false)
    (completes : .updateDelivery deliveryId data ∈ writes)
    (sets : data.status = some status) : ¬(db.commit writes).Running deliveryId := by
  induction writes generalizing db with
  | nil => cases completes
  | cons write writes inductionHypothesis =>
      have later : ∀ write ∈ writes, write.starts = false := fun other member =>
        starts other (List.mem_cons_of_mem _ member)
      rcases List.mem_cons.mp completes with rfl | member
      · intro running
        obtain ⟨row, found, enRoute⟩ := running_of_commit later running
        rw [Write.delivery?_apply, Write.onDelivery, if_pos rfl] at found
        obtain ⟨old, _, rfl⟩ := Option.map_eq_some_iff.mp found
        have starting := starts _ List.mem_cons_self
        simp_all [Write.starts, DeliveryData.set]
      · exact inductionHypothesis later member

/-- Sparing writes leave the other stops. -/
theorem stop?_of_spares (spares : ∀ write ∈ writes, write.spares stopId = true) {id : Uuid}
    (other : id ≠ stopId) : (db.commit writes).stop? id = db.stop? id := by
  induction writes generalizing db with
  | nil => rfl
  | cons write writes inductionHypothesis =>
      exact (inductionHypothesis fun later member =>
        spares later (List.mem_cons_of_mem _ member)).trans
        (Write.stop?_of_spares (spares write List.mem_cons_self) other)

/-- Mild writes strand nothing. -/
theorem stranded_of_mild (mild : ∀ write ∈ writes, write.mild = true)
    (stranded : (db.commit writes).Stranded deliveryId) : db.Stranded deliveryId := by
  induction writes generalizing db with
  | nil => exact stranded
  | cons write writes inductionHypothesis =>
      exact Write.stranded_of_mild (mild write List.mem_cons_self)
        (inductionHypothesis (fun later member => mild later (List.mem_cons_of_mem _ member)) stranded)

/-- A commit that touches one stop strands no delivery but that of the stop. -/
theorem isStop_of_stranded (spares : ∀ write ∈ writes, write.spares stopId = true)
    (stranded : (db.commit writes).Stranded deliveryId) (good : ¬db.Stranded deliveryId) :
    db.IsStop stopId deliveryId := by
  induction writes generalizing db with
  | nil => exact absurd stranded good
  | cons write writes inductionHypothesis =>
      have first := spares write List.mem_cons_self
      by_cases sooner : (write.apply db).Stranded deliveryId
      · exact Write.isStop_of_stranded first sooner good
      · exact Write.isStop_of_spares first (inductionHypothesis
          (fun later member => spares later (List.mem_cons_of_mem _ member)) stranded sooner)

end Db

/-- They do no harm. -/
theorem harmless_of_mild (mild : ∀ write ∈ writes, write.mild = true) :
    (stranding deliveryId).Harmless writes := fun _ _ stranded => Db.stranded_of_mild mild stranded

/-! ## Requests that strand no delivery -/

/-- The process never leaves the delivery stranded. -/
abbrev Minds {α : Type} (deliveryId : Uuid) (process : Proc store α) : Prop :=
  process.Dutiful (stranding deliveryId)

/-- All writes of the body are mild. -/
abbrev Mild {β : Type} (body : Txn store β) : Prop := body.Only fun (write : Write) =>
    write.mild = true

namespace Minds

/-- A statement of mild writes is mindful. -/
theorem call {β : Type} {statement : Statement store β}
    (mild : ∀ input db value writes, statement.Succeeds input db value writes →
      ∀ write ∈ writes, write.mild = true) : Minds deliveryId (liftM statement) :=
  .statement fun input db value writes executed _ stranded =>
    Db.stranded_of_mild (mild input db value writes executed) stranded

/-- So is a read. -/
theorem read {β : Type} {body : Db → Except PrismaError β} :
    Minds deliveryId (liftM (select body)) :=
  call fun input db value writes executed => by simp [(select_succeeds.mp executed).2.2]

/-- So is an audit row. -/
theorem audit {row : AuditLog} : Minds deliveryId (liftM (Prisma.AuditLog.create row)) :=
  call fun input db value writes executed => by
    simp [(Prisma.AuditLog.create_succeeds.mp executed).2, Write.mild, Write.starts, Write.finishes]

/-- So is an emission. -/
theorem emit {rooms : List Room} {payload : RealtimePayload} {actor : RealtimeActor} :
    Minds deliveryId (liftM (RealtimeGateway.emit rooms payload actor)) :=
  call fun input db value writes executed => by
    simp [RealtimeGateway.emit_succeeds.mp executed, Write.mild, Write.starts, Write.finishes]

/-- So is a rate limit. -/
theorem rateLimited {key : String} {windowSeconds : Nat} :
    Minds deliveryId (liftM (RedisService.incrRateLimit key windowSeconds)) :=
  call fun input db count writes executed => by
    simp [(RedisService.incrRateLimit_succeeds.mp executed).2]

/-- A call that cannot fail leaves the charge as it was. -/
theorem sure {β : Type} {statement : Statement store β} {charge : Charge store}
    (total : ∀ input db error, Unfailing input → statement.exec input db ≠ .error error)
    (mild : ∀ input db value writes, statement.Succeeds input db value writes →
      ∀ write ∈ writes, write.mild = true) :
    (liftM statement : Proc store β).Meets (.charged (stranding deliveryId))
      (fun result last => (∃ value, result = .ok value) ∧ (last.owing → charge.owing)) charge := by
  rw [Proc.meets_lift]
  refine fun db _ input given => ⟨fun error failed => absurd failed (total input db error given),
    fun value writes executed orderly => ⟨⟨value, rfl⟩, fun next => ?_⟩⟩
  exact Watch.owing_of_harmless (harmless_of_mild (mild input db value writes executed)) orderly next

/-- An emission leaves the charge as it is. -/
theorem emitted {rooms : List Room} {payload : RealtimePayload} {actor : RealtimeActor}
    {charge : Charge store} :
    (liftM (RealtimeGateway.emit rooms payload actor) : Proc store Unit).Meets
      (.charged (stranding deliveryId))
      (fun result last => (∃ value, result = .ok value) ∧ (last.owing → charge.owing)) charge :=
  sure (fun input db error _ failed => by cases failed) fun input db value writes executed => by
    simp [RealtimeGateway.emit_succeeds.mp executed, Write.mild, Write.starts, Write.finishes]

/-- A mild transaction is mindful. -/
theorem transact {β : Type} {body : Txn store β} (mild : Mild body) :
    Minds deliveryId (Proc.transact body) :=
  .transaction fun db => (mild [] [] db (by simp)).mono fun _ _ _ _ => harmless_of_mild

end Minds

namespace Mild

/-- A read is mild. -/
theorem read {β : Type} {body : Db → Except PrismaError β} : Mild (liftM (select body)) :=
  .statement fun input db value writes executed => by simp [(select_succeeds.mp executed).2.2]

/-- So is an audit row. -/
theorem audit {row : AuditLog} : Mild (liftM (Prisma.AuditLog.create row)) :=
  .statement fun input db value writes executed => by
    simp [(Prisma.AuditLog.create_succeeds.mp executed).2, Write.mild, Write.starts, Write.finishes]

/-- So is an update that starts nothing. -/
theorem updateMany {id : Uuid} {status : DeliveryStatus → Bool} {data : Input → DeliveryData}
    (mild : ∀ input, (data input).status ≠ some .enRoute) :
    Mild (liftM (Prisma.Delivery.updateMany id status data)) := by
  refine .statement fun input db value writes executed write member => ?_
  obtain ⟨_, ⟨_, _, _, _, rfl⟩ | ⟨_, _, rfl⟩⟩ := Prisma.Delivery.updateMany_succeeds.mp executed
  · rw [List.mem_singleton.mp member]
    simpa [Write.mild, Write.starts, Write.finishes] using mild input
  · cases member

end Mild

namespace DeliveriesService

/-- The look for a delivery is mindful. -/
theorem getDeliveryById_minds (id : IdText) (actor : DeliveryActor) :
    Minds deliveryId (getDeliveryById id actor) :=
  .bind Minds.read fun found => (Proc.Dutiful.require found _).bind fun _ =>
    (Proc.Dutiful.rejectIf _ _).bind fun _ => (Proc.Dutiful.rejectIf _ _).bind fun _ => .pure _

/-- The creation of stops is mild. -/
theorem createStops_mild (id : Uuid) (stops : List CreateDeliveryStopDto) :
    Mild (createStops id stops) := by
  induction stops with
  | nil => exact .pure ()
  | cons stop stops inductionHypothesis =>
      refine .bind (.statement fun input db value writes executed => ?_) fun _ =>
        inductionHypothesis
      rw [(Prisma.DeliveryStop.create_succeeds.mp executed).2.2.2]
      intro write member
      rw [List.mem_singleton.mp member]
      rfl

/-- The creation of a delivery is mindful. -/
theorem createDelivery_minds (dto : CreateDeliveryDto) (creatorUserId : Uuid) :
    Minds deliveryId (createDelivery dto creatorUserId) := by
  refine .bind Minds.read fun existing => (Proc.Dutiful.rejectIf _ _).bind fun _ =>
    Minds.transact ?_
  refine .bind (.statement fun input db row writes executed => ?_) fun delivery =>
    .bind (.statement fun input db answer writes executed => ?_) fun _ =>
      (createStops_mild _ _).bind fun _ => Mild.audit.bind fun _ => .pure _
  · obtain ⟨_, _, _, rfl, rfl⟩ := Prisma.Delivery.create_succeeds.mp executed
    simp [Write.mild, Write.starts, Write.finishes]
  · simp [(Prisma.DeliveryItem.createMany_succeeds.mp executed).2, Write.mild, Write.starts,
      Write.finishes]

/-- So is its assignment. -/
theorem assignDelivery_minds (id : IdText) (dto : AssignDeliveryDto) (actor : DeliveryActor) :
    Minds deliveryId (assignDelivery id dto actor) := by
  refine (getDeliveryById_minds id actor).bind fun delivery =>
    (Proc.Dutiful.rejectIf _ _).bind fun _ => .bind Minds.read fun driver =>
      (Proc.Dutiful.rejectIf _ _).bind fun _ => .bind Minds.read fun vehicle =>
        (Proc.Dutiful.rejectIf _ _).bind fun _ =>
          .bind (Minds.call fun input db row writes executed => ?_) fun updated =>
            Minds.audit.bind fun _ => Minds.emit.bind fun _ => .pure _
  simp [(Prisma.Delivery.update_succeeds.mp executed).2.2, Write.mild, Write.starts, Write.finishes]

/-- So is the check of a driver's own delivery. -/
theorem requireOwn_minds (id : IdText) (actorDriverId : Uuid) (verb : String) (expected : DeliveryStatus) :
    Minds deliveryId (requireOwn id actorDriverId verb expected) :=
  .bind Minds.read fun found => (Proc.Dutiful.require found _).bind fun _ =>
    (Proc.Dutiful.rejectIf _ _).bind fun _ => .rejectIf _ _

/-- So is its acceptance. -/
theorem acceptDelivery_minds (id : IdText) (actorDriverId actorUserId : Uuid) :
    Minds deliveryId (acceptDelivery id actorDriverId actorUserId) := by
  refine (requireOwn_minds id actorDriverId _ _).bind fun _ =>
    .bind (Minds.call fun input db row writes executed => ?_) fun updated =>
      Minds.audit.bind fun _ => Minds.emit.bind fun _ => .pure _
  simp [(Prisma.Delivery.update_succeeds.mp executed).2.2, Write.mild, Write.starts, Write.finishes]

/-- An orderly start does not find all stops finished. -/
theorem startDelivery_minds (id : IdText) (actorDriverId actorUserId : Uuid) :
    Minds deliveryId (startDelivery id actorDriverId actorUserId) := by
  refine (requireOwn_minds id actorDriverId _ _).bind fun _ =>
    .bind (.statement fun input db row writes executed orderly stranded => ?_) fun updated =>
      Minds.audit.bind fun _ => Minds.emit.bind fun _ => .pure _
  rw [(Prisma.Delivery.update_succeeds.mp executed).2.2] at orderly stranded
  obtain ⟨⟨later, found, enRoute⟩, finished⟩ := stranded
  have elsewhere : deliveryId ≠ id := by
    rintro rfl
    exact orderly.started id _ (List.mem_singleton_self _) rfl ⟨finished.present,
      finished.all⟩
  refine ⟨⟨later, ?_, enRoute⟩, finished.present, finished.all⟩
  have same := Write.delivery?_apply (.updateDelivery id
    { status := some .enRoute, startedAt := some input.now }) db deliveryId
  rw [Write.onDelivery, if_neg elsewhere] at same
  exact same.symm.trans found

/-- No verdict is EN_ROUTE. -/
theorem evaluateStops_target (stops : List DeliveryStop) :
    (evaluateStops stops).targetStatus ≠ some .enRoute := by
  simp only [evaluateStops]
  split_ifs <;> simp

/-- Finished stops have a verdict. -/
theorem evaluateStops_of_finished {stops : List DeliveryStop} (present : ∃ stop, stop ∈ stops)
    (all : ∀ stop ∈ stops, stop.status.Terminal) :
    (evaluateStops stops).completed = true ∧ (evaluateStops stops).targetStatus ≠ none := by
  obtain ⟨stop, member⟩ := present
  have some : stops.length ≠ 0 := (List.length_pos_of_mem member).ne'
  have none : stops.filter (fun stop => stop.status ∉ terminalStatuses) = [] :=
    List.filter_eq_nil_iff.mpr fun stop member =>
      by simpa [StopStatus.Terminal] using all stop member
  rw [evaluateStops, if_neg some, none]
  exact ⟨rfl, Option.some_ne_none _⟩

/-- The look at the stops is mild. -/
theorem evaluateDeliveryCompletion_mild {β : Type} {id : Uuid}
    {next : CompletionEvaluation → Txn store β}
    (rest : ∀ stops, Mild (next (evaluateStops stops))) :
    Mild (evaluateDeliveryCompletion id >>= next) := by
  change Mild (liftM (Prisma.DeliveryStop.findMany id) >>= fun stops => next (evaluateStops stops))
  exact .bind Mild.read rest

/-- The manual completion is mindful. -/
theorem completeDelivery_minds (id : IdText) (actor : DeliveryActor) :
    Minds deliveryId (completeDelivery id actor) := by
  refine (getDeliveryById_minds id actor).bind fun delivery => ?_
  split
  · exact .pure _
  · refine (Proc.Dutiful.rejectIf _ _).bind fun _ => .bind (Minds.transact ?_) fun result =>
      (Proc.Dutiful.require result _).bind fun updated => Minds.emit.bind fun _ => .pure _
    refine evaluateDeliveryCompletion_mild fun stops =>
      (Txn.Only.rejectIf _ _).bind fun _ => .bind (Mild.updateMany ?_) fun claimed =>
        (Txn.Only.rejectIf _ _).bind fun _ => Mild.read.bind fun row =>
          Mild.audit.bind fun _ => .pure _
    intro _ running
    have running : (evaluateStops stops).targetStatus.getD .completed = .enRoute :=
      Option.some.inj running
    cases verdict : (evaluateStops stops).targetStatus with
    | none => simp [verdict] at running
    | some target =>
        rw [verdict] at running
        exact evaluateStops_target stops (verdict.trans (congrArg some running))

/-- So is the cancellation. -/
theorem cancelDelivery_minds (id : IdText) (dto : CancelDeliveryDto) (actor : DeliveryActor) :
    Minds deliveryId (cancelDelivery id dto actor) := by
  refine (getDeliveryById_minds id actor).bind fun _ => .bind (Minds.transact ?_) fun updated =>
    Minds.emit.bind fun _ => .pure _
  exact .bind (Mild.updateMany fun _ => by simp) fun claimed =>
    (Txn.Only.rejectIf _ _).bind fun _ =>
    Mild.read.bind fun row => Mild.audit.bind fun _ => .pure _

/-- A completed delivery is not stranded. -/
theorem not_stranded_of_completed {status : DeliveryStatus} {now : Instant}
    (ended : status ≠ .enRoute) :
    ¬(db.commit [.updateDelivery deliveryId { status := some status, completedAt := some now }]).Stranded
      deliveryId := by
  rintro ⟨⟨row, found, enRoute⟩, _⟩
  rw [Db.commit_cons, Db.commit_nil, Write.delivery?_apply, Write.onDelivery, if_pos rfl,
    Option.map_eq_some_iff] at found
  obtain ⟨old, _, rfl⟩ := found
  exact ended enRoute

/-- The claim of a completion is mild. -/
theorem claimIfEligible_mild (id : Uuid) : Mild (claimIfEligible id) := by
  refine evaluateDeliveryCompletion_mild fun stops => ?_
  split
  · exact .pure none
  · rename_i target chosen
    split
    · refine .bind (Mild.updateMany fun input running => ?_) fun claimed => ?_
      · exact evaluateStops_target stops (chosen.trans running)
      · split
        · exact .pure none
        · exact Mild.read
    · exact .pure none

/-- Whoever completes a delivery that is stranded is no longer in charge of it. -/
theorem claimIfEligible_mends (charge : Charge store) :
    (claimIfEligible deliveryId).Minds (stranding deliveryId) (fun _ last => ¬last.owing)
    [] charge := by
  -- where nothing is done, nothing was to be done
  have idle : ∀ {row : Option Delivery} {owing : Prop} {db : Db}, ¬db.Stranded deliveryId →
      (Txn.done row).Minds (stranding deliveryId) (fun _ last => ¬last.owing) []
        ((stranding deliveryId).next owing db db) := by
    intro row owing db good last _
    exact ⟨fun _ next => good (Watch.owing_of_idle next).1,
      fun _ _ _ _ next => good (Watch.owing_of_idle next).1⟩
  change Txn.Minds (stranding deliveryId) _
    (liftM (Prisma.DeliveryStop.findMany deliveryId) >>= fun stops => _) _ _
  refine Txn.Minds.step (fun evaluated _ input error given failed => ?_)
    fun evaluated _ input stops writes given executed => ?_
  · rw [Prisma.DeliveryStop.findMany, select] at failed
    obtain ⟨_, _, unread⟩ := query_fails failed
    cases unread given
  obtain ⟨_, rfl, rfl⟩ := Prisma.DeliveryStop.findMany_succeeds.mp executed
  have verdict : evaluated.Stranded deliveryId →
      (evaluateStops (evaluated.stopsOf deliveryId)).completed = true ∧
        (evaluateStops (evaluated.stopsOf deliveryId)).targetStatus ≠ none := fun stranded =>
    evaluateStops_of_finished stranded.finished.present stranded.finished.all
  split
  · rename_i none
    exact idle fun stranded => (verdict stranded).2 none
  · rename_i target chosen
    split
    · refine Txn.Minds.step (fun tried _ input error given failed => ?_)
        fun tried _ input count writes given executed => ?_
      · rw [Prisma.Delivery.updateMany] at failed
        obtain ⟨_, _, unread⟩ := query_fails failed
        have unread := unread given
        split at unread <;> cases unread
      · obtain ⟨_, ⟨_, _, _, rfl, rfl⟩ | ⟨other, rfl, rfl⟩⟩ :=
          Prisma.Delivery.updateMany_succeeds.mp executed
        · have ended : target ≠ .enRoute := fun running =>
            evaluateStops_target _ (running ▸ chosen)
          refine fun read _ input given => ⟨fun error failed => ?_, fun row writes executed => ?_⟩
          · have failed : (Prisma.Delivery.findUnique deliveryId).exec input _ = .error error := failed
            rw [Prisma.Delivery.findUnique, select] at failed
            obtain ⟨_, _, unread⟩ := query_fails failed
            cases unread given
          · obtain ⟨_, _, rfl⟩ := Prisma.Delivery.findUnique_succeeds.mp executed
            refine fun last _ => ⟨fun _ next => not_stranded_of_completed ended next.1, ?_⟩
            intro input error given fault
            obtain ⟨_, broken, _⟩ := Option.map_eq_some_iff.mp fault
            cases broken.symm.trans given
        · refine idle fun stranded => ?_
          obtain ⟨⟨row, found, enRoute⟩, _⟩ := stranded
          exact of_decide_eq_false (other row found) enRoute
    · rename_i unfinished
      exact idle fun stranded => unfinished (verdict stranded).1

/-- The completion that follows a stop takes the delivery in charge. -/
theorem completeDeliveryIfEligible_mends {id : Uuid} {actor : DeliveryActor} {charge : Charge store}
    (own : charge.owing → id = deliveryId) :
    (completeDeliveryIfEligible id actor).Meets (.charged (stranding deliveryId))
      (fun _ last => ¬last.owing) charge := by
  have claim : (Proc.transact (claimIfEligible id)).Meets (.charged (stranding deliveryId))
      (fun _ last => ¬last.owing) charge := by
    by_cases here : id = deliveryId
    · subst here
      rw [Proc.meets_transact]
      exact fun _ _ => claimIfEligible_mends _
    · exact Minds.transact (claimIfEligible_mild id) charge fun owing => here (own owing)
  refine Proc.Meets.tryCatch (Q := fun _ last => ¬last.owing)
    (claim.bind (fun _ _ free => free) fun updated last free => ?_)
    (fun _ _ free => free) fun _ _ free => free
  cases updated with
  | none => exact free
  | some row => exact Minds.emit last free

end DeliveriesService

namespace DeliveryStopsService

variable {stopId owner : Uuid}

/-- The check of a stop and its driver is mindful. -/
theorem getStopAndVerifyDriver_minds (driver : Option Uuid) :
    Minds deliveryId (getStopAndVerifyDriver stopId driver) :=
  .bind Minds.read fun found => (Proc.Dutiful.require found _).bind fun _ =>
    (Proc.Dutiful.rejectIf _ _).bind fun _ => .pure _

/-- The delivery of the stop that was read is known from then on. -/
theorem getStopAndVerifyDriver_knows (driver : Option Uuid) {charge : Charge store}
    (free : ¬charge.owing) :
    (getStopAndVerifyDriver stopId driver).Meets (.charged (stranding deliveryId))
      (fun result last => ¬last.owing ∧
        ∀ pair, result = .ok pair → last.since.IsStop stopId pair.1.deliveryId) charge := by
  simp only [getStopAndVerifyDriver, Proc.meets_bind, Proc.meets_lift]
  refine fun db _ input given => ⟨fun error failed =>
    ⟨fun next => free (Watch.owing_of_idle next), fun _ impossible => by cases impossible⟩,
    fun found writes executed orderly => ?_⟩
  obtain ⟨_, rfl, ⟨rfl, absent⟩ | ⟨stop, delivery, rfl, read, parent⟩⟩ :=
    Prisma.DeliveryStop.findUnique_succeeds.mp executed
  · exact ⟨fun next => free (Watch.owing_of_idle next), fun _ impossible => by cases impossible⟩
  · refine Proc.Meets.rejectIf (fun _ => ⟨fun next => free (Watch.owing_of_idle next),
      fun _ impossible => by cases impossible⟩) fun _ =>
        ⟨fun next => free (Watch.owing_of_idle next), ?_⟩
    rintro pair ⟨⟩
    exact ⟨stop, read, rfl⟩

/-- What a conditional update leaves to its process: the delivery of its stop, if that was
stranded by it. -/
def Leaves (deliveryId owner : Uuid) (result : Except Exception (Option (DeliveryStop × Delivery)))
    (last : Charge store) : Prop :=
  last.owing → owner = deliveryId ∧ ∃ value, result = .ok value

/-- The reading of a stop whose delivery is stranded does not fail. -/
theorem findUnique_leaves {charge : Charge store} (isStop : charge.since.IsStop stopId owner)
    (own : charge.owing → owner = deliveryId) :
    (liftM (Prisma.DeliveryStop.findUnique stopId) : Proc store _).Meets
      (.charged (stranding deliveryId)) (Leaves deliveryId owner) charge := by
  rw [Proc.meets_lift]
  refine fun db within input given => ⟨fun error failed next => ?_,
    fun value writes executed _ next => ?_⟩
  · -- the stop and its delivery are there
    obtain ⟨stop, found, same⟩ := isStop.extends within
    obtain ⟨⟨row, parent, _⟩, _⟩ := next.1
    rw [← own (next.2.resolve_right fun good => good next.1), ← same] at parent
    rw [Prisma.DeliveryStop.findUnique, select] at failed
    obtain ⟨_, _, unread⟩ := query_fails failed
    have unread := unread given
    simp only [found, parent] at unread
    cases unread
  · obtain ⟨_, rfl, _⟩ := Prisma.DeliveryStop.findUnique_succeeds.mp executed
    exact ⟨own (Watch.owing_of_idle next), value, rfl⟩

/-- A stop's update to a terminal status leaves the request in charge of the completion. -/
theorem updateStopIfOperational_leaves {expected : List StopStatus} {data : Input → StopData}
    {charge : Charge store} (free : ¬charge.owing) (isStop : charge.since.IsStop stopId owner) :
    (updateStopIfOperational stopId expected data).Meets (.charged (stranding deliveryId))
      (Leaves deliveryId owner) charge := by
  simp only [updateStopIfOperational, Proc.meets_bind, Proc.meets_lift]
  refine fun db within input given => ⟨fun error failed next => ?_,
    fun count writes executed orderly => ?_⟩
  · exact absurd (Watch.owing_of_idle next) free
  obtain ⟨_, ⟨_, rfl, rfl⟩ | ⟨_, rfl, rfl⟩⟩ := Prisma.DeliveryStop.updateMany_succeeds.mp executed
  · refine findUnique_leaves (Db.IsStop.extends ((stranding deliveryId).commits _ _)
      (isStop.extends within)) fun next => ?_
    obtain ⟨stranded, owing | good⟩ := next
    · exact absurd owing free
    · exact (isStop.extends within).unique (Db.isStop_of_stranded (by simp [Write.spares, Write.starts]) stranded good)
  · refine (Proc.Dutiful.bind Minds.read fun current => ?_) _
      (fun next => free (Watch.owing_of_idle next)) |>.weaken fun _ _ free next => absurd next free
    cases current with
    | none => exact .throw _
    | some found => exact (Proc.Dutiful.rejectIf _ _).bind fun _ => .throw _

/-- One to an active status is mindful. -/
theorem updateStopIfOperational_minds {expected : List StopStatus} {data : Input → StopData}
    (active : ∀ input, ((data input).status.any fun status => status.Terminal) = false) :
    Minds deliveryId (updateStopIfOperational stopId expected data) := by
  refine .bind (Minds.call fun input db count writes executed write member => ?_) fun count => ?_
  · obtain ⟨_, ⟨_, rfl, rfl⟩ | ⟨_, rfl, rfl⟩⟩ := Prisma.DeliveryStop.updateMany_succeeds.mp executed
    · simpa [List.mem_singleton.mp member, Write.mild, Write.starts,
        Write.finishes] using active input
    · cases member
  · split
    · refine .bind Minds.read fun current => ?_
      cases current with
      | none => exact .throw _
      | some found => exact (Proc.Dutiful.rejectIf _ _).bind fun _ => .throw _
    · exact Minds.read

/-- The three steps of a driver leave their stop unfinished. -/
theorem step_minds {driver : Option Uuid} {first second : DeliveryStop × Delivery → Prop}
    [DecidablePred first] [DecidablePred second] {refusal mismatch : DeliveryStop × Delivery →
      Exception}
    {expected : List StopStatus} {data : Input → StopData} {status : StopStatus}
    {actor : DeliveryActor}
    (active : ∀ input, ((data input).status.any fun status => status.Terminal) = false) :
    Minds deliveryId (do
      let found ← getStopAndVerifyDriver stopId driver
      Proc.rejectIf (first found) (refusal found)
      Proc.rejectIf (second found) (mismatch found)
      let updated ← updateStopIfOperational stopId expected data
      broadcastStopStatusChanged found.1.deliveryId stopId status actor
      return updated) :=
  (getStopAndVerifyDriver_minds driver).bind fun _ => (Proc.Dutiful.rejectIf _ _).bind fun _ =>
    (Proc.Dutiful.rejectIf _ _).bind fun _ => (updateStopIfOperational_minds active).bind fun _ =>
      Minds.emit.bind fun _ => .pure _

/-- A departure is mindful. -/
theorem departToStop_minds (stopId driverId userId : Uuid) :
    Minds deliveryId (departToStop stopId driverId userId) :=
  step_minds fun _ => rfl

/-- So is an arrival. -/
theorem arriveAtStop_minds (stopId driverId userId : Uuid) :
    Minds deliveryId (arriveAtStop stopId driverId userId) :=
  step_minds fun _ => rfl

/-- So is the start of the unloading. -/
theorem startUnloading_minds (stopId driverId userId : Uuid) :
    Minds deliveryId (startUnloading stopId driverId userId) :=
  step_minds fun _ => rfl

/-- Who finishes a stop completes its delivery. -/
theorem finish_minds {expected : List StopStatus} {data : Input → StopData} {target : Option Uuid}
    {eventType : String} {userId : Uuid} {metadata : EventMetadata} {status : StopStatus}
    {actor : DeliveryActor}
    {charge : Charge store} (free : ¬charge.owing) (isStop : charge.since.IsStop stopId owner) :
    Proc.Meets (.charged (stranding deliveryId)) (fun _ last => ¬last.owing) (do
      let updated ← updateStopIfOperational stopId expected data
      Prisma.DeliveryEvent.create owner target eventType userId metadata
      broadcastStopStatusChanged owner stopId status actor
      DeliveriesService.completeDeliveryIfEligible owner actor
      return updated) charge := by
  refine (updateStopIfOperational_leaves free isStop).bind (fun error last leaves owing => ?_)
    fun updated last leaves => ?_
  · obtain ⟨_, _, impossible⟩ := leaves owing
    cases impossible
  have own : last.owing → owner = deliveryId := fun owing => (leaves owing).1
  refine (Minds.sure (fun input db error given failed => ?_) fun _ _ _ _ executed => ?_).bind
    (fun error later ⟨⟨_, impossible⟩, _⟩ => by cases impossible) fun _ later ⟨_, still⟩ => ?_
  · rw [Prisma.DeliveryEvent.create] at failed
    obtain ⟨_, _, unread⟩ := query_fails failed
    cases unread given
  · simp [(Prisma.DeliveryEvent.create_succeeds.mp executed).2, Write.mild, Write.starts,
      Write.finishes]
  refine Minds.emitted.bind (fun error final ⟨⟨_, impossible⟩, _⟩ => by cases impossible)
    fun _ final ⟨_, after⟩ => ?_
  exact (DeliveriesService.completeDeliveryIfEligible_mends fun owing =>
    own (still (after owing))).bind (fun _ _ free => free) fun _ _ free => free

/-- A failed stop is followed by the look at the delivery. -/
theorem failStop_minds (stopId : Uuid) (dto : StopReasonDto) (driverId userId : Uuid) :
    Minds deliveryId (failStop stopId dto driverId userId) := by
  intro charge free
  refine (getStopAndVerifyDriver_knows (some driverId) free).bind (fun _ _ ⟨free, _⟩ => free)
    fun ⟨stop, delivery⟩ last ⟨free, isStop⟩ => ?_
  refine Proc.Meets.rejectIf (fun _ => free) fun _ =>
    Proc.Meets.rejectIf (fun _ => free) fun _ => ?_
  exact finish_minds free (isStop _ rfl)

/-- So is a skipped one. -/
theorem skipStop_minds (stopId : Uuid) (dto : StopReasonDto) (actor : DeliveryActor) :
    Minds deliveryId (skipStop stopId dto actor) := by
  intro charge free
  refine (getStopAndVerifyDriver_knows (verifiedDriver actor) free).bind (fun _ _ ⟨free, _⟩ => free)
    fun ⟨stop, delivery⟩ last ⟨free, isStop⟩ => ?_
  refine Proc.Meets.rejectIf (fun _ => free) fun _ => Proc.Meets.rejectIf (fun _ => free) fun _ =>
    Proc.Meets.rejectIf (fun _ => free) fun _ => ?_
  exact finish_minds free (isStop _ rfl)

end DeliveryStopsService

namespace Idempotency

variable {kind : Write → Prop}

/-- The claim of a key writes only its record. -/
theorem claim_only {key : Option IdempotencyKey} (record : ∀ row, kind (.createRecord row)) :
    Txn.Only (S := store) kind (claim key) := by
  cases key with
  | none => exact .pure ()
  | some key =>
      refine .statement fun input db answer writes executed write member => ?_
      obtain ⟨_, _, rfl⟩ := Prisma.IdempotencyRecord.create_succeeds.mp executed
      exact List.mem_singleton.mp member ▸ record _

/-- So does its settlement. -/
theorem settle_only {key : Option IdempotencyKey} {status : Nat} {body : ResponseBody}
    (record : ∀ key data, kind (.updateRecord key data)) :
    Txn.Only (S := store) kind (settle key status body) := by
  cases key with
  | none => exact .pure ()
  | some key =>
      refine .statement fun input db answer writes executed write member => ?_
      obtain ⟨_, _, rfl⟩ := Prisma.IdempotencyRecord.update_succeeds.mp executed
      exact List.mem_singleton.mp member ▸ record _ _

/-- The look for a stored answer is mindful. -/
theorem stored_minds (key : Option IdempotencyKey) : Minds deliveryId (stored key) := by
  cases key with
  | none => exact .pure none
  | some key => exact .bind Minds.read fun record => .pure _

/-- So is the recovery from a clash. -/
theorem recover_minds (key : Option IdempotencyKey) (unique : Exception → Bool)
    (error : Exception) :
    Minds deliveryId (recover key unique error) := by
  cases key with
  | none => exact .throw error
  | some key =>
      rw [recover]
      split
      · refine .bind Minds.read fun record => ?_
        cases record with
        | none => exact .throw error
        | some record => exact .pure _
      · exact .throw error

end Idempotency

/-- So is a mild transaction under a key. -/
theorem transactOnce_minds {key : Option IdempotencyKey} {unique : Exception → Bool}
    {body : Txn store ResponseBody} (mild : Mild body) :
    Minds deliveryId (Idempotency.transactOnce key unique body) :=
  .tryCatch (.map Reply.fresh (Minds.transact mild)) fun error =>
    Idempotency.recover_minds key unique error

/-! ## Routes and messages -/

namespace RoutesDomainService

/-- So is the access check of the routes. -/
theorem verifyDeliveryAccess_minds (id : IdText) (actor : RouteActor) :
    Minds deliveryId (verifyDeliveryAccess id actor) :=
  .bind Minds.read fun found => (Proc.Dutiful.require found _).bind fun _ =>
    (Proc.Dutiful.rejectIf _ _).bind fun _ => (Proc.Dutiful.rejectIf _ _).bind fun _ => .pure _

/-- The record of a route is mild. -/
theorem recordRoute_mild (id : Uuid) (source : RouteSource) (distance duration : Rat)
    (stops : List (Uuid × Int)) (mode : RouteMode) :
    Mild (recordRoute id source distance duration stops mode) := by
  refine .bind (.bind Mild.read fun maxRoute => .pure _) fun version =>
    .bind (.statement fun input db route made executed => ?_) fun route =>
      .bind (.statement fun input db answer made executed => ?_) fun _ =>
        .bind (.statement fun input db row made executed => ?_) fun _ => .pure _
  · obtain ⟨_, _, _, _, _, _, rfl⟩ := Prisma.Route.create_succeeds executed
    simp [Write.mild, Write.starts, Write.finishes]
  · simp [(Prisma.RouteStop.createMany_succeeds.mp executed).2.2.2.2, Write.mild, Write.starts,
      Write.finishes]
  · simp [(Prisma.Delivery.update_succeeds.mp executed).2.2, Write.mild, Write.starts,
      Write.finishes]

/-- So is a pass of sequences. -/
theorem updateSequences_mild (sign : Int) (items : List StopSequenceItemDto) :
    Mild (updateSequences sign items) := by
  induction items with
  | nil => exact .pure ()
  | cons item items inductionHypothesis =>
      refine .bind (.statement fun input db row made executed => ?_) fun _ => inductionHypothesis
      simp [(Prisma.DeliveryStop.updateSequence_succeeds.mp executed).2.2, Write.mild, Write.starts,
        Write.finishes]

/-- So is the lock of the delivery. -/
theorem selectForUpdate_mild (id : Uuid) : Mild (liftM (Prisma.Delivery.selectForUpdate id)) :=
  .statement fun input db answer made executed => by
    simp [(Prisma.Delivery.selectForUpdate_succeeds.mp executed).2]

/-- So is the claim of a selection. -/
theorem claimSelection_mild (id : Uuid) (dto : SelectRouteDto) (actor : RouteActor) :
    Mild (claimSelection id dto actor) :=
  (selectForUpdate_mild id).bind fun _ => (Idempotency.claim_only fun _ => rfl).bind fun _ =>
    (recordRoute_mild _ _ _ _ _ _).bind fun _ => (Idempotency.settle_only fun _ _ =>
      rfl).bind fun _ =>
      .pure _

/-- So is that of a reorder. -/
theorem claimReorder_mild (id : IdText) (dto : ManualReorderDto) (actor : RouteActor) :
    Mild (claimReorder id dto actor) :=
  (selectForUpdate_mild id).bind fun _ => (Idempotency.claim_only fun _ => rfl).bind fun _ =>
    (updateSequences_mild _ _).bind fun _ => (updateSequences_mild _ _).bind fun _ =>
      (recordRoute_mild _ _ _ _ _ _).bind fun _ =>
        (Idempotency.settle_only fun _ _ => rfl).bind fun _ => .pure _

/-- A mutation of the route is mindful. -/
theorem mutateRoute_minds (id : IdText) (actor : RouteActor) (key : Option IdempotencyKey)
    (stopIds : List Uuid) (sequences : Option (List Int)) {work : Txn store ResponseBody}
    (mild : Mild work) : Minds deliveryId (mutateRoute id actor key stopIds sequences work) := by
  refine (verifyDeliveryAccess_minds id actor).bind fun found => (Proc.Dutiful.rejectIf _ _).bind
    fun _ => .bind (Minds.rateLimited.bind fun _ => .rejectIf _ _) fun _ =>
      (Idempotency.stored_minds key).bind fun existing => ?_
  cases existing with
  | some body => exact .pure _
  | none =>
      refine .bind ?_ fun _ => .bind ((Proc.Dutiful.rejectIf _ _).bind fun _ =>
        .rejectIf _ _) fun _ =>
        (transactOnce_minds mild).bind fun reply => ?_
      · rw [requireKnownStops]
        split
        · exact .throw _
        · exact .pure ()
      · cases reply with
        | replayed body => exact .pure _
        | fresh body =>
            refine .bind ?_ fun _ => .pure _
            cases body with
            | route id deliveryId version source selectedAt => exact Minds.emit
            | reorder id deliveryId version source selectedAt => exact Minds.emit
            | _ => exact .pure ()

end RoutesDomainService

namespace MessagesService

/-- The record of a message is mindful. -/
theorem saveRecord_minds (key : Option IdempotencyKey) (message : Message) :
    Minds deliveryId (saveRecord key message) := by
  cases key with
  | none => exact .pure ()
  | some key =>
      refine .tryCatch (Minds.call fun input db answer made executed => ?_) fun _ => .pure ()
      simp [(Prisma.IdempotencyRecord.create_succeeds.mp executed).2.2, Write.mild, Write.starts,
        Write.finishes]

/-- So is a send. -/
theorem sendMessage_minds (id : Uuid) (dto : SendMessageDto) (actor : UserActor)
    (channel : MessageChannel) : Minds deliveryId (sendMessage id dto actor channel) := by
  refine .bind (.bind Minds.read fun found => (Proc.Dutiful.require found _).bind fun _ =>
      (Proc.Dutiful.rejectIf _ _).bind fun _ => .pure _) fun _ =>
    (Proc.Dutiful.require _ _).bind fun deviceId => .bind Minds.read fun sender =>
      (Proc.Dutiful.rejectIf _ _).bind fun _ => .bind Minds.read fun recipient =>
        (Proc.Dutiful.rejectIf _ _).bind fun _ => .bind (Minds.rateLimited.bind fun _ =>
          .rejectIf _ _)
          fun _ => (Idempotency.stored_minds _).bind fun existing => ?_
  cases existing with
  | some body => exact .pure _
  | none =>
      refine .bind (Minds.call fun input db row made executed => ?_) fun message =>
        (saveRecord_minds _ message).bind fun _ => .pure _
      obtain ⟨_, _, _, rfl⟩ := Prisma.Message.create_succeeds executed
      simp [Write.mild, Write.starts, Write.finishes]

end MessagesService

/-! ## Submissions -/

section Submissions

variable [UuidText]

namespace PodService

open DeliveryStopsService

/-- Besides the stop, only rows that the watch is not about are written. -/
theorem claimPod_only (stopId owner : Uuid) (dto : SubmitPodDto) (actor : DeliveryActor) :
    (claimPod stopId owner dto actor).Only fun (write : Write) => write.spares stopId = true := by
  refine (Idempotency.claim_only fun row => rfl).bind fun _ => .bind (.statement ?_) fun claimed =>
    (Txn.Only.rejectIf _ _).bind fun _ => .bind (.statement ?_) fun pod =>
      .bind (.statement ?_) fun _ =>
      (Idempotency.settle_only fun key data => rfl).bind fun _ => .pure _
  · intro input db count writes executed write member
    obtain ⟨_, ⟨_, rfl, rfl⟩ | ⟨_, rfl, rfl⟩⟩ := Prisma.DeliveryStop.updateMany_succeeds.mp executed
    · simp [List.mem_singleton.mp member, Write.spares, Write.starts]
    · cases member
  · intro input db row writes executed write member
    obtain ⟨_, _, _, _, _, _, _, _, _, _, _, _, _, rfl⟩ :=
      Prisma.ProofOfDelivery.create_succeeds.mp executed
    exact List.mem_singleton.mp member ▸ rfl
  · intro input db answer writes executed write member
    obtain ⟨_, rfl⟩ := Prisma.DeliveryEvent.create_succeeds.mp executed
    exact List.mem_singleton.mp member ▸ rfl

/-- The delivery of a stop is in charge of whoever submits its proof. -/
theorem claimPod_leaves {stopId owner : Uuid} {dto : SubmitPodDto} {actor : DeliveryActor}
    {charge : Charge store} (free : ¬charge.owing) (isStop : charge.since.IsStop stopId owner) :
    (claimPod stopId owner dto actor).Minds (stranding deliveryId)
      (fun result last => last.owing → owner = deliveryId ∧ ∃ value, result = .ok value)
      [] charge := by
  refine Txn.Minds.of_holds (fun db => claimPod_only stopId owner dto actor [] [] db (by simp))
    (fun _ _ _ owes next => absurd (owes next) free)
      fun value made db owing only within owes _ next => ?_
  refine ⟨(isStop.extends within).unique (Db.isStop_of_stranded only next.1 fun stranded => ?_), value,
    rfl⟩
  exact free (owes (next.2.resolve_right fun good => good stranded))

/-- A replay leaves nothing to do. -/
theorem transactOnce_leaves {stopId owner : Uuid} {dto : SubmitPodDto} {actor : DeliveryActor}
    {charge : Charge store} (free : ¬charge.owing) (isStop : charge.since.IsStop stopId owner) :
    (Idempotency.transactOnce (recordKey actor dto.idempotencyKey) isUniqueConstraintError
      (claimPod stopId owner dto actor)).Meets (.charged (stranding deliveryId))
      (fun result last => last.owing → owner = deliveryId ∧ ∃ body, result = .ok (.fresh body))
      charge := by
  have claim : (Proc.transact (claimPod stopId owner dto actor)).Meets (.charged (stranding deliveryId))
      (fun result last => last.owing → owner = deliveryId ∧
        ∃ value, result = .ok value) charge := by
    rw [Proc.meets_transact]
    exact fun db within =>
      claimPod_leaves (fun next => free (Watch.owing_of_idle next)) (isStop.extends within)
  refine Proc.Meets.tryCatch (Q := fun result last =>
    last.owing → owner = deliveryId ∧ ∃ body, result = .ok (.fresh body)) ?_ (fun _ _ leaves => leaves)
    fun error last leaves => ?_
  · refine claim.bind (fun error last leaves owing => ?_) fun body last leaves owing => ?_
    · obtain ⟨_, _, impossible⟩ := leaves owing
      cases impossible
    · exact ⟨(leaves owing).1, body, rfl⟩
  · have free : ¬last.owing := fun owing => by
      obtain ⟨_, _, impossible⟩ := leaves owing
      cases impossible
    exact (Idempotency.recover_minds _ _ error last free).weaken fun _ _ free owing =>
      absurd owing free

/-- So is the submission of a proof, which looks at the delivery itself. -/
theorem submitPod_minds (stopId : Uuid) (dto : SubmitPodDto) (actor : DeliveryActor) :
    Minds deliveryId (submitPod stopId dto actor) := by
  intro charge free
  refine (getStopAndVerifyDriver_knows (verifiedDriver actor) free).bind (fun _ _ ⟨free, _⟩ => free)
    fun ⟨stop, delivery⟩ last ⟨free, isStop⟩ => ?_
  have known : Db.IsStop last.since stopId stop.deliveryId := isStop _ rfl
  have looked : (Idempotency.stored (recordKey actor dto.idempotencyKey)).Meets
      (.charged (stranding deliveryId))
      (fun _ last => ¬last.owing ∧ Db.IsStop last.since stopId stop.deliveryId) last :=
    (Idempotency.stored_minds _ last free).carry (fun before after (within : Db.Extends before after) =>
      Db.IsStop.extends within) known
  refine looked.bind (fun _ _ ⟨free, _⟩ => free) fun existing last ⟨free, known⟩ => ?_
  cases existing with
  | some body => exact free
  | none =>
      dsimp only
      split
      · exact Proc.Dutiful.bind Minds.read (fun pod => .pure _) last free
      · refine Proc.Meets.rejectIf (fun _ => free) fun _ =>
          Proc.Meets.rejectIf (fun _ => free) fun _ => ?_
        refine (transactOnce_leaves free known).bind (fun error last leaves owing => ?_)
          fun reply last leaves => ?_
        · obtain ⟨_, _, impossible⟩ := leaves owing
          cases impossible
        cases reply with
        | replayed body =>
            intro owing
            obtain ⟨_, _, impossible⟩ := leaves owing
            cases impossible
        | fresh body =>
            refine Minds.emitted.bind (fun error final ⟨⟨_, impossible⟩, _⟩ => by cases impossible)
              fun _ final ⟨_, still⟩ => ?_
            exact (DeliveriesService.completeDeliveryIfEligible_mends fun owing =>
              (leaves (still owing)).1).bind (fun _ _ free => free) fun _ _ free => free

end PodService

namespace DeliveryConflictsService

/-- The reading of an event's target is mindful. -/
theorem readTarget_minds (target : JsValue) : Minds deliveryId (readTarget target) := by
  rw [readTarget]
  split
  · split
    · exact .throw _
    · exact .bind Minds.read fun stop => .pure _
  · exact .pure none

omit [UuidText] in
/-- So is the opening of a ticket. -/
theorem openConflict_minds (id : Uuid) (item : OutboxEventItem) :
    Minds deliveryId (openConflict id item) := by
  refine .bind (Minds.call fun input db row writes executed => ?_) fun conflict => .pure _
  simp [(Prisma.DeliveryConflict.create_succeeds.mp executed).2.2.2.2, Write.mild, Write.starts,
    Write.finishes]

/-- So is the operation of an event. -/
theorem dispatch_minds (item : OutboxEventItem) (target : Option Uuid) (driverId userId : Uuid) :
    Minds deliveryId (dispatch item target driverId userId) := by
  cases target with
  | none => exact .pure ()
  | some stopId =>
      rw [dispatch]
      split_ifs
      · exact (DeliveryStopsService.departToStop_minds stopId driverId userId).bind fun _ =>
          .pure ()
      · exact (DeliveryStopsService.arriveAtStop_minds stopId driverId userId).bind fun _ =>
          .pure ()
      · exact (DeliveryStopsService.startUnloading_minds stopId driverId userId).bind fun _ =>
          .pure ()
      · exact (PodService.submitPod_minds stopId _ _).bind fun _ => .pure ()
      · exact .pure ()

/-- So is its turn. -/
theorem syncItem_minds (item : OutboxEventItem) (driverId userId : Uuid) :
    Minds deliveryId (syncItem item driverId userId) := by
  refine (readTarget_minds _).bind fun target => ?_
  split
  · split
    · exact .map some (openConflict_minds _ item)
    · exact (dispatch_minds item _ driverId userId).bind fun _ => .pure none
  · exact (dispatch_minds item _ driverId userId).bind fun _ => .pure none

/-- So are the turns of a batch. -/
theorem syncItems_minds (driverId userId : Uuid) (items : List OutboxEventItem)
    (result : SyncResult) :
    Minds deliveryId (syncItems driverId userId items result) := by
  induction items generalizing result with
  | nil => exact .pure result
  | cons item items inductionHypothesis =>
      refine .bind (.tryCatch ((syncItem_minds item driverId userId).bind fun ticket => ?_)
        fun error => .pure result) fun turn => inductionHypothesis turn
      cases ticket <;> exact .pure _

/-- What a resolution commits, whatever it has read. -/
inductive Resolves (made : List Write) : Prop where
  | aside (mild : ∀ write ∈ made, write.mild = true)
  | overridden {conflictId stopId : Uuid} {data : ResolutionData} {change : StopData}
      (ticket : .updateConflict conflictId data ∈ made)
      (delivers : .updateStop stopId change ∈ made)
      (spares : ∀ write ∈ made, write.spares stopId = true)
      (completes : ∀ id data, .updateDelivery id data ∈ made → data.status = some .completed)

/-- The writes of an override. -/
def Delivers (stopId : Uuid) (write : Write) : Prop :=
  write.spares stopId = true ∧ ∀ id data, write = .updateDelivery id data →
    data.status = some .completed

/-- The acceptance of evidence writes only what delivers the stop. -/
theorem acceptEvidence_only (payload : OutboxPayload) (stopId userId : Uuid) :
    (acceptEvidence payload stopId userId).Only (Delivers stopId) := by
  rw [acceptEvidence]
  split
  · refine .statement fun input db answer writes executed write member => ?_
    rcases Prisma.ProofOfDelivery.upsert_succeeds executed with ⟨_, _, _, _, rfl⟩ | ⟨_, _, _, _,
      _, _, rfl⟩
    all_goals
      rw [List.mem_singleton.mp member]
      exact ⟨rfl, fun _ _ impossible => by cases impossible⟩
  · exact .pure ()

omit [UuidText] in
/-- The delivery of the stop resolves its ticket. -/
theorem deliverStop_resolves {β : Type} {conflictId stopId id : Uuid} {data : ResolutionData}
    {next : Unit → Txn store β} {held : List Lock}
    (ticket : .updateConflict conflictId data ∈ writes)
    (delivers : ∀ write ∈ writes, Delivers stopId write)
    (rest : ∀ answer, (next answer).Only (Delivers stopId)) :
    (deliverStop id stopId >>= next).Holds (fun _ _ _ => True)
    (fun _ _ made _ => Resolves made) held
      writes db := by
  rw [deliverStop, Txn.holds_bind, Txn.holds_bind, Txn.holds_lift]
  intro current _ input row made executed
  obtain ⟨_, _, rfl⟩ := Prisma.DeliveryStop.update_succeeds.mp executed
  have all : ∀ write ∈ writes ++ [.updateStop stopId
      { status := some .delivered, completedAt := some input.now }], Delivers stopId write := by
    intro write member
    rcases List.mem_append.mp member with earlier | last
    · exact delivers write earlier
    · rw [List.mem_singleton.mp last]
      exact ⟨by simp [Write.spares, Write.starts], fun _ _ impossible => by cases impossible⟩
  have completion : ∀ stops, (if overrideCompletes stops then do
      let _ ← Prisma.Delivery.update id fun input =>
        { status := some .completed, completedAt := some input.now }
      else pure () : Txn store Unit).Only (Delivers stopId) := by
    intro stops
    split
    · refine .bind (.statement fun input db row made executed write member => ?_) fun _ => .pure _
      rw [(Prisma.Delivery.update_succeeds.mp executed).2.2] at member
      rw [List.mem_singleton.mp member]
      exact ⟨rfl, fun _ _ same => by cases same; rfl⟩
    · exact .pure ()
  have only : Txn.Only (Delivers stopId) ((liftM (Prisma.DeliveryStop.findMany id) >>= fun stops =>
      (if overrideCompletes stops then do
        let _ ← Prisma.Delivery.update id fun input =>
          { status := some .completed, completedAt := some input.now }
      else pure () : Txn store Unit)) >>= next) := by
    refine .bind (.bind (.statement fun input db stops made executed write member => ?_) completion) rest
    rw [(Prisma.DeliveryStop.findMany_succeeds.mp executed).2.2] at member
    cases member
  have holds := (only ([.stop stopId] ++ held) _ current all).grows
  rw [Txn.holds_bind] at holds
  refine holds.mono fun answer held made state rest => rest.mono fun _ _ made _ ⟨kinds, keeps⟩ => ?_
  refine .overridden (keeps.subset (List.mem_append_left _ ticket))
    (keeps.subset (List.mem_append_right _ (List.mem_singleton_self _))) (fun write member =>
      (kinds write member).1) fun id data member => (kinds _ member).2 id data rfl

/-- The branches of a resolution, with the ticket written and the log to write. -/
theorem branches_resolve {β : Type} {conflictId : Uuid} {data : ResolutionData}
    {next : Unit → Txn store β} {held : List Lock} (overrides : Prop) [Decidable overrides]
    (conflict : DeliveryConflict) (userId : Uuid)
    (rest : ∀ kind : Write → Prop, (∀ row, kind (.createAuditLog row)) →
      ∀ answer, (next answer).Only kind) :
    (if overrides then override conflict userId >>= next else next ()).Holds (fun _ _ _ => True)
      (fun _ _ made _ => Resolves made) held [.updateConflict conflictId data] db := by
  have aside : (next ()).Holds (fun _ _ _ => True) (fun _ _ made _ => Resolves made) held
      [.updateConflict conflictId data] db :=
    (rest (fun write => write.mild = true) (fun _ => rfl) () held _ db fun write member =>
      List.mem_singleton.mp member ▸ rfl).mono fun _ _ _ _ => .aside
  split
  · rw [override]
    split
    · split
      · rw [Txn.holds_bind]
        trivial
      · rename_i stopId _
        have first : ∀ write ∈ [Write.updateConflict conflictId data], Delivers stopId write := by
          intro write member
          exact List.mem_singleton.mp member ▸ ⟨rfl, fun _ _ impossible => by cases impossible⟩
        have evidence := ((acceptEvidence_only conflict.clientPayload.payload stopId userId) held _ db
          first).grows
        rw [Txn.holds_bind, Txn.holds_bind]
        refine evidence.mono fun _ held made current ⟨delivers, keeps⟩ => ?_
        have ticket : .updateConflict conflictId data ∈ made :=
          keeps.subset (List.mem_singleton_self _)
        rw [← Txn.holds_bind]
        exact deliverStop_resolves ticket delivers (rest (Delivers stopId) fun row =>
          ⟨rfl, fun _ _ impossible => by cases impossible⟩)
    · exact aside
  · exact aside

/-- A resolution writes its ticket, and delivers at most its stop. -/
theorem resolve_resolves (conflict : DeliveryConflict) (conflictId : IdText)
    (dto : ResolveConflictDto)
    (userId : Uuid) (db : Db) :
    (resolve conflict conflictId dto userId).Holds (fun _ _ _ => True)
      (fun _ _ made _ => Resolves made) [] [] db := by
  rw [resolve, Txn.holds_bind, Txn.holds_lift]
  intro next _ input row writes executed
  obtain ⟨_, _, rfl⟩ := Prisma.DeliveryConflict.update_succeeds.mp executed
  refine branches_resolve _ conflict userId fun kind audit answer => ?_
  refine .bind (.statement fun input db answer writes executed write member => ?_) fun _ =>
    .pure row
  rw [(Prisma.AuditLog.create_succeeds.mp executed).2] at member
  exact List.mem_singleton.mp member ▸ audit _

omit [UuidText] in
/-- An orderly resolution strands no delivery. -/
theorem Resolves.harmless (resolves : Resolves writes) :
    (stranding deliveryId).Harmless writes := by
  cases resolves with
  | aside mild => exact harmless_of_mild mild
  | @overridden conflictId stopId data change ticket delivers spares completes =>
      intro db orderly stranded
      by_contra good
      obtain ⟨stop, found, rfl⟩ := Db.isStop_of_stranded spares stranded good
      have starts : ∀ write ∈ writes, write.starts = false := fun write member => by
        have spared := spares write member
        simp only [Write.spares, Bool.and_eq_true, Bool.not_eq_true'] at spared
        exact spared.1
      -- the other stops are as the commit leaves them
      have others : ∀ other ∈ Db.stopsOf db stop.deliveryId, other.id = stopId ∨
        other.status.Terminal := by
        intro other member
        by_cases same : other.id = stopId
        · exact .inl same
        · obtain ⟨foundOther, own⟩ := Db.mem_stopsOf.mp member
          refine .inr (stranded.finished.all other (Db.mem_stopsOf.mpr ⟨?_, own⟩))
          exact (Db.stop?_of_spares spares same).trans foundOther
      obtain ⟨completion, completed⟩ := orderly.overridden conflictId data ticket stopId change stop
        delivers found (Db.running_of_commit starts stranded.running) others
      exact Db.not_running_of_completed starts completed (completes _ _ completed) stranded.running

/-- The resolution of a ticket is mindful. -/
theorem resolveConflict_minds (conflictId : IdText) (dto : ResolveConflictDto) (userId : Uuid)
    (role : Role) : Minds deliveryId (resolveConflict conflictId dto userId role) :=
  (Proc.Dutiful.rejectIf _ _).bind fun _ => .bind Minds.read fun found =>
    (Proc.Dutiful.require found _).bind fun conflict => (Proc.Dutiful.rejectIf _ _).bind fun _ =>
      .transaction fun db => (resolve_resolves conflict conflictId dto userId db).mono
        fun _ _ _ _ => Resolves.harmless

end DeliveryConflictsService

/-- No request leaves a delivery stranded, as far as the commits are orderly. -/
theorem Request.proc_minds (request : Request) : Minds deliveryId request.proc := by
  cases request with
  | createDelivery dto user => exact .map _ (DeliveriesService.createDelivery_minds dto user)
  | assignDelivery id dto actor => exact .map _ (DeliveriesService.assignDelivery_minds id dto actor)
  | acceptDelivery id driver user => exact .map _ (DeliveriesService.acceptDelivery_minds id driver user)
  | startDelivery id driver user => exact .map _ (DeliveriesService.startDelivery_minds id driver user)
  | completeDelivery id actor => exact .map _ (DeliveriesService.completeDelivery_minds id actor)
  | cancelDelivery id dto actor => exact .map _ (DeliveriesService.cancelDelivery_minds id dto actor)
  | departToStop id driver user => exact .map _ (DeliveryStopsService.departToStop_minds id driver user)
  | arriveAtStop id driver user => exact .map _ (DeliveryStopsService.arriveAtStop_minds id driver user)
  | startUnloading id driver user =>
      exact .map _ (DeliveryStopsService.startUnloading_minds id driver user)
  | failStop id dto driver user => exact .map _ (DeliveryStopsService.failStop_minds id dto driver user)
  | skipStop id dto actor => exact .map _ (DeliveryStopsService.skipStop_minds id dto actor)
  | submitPod id dto actor => exact .map _ (PodService.submitPod_minds id dto actor)
  | syncOutbox dto driver user =>
      exact .map _ (DeliveryConflictsService.syncItems_minds driver user dto.events {})
  | resolveConflict id dto user role =>
      exact .map _ (DeliveryConflictsService.resolveConflict_minds id dto user role)
  | selectRoute id dto actor =>
      exact .map _ (RoutesDomainService.mutateRoute_minds id actor _ _ _
        (RoutesDomainService.claimSelection_mild id dto actor))
  | reorderStops id dto actor =>
      exact .map _ (RoutesDomainService.mutateRoute_minds id actor _ _ _
        (RoutesDomainService.claimReorder_mild id dto actor))
  | sendMessage id dto actor channel =>
      exact .map _ (MessagesService.sendMessage_minds id dto actor channel)

/-- In every run without a fault whose commits are orderly, no delivery is EN_ROUTE with all its
stops finished when no request is in flight. -/
theorem no_delivery_stranded {db : Db} {requests : List Request} {trace : List (Commit store)}
    {final : System store Response}
    (steps : (System.ofPool (Request.pool db requests)).Steps Unfailing trace final)
    (initially : ¬db.Stranded deliveryId)
    (orderly : ∀ commit ∈ trace, Orderly commit.writes commit.before)
    (quiescent : final.Quiescent) : ¬Db.Stranded final.state deliveryId := by
  have minds : ∀ process ∈ (Request.pool db requests).procs,
      process.Meets (.charged (stranding deliveryId)) (fun _ last => ¬last.owing) ⟨db, False⟩ := by
    intro process member
    obtain ⟨request, _, rfl⟩ := List.mem_map.mp member
    exact request.proc_minds _ id
  have good : ¬(stranding deliveryId).bad db := initially
  exact steps.mended good minds orderly quiescent

end Submissions

/-! ## Two requests that finish the last two stops together -/

/-- A commit that starts no delivery and settles no conflict. -/
theorem Orderly.of_plain (plain : ∀ write ∈ writes, write.starts = false ∧
    ∀ id data, write ≠ .updateConflict id data) : Orderly writes db where
  started id data member enRoute := by
    have starting := (plain _ member).1
    simp [Write.starts, enRoute] at starting
  overridden conflictId data member := absurd rfl ((plain _ member).2 conflictId data)

namespace LastTwoStops

def settles : Write → Bool
  | .updateConflict _ _ => true
  | _ => false

local instance : DecidableRel store.clash := inferInstanceAs (DecidableEq Lock)

def stop (id : Uuid) (status : StopStatus) : DeliveryStop where
  id := id
  deliveryId := 1
  sequence := id
  status := status

def start : Db where
  deliveries := Table.empty.insert
    { id := 1, deliveryCode := "D-1", driverId := some 3, status := .enRoute, createdBy := 9 }
  deliveryStops := ((Table.empty.insert (stop 6 .skipped)).insert (stop 7 .arrived)).insert
    (stop 8 .arrived)

def requests : List Request := [.failStop 7 {} 3 30, .failStop 8 {} 3 30]

def system : System store Response := .ofPool (@Request.pool noUuids start requests)

def schedule : List (Nat × Input) :=
  (List.replicate 16 [0, 1]).flatten.map fun thread => (thread, {})

/-- No input of the schedule carries a fault. -/
theorem given : ∀ turn ∈ schedule, Unfailing turn.2 := by
  intro turn member
  obtain ⟨thread, _, rfl⟩ := List.mem_map.mp member
  rfl

/-- The schedule is a run. -/
theorem steps : system.Steps Unfailing (system.play schedule).1 (system.play schedule).2 :=
  System.play_steps_of schedule given system

/-- No write of it starts a delivery or settles a ticket. -/
theorem plain : ∀ commit ∈ (system.play schedule).1, ∀ write ∈ commit.writes,
    write.starts = false ∧ settles write = false := by
  decide +kernel

/-- Neither leaves the delivery stranded; it has failed. -/
theorem no_delivery_stranded_together :
    (system.play schedule).2.Quiescent ∧ ¬Db.Stranded (system.play schedule).2.state 1 ∧
      ((system.play schedule).2.state.delivery? 1).map Delivery.status = some .failed := by
  have initially : ¬start.Stranded 1 := by
    rintro ⟨_, _, all⟩
    exact absurd (all (stop 7 .arrived) (by decide)) (by decide)
  have orderly : ∀ commit ∈ (system.play schedule).1, Orderly commit.writes commit.before := by
    intro commit member
    refine .of_plain fun write made => ⟨(plain commit member write made).1, ?_⟩
    rintro id data rfl
    cases (plain commit member _ made).2
  have quiescent : (system.play schedule).2.Quiescent := by
    decide +kernel
  exact ⟨quiescent, @no_delivery_stranded 1 noUuids _ _ _ _ steps initially orderly quiescent,
    by decide +kernel⟩

end LastTwoStops

end Armada
