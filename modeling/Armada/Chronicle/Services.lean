import Armada.Chronicle
import Armada.Effects.Services

/-!
# Every service operation keeps to its chronicles

One theorem for each operation of the services, along its statements, on a day on which
no call fails.
-/

namespace Armada

open Relational Concurrency

/-! ## Calls -/

namespace Ledger

open Concurrency.Ledger

variable {α β : Type} {db : Db} {written : List Write}
  {post : Except Exception α → List Write → Prop}

/-- A reading fails, without having done anything, or continues with what it has read. -/
theorem reads {body : Db → Except PrismaError β} {next : β → Proc store α}
    (failed : ∀ error, body (db.commit written) = .error error → post (.error (.prisma error)) written)
    (read : ∀ value, body (db.commit written) = .ok value →
      (next value).Meets (.ledger Unfailing db) post written) :
    (liftM (select body) >>= next : Proc store α).Meets (.ledger Unfailing db) post written := by
  rw [Proc.meets_bind]
  refine statement (fun input error given unread => ?_) fun input value writes given succeeded => ?_
  · obtain ⟨reason, rfl, reading⟩ := query_fails unread
    have same := reading given
    cases found : body (db.commit written) with
    | ok value => simp [found, Except.map] at same
    | error other =>
        simp only [Db.applyAll_store, found, Except.map, Except.error.injEq] at same
        exact failed reason (same ▸ found)
  · obtain ⟨_, found, rfl⟩ := select_succeeds.mp succeeded
    rw [List.append_nil]
    exact read value found

/-- A call that cannot fail by itself continues with what it has written. -/
theorem calls {locks : Input → Db → List Lock}
    {body : Input → Db → Except PrismaError (β × List Write)} {next : β → Proc store α}
    (fine : ∀ input, ∃ outcome, body input (db.commit written) = .ok outcome)
    (made : ∀ input value writes, (query locks body).Succeeds input (db.commit written) value writes →
      (next value).Meets (.ledger Unfailing db) post (written ++ writes)) :
    (liftM (query locks body) >>= next : Proc store α).Meets (.ledger Unfailing db) post written := by
  rw [Proc.meets_bind]
  refine statement (fun input error given failed => ?_) fun input value writes _ succeeded => ?_
  · obtain ⟨reason, _, reading⟩ := query_fails failed
    obtain ⟨outcome, answered⟩ := fine input
    cases (reading given).symm.trans answered
  · exact made input value writes succeeded

/-- After an audit row the rest goes on. -/
theorem audits {row : AuditLog} {next : Unit → Proc store α}
    (rest : (next ()).Meets (.ledger Unfailing db) post (written ++ [.createAuditLog row])) :
    (liftM (Prisma.AuditLog.create row) >>= next : Proc store α).Meets (.ledger Unfailing db) post
      written := by
  refine calls (fun input => ⟨_, rfl⟩) fun input value writes succeeded => ?_
  rw [(Prisma.AuditLog.create_succeeds.mp succeeded).2]
  exact rest

/-- After an event the rest goes on. -/
theorem records {deliveryId : Uuid} {stopId : Option Uuid} {eventType : String}
    {actorUserId : Uuid} {metadataJson : EventMetadata} {next : Unit → Proc store α}
    (rest : ∀ row, (next ()).Meets (.ledger Unfailing db) post (written ++ [.createEvent row])) :
    (liftM (Prisma.DeliveryEvent.create deliveryId stopId eventType actorUserId metadataJson) >>= next :
      Proc store α).Meets (.ledger Unfailing db) post written := by
  refine calls (fun input => ⟨_, rfl⟩) fun input value writes succeeded => ?_
  rw [(Prisma.DeliveryEvent.create_succeeds.mp succeeded).2]
  exact rest _

/-- After an emission the rest goes on. -/
theorem emits {rooms : List Room} {payload : RealtimePayload} {actor : RealtimeActor}
    {next : Unit → Proc store α}
    (rest : (next ()).Meets (.ledger Unfailing db) post (written ++ emissions rooms payload actor)) :
    (liftM (RealtimeGateway.emit rooms payload actor) >>= next : Proc store α).Meets
      (.ledger Unfailing db) post written := by
  rw [Proc.meets_bind]
  refine statement (fun input error _ failed => ?_) fun input value writes _ succeeded => ?_
  · cases failed
  · rw [RealtimeGateway.emit_succeeds.mp succeeded]
    exact rest

end Ledger

variable [UuidText]

omit [UuidText] in
/-- Events other than those of routes are told. -/
theorem loud_emissions {rooms : List Room} {payload : RealtimePayload} {actor : RealtimeActor}
    (tells : ∀ id route version source, payload ≠ .routeUpdated id route version source) :
    loud (emissions rooms payload actor) = emissions rooms payload actor := by
  refine loud_map (fun room => ?_) rooms
  cases payload with
  | routeUpdated id route version source => exact absurd rfl (tells id route version source)
  | _ => rfl

/-- A move of a delivery as it is written. -/
theorem Chronicle.moving {request : Request} {db : Db} {deliveryId : IdText} {row : Delivery}
    {data : DeliveryData} {status : DeliveryStatus} {log : AuditLog} {actor : RealtimeActor}
    (moves : request.Moves db deliveryId row) (found : db.delivery? deliveryId = some row)
    (sets : data.status = some status) (entity : log.Tells deliveryId)
    (replayed : log.replayed = some status) :
    Chronicle request db (loud ([.updateDelivery deliveryId data] ++ [.createAuditLog log] ++
      emissions [.delivery deliveryId, .fleetMonitoring]
        (.deliveryStatusChanged deliveryId status) actor)) := by
  have told := @Chronicle.moved _ request db deliveryId row data status log actor moves found sets
    entity replayed
  simpa [loud_cons, Write.quiet, sets, entity.1, loud_emissions] using told

omit [UuidText] in
/-- Emissions change no delivery. -/
theorem Db.deliveries_commit_emissions (db : Db) (rooms : List Room) (payload : RealtimePayload)
    (actor : RealtimeActor) :
    (db.commit (emissions rooms payload actor)).deliveries = db.deliveries := by
  refine Db.commit_idle Db.deliveries (fun write member db => ?_) db
  obtain ⟨room, _, rfl⟩ := List.mem_map.mp member
  rfl

omit [UuidText] in
/-- Nor a stop. -/
theorem Db.deliveryStops_commit_emissions (db : Db) (rooms : List Room)
    (payload : RealtimePayload) (actor : RealtimeActor) :
    (db.commit (emissions rooms payload actor)).deliveryStops = db.deliveryStops := by
  refine Db.commit_idle Db.deliveryStops (fun write member db => ?_) db
  obtain ⟨room, _, rfl⟩ := List.mem_map.mp member
  rfl

omit [UuidText] in
/-- All of a completion is told. -/
theorem AutoCompletion.loud_eq {deliveryId : Uuid} {db : Db} {writes : List Write}
    (completion : AutoCompletion deliveryId db writes) : loud writes = writes := by
  cases completion with
  | idle => rfl
  | completed => simp [loud_cons, Write.quiet, loud_emissions]

/-! ## DeliveriesService -/

namespace DeliveriesService

variable {db : Db}

omit [UuidText] in
/-- What `getDeliveryById` is followed by runs on the row that it has read. -/
theorem getDeliveryById_keeps {α : Type} {id : IdText} {actor : DeliveryActor}
    {next : Delivery → Proc store α} {post : Except Exception α → List Write → Prop}
    (refused : ∀ error, post (.error error) [])
    (read : ∀ row, db.delivery? id = some row → Shown actor row →
      (next row).Meets (.ledger Unfailing db) post []) :
    (getDeliveryById id actor >>= next).Meets (.ledger Unfailing db) post [] := by
  rw [Proc.meets_bind]
  refine Ledger.reads (fun error _ => refused _) fun found row => ?_
  refine .require (fun _ => refused _) fun delivery same => .rejectIf (fun _ => refused _) fun driver =>
    .rejectIf (fun _ => refused _) fun owner => ?_
  subst same
  exact read delivery (Except.ok.inj row) ⟨driver, owner⟩

/-- Creating a delivery writes a draft, its stops and one audit row. -/
theorem createDelivery_keeps (dto : CreateDeliveryDto) (creatorUserId : Uuid) :
    (Request.createDelivery dto creatorUserId).Keeps (createDelivery dto creatorUserId) db := by
  refine Ledger.reads (fun _ _ => .silent) fun existing _ => .rejectIf (fun _ => .silent) fun _ =>
    Concurrency.Ledger.transaction (fun _ _ _ _ => .silent) ?_
  simp only [Txn.yields_bind, Txn.yields_lift, Txn.yields_pure]
  intro input row writes succeeded items answer writesItems succeededItems
  obtain ⟨_, fresh, _, rowEq, rfl⟩ := Prisma.Delivery.create_succeeds.mp succeeded
  obtain ⟨_, rfl⟩ := Prisma.DeliveryItem.createMany_succeeds.mp succeededItems
  refine (createStops_yields db row.id dto.stops _).mono fun _ all => ?_
  rintro ⟨stops, rfl, pending⟩ audit done writesAudit succeededAudit
  obtain ⟨_, rfl⟩ := Prisma.AuditLog.create_succeeds.mp succeededAudit
  let log : AuditLog :=
    { actorUserId := creatorUserId, action := "DELIVERY_CREATED", entityType := "DELIVERY",
      entityId := row.id.text, result := "SUCCESS" }
  have told : Chronicle (.createDelivery dto creatorUserId) db
      (.createDelivery row :: stops.map .createStop ++ [.createAuditLog log]) :=
    .created (by rw [rowEq]; exact fresh) (by rw [rowEq]) pending ⟨rfl, rfl⟩ rfl
  have core : loud (stops.map .createStop) = stops.map .createStop := loud_map (fun _ => rfl) stops
  simpa [loud_cons, Write.quiet, core, log] using told

/-- An assignment updates the delivery, writes its audit row and emits its event, if it is let
through. -/
theorem assignDelivery_keeps (deliveryId : IdText) (dto : AssignDeliveryDto)
    (actor : DeliveryActor) :
    (Request.assignDelivery deliveryId dto actor).Keeps (assignDelivery deliveryId dto actor) db := by
  refine getDeliveryById_keeps (fun _ => .silent) fun row found shown => .rejectIf (fun _ => .silent)
    fun early => Ledger.reads (fun _ _ => .silent) fun driver driverRow => .rejectIf
    (fun _ => .silent) fun hasDriver => Ledger.reads (fun _ _ => .silent) fun vehicle vehicleRow =>
    .rejectIf (fun _ => .silent) fun hasVehicle => ?_
  have moves : Request.Moves db deliveryId row (.assignDelivery deliveryId dto actor) := by
    refine .assigns shown ?_ ?_ ?_
    · by_contra late
      exact early (not_or.mp late)
    · exact fun none => hasDriver ((Except.ok.inj driverRow).symm.trans none)
    · exact fun none => hasVehicle ((Except.ok.inj vehicleRow).symm.trans none)
  rw [Proc.meets_bind]
  refine Concurrency.Ledger.statement (fun _ _ _ _ => .silent) fun input updated writes _ succeeded => ?_
  obtain ⟨_, _, rfl⟩ := Prisma.Delivery.update_succeeds.mp succeeded
  exact Ledger.audits (Ledger.emits (.moving moves found rfl ⟨rfl, rfl⟩ rfl))

omit [UuidText] in
/-- What `requireOwn` is followed by runs on a delivery that is there. -/
theorem requireOwn_keeps {α : Type} {deliveryId : IdText} {actorDriverId : Uuid} {verb : String}
    {expected : DeliveryStatus} {next : Unit → Proc store α}
    {post : Except Exception α → List Write → Prop} (refused : ∀ error, post (.error error) [])
    (read : ∀ row, db.delivery? deliveryId = some row → row.driverId = some actorDriverId →
      row.status = expected → (next ()).Meets (.ledger Unfailing db) post []) :
    (requireOwn deliveryId actorDriverId verb expected >>= next).Meets (.ledger Unfailing db) post
      [] := by
  rw [Proc.meets_bind]
  refine Ledger.reads (fun _ _ => refused _) fun found row => ?_
  refine .require (fun _ => refused _) fun delivery same => .rejectIf (fun _ => refused _) fun own => ?_
  subst same
  rw [Proc.rejectIf]
  split
  · exact refused _
  · rename_i status
    exact read delivery (Except.ok.inj row) (not_not.mp own) (not_not.mp status)

/-- The common body of accepting and starting: one update, one audit row, one event. -/
theorem moveOwn_keeps {request : Request} {deliveryId : IdText} {actorDriverId actorUserId : Uuid}
    {status : DeliveryStatus} {data : Input → DeliveryData} {action : String} {row : Delivery}
    (moves : request.Moves db deliveryId row) (found : db.delivery? deliveryId = some row)
    (sets : ∀ input, (data input).status = some status)
    (tells : ∀ log : AuditLog, log.action = action → log.replayed = some status) :
    request.Keeps (moveOwn deliveryId actorDriverId actorUserId status data action) db := by
  rw [moveOwn, Request.Keeps, Proc.meets_bind]
  refine Concurrency.Ledger.statement (fun _ _ _ _ => .silent) fun input updated writes _ succeeded => ?_
  obtain ⟨_, _, rfl⟩ := Prisma.Delivery.update_succeeds.mp succeeded
  exact Ledger.audits (Ledger.emits (.moving moves found (sets input) ⟨rfl, rfl⟩ (tells _ rfl)))

/-- Accepting is such a move. -/
theorem acceptDelivery_keeps (deliveryId : IdText) (actorDriverId actorUserId : Uuid) :
    (Request.acceptDelivery deliveryId actorDriverId actorUserId).Keeps
      (acceptDelivery deliveryId actorDriverId actorUserId) db :=
  requireOwn_keeps (fun _ => .silent) fun _ found own status => moveOwn_keeps (.accepts own status)
    found (fun _ => rfl) fun log same => by rw [AuditLog.replayed, same]; rfl

/-- Starting is such a move. -/
theorem startDelivery_keeps (deliveryId : IdText) (actorDriverId actorUserId : Uuid) :
    (Request.startDelivery deliveryId actorDriverId actorUserId).Keeps
      (startDelivery deliveryId actorDriverId actorUserId) db :=
  requireOwn_keeps (fun _ => .silent) fun _ found own status => moveOwn_keeps (.starts own status)
    found (fun _ => rfl) fun log same => by rw [AuditLog.replayed, same]; rfl

/-- What is moved in a transaction: the row is then read again. -/
def Moves (db : Db) (deliveryId : IdText) (expected : DeliveryStatus → Prop)
    (status : DeliveryStatus) (updated : Option Delivery) (writes : List Write) : Prop :=
  ∃ row data log, db.delivery? deliveryId = some row ∧ expected row.status ∧
    data.status = some status ∧ log.Tells deliveryId ∧ log.replayed = some status ∧
      updated = some (data.set row) ∧
      writes = [.updateDelivery deliveryId data, .createAuditLog log]

omit [UuidText] in
/-- The transaction of a completion moves a delivery that is EN_ROUTE and has all its stops
finished. -/
theorem claimCompletion_moves (deliveryId : IdText) (actor : DeliveryActor) :
    (claimCompletion deliveryId actor).Yields
      (fun updated writes => (evaluateStops (db.stopsOf deliveryId)).completed = true ∧
        ∃ status, Moves db deliveryId (· = .enRoute) status updated writes) db [] := by
  simp only [claimCompletion, evaluateDeliveryCompletion, Txn.yields_bind, Txn.yields_lift,
    Txn.yields_pure, Txn.yields_rejectIf]
  intro _ stops _ succeededStops completed input count writes succeeded claimed _ updated _
    succeededRow _ _ _ succeededAudit
  obtain ⟨_, stopsEq, rfl⟩ := Prisma.DeliveryStop.findMany_succeeds.mp succeededStops
  obtain ⟨_, rowEq, rfl⟩ := Prisma.Delivery.findUnique_succeeds.mp succeededRow
  obtain ⟨_, rfl⟩ := Prisma.AuditLog.create_succeeds.mp succeededAudit
  obtain ⟨_, ⟨old, found, enRoute, rfl, rfl⟩ | ⟨_, rfl, _⟩⟩ :=
    Prisma.Delivery.updateMany_succeeds.mp succeeded
  · have foundBefore : db.delivery? deliveryId = some old := found
    refine ⟨?_, _, old, _, _, foundBefore, by simpa using enRoute, rfl, ⟨rfl, rfl⟩, ?_, ?_, rfl⟩
    · rw [← stopsEq] at completed
      simpa using completed
    · obtain ⟨_, _, verdict⟩ := evaluateStops_completed (by simpa using completed)
      rw [verdict]
      by_cases delivered : ∃ stop ∈ stops, stop.status = .delivered <;>
        simp [AuditLog.replayed, delivered]
    · rw [← rowEq]
      change ((Write.updateDelivery deliveryId _).apply db).delivery? deliveryId = _
      rw [Write.delivery?_apply, Write.onDelivery, if_pos rfl, foundBefore, Option.map_some]
  · exact absurd (by decide) claimed

omit [UuidText] in
/-- The transaction of a cancellation moves a delivery that has not ended. -/
theorem claimCancellation_moves (deliveryId : IdText) (dto : CancelDeliveryDto)
    (actor : DeliveryActor) :
    (claimCancellation deliveryId dto actor).Yields
      (fun updated writes => Moves db deliveryId (· ∉ terminalDeliveryStatuses) .cancelled updated
        writes) db [] := by
  simp only [claimCancellation, Txn.yields_bind, Txn.yields_lift, Txn.yields_pure,
    Txn.yields_rejectIf]
  intro input count writes succeeded claimed _ updated _ succeededRow _ _ _ succeededAudit
  obtain ⟨_, rowEq, rfl⟩ := Prisma.Delivery.findUnique_succeeds.mp succeededRow
  obtain ⟨_, rfl⟩ := Prisma.AuditLog.create_succeeds.mp succeededAudit
  obtain ⟨_, ⟨old, found, running, rfl, rfl⟩ | ⟨_, rfl, _⟩⟩ :=
    Prisma.Delivery.updateMany_succeeds.mp succeeded
  · have foundBefore : db.delivery? deliveryId = some old := found
    refine ⟨old, _, _, foundBefore, by simpa using running, rfl, ⟨rfl, rfl⟩, rfl, ?_, rfl⟩
    rw [← rowEq]
    change ((Write.updateDelivery deliveryId _).apply db).delivery? deliveryId = _
    rw [Write.delivery?_apply, Write.onDelivery, if_pos rfl, foundBefore, Option.map_some]
  · exact absurd (by decide) claimed

/-- Completing is that transaction and its event. -/
theorem completeDelivery_keeps (deliveryId : IdText) (actor : DeliveryActor) :
    (Request.completeDelivery deliveryId actor).Keeps (completeDelivery deliveryId actor) db := by
  refine getDeliveryById_keeps (fun _ => .silent) fun read present shown => ?_
  split
  · exact .silent
  · refine .rejectIf (fun _ => .silent) fun _ => ?_
    rw [Proc.meets_bind]
    refine Concurrency.Ledger.transaction (fun _ _ _ _ => .silent)
      ((claimCompletion_moves deliveryId actor).mono fun updated writes moves => ?_)
    obtain ⟨finished, status, row, data, log, found, enRoute, sets, entity, replayed, rfl, rfl⟩ :=
      moves
    obtain rfl : read = row := Option.some.inj (present.symm.trans found)
    refine .require (fun impossible => by cases impossible) fun updated same => ?_
    cases same
    have same : (data.set read).status = status := by simp [DeliveryData.set, sets]
    exact Ledger.emits
      (same ▸ .moving (.completes shown enRoute finished) found sets entity replayed)

/-- Cancelling is that transaction and its event. -/
theorem cancelDelivery_keeps (deliveryId : IdText) (dto : CancelDeliveryDto)
    (actor : DeliveryActor) :
    (Request.cancelDelivery deliveryId dto actor).Keeps (cancelDelivery deliveryId dto actor) db := by
  refine getDeliveryById_keeps (fun _ => .silent) fun read present shown => ?_
  rw [Proc.meets_bind]
  refine Concurrency.Ledger.transaction (fun _ _ _ _ => .silent)
    ((claimCancellation_moves deliveryId dto actor).mono fun updated writes moves => ?_)
  obtain ⟨row, data, log, found, running, sets, entity, replayed, rfl, rfl⟩ := moves
  obtain rfl : read = row := Option.some.inj (present.symm.trans found)
  exact Ledger.emits (.moving (.cancels shown running) found sets entity replayed)

omit [UuidText] in
/-- The row that a completion leaves has the status that the evaluation has named. -/
theorem claimIfEligible_settles (deliveryId : Uuid) :
    (claimIfEligible deliveryId).Yields (fun updated (writes : List Write) =>
      updated = none ∧ writes = [] ∨
      ∃ row target now later, db.delivery? deliveryId = some row ∧ row.status = .enRoute ∧
        evaluateStops (db.stopsOf deliveryId) =
          { completed := true, targetStatus := some target } ∧
        updated = some later ∧ later.status = target ∧ writes =
          [.updateDelivery deliveryId { status := some target, completedAt := some now }])
      db [] := by
  simp only [claimIfEligible, evaluateDeliveryCompletion, Txn.yields_bind, Txn.yields_lift,
    Txn.yields_pure]
  intro _ stops _ succeededStops
  obtain ⟨_, stopsEq, rfl⟩ := Prisma.DeliveryStop.findMany_succeeds.mp succeededStops
  split
  · exact .inl ⟨rfl, rfl⟩
  · rename_i target targetEq
    split
    · rename_i completed
      simp only [Txn.yields_bind, Txn.yields_lift]
      intro input count writes succeeded
      obtain ⟨_, ⟨old, found, enRoute, rfl, rfl⟩ | ⟨_, rfl, rfl⟩⟩ :=
        Prisma.Delivery.updateMany_succeeds.mp succeeded
      · rw [if_neg (by decide), Txn.yields_lift]
        intro _ updated _ succeededRow
        obtain ⟨_, rowEq, rfl⟩ := Prisma.Delivery.findUnique_succeeds.mp succeededRow
        obtain ⟨_, _, verdict⟩ := evaluateStops_completed completed
        have targets : _ = some target := (congrArg _ verdict).symm.trans targetEq
        have foundBefore : db.delivery? deliveryId = some old := found
        let data : DeliveryData := { status := some target, completedAt := some input.now }
        refine .inr ⟨old, target, input.now, data.set old, foundBefore, by simpa using enRoute,
          targets ▸ stopsEq ▸ verdict, ?_, rfl, rfl⟩
        rw [← rowEq]
        change ((Write.updateDelivery deliveryId data).apply db).delivery? deliveryId = _
        rw [Write.delivery?_apply, Write.onDelivery, if_pos rfl, foundBefore, Option.map_some]
      · exact .inl ⟨rfl, rfl⟩
    · exact .inl ⟨rfl, rfl⟩

omit [UuidText] in
/-- Whatever comes of it, `completeDeliveryIfEligible` returns. -/
theorem completeDeliveryIfEligible_keeps (deliveryId : Uuid) (actor : DeliveryActor) :
    (completeDeliveryIfEligible deliveryId actor).Meets (.ledger Unfailing db)
      (fun result writes => result = .ok () ∧ AutoCompletion deliveryId db writes) [] := by
  refine Proc.Meets.tryCatch (Q := fun _ writes => AutoCompletion deliveryId db writes) ?_
    (fun _ _ completion => ⟨rfl, completion⟩) fun _ _ completion => ⟨rfl, completion⟩
  rw [Proc.meets_bind]
  refine Concurrency.Ledger.transaction (fun _ _ _ _ => .idle)
    ((claimIfEligible_settles deliveryId).mono fun updated writes settles => ?_)
  obtain ⟨rfl, rfl⟩ | ⟨row, target, now, later, found, enRoute, verdict, rfl, rfl, rfl⟩ := settles
  · exact .idle
  · refine Concurrency.Ledger.statement (fun _ _ _ impossible => by cases impossible)
      fun _ _ writes _ succeeded => ?_
    rw [RealtimeGateway.emit_succeeds.mp succeeded]
    exact .completed found enRoute verdict

omit [UuidText] in
/-- Whatever follows the evaluation of the delivery follows what the evaluation writes. -/
theorem completion_follows {α : Type} {deliveryId : Uuid} {actor : DeliveryActor}
    {next : Unit → Proc store α} {post : Except Exception α → List Write → Prop}
    {written : List Write}
    (rest : ∀ completion, AutoCompletion deliveryId (db.commit written) completion →
      (next ()).Meets (.ledger Unfailing db) post (written ++ completion)) :
    (completeDeliveryIfEligible deliveryId actor >>= next).Meets (.ledger Unfailing db) post
      written := by
  rw [Proc.meets_bind]
  refine Concurrency.Ledger.onwards
    ((completeDeliveryIfEligible_keeps deliveryId actor).weaken fun result completion done => ?_)
  obtain ⟨rfl, completes⟩ := done
  exact rest completion completes

end DeliveriesService

/-! ## DeliveryStopsService -/

namespace DeliveryStopsService

open DeliveriesService (completeDeliveryIfEligible completion_follows)

variable {db : Db} {stopId : Uuid}

omit [UuidText] in
/-- What `getStopAndVerifyDriver` is followed by runs on the rows that it has read. -/
theorem getStopAndVerifyDriver_keeps {α : Type} {driver : Option Uuid}
    {next : DeliveryStop × Delivery → Proc store α} {post : Except Exception α → List Write → Prop}
    (refused : ∀ error, post (.error error) [])
    (read : ∀ stop delivery, Reaches db stopId driver stop delivery →
      (next (stop, delivery)).Meets (.ledger Unfailing db) post []) :
    (getStopAndVerifyDriver stopId driver >>= next).Meets (.ledger Unfailing db) post [] := by
  rw [Proc.meets_bind]
  refine Ledger.reads (fun error _ => refused _) fun found row => ?_
  refine .require (fun _ => refused _) fun rows same => .rejectIf (fun _ => refused _) fun owned => ?_
  subst same
  dsimp only [Db.commit_nil] at row
  split at row
  · cases row
  · rename_i stop foundStop
    split at row
    · cases row
    · rename_i delivery parent
      cases row
      exact read stop delivery ⟨foundStop, parent, by tauto⟩

omit [UuidText] in
/-- The conditional update is refused, or it is all that is done. -/
theorem updateStopIfOperational_keeps {α : Type} {expected : List StopStatus}
    {data : Input → StopData} {next : Option (DeliveryStop × Delivery) → Proc store α}
    {post : Except Exception α → List Write → Prop} (refused : ∀ error, post (.error error) [])
    (moved : ∀ input found, (next found).Meets (.ledger Unfailing db) post
      [.updateStop stopId (data input)]) :
    (updateStopIfOperational stopId expected data >>= next).Meets (.ledger Unfailing db) post [] := by
  rw [Proc.meets_bind, updateStopIfOperational, Proc.meets_bind]
  refine Concurrency.Ledger.statement (fun _ _ _ _ => refused _) fun input count writes _ succeeded => ?_
  obtain ⟨_, ⟨matched, rfl, rfl⟩ | ⟨_, rfl, rfl⟩⟩ :=
    Prisma.DeliveryStop.updateMany_succeeds.mp succeeded
  · change Proc.Meets _ _ (ite _ _ _) _
    rw [if_neg (by decide)]
    refine Concurrency.Ledger.statement (fun readInput error given failed => ?_)
      fun readInput found writes _ read => ?_
    · obtain ⟨reason, _, reading⟩ := query_fails failed
      have unread := reading given
      have matchedBefore : Prisma.DeliveryStop.matched db stopId expected
        terminalDeliveryStatuses = true := matched
      obtain ⟨stop, parent, foundNow, parentNow⟩ := readable_of_matched (data input) matchedBefore
      simp [foundNow, parentNow, Except.map] at unread
    · obtain ⟨_, rfl, _⟩ := Prisma.DeliveryStop.findUnique_succeeds.mp read
      exact moved input found
  · change Proc.Meets _ _ (ite _ _ _) _
    rw [if_pos (by decide)]
    refine Ledger.reads (fun _ _ => refused _) fun current _ => ?_
    cases current with
    | none => exact refused _
    | some rows => exact .rejectIf (fun _ => refused _) fun _ => refused _

/-- The tail of the three steps of a driver. -/
theorem step_keeps {request : Request} {expected : List StopStatus} {data : Input → StopData}
    {stop : DeliveryStop} {delivery : Delivery} {driver : Option Uuid} {status : StopStatus}
    {actor : RealtimeActor} (own : Reaches db stopId driver stop delivery)
    (sets : ∀ input, (data input).status = some status) :
    request.Keeps (do
      let updated ← updateStopIfOperational stopId expected data
      RealtimeGateway.emit [.delivery stop.deliveryId.text]
        (.stopStatusChanged stop.deliveryId stopId status) actor
      return updated) db := by
  refine updateStopIfOperational_keeps (fun _ => .silent) fun input found => ?_
  refine Ledger.emits ?_
  obtain rfl : stop.id = stopId := Db.id_of_stop? own.1
  have told : Chronicle request db (.updateStop stop.id (data input) :: emissions
      [.delivery stop.deliveryId.text] (.stopStatusChanged stop.deliveryId stop.id status) actor) :=
    .stepped own.1 (sets input) (.changed status)
  simpa [loud_cons, Write.quiet, sets input, loud_emissions] using told

/-- A departure moves one stop and emits its event. -/
theorem departToStop_keeps (request : Request) (stopId actorDriverId actorUserId : Uuid) :
    request.Keeps (departToStop stopId actorDriverId actorUserId) db :=
  getStopAndVerifyDriver_keeps (fun _ => .silent) fun _ _ own => .rejectIf (fun _ => .silent)
    fun _ => .rejectIf (fun _ => .silent) fun _ => step_keeps own fun _ => rfl

/-- So does an arrival. -/
theorem arriveAtStop_keeps (request : Request) (stopId actorDriverId actorUserId : Uuid) :
    request.Keeps (arriveAtStop stopId actorDriverId actorUserId) db :=
  getStopAndVerifyDriver_keeps (fun _ => .silent) fun _ _ own => .rejectIf (fun _ => .silent)
    fun _ => .rejectIf (fun _ => .silent) fun _ => step_keeps own fun _ => rfl

/-- So does the start of an unloading. -/
theorem startUnloading_keeps (request : Request) (stopId actorDriverId actorUserId : Uuid) :
    request.Keeps (startUnloading stopId actorDriverId actorUserId) db :=
  getStopAndVerifyDriver_keeps (fun _ => .silent) fun _ _ own => .rejectIf (fun _ => .silent)
    fun _ => .rejectIf (fun _ => .silent) fun _ => step_keeps own fun _ => rfl

/-- The end of a stop that is failed or skipped. -/
theorem end_keeps {request : Request} {expected : List StopStatus} {data : Input → StopData}
    {stop : DeliveryStop} {delivery : Delivery} {driver : Option Uuid} {status : StopStatus}
    {actor : DeliveryActor} {eventType : String} {actorUserId : Uuid} {metadata : EventMetadata}
    (own : Reaches db stopId driver stop delivery) (ends : request.Ends db stop delivery)
    (sets : ∀ input, (data input).status = some status) :
    request.Keeps (do
      let updated ← updateStopIfOperational stopId expected data
      Prisma.DeliveryEvent.create stop.deliveryId (some stop.id) eventType actorUserId metadata
      broadcastStopStatusChanged stop.deliveryId stopId status actor
      completeDeliveryIfEligible stop.deliveryId actor
      return updated) db := by
  refine updateStopIfOperational_keeps (fun _ => .silent) fun input found => ?_
  refine Ledger.records fun row => Ledger.emits ?_
  obtain rfl : stop.id = stopId := Db.id_of_stop? own.1
  refine completion_follows fun completion completes => ?_
  have told : Chronicle request db (.updateStop stop.id (data input) :: emissions
      [.delivery stop.deliveryId.text] (.stopStatusChanged stop.deliveryId stop.id status) actor.realtime ++
        completion) :=
    .finished ends own.1 (sets input) (.changed status) (completes.congr rfl rfl)
  simpa [loud_cons, Write.quiet, sets input, loud_emissions, completes.loud_eq] using told

/-- Failing a stop moves it, and may complete the delivery. -/
theorem failStop_keeps (stopId : Uuid) (dto : StopReasonDto) (actorDriverId actorUserId : Uuid) :
    (Request.failStop stopId dto actorDriverId actorUserId).Keeps
      (failStop stopId dto actorDriverId actorUserId) db := by
  refine getStopAndVerifyDriver_keeps (fun _ => .silent) fun stop delivery own =>
    .rejectIf (fun _ => .silent) fun operational => .rejectIf (fun _ => .silent) fun fit => ?_
  have ends : (Request.failStop stopId dto actorDriverId actorUserId).Ends db stop delivery :=
    ⟨own, operational, fit⟩
  exact end_keeps own ends fun _ => rfl

/-- Skipping a stop moves it, and may complete the delivery. -/
theorem skipStop_keeps (stopId : Uuid) (dto : StopReasonDto) (actor : DeliveryActor) :
    (Request.skipStop stopId dto actor).Keeps (skipStop stopId dto actor) db := by
  refine getStopAndVerifyDriver_keeps (fun _ => .silent) fun stop delivery own =>
    .rejectIf (fun _ => .silent) fun allowed => .rejectIf (fun _ => .silent) fun operational =>
    .rejectIf (fun _ => .silent) fun fit => ?_
  have ends : (Request.skipStop stopId dto actor).Ends db stop delivery :=
    ⟨own, allowed, operational, fit⟩
  exact end_keeps own ends fun _ => rfl

end DeliveryStopsService

/-! ## Idempotency keys -/

namespace Idempotency

variable {db : Db} {key : Option IdempotencyKey}

omit [UuidText] in
/-- What the lookup is followed by runs on what is stored. -/
theorem stored_keeps {α : Type} {next : Option ResponseBody → Proc store α}
    {post : Except Exception α → List Write → Prop} {written : List Write}
    (refused : ∀ error, post (.error error) written)
    (read : (next ((db.commit written).stored key)).Meets (.ledger Unfailing db) post written) :
    (stored key >>= next).Meets (.ledger Unfailing db) post written := by
  cases key with
  | none => exact read
  | some key =>
      rw [Proc.meets_bind]
      refine Ledger.reads (fun _ _ => refused _) fun record found => ?_
      cases Except.ok.inj found
      exact read

omit [UuidText] in
/-- The work is done, or nothing is. -/
theorem transactOnce_keeps {clash : Exception → Bool} {body : Txn store ResponseBody}
    {done : ResponseBody → List Write → Prop} (yields : body.Yields done db []) :
    (transactOnce key clash body).Meets (.ledger Unfailing db)
      (fun result writes => (∃ value, result = .ok (.fresh value) ∧ done value writes) ∨
        writes = [] ∧ ∀ value, result ≠ .ok (.fresh value)) [] := by
  refine Proc.Meets.tryCatch (Q := fun result writes => match result with
    | .ok reply => ∃ value, reply = .fresh value ∧ done value writes
    | .error _ => writes = []) ?_ ?_ ?_
  · change (Proc.transact body >>= fun value => pure (Reply.fresh value)).Meets _ _ _
    rw [Proc.meets_bind]
    exact Concurrency.Ledger.transaction (fun _ _ _ _ => rfl)
      (yields.mono fun value writes made => ⟨value, rfl, made⟩)
  · rintro reply writes ⟨value, rfl, made⟩
    exact .inl ⟨value, rfl, made⟩
  · rintro error writes rfl
    cases key with
    | none => exact .inr ⟨rfl, by rintro _ ⟨⟩⟩
    | some key =>
        rw [recover]
        split
        · refine Ledger.reads (fun _ _ => .inr ⟨rfl, by rintro _ ⟨⟩⟩) fun record _ => ?_
          cases record with
          | none => exact .inr ⟨rfl, by rintro _ ⟨⟩⟩
          | some record => exact .inr ⟨rfl, by rintro _ ⟨⟩⟩
        · exact .inr ⟨rfl, by rintro _ ⟨⟩⟩

end Idempotency

/-! ## PodService -/

namespace PodService

open DeliveriesService (completion_follows)
open DeliveryStopsService (getStopAndVerifyDriver_keeps)

variable {db : Db} {stopId : Uuid} {dto : SubmitPodDto} {actor : DeliveryActor}

/-- The one loud write of a submission, and all that it does to deliveries and stops. -/
theorem loud_of_commit {deliveryId : Uuid} {body : ResponseBody} {writes : List Write}
    (commit : PodCommit stopId deliveryId dto actor db body writes) : ∃ data : StopData,
      data.status = some .delivered ∧ loud writes = [.updateStop stopId data] ∧
      ((Write.updateStop stopId data).apply db).deliveries = (db.commit writes).deliveries ∧
      ((Write.updateStop stopId data).apply db).deliveryStops = (db.commit writes).deliveryStops := by
  cases commit with
  | @intro claimed row now event claim absent ofStop author evidence filed eventOf =>
      have claimQuiet : loud claimed = [] := by
        generalize recordKey actor dto.idempotencyKey = key at claim
        cases claim <;> rfl
      refine ⟨{ status := some .delivered, completedAt := some now }, rfl, ?_, ?_⟩
      · rw [loud_append, loud_append, claimQuiet, settled, loud_map_quiet fun _ => rfl]
        rfl
      · have agree := db.commit_essential (claimed ++ [.updateStop stopId
          { status := some .delivered, completedAt := some now }, .createPod row, .createEvent event] ++
            settled (recordKey actor dto.idempotencyKey) 201 (.pod row.id stopId row.completedAt))
        rw [essential_append, essential_append, claim.essential_eq, essential_settled,
          List.append_nil] at agree
        exact ⟨agree.deliveries, agree.deliveryStops⟩

/-- A submission writes a proof, moves its stop and may complete the delivery. -/
theorem submitOnce_keeps {stop : DeliveryStop} {delivery : Delivery}
    (own : Reaches db stopId (DeliveryStopsService.verifiedDriver actor) stop delivery) :
    (Request.submitPod stopId dto actor).Keeps (submitOnce stop delivery stopId dto actor) db := by
  refine .rejectIf (fun _ => .silent) fun operational => .rejectIf (fun _ => .silent) fun waiting => ?_
  rw [Proc.meets_bind]
  refine (Idempotency.transactOnce_keeps (claimPod_commits db)).weaken fun result writes done => ?_
  obtain ⟨body, rfl, commit⟩ | ⟨rfl, stale⟩ := done
  · refine Ledger.emits (completion_follows fun completion completes => ?_)
    obtain ⟨data, sets, same, deliveries, deliveryStops⟩ := loud_of_commit commit
    obtain rfl : stop.id = stopId := Db.id_of_stop? own.1
    have ends : (Request.submitPod stop.id dto actor).Ends db stop delivery :=
      ⟨own, ⟨operational, waiting⟩, commit.submittable⟩
    rw [Db.commit_append] at completes
    have after := completes.congr (deliveries.trans (Db.deliveries_commit_emissions _ _ _ _).symm)
      (deliveryStops.trans (Db.deliveryStops_commit_emissions _ _ _ _).symm)
    have told : ∀ podId realtime, Chronicle (.submitPod stop.id dto actor) db
        (.updateStop stop.id data :: emissions [.delivery stop.deliveryId.text]
          (.podCreated stop.deliveryId stop.id podId) realtime ++ completion) :=
      fun podId _ => .finished ends own.1 sets (.proven podId) after
    simpa [same, loud_emissions, completes.loud_eq] using told _ _
  · cases result with
    | error error => exact .silent
    | ok reply =>
        cases reply with
        | replayed body => exact .silent
        | fresh body => exact absurd rfl (stale body)

/-- The same with the check that comes first. -/
theorem submitPod_keeps (stopId : Uuid) (dto : SubmitPodDto) (actor : DeliveryActor) :
    (Request.submitPod stopId dto actor).Keeps (submitPod stopId dto actor) db := by
  refine getStopAndVerifyDriver_keeps (fun _ => .silent) fun stop delivery own => ?_
  refine Idempotency.stored_keeps (fun _ => .silent) ?_
  cases (db.commit []).stored (recordKey actor dto.idempotencyKey) with
  | some body => exact .silent
  | none =>
      change Proc.Meets _ _ (if stop.status = .delivered then _ else _) _
      split
      · exact Ledger.reads (fun _ _ => .silent) fun _ _ => .silent
      · exact submitOnce_keeps own

end PodService

/-! ## DeliveryConflictsService -/

namespace DeliveryConflictsService

variable {db : Db}

/-- An override that commits has found its evidence acceptable. -/
theorem resolve_accepts (conflict : DeliveryConflict) (conflictId : IdText)
    (dto : ResolveConflictDto) (actorUserId : Uuid) :
    (resolve conflict conflictId dto actorUserId).Yields (fun _ _ =>
      dto.status = .resolvedOverridden → conflict.clientPayload.payload.target.truthy = true →
        conflict.clientPayload.payload.Acceptable db) db [] := by
  simp only [resolve, Txn.yields_bind, Txn.yields_lift]
  intro input row writes succeeded
  obtain ⟨_, _, rfl⟩ := Prisma.DeliveryConflict.update_succeeds.mp succeeded
  split
  · rw [override]
    split
    · split
      · exact Txn.yields_fail _ _
      · rw [Txn.yields_bind, acceptEvidence]
        split
        · intro podInput answer made accepted
          obtain ⟨receiver, photo, fits⟩ := Prisma.ProofOfDelivery.upsert_accepts accepted
          exact .of_forall fun _ _ => .of_forall fun _ _ _ _ _ => ⟨receiver, photo, fits⟩
        · rename_i unnamed
          exact .of_forall fun _ _ => .of_forall fun _ _ _ _ named => absurd named unnamed
    · rename_i unnamed
      exact .of_forall fun _ _ _ named => absurd named unnamed
  · rename_i notOverridden
    exact .of_forall fun _ _ overridden => absurd overridden notOverridden

/-- A resolution closes the ticket; an override may also deliver the stop and complete the
delivery. -/
theorem resolveConflict_keeps (conflictId : IdText) (dto : ResolveConflictDto) (actorUserId : Uuid)
    (actorRole : Role) :
    (Request.resolveConflict conflictId dto actorUserId actorRole).Keeps
      (resolveConflict conflictId dto actorUserId actorRole) db := by
  refine .rejectIf (fun _ => .silent) fun operator => Ledger.reads (fun _ _ => .silent)
    fun found row => .require (fun _ => .silent) fun conflict same => ?_
  subst same
  rw [Proc.rejectIf]
  split
  · exact .silent
  · rename_i isOpen
    exact Concurrency.Ledger.transaction (fun _ _ _ _ => .silent)
      (((resolve_accepts conflict conflictId dto actorUserId).and
        (resolve_commits conflict conflictId dto actorUserId db)).mono fun _ _ both =>
          .resolved operator (Except.ok.inj row) (not_not.mp isOpen) both.1 both.2)

/-- What a turn of the outbox does is the chronicle of something else than an override or a move
of the delivery. -/
def Turned (db : Db) (writes : List Write) : Prop :=
  ∃ event : Request, event.overrides = false ∧ event.moves = none ∧
    Chronicle event db (loud writes)

/-- Nothing may happen. -/
theorem Turned.idle (db : Db) : Turned db [] :=
  ⟨.departToStop 0 0 0, rfl, rfl, .silent⟩

/-- The event asks for the step of a stop. -/
theorem turned_of_keeps {α : Type} {event : Request} {process : Proc store α}
    (mild : event.overrides = false) (stays : event.moves = none)
    (keeps : event.Keeps process db) :
    (process >>= fun _ => pure ()).Meets (.ledger Unfailing db) (fun _ writes => Turned db writes)
      [] :=
  keeps.bind (fun _ _ told => ⟨event, mild, stays, told⟩) fun _ _ told =>
    ⟨event, mild, stays, told⟩

open DeliveryStopsService (departToStop_keeps arriveAtStop_keeps startUnloading_keeps)

/-- An event of the outbox does what its operation does. -/
theorem dispatch_keeps (item : OutboxEventItem) (target : Option Uuid)
    (actorDriverId actorUserId : Uuid) :
    (dispatch item target actorDriverId actorUserId).Meets (.ledger Unfailing db)
      (fun _ writes => Turned db writes) [] := by
  cases target with
  | none => exact .idle db
  | some stopId =>
      rw [dispatch]
      split
      · exact turned_of_keeps rfl rfl
          (departToStop_keeps (.departToStop stopId actorDriverId actorUserId) _ _ _)
      · split
        · exact turned_of_keeps rfl rfl
            (arriveAtStop_keeps (.arriveAtStop stopId actorDriverId actorUserId) _ _ _)
        · split
          · exact turned_of_keeps rfl rfl
              (startUnloading_keeps (.startUnloading stopId actorDriverId actorUserId) _ _ _)
          · split
            · exact turned_of_keeps rfl rfl (PodService.submitPod_keeps _ _ _)
            · exact .idle db

/-- An item is dispatched, or turned into a ticket, or dropped. -/
theorem syncItem_keeps (item : OutboxEventItem) (actorDriverId actorUserId : Uuid) :
    (syncItem item actorDriverId actorUserId).Meets (.ledger Unfailing db)
      (fun _ writes => Turned db writes) [] := by
  have read : (readTarget item.payload.target).Meets (.ledger Unfailing db)
      (fun _ writes => writes = []) [] := by
    rw [readTarget]
    split
    · split
      · exact rfl
      · exact Ledger.reads (fun _ _ => rfl) fun _ _ => rfl
    · exact rfl
  have dispatched : ∀ target, (do
      dispatch item target actorDriverId actorUserId
      return (none : Option SyncConflict) : Proc store (Option SyncConflict)).Meets
        (.ledger Unfailing db) (fun _ writes => Turned db writes) [] := fun target =>
    (dispatch_keeps item target actorDriverId actorUserId).bind (fun _ _ told => told)
      fun _ _ told => told
  refine read.bind (fun error writes none => none ▸ .idle db) fun target writes none => ?_
  subst none
  split
  · split
    · -- a ticket is no news of a status
      refine Proc.Meets.bind (Q := fun _ writes => Turned db writes) ?_ (fun _ _ told => told)
        fun _ _ told => told
      rw [openConflict, Proc.meets_bind]
      refine Concurrency.Ledger.statement (fun _ _ _ _ => .idle db) fun _ _ writes _ succeeded => ?_
      obtain ⟨_, _, _, _, rfl⟩ := Prisma.DeliveryConflict.create_succeeds.mp succeeded
      exact Turned.idle db
    · exact dispatched _
  · exact dispatched _

/-- The items of a batch come one after the other. -/
theorem syncItems_keeps (dto : OutboxSyncDto) (actorDriverId actorUserId : Uuid)
    (items : List OutboxEventItem) (result : SyncResult) :
    (syncItems actorDriverId actorUserId items result).Meets (.ledger Unfailing db)
      (fun _ writes => Narrated (.syncOutbox dto actorDriverId actorUserId) db writes) [] := by
  induction items generalizing db result with
  | nil => exact .once .silent
  | cons item items inductionHypothesis =>
      refine Proc.Meets.bind (Q := fun result writes => (∃ turn, result = .ok turn) ∧ Turned db writes)
        (.tryCatch (Q := fun _ writes => Turned db writes) ?_ (fun turn _ told => ⟨⟨turn, rfl⟩, told⟩)
          fun _ _ told => ⟨⟨_, rfl⟩, told⟩) ?_ ?_
      · refine (syncItem_keeps item actorDriverId actorUserId).bind (fun _ _ told => told)
          fun ticket writes told => ?_
        cases ticket with
        | none => exact told
        | some ticket => exact told
      · rintro error writes ⟨⟨turn, impossible⟩, _⟩
        cases impossible
      · rintro turn writes ⟨_, event, mild, stays, told⟩
        exact Concurrency.Ledger.onwards ((inductionHypothesis turn).weaken fun _ rest narrated =>
          .synced mild stays told narrated)

end DeliveryConflictsService

/-! ## Requests that say nothing of a status -/

/-- No write of the process is loud. -/
abbrev Hushes {α : Type} (process : Proc store α) : Prop :=
  process.Commits (.atomic (fun _ _ => True) fun writes (_ : Db) => loud writes = [])

section Hushes

omit [UuidText]

variable {β : Type}

/-- A statement whose writes tell nothing is quiet. -/
theorem hushes_call {statement : Statement store β}
    (quiet : ∀ input db value writes, statement.Succeeds input db value writes → loud writes = []) :
    Hushes (liftM statement) :=
  .statement (fun _ => rfl) fun db input value writes => quiet input db value writes

/-- A look tells nothing. -/
theorem hushes_select {body : Db → Except PrismaError β} : Hushes (liftM (select body)) := by
  refine hushes_call fun input db value writes succeeded => ?_
  rw [(select_succeeds.mp succeeded).2.2, loud_nil]

/-- Nor does a count. -/
theorem hushes_rateLimit {key : String} {windowSeconds : Nat} :
    Hushes (liftM (RedisService.incrRateLimit key windowSeconds)) := by
  refine hushes_call fun input db value writes succeeded => ?_
  rw [(RedisService.incrRateLimit_succeeds.mp succeeded).2, loud_nil]

/-- Nor does a lookup of a record. -/
theorem hushes_stored (key : Option IdempotencyKey) : Hushes (Idempotency.stored key) := by
  cases key with
  | none => exact .pure _
  | some key => exact hushes_select.bind fun _ => .pure _

/-- A transaction that tells nothing is as quiet with its record. -/
theorem hushes_transactOnce {key : Option IdempotencyKey} {clash : Exception → Bool}
    {body : Txn store ResponseBody}
    (quiet : ∀ db, body.Yields (fun _ writes => loud writes = []) db []) :
    Hushes (Idempotency.transactOnce key clash body) := by
  refine .tryCatch (.map _ (.transaction (fun _ => rfl) quiet)) fun error => ?_
  cases key with
  | none => exact .throw _
  | some key =>
      rw [Idempotency.recover]
      split
      · refine hushes_select.bind fun record => ?_
        cases record with
        | none => exact .throw _
        | some record => exact .pure _
      · exact .throw _

/-- A new version of a route says nothing of a status. -/
theorem RouteCommit.loud_eq {deliveryId : Uuid} {key : Option IdempotencyKey}
    {stops moves : List (Uuid × Int)} {db : Db} {value : ResponseBody} {writes : List Write}
    (commit : RouteCommit deliveryId key stops moves db value writes) : loud writes = [] := by
  cases commit with
  | intro mode status claim ofDelivery next fresh reported =>
      have moved : loud (moves.map .resequence) = [] := loud_map_quiet (fun _ => rfl) moves
      have set : loud (settled key status value) = [] := loud_map_quiet (fun _ => rfl) _
      cases claim <;> simp [loud_cons, Write.quiet, moved, set]

namespace RoutesDomainService

/-- The common frame of the two route mutations tells nothing. -/
theorem mutateRoute_hushes {deliveryId : IdText} {actor : RouteActor} {key : Option IdempotencyKey}
    {submittedStopIds : List Uuid} {submittedSequences : Option (List Int)}
    {work : Txn store ResponseBody}
    (quiet : ∀ db, work.Yields (fun _ writes => loud writes = []) db []) :
    Hushes (mutateRoute deliveryId actor key submittedStopIds submittedSequences work) := by
  refine (hushes_select.bind fun _ => (Proc.Commits.require _ _).bind fun _ =>
    (Proc.Commits.rejectIf _ _).bind fun _ => (Proc.Commits.rejectIf _ _).bind fun _ => .pure _).bind
    fun found => (Proc.Commits.rejectIf _ _).bind fun _ =>
    (hushes_rateLimit.bind fun _ => .rejectIf _ _).bind fun _ => (hushes_stored _).bind
    fun existing => ?_
  cases existing with
  | some body => exact .pure _
  | none =>
      have known : Hushes (requireKnownStops deliveryId (found.2.map DeliveryStop.id)
          submittedStopIds) := by
        rw [requireKnownStops]
        split
        · exact .throw _
        · exact .pure _
      refine known.bind fun _ => ((Proc.Commits.rejectIf _ _).bind fun _ => .rejectIf _ _).bind
        fun _ => (hushes_transactOnce quiet).bind fun reply => ?_
      cases reply with
      | replayed body => exact .pure _
      | fresh body =>
          have told : ∀ {payload : RealtimePayload}, (∃ id route version source,
              payload = .routeUpdated id route version source) →
                Hushes (liftM (RealtimeGateway.emit [.delivery deliveryId] payload
                  actor.realtime)) := by
            rintro _ ⟨_, _, _, _, rfl⟩
            refine hushes_call fun input db value writes succeeded => ?_
            rw [RealtimeGateway.emit_succeeds.mp succeeded]
            rfl
          have emitted : Hushes (broadcastRouteUpdated deliveryId body actor) := by
            cases body <;> first | exact told ⟨_, _, _, _, rfl⟩ | exact .pure _
          exact emitted.bind fun _ => .pure _

/-- Selecting a route tells nothing. -/
theorem selectRoute_hushes (deliveryId : IdText) (dto : SelectRouteDto) (actor : RouteActor) :
    Hushes (selectRoute deliveryId dto actor) :=
  mutateRoute_hushes fun db => ((claimSelection_holds .alone deliveryId dto actor db).yields
    fun _ => rfl).mono fun _ _ made => made.choose_spec.1.loud_eq

/-- Nor does reordering the stops. -/
theorem reorderStops_hushes (deliveryId : IdText) (dto : ManualReorderDto) (actor : RouteActor) :
    Hushes (reorderStops deliveryId dto actor) :=
  mutateRoute_hushes fun db => ((claimReorder_holds .alone deliveryId dto actor db).yields
    fun _ => rfl).mono fun _ _ made => made.choose_spec.1.loud_eq

end RoutesDomainService

/-- Nor does sending a message. -/
theorem MessagesService.sendMessage_hushes (conversationId : Uuid) (dto : SendMessageDto)
    (actor : UserActor) (channel : MessageChannel) :
    Hushes (sendMessage conversationId dto actor channel) := by
  refine (hushes_select.bind fun _ => (Proc.Commits.require _ _).bind fun _ =>
    (Proc.Commits.rejectIf _ _).bind fun _ => .pure _).bind fun _ =>
    (Proc.Commits.require _ _).bind fun _ => hushes_select.bind fun _ =>
    (Proc.Commits.rejectIf _ _).bind fun _ => hushes_select.bind fun _ =>
    (Proc.Commits.rejectIf _ _).bind fun _ =>
    (hushes_rateLimit.bind fun _ => .rejectIf _ _).bind fun _ =>
    (hushes_stored _).bind fun existing => ?_
  cases existing with
  | some body => exact .pure _
  | none =>
      refine .bind ?_ fun message => .bind ?_ fun _ => .pure _
      · refine hushes_call fun input db value writes succeeded => ?_
        obtain ⟨_, _, _, rfl⟩ := Prisma.Message.create_succeeds succeeded
        rfl
      · generalize recordKey channel actor dto.idempotencyKey = key
        cases key with
        | none => exact .pure _
        | some key =>
            refine Proc.Commits.tryCatch (hushes_call fun input db value writes succeeded => ?_)
              fun _ => .pure _
            rw [(Prisma.IdempotencyRecord.create_succeeds.mp succeeded).2.2]
            rfl

end Hushes

/-! ## Requests -/

/-- What a quiet process writes is narrated. -/
theorem Narrated.of_hushes {α : Type} {request : Request} {process : Proc store α} {db : Db}
    {result : Except Exception α} {writes : List Write} (hushes : Hushes process)
    (wrote : process.Wrote Unfailing db result writes) : Narrated request db writes := by
  have hushed : loud writes = [] := by
    refine Concurrency.Ledger.of_commits hushes (fun _ => trivial) (fun writes => loud writes = [])
      rfl (fun first second left right => ?_) (fun _ _ quiet => quiet) wrote
    rw [loud_append, left, right, List.append_nil]
  exact .once (hushed ▸ .silent)

/-- What a process is proved to write is narrated. -/
theorem Narrated.of_meets {α β : Type} {request : Request} {process : Proc store α} {db : Db}
    {function : α → β} {result : Except Exception β} {writes : List Write}
    (narrates : process.Meets (.ledger Unfailing db) (fun _ writes => Narrated request db writes) [])
    (wrote : (function <$> process).Wrote Unfailing db result writes) : Narrated request db writes := by
  have mapped : (process >>= fun value => pure (function value)).Meets (.ledger Unfailing db)
      (fun _ writes => Narrated request db writes) [] :=
    narrates.bind (fun _ _ told => told) fun _ _ told => told
  exact Concurrency.Ledger.of_wrote mapped wrote

/-- What it keeps to is narrated. -/
theorem Narrated.of_keeps {α β : Type} {request : Request} {process : Proc store α} {db : Db}
    {function : α → β} {result : Except Exception β} {writes : List Write}
    (keeps : request.Keeps process db)
    (wrote : (function <$> process).Wrote Unfailing db result writes) : Narrated request db writes :=
  .of_meets (keeps.weaken fun _ _ told => .once told) wrote

/-- Whatever a request does alone, it is narrated. -/
theorem Request.narrated {request : Request} {db : Db} {result : Except Exception Response}
    {writes : List Write} (wrote : request.proc.Wrote Unfailing db result writes) :
    Narrated request db writes := by
  cases request with
  | createDelivery dto user => exact .of_keeps (DeliveriesService.createDelivery_keeps dto user) wrote
  | assignDelivery id dto actor =>
      exact .of_keeps (DeliveriesService.assignDelivery_keeps id dto actor) wrote
  | acceptDelivery id driver user =>
      exact .of_keeps (DeliveriesService.acceptDelivery_keeps id driver user) wrote
  | startDelivery id driver user =>
      exact .of_keeps (DeliveriesService.startDelivery_keeps id driver user) wrote
  | completeDelivery id actor =>
      exact .of_keeps (DeliveriesService.completeDelivery_keeps id actor) wrote
  | cancelDelivery id dto actor =>
      exact .of_keeps (DeliveriesService.cancelDelivery_keeps id dto actor) wrote
  | departToStop id driver user =>
      exact .of_keeps (DeliveryStopsService.departToStop_keeps _ id driver user) wrote
  | arriveAtStop id driver user =>
      exact .of_keeps (DeliveryStopsService.arriveAtStop_keeps _ id driver user) wrote
  | startUnloading id driver user =>
      exact .of_keeps (DeliveryStopsService.startUnloading_keeps _ id driver user) wrote
  | failStop id dto driver user =>
      exact .of_keeps (DeliveryStopsService.failStop_keeps id dto driver user) wrote
  | skipStop id dto actor => exact .of_keeps (DeliveryStopsService.skipStop_keeps id dto actor) wrote
  | submitPod id dto actor => exact .of_keeps (PodService.submitPod_keeps id dto actor) wrote
  | syncOutbox dto driver user =>
      exact .of_meets (DeliveryConflictsService.syncItems_keeps dto driver user dto.events {}) wrote
  | resolveConflict id dto user role =>
      exact .of_keeps (DeliveryConflictsService.resolveConflict_keeps id dto user role) wrote
  | selectRoute id dto actor =>
      exact .of_hushes ((RoutesDomainService.selectRoute_hushes id dto actor).map _) wrote
  | reorderStops id dto actor =>
      exact .of_hushes ((RoutesDomainService.reorderStops_hushes id dto actor).map _) wrote
  | sendMessage id dto actor channel =>
      exact .of_hushes ((MessagesService.sendMessage_hushes id dto actor channel).map _) wrote

end Armada
