import Armada.Alone
import Armada.Effects.Rows
import Armada.Effects.Services

/-!
# A turn of the outbox

One event of `syncOutbox` when nobody else runs: which are acknowledged, which end in a
ticket and which are left out, by the state that their turn begins in.
-/

namespace Armada

open Relational Concurrency

/-! ## Commands -/

/-- What the event types of the outbox ask for. -/
inductive OutboxCommand where
  | depart
  | arrive
  | unload
  | pod
  deriving DecidableEq

/-- The command of an event; other event types have none. -/
def OutboxEventItem.command (item : OutboxEventItem) : Option OutboxCommand :=
  if item.eventType = "stop.depart" then some .depart
  else if item.eventType = "stop.arrive" then some .arrive
  else if item.eventType = "stop.unload" then some .unload
  else if item.eventType = "stop.pod" then some .pod
  else none

/-- The status of a stop that has gone through the command. -/
def OutboxCommand.target : OutboxCommand → StopStatus
  | .depart => .enRoute
  | .arrive => .arrived
  | .unload => .unloading
  | .pod => .delivered

/-- The statuses of a stop on its way from a command on. -/
def OutboxCommand.onwards : OutboxCommand → List StopStatus
  | .depart => [.enRoute, .arrived, .unloading, .delivered]
  | .arrive => [.arrived, .unloading, .delivered]
  | .unload => [.unloading, .delivered]
  | .pod => [.delivered]

/-- The target of a step is among the statuses onwards. -/
theorem OutboxCommand.target_mem_onwards (command : OutboxCommand) :
    command.target ∈ command.onwards := by
  cases command <;> decide

section Turns

variable [UuidText] {supplied : Input → Prop} {before after : Db} {driver user stopId : Uuid}
  {item : OutboxEventItem}

/-- The event names a stop. -/
def OutboxEventItem.Names (item : OutboxEventItem) (stopId : Uuid) : Prop :=
  item.payload.target.truthy = true ∧ item.payload.target.toUuid = .ok stopId

/-- When a command may go ahead. -/
def OutboxCommand.Allows (command : OutboxCommand) (item : OutboxEventItem) (driver user : Uuid)
    (db : Db) (stop : DeliveryStop) (delivery : Delivery) : Prop :=
  match command with
  | .depart => DeliveryStopsService.Departs stop delivery
  | .arrive => DeliveryStopsService.Arrives stop delivery
  | .unload => DeliveryStopsService.Unloads stop delivery
  | .pod => PodService.Accepts (DeliveryConflictsService.podOf item) (driverActor user driver) db
      stop delivery

/-- What the first reading of an event finds. -/
def Finds (db : Db) (stopId : Uuid) : Option (DeliveryStop × Delivery) → Prop
  | none => db.stop? stopId = none
  | some (stop, delivery) => db.stop? stopId = some stop ∧
      db.delivery? stop.deliveryId = some delivery

/-- The delivery of the stop is cancelled. -/
def Cancelled (db : Db) (stopId : Uuid) (stop : DeliveryStop) : Prop :=
  db.stop? stopId = some stop ∧
    ∃ delivery, db.delivery? stop.deliveryId = some delivery ∧ delivery.status = .cancelled

/-- The turns that return, with what they have found and done. -/
inductive Synced (driver user : Uuid) (item : OutboxEventItem) (before : Db) :
    Option SyncConflict → Db → Prop where
  | unnamed (anonymous : item.payload.target.truthy = false) :
      Synced driver user item before none before
  | unknown {stopId : Uuid} (names : item.Names stopId) (foreign : item.command = none)
      (found : Option (DeliveryStop × Delivery)) (finds : Finds before stopId found)
      (live : ∀ stop, ¬Cancelled before stopId stop) :
      Synced driver user item before none before
  | stepped {stopId : Uuid} (names : item.Names stopId) (command : OutboxCommand)
      (commanded : item.command = some command) (step : command ≠ .pod)
      (permitted : DeliveryStopsService.Permits stopId (some driver)
        (command.Allows item driver user before) before) {after : Db}
      (stepped : DeliveryStopsService.Stepped stopId command.target before after) :
      Synced driver user item before none after
  | submitted {stopId : Uuid} (names : item.Names stopId) (commanded : item.command = some .pod)
      (live : ∀ stop, ¬Cancelled before stopId stop) {stop : DeliveryStop} {delivery : Delivery}
      (own : Reaches before stopId (some driver) stop delivery) {reply : PodReply} {after : Db}
      (submitted : Submitted stopId (DeliveryConflictsService.podOf item) (driverActor user driver)
        stop delivery before reply after) :
      Synced driver user item before none after
  | ticketed {stopId : Uuid} (names : item.Names stopId) {stop : DeliveryStop}
      (cancelled : Cancelled before stopId stop) (short : item.clientEventId.length ≤ 100)
      (row : DeliveryConflict) (fresh : before.conflict? row.id = none)
      (about : row.deliveryId = stop.deliveryId ∧ row.clientEventId = item.clientEventId ∧
        row.clientPayload = item ∧ row.status = .opened) :
      Synced driver user item before
        (some ⟨item.clientEventId, row.id, DeliveryConflictsService.staleOfflineCompletion⟩)
        ((Write.createConflict row).apply before)

omit [UuidText] in
/-- A stop that has been moved, and then left alone, is where the move leads. -/
theorem Reaches.moved {middle : Db} {data : StopData} {target : StopStatus} {caller : Option Uuid}
    {stop : DeliveryStop} {delivery : Delivery} (own : Reaches before stopId caller stop delivery)
    (sets : data.status = some target)
    (stops : middle.stop? stopId = ((Write.updateStop stopId data).apply before).stop? stopId)
    (deliveries : ∀ id, middle.delivery? id = before.delivery? id) (trailed : Trailed middle after) :
    ∃ later parent, Reaches after stopId caller later parent ∧ later.status = target := by
  obtain ⟨found, parentFound, driven⟩ := own
  have moved : middle.stop? stopId = some (data.set stop) := by
    rw [stops, Write.stop?_apply, Write.onStop, if_pos rfl, found, Option.map_some]
  obtain ⟨parent, foundParent, sameDriver⟩ := trailed.drivers (data.set stop).deliveryId delivery
    ((deliveries _).trans parentFound)
  exact ⟨data.set stop, parent, ⟨(trailed.stop? stopId).trans moved, foundParent, sameDriver ▸ driven⟩,
    by simp [StopData.set, sets]⟩

/-- A submission that commits has moved its stop onwards. -/
theorem PodCommit.reaches {deliveryId : Uuid} {dto : SubmitPodDto} {actor : DeliveryActor}
    {body : ResponseBody} {writes : List Write}
    (commit : PodCommit stopId deliveryId dto actor before body writes)
    {caller : Option Uuid} {stop : DeliveryStop} {delivery : Delivery}
    (own : Reaches before stopId caller stop delivery)
    (trailed : Trailed (before.commit writes) after) :
    ∃ later parent, Reaches after stopId caller later parent ∧ later.status = .delivered := by
  obtain ⟨row, now, _, _, core⟩ := commit.essential_eq
  have agree := before.commit_essential writes
  rw [core] at agree
  exact own.moved rfl
    (agree.stop? stopId).symm (fun id => (agree.delivery? id).symm) trailed

/-- What a ticket has been opened for. -/
theorem Synced.ticketed_of_some {ticket : SyncConflict}
    (synced : Synced driver user item before (some ticket) after) :
    ∃ stopId stop row, item.Names stopId ∧ Cancelled before stopId stop ∧
      item.clientEventId.length ≤ 100 ∧ before.conflict? row.id = none ∧
      (row.deliveryId = stop.deliveryId ∧ row.clientEventId = item.clientEventId ∧
        row.clientPayload = item ∧ row.status = .opened) ∧
      ticket = ⟨item.clientEventId, row.id, DeliveryConflictsService.staleOfflineCompletion⟩ ∧
      after = (Write.createConflict row).apply before := by
  cases synced with
  | @ticketed stopId names stop cancelled short row fresh about =>
      exact ⟨stopId, stop, row, names, cancelled, short, fresh, about, rfl, rfl⟩

namespace DeliveryConflictsService

open DeliveryStopsService

/-- Reading the target of an item finds its stop, and changes nothing. -/
theorem readTarget_returns {target : JsValue}
    {found : Option (Uuid × Option (DeliveryStop × Delivery))}
    (returned : (readTarget target).Returns supplied before found after) :
    after = before ∧ (target.truthy = false ∧ found = none ∨ ∃ stopId stop,
      target.truthy = true ∧ target.toUuid = .ok stopId ∧ found = some (stopId, stop) ∧
        Finds before stopId stop) := by
  rw [readTarget] at returned
  split at returned
  · rename_i named
    split at returned
    · exact absurd returned Proc.returns_throw
    · rename_i stopId parsed
      simp only [Proc.returns_bind, Proc.returns_pure] at returned
      obtain ⟨stop, _, read, rfl, rfl⟩ := returned
      obtain ⟨found, rfl⟩ := returns_select read
      refine ⟨rfl, .inr ⟨stopId, stop, named, parsed, rfl, ?_⟩⟩
      split at found
      · rename_i absent
        cases found
        exact absent
      · rename_i row present
        split at found
        · cases found
        · rename_i parent foundParent
          cases found
          exact ⟨present, foundParent⟩
  · rename_i anonymous
    obtain ⟨rfl, rfl⟩ := Proc.returns_pure.mp returned
    exact ⟨rfl, .inl ⟨by simpa using anonymous, rfl⟩⟩

/-- The reading fails by itself where the id is no UUID, or the stop has no delivery. -/
theorem readTarget_throws {target : JsValue} {error : Exception}
    (thrown : (readTarget target).Throws supplied before error after) :
    (∃ reason, error = .prisma reason) ∧ after = before ∧ target.truthy = true ∧
      (Healthy supplied → ∀ stopId, target.toUuid = .ok stopId → ∀ found,
        ¬Finds before stopId found) := by
  rw [readTarget] at thrown
  split at thrown
  · rename_i named
    split at thrown
    · rename_i reason invalid
      obtain ⟨rfl, rfl⟩ := Proc.throws_throw.mp thrown
      exact ⟨⟨reason, rfl⟩, rfl, named, fun _ stopId parsed => by cases invalid.symm.trans parsed⟩
    · rename_i id parsed
      simp only [Proc.throws_bind, Proc.throws_pure, and_false, exists_false, or_false] at thrown
      obtain ⟨⟨reason, rfl, unread⟩, rfl⟩ := throws_select thrown
      refine ⟨⟨reason, rfl⟩, rfl, named, fun healthy stopId other found finds => ?_⟩
      cases parsed.symm.trans other
      have read := unread healthy
      cases found with
      | none =>
          rw [show after.stop? id = none from finds] at read
          cases read
      | some row =>
          rw [show after.stop? id = some row.1 from finds.1] at read
          simp [show after.delivery? row.1.deliveryId = some row.2 from finds.2] at read
  · exact absurd thrown Proc.throws_pure

/-- The dispatch, by command. -/
theorem dispatch_eq :
    dispatch item (some stopId) driver user =
      match item.command with
      | none => return ()
      | some .depart => (fun _ => ()) <$> departToStop stopId driver user
      | some .arrive => (fun _ => ()) <$> arriveAtStop stopId driver user
      | some .unload => (fun _ => ()) <$> startUnloading stopId driver user
      | some .pod => (fun _ => ()) <$>
          PodService.submitPod stopId (podOf item) (driverActor user driver) := by
  simp only [dispatch, OutboxEventItem.command]
  split_ifs <;> rfl

/-- An event that is dispatched well has had the effect of its operation. -/
theorem dispatch_returns {answer : Unit} (names : item.Names stopId)
    (live : ∀ stop, ¬Cancelled before stopId stop) {found : Option (DeliveryStop × Delivery)}
    (finds : Finds before stopId found)
    (returned : (dispatch item (some stopId) driver user).Returns supplied before answer after) :
    Synced driver user item before none after := by
  rw [dispatch_eq] at returned
  split at returned
  · rename_i foreign
    obtain ⟨_, rfl⟩ := Proc.returns_pure.mp returned
    exact .unknown names foreign found finds live
  · rename_i commanded
    obtain ⟨_, moved, _⟩ := Proc.returns_map.mp returned
    obtain ⟨permitted, stepped⟩ := departToStop_returns moved
    exact .stepped names .depart commanded (by decide) permitted stepped
  · rename_i commanded
    obtain ⟨_, moved, _⟩ := Proc.returns_map.mp returned
    obtain ⟨permitted, stepped⟩ := arriveAtStop_returns moved
    exact .stepped names .arrive commanded (by decide) permitted stepped
  · rename_i commanded
    obtain ⟨_, moved, _⟩ := Proc.returns_map.mp returned
    obtain ⟨permitted, stepped⟩ := startUnloading_returns moved
    exact .stepped names .unload commanded (by decide) permitted stepped
  · rename_i commanded
    obtain ⟨_, submitted, _⟩ := Proc.returns_map.mp returned
    obtain ⟨stop, delivery, own, submitted⟩ := PodService.submitPod_returns submitted
    exact .submitted names commanded live own submitted

/-- A command whose submission is at fault itself. -/
def Faulty (driver user stopId : Uuid) (item : OutboxEventItem) (db : Db) : Prop :=
  item.command = some .pod ∧ ¬Submittable stopId (podOf item) (driverActor user driver) db ∧
    db.stored (PodService.recordKey (driverActor user driver) item.idempotencyKey) = none ∧
      Permits stopId (some driver) Submits db

/-- The command is refused, it is at fault itself, or a call has failed. -/
theorem dispatch_throws {error : Exception}
    (thrown : (dispatch item (some stopId) driver user).Throws supplied before error after) :
    ∃ command, item.command = some command ∧
      (Refuses supplied (Permits stopId (some driver) (command.Allows item driver user before) before)
          before error after ∨
        after = before ∧ (∃ reason, error = .prisma reason) ∧
          (Healthy supplied → Faulty driver user stopId item before)) := by
  rw [dispatch_eq] at thrown
  split at thrown
  · exact absurd thrown Proc.throws_pure
  · rename_i commanded
    have thrown := Proc.throws_map.mp thrown
    exact ⟨.depart, commanded, .inl (departToStop_throws thrown)⟩
  · rename_i commanded
    have thrown := Proc.throws_map.mp thrown
    exact ⟨.arrive, commanded, .inl (arriveAtStop_throws thrown)⟩
  · rename_i commanded
    have thrown := Proc.throws_map.mp thrown
    exact ⟨.unload, commanded, .inl (startUnloading_throws thrown)⟩
  · rename_i commanded
    have thrown := Proc.throws_map.mp thrown
    refine ⟨.pod, commanded, ?_⟩
    rcases PodService.submitPod_throws thrown with
      refused | ⟨same, ⟨reason, unable⟩, unstored, submits⟩
    · exact .inl refused
    · exact .inr ⟨same, reason, fun healthy =>
        ⟨commanded, unable healthy, unstored, submits⟩⟩

omit [UuidText] in
/-- A ticket is opened under a fresh id, for the event as it was sent. -/
theorem openConflict_returns {deliveryId : Uuid} {ticket : SyncConflict}
    (returned : (openConflict deliveryId item).Returns supplied before ticket after) :
    ∃ row, before.conflict? row.id = none ∧ item.clientEventId.length ≤ 100 ∧
      (row.deliveryId = deliveryId ∧ row.clientEventId = item.clientEventId ∧
        row.clientPayload = item ∧ row.status = .opened) ∧
      ticket = ⟨item.clientEventId, row.id, staleOfflineCompletion⟩ ∧
      after = (Write.createConflict row).apply before := by
  simp only [openConflict, Proc.returns_bind, Proc.returns_pure] at returned
  obtain ⟨row, _, created, rfl, rfl⟩ := returned
  obtain ⟨input, writes, _, succeeded, rfl⟩ := Proc.returns_lift.mp created
  obtain ⟨_, short, fresh, rfl, rfl⟩ := Prisma.DeliveryConflict.create_succeeds.mp succeeded
  exact ⟨_, fresh, short, ⟨rfl, rfl, rfl, rfl⟩, rfl, rfl⟩

omit [UuidText] in
/-- Opening fails only by a fault. -/
theorem openConflict_throws {deliveryId : Uuid} {error : Exception}
    (thrown : (openConflict deliveryId item).Throws supplied before error after) :
    (∃ reason, error = .prisma reason) ∧ after = before := by
  simp only [openConflict, Proc.throws_bind, Proc.throws_pure, and_false, exists_false,
    or_false] at thrown
  obtain ⟨input, _, failed, rfl⟩ := Proc.throws_lift.mp thrown
  obtain ⟨reason, rfl, _⟩ := query_fails failed
  exact ⟨⟨reason, rfl⟩, rfl⟩

omit [UuidText] in
/-- A ticket is refused for its long id, or because of the environment. -/
theorem openConflict_spoils {deliveryId : Uuid} {error : Exception}
    (free : ∀ input, supplied input → before.conflict? input.uuid = none)
    (thrown : (openConflict deliveryId item).Throws supplied before error after) :
    Spoils supplied (item.clientEventId.length ≤ 100) error := by
  simp only [openConflict, Proc.throws_bind, Proc.throws_pure, and_false, exists_false,
    or_false] at thrown
  obtain ⟨input, given, failed, _⟩ := Proc.throws_lift.mp thrown
  rw [Prisma.DeliveryConflict.create] at failed
  refine spoils_of_query given (fun short fault => ?_) failed
  let row : DeliveryConflict :=
    { id := input.uuid, deliveryId, clientEventId := item.clientEventId,
      conflictType := staleOfflineCompletion, serverState := "CANCELLED", clientPayload := item }
  exact ⟨row, [.createConflict row], Prisma.DeliveryConflict.create_succeeds.mpr
    ⟨fault, short, free input given, rfl, rfl⟩⟩

/-- The command of an event is not permitted, and no cancellation explains it. -/
def Rejected (driver user : Uuid) (item : OutboxEventItem) (db : Db) : Prop :=
  ∃ stopId command, item.Names stopId ∧ item.command = some command ∧
    (∀ stop, ¬Cancelled db stopId stop) ∧
      ¬Permits stopId (some driver) (command.Allows item driver user db) db

omit [UuidText] in
/-- What the first reading finds tells whether the delivery is cancelled. -/
theorem cancelled_of_finds {stop : DeliveryStop} {delivery : Delivery}
    (finds : Finds before stopId (some (stop, delivery))) :
    (∃ stop, Cancelled before stopId stop) ↔ delivery.status = .cancelled := by
  obtain ⟨found, parent⟩ := finds
  constructor
  · rintro ⟨other, foundOther, row, foundRow, cancelled⟩
    obtain rfl : other = stop := Option.some.inj (foundOther.symm.trans found)
    obtain rfl : row = delivery := Option.some.inj (foundRow.symm.trans parent)
    exact cancelled
  · exact fun cancelled => ⟨stop, found, delivery, parent, cancelled⟩

omit [UuidText] in
/-- Where no stop is found nothing has been cancelled. -/
theorem live_of_finds_none (finds : Finds before stopId none) (stop : DeliveryStop) :
    ¬Cancelled before stopId stop := fun ⟨found, _⟩ => by
  rw [show before.stop? stopId = none from finds] at found
  cases found

/-- An event without a stop does nothing. -/
theorem dispatch_none {answer : Unit}
    (returned : (dispatch item none driver user).Returns supplied before answer after) :
    after = before :=
  (Proc.returns_pure.mp returned).2

/-- What a turn that returns has found and done. -/
theorem syncItem_returns {ticket : Option SyncConflict}
    (returned : (syncItem item driver user).Returns supplied before ticket after) :
    Synced driver user item before ticket after := by
  obtain ⟨target, _, read, rest⟩ := Proc.returns_bind.mp returned
  obtain ⟨same, ⟨anonymous, rfl⟩ | ⟨stopId, found, named, parsed, rfl, finds⟩⟩ :=
    readTarget_returns read
  · subst same
    obtain ⟨_, _, idle, done⟩ := Proc.returns_bind.mp rest
    obtain ⟨rfl, rfl⟩ := Proc.returns_pure.mp done
    rw [dispatch_none idle]
    exact .unnamed anonymous
  · subst same
    cases found with
    | none =>
        obtain ⟨_, _, dispatched, done⟩ := Proc.returns_bind.mp rest
        obtain ⟨rfl, rfl⟩ := Proc.returns_pure.mp done
        exact dispatch_returns ⟨named, parsed⟩ (live_of_finds_none finds) finds dispatched
    | some row =>
        obtain ⟨stop, delivery⟩ := row
        dsimp only [Option.bind] at rest
        split at rest
        · rename_i cancelled
          obtain ⟨ticket, opened, rfl⟩ := Proc.returns_map.mp rest
          obtain ⟨row, fresh, short, about, rfl, rfl⟩ := openConflict_returns opened
          exact .ticketed ⟨named, parsed⟩ ⟨finds.1, delivery, finds.2, cancelled⟩ short row fresh about
        · rename_i live
          obtain ⟨_, _, dispatched, done⟩ := Proc.returns_bind.mp rest
          obtain ⟨rfl, rfl⟩ := Proc.returns_pure.mp done
          exact dispatch_returns ⟨named, parsed⟩
            (fun stop cancelled => live ((cancelled_of_finds finds).mp ⟨stop, cancelled⟩)) finds
            dispatched

/-- How a turn fails: with an answer to the client only if its command is rejected; a
failed call, too, leaves the store alone unless the environment is at fault. -/
def Failed (supplied : Input → Prop) (driver user : Uuid) (item : OutboxEventItem) (before : Db)
    (error : Exception) (after : Db) : Prop :=
  (∃ exception, error = .http exception) ∧ after = before ∧ Rejected driver user item before ∨
    (∃ reason, error = .prisma reason) ∧ (Healthy supplied → after = before ∧
      item.payload.target.truthy = true ∧
      ∀ stopId found, item.Names stopId → Finds before stopId found →
        (∃ stop, Cancelled before stopId stop) ∨ Rejected driver user item before ∨
          Faulty driver user stopId item before)

/-- An event fails for the reason its operation fails. -/
theorem failed_of_dispatch {error : Exception}
    (names : item.Names stopId) (live : ∀ stop, ¬Cancelled before stopId stop)
    (thrown : (dispatch item (some stopId) driver user).Throws supplied before error after) :
    Failed supplied driver user item before error after := by
  have only : ∀ other, item.Names other → other = stopId := fun other named =>
    Except.ok.inj (named.2.symm.trans names.2)
  obtain ⟨command, commanded, (⟨http, unfit, same⟩ | ⟨reason, alone⟩) | ⟨same, reason, faulty⟩⟩ :=
    dispatch_throws thrown
  · exact .inl ⟨http, same, stopId, command, names, commanded, live, unfit⟩
  · exact .inr ⟨reason, fun healthy => ⟨(alone healthy).2, names.1, fun _ _ _ _ =>
      .inr (.inl ⟨stopId, command, names, commanded, live, (alone healthy).1⟩)⟩⟩
  · exact .inr ⟨reason, fun healthy => ⟨same, names.1, fun other _ named _ =>
      .inr (.inr (only other named ▸ faulty healthy))⟩⟩

/-- So does an item. -/
theorem syncItem_throws {error : Exception}
    (thrown : (syncItem item driver user).Throws supplied before error after) :
    Failed supplied driver user item before error after := by
  rcases Proc.throws_bind.mp thrown with unread | ⟨target, _, read, rest⟩
  · obtain ⟨reason, same, named, lost⟩ := readTarget_throws unread
    exact .inr ⟨reason, fun healthy => ⟨same, named, fun stopId found names finds =>
      absurd finds (lost healthy stopId names.2 found)⟩⟩
  obtain ⟨same, ⟨anonymous, rfl⟩ | ⟨stopId, found, named, parsed, rfl, finds⟩⟩ :=
    readTarget_returns read
  · simp only [Option.bind_none, Option.map_none, Proc.throws_bind, Proc.throws_pure, and_false,
      exists_false, or_false] at rest
    exact absurd rest Proc.throws_pure
  · subst same
    cases found with
    | none =>
        simp only [Option.bind_some, Option.map_some, Proc.throws_bind, Proc.throws_pure, and_false,
          exists_false, or_false] at rest
        exact failed_of_dispatch ⟨named, parsed⟩ (live_of_finds_none finds) rest
    | some row =>
        obtain ⟨stop, delivery⟩ := row
        dsimp only [Option.bind, Option.map] at rest
        split at rest
        · rename_i cancelled
          obtain ⟨reason, same⟩ := openConflict_throws (Proc.throws_map.mp rest)
          refine .inr ⟨reason, fun _ => ⟨same, named, fun other _ names _ => .inl ?_⟩⟩
          obtain rfl : stopId = other := Except.ok.inj (parsed.symm.trans names.2)
          exact (cancelled_of_finds finds).mpr cancelled
        · rename_i live
          simp only [Proc.throws_bind, Proc.throws_pure, and_false, exists_false, or_false] at rest
          exact failed_of_dispatch ⟨named, parsed⟩
            (fun stop cancelled => live ((cancelled_of_finds finds).mp ⟨stop, cancelled⟩)) rest

/-- The reading of a stop that is there succeeds. -/
theorem readTarget_finds {found : Option (DeliveryStop × Delivery)} (names : item.Names stopId)
    (finds : Finds before stopId found) :
    (readTarget item.payload.target).Returns Unfailing before (some (stopId, found)) before := by
  rw [readTarget, if_pos names.1, names.2]
  have read : Prisma.DeliveryStop.findUnique stopId |>.Succeeds {} before found [] := by
    refine select_succeeds.mpr ⟨rfl, ?_, rfl⟩
    cases found with
    | none => rw [show before.stop? stopId = none from finds]
    | some row => rw [show before.stop? stopId = some row.1 from finds.1]; simp [show before.delivery? row.1.deliveryId = some row.2 from finds.2]
  exact Proc.returns_bind.mpr ⟨found, before, Proc.returns_lift.mpr ⟨{}, [], rfl, read, rfl⟩,
    Proc.returns_pure.mpr ⟨rfl, rfl⟩⟩

/-- A late event under a short id opens a ticket under any id that is free. -/
theorem syncItem_opens {stop : DeliveryStop} (names : item.Names stopId)
    (cancelled : Cancelled before stopId stop) (short : item.clientEventId.length ≤ 100) (id : Uuid)
    (fresh : before.conflict? id = none) : ∃ ticket row, row.id = id ∧
      row.deliveryId = stop.deliveryId ∧ (syncItem item driver user).Returns Unfailing before
        (some ticket) ((Write.createConflict row).apply before) := by
  obtain ⟨found, delivery, foundDelivery, status⟩ := cancelled
  let row : DeliveryConflict :=
    { id, deliveryId := stop.deliveryId, clientEventId := item.clientEventId,
      conflictType := staleOfflineCompletion, serverState := "CANCELLED", clientPayload := item }
  refine ⟨⟨item.clientEventId, id, staleOfflineCompletion⟩, row, rfl, rfl,
    Proc.returns_bind.mpr ⟨some (stopId, some (stop, delivery)), before,
      readTarget_finds names ⟨found, foundDelivery⟩, ?_⟩⟩
  simp only [Option.bind_some, status, if_true]
  have created : (Prisma.DeliveryConflict.create stop.deliveryId item.clientEventId
      staleOfflineCompletion "CANCELLED" item).Succeeds { uuid := id } before row
      [.createConflict row] :=
    Prisma.DeliveryConflict.create_succeeds.mpr ⟨rfl, short, fresh, rfl, rfl⟩
  exact Proc.returns_map.mpr ⟨_, Proc.returns_bind.mpr ⟨row, _,
    Proc.returns_lift.mpr ⟨{ uuid := id }, _, rfl, created, rfl⟩, Proc.returns_pure.mpr ⟨rfl, rfl⟩⟩, rfl⟩

/-- Where no call fails by itself, the turn of an event whose stop is found throws only if
the delivery is cancelled, the command rejected or the submission at fault. -/
theorem not_throws {found : Option (DeliveryStop × Delivery)} {error : Exception}
    (healthy : Healthy supplied) (names : item.Names stopId) (finds : Finds before stopId found)
    (live : ¬∃ stop, Cancelled before stopId stop) (accepted : ¬Rejected driver user item before)
    (sound : ¬Faulty driver user stopId item before) :
    ¬(syncItem item driver user).Throws supplied before error after := by
  intro thrown
  rcases syncItem_throws thrown with ⟨_, _, rejected⟩ | ⟨_, alone⟩
  · exact accepted rejected
  · rcases (alone healthy).2.2 stopId found names finds with cancelled | rejected | faulty
    · exact live cancelled
    · exact accepted rejected
    · exact sound faulty

/-- An event that names no stop does not fail. -/
theorem not_throws_of_unnamed {error : Exception} (healthy : Healthy supplied)
    (anonymous : item.payload.target.truthy = false) :
    ¬(syncItem item driver user).Throws supplied before error after := by
  intro thrown
  rcases syncItem_throws thrown with ⟨_, _, _, _, names, _⟩ | ⟨_, alone⟩
  · cases anonymous.symm.trans names.1
  · cases anonymous.symm.trans (alone healthy).2.1

/-- A command that is allowed on the stop it names is not rejected. -/
theorem not_rejected {command : OutboxCommand} (names : item.Names stopId)
    (commanded : item.command = some command)
    (permitted : Permits stopId (some driver) (command.Allows item driver user before) before) :
    ¬Rejected driver user item before := by
  rintro ⟨other, another, named, isCommand, _, unfit⟩
  obtain rfl : other = stopId := Except.ok.inj (named.2.symm.trans names.2)
  cases commanded.symm.trans isCommand
  exact unfit permitted

/-- An event of an unknown type is not rejected. -/
theorem not_rejected_of_foreign (foreign : item.command = none) :
    ¬Rejected driver user item before := fun ⟨_, _, _, commanded, _⟩ => by
  cases foreign.symm.trans commanded

/-- An event of another type does not fail by its proof. -/
theorem not_faulty_of_command {command : OutboxCommand} (commanded : item.command = some command)
    (step : command ≠ .pod) : ¬Faulty driver user stopId item before := fun ⟨isPod, _⟩ =>
  step (Option.some.inj (commanded.symm.trans isPod))

/-- A submission that is answered from what is there is not at fault. -/
theorem not_faulty_of_answered {stop : DeliveryStop} {delivery : Delivery}
    (own : Reaches before stopId (some driver) stop delivery)
    (answered : before.stored (PodService.recordKey (driverActor user driver) item.idempotencyKey) ≠ none ∨
      stop.status = .delivered) : ¬Faulty driver user stopId item before := by
  rintro ⟨_, _, unstored, other, row, ownOther, submits⟩
  obtain rfl : other = stop := Option.some.inj (ownOther.1.symm.trans own.1)
  rcases answered with stored | status
  · exact stored unstored
  · exact submits.2 (by simp [status])

/-- A step that is permitted is taken where no call fails, and acknowledged. -/
theorem stepped_of_permitted {command : OutboxCommand}
    {outcome : Except Exception (Option SyncConflict)} (healthy : Healthy supplied)
    (names : item.Names stopId) (commanded : item.command = some command) (step : command ≠ .pod)
    (permitted : Permits stopId (some driver) (command.Allows item driver user before) before)
    (ran : (syncItem item driver user).Runs supplied before outcome after) :
    outcome = .ok none ∧ Stepped stopId command.target before after := by
  have permittedOwn := permitted
  obtain ⟨stop, delivery, own, allowed⟩ := permittedOwn
  have finds : Finds before stopId (some (stop, delivery)) := ⟨own.1, own.2.1⟩
  have live : ¬∃ stop, Cancelled before stopId stop := by
    rw [cancelled_of_finds finds]
    cases command <;>
      simp_all [OutboxCommand.Allows, Departs, Arrives, Unloads, terminalDeliveryStatuses]
  have same : ∀ {other}, item.Names other → other = stopId := fun named =>
    Except.ok.inj (named.2.symm.trans names.2)
  cases outcome with
  | error error =>
      exact absurd ran (not_throws healthy names finds live (not_rejected names commanded permitted)
        (not_faulty_of_command commanded step))
  | ok ticket =>
      cases syncItem_returns ran with
      | unnamed anonymous => cases anonymous.symm.trans names.1
      | unknown _ foreign => cases foreign.symm.trans commanded
      | stepped named other isCommand _ _ stepped =>
          obtain rfl := same named
          cases commanded.symm.trans isCommand
          exact ⟨rfl, stepped⟩
      | submitted _ isPod => exact absurd (Option.some.inj (commanded.symm.trans isPod)) step
      | ticketed named cancelled =>
          obtain rfl := same named
          exact absurd ⟨_, cancelled⟩ live

/-- Where no call fails, the turn of an event whose delivery is cancelled is the opening of
a ticket. -/
theorem late_turn {stop : DeliveryStop} {outcome : Except Exception (Option SyncConflict)}
    (healthy : Healthy supplied) (names : item.Names stopId)
    (cancelled : Cancelled before stopId stop)
    (ran : (syncItem item driver user).Runs supplied before outcome after) :
    (some <$> openConflict stop.deliveryId item).Runs supplied before outcome after := by
  obtain ⟨found, delivery, foundDelivery, status⟩ := cancelled
  have finds : Finds before stopId (some (stop, delivery)) := ⟨found, foundDelivery⟩
  rcases Proc.runs_bind.mp ran with ⟨target, middle, read, rest⟩ | ⟨error, unread, _⟩
  · obtain ⟨rfl, ⟨anonymous, _⟩ | ⟨other, reached, _, parsed, rfl, findsOther⟩⟩ :=
      readTarget_returns read
    · cases anonymous.symm.trans names.1
    · obtain rfl : other = stopId := Except.ok.inj (parsed.symm.trans names.2)
      cases reached with
      | none => cases findsOther.symm.trans found
      | some row =>
          obtain rfl : row.1 = stop := Option.some.inj (findsOther.1.symm.trans found)
          obtain rfl : row.2 = delivery := Option.some.inj (findsOther.2.symm.trans foundDelivery)
          simpa [status] using rest
  · exact absurd finds ((readTarget_throws unread).2.2.2 healthy stopId names.2 _)

end DeliveryConflictsService

end Turns

end Armada
