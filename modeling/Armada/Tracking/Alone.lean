import Mathlib.Data.Finset.Max
import Armada.Tracking.Effects

/-!
# Calls of telemetry ingestion that run alone

A call of `processTelemetry` leaves the points and the cached locations as they are, or it
stores one point and offers it to the cache. Runs of such calls, one after another, are what
statements about the stored track of a driver are about.
-/

namespace Armada.Tracking

open Relational Concurrency

/-! ## The latest points of a track -/

/-- The latest valid points of a driver. -/
def LatestValid (db : Db) (driverId : Uuid) (row : LocationPoint) : Prop :=
  row ∈ db.validPoints driverId ∧ ∀ other ∈ db.validPoints driverId,
    other.recordedAt ≤ row.recordedAt

/-- A driver with valid points has a latest one. -/
theorem latestValid_exists {db : Db} {id : Uuid} (occupied : db.validPoints id ≠ []) :
    ∃ row, LatestValid db id row := by
  obtain ⟨row, member, greatest⟩ := Finset.exists_max_image (db.validPoints id).toFinset
    LocationPoint.recordedAt (List.toFinset_nonempty_iff _ |>.mpr occupied)
  exact ⟨row, List.mem_toFinset.mp member,
    fun other inPoints => greatest other (List.mem_toFinset.mpr inPoints)⟩

/-! ## Calls of the environment -/

/-- What Redis may answer for a driver. -/
def Reads (supplied : Input → Prop) (driverId : Uuid) (db : Db) (seen : Option CachedText) :
    Prop :=
  ∃ input, supplied input ∧ seen = (db.latest driverId).bind (CacheEntry.at input.now)

variable {supplied : Input → Prop} {driverId : Uuid} {before after : Db}

/-- What was read of the cache stays a reading where the cached positions are the same. -/
theorem Reads.mono {other : Db} {seen : Option CachedText} (same : other.latest = before.latest)
    (reads : Reads supplied driverId other seen) : Reads supplied driverId before seen := by
  rw [Reads, same] at reads
  exact reads

/-- Where every input has a connection, the GET answers one of the readings of the position. -/
theorem get_runs (connected : ∀ input, supplied input → input.connected = true)
    {result : Except Failure (Option CachedText)}
    (runs : (liftM (RedisService.get driverId) : Proc tracking _).Runs supplied before result
      after) :
    ∃ seen, Reads supplied driverId before seen ∧ result = .ok seen ∧ after = before := by
  rcases Proc.runs_lift.mp runs with
    ⟨input, seen, writes, given, executed, rfl, rfl⟩ | ⟨input, error, given, failed, _, _⟩
  · obtain ⟨rfl, rfl⟩ := RedisService.get_succeeds.mp executed
    exact ⟨_, ⟨input, given, if_pos (connected input given)⟩, rfl, rfl⟩
  · cases failed

/-- Some call on the database fails. -/
def Faulty (supplied : Input → Prop) : Prop :=
  ∃ input failure, supplied input ∧ input.fault = some failure

/-- Only a faulty input makes a plain query throw. -/
theorem faulty_of_query {β : Type} {read : Db → β} {error : Failure}
    (runs : (liftM (select read) : Proc tracking β).Runs supplied before (.error error) after) :
    Faulty supplied := by
  rcases Proc.runs_lift.mp runs with
    ⟨input, value, writes, given, executed, impossible, _⟩ | ⟨input, failure, given, failed, _, _⟩
  · cases impossible
  · refine ⟨input, failure, given, ?_⟩
    cases fault : input.fault with
    | none => simp [select, query, fault] at failed
    | some other =>
        simp only [select, query, fault, Except.error.injEq] at failed
        rw [failed]

/-- Only a faulty input makes the saving of the record throw; a taken key is swallowed. -/
theorem saveRecord_faulty {endpoint : String} {result : TelemetryIngestionResult}
    {key : Option Uuid} {error : Failure}
    (runs : (TrackingService.saveRecord driverId endpoint result key).Runs supplied before
      (.error error) after) : Faulty supplied := by
  cases key with
  | none =>
      obtain ⟨impossible, _⟩ := Proc.runs_pure.mp runs
      cases impossible
  | some key =>
      rcases Proc.runs_bind.mp runs with ⟨user, middle, _, saved⟩ | ⟨failure, failed, _⟩
      · cases user with
        | none =>
            obtain ⟨impossible, _⟩ := Proc.runs_pure.mp saved
            cases impossible
        | some user =>
            rcases Proc.runs_tryCatch.mp saved with ⟨_, _, impossible⟩ | ⟨_, _, _, handled⟩
            · cases impossible
            · obtain ⟨impossible, _⟩ := Proc.runs_pure.mp handled
              cases impossible
      · exact faulty_of_query failed

variable [DateText]

/-- What `setLatestLocation` does to the cached locations. -/
inductive Cached (driverId : Uuid) (payload : CachedLocationData)
    (before after : Uuid → Option CacheEntry) (seen : Option CachedText) : Prop where
  | late (outOfOrder : TrackingCacheService.outOfOrder seen payload = true)
      (same : after = before)
  | newer (inOrder : TrackingCacheService.outOfOrder seen payload = false) (expiresAt : Int)
      (now : after = fun other =>
        if other = driverId then some ⟨.json payload, expiresAt⟩ else before other)

/-- An update of the cache either changes nothing or stores the payload after an older reading. -/
theorem setLatestLocation_runs (connected : ∀ input, supplied input → input.connected = true)
    {payload : CachedLocationData} {result : Except Failure Bool}
    (runs : (TrackingCacheService.setLatestLocation driverId payload).Runs supplied before result
      after) :
    (∃ answer, result = .ok answer) ∧ after.locationPoints = before.locationPoints ∧
      after.drivers = before.drivers ∧ after.deliveries = before.deliveries ∧
      ∃ seen, Reads supplied driverId before seen ∧
        Cached driverId payload before.latest after.latest seen := by
  rw [TrackingCacheService.setLatestLocation] at runs
  rcases Proc.runs_bind.mp runs with ⟨seen, middle, got, rest⟩ | ⟨error, failed, _⟩
  · obtain ⟨_, reads, ⟨rfl⟩, rfl⟩ := get_runs connected got
    split at rest
    · rename_i late
      obtain ⟨rfl, rfl⟩ := Proc.runs_pure.mp rest
      exact ⟨⟨_, rfl⟩, rfl, rfl, rfl, seen, reads, .late late rfl⟩
    · rename_i inOrder
      rcases Proc.runs_bind.mp rest with ⟨_, middle, set, ended⟩ | ⟨error, failed, _⟩
      · obtain ⟨rfl, rfl⟩ := Proc.runs_pure.mp ended
        rcases Proc.runs_lift.mp set with
          ⟨input, _, writes, given, executed, _, rfl⟩ | ⟨_, _, _, failed, _, _⟩
        · obtain rfl := RedisService.set_succeeds.mp executed
          rw [if_pos (connected input given)]
          exact ⟨⟨_, rfl⟩, rfl, rfl, rfl, seen, reads,
            .newer (Bool.eq_false_of_not_eq_true inOrder) _ rfl⟩
        · cases failed
      · rcases Proc.runs_lift.mp failed with ⟨_, _, _, _, _, impossible, _⟩ | ⟨_, _, _, failed, _⟩
        · cases impossible
        · cases failed
  · obtain ⟨_, _, impossible, _⟩ := get_runs connected failed
    cases impossible

variable {K : Type} [Field K] [LinearOrder K] [Geodesy K]

/-- What a call that has stored a point has done. -/
structure Ingested (supplied : Input → Prop) (dto : LocationIngestionDto) (driverId : Uuid)
    (receivedAt : Int) (before after : Db) (row : LocationPoint) : Prop where
  accepted : rejection dto receivedAt = none
  /-- The row carries the status that the check against a cached location has given. -/
  judged : ∃ seen locationId, Reads supplied driverId before seen ∧
    row = Prisma.LocationPoint.rounded (TrackingService.locationPoint dto driverId receivedAt
      (evaluateVelocity dto seen).status locationId)
  fresh : before.locationPoints.find? (Keyed.key row) = none
  points : after.locationPoints = before.locationPoints.insert row
  /-- The cache is left alone only where a call on the database has failed. -/
  cached : (∃ seen, Reads supplied driverId before seen ∧
      Cached driverId (TrackingService.cachedLocation dto driverId receivedAt)
        before.latest after.latest seen) ∨
    after.latest = before.latest ∧ Faulty supplied
  drivers : after.drivers = before.drivers
  deliveries : after.deliveries = before.deliveries

/-- What was ingested from a state that differs only in what is spared was ingested from the
state before. -/
theorem Ingested.after_spared {dto : LocationIngestionDto} {receivedAt : Int} {middle : Db}
    {row : LocationPoint} (spared : Spared before middle)
    (ingested : Ingested supplied dto driverId receivedAt middle after row) :
    Ingested supplied dto driverId receivedAt before after row where
  accepted := ingested.accepted
  judged := by
    obtain ⟨seen, locationId, reads, same⟩ := ingested.judged
    exact ⟨seen, locationId, reads.mono spared.latest, same⟩
  fresh := spared.points ▸ ingested.fresh
  points := spared.points ▸ ingested.points
  cached := by
    rw [← spared.latest]
    exact ingested.cached.imp_left fun ⟨seen, reads, updated⟩ =>
      ⟨seen, reads.mono spared.latest, updated⟩
  drivers := ingested.drivers.trans spared.drivers
  deliveries := ingested.deliveries.trans spared.deliveries

/-- The rows after an ingestion are those before it and its own. -/
theorem Ingested.mem_rows {dto : LocationIngestionDto} {receivedAt : Int}
    {row other : LocationPoint}
    (ingested : Ingested supplied dto driverId receivedAt before after row) :
    other ∈ after.locationPoints.rows ↔ other ∈ before.locationPoints.rows ∨ other = row := by
  rw [ingested.points]
  exact Table.mem_insert ingested.fresh

/-- What a call that runs alone does: it stores one point, or none. -/
def Outcome (supplied : Input → Prop) (dto : LocationIngestionDto) (driverId : Uuid)
    (receivedAt : Int) (before after : Db) : Prop :=
  Spared before after ∨ ∃ row, Ingested supplied dto driverId receivedAt before after row

/-- A part of a call that stores nothing, and what follows it. -/
theorem Outcome.next {β : Type} {first : Proc tracking β}
    {rest : β → Proc tracking TelemetryIngestionResult} {dto : LocationIngestionDto}
    {receivedAt : Int} {result : Except Failure TelemetryIngestionResult}
    (commits : first.Commits sparing)
    (continued : ∀ value middle, Spared before middle →
      first.Runs supplied before (.ok value) middle →
        (rest value).Runs supplied middle result after →
          Outcome supplied dto driverId receivedAt middle after)
    (runs : (first >>= rest).Runs supplied before result after) :
    Outcome supplied dto driverId receivedAt before after := by
  rcases Proc.runs_bind.mp runs with ⟨value, middle, ran, ended⟩ | ⟨error, failed, _⟩
  · have spared := spared_of_runs commits ran
    rcases continued value middle spared ran ended with later | ⟨row, ingested⟩
    · exact .inl (spared.trans later)
    · exact .inr ⟨row, ingested.after_spared spared⟩
  · exact .inl (spared_of_runs commits failed)

/-- What follows the insertion of a point: the record, the cache and the broadcast. -/
theorem stored_runs (connected : ∀ input, supplied input → input.connected = true)
    {dto : LocationIngestionDto} {receivedAt : Int} {endpoint : String}
    {answer : TelemetryIngestionResult} {result : Except Failure TelemetryIngestionResult}
    (runs : (do
      TrackingService.saveRecord driverId endpoint answer dto.idempotencyKey
      let _ ← TrackingCacheService.setLatestLocation driverId
        (TrackingService.cachedLocation dto driverId receivedAt)
      TrackingService.broadcast dto driverId receivedAt answer.validationStatus
      return answer : Proc tracking _).Runs supplied before result after) :
    after.locationPoints = before.locationPoints ∧ after.drivers = before.drivers ∧
      after.deliveries = before.deliveries ∧
      ((∃ seen, Reads supplied driverId before seen ∧
          Cached driverId (TrackingService.cachedLocation dto driverId receivedAt) before.latest
            after.latest seen) ∨
        after.latest = before.latest ∧ Faulty supplied) := by
  have recording : (TrackingService.saveRecord driverId endpoint answer
      dto.idempotencyKey).Commits sparing :=
    saveRecord_commits sparing_allowed sparing_nil _ _ _ _ sparing_create
  have sending := broadcast_commits sparing_allowed sparing_nil dto driverId receivedAt
    answer.validationStatus sparing_emits
  rcases Proc.runs_bind.mp runs with ⟨_, recorded, saved, rest⟩ | ⟨error, failed, _⟩
  swap
  · have spared := spared_of_runs recording failed
    exact ⟨spared.points, spared.drivers, spared.deliveries, .inr
      ⟨spared.latest, saveRecord_faulty failed⟩⟩
  have spared := spared_of_runs recording saved
  rcases Proc.runs_bind.mp rest with ⟨_, cached, set, sent⟩ | ⟨error, failed, _⟩
  swap
  · obtain ⟨⟨_, impossible⟩, _⟩ := setLatestLocation_runs connected failed
    cases impossible
  obtain ⟨_, points, drivers, deliveries, seen, reads, updated⟩ :=
    setLatestLocation_runs connected set
  have last : Spared cached after :=
    spared_of_runs (sending.bind fun _ => Proc.Commits.pure answer) sent
  refine ⟨last.points.trans (points.trans spared.points),
    last.drivers.trans (drivers.trans spared.drivers),
    last.deliveries.trans (deliveries.trans spared.deliveries), .inl ⟨seen, ?_, ?_⟩⟩
  · exact reads.mono spared.latest
  · rwa [last.latest, ← spared.latest]

/-- The validation reads, and its result is that of one reading of the cache. -/
theorem validateSinglePoint_runs (connected : ∀ input, supplied input → input.connected = true)
    {dto : LocationIngestionDto} {receivedAt : Int} {answer : LocationValidationResult K}
    (runs : (LocationValidationService.validateSinglePoint dto driverId receivedAt).Runs supplied
      before (.ok answer) after) :
    answer.valid = false ∨ rejection dto receivedAt = none ∧
      ∃ seen, Reads supplied driverId before seen ∧ answer = evaluateVelocity dto seen := by
  rw [LocationValidationService.validateSinglePoint] at runs
  split at runs
  · obtain ⟨⟨rfl⟩, _⟩ := Proc.runs_pure.mp runs
    exact .inl rfl
  · rename_i accepted
    obtain ⟨seen, got, rfl⟩ := Proc.returns_map.mp runs
    obtain ⟨_, reads, ⟨rfl⟩, _⟩ := get_runs connected got
    exact .inr ⟨accepted, seen, reads, rfl⟩

/-- One ingestion, run alone, has one of its three outcomes. -/
theorem ingest_runs (connected : ∀ input, supplied input → input.connected = true)
    {dto : LocationIngestionDto} {receivedAt : Int} {endpoint : String}
    {skipSingleRateLimit : Bool} {result : Except Failure TelemetryIngestionResult}
    (runs : (TrackingService.ingest dto driverId receivedAt endpoint skipSingleRateLimit).Runs
      supplied before result after) : Outcome supplied dto driverId receivedAt before after := by
  rw [TrackingService.ingest] at runs
  refine Outcome.next (enforceRateLimit_commits sparing_allowed sparing_nil _ _) ?_ runs
  intro _ limited _ _ rest
  refine Outcome.next (validateSinglePoint_commits sparing_allowed sparing_nil _ _ _) ?_ rest
  intro valResult validated spared judged guarded
  refine Outcome.next (Proc.Commits.rejectIf _ _) ?_ guarded
  intro _ checked same passed storing
  obtain ⟨valid, rfl⟩ := Proc.returns_rejectIf.mp passed
  obtain ⟨accepted, seen, reads, rfl⟩ :=
    (validateSinglePoint_runs connected judged).resolve_left valid
  rcases Proc.runs_bind.mp storing with ⟨locationId, inserted, put, stored⟩ | ⟨error, failed, _⟩
  · rcases Proc.runs_lift.mp put with
      ⟨input, id, writes, given, executed, ⟨rfl⟩, rfl⟩ | ⟨_, _, _, _, impossible, _⟩
    · obtain ⟨_, _, _, _, _, fresh, rfl⟩ := Prisma.LocationPoint.insert_succeeds.mp executed
      obtain ⟨points, drivers, deliveries, cached⟩ := stored_runs connected stored
      exact .inr ⟨_, accepted, ⟨seen, locationId, reads.mono spared.latest.symm, rfl⟩, fresh, points,
        cached, drivers, deliveries⟩
    · cases impossible
  · rcases Proc.runs_lift.mp failed with ⟨_, _, _, _, _, impossible, _⟩ | ⟨_, _, _, _, _, rfl⟩
    · cases impossible
    · exact .inl (Spared.refl _)

/-- One call of either channel, run alone, has one of the three outcomes. -/
theorem TelemetryCall.process_runs (connected : ∀ input, supplied input → input.connected = true)
    {call : TelemetryCall} {result : Except Failure TelemetryIngestionResult}
    (runs : (call.process driverId).Runs supplied before result after) :
    Outcome supplied call.dto driverId call.receivedAt before after := by
  rw [TelemetryCall.process, TrackingService.processTelemetry] at runs
  refine Outcome.next (Proc.Commits.rejectIf _ _) ?_ runs
  intro _ _ _ _ rest
  refine Outcome.next (Proc.Commits.require _ _) ?_ rest
  intro id driven _ found rest
  obtain ⟨⟨rfl⟩, _⟩ := Proc.returns_require.mp found
  refine Outcome.next (verifyDelivery_commits sparing_allowed sparing_nil _ _) ?_ rest
  intro _ _ _ _ rest
  refine Outcome.next (existingRecord_commits sparing_allowed sparing_nil _ _ _) ?_ rest
  intro existing _ _ _ rest
  cases existing with
  | none => exact ingest_runs connected rest
  | some record =>
      exact .inl (spared_of_runs (replay_commits sparing_allowed sparing_nil _) rest)

/-! ## Calls one after another -/

/-- A call as it ran, with a time by which it had ended. -/
structure Visit where
  call : TelemetryCall
  endedAt : Int
  before : Db
  after : Db

/-- Calls for a driver that run one after another; `allowed` is what the environment may supply
to a call that starts on a store. -/
inductive Visits (allowed : Db → Input → Prop) (driverId : Uuid) (start : Db) :
    List Visit → Db → Prop where
  | refl : Visits allowed driverId start [] start
  | step {visits : List Visit} {visit : Visit} {result : Except Failure TelemetryIngestionResult}
      (prior : Visits allowed driverId start visits visit.before)
      (ran : Proc.Runs
        (fun input : Input => allowed visit.before input ∧ input.now ≤ visit.endedAt)
        (visit.call.process driverId) visit.before result visit.after) :
      Visits allowed driverId start (visits ++ [visit]) visit.after

/-- A call that runs alone on one input for all its steps. -/
def TelemetryCall.visit (call : TelemetryCall) (driverId : Uuid) (input : Input) (before : Db) :
    Visit where
  call := call
  endedAt := input.now
  before := before
  after := ((call.process driverId).run (fun _ _ => input) before).2

section Runs

variable {allowed : Db → Input → Prop} {start final : Db} {visits : List Visit}

/-- What holds at the start and after every call holds at the end. -/
theorem Visits.at_final (holds : Db → Prop) (run : Visits allowed driverId start visits final)
    (initially : holds start) (each : ∀ visit ∈ visits, holds visit.after) : holds final := by
  cases run with
  | refl => exact initially
  | step prior ran => exact each _ (List.mem_append_right _ List.mem_cons_self)

/-- A property of all states of a run is as good as a property of its calls, if each call
keeps the one exactly if it has the other. -/
theorem Visits.all_iff (holds : Db → Prop) (good : Visit → Prop)
    (run : Visits allowed driverId start visits final) (initially : holds start)
    (step : ∀ visit : Visit, holds visit.before →
      Outcome (fun input => allowed visit.before input ∧ input.now ≤ visit.endedAt)
        visit.call.dto driverId visit.call.receivedAt visit.before visit.after →
          (holds visit.after ↔ good visit))
    (connected : ∀ db input, allowed db input → input.connected = true) :
    (∀ visit ∈ visits, holds visit.after) ↔ ∀ visit ∈ visits, good visit := by
  induction run with
  | refl => simp
  | @step visits visit result prior ran inductionHypothesis =>
      have outcome := TelemetryCall.process_runs (fun input given => connected _ input given.1) ran
      simp only [List.forall_mem_append, List.forall_mem_singleton]
      rw [← inductionHypothesis]
      refine and_congr_right fun before => ?_
      exact step visit (prior.at_final holds initially before) outcome

/-- What each call keeps holds after every call. -/
theorem Visits.all (holds : Db → Prop) (run : Visits allowed driverId start visits final)
    (initially : holds start)
    (step : ∀ visit ∈ visits, holds visit.before →
      Outcome (fun input => allowed visit.before input ∧ input.now ≤ visit.endedAt)
        visit.call.dto driverId visit.call.receivedAt visit.before visit.after → holds visit.after)
    (connected : ∀ db input, allowed db input → input.connected = true) :
    ∀ visit ∈ visits, holds visit.after := by
  induction run with
  | refl => exact List.forall_mem_nil _
  | @step visits visit result prior ran inductionHypothesis =>
      have outcome := TelemetryCall.process_runs (fun input given => connected _ input given.1) ran
      have earlier := inductionHypothesis fun other member =>
        step other (List.mem_append_left _ member)
      refine List.forall_mem_append.mpr ⟨earlier, List.forall_mem_singleton.mpr ?_⟩
      exact step visit (List.mem_append_right _ List.mem_cons_self)
        (prior.at_final holds initially earlier) outcome

/-- The visits grow by the visit of the call that comes next. -/
theorem Visits.visit (prior : Visits allowed driverId start visits before) {input : Input}
    (given : allowed before input) (call : TelemetryCall) :
    Visits allowed driverId start (visits ++ [call.visit driverId input before])
      (call.visit driverId input before).after := by
  have ran : Proc.Runs (fun other : Input => allowed before other ∧ other.now ≤ input.now)
      (call.process driverId) before ((call.process driverId).run (fun _ _ => input) before).1
      ((call.process driverId).run (fun _ _ => input) before).2 := by
    apply Proc.runs_run
    intro step index
    exact ⟨given, le_refl input.now⟩
  apply Visits.step
  · exact prior
  · exact ran

end Runs

end Armada.Tracking
