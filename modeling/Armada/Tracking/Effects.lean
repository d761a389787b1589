import Armada.Concurrency.Sequential
import Armada.Concurrency.Turns
import Armada.Tracking.TrackingService

/-!
# What the parts of an ingestion write

Only the insertion of a point, the record of its key, the cache and the broadcast write
anything. The lemmas on the parts of `processTelemetry` hold under any discipline that allows
calls with harmless writes; what is harmless is a parameter.
-/

namespace Armada.Tracking

open Concurrency

universe u

section Parts

variable {H : Type u} {discipline : Discipline tracking H} {harmless : List Write → Prop}
  (allowed : ∀ {β : Type} {statement : Statement tracking β},
    (∀ input before value writes, statement.Succeeds input before value writes →
      harmless writes) → (liftM statement : Proc tracking β).Commits discipline)
  (none : harmless [])

include allowed none

/-- A read commits nothing. -/
theorem select_commits {β : Type} (read : Db → β) :
    (liftM (select read) : Proc tracking β).Commits discipline :=
  allowed fun _ _ _ _ executed => (select_succeeds.mp executed).2.2 ▸ none

/-- The delivery check commits nothing. -/
theorem verifyDelivery_commits (driverId : Uuid) (deliveryId : Option IdText) :
    (TrackingService.verifyDelivery driverId deliveryId).Commits discipline := by
  cases deliveryId with
  | none => exact Proc.Commits.pure ()
  | some deliveryId =>
      refine (select_commits allowed none _).bind fun found => ?_
      exact (Proc.Commits.require _ _).bind fun delivery => Proc.Commits.rejectIf _ _

/-- The look for a stored answer commits nothing. -/
theorem existingRecord_commits (driverId : Uuid) (endpoint : String) (key : Option Uuid) :
    (TrackingService.existingRecord driverId endpoint key).Commits discipline := by
  cases key with
  | none => exact Proc.Commits.pure _
  | some key =>
      refine (select_commits allowed none _).bind fun user => ?_
      cases user with
      | none => exact Proc.Commits.pure _
      | some user => exact select_commits allowed none _

/-- A replayed answer commits nothing. -/
theorem replay_commits (body : ResponseBody) :
    (liftM (TrackingService.replay body) : Proc tracking _).Commits discipline :=
  allowed fun _ _ _ _ executed => by
    cases executed
    exact none

/-- The rate limit commits nothing the tables see. -/
theorem enforceRateLimit_commits (driverId : Uuid) (skipSingleRateLimit : Bool) :
    (TrackingService.enforceRateLimit driverId skipSingleRateLimit).Commits discipline := by
  refine Proc.Commits.ite (Proc.Commits.pure ()) ?_
  have counts : (liftM (RedisService.incrRateLimit s!"throttle:location:driver:{driverId}" 1) :
      Proc tracking _).Commits discipline :=
    allowed fun _ _ _ _ executed => (RedisService.incrRateLimit_succeeds.mp executed).2 ▸ none
  exact counts.bind fun _ => Proc.Commits.rejectIf _ _

/-- A GET commits nothing. -/
theorem get_commits (driverId : Uuid) :
    (liftM (RedisService.get driverId) : Proc tracking _).Commits discipline :=
  allowed fun _ _ _ _ executed => (RedisService.get_succeeds.mp executed).2 ▸ none

/-- An update of the cache commits at most the SET of the payload. -/
theorem setLatestLocation_commits [DateText] (driverId : Uuid) (payload : CachedLocationData)
    (sets : ∀ entry, harmless [.setLatest driverId entry]) :
    (TrackingCacheService.setLatestLocation driverId payload).Commits discipline := by
  refine (get_commits allowed none driverId).bind fun existingRaw => ?_
  refine Proc.Commits.ite (Proc.Commits.pure _) ?_
  have set : (liftM (RedisService.set driverId (.json payload)
      TrackingCacheService.cacheTtlSeconds) : Proc tracking _).Commits discipline :=
    allowed fun _ _ _ writes executed => by
      obtain rfl := RedisService.set_succeeds.mp executed
      split
      · exact sets _
      · exact none
  exact set.bind fun _ => Proc.Commits.pure _

/-- A broadcast commits its emissions at most. -/
theorem broadcast_commits (dto : LocationIngestionDto) (driverId : Uuid) (receivedAt : Int)
    (status : ValidationStatus)
    (emits : ∀ emissions : List Emission, harmless (emissions.map Write.emit)) :
    (TrackingService.broadcast dto driverId receivedAt status).Commits discipline := by
  refine Proc.Commits.ite ?_ (Proc.Commits.pure ())
  refine (select_commits allowed none _).bind fun user => allowed fun _ _ _ writes executed => ?_
  obtain rfl := RealtimeGateway.emit_succeeds.mp executed
  have mapped := emits ((.fleetMonitoring :: (dto.deliveryId.map Room.delivery).toList).map
    fun room => ⟨room, "driver.location.updated",
      TrackingService.cachedLocation dto driverId receivedAt, user.map Driver.userId,
      (user.map Driver.userRole).getD .driver, driverId⟩)
  rwa [List.map_map] at mapped

/-- The saving of the record commits at most one record. -/
theorem saveRecord_commits (driverId : Uuid) (endpoint : String)
    (result : TelemetryIngestionResult) (key : Option Uuid)
    (creates : ∀ row, harmless [.createRecord row]) :
    (TrackingService.saveRecord driverId endpoint result key).Commits discipline := by
  cases key with
  | none => exact Proc.Commits.pure ()
  | some key =>
      refine (select_commits allowed none _).bind fun user => ?_
      cases user with
      | none => exact Proc.Commits.pure ()
      | some user =>
          refine Proc.Commits.tryCatch (allowed fun _ _ _ writes executed => ?_) fun _ =>
            Proc.Commits.pure ()
          obtain ⟨_, _, rfl⟩ := Prisma.IdempotencyRecord.create_succeeds.mp executed
          exact creates _

variable [DateText] {K : Type} [Field K] [LinearOrder K] [Geodesy K]

/-- The validation of a point commits nothing. -/
theorem validateSinglePoint_commits (dto : LocationIngestionDto) (driverId : Uuid)
    (receivedAt : Int) :
    (LocationValidationService.validateSinglePoint dto driverId receivedAt).Commits
      discipline := by
  rw [LocationValidationService.validateSinglePoint]
  split
  · exact Proc.Commits.pure _
  · exact (get_commits allowed none driverId).map _

end Parts

/-! ## Writes that touch only the cache and the sockets -/

/-- A write to the cache or to the sockets. -/
def Write.inert : Write → Bool
  | .insertPoint _ => false
  | .createRecord _ => false
  | .setLatest _ _ => true
  | .emit _ => true

/-- No write of the list touches a row. -/
def Inert (writes : List Write) : Prop := ∀ write ∈ writes, write.inert = true

/-- No writes touch no row. -/
theorem inert_nil : Inert [] := List.forall_mem_nil _

/-- Emissions touch no row. -/
theorem inert_emits (emissions : List Emission) : Inert (emissions.map Write.emit) := by
  intro write member
  obtain ⟨emission, _, rfl⟩ := List.mem_map.mp member
  rfl

/-- The SET of a position touches no row. -/
theorem inert_setLatest {driverId : Uuid} (entry : CacheEntry) :
    Inert [.setLatest driverId entry] :=
  List.forall_mem_singleton.mpr rfl

/-- Writes that touch no row leave the drivers and the stored answers as they are. -/
theorem Inert.applyAll {writes : List Write} (inert : Inert writes) (db : Db) :
    (tracking.applyAll writes db).drivers = db.drivers ∧
      (tracking.applyAll writes db).idempotencyRecords = db.idempotencyRecords := by
  induction writes generalizing db with
  | nil => exact ⟨rfl, rfl⟩
  | cons write writes inductionHypothesis =>
      obtain ⟨first, others⟩ := List.forall_mem_cons.mp inert
      rw [tracking.applyAll_cons]
      obtain ⟨drivers, records⟩ := inductionHypothesis others (tracking.apply write db)
      rw [drivers, records]
      cases write with
      | insertPoint row => cases first
      | createRecord row => cases first
      | setLatest driverId entry => exact ⟨rfl, rfl⟩
      | emit emission => exact ⟨rfl, rfl⟩

/-- Where inert turns are always allowed, so are calls with inert writes. -/
theorem inert_allowed {supplied : Concurrency.Turn tracking → Prop} {thread : Nat}
    {guar : List (Concurrency.Turn tracking) → Concurrency.Turn tracking → Prop}
    (quiet : ∀ history turn, Inert turn.writes → guar history turn) {β : Type}
    {statement : Statement tracking β}
    (inert : ∀ input before value writes, statement.Succeeds input before value writes →
      Inert writes) :
    (liftM statement : Proc tracking β).Commits (.turns supplied thread guar) :=
  Proc.Commits.harmless Inert quiet inert_nil inert

/-! ## Calls that run alone and keep the points and the cache -/

/-- Neither a point nor a cached location has changed. -/
structure Spared (before after : Db) : Prop where
  points : after.locationPoints = before.locationPoints
  latest : after.latest = before.latest
  drivers : after.drivers = before.drivers
  deliveries : after.deliveries = before.deliveries

/-- A state spares itself. -/
theorem Spared.refl (db : Db) : Spared db db := ⟨rfl, rfl, rfl, rfl⟩

/-- Sparing is transitive. -/
theorem Spared.trans {first second third : Db} (before : Spared first second)
    (after : Spared second third) : Spared first third where
  points := after.points.trans before.points
  latest := after.latest.trans before.latest
  drivers := after.drivers.trans before.drivers
  deliveries := after.deliveries.trans before.deliveries

/-- Writes after which points and cache are as before. -/
def Sparing (writes : List Write) : Prop := ∀ db, Spared db (tracking.applyAll writes db)

/-- No writes spare everything. -/
theorem sparing_nil : Sparing [] := Spared.refl

/-- The creation of a record spares what the ingestion reads. -/
theorem sparing_create (row : IdempotencyRecord) : Sparing [.createRecord row] :=
  fun _ => ⟨rfl, rfl, rfl, rfl⟩

/-- Emissions spare what the ingestion reads. -/
theorem sparing_emits (emissions : List Emission) : Sparing (emissions.map Write.emit) := by
  intro db
  induction emissions generalizing db with
  | nil => exact Spared.refl db
  | cons emission emissions inductionHypothesis =>
      have first : Spared db (tracking.apply (.emit emission) db) := ⟨rfl, rfl, rfl, rfl⟩
      exact first.trans (inductionHypothesis _)

/-- What calls that run alone may write. -/
abbrev sparing : Discipline tracking Db := .atomic Eq fun writes _ => Sparing writes

/-- A statement whose successes all spare commits only what spares. -/
theorem sparing_allowed {β : Type} {statement : Statement tracking β}
    (each : ∀ input before value writes, statement.Succeeds input before value writes →
      Sparing writes) : (liftM statement : Proc tracking β).Commits sparing :=
  Proc.Commits.statement (fun _ => sparing_nil)
    fun state input value writes executed => each input state value writes executed

/-- What a run of such a body leaves is spared. -/
theorem spared_of_runs {α : Type} {process : Proc tracking α} (commits : process.Commits sparing)
    {supplied : Input → Prop} {before after : Db} {result : Except Failure α}
    (runs : process.Runs supplied before result after) : Spared before after :=
  commits.of_runs (fun _ => rfl) (Spared before)
    (fun _ state spares kept => kept.trans (spares state)) runs (Spared.refl before)

end Armada.Tracking
