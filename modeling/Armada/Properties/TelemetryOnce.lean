import Armada.Concurrency.LateRecord
import Armada.Tracking.Effects

/-!
# Points that are sent again

`processTelemetry` looks for the record of its key, inserts the point and saves the record,
one after the other and under a key that names the endpoint. So calls over one endpoint store
a point once if each looks only when those that have looked before have saved their record.
-/

namespace Armada.Tracking

open Relational Concurrency
open Concurrency.Turn (writes_of_error writes_of_succeeds)

/-! ## The protocol of a key -/

namespace TelemetryCall

variable {driverId key : Uuid}

/-- The turn inserts a point with this id. -/
def Inserts (turn : Concurrency.Turn tracking) (id : Option Uuid) : Prop :=
  ∃ row, .insertPoint row ∈ turn.writes ∧ id = some row.id

/-- The turn looks for the record of the key of the driver's user. -/
def Looks (driverId key : Uuid) (channel : TelemetryChannel)
    (turn : Concurrency.Turn tracking) : Prop :=
  ∃ user, turn.before.driver? driverId = some user ∧
    turn.Performs (Prisma.IdempotencyRecord.findUnique ⟨key, user.userId, channel.endpoint⟩)

/-- The turn saves a record. -/
def Saves (turn : Concurrency.Turn tracking) : Prop := ∃ row, .createRecord row ∈ turn.writes

/-- There is a record of the key of the driver's user. -/
def Recorded (driverId key : Uuid) (channel : TelemetryChannel) (db : Db) : Prop :=
  ∀ user, db.driver? driverId = some user →
    db.record? ⟨key, user.userId, channel.endpoint⟩ ≠ none

/-- To insert a point is the work of the calls of a driver; the record of a key of its user for
a channel holds the id of the point. -/
def record (driverId key : Uuid) (channel : TelemetryChannel) :
    LateRecord tracking (Option Uuid) where
  works := Inserts
  looks := Looks driverId key channel
  found turn := Recorded driverId key channel turn.before
  saves := Saves
  recorded := Recorded driverId key channel
  stored db id := ∃ user found, db.driver? driverId = some user ∧
    db.record? ⟨key, user.userId, channel.endpoint⟩ = some found ∧
      found.responseBody.locationId = id

/-- An answer carries the id of a point. -/
def carries (answer : TelemetryIngestionResult) (id : Option Uuid) : Prop :=
  ∀ locationId ∈ id, answer.locationId = locationId

/-- At most one point is inserted, and every answer carries its id. -/
def IngestedOnce (trace : List (Concurrency.Turn tracking))
    (final : Pool tracking TelemetryIngestionResult) : Prop :=
  Once (fun turn => ∃ id, Inserts turn id) trace ∧
    ∀ (thread : Nat) process answer, final.procs[thread]? = some process →
      process.finished = some (.ok answer) →
        ∃ turn ∈ trace, ∃ id, Inserts turn id ∧ carries answer id

variable {channel : TelemetryChannel}

/-- A turn that touches only the cache and the sockets inserts nothing. -/
theorem not_works_of_inert {turn : Concurrency.Turn tracking} (inert : Inert turn.writes) :
    ¬(record driverId key channel).Works turn := by
  rintro ⟨_, row, member, _⟩
  cases inert _ member

/-- A turn that touches no row needs no guard. -/
theorem guards_of_inert (history : List (Concurrency.Turn tracking))
    (turn : Concurrency.Turn tracking) (inert : Inert turn.writes) :
    (record driverId key channel).Guards history turn where
  works worked := absurd worked (not_works_of_inert inert)
  saves saved := by
    obtain ⟨row, member⟩ := saved
    cases inert _ member
  stores result stored := by
    obtain ⟨user, found, drives, placed, carried⟩ := stored
    obtain ⟨drivers, records⟩ := inert.applyAll turn.before
    rw [Concurrency.Turn.after, Db.driver?, drivers] at drives
    rw [Concurrency.Turn.after, Db.record?, records] at placed
    exact .inl ⟨user, found, drives, placed, carried⟩

/-- A point is inserted after a lookup that missed. -/
theorem guards_insert {history : List (Concurrency.Turn tracking)}
    {turn : Concurrency.Turn tracking}
    {row : LocationPoint} (inserted : turn.writes = [.insertPoint row])
    (none : ∀ earlier ∈ history, ¬(record driverId key channel).Works earlier)
    (missed : ∃ lookup ∈ history, (record driverId key channel).looks lookup ∧
      ¬(record driverId key channel).found lookup) :
    (record driverId key channel).Guards history turn where
  works _ := ⟨none, missed⟩
  saves saved := by
    obtain ⟨row, member⟩ := saved
    simp [inserted] at member
  stores result stored := by
    obtain ⟨user, found, drives, placed, carried⟩ := stored
    rw [Concurrency.Turn.after, inserted] at drives placed
    exact .inl ⟨user, found, drives, placed, carried⟩

/-- The record is saved under the key of the driver's user. -/
theorem guards_create {history : List (Concurrency.Turn tracking)}
    {turn : Concurrency.Turn tracking} {saved : IdempotencyRecord} {user : Driver}
    (created : turn.writes = [.createRecord saved])
    (drives : turn.before.driver? driverId = some user)
    (own : saved.keyUserEndpoint = ⟨key, user.userId, channel.endpoint⟩)
    (done : ∃ work ∈ history, Inserts work saved.responseBody.locationId) :
    (record driverId key channel).Guards history turn where
  works worked := by
    obtain ⟨_, row, member, _⟩ := worked
    simp [created] at member
  saves _ other isDriver := by
    rw [Concurrency.Turn.after, created] at isDriver ⊢
    obtain rfl : user = other := Option.some.inj (drives.symm.trans isDriver)
    change (turn.before.idempotencyRecords.insert saved).find? _ ≠ Option.none
    rw [Table.find?_insert, if_pos (show Keyed.key saved = _ from own)]
    cases turn.before.idempotencyRecords.find? ⟨key, user.userId, channel.endpoint⟩ <;> simp
  stores result stored := by
    obtain ⟨user, found, drives, placed, rfl⟩ := stored
    rw [Concurrency.Turn.after, created] at drives placed
    change (turn.before.idempotencyRecords.insert saved).find? _ = some found at placed
    rw [Table.find?_insert] at placed
    cases before : turn.before.record? ⟨key, user.userId, channel.endpoint⟩ with
    | some old =>
        rw [Db.record?] at before
        rw [before, Option.some_or, Option.some.injEq] at placed
        exact .inl ⟨user, old, drives, before, by rw [placed]⟩
    | none =>
        rw [Db.record?] at before
        rw [before, Option.none_or] at placed
        split at placed
        · obtain rfl := Option.some.inj placed
          exact .inr done
        · cases placed

variable {supplied : Concurrency.Turn tracking → Prop} {thread : Nat}

/-- A statement that touches no row commits under every guard. -/
theorem inert_commits {β : Type} {statement : Statement tracking β}
    (inert : ∀ input before value writes, statement.Succeeds input before value writes →
      Inert writes) :
    (liftM statement : Proc tracking β).Commits
      (.turns supplied thread (record driverId key channel).Guards) :=
  inert_allowed guards_of_inert inert

/-- The same, for a part of which only that is to be known. -/
theorem inert_only {β : Type} {statement : Statement tracking β}
    (inert : ∀ input before value writes, statement.Succeeds input before value writes →
      Inert writes) :
    (liftM statement : Proc tracking β).Commits
      (.turns supplied thread fun _ turn => Inert turn.writes) :=
  inert_allowed (fun _ _ inert => inert) inert

/-- After a point has been inserted its record is saved, or nothing is. -/
theorem saveRecord_meets {drivers : Table Driver} {result : TelemetryIngestionResult}
    {history : List (Concurrency.Turn tracking)}
    (done : ∃ work ∈ history, Inserts work (some result.locationId)) :
    (TrackingService.saveRecord driverId channel.endpoint result (some key)).Meets
      (.turns (fun turn : Concurrency.Turn tracking => turn.before.drivers = drivers) thread
        (record driverId key channel).Guards)
      (fun _ current => ∃ work ∈ current, Inserts work (some result.locationId)) history := by
  have lasting : ∀ later, ∃ work ∈ history ++ later, Inserts work (some result.locationId) :=
    fun later => done.imp fun work both => ⟨List.mem_append_left _ both.1, both.2⟩
  rw [TrackingService.saveRecord]
  refine Proc.Meets.next (fun inputs before error _ failure => ?_)
    fun inputs before user writes given executed => ?_
  · exact ⟨guards_of_inert _ _ (writes_of_error failure ▸ inert_nil), lasting _⟩
  obtain ⟨_, driven, rfl⟩ := select_succeeds.mp executed
  refine ⟨guards_of_inert _ _ (writes_of_succeeds _ executed ▸ inert_nil), ?_⟩
  cases user with
  | none => exact lasting _
  | some user =>
      refine Proc.Meets.tryCatch (Q := fun _ current => ∃ work ∈ current,
          Inserts work (some result.locationId))
        (Proc.Meets.call (fun inputs before error _ failure => ?_)
          fun inputs savedAt answer writes same executed => ?_)
        (fun _ _ saved => saved) fun _ _ saved => (Proc.meets_pure _ _).mpr saved
      · rw [List.append_assoc]
        exact ⟨guards_of_inert _ _ (writes_of_error failure ▸ inert_nil), lasting _⟩
      · obtain ⟨_, _, created⟩ := Prisma.IdempotencyRecord.create_succeeds.mp executed
        have drives : savedAt.driver? driverId = some user := by
          rw [driven, Db.driver?, Db.driver?, show savedAt.drivers = drivers from same,
            show before.drivers = drivers from given]
        refine ⟨guards_create ((writes_of_succeeds _ executed).trans created) drives rfl
          (lasting _), ?_⟩
        rw [List.append_assoc]
        exact lasting _

variable [DateText] {K : Type} [Field K] [LinearOrder K] [Geodesy K]

/-- What follows a lookup that missed. A driver that does not exist is not looked up, and
has no points either. -/
theorem ingest_meets {drivers : Table Driver} {dto : LocationIngestionDto}
    (keyed : dto.idempotencyKey = some key) (receivedAt : Int)
    {history : List (Concurrency.Turn tracking)}
    (inert : ∀ turn ∈ history, Inert turn.writes)
    (missed : (∃ turn : Concurrency.Turn tracking, turn.before.drivers = drivers ∧
      turn.before.driver? driverId ≠ none) →
        ∃ lookup ∈ history, (record driverId key channel).looks lookup ∧
          ¬(record driverId key channel).found lookup) :
    (TrackingService.ingest dto driverId receivedAt channel.endpoint
      channel.skipSingleRateLimit).Meets
        (.turns (fun turn : Concurrency.Turn tracking => turn.before.drivers = drivers) thread
          (record driverId key channel).Guards)
        ((record driverId key channel).Post carries) history := by
  have failed : ∀ error current,
      (record driverId key channel).Post carries (.error error) current :=
    fun _ _ => trivial
  rw [TrackingService.ingest]
  -- up to the insertion nothing but the cache and the sockets is written
  refine (enforceRateLimit_commits inert_only inert_nil _ _).nextly guards_of_inert failed
    (fun _ _ limited sofar => ?_) inert
  refine (validateSinglePoint_commits inert_only inert_nil _ _ _).nextly guards_of_inert failed
    (fun valResult _ validated sofar => ?_) sofar
  refine (Proc.Commits.rejectIf _ _).nextly guards_of_inert failed
    (fun _ current accepted sofar => ?_) sofar
  have since := limited.trans (validated.trans accepted)
  refine Proc.Meets.next (fun inputs before error _ failure => ?_)
    fun inputs before locationId writes given executed => ?_
  · exact ⟨guards_of_inert _ _ (writes_of_error failure ▸ inert_nil), trivial⟩
  have inserted := writes_of_succeeds thread executed
  obtain ⟨_, _, _, exists_, _, _, rfl⟩ := Prisma.LocationPoint.insert_succeeds.mp executed
  refine ⟨guards_insert inserted (fun earlier member => not_works_of_inert (sofar earlier member))
    ((missed ⟨_, given, exists_⟩).imp fun _ both => ⟨since.subset both.1, both.2⟩), ?_⟩
  have done : ∃ work ∈ current ++ [⟨thread, .call (Prisma.LocationPoint.insert
      (TrackingService.locationPoint dto driverId receivedAt valResult.status)), inputs, before⟩],
        Inserts work (some locationId) :=
    ⟨_, List.mem_append_right _ List.mem_cons_self, _, inserted ▸ List.mem_cons_self, rfl⟩
  dsimp only
  rw [keyed]
  refine (saveRecord_meets done).bind (fun _ _ _ => trivial) fun _ recorded saved => ?_
  refine (setLatestLocation_commits inert_commits inert_nil _ _ inert_setLatest).next failed
    fun _ _ cached => ?_
  refine (broadcast_commits inert_commits inert_nil _ _ _ _ inert_emits).next failed
    fun _ final sent => ?_
  obtain ⟨work, member, worked⟩ := saved
  refine ⟨some locationId, ?_, .inl ⟨work, (cached.trans sent).subset member, worked⟩⟩
  rintro _ ⟨⟩
  rfl

/-- A call with the key keeps to the protocol of a record that is saved afterwards. -/
theorem processTelemetry_meets {drivers : Table Driver} {dto : LocationIngestionDto}
    (keyed : dto.idempotencyKey = some key) (userRole : Role) (receivedAt : Int)
    (channel : TelemetryChannel) :
    (TrackingService.processTelemetry dto (some driverId) userRole receivedAt channel.endpoint
      channel.skipSingleRateLimit).Meets
        (.turns (fun turn : Concurrency.Turn tracking => turn.before.drivers = drivers) thread
          (record driverId key channel).Guards)
        ((record driverId key channel).Post carries) [] := by
  have failed : ∀ error current,
      (record driverId key channel).Post carries (.error error) current :=
    fun _ _ => trivial
  rw [TrackingService.processTelemetry]
  refine (Proc.Commits.rejectIf _ _).nextly guards_of_inert failed (fun _ _ _ sofar => ?_)
    (List.forall_mem_nil _)
  refine Proc.Meets.require nofun fun id same => ?_
  obtain rfl := Option.some.inj same
  refine (verifyDelivery_commits inert_only inert_nil _ _).nextly guards_of_inert failed
    (fun _ current _ sofar => ?_) sofar
  rw [keyed, TrackingService.existingRecord, Proc.meets_bind]
  refine Proc.Meets.next (fun inputs before error _ failure => ?_)
    fun inputs before user writes given executed => ?_
  · exact ⟨guards_of_inert _ _ (writes_of_error failure ▸ inert_nil), trivial⟩
  have idle := writes_of_succeeds thread executed
  obtain ⟨_, driven, rfl⟩ := select_succeeds.mp executed
  have inert := idle ▸ inert_nil
  refine ⟨guards_of_inert _ _ inert, ?_⟩
  have sofar := List.forall_mem_append.mpr ⟨sofar, List.forall_mem_singleton.mpr inert⟩
  have drives : ∀ db : Db, db.drivers = drivers → db.driver? driverId = user := by
    intro db same
    rw [driven, Db.driver?, Db.driver?, same, show before.drivers = drivers from given]
  cases user with
  | none =>
      refine ingest_meets keyed receivedAt sofar ?_
      rintro ⟨turn, same, present⟩
      exact absurd (drives turn.before same) present
  | some user =>
      refine Proc.Meets.call (fun inputs before error _ failure => ?_)
        fun lookupInputs lookedAt found writes same executed => ?_
      · exact ⟨guards_of_inert _ _ (writes_of_error failure ▸ inert_nil), trivial⟩
      have quiet := writes_of_succeeds thread executed
      obtain ⟨_, looked, rfl⟩ := Prisma.IdempotencyRecord.findUnique_succeeds.mp executed
      have present : lookedAt.driver? driverId = some user := drives lookedAt same
      have inert := quiet ▸ inert_nil
      refine ⟨guards_of_inert _ _ inert, ?_⟩
      cases found with
      | some earlier =>
          refine Proc.Meets.call (fun inputs before error _ failure => ?_)
            fun inputs before answer writes _ replayed => ?_
          · exact ⟨guards_of_inert _ _ (writes_of_error failure ▸ inert_nil), trivial⟩
          have silent := writes_of_succeeds thread replayed
          cases replayed
          refine ⟨guards_of_inert _ _ (silent ▸ inert_nil), earlier.responseBody.locationId, ?_,
            .inr ⟨_, List.mem_append_left _ (List.mem_append_right _ List.mem_cons_self), user,
              earlier, present, looked.symm, rfl⟩⟩
          intro locationId stored
          rw [Option.mem_def.mp stored]
          rfl
      | none =>
          refine ingest_meets keyed receivedAt
            (List.forall_mem_append.mpr ⟨sofar, List.forall_mem_singleton.mpr inert⟩) fun _ => ?_
          exact ⟨_, List.mem_append_right _ List.mem_cons_self, ⟨user, present, rfl⟩,
            fun found => found user present looked.symm⟩

/-- Calls for a driver that start together. -/
def pool (driverId : Uuid) (calls : List TelemetryCall) (db : Db) :
    Pool tracking TelemetryIngestionResult where
  state := db
  procs := calls.map fun call =>
    TrackingService.processTelemetry call.dto (some driverId) call.userRole call.receivedAt
      call.channel.endpoint call.channel.skipSingleRateLimit

end TelemetryCall

/-- No call of telemetry ingestion adds a driver or changes one. -/
theorem drivers_applyAll (writes : List Write) (db : Db) :
    (tracking.applyAll writes db).drivers = db.drivers := by
  induction writes generalizing db with
  | nil => rfl
  | cons write writes inductionHypothesis =>
      refine (inductionHypothesis (tracking.apply write db)).trans ?_
      cases write <;> rfl

/-- The drivers stay over a run. -/
theorem drivers_of_turns {α : Type} {start final : Pool tracking α}
    {trace : List (Concurrency.Turn tracking)}
    (turns : start.Turns trace final) :
    ∀ turn ∈ trace, turn.before.drivers = start.state.drivers := by
  have invariant := turns.steps.invariant (fun db => db.drivers = start.state.drivers) rfl
    fun commit _ before => (drivers_applyAll commit.writes commit.before).trans before
  exact fun turn member => invariant.2 turn.commit (List.mem_map_of_mem member)

open TelemetryCall

/-- Records of a key stay. -/
theorem recorded_after {turn : Concurrency.Turn tracking} {driverId key : Uuid}
    {channel : TelemetryChannel}
    (recorded : TelemetryCall.Recorded driverId key channel turn.before) :
    TelemetryCall.Recorded driverId key channel turn.after := by
  intro user drives
  rw [Concurrency.Turn.after, Db.driver?, drivers_applyAll] at drives
  have before := recorded user drives
  rw [Concurrency.Turn.after]
  generalize turn.before = db at before
  induction turn.writes generalizing db with
  | nil => exact before
  | cons write writes inductionHypothesis =>
      refine inductionHypothesis (tracking.apply write db) ?_
      cases write with
      | createRecord row =>
          change (db.idempotencyRecords.insert row).find? _ ≠ none
          obtain ⟨found, same⟩ := Option.ne_none_iff_exists'.mp before
          rw [Db.record?] at same
          simp [Table.find?_insert, same]
      | _ => exact before

section Runs

variable [DateText] {K : Type} [Field K] [LinearOrder K] [Geodesy K]

/-- Of any calls for a driver with one key over one endpoint, in any order of their steps, at
most one inserts a point and all successful ones answer with its id, if every call that looks
for the record finds those that have looked before it done: they have saved the record of the
point that they have inserted, or insert none. -/
theorem telemetry_once_of_awaited {driverId key : Uuid} {channel : TelemetryChannel}
    {calls : List TelemetryCall} (keyed : ∀ call ∈ calls, call.dto.idempotencyKey = some key)
    (oneChannel : ∀ call ∈ calls, call.channel = channel) {db : Db}
    (unrecorded : ∀ user, db.driver? driverId = some user →
      db.record? ⟨key, user.userId, channel.endpoint⟩ = none)
    {trace : List (Concurrency.Turn tracking)} {final : Pool tracking TelemetryIngestionResult}
    (turns : (pool driverId calls db).Turns trace final)
    (awaited : Awaited (fun turn => ∃ id, Inserts turn id) (Looks driverId key channel) Saves
      trace) : IngestedOnce trace final := by
  refine LateRecord.once_answered_of_awaited (record driverId key channel) turns
    (drivers_of_turns turns) ?_ ?_ (fun turn _ => recorded_after)
      (fun turn _ _ recorded => recorded) awaited
  · rintro _ ⟨user, found, drives, placed, _⟩
    cases placed.symm.trans (unrecorded user drives)
  · intro thread process found
    simp only [pool, List.getElem?_map, Option.map_eq_some_iff] at found
    obtain ⟨call, among, rfl⟩ := found
    have member := List.mem_of_getElem? among
    rw [oneChannel call member]
    exact processTelemetry_meets (keyed call member) call.userRole call.receivedAt channel

end Runs

/-! ### A point that is sent again -/

@[reducible] def morning : DateText := tableDates [("2026-09-02T08:00:00.000Z", 1788336000000)]

def driverDb : Db where
  drivers := Table.empty.insert { id := 1, userId := 2 }

def pointCall (channel : TelemetryChannel) : TelemetryCall where
  dto :=
    { latitude := -62 / 10, longitude := 1068 / 10, accuracyM := 5,
      recordedAt := "2026-09-02T08:00:00.000Z", idempotencyKey := some 99 }
  userRole := .driver
  receivedAt := 1788336001000
  channel := channel

/-- The turns of a call from its beginning to its end. -/
def pointTurns (thread : Nat) (uuid : Uuid) : List (Nat × (Nat → Input)) :=
  List.replicate 11 (thread, fun _ => { uuid, now := 1788336001000 })

/-- The turns of the example's point are those of its thread. -/
theorem thread_of_pointTurns {thread : Nat} {uuid : Uuid}
    {pool : Pool tracking TelemetryIngestionResult} {turn : Concurrency.Turn tracking}
    (member : turn ∈ (pool.perform (pointTurns thread uuid)).1) : turn.thread = thread :=
  congrArg Prod.fst (List.eq_of_mem_replicate (Pool.mem_perform member))

/-- Two calls over one endpoint. -/
def retriedPool : Pool tracking TelemetryIngestionResult :=
  @pool morning ℚ _ _ onePlace 1 [pointCall .socket, pointCall .socket] driverDb

/-- The first of the calls runs. -/
def firstRun : List (Concurrency.Turn tracking) × Pool tracking TelemetryIngestionResult :=
  retriedPool.perform (pointTurns 0 30)

/-- Then the second. -/
def retryRun : List (Concurrency.Turn tracking) × Pool tracking TelemetryIngestionResult :=
  firstRun.2.perform (pointTurns 1 31)

/-- The retry is a run. -/
theorem retry_turns : retriedPool.Turns (firstRun.1 ++ retryRun.1) retryRun.2 := by
  have one := Pool.perform_turns (pointTurns 0 30) retriedPool
  have two := Pool.perform_turns (pointTurns 1 31) firstRun.2
  exact one.trans two

/-- Whether a record is saved. -/
def savesRecord (writes : List Write) : Bool :=
  writes.any fun
    | .createRecord _ => true
    | _ => false

/-- A turn that saves the record is one of those that save. -/
theorem saves_of_savesRecord {turn : Concurrency.Turn tracking}
    (saves : savesRecord turn.writes = true) : Saves turn := by
  obtain ⟨write, member, isCreate⟩ := List.any_eq_true.mp saves
  cases write with
  | createRecord row => exact ⟨row, member⟩
  | insertPoint row => cases isCreate
  | setLatest driverId entry => cases isCreate
  | emit emission => cases isCreate

/-- The id that a call has answered with, and whether it says that the point is not new. -/
def answered (pool : Pool tracking TelemetryIngestionResult)
    (thread : Nat) : Option (Uuid × Bool) :=
  match pool.procs[thread]?.bind Proc.finished with
  | some (.ok answer) => some (answer.locationId, answer.idempotent)
  | some (.error _) => none
  | none => none

/-- The retry comes after the record of the first call. -/
theorem retry_awaited :
    Awaited (fun turn => ∃ id, Inserts turn id) (Looks 1 99 .socket) Saves
      (firstRun.1 ++ retryRun.1) := by
  have own : ∀ turn ∈ firstRun.1, turn.thread = 0 := fun turn => thread_of_pointTurns
  have ownAgain : ∀ turn ∈ retryRun.1, turn.thread = 1 := fun turn => thread_of_pointTurns
  have saved : (firstRun.1.any fun turn => savesRecord turn.writes) = true := by decide +kernel
  obtain ⟨save, among, saves⟩ := List.any_eq_true.mp saved
  refine (awaited_of_thread own).append (awaited_of_thread ownAgain) ?_ fun work member _ => ?_
  · intro turn member later memberToo
    rw [own turn member, ownAgain later memberToo]
    decide
  · exact ⟨save, among, (own save among).trans (own work member).symm, saves_of_savesRecord saves⟩

/-- A point is sent, and sent again when the answer is lost: it is stored once, and the second
answer is the one on record. -/
theorem telemetry_once_of_awaited_of_retry :
    IngestedOnce (firstRun.1 ++ retryRun.1) retryRun.2 ∧
      answered firstRun.2 0 = some (30, false) ∧ answered retryRun.2 1 = some (30, true) := by
  have keyed : ∀ call ∈ [pointCall .socket, pointCall .socket],
      call.dto.idempotencyKey = some 99 := by simp [pointCall]
  have oneChannel : ∀ call ∈ [pointCall .socket, pointCall .socket], call.channel = .socket := by
    simp [pointCall]
  refine ⟨@telemetry_once_of_awaited morning ℚ _ _ onePlace 1 99 .socket _ keyed oneChannel
    driverDb (fun _ _ => rfl) _ _ retry_turns retry_awaited, ?_⟩
  exact ⟨by decide +kernel, by decide +kernel⟩

/-! ### A point that is sent over two endpoints -/

/-- Whether a point is inserted. -/
def insertsPoint (writes : List Write) : Bool :=
  writes.any fun
    | .insertPoint _ => true
    | _ => false

/-- A turn that inserts a point is one of those that insert. -/
theorem inserts_of_insertsPoint (turn : Concurrency.Turn tracking)
    (inserts : insertsPoint turn.writes = true) : ∃ id, Inserts turn id := by
  obtain ⟨write, member, isInsert⟩ := List.any_eq_true.mp inserts
  cases write with
  | insertPoint row => exact ⟨_, row, member, rfl⟩
  | createRecord row => cases isInsert
  | setLatest driverId entry => cases isInsert
  | emit emission => cases isInsert

/-- A point that is sent over the socket and again in a batch is stored twice. -/
theorem telemetry_not_once :
    ¬∀ (driverId key : Uuid) (calls : List TelemetryCall) (db : Db)
        (trace : List (Concurrency.Turn tracking)) (final : Pool tracking TelemetryIngestionResult),
      (∀ call ∈ calls, call.dto.idempotencyKey = some key) →
        (∀ user, db.driver? driverId = some user → ∀ channel,
          db.record? ⟨key, user.userId, TelemetryChannel.endpoint channel⟩ = none) →
            (@pool morning ℚ _ _ onePlace driverId calls db).Turns trace final →
              IngestedOnce trace final := by
  intro claimed
  have once := (claimed 1 99 [pointCall .socket, pointCall .batch] driverDb _ _
    (by simp [pointCall]) (fun _ _ _ => rfl)
    (Pool.perform_turns (pointTurns 0 30 ++ pointTurns 1 31) _)).1
  have same : 4 = 14 := once.eq_of_writes inserts_of_insertsPoint (by decide +kernel)
    (by decide +kernel)
  cases same

end Armada.Tracking
