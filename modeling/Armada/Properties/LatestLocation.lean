import Armada.Concurrency.CheckedWrite
import Armada.Tracking.TrackingService

/-!
# The latest location

`setLatestLocation` reads the cached location of a driver and writes its own in a step of its
own. The cache does not go back in time exactly if no write is overtaken by that of a newer
location.
-/

namespace Armada.Tracking

open Concurrency
open Concurrency.Turn (writes_of_error writes_of_succeeds)

section Runs

variable [DateText]

/-- The time of recording of what is cached. -/
def CachedText.recordedTime : CachedText → Option Int
  | .json location => location.recordedAt.getTime
  | .malformed => none

/-- The cached latest location of a driver, by its time of recording. -/
def latestRegister (driverId : Uuid) : Register tracking Int where
  value db := (db.latest driverId).bind fun entry => entry.text.recordedTime
  sets turn time := ∃ entry, .setLatest driverId entry ∈ turn.writes ∧
    entry.text.recordedTime = some time

/-- Redis answers, and what it holds for a driver has not expired. -/
def Available (driverId : Uuid) (turn : Concurrency.Turn tracking) : Prop :=
  (turn.inputs 0).connected = true ∧
    ∀ entry ∈ turn.before.latest driverId, (turn.inputs 0).now ≤ entry.expiresAt

instance (driverId : Uuid) (turn : Concurrency.Turn tracking) :
    Decidable (Available driverId turn) :=
  inferInstanceAs (Decidable (_ ∧ _))

variable {driverId : Uuid} {thread : Nat} {time : Int}

/-- A turn that writes nothing leaves the register alone. -/
theorem latest_guards_of_idle {history : List (Concurrency.Turn tracking)}
    {turn : Concurrency.Turn tracking}
    (idle : turn.writes = []) : (latestRegister driverId).Guards (· = time) history turn where
  sets value set := by
    obtain ⟨entry, member, _⟩ := set
    simp [idle] at member
  keeps _ := congrArg (latestRegister driverId).value (Concurrency.Turn.after_of_idle idle)

/-- A location that is written after one that is not newer was read. -/
theorem latest_guards_of_set {history : List (Concurrency.Turn tracking)}
    {turn : Concurrency.Turn tracking}
    {entry : CacheEntry} (written : turn.writes = [.setLatest driverId entry])
    (recorded : entry.text.recordedTime = some time)
    (checked : ∃ read ∈ history, read.writes = [] ∧
      ∀ old, (latestRegister driverId).value read.before = some old → old < time) :
    (latestRegister driverId).Guards (· = time) history turn where
  sets value set := by
    obtain ⟨other, member, itsTime⟩ := set
    obtain rfl : entry = other := by simpa [written, eq_comm] using member
    obtain rfl : time = value := Option.some.inj (recorded.symm.trans itsTime)
    obtain ⟨read, among, idle, older⟩ := checked
    refine ⟨?_, rfl, read, among, ?_, older⟩
    · rw [Concurrency.Turn.after, written]
      change (if driverId = driverId then some entry else _).bind _ = some time
      rw [if_pos rfl, Option.bind_some, recorded]
    · rintro value ⟨_, inRead, _⟩
      simp [idle] at inRead
  keeps none := absurd ⟨entry, written ▸ List.mem_cons_self, recorded⟩ (none time)

/-- A call writes its location only over an older one, and returns only when the cache holds
one that is as new. -/
theorem setLatestLocation_meets {payload : CachedLocationData}
    (recorded : payload.recordedAt.getTime = some time) :
    (TrackingCacheService.setLatestLocation driverId payload).Meets
      (.turns (Available driverId) thread ((latestRegister driverId).Guards (· = time)))
      (OnResult (fun _ => (latestRegister driverId).Offered time) fun _ _ => True) [] := by
  rw [TrackingCacheService.setLatestLocation]
  refine Proc.Meets.next (fun inputs before error _ failure => ?_)
    fun inputs before found writes available executed => ?_
  · exact ⟨latest_guards_of_idle (writes_of_error failure), trivial⟩
  have idle := writes_of_succeeds thread executed
  obtain ⟨read, rfl⟩ := RedisService.get_succeeds.mp executed
  refine ⟨latest_guards_of_idle idle, ?_⟩
  obtain ⟨connected, alive⟩ := available
  -- what the call has read is what the register held
  have seen : (latestRegister driverId).value before = found.bind CachedText.recordedTime := by
    rw [read, if_pos connected]
    cases cached : before.latest driverId with
    | none => simp [latestRegister, cached]
    | some entry =>
        have present : (inputs 0).now ≤ entry.expiresAt := alive entry cached
        simp [latestRegister, cached, CacheEntry.at, present]
  cases late : TrackingCacheService.outOfOrder found payload with
  | true =>
      refine .inr ⟨_, List.mem_append_right _ List.mem_cons_self, ?_⟩
      change ∃ other, (latestRegister driverId).value before = some other ∧ time ≤ other
      rw [seen]
      cases found with
      | none => cases late
      | some text =>
          cases text with
          | malformed => cases late
          | json location =>
              cases itsTime : location.recordedAt.getTime with
              | none => simp [TrackingCacheService.outOfOrder, itsTime] at late
              | some old =>
                  refine ⟨old, by simp [CachedText.recordedTime, itsTime], ?_⟩
                  simpa [TrackingCacheService.outOfOrder, itsTime, recorded] using late
  | false =>
      have older : ∀ old, (latestRegister driverId).value before = some old → old < time := by
        intro old held
        rw [seen] at held
        obtain ⟨text, rfl, itsTime⟩ := Option.bind_eq_some_iff.mp held
        cases text with
        | malformed => cases itsTime
        | json location =>
            have itsTime : location.recordedAt.getTime = some old := itsTime
            simpa [TrackingCacheService.outOfOrder, itsTime, recorded] using late
      refine Proc.Meets.next (fun inputs before error _ failure => ?_)
        fun setInputs setBefore answer writes available set => ?_
      · exact ⟨latest_guards_of_idle (writes_of_error failure), trivial⟩
      have written := writes_of_succeeds thread set
      obtain rfl := RedisService.set_succeeds.mp set
      rw [if_pos available.1] at written
      refine ⟨latest_guards_of_set written recorded
        ⟨_, List.mem_append_right _ List.mem_cons_self, idle, older⟩, ?_⟩
      have itsTime : (CachedText.json payload).recordedTime = some time := recorded
      exact .inl ⟨_, List.mem_append_right _ List.mem_cons_self,
        ⟨.json payload, _⟩, written ▸ List.mem_cons_self, itsTime⟩

/-! ## Runs -/

/-- Calls of `setLatestLocation` for one driver that start together. -/
def locationPool (driverId : Uuid) (payloads : List CachedLocationData) (db : Db) :
    Pool tracking Bool where
  state := db
  procs := payloads.map (TrackingCacheService.setLatestLocation driverId)

/-- All calls have returned. -/
def AllReturned {α : Type} (pool : Pool tracking α) : Prop :=
  ∀ process ∈ pool.procs, ∃ answer, process.finished = some (.ok answer)

/-- The times that the cache is offered: the one it starts with and those of the calls. -/
def offeredTimes (driverId : Uuid) (payloads : List CachedLocationData) (db : Db) : List Int :=
  ((latestRegister driverId).value db).toList ++
    payloads.filterMap fun payload => payload.recordedAt.getTime

/-- A thread submits the time. -/
def SubmitsTime (payloads : List CachedLocationData) (thread : Nat) (time : Int) : Prop :=
  (payloads[thread]?.bind fun payload => payload.recordedAt.getTime) = some time

/-- Each of the calls keeps to the time that it submits. -/
theorem locationPool_meets {payloads : List CachedLocationData}
    (valid : ∀ payload ∈ payloads, payload.recordedAt.getTime ≠ none) {db : Db} (thread : Nat)
    (process : Proc tracking Bool)
    (found : (locationPool driverId payloads db).procs[thread]? = some process) :
    process.Meets (.turns (Available driverId) thread
        ((latestRegister driverId).Guards (SubmitsTime payloads thread)))
      (OnResult (fun _ history => ∀ time, SubmitsTime payloads thread time →
        (latestRegister driverId).Offered time history) fun _ _ => True) [] := by
  simp only [locationPool, List.getElem?_map, Option.map_eq_some_iff] at found
  obtain ⟨payload, among, rfl⟩ := found
  obtain ⟨time, recorded⟩ :=
    Option.ne_none_iff_exists'.mp (valid payload (List.mem_of_getElem? among))
  have own : SubmitsTime payloads thread = (· = time) := by
    funext other
    simp [SubmitsTime, among, recorded, eq_comm]
  rw [own]
  refine (setLatestLocation_meets recorded).weaken fun result history posted => ?_
  cases result with
  | error failure => trivial
  | ok answer =>
      rintro _ rfl
      exact posted

/-- Of any calls for a driver with valid timestamps, in any order of their steps, none sets
the cached time of recording back, and it is the greatest when all have returned, exactly if
between the read and the write of a call no newer location is written. -/
theorem latest_location_iff {driverId : Uuid} {payloads : List CachedLocationData}
    (valid : ∀ payload ∈ payloads, payload.recordedAt.getTime ≠ none) {db : Db}
    {trace : List (Concurrency.Turn tracking)} {final : Pool tracking Bool}
    (turns : (locationPool driverId payloads db).Turns trace final)
    (available : ∀ turn ∈ trace, Available driverId turn) :
    ((latestRegister driverId).Monotone trace ∧
      (AllReturned final → (latestRegister driverId).value final.state =
        (offeredTimes driverId payloads db).max?)) ↔
      (latestRegister driverId).Unovertaken trace := by
  obtain ⟨guarded, within⟩ := turns.own available (locationPool_meets valid)
  rw [← Register.monotone_iff_unovertaken turns guarded]
  refine and_iff_left_of_imp fun monotone returned => ?_
  refine monotone.value_eq_max? turns guarded ?_ ?_ ?_
  · intro time offered
    rcases List.mem_append.mp offered with initially | later
    · exact .inl (Option.mem_toList.mp initially)
    · obtain ⟨payload, among, recorded⟩ := List.mem_filterMap.mp later
      obtain ⟨thread, inRange, rfl⟩ := List.getElem_of_mem among
      have started : thread < final.procs.length := by
        simpa [turns.steps.length, locationPool] using inRange
      obtain ⟨answer, ended⟩ := returned _ (List.getElem_mem started)
      refine .inr ⟨thread, (within thread _ (List.getElem?_eq_getElem started)).post_of_finished
        ended time ?_⟩
      simp [SubmitsTime, inRange, recorded]
  · intro time initially
    exact List.mem_append_left _ (Option.mem_toList.mpr initially)
  · intro thread time own
    obtain ⟨payload, among, recorded⟩ := Option.bind_eq_some_iff.mp own
    exact List.mem_append_right _ (List.mem_filterMap.mpr
      ⟨payload, List.mem_of_getElem? among, recorded⟩)

end Runs

/-! ### A write that is overtaken -/

@[reducible] def twoSeconds : DateText :=
  tableDates [("2026-09-02T08:00:00.000Z", 1788336000000),
    ("2026-09-02T08:00:01.000Z", 1788336001000)]

def locationAt (recordedAt : String) : CachedLocationData where
  driverId := 1
  deliveryId := none
  latitude := -62 / 10
  longitude := 1068 / 10
  accuracyM := 5
  speedMps := none
  headingDeg := none
  recordedAt := .given recordedAt
  receivedAt := .iso 1788336002000

def laterInput : Nat → Input := fun _ => { now := 1788336002000 }

/-- One call alone. -/
theorem latest_location_iff_alone :
    let payloads := [locationAt "2026-09-02T08:00:00.000Z"]
    let played := (@locationPool twoSeconds 1 payloads {}).perform [(0, laterInput), (0, laterInput)]
    ((@latestRegister twoSeconds 1).Monotone played.1 ∧
      (AllReturned played.2 → (@latestRegister twoSeconds 1).value played.2.state =
        (@offeredTimes twoSeconds 1 payloads {}).max?)) ↔
      (@latestRegister twoSeconds 1).Unovertaken played.1 := by
  intro payloads played
  have valid : ∀ payload ∈ payloads, @DateString.getTime twoSeconds payload.recordedAt ≠ none := by
    decide
  have available : ∀ turn ∈ played.1, Available 1 turn := by decide
  exact @latest_location_iff twoSeconds 1 payloads valid {} _ _
    (Pool.perform_turns [(0, laterInput), (0, laterInput)] (@locationPool twoSeconds 1 payloads {}))
    available

/-- The call with the older location reads first and writes last. -/
def overtaken : List (Nat × (Nat → Input)) :=
  [(0, laterInput), (1, laterInput), (1, laterInput), (0, laterInput)]

/-- Of two calls that both have found the cache empty, the one with the older location may
write last. -/
theorem latest_location_goes_back :
    ¬∀ (driverId : Uuid) (payloads : List CachedLocationData) (db : Db)
        (trace : List (Concurrency.Turn tracking)) (final : Pool tracking Bool),
      (∀ payload ∈ payloads, @DateString.getTime twoSeconds payload.recordedAt ≠ none) →
        (@locationPool twoSeconds driverId payloads db).Turns trace final →
          (∀ turn ∈ trace, Available driverId turn) →
            (@latestRegister twoSeconds driverId).Monotone trace ∧
              (AllReturned final → (@latestRegister twoSeconds driverId).value final.state =
                (@offeredTimes twoSeconds driverId payloads db).max?) := by
  intro claimed
  let pool := @locationPool twoSeconds 1
    [locationAt "2026-09-02T08:00:00.000Z", locationAt "2026-09-02T08:00:01.000Z"] {}
  obtain ⟨_, greatest⟩ := claimed 1 _ {} _ _ (by decide) (Pool.perform_turns overtaken pool)
    (by decide)
  have returned : AllReturned (pool.perform overtaken).2 := by
    intro process member
    rcases List.mem_pair.mp member with rfl | rfl
    · exact ⟨true, rfl⟩
    · exact ⟨true, rfl⟩
  have older : (some 1788336000000 : Option Int) = some 1788336001000 := greatest returned
  cases older

end Armada.Tracking
