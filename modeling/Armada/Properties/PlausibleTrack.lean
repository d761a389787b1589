import Armada.Tracking.Alone

/-!
# Jumps in a stored track

The velocity check compares a point with the cached location, and only if the point is
strictly newer. Its neighbours among the valid points may be others: a point with an anomalous
velocity is cached too, and then the next one is compared with it. The track of a driver has no
implausible jump if every point is newer than the valid ones, and the newest of these is cached.
-/

namespace Armada.Tracking

open Relational Concurrency

/-! ## Tracks -/

section Tracks

variable {K : Type} [Field K] [LinearOrder K] [Geodesy K]

/-- What `haversineDistanceMeters` stands for: a metric on positions. -/
structure Metric (distance : ℚ → ℚ → ℚ → ℚ → K) : Prop where
  zero_iff : ∀ lat lng lat' lng', distance lat lng lat' lng' = 0 ↔ lat = lat' ∧ lng = lng'
  symm : ∀ lat lng lat' lng', distance lat lng lat' lng' = distance lat' lng' lat lng
  triangle : ∀ lat lng lat' lng' lat'' lng'', distance lat lng lat'' lng'' ≤
    distance lat lng lat' lng' + distance lat' lng' lat'' lng''

/-- Two points, the second not before the first, are at one position, or are apart in time and
no faster than 150 km/h. -/
def Plausible (earlier later : LocationPoint) : Prop :=
  (earlier.latitude = later.latitude ∧ earlier.longitude = later.longitude) ∨
    earlier.recordedAt ≠ later.recordedAt ∧
      Geodesy.haversineDistanceMeters earlier.latitude earlier.longitude later.latitude
        later.longitude / (((later.recordedAt - earlier.recordedAt : Int) : K) / (1000 : Nat)) ≤
          plausibleLimitMps

instance (earlier later : LocationPoint) : Decidable (Plausible earlier later) :=
  inferInstanceAs (Decidable (_ ∨ _))

/-- No point of a track was recorded strictly between two of it. -/
def Adjacent (track : List LocationPoint) (earlier later : LocationPoint) : Prop :=
  earlier.recordedAt ≤ later.recordedAt ∧ ∀ other ∈ track,
    ¬(earlier.recordedAt < other.recordedAt ∧ other.recordedAt < later.recordedAt)

instance (track : List LocationPoint) (earlier later : LocationPoint) :
    Decidable (Adjacent track earlier later) :=
  inferInstanceAs (Decidable (_ ∧ _))

/-- Any two adjacent points of a track are plausible. -/
def Smooth (track : List LocationPoint) : Prop :=
  ∀ earlier ∈ track, ∀ later ∈ track, Adjacent track earlier later → Plausible earlier later

instance (track : List LocationPoint) : Decidable (Smooth track) :=
  inferInstanceAs (Decidable (∀ earlier ∈ track, _))

/-- Neighbours of a track are neighbours of a part of it that has both. -/
theorem Adjacent.of_subset {track larger : List LocationPoint} {earlier later : LocationPoint}
    (adjacent : Adjacent larger earlier later) (subset : track ⊆ larger) :
    Adjacent track earlier later :=
  ⟨adjacent.1, fun other member => adjacent.2 other (subset member)⟩

/-- A track that grows stays smooth exactly if the pairs with a new point are plausible. -/
theorem smooth_iff_of_subset {track larger : List LocationPoint} (smooth : Smooth track)
    (subset : track ⊆ larger) :
    Smooth larger ↔ ∀ earlier ∈ larger, ∀ later ∈ larger, earlier ∉ track ∨ later ∉ track →
      Adjacent larger earlier later → Plausible earlier later := by
  constructor
  · intro stays earlier first later second _ adjacent
    exact stays earlier first later second adjacent
  · intro added earlier first later second adjacent
    by_cases old : earlier ∈ track ∧ later ∈ track
    · exact smooth earlier old.1 later old.2 (adjacent.of_subset subset)
    · exact added earlier first later second (not_and_or.mp old) adjacent

end Tracks

section Runs

variable [DateText]

/-- The cached location at the start of a call is the earlier of two points, it is older than
the new point of the call, and both are stored with the coordinates that were compared. -/
def Visit.Compared (visit : Visit) (driverId : Uuid) (earlier later : LocationPoint) : Prop :=
  later ∉ visit.before.validPoints driverId ∧
    later.latitude = visit.call.dto.latitude ∧ later.longitude = visit.call.dto.longitude ∧
    earlier.recordedAt < later.recordedAt ∧
    ∃ location expiresAt, visit.before.latest driverId = some ⟨.json location, expiresAt⟩ ∧
      visit.endedAt ≤ expiresAt ∧ location.recordedAt.getTime = some earlier.recordedAt ∧
      location.latitude = earlier.latitude ∧ location.longitude = earlier.longitude

variable {K : Type} [Field K] [LinearOrder K] [Geodesy K]

/-- A valid point that a call has stored is plausible with each neighbour that it was not
compared with. -/
def Visit.NoJump (visit : Visit) (driverId : Uuid) : Prop :=
  let track := visit.after.validPoints driverId
  ∀ earlier ∈ track, ∀ later ∈ track,
    earlier ∉ visit.before.validPoints driverId ∨ later ∉ visit.before.validPoints driverId →
      Adjacent track earlier later → ¬visit.Compared driverId earlier later →
        Plausible earlier later

section Step

variable {supplied : Input → Prop} {dto : LocationIngestionDto} {driverId : Uuid}
  {receivedAt : Int} {before after : Db}

/-- A call only adds VALID points. -/
theorem Outcome.validPoints_subset
    (outcome : Outcome supplied dto driverId receivedAt before after) :
    before.validPoints driverId ⊆ after.validPoints driverId := by
  intro row member
  rw [Db.mem_validPoints] at member ⊢
  rcases outcome with spared | ⟨added, ingested⟩
  · exact spared.points ▸ member
  · exact ⟨ingested.mem_rows.mpr (.inl member.1), member.2⟩

/-- What the velocity check has let pass is plausible. -/
theorem Visit.Compared.withinLimit [IsStrictOrderedRing K] {visit : Visit}
    {earlier later : LocationPoint} (compared : visit.Compared driverId earlier later)
    (stored : later ∈ visit.after.validPoints driverId)
    (timely : ∀ input, supplied input → input.now ≤ visit.endedAt)
    (outcome : Outcome supplied visit.call.dto driverId visit.call.receivedAt visit.before
      visit.after) : Plausible earlier later := by
  obtain ⟨added, latitude, longitude, older, location, expiresAt, cached, alive, time, lat, lng⟩ :=
    compared
  obtain ⟨inRows, driven, valid⟩ := Db.mem_validPoints.mp stored
  rcases outcome with spared | ⟨row, ingested⟩
  · exact absurd (Db.mem_validPoints.mpr ⟨spared.points ▸ inRows, driven, valid⟩) added
  obtain rfl : later = row := (ingested.mem_rows.mp inRows).resolve_left fun old =>
    added (Db.mem_validPoints.mpr ⟨old, driven, valid⟩)
  obtain ⟨seen, locationId, ⟨input, given, reads⟩, rfl⟩ := ingested.judged
  obtain ⟨newTime, recorded⟩ := time_of_accepted ingested.accepted
  have present : input.now ≤ expiresAt := le_trans (timely input given) alive
  rw [cached, Option.bind_some, CacheEntry.at, if_pos present] at reads
  subst reads
  have itsTime : newTime = (DateText.getTime visit.call.dto.recordedAt).getD 0 := by
    rw [recorded, Option.getD_some]
  have checked := (evaluateVelocity_valid_iff time recorded (itsTime ▸ older)).mp valid
  refine .inr ⟨older.ne, ?_⟩
  rw [latitude, longitude, ← lat, ← lng]
  rw [itsTime] at checked
  exact checked

/-- The track stays smooth over a call exactly if the call makes no jump. -/
theorem Visit.smooth_iff [IsStrictOrderedRing K] {visit : Visit}
    (smooth : Smooth (visit.before.validPoints driverId))
    (timely : ∀ input, supplied input → input.now ≤ visit.endedAt)
    (outcome : Outcome supplied visit.call.dto driverId visit.call.receivedAt visit.before
      visit.after) :
    Smooth (visit.after.validPoints driverId) ↔ visit.NoJump driverId := by
  rw [smooth_iff_of_subset smooth outcome.validPoints_subset]
  constructor
  · intro all earlier first later second added adjacent _
    exact all earlier first later second added adjacent
  · intro uncompared earlier first later second added adjacent
    by_cases compared : visit.Compared driverId earlier later
    · exact compared.withinLimit second timely outcome
    · exact uncompared earlier first later second added adjacent compared

/-! #### Calls in order -/

/-- The point has the time and the place of a valid one. -/
def Visit.Repeats (visit : Visit) (driverId : Uuid) : Prop :=
  ∃ row ∈ visit.before.validPoints driverId,
    DateText.getTime visit.call.dto.recordedAt = some row.recordedAt ∧
      coordinateColumn.round visit.call.dto.latitude = row.latitude ∧
        coordinateColumn.round visit.call.dto.longitude = row.longitude

/-- The point is newer than the newest valid one, which is the location that is cached until the
call has ended; the columns hold its coordinates as they are. -/
def Visit.Follows (visit : Visit) (driverId : Uuid) : Prop :=
  coordinateColumn.round visit.call.dto.latitude = visit.call.dto.latitude ∧
    coordinateColumn.round visit.call.dto.longitude =
      visit.call.dto.longitude ∧
    ∀ newest, LatestValid visit.before driverId newest →
      (∃ time, DateText.getTime visit.call.dto.recordedAt = some time ∧ newest.recordedAt < time) ∧
        ∃ location expiresAt, visit.before.latest driverId = some ⟨.json location, expiresAt⟩ ∧
          visit.endedAt ≤ expiresAt ∧ location.recordedAt.getTime = some newest.recordedAt ∧
          location.latitude = newest.latitude ∧ location.longitude = newest.longitude

/-- A point that passes the checks that look at it alone repeats a valid one, or follows the
newest. -/
def Visit.InOrder (visit : Visit) (driverId : Uuid) : Prop :=
  rejection visit.call.dto visit.call.receivedAt = none →
    visit.Repeats driverId ∨ visit.Follows driverId

omit [DateText] in
/-- A point of the time and the place of another is as plausible with a third. -/
theorem plausible_congr {earlier later earlier' later' : LocationPoint}
    (first : earlier'.recordedAt = earlier.recordedAt ∧ earlier'.latitude = earlier.latitude ∧
      earlier'.longitude = earlier.longitude)
    (second : later'.recordedAt = later.recordedAt ∧ later'.latitude = later.latitude ∧
      later'.longitude = later.longitude) :
    Plausible earlier' later' ↔ Plausible (K := K) earlier later := by
  simp only [Plausible, first, second]

/-- What the new row of a call has of its point. -/
theorem Ingested.point {row : LocationPoint}
    (ingested : Ingested supplied dto driverId receivedAt before after row) :
    DateText.getTime dto.recordedAt = some row.recordedAt ∧
      row.latitude = coordinateColumn.round dto.latitude ∧
        row.longitude = coordinateColumn.round dto.longitude := by
  obtain ⟨_, _, _, rfl⟩ := ingested.judged
  obtain ⟨time, recorded⟩ := time_of_accepted ingested.accepted
  refine ⟨?_, rfl, rfl⟩
  change _ = some ((DateText.getTime dto.recordedAt).getD 0)
  rw [recorded, Option.getD_some]

/-- The VALID points after an ingestion are those before it and its row. -/
theorem Ingested.mem_validPoints {row other : LocationPoint}
    (ingested : Ingested supplied dto driverId receivedAt before after row)
    (member : other ∈ after.validPoints driverId) :
    other ∈ before.validPoints driverId ∨ other = row := by
  obtain ⟨inRows, valid⟩ := Db.mem_validPoints.mp member
  exact (ingested.mem_rows.mp inRows).imp_left fun old => Db.mem_validPoints.mpr ⟨old, valid⟩

/-- A call that repeats a valid point makes no jump. -/
theorem Visit.Repeats.noJump {visit : Visit} {row : LocationPoint}
    (repeats : visit.Repeats driverId) (smooth : Smooth (K := K) (visit.before.validPoints driverId))
    (ingested : Ingested supplied visit.call.dto driverId visit.call.receivedAt visit.before
      visit.after row) : visit.NoJump (K := K) driverId := by
  obtain ⟨twin, isValid, recorded, latitude, longitude⟩ := repeats
  obtain ⟨time, lat, lng⟩ := ingested.point
  have grows := Outcome.validPoints_subset (.inr ⟨row, ingested⟩)
  -- each valid point has the time and the place of one that was there before
  have standIn : ∀ point ∈ visit.after.validPoints driverId,
      ∃ old ∈ visit.before.validPoints driverId, point.recordedAt = old.recordedAt ∧
        point.latitude = old.latitude ∧ point.longitude = old.longitude := by
    intro point member
    rcases ingested.mem_validPoints member with old | rfl
    · exact ⟨point, old, rfl, rfl, rfl⟩
    · exact ⟨twin, isValid, Option.some.inj (time.symm.trans recorded), lat.trans latitude,
        lng.trans longitude⟩
  intro earlier first later second _ adjacent _
  obtain ⟨earlier', isFirst, sameFirst⟩ := standIn earlier first
  obtain ⟨later', isSecond, sameSecond⟩ := standIn later second
  refine (plausible_congr sameFirst sameSecond).mpr (smooth earlier' isFirst later' isSecond ?_)
  rw [Adjacent, ← sameFirst.1, ← sameSecond.1]
  exact adjacent.of_subset grows

/-- A call that follows the newest valid point makes no jump. -/
theorem Visit.Follows.noJump {visit : Visit} {row : LocationPoint}
    (follows : visit.Follows driverId)
    (ingested : Ingested supplied visit.call.dto driverId visit.call.receivedAt visit.before
      visit.after row) : visit.NoJump (K := K) driverId := by
  obtain ⟨exactLat, exactLng, newest⟩ := follows
  obtain ⟨time, lat, lng⟩ := ingested.point
  have older : ∀ other ∈ visit.before.validPoints driverId, other.recordedAt < row.recordedAt := by
    intro other member
    obtain ⟨latest, isLatest⟩ := latestValid_exists (List.ne_nil_of_mem member)
    obtain ⟨⟨itsTime, recorded, before⟩, _⟩ := newest latest isLatest
    cases time.symm.trans recorded
    exact lt_of_le_of_lt (isLatest.2 other member) before
  intro earlier first later second added adjacent uncompared
  rcases ingested.mem_validPoints second with old | rfl
  · -- the new point is not the earlier of two
    rcases ingested.mem_validPoints first with oldToo | rfl
    · exact absurd added (not_or.mpr ⟨not_not.mpr oldToo, not_not.mpr old⟩)
    · exact absurd adjacent.1 (not_le.mpr (older later old))
  rcases ingested.mem_validPoints first with old | rfl
  · have isLatest : LatestValid visit.before driverId earlier := by
      refine ⟨old, fun other member => not_lt.mp fun newer => ?_⟩
      exact adjacent.2 other (Outcome.validPoints_subset (.inr ⟨later, ingested⟩) member)
        ⟨newer, older other member⟩
    obtain ⟨_, location, expiresAt, cached, alive, same, itsLat, itsLng⟩ := newest earlier isLatest
    have isNew : later ∉ visit.before.validPoints driverId :=
      fun member => lt_irrefl _ (older later member)
    exact absurd ⟨isNew, lat.trans exactLat, lng.trans exactLng, older earlier old, location,
      expiresAt, cached, alive, same, itsLat, itsLng⟩ uncompared
  · exact .inl ⟨rfl, rfl⟩

/-- The track stays smooth over a call whose point is in order. -/
theorem Visit.InOrder.smooth [IsStrictOrderedRing K] {visit : Visit}
    (inOrder : visit.InOrder driverId)
    (smooth : Smooth (K := K) (visit.before.validPoints driverId))
    (timely : ∀ input, supplied input → input.now ≤ visit.endedAt)
    (outcome : Outcome supplied visit.call.dto driverId visit.call.receivedAt visit.before
      visit.after) : Smooth (K := K) (visit.after.validPoints driverId) := by
  rcases outcome with spared | ⟨row, ingested⟩
  · rwa [Db.validPoints_congr spared.points]
  · refine (Visit.smooth_iff smooth timely (.inr ⟨row, ingested⟩)).mpr ?_
    rcases inOrder ingested.accepted with repeats | follows
    · exact repeats.noJump smooth ingested
    · exact follows.noJump ingested

end Step

/-- In every sequential run of calls for a driver while Redis is up, the track of its valid
points has no implausible jump in any state, exactly if every valid point that a call stores
is plausible with the neighbours that it is not compared with. -/
theorem smooth_track_iff [IsStrictOrderedRing K] {driverId : Uuid} {start final : Db}
    {visits : List Visit}
    (run : Visits (fun _ input => input.connected = true) driverId start visits final)
    (initially : Smooth (start.validPoints driverId)) :
    (∀ visit ∈ visits, Smooth (visit.after.validPoints driverId)) ↔
      ∀ visit ∈ visits, visit.NoJump driverId :=
  run.all_iff (fun db => Smooth (db.validPoints driverId)) (fun visit => visit.NoJump driverId)
    initially (fun _ before outcome => Visit.smooth_iff before (fun _ given => given.2) outcome)
    fun _ _ given => given

/-- In every sequential run of calls for a driver while Redis is up, whose points are in order,
the track of its valid points has no implausible jump in any state. -/
theorem smooth_track_of_inOrder [IsStrictOrderedRing K] {driverId : Uuid} {start final : Db}
    {visits : List Visit}
    (run : Visits (fun _ input => input.connected = true) driverId start visits final)
    (initially : Smooth (K := K) (start.validPoints driverId))
    (inOrder : ∀ visit ∈ visits, visit.InOrder driverId) :
    ∀ visit ∈ visits, Smooth (K := K) (visit.after.validPoints driverId) :=
  run.all (fun db => Smooth (db.validPoints driverId)) initially
    (fun visit member before outcome =>
      (inOrder visit member).smooth before (fun _ given => given.2) outcome)
    fun _ _ given => given

end Runs

/-! ### A jump that is not seen -/

/-- Distances of one hundred kilometres a degree, along the axes. -/
def alongAxes (lat lng lat' lng' : ℚ) : ℚ := 100000 * (|lat - lat'| + |lng - lng'|)

/-- The distance along the axes is a metric. -/
theorem metric_alongAxes : Metric alongAxes where
  zero_iff lat lng lat' lng' := by
    rw [alongAxes, mul_eq_zero_iff_left (by norm_num), add_eq_zero_iff_of_nonneg (abs_nonneg _)
      (abs_nonneg _), abs_eq_zero, abs_eq_zero, sub_eq_zero, sub_eq_zero]
  symm lat lng lat' lng' := by
    rw [alongAxes, alongAxes, abs_sub_comm lat, abs_sub_comm lng]
  triangle lat lng lat' lng' lat'' lng'' := by
    have latitudes := abs_sub_le lat lat' lat''
    have longitudes := abs_sub_le lng lng' lng''
    simp only [alongAxes]
    linarith

@[reducible] def threeMinutes : DateText :=
  tableDates [("2026-09-02T08:00:00.000Z", 1788336000000),
    ("2026-09-02T08:01:00.000Z", 1788336060000), ("2026-09-02T08:02:00.000Z", 1788336120000)]

def oneDriver : Db where
  drivers := Table.empty.insert { id := 1, userId := 2 }

/-- A point that arrives a second after it was recorded. -/
def pointAt (latitude : ℚ) (recordedAt : String) : TelemetryCall where
  dto := { latitude, longitude := 1068 / 10, accuracyM := 5, recordedAt }
  userRole := .driver
  receivedAt := (@DateText.getTime threeMinutes recordedAt).getD 0 + 1000
  channel := .batch

def visitAt (latitude : ℚ) (recordedAt : String) (uuid : Uuid) (before : Db) : Visit :=
  @TelemetryCall.visit threeMinutes ℚ _ _ ⟨alongAxes⟩ (pointAt latitude recordedAt) 1
    { uuid, now := (pointAt latitude recordedAt).receivedAt } before

def firstVisit : Visit := visitAt (-62 / 10) "2026-09-02T08:00:00.000Z" 30 oneDriver

/-- A kilometre further, a minute later. -/
def nextVisit : Visit := visitAt (-621 / 100) "2026-09-02T08:01:00.000Z" 31 firstVisit.after

/-- A hundred kilometres further, a minute later. -/
def farVisit : Visit := visitAt (-72 / 10) "2026-09-02T08:01:00.000Z" 31 firstVisit.after

/-- The same place, another minute later. -/
def lastVisit : Visit := visitAt (-72 / 10) "2026-09-02T08:02:00.000Z" 32 farVisit.after

/-- The first visit is a run. -/
theorem visits_firstVisit : @Visits threeMinutes ℚ _ _ ⟨alongAxes⟩
    (fun _ input => input.connected = true) 1 oneDriver [firstVisit] firstVisit.after := by
  let := threeMinutes
  let : Geodesy ℚ := ⟨alongAxes⟩
  apply Visits.refl.visit
  rfl

/-- So are the first two. -/
theorem visits_nextVisit : @Visits threeMinutes ℚ _ _ ⟨alongAxes⟩
    (fun _ input => input.connected = true) 1 oneDriver [firstVisit, nextVisit]
      nextVisit.after := by
  let := threeMinutes
  let : Geodesy ℚ := ⟨alongAxes⟩
  apply visits_firstVisit.visit
  rfl

/-- So are the first, the far and the last. -/
theorem visits_lastVisit : @Visits threeMinutes ℚ _ _ ⟨alongAxes⟩
    (fun _ input => input.connected = true) 1 oneDriver [firstVisit, farVisit, lastVisit]
      lastVisit.after := by
  let := threeMinutes
  let : Geodesy ℚ := ⟨alongAxes⟩
  have second : Visits (fun _ input => input.connected = true) 1 oneDriver [firstVisit, farVisit]
      farVisit.after := by
    apply visits_firstVisit.visit
    rfl
  apply second.visit
  rfl

/-- The first point is in order. -/
theorem inOrder_firstVisit : @Visit.InOrder threeMinutes firstVisit 1 :=
  fun _ => .inr ⟨by decide +kernel, by decide +kernel, fun newest latest => absurd latest.1 (by
    rw [show firstVisit.before.validPoints 1 = [] from rfl]
    exact List.not_mem_nil)⟩

/-- So is the next. -/
theorem inOrder_nextVisit : @Visit.InOrder threeMinutes nextVisit 1 := by
  let := threeMinutes
  refine fun _ => .inr ⟨by decide +kernel, by decide +kernel, fun newest latest => ?_⟩
  have first : ∀ row ∈ nextVisit.before.validPoints 1, row.recordedAt = 1788336000000 ∧
      row.latitude = -62 / 10 ∧ row.longitude = 1068 / 10 := by decide +kernel
  obtain ⟨recorded, latitude, longitude⟩ := first newest latest.1
  have cached : nextVisit.before.latest 1 = some ⟨.json (TrackingService.cachedLocation
      firstVisit.call.dto 1 firstVisit.call.receivedAt), 1788422401000⟩ := by decide +kernel
  rw [recorded, latitude, longitude]
  exact ⟨⟨1788336060000, by decide +kernel, by decide⟩, _, _, cached, by decide +kernel,
    by decide +kernel, rfl, rfl⟩

/-- The two calls with which a driver's track begins. -/
theorem smooth_track_of_inOrder_twoVisits :
    @Smooth ℚ _ _ ⟨alongAxes⟩ (firstVisit.after.validPoints 1) ∧
      @Smooth ℚ _ _ ⟨alongAxes⟩ (nextVisit.after.validPoints 1) := by
  let := threeMinutes
  let : Geodesy ℚ := ⟨alongAxes⟩
  have empty : Smooth (K := ℚ) (oneDriver.validPoints 1) := by decide +kernel
  have smooth := smooth_track_of_inOrder visits_nextVisit empty fun visit member => by
    rcases List.mem_pair.mp member with rfl | rfl
    · exact inOrder_firstVisit
    · exact inOrder_nextVisit
  exact ⟨smooth firstVisit (by simp), smooth nextVisit (by simp)⟩

/-- A point of an anomalous velocity is the reference of the next one, which is valid however
far the last valid point is away. -/
theorem track_jumps :
    ¬∀ (distance : ℚ → ℚ → ℚ → ℚ → ℚ) (driverId : Uuid) (start final : Db)
        (visits : List Visit), Metric distance → start.validPoints driverId = [] →
      @Visits threeMinutes ℚ _ _ ⟨distance⟩ (fun _ input => input.connected = true) driverId start
        visits final →
        ∀ visit ∈ visits, @Smooth ℚ _ _ ⟨distance⟩ (visit.after.validPoints driverId) := by
  intro claimed
  have smooth := claimed alongAxes 1 oneDriver _ _ metric_alongAxes rfl visits_lastVisit lastVisit
    (by simp)
  revert smooth
  decide +kernel

end Armada.Tracking
