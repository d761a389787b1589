import Armada.Tracking.Alone
import Armada.Tracking.FleetService

/-!
# Fleet positions with and without the cache

The fleet view reports the cached location of a driver, or else the latest valid point. The
two agree after every call exactly if every point that goes to the cache has passed the
velocity check and has neither speed nor heading zero.
-/

namespace Armada.Tracking

open Relational Concurrency

/-! ## What the fleet view reports -/

section Reports

/-- Redis answers, and what it holds for a driver has not expired. -/
def Present (driverId : Uuid) (db : Db) (input : Input) : Prop :=
  input.connected = true ∧ ∀ entry ∈ db.latest driverId, input.now ≤ entry.expiresAt

/-- The fleet view may report a location for a driver, or that there is none. -/
def Reports (driverId : Uuid) (actorRole : Role) (actorOrgId : Option Uuid) (db : Db)
    (reported : Option FleetLocation) : Prop :=
  ∃ items after, ∃ item ∈ items,
    (FleetService.getAllActiveDriverLocations actorRole actorOrgId).Returns (Present driverId db)
      db items after ∧ item.driverId = driverId ∧ item.location = reported

/-- The store without the cached location of a driver. -/
def Db.withoutLatest (db : Db) (driverId : Uuid) : Db :=
  { db with latest := fun other => if other = driverId then none else db.latest other }

/-- The fleet view of an actor covers a driver. -/
def Covers (actorRole : Role) (actorOrgId : Option Uuid) (driver : Driver) : Prop :=
  actorRole ≠ .driver ∧ driver.userStatus = .active ∧ driver.operationalStatus ≠ .offline ∧
    ∀ id ∈ (if actorRole = .superAdmin then none else actorOrgId), driver.organizationId = some id

variable {driverId : Uuid} {db after : Db}

/-- The latest VALID point depends on the points alone. -/
theorem LatestValid.of_points {other : Db} (same : other.locationPoints = db.locationPoints) :
    LatestValid other driverId = LatestValid db driverId := by
  ext row
  rw [LatestValid, LatestValid, Db.validPoints_congr same]

/-- An input that Redis and the database answer. -/
theorem present_pick (driverId : Uuid) (db : Db) (pick : Nat) :
    ∃ input : Input, Present driverId db input ∧ input.fault = none ∧ input.pick = pick := by
  cases held : db.latest driverId with
  | none => exact ⟨{ pick }, ⟨rfl, by simp [held]⟩, rfl, rfl⟩
  | some entry => exact ⟨{ now := entry.expiresAt, pick }, ⟨rfl, by simp [held]⟩, rfl, rfl⟩

/-- The query answers a latest VALID point, or nothing when there is none. -/
theorem findLatestValid_returns {id : Uuid} {found : Option LocationPoint} :
    (liftM (Prisma.LocationPoint.findLatestValid id) : Proc tracking _).Returns
      (Present driverId db) db found after ↔
        after = db ∧ (∀ row ∈ found, LatestValid db id row) ∧
          (found = none → db.validPoints id = []) := by
  let latest := (db.validPoints id).filter fun row =>
    ∀ other ∈ db.validPoints id, other.recordedAt ≤ row.recordedAt
  have member : ∀ row, row ∈ latest ↔ LatestValid db id row := by
    simp [latest, LatestValid]
  rw [Proc.returns_lift]
  simp only [Prisma.LocationPoint.findLatestValid, query_succeeds, Except.ok.injEq, Prod.mk.injEq]
  constructor
  · rintro ⟨input, writes, _, ⟨_, rfl, rfl⟩, rfl⟩
    refine ⟨rfl, fun row got => (member row).mp (List.mem_of_getElem? got), fun missed => ?_⟩
    by_contra present
    obtain ⟨row, isLatest⟩ := latestValid_exists present
    have nonempty : 0 < latest.length := List.length_pos_of_mem ((member row).mpr isLatest)
    have inRange := List.getElem?_eq_none_iff.mp missed
    exact absurd (Nat.mod_lt input.pick nonempty) (Nat.not_lt.mpr inRange)
  · rintro ⟨rfl, isLatest, missed⟩
    cases found with
    | none =>
        obtain ⟨input, present, fault, _⟩ := present_pick driverId after 0
        exact ⟨input, [], present, ⟨fault, by simp [missed rfl], rfl⟩, rfl⟩
    | some row =>
        obtain ⟨index, inRange, here⟩ := List.getElem_of_mem ((member row).mpr (isLatest row rfl))
        obtain ⟨input, present, fault, picked⟩ := present_pick driverId after index
        refine ⟨input, [], present, ⟨fault, ?_, rfl⟩, rfl⟩
        change latest[input.pick % latest.length]? = some row
        rw [picked, Nat.mod_eq_of_lt inRange, List.getElem?_eq_getElem inRange, here]

/-- The location of a text that parses. -/
def CachedText.location? : CachedText → Option CachedLocationData
  | .json location => some location
  | .malformed => none

/-- The latest location is the GET, parsed. -/
theorem getLatestLocation_eq (id : Uuid) :
    TrackingCacheService.getLatestLocation id =
      (fun raw => raw.bind CachedText.location?) <$>
        (liftM (RedisService.get id) : Proc tracking (Option CachedText)) := by
  refine congrArg (Bind.bind (liftM (RedisService.get id) : Proc tracking _)) (funext fun raw => ?_)
  rcases raw with _ | _ | _ <;> rfl

/-- What the latest location returns: the parsed reading. -/
theorem getLatestLocation_returns {id : Uuid} {cached : Option CachedLocationData} :
    (TrackingCacheService.getLatestLocation id).Returns (Present driverId db) db cached after ↔
      after = db ∧ ∃ input, Present driverId db input ∧
        cached = ((db.latest id).bind (CacheEntry.at input.now)).bind CachedText.location? := by
  rw [getLatestLocation_eq, Proc.returns_map]
  simp only [Proc.returns_lift, RedisService.get_succeeds]
  constructor
  · rintro ⟨_, ⟨input, _, present, ⟨rfl, rfl⟩, rfl⟩, rfl⟩
    exact ⟨rfl, input, present, by rw [if_pos present.1]⟩
  · rintro ⟨rfl, input, present, rfl⟩
    exact ⟨_, ⟨input, [], present, ⟨(if_pos present.1).symm, rfl⟩, rfl⟩, rfl⟩

/-- What Redis holds for the driver is what it answers. -/
theorem present_read {input : Input} (present : Present driverId db input) :
    (db.latest driverId).bind (CacheEntry.at input.now) =
      (db.latest driverId).map CacheEntry.text := by
  cases held : db.latest driverId with
  | none => rfl
  | some entry =>
      rw [Option.bind_some, CacheEntry.at, if_pos (present.2 entry held)]
      rfl

namespace FleetService

/-- What the data of an item is: the cached position, or else the latest VALID point. -/
theorem locationData_returns {id : Uuid} {deliveryId : Option IdText}
    {value : Option CachedLocationData} :
    (locationData id deliveryId).Returns (Present driverId db) db value after ↔
      after = db ∧ ∃ input, Present driverId db input ∧
        match ((db.latest id).bind (CacheEntry.at input.now)).bind CachedText.location? with
        | some cached => value = some cached
        | none => ∃ found : Option LocationPoint, (∀ row ∈ found, LatestValid db id row) ∧
            (found = none → db.validPoints id = []) ∧ value = found.map (ofPoint id deliveryId) := by
  simp only [locationData, Proc.returns_bind, getLatestLocation_returns]
  constructor
  · rintro ⟨cached, _, ⟨rfl, input, present, read⟩, rest⟩
    cases cached with
    | some data =>
        obtain ⟨rfl, rfl⟩ := Proc.returns_pure.mp rest
        exact ⟨rfl, input, present, by rw [← read]⟩
    | none =>
        obtain ⟨found, _, queried, ended⟩ := Proc.returns_bind.mp rest
        obtain ⟨rfl, isLatest, missed⟩ := findLatestValid_returns.mp queried
        obtain ⟨rfl, rfl⟩ := Proc.returns_pure.mp ended
        exact ⟨rfl, input, present, by rw [← read]; exact ⟨found, isLatest, missed, rfl⟩⟩
  · rintro ⟨rfl, input, present, rest⟩
    refine ⟨_, after, ⟨rfl, input, present, rfl⟩, ?_⟩
    cases read : ((after.latest id).bind (CacheEntry.at input.now)).bind CachedText.location? with
    | some data =>
        rw [read] at rest
        exact Proc.returns_pure.mpr ⟨rest, rfl⟩
    | none =>
        rw [read] at rest
        obtain ⟨found, isLatest, missed, rfl⟩ := rest
        exact Proc.returns_bind.mpr ⟨found, after,
          findLatestValid_returns.mpr ⟨rfl, isLatest, missed⟩, Proc.returns_pure.mpr ⟨rfl, rfl⟩⟩

/-- Some data is always returned. -/
theorem locationData_exists (id : Uuid) (deliveryId : Option IdText) :
    ∃ value, (locationData id deliveryId).Returns (Present driverId db) db value db := by
  obtain ⟨input, present, _⟩ := present_pick driverId db 0
  cases read : ((db.latest id).bind (CacheEntry.at input.now)).bind CachedText.location? with
  | some data =>
      refine ⟨some data, locationData_returns.mpr ⟨rfl, input, present, ?_⟩⟩
      rw [read]
  | none =>
      by_cases occupied : db.validPoints id = []
      · refine ⟨none, locationData_returns.mpr ⟨rfl, input, present, ?_⟩⟩
        rw [read]
        exact ⟨none, by simp, fun _ => occupied, rfl⟩
      · obtain ⟨row, isLatest⟩ := latestValid_exists occupied
        refine ⟨some (ofPoint id deliveryId row),
          locationData_returns.mpr ⟨rfl, input, present, ?_⟩⟩
        rw [read]
        exact ⟨some row, by simpa using isLatest, by simp, rfl⟩

/-- A cached location is what is reported. -/
theorem locationData_cached {deliveryId : Option IdText} {data : CachedLocationData}
    {expiresAt : Int} (held : db.latest driverId = some ⟨.json data, expiresAt⟩)
    {value : Option CachedLocationData} :
    (locationData driverId deliveryId).Returns (Present driverId db) db value db ↔
      value = some data := by
  rw [locationData_returns]
  constructor
  · rintro ⟨_, input, present, found⟩
    rw [present_read present, held] at found
    exact found
  · rintro rfl
    obtain ⟨input, present, _⟩ := present_pick driverId db 0
    refine ⟨rfl, input, present, ?_⟩
    rw [present_read present, held]
    rfl

/-- Without a cached location a latest valid point is. -/
theorem locationData_uncached {deliveryId : Option IdText} (missing : db.latest driverId = none)
    {value : Option CachedLocationData} :
    (locationData driverId deliveryId).Returns (Present driverId db) db value db ↔
      ∃ found : Option LocationPoint, (∀ row ∈ found, LatestValid db driverId row) ∧
        (found = none → db.validPoints driverId = []) ∧
          value = found.map (ofPoint driverId deliveryId) := by
  rw [locationData_returns]
  constructor
  · rintro ⟨_, input, present, found⟩
    rw [missing] at found
    exact found
  · intro found
    obtain ⟨input, present, _⟩ := present_pick driverId db 0
    refine ⟨rfl, input, present, ?_⟩
    rw [missing]
    exact found

/-- The item of a driver, with the location that was looked up. -/
theorem driverItem_returns {joined : Prisma.Driver.Joined} {item : FleetDriverLocationItem} :
    (driverItem joined).Returns (Present driverId db) db item after →
      after = db ∧ item.driverId = joined.driver.id ∧
        ∃ value, (locationData joined.driver.id (activeDeliveryId joined)).Returns
          (Present driverId db) db value db ∧ item.location = value.map location := by
  intro returned
  obtain ⟨value, middle, looked, ended⟩ := Proc.returns_bind.mp returned
  obtain ⟨rfl, _⟩ := locationData_returns.mp looked
  obtain ⟨rfl, rfl⟩ := Proc.returns_pure.mp ended
  exact ⟨rfl, rfl, value, looked, rfl⟩

/-- An item is returned for the data that was looked up. -/
theorem driverItem_exists {joined : Prisma.Driver.Joined} {value : Option CachedLocationData}
    (looked : (locationData joined.driver.id (activeDeliveryId joined)).Returns
      (Present driverId db) db value db) :
    ∃ item, (driverItem joined).Returns (Present driverId db) db item db ∧
      item.driverId = joined.driver.id ∧ item.location = value.map location :=
  ⟨_, Proc.returns_bind.mpr ⟨value, db, looked, Proc.returns_pure.mpr ⟨rfl, rfl⟩⟩, rfl, rfl⟩

/-- Each item that is returned belongs to a driver of the list. -/
theorem driverItems_returns {drivers : List Prisma.Driver.Joined}
    {items : List FleetDriverLocationItem}
    (returned : (driverItems drivers).Returns (Present driverId db) db items after) :
    after = db ∧ ∀ item ∈ items, ∃ joined ∈ drivers,
      (driverItem joined).Returns (Present driverId db) db item db := by
  induction drivers generalizing items with
  | nil =>
      obtain ⟨rfl, rfl⟩ := Proc.returns_pure.mp returned
      exact ⟨rfl, List.forall_mem_nil _⟩
  | cons joined others inductionHypothesis =>
      obtain ⟨item, middle, first, rest⟩ := Proc.returns_bind.mp returned
      obtain ⟨rfl, _⟩ := driverItem_returns first
      obtain ⟨remaining, middle, later, ended⟩ := Proc.returns_bind.mp rest
      obtain ⟨rfl, rfl⟩ := Proc.returns_pure.mp ended
      obtain ⟨rfl, each⟩ := inductionHypothesis later
      refine ⟨rfl, fun other member => ?_⟩
      rcases List.mem_cons.mp member with rfl | inOthers
      · exact ⟨joined, List.mem_cons_self, first⟩
      · obtain ⟨found, among, its⟩ := each other inOthers
        exact ⟨found, List.mem_cons_of_mem _ among, its⟩

/-- The items of a list are that of its head and those of its tail. -/
theorem driverItems_cons {joined : Prisma.Driver.Joined} {others : List Prisma.Driver.Joined}
    {item : FleetDriverLocationItem} {items : List FleetDriverLocationItem}
    (first : (driverItem joined).Returns (Present driverId db) db item db)
    (rest : (driverItems others).Returns (Present driverId db) db items db) :
    (driverItems (joined :: others)).Returns (Present driverId db) db (item :: items) db := by
  rw [driverItems, Proc.returns_bind]
  refine ⟨item, db, first, ?_⟩
  rw [Proc.returns_bind]
  refine ⟨items, db, rest, ?_⟩
  rw [Proc.returns_pure]
  exact ⟨rfl, rfl⟩

/-- Items are returned for every list. -/
theorem driverItems_total (drivers : List Prisma.Driver.Joined) :
    ∃ items, (driverItems drivers).Returns (Present driverId db) db items db := by
  induction drivers with
  | nil => exact ⟨[], Proc.returns_pure.mpr ⟨rfl, rfl⟩⟩
  | cons other others inductionHypothesis =>
      obtain ⟨items, rest⟩ := inductionHypothesis
      obtain ⟨value, looked⟩ := locationData_exists other.driver.id (activeDeliveryId other)
      obtain ⟨item, first, _⟩ := driverItem_exists looked
      exact ⟨item :: items, driverItems_cons first rest⟩

/-- Every item that a driver may get is part of some answer for all of them. -/
theorem driverItems_exists {drivers : List Prisma.Driver.Joined} {joined : Prisma.Driver.Joined}
    (member : joined ∈ drivers) {item : FleetDriverLocationItem}
    (its : (driverItem joined).Returns (Present driverId db) db item db) :
    ∃ items, (driverItems drivers).Returns (Present driverId db) db items db ∧ item ∈ items := by
  induction drivers with
  | nil => cases member
  | cons other others inductionHypothesis =>
      rcases List.mem_cons.mp member with rfl | inOthers
      · obtain ⟨items, rest⟩ := driverItems_total others
        exact ⟨item :: items, driverItems_cons its rest, List.mem_cons_self⟩
      · obtain ⟨items, rest, among⟩ := inductionHypothesis inOthers
        obtain ⟨value, looked⟩ := locationData_exists other.driver.id (activeDeliveryId other)
        obtain ⟨first, returned, _⟩ := driverItem_exists looked
        exact ⟨first :: items, driverItems_cons returned rest, List.mem_cons_of_mem _ among⟩

end FleetService

/-- The fleet view reports what `locationData` finds for a driver that it covers. -/
theorem reports_iff {actorRole : Role} {actorOrgId : Option Uuid}
    {reported : Option FleetLocation} :
    Reports driverId actorRole actorOrgId db reported ↔
      ∃ driver, db.driver? driverId = some driver ∧ Covers actorRole actorOrgId driver ∧
        ∃ value, (FleetService.locationData driverId
            (FleetService.activeDeliveryId (Prisma.Driver.join db driver))).Returns
              (Present driverId db) db value db ∧
          reported = value.map FleetService.location := by
  simp only [Reports, FleetService.getAllActiveDriverLocations, Proc.returns_bind,
    Proc.returns_rejectIf, Proc.returns_lift, Prisma.Driver.findMany, select_succeeds]
  constructor
  · rintro ⟨items, _, item, among, ⟨_, _, ⟨permitted, rfl⟩, _, _, ⟨_, _, _, ⟨_, rfl, rfl⟩, rfl⟩,
      returned⟩, mine, rfl⟩
    obtain ⟨rfl, each⟩ := FleetService.driverItems_returns returned
    obtain ⟨joined, inDrivers, its⟩ := each item among
    obtain ⟨driver, listed, rfl⟩ := List.mem_map.mp inDrivers
    obtain ⟨inRows, covered⟩ := List.mem_filter.mp listed
    obtain ⟨_, same, value, looked, found⟩ := FleetService.driverItem_returns its
    obtain rfl : driver.id = driverId := same.symm.trans mine
    exact ⟨driver, Table.find?_of_mem inRows, ⟨permitted, of_decide_eq_true covered⟩, value,
      looked, found⟩
  · rintro ⟨driver, found, ⟨permitted, covered⟩, value, looked, rfl⟩
    obtain ⟨inRows, rfl⟩ := Table.find?_eq_some.mp found
    obtain ⟨item, its, same, location⟩ :=
      @FleetService.driverItem_exists _ _ (Prisma.Driver.join db driver) _ looked
    obtain ⟨input, present, fault, _⟩ := present_pick driver.id db 0
    have listed : Prisma.Driver.join db driver ∈ (db.drivers.rows.filter fun driver =>
        driver.userStatus = .active ∧ driver.operationalStatus ≠ .offline ∧
          ∀ id ∈ (if actorRole = .superAdmin then none else actorOrgId),
            driver.organizationId = some id).map (Prisma.Driver.join db) :=
      List.mem_map_of_mem (List.mem_filter.mpr ⟨inRows, decide_eq_true covered⟩)
    obtain ⟨items, returned, among⟩ := FleetService.driverItems_exists listed its
    exact ⟨items, db, item, among, ⟨(), db, ⟨permitted, rfl⟩, _, db,
      ⟨input, [], present, ⟨fault, rfl, rfl⟩, rfl⟩, returned⟩, same, location⟩

/-- The fleet view lists a driver: its user is active and it is not offline. -/
def Listed (db : Db) (driverId : Uuid) : Prop :=
  ∃ driver, db.driver? driverId = some driver ∧ driver.userStatus = .active ∧
    driver.operationalStatus ≠ .offline

/-- Who is listed depends on the drivers alone. -/
theorem Listed.of_drivers {other : Db} (same : other.drivers = db.drivers) :
    Listed other driverId ↔ Listed db driverId := by
  rw [Listed, Listed, Db.driver?, Db.driver?, same]

end Reports

section Agreement

/-- Neither speed nor heading is lost in the cache exactly if neither is zero. -/
theorem orNull_map_eq (round : ℚ → ℚ) (value : Option ℚ) :
    value.map round = (orNull value).map round ↔ value ≠ some 0 := by
  cases value with
  | none => simp [orNull]
  | some number =>
      by_cases zero : number = 0 <;> simp [orNull, Option.filter, zero]

variable [DateText]

/-- A location, and one whose numbers are those of the first in the columns of the table. -/
structure RoundsTo (cached stored : FleetLocation) : Prop where
  latitude : stored.latitude = coordinateColumn.round cached.latitude
  longitude : stored.longitude = coordinateColumn.round cached.longitude
  accuracyM : stored.accuracyM = accuracyColumn.round cached.accuracyM
  speedMps : stored.speedMps = cached.speedMps.map speedColumn.round
  headingDeg : stored.headingDeg = cached.headingDeg.map headingColumn.round
  recordedAt : stored.recordedAt.getTime = cached.recordedAt.getTime

/-- What the fleet view reports for a driver it might report without the cache, up to the
rounding of the columns. -/
def CacheIndependent (driverId : Uuid) (db : Db) : Prop :=
  ∀ actorRole actorOrgId reported, Reports driverId actorRole actorOrgId db reported →
    ∃ stored, Reports driverId actorRole actorOrgId (db.withoutLatest driverId) stored ∧
      (reported = stored ∨ ∃ cached ∈ reported, ∃ point ∈ stored, RoundsTo cached point)

/-- A cached location and a stored point are one, up to the rounding of the columns. -/
def Matches (data : CachedLocationData) (row : LocationPoint) : Prop :=
  RoundsTo (FleetService.location data) (FleetService.location (FleetService.ofPoint 0 none row))

variable {driverId : Uuid} {db : Db}

/-- Without a cached position the view is that of the points. -/
theorem cacheIndependent_uncached (missing : db.latest driverId = none) :
    CacheIndependent driverId db := by
  intro actorRole actorOrgId reported reports
  have same : db.withoutLatest driverId = db := by
    have latest : (fun other => if other = driverId then none else db.latest other) = db.latest := by
      ext1 other
      split
      · rename_i isDriver
        rw [isDriver, missing]
      · rfl
    rw [Db.withoutLatest, latest]
  exact ⟨reported, same.symm ▸ reports, .inl rfl⟩

/-- Where a client's time is cached, the view is independent of the cache exactly if the cached
location is that of a latest valid point. -/
theorem cacheIndependent_cached {data : CachedLocationData} {expiresAt : Int} {text : String}
    (held : db.latest driverId = some ⟨.json data, expiresAt⟩)
    (given : data.recordedAt = .given text) :
    CacheIndependent driverId db ↔
      (Listed db driverId → ∃ row, LatestValid db driverId row ∧ Matches data row) := by
  have missing : (db.withoutLatest driverId).latest driverId = none := if_pos rfl
  constructor
  · rintro independent ⟨driver, found, active, online⟩
    have covered : Covers .superAdmin none driver := ⟨nofun, active, online, by simp⟩
    obtain ⟨stored, reports, agrees⟩ := independent .superAdmin none _
      (reports_iff.mpr ⟨driver, found, covered, _, (FleetService.locationData_cached held).mpr rfl,
        rfl⟩)
    obtain ⟨other, _, _, value, looked, rfl⟩ := reports_iff.mp reports
    obtain ⟨point, isLatest, _, rfl⟩ := (FleetService.locationData_uncached missing).mp looked
    cases point with
    | none => simp at agrees
    | some row =>
        refine ⟨row, isLatest row rfl, ?_⟩
        rcases agrees with same | ⟨cached, is, point, stands, rounds⟩
        · simp [FleetService.location, FleetService.ofPoint, given] at same
        · obtain rfl := Option.some.inj is
          obtain rfl := Option.some.inj stands
          exact rounds
  · intro latest actorRole actorOrgId reported reports
    obtain ⟨driver, found, covered, value, looked, rfl⟩ := reports_iff.mp reports
    obtain rfl := (FleetService.locationData_cached held).mp looked
    obtain ⟨row, isLatest, rounds⟩ := latest ⟨driver, found, covered.2.1, covered.2.2.1⟩
    refine ⟨_, reports_iff.mpr ⟨driver, found, covered, _,
      (FleetService.locationData_uncached missing).mpr ⟨some row, ?_, nofun, rfl⟩, rfl⟩, .inr ?_⟩
    · rintro _ ⟨⟩
      exact isLatest
    · exact ⟨_, rfl, _, rfl, rounds⟩

end Agreement

/-! ## Calls one after another -/

section Runs

/-- Redis and the database answer, and the cached location of the driver has not expired. -/
def Answering (driverId : Uuid) (db : Db) (input : Input) : Prop :=
  Present driverId db input ∧ input.fault = none

/-- The text in the cache at the start of a call. -/
def Visit.seen (visit : Visit) (driverId : Uuid) : Option CachedText :=
  (visit.before.latest driverId).map CacheEntry.text

/-- Where Redis answers, what was read is what is stored. -/
theorem Reads.eq_seen {supplied : Input → Prop} {driverId : Uuid} {visit : Visit}
    {seen : Option CachedText}
    (given : ∀ input, supplied input → Answering driverId visit.before input)
    (reads : Reads supplied driverId visit.before seen) : seen = visit.seen driverId := by
  obtain ⟨input, suited, rfl⟩ := reads
  exact present_read (given input suited).1

variable [DateText]

/-- The location that a call offers to the cache. -/
def Visit.payload (visit : Visit) (driverId : Uuid) : CachedLocationData :=
  TrackingService.cachedLocation visit.call.dto driverId visit.call.receivedAt

/-- The visit stored a point. -/
def Visit.Stored (visit : Visit) : Prop := visit.after.locationPoints ≠ visit.before.locationPoints

/-- The cache holds a location that a client has sent and that no stored point is newer than,
or there is neither location nor point. -/
inductive Tracked (driverId : Uuid) (db : Db) : Prop where
  | fresh (missing : db.latest driverId = none)
      (empty : ∀ row ∈ db.locationPoints.rows, row.driverId ≠ driverId)
  | cached (data : CachedLocationData) (expiresAt : Int) (text : String) (time : Int)
      (held : db.latest driverId = some ⟨.json data, expiresAt⟩)
      (given : data.recordedAt = .given text) (recorded : DateText.getTime text = some time)
      (bounded : ∀ row ∈ db.locationPoints.rows, row.driverId = driverId → row.recordedAt ≤ time)

variable {K : Type} [Field K] [LinearOrder K] [Geodesy K]

/-- A point of a driver that is listed goes to the cache only if it passes the velocity check,
and with a speed and a heading that are not zero, if any. -/
def Visit.Faithful (visit : Visit) (driverId : Uuid) : Prop :=
  Listed visit.before driverId → visit.Stored →
    TrackingCacheService.outOfOrder (visit.seen driverId) (visit.payload driverId) = false →
      (evaluateVelocity visit.call.dto (visit.seen driverId)).status = .valid ∧
        visit.call.dto.speedMps ≠ some 0 ∧ visit.call.dto.headingDeg ≠ some 0

section Step

variable {supplied : Input → Prop} {driverId : Uuid} {visit : Visit}

/-- A call that has stored a point has judged it by the cached location, and has offered it to
the cache. -/
theorem Ingested.offered {row : LocationPoint}
    (given : ∀ input, supplied input → Answering driverId visit.before input)
    (ingested : Ingested supplied visit.call.dto driverId visit.call.receivedAt visit.before
      visit.after row) :
    (∃ locationId, row = Prisma.LocationPoint.rounded (TrackingService.locationPoint visit.call.dto
      driverId visit.call.receivedAt (evaluateVelocity visit.call.dto
        (visit.seen driverId)).status locationId)) ∧
      Cached driverId (visit.payload driverId) visit.before.latest visit.after.latest
        (visit.seen driverId) := by
  obtain ⟨seen, locationId, reads, same⟩ := ingested.judged
  obtain rfl := reads.eq_seen given
  refine ⟨⟨locationId, same⟩, ?_⟩
  rcases ingested.cached with ⟨seen, reads, updated⟩ | ⟨_, input, failure, suited, fault⟩
  · obtain rfl := reads.eq_seen given
    exact updated
  · cases (given input suited).2.symm.trans fault

/-- An ingestion is such a visit. -/
theorem Ingested.stored {row : LocationPoint}
    (ingested : Ingested supplied visit.call.dto driverId visit.call.receivedAt visit.before
      visit.after row) : visit.Stored := by
  intro same
  have added : row ∈ visit.after.locationPoints.rows := ingested.mem_rows.mpr (.inr rfl)
  rw [same] at added
  exact Table.find?_eq_none.mp ingested.fresh row added rfl

/-- A stored point is not newer than the cached location, which stays, or is newer than all
stored points, and its location is cached. -/
theorem Tracked.late_or_newer {row : LocationPoint} (tracked : Tracked driverId visit.before)
    (given : ∀ input, supplied input → Answering driverId visit.before input)
    (ingested : Ingested supplied visit.call.dto driverId visit.call.receivedAt visit.before
      visit.after row) :
    DateText.getTime visit.call.dto.recordedAt = some row.recordedAt ∧
      ((TrackingCacheService.outOfOrder (visit.seen driverId) (visit.payload driverId) = true ∧
          visit.after.latest = visit.before.latest ∧
          ∃ data expiresAt text time, visit.before.latest driverId = some ⟨.json data, expiresAt⟩ ∧
            data.recordedAt = .given text ∧ DateText.getTime text = some time ∧
            row.recordedAt ≤ time ∧ ∀ other ∈ visit.before.locationPoints.rows,
              other.driverId = driverId → other.recordedAt ≤ time) ∨
        (TrackingCacheService.outOfOrder (visit.seen driverId) (visit.payload driverId) = false ∧
          (∃ expiresAt, visit.after.latest driverId =
            some ⟨.json (visit.payload driverId), expiresAt⟩) ∧
          ∀ other ∈ visit.before.locationPoints.rows, other.driverId = driverId →
            other.recordedAt < row.recordedAt)) := by
  obtain ⟨⟨locationId, same⟩, updated⟩ := ingested.offered given
  obtain ⟨newTime, dated⟩ := time_of_accepted ingested.accepted
  obtain rfl : row.recordedAt = newTime := by
    rw [same]
    simp [Prisma.LocationPoint.rounded, TrackingService.locationPoint, dated]
  have offered : (visit.payload driverId).recordedAt.getTime = some row.recordedAt := dated
  refine ⟨dated, ?_⟩
  cases updated with
  | late outOfOrder kept =>
      refine .inl ⟨outOfOrder, kept, ?_⟩
      cases tracked with
      | fresh missing empty =>
          rw [Visit.seen, missing] at outOfOrder
          cases outOfOrder
      | cached data expiresAt text time held sent recorded bounded =>
          have cachedTime : data.recordedAt.getTime = some time := sent ▸ recorded
          rw [Visit.seen, held, Option.map_some,
            TrackingCacheService.outOfOrder_json cachedTime offered] at outOfOrder
          exact ⟨data, expiresAt, text, time, held, sent, recorded, of_decide_eq_true outOfOrder,
            bounded⟩
  | newer inOrder expiresAt now =>
      refine .inr ⟨inOrder, ⟨expiresAt, by rw [now]; exact if_pos rfl⟩, fun other member mine => ?_⟩
      cases tracked with
      | fresh missing empty => exact absurd mine (empty other member)
      | cached data expiresAt text time held sent recorded bounded =>
          have cachedTime : data.recordedAt.getTime = some time := sent ▸ recorded
          rw [Visit.seen, held, Option.map_some,
            TrackingCacheService.outOfOrder_json cachedTime offered] at inOrder
          exact lt_of_le_of_lt (bounded other member mine) (not_le.mp (of_decide_eq_false inOrder))

/-- No stored point gets ahead of the cache. -/
theorem Tracked.step (tracked : Tracked driverId visit.before)
    (given : ∀ input, supplied input → Answering driverId visit.before input)
    (outcome : Outcome supplied visit.call.dto driverId visit.call.receivedAt visit.before
      visit.after) : Tracked driverId visit.after := by
  rcases outcome with spared | ⟨row, ingested⟩
  · cases tracked with
    | fresh missing empty =>
        exact .fresh (spared.latest ▸ missing) (spared.points ▸ empty)
    | cached data expiresAt text time held sent recorded bounded =>
        exact .cached data expiresAt text time (spared.latest ▸ held) sent recorded
          (spared.points ▸ bounded)
  · obtain ⟨dated, ⟨_, kept, data, expiresAt, text, time, held, sent, recorded, older, bounded⟩ |
      ⟨_, ⟨expiresAt, cached⟩, newest⟩⟩ := tracked.late_or_newer given ingested
    · refine .cached data expiresAt text time (kept ▸ held) sent recorded fun other member mine => ?_
      rcases ingested.mem_rows.mp member with old | rfl
      · exact bounded other old mine
      · exact older
    · refine .cached _ expiresAt visit.call.dto.recordedAt row.recordedAt cached rfl dated
        fun other member mine => ?_
      rcases ingested.mem_rows.mp member with old | rfl
      · exact (newest other old mine).le
      · exact le_refl _

/-- The location that a call caches is that of its point exactly if nothing is lost. -/
theorem matches_iff {row : LocationPoint} {locationId : Uuid} {status : ValidationStatus}
    (same : row = Prisma.LocationPoint.rounded (TrackingService.locationPoint visit.call.dto
      driverId visit.call.receivedAt status locationId))
    (dated : DateText.getTime visit.call.dto.recordedAt = some row.recordedAt) :
    Matches (visit.payload driverId) row ↔
      visit.call.dto.speedMps ≠ some 0 ∧ visit.call.dto.headingDeg ≠ some 0 := by
  rw [← orNull_map_eq speedColumn.round, ← orNull_map_eq headingColumn.round]
  have time : (DateString.iso row.recordedAt).getTime =
      (DateString.given visit.call.dto.recordedAt).getTime := dated.symm
  constructor
  · intro rounds
    have speedMps := rounds.speedMps
    have headingDeg := rounds.headingDeg
    rw [same] at speedMps headingDeg
    exact ⟨speedMps, headingDeg⟩
  · rintro ⟨speedMps, headingDeg⟩
    refine ⟨?_, ?_, ?_, ?_, ?_, time⟩
    all_goals rw [same]
    · rfl
    · rfl
    · rfl
    · exact speedMps
    · exact headingDeg

/-- The view stays independent of the cache over a call exactly if the call is faithful. -/
theorem Visit.independent_iff (tracked : Tracked driverId visit.before)
    (independent : CacheIndependent driverId visit.before)
    (given : ∀ input, supplied input → Answering driverId visit.before input)
    (outcome : Outcome supplied visit.call.dto driverId visit.call.receivedAt visit.before
      visit.after) : CacheIndependent driverId visit.after ↔ visit.Faithful driverId := by
  rcases outcome with spared | ⟨row, ingested⟩
  · refine iff_of_true ?_ fun _ stored => absurd spared.points stored
    cases tracked with
    | fresh missing _ => exact cacheIndependent_uncached (spared.latest ▸ missing)
    | cached data expiresAt text time held sent _ _ =>
        rw [cacheIndependent_cached (spared.latest ▸ held) sent,
          Listed.of_drivers spared.drivers, LatestValid.of_points spared.points]
        exact (cacheIndependent_cached held sent).mp independent
  · obtain ⟨⟨locationId, same⟩, _⟩ := ingested.offered given
    obtain ⟨dated, ⟨late, kept, data, expiresAt, text, time, held, sent, recorded, older, bounded⟩ |
      ⟨inOrder, ⟨expiresAt, cached⟩, newest⟩⟩ := tracked.late_or_newer given ingested
    · refine iff_of_true ?_ fun _ _ inOrder => absurd (late.symm.trans inOrder) nofun
      rw [cacheIndependent_cached (kept ▸ held) sent, Listed.of_drivers ingested.drivers]
      intro listed
      obtain ⟨latest, ⟨inPoints, _⟩, rounds⟩ :=
        (cacheIndependent_cached held sent).mp independent listed
      obtain ⟨inRows, mine, valid⟩ := Db.mem_validPoints.mp inPoints
      -- the point that was cached is still the latest
      have cachedTime : data.recordedAt.getTime = some time := sent ▸ recorded
      obtain rfl : latest.recordedAt = time := Option.some.inj (rounds.recordedAt.trans cachedTime)
      refine ⟨latest, ⟨Db.mem_validPoints.mpr ⟨ingested.mem_rows.mpr (.inl inRows), mine, valid⟩,
        fun other inTrack => ?_⟩, rounds⟩
      obtain ⟨inAfter, its, _⟩ := Db.mem_validPoints.mp inTrack
      rcases ingested.mem_rows.mp inAfter with old | rfl
      · exact bounded other old its
      · exact older
    · rw [cacheIndependent_cached cached rfl, Listed.of_drivers ingested.drivers]
      have driven : row.driverId = driverId := by
        rw [same]
        rfl
      have status : row.validationStatus =
          (evaluateVelocity visit.call.dto (visit.seen driverId)).status := by
        rw [same]
        rfl
      constructor
      · intro latest listed _ _
        obtain ⟨found, ⟨inPoints, _⟩, rounds⟩ := latest listed
        obtain ⟨inAfter, mine, valid⟩ := Db.mem_validPoints.mp inPoints
        -- only the new point has the time that is cached
        have time : found.recordedAt = row.recordedAt :=
          Option.some.inj (rounds.recordedAt.trans dated)
        rcases ingested.mem_rows.mp inAfter with old | rfl
        · exact absurd time (newest found old mine).ne
        · exact ⟨status ▸ valid, (matches_iff same dated).mp rounds⟩
      · intro faithful listed
        obtain ⟨valid, moving⟩ := faithful listed ingested.stored inOrder
        refine ⟨row, ⟨Db.mem_validPoints.mpr ⟨ingested.mem_rows.mpr (.inr rfl), driven,
          status.trans valid⟩, fun other inTrack => ?_⟩, (matches_iff same dated).mpr moving⟩
        obtain ⟨inAfter, mine, _⟩ := Db.mem_validPoints.mp inTrack
        rcases ingested.mem_rows.mp inAfter with old | rfl
        · exact (newest other old mine).le
        · exact le_refl _

end Step

/-- In every sequential run of calls for a driver that has neither points nor a cached location
at its start, while the database and Redis answer and the key does not expire, the fleet view
is independent of the cache in every state, exactly if every call is faithful. -/
theorem cache_independent_iff {driverId : Uuid} {start final : Db} {visits : List Visit}
    (run : Visits (Answering driverId) driverId start visits final)
    (missing : start.latest driverId = none)
    (empty : ∀ row ∈ start.locationPoints.rows, row.driverId ≠ driverId) :
    (∀ visit ∈ visits, CacheIndependent driverId visit.after) ↔
      ∀ visit ∈ visits, visit.Faithful driverId := by
  have connected : ∀ db input, Answering driverId db input → input.connected = true :=
    fun _ _ answering => answering.1.1
  have tracked : ∀ visit ∈ visits, Tracked driverId visit.after :=
    (run.all_iff (Tracked driverId) (fun _ => True) (.fresh missing empty)
      (fun visit before outcome =>
        iff_of_true (before.step (fun _ supplied => supplied.1) outcome) trivial)
      connected).mpr fun _ _ => trivial
  rw [← run.all_iff (fun db => Tracked driverId db ∧ CacheIndependent driverId db)
    (fun visit => visit.Faithful driverId)
    ⟨.fresh missing empty, cacheIndependent_uncached missing⟩
    (fun visit before outcome => ?_) connected]
  · exact forall₂_congr fun visit member => (and_iff_right (tracked visit member)).symm
  · have after := before.1.step (fun _ supplied => supplied.1) outcome
    rw [and_iff_right after]
    exact Visit.independent_iff before.1 before.2 (fun _ supplied => supplied.1) outcome

end Runs

/-! ### A vehicle that stands still -/

@[reducible] def standing : DateText := tableDates [("2026-09-02T08:00:00.000Z", 1788336000000)]

def listedDriver : Db where
  drivers := Table.empty.insert { id := 1, userId := 2, operationalStatus := .available }

def standingCall : TelemetryCall where
  dto :=
    { latitude := -62 / 10, longitude := 1068 / 10, accuracyM := 5,
      recordedAt := "2026-09-02T08:00:00.000Z", speedMps := some 0 }
  userRole := .driver
  receivedAt := 1788336001000
  channel := .rest

def standingVisit : Visit :=
  @TelemetryCall.visit standing ℚ _ _ onePlace standingCall 1 { uuid := 30, now := 1788336001000 }
    listedDriver

/-- The example is a run of one ingestion. -/
theorem standing_run : @Visits standing ℚ _ _ onePlace (Answering 1) 1 listedDriver
    [standingVisit] standingVisit.after := by
  let := standing
  let := onePlace
  apply Visits.refl.visit
  exact ⟨⟨rfl, by simp [listedDriver]⟩, rfl⟩

/-- The call of a vehicle that stands still. -/
theorem cache_independent_iff_standing :
    (∀ visit ∈ [standingVisit], @CacheIndependent standing 1 visit.after) ↔
      ∀ visit ∈ [standingVisit], @Visit.Faithful standing ℚ _ _ onePlace visit 1 := by
  let := standing
  let := onePlace
  exact cache_independent_iff standing_run rfl (by decide +kernel)

/-- The speed of a vehicle that stands still is cached as missing and stored as zero. -/
theorem cache_differs :
    ¬∀ (driverId : Uuid) (start final : Db) (visits : List Visit),
      start.latest driverId = none →
        (∀ row ∈ start.locationPoints.rows, row.driverId ≠ driverId) →
          @Visits standing ℚ _ _ onePlace (Answering driverId) driverId start visits final →
            ∀ visit ∈ visits, @CacheIndependent standing driverId visit.after := by
  intro claimed
  let := standing
  have independent := claimed 1 listedDriver _ _ rfl (by decide +kernel) standing_run standingVisit
    List.mem_cons_self
  have held : standingVisit.after.latest 1 =
      some ⟨.json (standingVisit.payload 1), 1788336001000 + 86400 * 1000⟩ := by decide +kernel
  have listed : Listed standingVisit.after 1 :=
    ⟨{ id := 1, userId := 2, operationalStatus := .available }, by decide +kernel, rfl, nofun⟩
  obtain ⟨row, ⟨inPoints, _⟩, rounds⟩ :=
    (cacheIndependent_cached held rfl).mp independent listed
  have stored : ∀ row ∈ standingVisit.after.validPoints 1, row.speedMps ≠ none := by
    decide +kernel
  exact stored row inPoints rounds.speedMps

end Armada.Tracking
