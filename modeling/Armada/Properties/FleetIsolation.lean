import Armada.Concurrency.Sequential
import Armada.Concurrency.Twin
import Armada.Tracking.FleetService

/-!
# Isolation of the fleet queries

What an OWNER reads of the fleet should not depend on the drivers of other organizations.
The list of the active drivers is scoped by the organization of the actor, if the actor has
one; the location history of a driver is not scoped at all.
-/

namespace Armada.Tracking

open Relational Concurrency

/-! ## What belongs to an organization -/

namespace Db

/-- The drivers of an organization. -/
def driversOf (db : Db) (organizationId : Uuid) : List Driver :=
  db.drivers.rows.filter fun driver => driver.organizationId = some organizationId

/-- What belongs to a driver. -/
structure Holding where
  assignments : List VehicleAssignment
  deliveries : List Delivery
  points : List LocationPoint
  latest : Option CacheEntry

/-- What the fleet view shows of a driver. -/
def holding (db : Db) (driverId : Uuid) : Holding where
  assignments := db.assignments.filter fun row => row.driverId = driverId
  deliveries := db.deliveries.rows.filter fun row => row.driverId = some driverId
  points := db.locationPoints.rows.filter fun row => row.driverId = driverId
  latest := db.latest driverId

/-- Two stores have the same drivers of an organization, with the same belongings. -/
structure Agree (organizationId : Uuid) (db other : Db) : Prop where
  drivers : other.driversOf organizationId = db.driversOf organizationId
  holdings : ∀ driver ∈ db.driversOf organizationId,
    other.holding driver.id = db.holding driver.id

/-- The drivers of an organization. -/
theorem mem_driversOf {db : Db} {organizationId : Uuid} {driver : Driver} :
    driver ∈ db.driversOf organizationId ↔
      driver ∈ db.drivers.rows ∧ driver.organizationId = some organizationId := by
  simp [driversOf]

end Db

/-- A request answers the same on every store that agrees with the present one on the
organization of the actor. Without an organization any two stores agree. -/
def Isolated {α : Type} (actorOrgId : Option Uuid) (db : Db) (process : Proc tracking α) :
    Prop :=
  ∀ inputs other, (∀ id ∈ actorOrgId, Db.Agree id db other) →
    (process.run inputs db).1 = (process.run inputs other).1

/-! ## What reads only the belongings of a driver -/

section Reads

variable {α β : Type} {known : α → Prop} {db other : Db} {driverId : Uuid}

/-- A query whose body reads the same in both states runs alike. -/
theorem query_alike {body : Input → Db → Except Failure (α × List Write)}
    (same : ∀ input, body input db = body input other)
    (reads : ∀ input value writes, body input db = .ok (value, writes) →
      writes = [] ∧ known value) :
    (liftM (query body) : Proc tracking α).Alike known db other := by
  refine Proc.Alike.statement (fun input => ?_) fun input value writes executed => ?_
  · simp only [query, same]
  · exact reads input value writes (query_succeeds.mp executed).2

/-- A read that gives the same in both states runs alike. -/
theorem select_alike {read : Db → α} (same : read db = read other) (holds : known (read db)) :
    (liftM (select read) : Proc tracking α).Alike known db other := by
  refine query_alike (fun _ => by rw [same]) fun _ value writes executed => ?_
  cases executed
  exact ⟨rfl, holds⟩

section Dates

variable [DateText]

/-- The reading of a date runs alike in all states. -/
theorem FleetService.toDate_alike (text : Option String) :
    (FleetService.toDate text).Alike (fun _ => True) db other := by
  have clock : (liftM FleetService.now : Proc tracking Int).Alike (fun _ => True) db other := by
    refine Proc.Alike.statement (fun _ => rfl) fun input value writes executed => ?_
    cases executed
    exact ⟨rfl, trivial⟩
  cases text with
  | none => exact clock.map fun _ _ => trivial
  | some text =>
      rw [FleetService.toDate]
      by_cases empty : text = ""
      · rw [if_pos empty]
        exact clock.map fun _ _ => trivial
      · rw [if_neg empty]
        exact Proc.Alike.pure trivial

/-- So does that of the range. -/
theorem FleetService.dateRange_alike (query : LocationHistoryQueryDto) :
    (FleetService.dateRange query).Alike (fun _ => True) db other := by
  refine (toDate_alike query.«to»).bind fun toDate _ => ?_
  refine (Proc.Alike.require _ _).bind fun fromDate _ => ?_
  refine (Proc.Alike.require _ _).bind fun toDate _ => ?_
  exact (Proc.Alike.rejectIf _ _).bind fun _ _ => Proc.Alike.pure trivial

end Dates

variable (belongs : other.holding driverId = db.holding driverId)

include belongs

/-- The VALID points of a driver with the same holding. -/
theorem validPoints_of_holding : other.validPoints driverId = db.validPoints driverId := by
  have points := congrArg Db.Holding.points belongs
  have restricted : ∀ store : Db, store.validPoints driverId =
      (store.holding driverId).points.filter fun row => row.validationStatus = .valid := by
    intro store
    rw [Db.holding, List.filter_filter]
    apply List.filter_congr
    intro row _
    simp [Bool.and_comm]
  rw [restricted, restricted, points]

/-- A GET of the position runs alike. -/
theorem get_alike : (liftM (RedisService.get driverId) : Proc tracking _).Alike (fun _ => True)
    db other := by
  have latest : other.latest driverId = db.latest driverId := congrArg Db.Holding.latest belongs
  refine Proc.Alike.statement (fun input => ?_) fun input value writes executed => ?_
  · simp only [RedisService.get, latest]
  · exact ⟨(RedisService.get_succeeds.mp executed).2, trivial⟩

/-- So does the query of the last VALID point. -/
theorem findLatestValid_alike :
    (liftM (Prisma.LocationPoint.findLatestValid driverId) : Proc tracking _).Alike
      (fun _ => True) db other := by
  refine query_alike (fun input => ?_) fun input value writes executed => ?_
  · simp only [validPoints_of_holding belongs]
  · cases executed
    exact ⟨rfl, trivial⟩

/-- The joined row of the driver. -/
theorem join_of_holding {driver : Driver} (same : driver.id = driverId) :
    Prisma.Driver.join other driver = Prisma.Driver.join db driver := by
  subst same
  have assignments := congrArg Db.Holding.assignments belongs
  have deliveries := congrArg Db.Holding.deliveries belongs
  have restricted : ∀ store : Db, Prisma.Driver.join store driver =
      ⟨driver, (store.holding driver.id).assignments.find? fun row => row.status = .active,
        (store.holding driver.id).deliveries.find? fun row =>
          row.status = .assigned ∨ row.status = .accepted ∨ row.status = .enRoute⟩ := by
    intro store
    simp [Prisma.Driver.join, Db.holding, List.find?_filter]
  rw [restricted, restricted, assignments, deliveries]

/-- The latest location runs alike. -/
theorem getLatestLocation_alike :
    (TrackingCacheService.getLatestLocation driverId).Alike (fun _ => True) db other := by
  refine (get_alike belongs).bind fun raw _ => ?_
  match raw with
  | some (.json location) => exact Proc.Alike.pure trivial
  | some .malformed => exact Proc.Alike.pure trivial
  | none => exact Proc.Alike.pure trivial

namespace FleetService

/-- The data of an item runs alike. -/
theorem locationData_alike (deliveryId : Option IdText) :
    (locationData driverId deliveryId).Alike (fun _ => True) db other := by
  refine (getLatestLocation_alike belongs).bind fun cached _ => ?_
  cases cached with
  | some data => exact Proc.Alike.pure trivial
  | none => exact (findLatestValid_alike belongs).bind fun point _ => Proc.Alike.pure trivial

/-- One item of the view runs alike. -/
theorem driverItem_alike {joined : Prisma.Driver.Joined} (same : joined.driver.id = driverId) :
    (driverItem joined).Alike (fun _ => True) db other := by
  subst same
  exact (locationData_alike belongs _).bind fun locData _ => Proc.Alike.pure trivial

variable [DateText]

/-- The history of a driver runs alike. -/
theorem historyOf_alike (query : LocationHistoryQueryDto) :
    (historyOf driverId query).Alike (fun _ => True) db other := by
  have points : ∀ fromDate toDate,
      Prisma.LocationPoint.inRange db driverId fromDate toDate =
        Prisma.LocationPoint.inRange other driverId fromDate toDate := by
    intro fromDate toDate
    rw [Prisma.LocationPoint.inRange, Prisma.LocationPoint.inRange,
      validPoints_of_holding belongs]
  refine (dateRange_alike query).bind fun range _ => ?_
  have found : (liftM (Prisma.LocationPoint.findRange driverId range.1 range.2
      (orDefault query.limit 100) (orDefault query.offset 0)) : Proc tracking _).Alike
        (fun _ => True) db other := by
    refine query_alike (fun input => ?_) fun input value writes executed => ?_
    · simp only [points]
    · cases executed
      exact ⟨rfl, trivial⟩
  have counted : (liftM (Prisma.LocationPoint.countRange driverId range.1 range.2) :
      Proc tracking _).Alike (fun _ => True) db other :=
    select_alike (by rw [points]) trivial
  exact found.bind fun points _ => counted.bind fun total _ => Proc.Alike.pure trivial

end FleetService

end Reads

/-! ## What an organization reads of its own drivers -/

section Own

variable {db other : Db} {organizationId : Uuid}
  (agree : Db.Agree organizationId db other)

namespace FleetService

include agree

/-- The query of an organization's drivers runs alike. -/
theorem findMany_alike :
    (liftM (Prisma.Driver.findMany (some organizationId)) : Proc tracking _).Alike
      (fun found => ∀ joined ∈ found, joined.driver ∈ db.driversOf organizationId) db other := by
  have restricted : ∀ store : Db, (store.drivers.rows.filter fun driver =>
      driver.userStatus = .active ∧ driver.operationalStatus ≠ .offline ∧
        ∀ id ∈ some organizationId, driver.organizationId = some id) =
      (store.driversOf organizationId).filter fun driver =>
        driver.userStatus = .active ∧ driver.operationalStatus ≠ .offline := by
    intro store
    rw [Db.driversOf, List.filter_filter]
    apply List.filter_congr
    intro driver _
    simp [Bool.and_assoc]
  refine select_alike ?_ fun joined member => ?_
  · rw [restricted, restricted, agree.drivers]
    apply List.map_congr_left
    intro driver member
    have own := (List.mem_filter.mp member).1
    exact (join_of_holding (agree.holdings driver own) rfl).symm
  · rw [restricted] at member
    obtain ⟨driver, kept, rfl⟩ := List.mem_map.mp member
    exact (List.mem_filter.mp kept).1

/-- The items of its drivers run alike. -/
theorem driverItems_alike {joined : List Prisma.Driver.Joined}
    (own : ∀ item ∈ joined, item.driver ∈ db.driversOf organizationId) :
    (driverItems joined).Alike (fun _ => True) db other := by
  induction joined with
  | nil => exact Proc.Alike.pure trivial
  | cons first others inductionHypothesis =>
      obtain ⟨here, rest⟩ := List.forall_mem_cons.mp own
      refine (driverItem_alike (agree.holdings _ here) rfl).bind fun item _ => ?_
      exact (inductionHypothesis rest).bind fun items _ => Proc.Alike.pure trivial

/-- The list of active drivers is that of the organization. -/
theorem locations_alike :
    (getAllActiveDriverLocations .owner (some organizationId)).Alike (fun _ => True)
      db other := by
  refine (Proc.Alike.rejectIf _ _).bind fun _ _ => ?_
  exact (findMany_alike agree).bind fun found own => driverItems_alike agree own

variable [DateText]

/-- The history of a driver of the organization. -/
theorem history_alike {driver : Driver} (own : driver ∈ db.driversOf organizationId)
    (query : LocationHistoryQueryDto) (actorRole : Role) (actorDriverId : Option Uuid) :
    (getDriverLocationHistory driver.id query actorRole actorDriverId).Alike (fun _ => True)
      db other := by
  have found : (liftM (Prisma.Driver.findUnique driver.id) : Proc tracking _).Alike
      (fun _ => True) db other := by
    have here := (Db.mem_driversOf.mp own).1
    have there := (Db.mem_driversOf.mp (agree.drivers ▸ own)).1
    exact select_alike ((Table.find?_of_mem here).trans (Table.find?_of_mem there).symm) trivial
  refine found.bind fun targetDriver _ => ?_
  refine (Proc.Alike.require _ _).bind fun _ _ => ?_
  refine (Proc.Alike.rejectIf _ _).bind fun _ _ => ?_
  exact historyOf_alike (agree.holdings driver own) query

end FleetService

end Own

/-! ## Two stores that differ in a stranger -/

namespace Db

/-- The store without a driver and what belongs to it. -/
def without (db : Db) (driverId : Uuid) : Db :=
  { db with
    drivers := db.drivers.filter (·.id ≠ driverId)
    assignments := db.assignments.filter (·.driverId ≠ driverId)
    deliveries := db.deliveries.filter (·.driverId ≠ some driverId)
    locationPoints := db.locationPoints.filter (·.driverId ≠ driverId)
    latest := fun other => if other = driverId then none else db.latest other }

/-- A driver of no organization. -/
def stranger (driverId : Uuid) : Driver where
  id := driverId
  userId := driverId

/-- The store with a driver of no organization in the place of a driver. -/
def withStranger (db : Db) (driverId : Uuid) : Db :=
  { db.without driverId with
    drivers := (db.without driverId).drivers.insert (stranger driverId) }

variable {db : Db} {organizationId driverId : Uuid}

/-- The driver is gone. -/
theorem driver?_without : (db.without driverId).driver? driverId = none := by
  rw [driver?, Table.find?_eq_none]
  intro row member
  have other : row.id ≠ driverId := by simpa using (List.mem_filter.mp member).2
  exact other

/-- The stranger is put at the end. -/
theorem rows_withStranger : (db.withStranger driverId).drivers.rows =
    (db.without driverId).drivers.rows ++ [stranger driverId] := by
  have fresh : driverId ∉ (db.without driverId).drivers.rows.map Keyed.key := by
    intro member
    obtain ⟨row, present, same⟩ := List.mem_map.mp member
    exact Table.find?_eq_none.mp driver?_without row present same
  have inserted : Keyed.key (stranger driverId) ∉
      (db.without driverId).drivers.rows.map Keyed.key := fresh
  simp only [withStranger, Table.insert, dif_pos inserted]

/-- The stranger has the driver's id. -/
theorem driver?_withStranger :
    (db.withStranger driverId).driver? driverId = some (stranger driverId) := by
  refine Table.find?_eq_some.mpr ⟨?_, rfl⟩
  rw [rows_withStranger]
  exact List.mem_append_right _ (List.mem_singleton_self _)

/-- What belongs to one is not touched where another's is removed. -/
theorem filter_other {R K : Type} [DecidableEq K] (rows : List R) (owner : R → K)
    {mine other : K} (different : mine ≠ other) :
    (rows.filter fun row => owner row ≠ other).filter (fun row => owner row = mine) =
      rows.filter fun row => owner row = mine := by
  rw [List.filter_filter]
  apply List.filter_congr
  intro row _
  by_cases own : owner row = mine
  · simp [own, different]
  · simp [own]

variable (foreign : ∀ driver ∈ db.driversOf organizationId, driver.id ≠ driverId)

include foreign

/-- Without a driver of another organization the two states agree. -/
theorem agree_without : Agree organizationId db (db.without driverId) where
  drivers := by
    change (db.drivers.rows.filter _).filter _ = db.drivers.rows.filter _
    rw [List.filter_filter]
    apply List.filter_congr
    intro driver member
    by_cases own : driver.organizationId = some organizationId
    · simpa [own] using foreign driver (mem_driversOf.mpr ⟨member, own⟩)
    · simp [own]
  holdings driver own := by
    have different := foreign driver own
    have named : some driver.id ≠ some driverId := fun same => different (Option.some.inj same)
    simp only [holding, without, Table.filter]
    rw [filter_other db.assignments VehicleAssignment.driverId different,
      filter_other db.deliveries.rows Delivery.driverId named,
      filter_other db.locationPoints.rows LocationPoint.driverId different, if_neg different]

/-- With a stranger in the driver's place they agree too. -/
theorem agree_withStranger : Agree organizationId db (db.withStranger driverId) where
  drivers := by
    rw [driversOf, rows_withStranger, List.filter_append]
    have none : [stranger driverId].filter
        (fun driver => driver.organizationId = some organizationId) = [] := by
      simp [stranger]
    rw [none, List.append_nil]
    exact (agree_without foreign).drivers
  holdings := (agree_without foreign).holdings

end Db

/-! ## When the fleet queries are isolated -/

section Isolation

variable [DateText] {db : Db}

namespace FleetService

/-- An environment in which no call fails. -/
abbrev calm : Input := {}

variable {after : Db} {error : Failure} {query : LocationHistoryQueryDto}

/-- A run without faults never fails to read a date. -/
theorem toDate_throws {text : Option String} :
    ¬(toDate text).Throws (· = calm) db error after := by
  have clock : ¬(liftM now : Proc tracking Int).Throws (· = calm) db error after := by
    rintro throws
    obtain ⟨input, _, impossible, _⟩ := Proc.throws_lift.mp throws
    cases impossible
  cases text with
  | none => exact fun throws => clock (Proc.throws_map.mp throws)
  | some text =>
      rw [toDate]
      by_cases empty : text = ""
      · rw [if_pos empty]
        exact fun throws => clock (Proc.throws_map.mp throws)
      · rw [if_neg empty]
        exact Proc.throws_pure

/-- Such a run fails at the range only for its dates. -/
theorem dateRange_throws (throws : (dateRange query).Throws (· = calm) db error after) :
    ∃ message, error = invalidDateRange message := by
  rcases Proc.throws_bind.mp throws with unread | ⟨_, _, _, throws⟩
  · exact absurd unread toDate_throws
  rcases Proc.throws_bind.mp throws with invalid | ⟨_, _, _, throws⟩
  · exact ⟨_, (Proc.throws_require.mp invalid).2.1⟩
  rcases Proc.throws_bind.mp throws with invalid | ⟨_, _, _, throws⟩
  · exact ⟨_, (Proc.throws_require.mp invalid).2.1⟩
  rcases Proc.throws_bind.mp throws with reversed | ⟨_, _, _, throws⟩
  · exact ⟨_, (Proc.throws_rejectIf.mp reversed).2.1⟩
  exact absurd throws Proc.throws_pure

/-- So it does at the whole history. -/
theorem historyOf_throws {targetDriverId : Uuid}
    (throws : (historyOf targetDriverId query).Throws (· = calm) db error after) :
    ∃ message, error = invalidDateRange message := by
  rcases Proc.throws_bind.mp throws with invalid | ⟨_, _, _, throws⟩
  · exact dateRange_throws invalid
  rcases Proc.throws_bind.mp throws with failed | ⟨_, _, _, throws⟩
  · obtain ⟨input, rfl, impossible, _⟩ := Proc.throws_lift.mp failed
    cases impossible
  rcases Proc.throws_bind.mp throws with failed | ⟨_, _, _, throws⟩
  · obtain ⟨input, rfl, impossible, _⟩ := Proc.throws_lift.mp failed
    cases impossible
  exact absurd throws Proc.throws_pure

/-- Where no call fails, a driver is reported as not found only if it is unknown. -/
theorem known_of_notFound {targetDriverId : Uuid} {actorDriverId : Option Uuid}
    (throws : (getDriverLocationHistory targetDriverId query .owner actorDriverId).Throws
      (· = calm) db (driverNotFound targetDriverId) after) :
    db.driver? targetDriverId = none := by
  rcases Proc.throws_bind.mp throws with failed | ⟨targetDriver, middle, read, throws⟩
  · obtain ⟨input, rfl, impossible, _⟩ := Proc.throws_lift.mp failed
    cases impossible
  rcases Proc.throws_bind.mp throws with unknown | ⟨_, _, _, throws⟩
  · obtain ⟨input, writes, rfl, executed, _⟩ := Proc.returns_lift.mp read
    cases executed
    exact (Proc.throws_require.mp unknown).1
  rcases Proc.throws_bind.mp throws with rejected | ⟨_, _, _, throws⟩
  · obtain ⟨impossible, _⟩ := Proc.throws_rejectIf.mp rejected
    simp at impossible
  obtain ⟨message, impossible⟩ := historyOf_throws throws
  cases impossible

/-- Asking for an unknown driver ends with the 404. -/
theorem notFound_of_unknown {targetDriverId : Uuid} {actorDriverId : Option Uuid}
    (unknown : db.driver? targetDriverId = none) :
    ((getDriverLocationHistory targetDriverId query .owner actorDriverId).run
      (fun _ _ => calm) db).1 = .error (driverNotFound targetDriverId) := by
  have read : (liftM (Prisma.Driver.findUnique targetDriverId) : Proc tracking _).Returns
      (· = calm) db none db :=
    Proc.returns_lift.mpr ⟨calm, [], rfl, select_succeeds.mpr ⟨rfl, unknown.symm, rfl⟩, rfl⟩
  have throws : (getDriverLocationHistory targetDriverId query .owner actorDriverId).Throws
      (· = calm) db (driverNotFound targetDriverId) db :=
    Proc.throws_bind.mpr (.inr ⟨none, db, read,
      Proc.throws_bind.mpr (.inl (Proc.throws_require.mpr ⟨rfl, rfl, rfl⟩))⟩)
  exact congrArg Prod.fst (Proc.runs_iff_run.mp throws)

/-- The history of a driver that is not of the organization is not isolated: that the driver
exists shows in the answer. -/
theorem history_leaks {actorOrgId : Option Uuid} {targetDriverId : Uuid}
    {actorDriverId : Option Uuid}
    (foreign : ∀ id ∈ actorOrgId, ∀ driver ∈ db.driversOf id, driver.id ≠ targetDriverId) :
    ¬Isolated actorOrgId db
      (getDriverLocationHistory targetDriverId query .owner actorDriverId) := by
  intro isolated
  have absent := isolated (fun _ _ => calm) (db.without targetDriverId)
    fun id actor => Db.agree_without (foreign id actor)
  have present := isolated (fun _ _ => calm) (db.withStranger targetDriverId)
    fun id actor => Db.agree_withStranger (foreign id actor)
  rw [absent, notFound_of_unknown Db.driver?_without] at present
  have unknown := known_of_notFound (Proc.runs_iff_run.mpr (Prod.ext present.symm rfl))
  rw [Db.driver?_withStranger] at unknown
  cases unknown

/-- A store with one active driver. -/
def oneDriver : Db where
  drivers := Table.empty.insert { id := 0, userId := 0, operationalStatus := .available }

omit [DateText] in
/-- Without an organization the active drivers of all organizations are listed. -/
theorem locations_leak :
    ¬Isolated none db (getAllActiveDriverLocations .owner none) := by
  intro isolated
  have empty := isolated (fun _ _ => calm) {} (by simp)
  have one := isolated (fun _ _ => calm) oneDriver (by simp)
  rw [empty] at one
  cases one

end FleetService

/-- When the answers to the fleet queries of an OWNER do not depend on the drivers of other
organizations. -/
theorem fleet_isolated_iff (actorOrgId : Option Uuid) (db : Db) :
    (Isolated actorOrgId db (FleetService.getAllActiveDriverLocations .owner actorOrgId) ↔
      actorOrgId ≠ none) ∧
    ∀ targetDriverId query actorDriverId,
      Isolated actorOrgId db (FleetService.getDriverLocationHistory targetDriverId query .owner
        actorDriverId) ↔
        ∃ id ∈ actorOrgId, ∃ driver ∈ db.driversOf id, driver.id = targetDriverId := by
  refine ⟨⟨?_, fun given => ?_⟩, fun targetDriverId query actorDriverId => ⟨?_, ?_⟩⟩
  · rintro isolated rfl
    exact FleetService.locations_leak isolated
  · obtain ⟨id, rfl⟩ := Option.ne_none_iff_exists'.mp given
    exact fun inputs other agree => (FleetService.locations_alike (agree id rfl)).run inputs
  · contrapose!
    exact fun foreign => FleetService.history_leaks foreign
  · rintro ⟨id, actor, driver, own, rfl⟩ inputs other agree
    exact (FleetService.history_alike (agree id actor) own query .owner actorDriverId).run inputs

end Isolation

/-! ## A driver of another organization -/

namespace Foreign

local instance : DateText := tableDates [("2026-09-01T00:00:00.000Z", 1788220800000),
  ("2026-09-02T00:00:00.000Z", 1788307200000)]

def query : LocationHistoryQueryDto where
  «from» := "2026-09-01T00:00:00.000Z"
  «to» := some "2026-09-02T00:00:00.000Z"

def point : LocationPoint where
  id := 30
  driverId := 20
  deliveryId := none
  latitude := -6
  longitude := 106
  geom := (106, -6)
  accuracyM := 5
  speedMps := none
  headingDeg := none
  recordedAt := 1788250000000
  receivedAt := 1788250000500
  source := "driver_app"
  validationStatus := .valid

/-- Driver 10 is of organization 1, driver 20 of organization 2. -/
def world : Db where
  drivers := (Table.empty.insert
    { id := 10, userId := 11, organizationId := some 1, operationalStatus := .available }).insert
    { id := 20, userId := 21, organizationId := some 2, operationalStatus := .available }
  locationPoints := Table.empty.insert point

/-- The OWNER of organization 1 is given the points of driver 20, who is unknown where
organization 2 has no driver. An OWNER without an organization is given both drivers. -/
theorem not_isolated :
    ¬Isolated (some 1) world
      (FleetService.getDriverLocationHistory 20 query .owner none) ∧
    ¬Isolated none world (FleetService.getAllActiveDriverLocations .owner none) := by
  refine ⟨fun isolated => ?_, FleetService.locations_leak⟩
  have given : ((FleetService.getDriverLocationHistory 20 query .owner none).run
      (fun _ _ => FleetService.calm) world).1 =
      .ok ⟨20, [FleetService.historyPoint point], ⟨100, 0, 1⟩⟩ := rfl
  have unknown : ((FleetService.getDriverLocationHistory 20 query .owner none).run
      (fun _ _ => FleetService.calm) (world.without 20)).1 =
      .error (FleetService.driverNotFound 20) := rfl
  have foreign : ∀ driver ∈ world.driversOf 1, driver.id ≠ 20 := by decide
  have same := isolated (fun _ _ => FleetService.calm) (world.without 20) fun id actor => by
    cases actor
    exact Db.agree_without foreign
  rw [given, unknown] at same
  cases same

end Foreign

end Armada.Tracking
