import Armada.Concurrency.Turns
import Armada.Concurrency.Windows
import Armada.Emergencies.EmergenciesService

/-!
# Emergencies and the status of their drivers

An alarm is raised after a look for an active emergency of the driver, and settled after a
look at its status; the transaction that writes does not look again. So the emergencies and
the statuses of their drivers stay consistent exactly if what was seen still holds when the
transaction commits.
-/

namespace Armada.Emergencies

open Relational Concurrency

/-! ## Consistency -/

/-- An active emergency of a driver is stored. -/
def Db.Alarmed (db : Db) (driverId : Uuid) : Prop :=
  ∃ row ∈ db.emergencies.rows, row.driverId = driverId ∧ row.status.active = true

/-- The driver statuses and the emergencies agree, and each driver has at most one active one. -/
structure Consistent (db : Db) : Prop where
  /-- Each driver has at most one active emergency. -/
  single : ∀ first ∈ db.emergencies.rows, ∀ second ∈ db.emergencies.rows,
    first.driverId = second.driverId → first.status.active = true →
      second.status.active = true → first = second
  /-- A driver that has raised an alarm is in the status of an emergency while one is active. -/
  linked : ∀ driver ∈ db.drivers.rows,
    (∃ row ∈ db.emergencies.rows, row.driverId = driver.id) →
      (driver.operationalStatus = .emergency ↔ db.Alarmed driver.id)

/-- A settled emergency keeps its status, and an acknowledged one is not raised again. -/
def Lasting (before after : Db) : Prop :=
  ∀ id row, before.emergency? id = some row → ∃ later, after.emergency? id = some later ∧
    (row.status.active = false → later.status = row.status) ∧
    (row.status = .acknowledged → later.status ≠ .triggered)

/-- What a transaction looked for still holds where it commits: for an alarm, no active
emergency of the driver; for an update, an active emergency. An update that repeats the
status of a settled emergency does no harm either while its driver has no active one. -/
structure Timely (before : Db) (writes : List Write) : Prop where
  raises : ∀ row, .createEmergency row ∈ writes → ¬before.Alarmed row.driverId
  settles : ∀ id data, .updateEmergency id data ∈ writes →
    ∀ row, before.emergency? id = some row → row.status.active = true ∨
      (data.status = row.status ∧ ¬before.Alarmed row.driverId)

/-- Nothing changed lasts. -/
theorem Lasting.refl (db : Db) : Lasting db db := by
  intro id row found
  refine ⟨row, found, fun _ => rfl, fun acknowledged => ?_⟩
  rw [acknowledged]
  rintro ⟨⟩

/-- No writes are timely. -/
theorem Timely.nil (db : Db) : Timely db [] where
  raises _ member := by simp at member
  settles _ _ member := by simp at member

/-! ## What a turn may do -/

/-- The writes of an alarm of a driver. -/
inductive Raised (before : Db) (driverId : Uuid) : List Write → Prop where
  | intro {row : Emergency} {log : AuditLog} {emission : Emission}
      (own : row.driverId = driverId) (driver : before.driver? row.driverId ≠ none)
      (fresh : before.emergency? row.id = none) (status : row.status = .triggered) :
      Raised before driverId [.createEmergency row, .updateDriver row.driverId .emergency,
        .createAuditLog log, .emit emission]

/-- The writes of an update of an emergency that was seen before. -/
inductive Settled (before : Db) (id : Uuid) (seen : Emergency) : List Write → Prop where
  | acknowledged {row : Emergency} {data : EmergencyData} {log : AuditLog}
      (found : before.emergency? id = some row) (status : data.status = .acknowledged) :
      Settled before id seen [.updateEmergency id data, .createAuditLog log]
  | ended {row : Emergency} {data : EmergencyData}
      {operationalStatus : Tracking.OperationalStatus} {log : AuditLog}
      (found : before.emergency? id = some row) (driver : before.driver? seen.driverId ≠ none)
      (terminal : data.status.active = false) (freed : operationalStatus ≠ .emergency) :
      Settled before id seen [.updateEmergency id data,
        .updateDriver seen.driverId operationalStatus, .createAuditLog log]

/-- An alarm has seen the driver without an active emergency in a turn of its own, and an update
has seen the emergency active; their earlier turns have changed nothing. -/
inductive Deed (history : List (Concurrency.Turn sos)) (turn : Concurrency.Turn sos) : Prop where
  | idle (idle : turn.writes = [])
  | raised {driverId : Uuid}
      (looked : ∃ lookup ∈ history, ¬lookup.before.Alarmed driverId)
      (only : ∀ earlier ∈ history, earlier.writes = [])
      (raised : Raised turn.before driverId turn.writes)
  | settled {id : Uuid} {seen : Emergency}
      (looked : ∃ lookup ∈ history, lookup.before.emergency? id = some seen)
      (active : seen.status.active = true) (only : ∀ earlier ∈ history, earlier.writes = [])
      (settled : Settled turn.before id seen turn.writes)

section Services

variable {thread : Nat}

/-- The transaction of a trigger raises the alarm at most. -/
theorem trigger_yields (driver : Driver) (driverId actorUserId : Uuid) (dto : TriggerEmergencyDto)
    (before : Db) : (EmergenciesService.trigger driver driverId actorUserId dto).Yields
      (fun _ writes => Raised before driverId writes) before [] := by
  rw [EmergenciesService.trigger]
  simp only [Txn.yields_bind, Txn.yields_lift, Txn.yields_pure]
  intro input row writes created _ _ updates updated _ _ audit audited _ _ told emitted
  obtain ⟨driverFound, fresh, same, status, rfl⟩ := Prisma.Emergency.create_succeeds created
  obtain ⟨_, _, rfl⟩ := Prisma.Driver.update_succeeds.mp updated
  obtain ⟨_, logged⟩ := query_succeeds.mp audited
  obtain ⟨_, rfl⟩ := Prod.mk.inj (Except.ok.inj logged)
  obtain ⟨_, rfl⟩ := Prod.mk.inj (Except.ok.inj emitted)
  have isDriver : row.driverId = driverId := same
  rw [← isDriver]
  exact .intro rfl driverFound fresh status

/-- The transaction of a status update settles the emergency at most. -/
theorem settle_yields (seen : Emergency) (id : IdText) (dto : UpdateEmergencyStatusDto)
    (actorUserId : Uuid) (before : Db) :
    (EmergenciesService.settle seen id dto actorUserId).Yields
      (fun _ writes => Settled before id seen writes) before [] := by
  rw [EmergenciesService.settle]
  rw [Txn.yields_bind, Txn.yields_lift]
  intro input row writes updated
  obtain ⟨old, found, rfl⟩ := Prisma.Emergency.update_succeeds updated
  have sets := EmergenciesService.updateData_status dto actorUserId input
  by_cases terminal : dto.status.active = false
  · rw [if_pos terminal, EmergenciesService.release]
    simp only [Txn.yields_bind, Txn.yields_lift, Txn.yields_pure]
    intro _ delivery _ looked _ _ _ freed _ _ _ audited
    obtain ⟨_, seeking⟩ := query_succeeds.mp looked
    obtain ⟨_, rfl⟩ := Prod.mk.inj (Except.ok.inj seeking)
    obtain ⟨_, driver, rfl⟩ := Prisma.Driver.update_succeeds.mp freed
    obtain ⟨_, logged⟩ := query_succeeds.mp audited
    obtain ⟨_, rfl⟩ := Prod.mk.inj (Except.ok.inj logged)
    refine .ended found driver (sets ▸ terminal) ?_
    split
    · rintro ⟨⟩
    · rintro ⟨⟩
  · rw [if_neg terminal]
    simp only [Txn.yields_bind, Txn.yields_lift, Txn.yields_pure]
    intro _ _ _ audited
    obtain ⟨_, logged⟩ := query_succeeds.mp audited
    obtain ⟨_, rfl⟩ := Prod.mk.inj (Except.ok.inj logged)
    refine .acknowledged found (sets.trans ?_)
    cases dto with
    | acknowledged => rfl
    | resolved => exact absurd rfl terminal
    | falseAlarm => exact absurd rfl terminal

/-- Before its transaction a request only looks. -/
theorem writes_of_look {turn : Concurrency.Turn sos} {β : Type} {read : Input → Db → β}
    (performs : turn.Performs (query fun input before => .ok (read input before, []))) :
    turn.writes = [] := by
  refine performs.idle fun _ _ _ _ executed => ?_
  obtain ⟨_, rfl⟩ := Prod.mk.inj (Except.ok.inj (query_succeeds.mp executed).2)
  rfl

/-- The trigger is a sequence of such turns. -/
theorem triggerEmergency_meets (driverId actorUserId : Uuid) (dto : TriggerEmergencyDto) :
    (EmergenciesService.triggerEmergency driverId actorUserId dto).Meets
      (.turns (fun _ => True) thread Deed) (fun _ _ => True) [] := by
  rw [EmergenciesService.triggerEmergency]
  refine Proc.Meets.told (fun _ performs => .idle (writes_of_look performs)) (fun _ _ => trivial)
    fun found first firstRead => ?_
  refine Proc.Meets.require (fun _ => trivial) fun driver _ => ?_
  refine Proc.Meets.told (fun _ performs => .idle (writes_of_look performs)) (fun _ _ => trivial)
    fun active lookup looked => ?_
  refine Proc.Meets.rejectIf (fun _ => trivial) fun none => ?_
  have calm : ¬lookup.before.Alarmed driverId := by
    rintro ⟨row, member, own, isActive⟩
    exact Prisma.Emergency.findFirst_none (not_not.mp none ▸ looked.succeeds) row member own isActive
  have only : ∀ earlier ∈ [] ++ [first] ++ [lookup], earlier.writes = [] := by
    simp [writes_of_look firstRead.1, writes_of_look looked.1]
  refine Proc.Meets.commits (fun turn _ _ _ idle => ⟨.idle idle, fun _ => trivial⟩) fun before =>
    (trigger_yields driver driverId actorUserId dto before).mono ?_
  rintro _ writes raised turn _ _ _ rfl rfl
  exact ⟨.raised ⟨lookup, by simp, calm⟩ only raised, trivial⟩

/-- So is the status update. -/
theorem updateEmergencyStatus_meets (id : IdText) (dto : UpdateEmergencyStatusDto)
    (actorUserId : Uuid) :
    (EmergenciesService.updateEmergencyStatus id dto actorUserId).Meets
      (.turns (fun _ => True) thread Deed) (fun _ _ => True) [] := by
  rw [EmergenciesService.updateEmergencyStatus]
  refine Proc.Meets.told (fun _ performs => .idle (writes_of_look performs)) (fun _ _ => trivial)
    fun found lookup looked => ?_
  obtain ⟨_, read⟩ := query_succeeds.mp looked.succeeds
  obtain ⟨rfl, _⟩ := Prod.mk.inj (Except.ok.inj read)
  refine Proc.Meets.require (fun _ => trivial) fun seen present => ?_
  refine Proc.Meets.rejectIf (fun _ => trivial) fun active => ?_
  have only : ∀ earlier ∈ [] ++ [lookup], earlier.writes = [] := by
    simp [writes_of_look looked.1]
  refine Proc.Meets.commits (fun turn _ _ _ idle => ⟨.idle idle, fun _ => trivial⟩) fun before =>
    (settle_yields seen id dto actorUserId before).mono ?_
  rintro _ writes settled turn _ _ _ rfl rfl
  exact ⟨.settled ⟨lookup, by simp, present⟩ (by simpa using active) only settled, trivial⟩

/-- So is every request. -/
theorem proc_meets (request : Request) :
    request.proc.Meets (.turns (fun _ => True) thread Deed) (fun _ _ => True) [] := by
  cases request with
  | triggerEmergency driverId actorUserId dto =>
      exact triggerEmergency_meets driverId actorUserId dto
  | updateEmergencyStatus id dto actorUserId =>
      exact updateEmergencyStatus_meets id dto actorUserId

end Services

/-! ## One turn -/

/-- An emergency of the driver is stored. -/
def Db.Known (db : Db) (driverId : Uuid) : Prop :=
  ∃ row ∈ db.emergencies.rows, row.driverId = driverId

section Steps

variable {before after : Db}

/-- A turn that sets the status of one driver and concerns no other keeps the link if the
status tells whether this driver has an active emergency. -/
theorem linked_of_others {driverId : Uuid} {operationalStatus : Tracking.OperationalStatus}
    (consistent : Consistent before)
    (drivers : after.drivers = before.drivers.modify driverId (Driver.setStatus operationalStatus))
    (known : ∀ other, other ≠ driverId → after.Known other → before.Known other)
    (alarmed : ∀ other, other ≠ driverId → (after.Alarmed other ↔ before.Alarmed other))
    (here : operationalStatus = .emergency ↔ after.Alarmed driverId) :
    ∀ driver ∈ after.drivers.rows, after.Known driver.id →
      (driver.operationalStatus = .emergency ↔ after.Alarmed driver.id) := by
  intro driver member isKnown
  rw [drivers, Table.mem_modify (Driver.key_setStatus operationalStatus)] at member
  obtain ⟨old, oldMember, rfl⟩ := member
  by_cases same : old.id = driverId
  · rw [if_pos (show Keyed.key old = driverId from same)]
    exact same ▸ here
  · rw [if_neg (show ¬Keyed.key old = driverId from same)] at isKnown ⊢
    rw [alarmed old.id same]
    exact consistent.linked old oldMember (known old.id same isKnown)

/-! ### An alarm -/

section Raised

variable {row : Emergency} (fresh : before.emergency? row.id = none)
  (emergencies : after.emergencies = before.emergencies.insert row)

include fresh emergencies

/-- The rows after an alarm is raised. -/
theorem mem_raised {other : Emergency} :
    other ∈ after.emergencies.rows ↔ other ∈ before.emergencies.rows ∨ other = row := by
  rw [emergencies, Table.mem_insert fresh]

/-- An alarm of a calm driver keeps the state consistent. -/
theorem consistent_of_raised (consistent : Consistent before)
    (calm : ¬before.Alarmed row.driverId) (status : row.status = .triggered)
    (drivers : after.drivers =
      before.drivers.modify row.driverId (Driver.setStatus .emergency)) : Consistent after where
  single := by
    intro first firstMember second secondMember same firstActive secondActive
    rw [mem_raised fresh emergencies] at firstMember secondMember
    rcases firstMember with old | rfl <;> rcases secondMember with otherOld | rfl
    · exact consistent.single first old second otherOld same firstActive secondActive
    · exact absurd ⟨first, old, same, firstActive⟩ calm
    · exact absurd ⟨second, otherOld, same.symm, secondActive⟩ calm
    · rfl
  linked := by
    refine linked_of_others consistent drivers ?_ ?_ ?_
    · rintro other different ⟨found, member, rfl⟩
      rcases (mem_raised fresh emergencies).mp member with old | rfl
      · exact ⟨found, old, rfl⟩
      · exact absurd rfl different
    · refine fun other different => ⟨?_, ?_⟩
      · rintro ⟨found, member, rfl, active⟩
        rcases (mem_raised fresh emergencies).mp member with old | rfl
        · exact ⟨found, old, rfl, active⟩
        · exact absurd rfl different
      · rintro ⟨found, member, rfl, active⟩
        exact ⟨found, (mem_raised fresh emergencies).mpr (.inl member), rfl, active⟩
    · refine iff_of_true rfl ⟨row, (mem_raised fresh emergencies).mpr (.inr rfl), rfl, ?_⟩
      rw [status]
      rfl

omit fresh in
/-- An alarm leaves the settled rows. -/
theorem lasting_of_raised : Lasting before after := by
  intro id old found
  refine ⟨old, ?_, fun _ => rfl, fun acknowledged => ?_⟩
  · rw [Db.emergency?, emergencies]
    exact Table.find?_insert_of_some found
  · rw [acknowledged]
    rintro ⟨⟩

/-- In a consistent state a new TRIGGERED row means the driver was calm. -/
theorem calm_of_consistent (status : row.status = .triggered) (consistent : Consistent after) :
    ¬before.Alarmed row.driverId := by
  rintro ⟨old, member, same, active⟩
  have isRow : old = row := consistent.single old ((mem_raised fresh emergencies).mpr (.inl member))
    row ((mem_raised fresh emergencies).mpr (.inr rfl)) same active (by rw [status]; rfl)
  exact Table.find?_eq_none.mp fresh old member (by rw [isRow]; rfl)

end Raised

/-! ### An update -/

/-- An emergency as an update leaves it. -/
def revise (id : Uuid) (data : EmergencyData) (row : Emergency) : Emergency :=
  if row.id = id then data.set row else row

/-- A revision keeps the driver. -/
theorem driverId_revise (id : Uuid) (data : EmergencyData) (row : Emergency) :
    (revise id data row).driverId = row.driverId := by
  rw [revise]
  split <;> rfl

/-- A revision leaves the other rows. -/
theorem revise_of_ne {id : Uuid} {row : Emergency} (data : EmergencyData) (other : row.id ≠ id) :
    revise id data row = row := if_neg other

/-- The status of the revised row. -/
theorem status_revise {id : Uuid} {row : Emergency} (data : EmergencyData) (same : row.id = id) :
    (revise id data row).status = data.status := by
  rw [revise, if_pos same]
  rfl

section Settled

variable {id : Uuid} {row : Emergency} {data : EmergencyData}
  (found : before.emergency? id = some row)
  (emergencies : after.emergencies = before.emergencies.modify id data.set)

include emergencies

/-- The rows after an emergency is settled. -/
theorem mem_settled {other : Emergency} : other ∈ after.emergencies.rows ↔
    ∃ old ∈ before.emergencies.rows, other = revise id data old := by
  rw [emergencies, Table.mem_modify data.key_set]
  rfl

/-- The row of an id after it. -/
theorem emergency?_settled (other : Uuid) :
    after.emergency? other = (before.emergency? other).map (revise id data) := by
  rw [Db.emergency?, emergencies, Table.find?_modify _ _ _ data.key_set, Db.emergency?]
  cases read : before.emergencies.find? other with
  | none => simp
  | some old =>
      have isOther : old.id = other := Table.key_of_find? read
      rw [Option.map_some, Option.map_some, revise, isOther]
      split <;> rfl

/-- Its drivers are those known before. -/
theorem known_settled {driverId : Uuid} (known : after.Known driverId) : before.Known driverId := by
  obtain ⟨_, member, same⟩ := known
  obtain ⟨old, oldMember, rfl⟩ := (mem_settled emergencies).mp member
  exact ⟨old, oldMember, (driverId_revise id data old).symm.trans same⟩

/-- An update that leaves no emergency active that was not so before leaves at most one. -/
theorem single_of_settled (consistent : Consistent before)
    (calms : ∀ old ∈ before.emergencies.rows, (revise id data old).status.active = true →
      old.status.active = true) :
    ∀ first ∈ after.emergencies.rows, ∀ second ∈ after.emergencies.rows,
      first.driverId = second.driverId → first.status.active = true →
        second.status.active = true → first = second := by
  intro first firstMember second secondMember same firstActive secondActive
  obtain ⟨old, oldMember, rfl⟩ := (mem_settled emergencies).mp firstMember
  obtain ⟨other, otherMember, rfl⟩ := (mem_settled emergencies).mp secondMember
  rw [driverId_revise, driverId_revise] at same
  rw [consistent.single old oldMember other otherMember same (calms old oldMember firstActive)
    (calms other otherMember secondActive)]

include found

omit emergencies in
/-- The row that an update finds is the one that it changes. -/
theorem eq_of_settled {old : Emergency} (member : old ∈ before.emergencies.rows)
    (same : old.id = id) : old = row :=
  Table.eq_of_key member (Table.mem_of_find? found) (same.trans (Table.key_of_find? found).symm)

/-- A settlement of an active row leaves the settled rows. -/
theorem lasting_of_settled (raised : data.status ≠ .triggered)
    (harmless : row.status.active = true ∨ data.status = row.status) : Lasting before after := by
  intro other old read
  refine ⟨revise id data old, ?_, ?_⟩
  · rw [emergency?_settled emergencies, read, Option.map_some]
  by_cases same : old.id = id
  · obtain rfl := eq_of_settled found (Table.mem_of_find? read) same
    rw [status_revise data same]
    refine ⟨fun terminal => ?_, fun _ => raised⟩
    rcases harmless with active | unchanged
    · cases active.symm.trans terminal
    · exact unchanged
  · rw [revise_of_ne data same]
    refine ⟨fun _ => rfl, fun acknowledged => ?_⟩
    rw [acknowledged]
    rintro ⟨⟩

/-- Where the settled rows are left, a terminal one keeps its status. -/
theorem status_of_lasting (lasting : Lasting before after) (terminal : row.status.active = false) :
    data.status = row.status := by
  obtain ⟨later, read, kept, _⟩ := lasting id row found
  rw [emergency?_settled emergencies, found, Option.map_some] at read
  obtain rfl := Option.some.inj read
  exact (status_revise data (Table.key_of_find? found)).symm.trans (kept terminal)

/-- An acknowledgement of an active row keeps the state consistent. -/
theorem consistent_of_acknowledged (consistent : Consistent before)
    (status : data.status = .acknowledged) (active : row.status.active = true)
    (drivers : after.drivers = before.drivers) : Consistent after := by
  have same : ∀ old ∈ before.emergencies.rows,
      ((revise id data old).status.active = true ↔ old.status.active = true) := by
    intro old member
    by_cases isRow : old.id = id
    · rw [status_revise data isRow, status, eq_of_settled found member isRow]
      exact iff_of_true rfl active
    · rw [revise_of_ne data isRow]
  refine ⟨single_of_settled emergencies consistent fun old member => (same old member).mp,
    fun driver member known => ?_⟩
  rw [drivers] at member
  rw [consistent.linked driver member (known_settled emergencies known)]
  constructor
  · rintro ⟨old, oldMember, isDriver, oldActive⟩
    exact ⟨revise id data old, (mem_settled emergencies).mpr ⟨old, oldMember, rfl⟩,
      (driverId_revise id data old).trans isDriver, (same old oldMember).mpr oldActive⟩
  · rintro ⟨_, laterMember, isDriver, laterActive⟩
    obtain ⟨old, oldMember, rfl⟩ := (mem_settled emergencies).mp laterMember
    exact ⟨old, oldMember, (driverId_revise id data old).symm.trans isDriver,
      (same old oldMember).mp laterActive⟩

section Ended

variable {operationalStatus : Tracking.OperationalStatus} (terminal : data.status.active = false)
  (freed : operationalStatus ≠ .emergency)
  (drivers : after.drivers =
    before.drivers.modify row.driverId (Driver.setStatus operationalStatus))

include terminal freed drivers

/-- The end of an emergency keeps it consistent. -/
theorem consistent_of_ended (consistent : Consistent before)
    (harmless : row.status.active = true ∨ ¬before.Alarmed row.driverId) : Consistent after := by
  have remains : ∀ old ∈ before.emergencies.rows, (revise id data old).status.active = true →
      old.id ≠ id ∧ old.status.active = true := by
    intro old member active
    by_cases isRow : old.id = id
    · rw [status_revise data isRow, terminal] at active
      cases active
    · exact ⟨isRow, revise_of_ne data isRow ▸ active⟩
  refine ⟨single_of_settled emergencies consistent fun old member active =>
    (remains old member active).2, ?_⟩
  refine linked_of_others consistent drivers (fun _ _ => known_settled emergencies) ?_
    (iff_of_false freed ?_)
  · refine fun other different => ⟨?_, ?_⟩
    · rintro ⟨_, laterMember, isDriver, laterActive⟩
      obtain ⟨old, oldMember, rfl⟩ := (mem_settled emergencies).mp laterMember
      exact ⟨old, oldMember, (driverId_revise id data old).symm.trans isDriver,
        (remains old oldMember laterActive).2⟩
    · rintro ⟨old, oldMember, rfl, active⟩
      have isOther : old.id ≠ id := fun isRow =>
        different (congrArg Emergency.driverId (eq_of_settled found oldMember isRow))
      exact ⟨old, (mem_settled emergencies).mpr ⟨old, oldMember, (revise_of_ne data isOther).symm⟩,
        rfl, active⟩
  · rintro ⟨_, laterMember, isDriver, laterActive⟩
    obtain ⟨old, oldMember, rfl⟩ := (mem_settled emergencies).mp laterMember
    rw [driverId_revise] at isDriver
    obtain ⟨isOther, oldActive⟩ := remains old oldMember laterActive
    rcases harmless with active | calm
    · obtain rfl := consistent.single old oldMember row (Table.mem_of_find? found) isDriver
        oldActive active
      exact isOther (Table.key_of_find? found)
    · exact calm ⟨old, oldMember, isDriver, oldActive⟩

omit terminal in
/-- A consistent state in which an emergency is over has a calm driver. -/
theorem calm_of_ended (consistent : Consistent after) (driver : before.driver? row.driverId ≠ none)
    (settled : row.status.active = false) : ¬before.Alarmed row.driverId := by
  rintro ⟨old, oldMember, isDriver, active⟩
  have isOther : old.id ≠ id := by
    intro isRow
    rw [eq_of_settled found oldMember isRow, settled] at active
    cases active
  obtain ⟨driver, present⟩ := Option.ne_none_iff_exists'.mp driver
  have driverId : driver.id = row.driverId := Table.key_of_find? present
  have member : driver.setStatus operationalStatus ∈ after.drivers.rows := by
    rw [drivers, Table.mem_modify (Driver.key_setStatus operationalStatus)]
    exact ⟨driver, Table.mem_of_find? present, (if_pos driverId).symm⟩
  have alarmed : after.Alarmed driver.id :=
    ⟨old, (mem_settled emergencies).mpr ⟨old, oldMember, (revise_of_ne data isOther).symm⟩,
      isDriver.trans driverId.symm, active⟩
  have known : after.Known driver.id := alarmed.imp fun _ both => ⟨both.1, both.2.1⟩
  exact freed ((consistent.linked _ member known).mpr alarmed)

end Ended

end Settled

end Steps

/-- Writes on a consistent store keep it consistent and settled emergencies settled. -/
def Keeps (before : Db) (writes : List Write) : Prop :=
  Consistent (sos.applyAll writes before) ∧ Lasting before (sos.applyAll writes before)

/-- A raised alarm keeps the state exactly when it is timely. -/
theorem Raised.keeps_iff {before : Db} {driverId : Uuid} {writes : List Write}
    (raised : Raised before driverId writes) (consistent : Consistent before) :
    Keeps before writes ↔ Timely before writes := by
  obtain ⟨_, driver, fresh, status⟩ := raised
  constructor
  · rintro ⟨now, _⟩
    refine ⟨fun row member => ?_, fun id data member => ?_⟩
    · obtain rfl : row = _ := by simpa using member
      exact calm_of_consistent fresh rfl status now
    · simp at member
  · intro timely
    have calm := timely.raises _ List.mem_cons_self
    exact ⟨consistent_of_raised fresh rfl consistent calm status rfl, lasting_of_raised rfl⟩

/-- So does a settlement. -/
theorem Settled.keeps_iff {before : Db} {id : Uuid} {seen : Emergency} {writes : List Write}
    (settled : Settled before id seen writes) (consistent : Consistent before)
    (kept : ∀ row, before.emergency? id = some row → row.driverId = seen.driverId) :
    Keeps before writes ↔ Timely before writes := by
  cases settled with
  | @acknowledged row data log found status =>
      constructor
      · rintro ⟨_, lasting⟩
        refine ⟨fun row member => by simp at member, fun other changed member old read => ?_⟩
        obtain ⟨rfl, rfl⟩ : other = id ∧ changed = data := by simpa using member
        obtain rfl := Option.some.inj (found.symm.trans read)
        cases active : row.status.active with
        | true => exact .inl rfl
        | false =>
            rw [← status_of_lasting found rfl lasting active, status] at active
            cases active
      · intro timely
        have raised : data.status ≠ .triggered := by
          rw [status]
          rintro ⟨⟩
        rcases timely.settles id data List.mem_cons_self row found with active | ⟨same, _⟩
        · exact ⟨consistent_of_acknowledged found rfl consistent status active rfl,
            lasting_of_settled found rfl raised (.inl active)⟩
        · have active : row.status.active = true := by
            rw [← same, status]
            rfl
          exact ⟨consistent_of_acknowledged found rfl consistent status active rfl,
            lasting_of_settled found rfl raised (.inr same)⟩
  | @ended row data operationalStatus log found driver terminal freed =>
      have isDriver := kept row found
      rw [← isDriver] at driver
      constructor
      · rintro ⟨now, lasting⟩
        refine ⟨fun row member => by simp at member, fun other changed member old read => ?_⟩
        obtain ⟨rfl, rfl⟩ : other = id ∧ changed = data := by simpa using member
        obtain rfl := Option.some.inj (found.symm.trans read)
        cases active : row.status.active with
        | true => exact .inl rfl
        | false =>
            exact .inr ⟨status_of_lasting found rfl lasting active,
              calm_of_ended found rfl freed (isDriver ▸ rfl) now driver active⟩
      · intro timely
        have raised : data.status ≠ .triggered := by
          intro triggered
          rw [triggered] at terminal
          cases terminal
        have harmless := timely.settles id data List.mem_cons_self row found
        exact ⟨consistent_of_ended found rfl terminal freed (isDriver ▸ rfl) consistent
            (harmless.imp_right And.right),
          lasting_of_settled found rfl raised (harmless.imp_right And.left)⟩

/-- A turn on a consistent store keeps it so, exactly if what was looked for still holds. -/
theorem Deed.keeps_iff {history : List (Concurrency.Turn sos)} {turn : Concurrency.Turn sos}
    (deed : Deed history turn)
    (consistent : Consistent turn.before)
    (kept : ∀ lookup ∈ history, ∀ id seen, lookup.before.emergency? id = some seen →
      ∀ row, turn.before.emergency? id = some row → row.driverId = seen.driverId) :
    Keeps turn.before turn.writes ↔ Timely turn.before turn.writes := by
  cases deed with
  | idle idle =>
      rw [idle]
      exact iff_of_true ⟨consistent, .refl turn.before⟩ (.nil turn.before)
  | raised _ _ raised => exact raised.keeps_iff consistent
  | settled looked _ _ settled =>
      obtain ⟨lookup, member, seen⟩ := looked
      exact settled.keeps_iff consistent (kept lookup member _ _ seen)

/-! ## Runs -/

/-- Requests that start together. -/
def pool (requests : List Request) (db : Db) : Pool sos Emergency where
  state := db
  procs := requests.map Request.proc

/-- The emergency is stored for this driver. -/
def BelongsTo (id driverId : Uuid) (db : Db) : Prop :=
  ∃ row, db.emergency? id = some row ∧ row.driverId = driverId

/-- A write leaves an emergency with its driver. -/
theorem belongsTo_apply {id driverId : Uuid} (write : Write) {db : Db}
    (belongs : BelongsTo id driverId db) : BelongsTo id driverId (write.apply db) := by
  obtain ⟨row, found, same⟩ := belongs
  cases write with
  | createEmergency added => exact ⟨row, Table.find?_insert_of_some found, same⟩
  | updateEmergency other data =>
      have revised : ((Write.updateEmergency other data).apply db).emergency? id = _ :=
        emergency?_settled rfl id
      rw [found] at revised
      exact ⟨revise other data row, revised, (driverId_revise other data row).trans same⟩
  | updateDriver other operationalStatus => exact ⟨row, found, same⟩
  | createAuditLog log => exact ⟨row, found, same⟩
  | emit emission => exact ⟨row, found, same⟩

/-- So does a list of writes. -/
theorem belongsTo_applyAll {id driverId : Uuid} (writes : List Write) {db : Db}
    (belongs : BelongsTo id driverId db) : BelongsTo id driverId (sos.applyAll writes db) := by
  induction writes generalizing db with
  | nil => exact belongs
  | cons write writes inductionHypothesis =>
      exact inductionHypothesis (belongsTo_apply write belongs)

variable {requests : List Request} {db : Db} {trace : List (Concurrency.Turn sos)}
    {final : Pool sos Emergency}

/-- What a turn has read of an emergency's driver is so at every later turn. -/
theorem driver_of_lookup (turns : (pool requests db).Turns trace final)
    {first rest : List (Concurrency.Turn sos)}
    {turn lookup : Concurrency.Turn sos} (split : trace = first ++ turn :: rest) (member : lookup ∈ first)
    {id : Uuid} {seen row : Emergency} (looked : lookup.before.emergency? id = some seen)
    (found : turn.before.emergency? id = some row) : row.driverId = seen.driverId := by
  obtain ⟨early, between, rfl⟩ := List.append_of_mem member
  have after : BelongsTo id seen.driverId lookup.after :=
    belongsTo_applyAll lookup.writes ⟨seen, looked, rfl⟩
  have parts : trace = early ++ lookup :: (between ++ turn :: rest) := by
    rw [split, List.append_assoc, List.cons_append]
  obtain ⟨later, same, driver⟩ := turns.lasting parts after
    (fun other _ belongs => belongsTo_applyAll other.writes belongs) turn
    (List.mem_append_right _ List.mem_cons_self)
  rw [Option.some.inj (found.symm.trans same)]
  exact driver

/-- Every turn of a run is one of these deeds. -/
theorem deeds (turns : (pool requests db).Turns trace final) {first rest : List (Concurrency.Turn sos)}
    {turn : Concurrency.Turn sos} (split : trace = first ++ turn :: rest) :
    Deed (Pool.own first turn.thread) turn := by
  have meets : ∀ (thread : Nat) process, (pool requests db).procs[thread]? = some process →
      process.Meets (.turns (fun _ => True) thread Deed) (fun _ _ => True) [] := by
    intro thread process found
    simp only [pool, List.getElem?_map, Option.map_eq_some_iff] at found
    obtain ⟨request, _, rfl⟩ := found
    exact proc_meets request
  exact (turns.own (fun _ _ => trivial) meets).1 first turn rest split

/-- In every state that a run reaches the emergencies and the statuses of their drivers are
consistent, and no step takes a settled emergency up again. -/
structure Steady (trace : List (Concurrency.Turn sos)) (final : Pool sos Emergency) : Prop where
  before : ∀ turn ∈ trace, Consistent turn.before
  after : ∀ turn ∈ trace, Consistent turn.after
  lasting : ∀ turn ∈ trace, Lasting turn.before turn.after
  last : Consistent final.state

/-- Any requests on a consistent store, in any order of their steps, keep it consistent and
settled emergencies settled, exactly if for every transaction that commits, what its process
looked for before still holds then. -/
theorem emergencies_steady_iff (consistent : Consistent db)
    (turns : (pool requests db).Turns trace final) :
    Steady trace final ↔ ∀ turn ∈ trace, Timely turn.before turn.writes := by
  have keeps : ∀ first turn rest, trace = first ++ turn :: rest → Consistent turn.before →
      (Keeps turn.before turn.writes ↔ Timely turn.before turn.writes) := by
    intro first turn rest split now
    refine (deeds turns split).keeps_iff now fun lookup owned id seen looked row found => ?_
    exact driver_of_lookup turns split (Pool.mem_own.mp owned).1 looked found
  constructor
  · intro steady turn member
    obtain ⟨first, rest, split⟩ := List.append_of_mem member
    exact (keeps first turn rest split (steady.before turn member)).mp
      ⟨steady.after turn member, steady.lasting turn member⟩
  · intro timely
    have kept : ∀ first turn rest, trace = first ++ turn :: rest → Consistent turn.before →
        Keeps turn.before turn.writes := fun first turn rest split now =>
      (keeps first turn rest split now).mpr
        (timely turn (split ▸ List.mem_append_right _ List.mem_cons_self))
    obtain ⟨last, before⟩ := turns.along (fun _ db => Consistent db) consistent
      fun first turn rest split now => (kept first turn rest split now).1
    have each : ∀ turn ∈ trace, Consistent turn.before ∧ Keeps turn.before turn.writes := by
      intro turn member
      obtain ⟨first, rest, split⟩ := List.append_of_mem member
      have now := before first turn rest split
      exact ⟨now, kept first turn rest split now⟩
    exact ⟨fun turn member => (each turn member).1, fun turn member => (each turn member).2.1,
      fun turn member => (each turn member).2.2, last⟩

/-- An alarm of a calm driver is timely. -/
theorem Raised.timely {before : Db} {driverId : Uuid} {writes : List Write}
    (raised : Raised before driverId writes) (calm : ¬before.Alarmed driverId) :
    Timely before writes := by
  obtain ⟨own, _, _, _⟩ := raised
  refine ⟨fun row member => ?_, fun id data member => by simp at member⟩
  obtain rfl : row = _ := by simpa using member
  rwa [own]

/-- A settlement of the row that was looked up, still active, is timely. -/
theorem Settled.timely {before : Db} {id : Uuid} {seen : Emergency} {writes : List Write}
    (settled : Settled before id seen writes) (found : before.emergency? id = some seen)
    (active : seen.status.active = true) : Timely before writes := by
  have only : ∀ other data, .updateEmergency other data ∈ writes → other = id := by
    intro other data member
    cases settled with
    | acknowledged => exact (by simpa using member : other = id ∧ _).1
    | ended => exact (by simpa using member : other = id ∧ _).1
  refine ⟨fun row member => ?_, fun other data member row read => .inl ?_⟩
  · cases settled <;> simp at member
  · obtain rfl := only other data member
    rw [← Option.some.inj (found.symm.trans read)]
    exact active

/-- What a request has found is still so if nothing is changed until its transaction. -/
theorem Deed.timely {turn : Concurrency.Turn sos} {history : List (Concurrency.Turn sos)}
    (deed : Deed history turn) (still : (∀ earlier ∈ history, earlier.writes = []) →
      ∀ lookup ∈ history, lookup.before = turn.before) : Timely turn.before turn.writes := by
  cases deed with
  | idle idle =>
      rw [idle]
      exact .nil turn.before
  | raised looked only raised =>
      obtain ⟨lookup, member, calm⟩ := looked
      exact raised.timely (still only lookup member ▸ calm)
  | settled looked active only settled =>
      obtain ⟨lookup, member, found⟩ := looked
      exact settled.timely (still only lookup member ▸ found) active

/-- Requests of which none takes a step between two steps of another are in time, because of what
they have looked for. -/
theorem timely_of_serial (turns : (pool requests db).Turns trace final)
    (serial : Serial (trace.map Turn.commit)) :
    ∀ turn ∈ trace, Timely turn.before turn.writes := by
  intro turn member
  obtain ⟨first, rest, split⟩ := List.append_of_mem member
  refine (deeds turns split).timely fun only lookup looked => ?_
  obtain ⟨inFirst, same⟩ := Pool.mem_own.mp looked
  obtain ⟨early, between, rfl⟩ := List.append_of_mem inFirst
  have atLookup : trace = early ++ lookup :: (between ++ turn :: rest) := by simp [split]
  have quiet : ∀ other ∈ between, other.writes = [] := by
    intro other among
    have own : other.thread = turn.thread := by
      refine serial (early.map Turn.commit) lookup.commit (between.map Turn.commit) turn.commit
        (rest.map Turn.commit) (by simp [atLookup]) same other.commit (List.mem_map_of_mem among)
    exact only other (Pool.mem_own.mpr ⟨by simp [among], own⟩)
  refine (turns.reaches (fun now => now = lookup.before) atLookup ?_ fun other among now => ?_).symm
  · exact Turn.after_of_idle (only lookup looked)
  · rw [Turn.after_of_idle (quiet other among), now]

/-! ### An alarm that is raised twice -/

def vanDb : Db where
  drivers := Table.empty.insert { id := 1, displayName := "driver", operationalStatus := .available }

/-- The example's store is consistent. -/
theorem consistent_vanDb : Consistent vanDb where
  single := by
    intro first member
    cases member
  linked := by
    rintro driver _ ⟨_, member, _⟩
    cases member

def vanAlarm : Request :=
  .triggerEmergency 1 2 { latitude := -6, longitude := 106, emergencyType := "ACCIDENT" }

def vanInput (id : Uuid) (_ : Nat) : Input := { uuid := id }

/-- An alarm is raised, acknowledged and brought to an end. -/
theorem emergencies_steady_iff_van :
    let requests := [vanAlarm, .updateEmergencyStatus 7 .acknowledged 3,
      .updateEmergencyStatus 7 .resolved 3]
    let played := (pool requests vanDb).perform
      [(0, vanInput 0), (0, vanInput 0), (0, vanInput 7), (1, vanInput 0), (1, vanInput 0),
       (2, vanInput 0), (2, vanInput 0)]
    Steady played.1 played.2 ↔ ∀ turn ∈ played.1, Timely turn.before turn.writes :=
  emergencies_steady_iff consistent_vanDb (Pool.perform_turns _ _)

/-- Two taps on the button: both look before either raises the alarm. -/
def vanTaps : List (Nat × (Nat → Input)) :=
  [(0, vanInput 0), (1, vanInput 0), (0, vanInput 0), (1, vanInput 0), (0, vanInput 7),
   (1, vanInput 8)]

/-- They leave two active emergencies of one driver. -/
theorem emergencies_not_steady :
    ¬∀ (requests : List Request) (db : Db) (trace : List (Concurrency.Turn sos))
      (final : Pool sos Emergency),
      Consistent db → (pool requests db).Turns trace final → Steady trace final := by
  intro claimed
  have steady := claimed [vanAlarm, vanAlarm] vanDb _ _ consistent_vanDb
    (Pool.perform_turns vanTaps _)
  have two : ∃ first ∈ ((pool [vanAlarm, vanAlarm] vanDb).perform vanTaps).2.state.emergencies.rows,
      ∃ second ∈ ((pool [vanAlarm, vanAlarm] vanDb).perform vanTaps).2.state.emergencies.rows,
        first.driverId = second.driverId ∧ first.status.active = true ∧
          second.status.active = true ∧ first.id ≠ second.id := by
    decide +kernel
  obtain ⟨first, member, second, otherMember, same, active, otherActive, different⟩ := two
  exact different (congrArg Emergency.id
    (steady.last.single first member second otherMember same active otherActive))

end Armada.Emergencies
