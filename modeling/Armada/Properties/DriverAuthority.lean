import Armada.Controllers
import Armada.Ownership

/-!
# A driver's authority over stops

Every endpoint of a driver begins with a reading of the stop that checks whose delivery it
belongs to, if there is a driver id to compare with. All endpoints but one insist on a
driver profile. Skipping a stop does not: a driver without a profile may skip anybody's.
-/

namespace Armada

open Relational Concurrency

/-- Every change that the thread makes is to a stop that was the user's, as a driver, when
the thread took its first step, which is the reading that checks it. -/
def Authorized (user : AuthUser) (thread : Nat) (trace : List (Commit store)) : Prop :=
  ∀ commit ∈ trace, commit.thread = thread →
    ∀ write ∈ commit.writes, write.touches = true → ∃ check driverId stopId deliveryId,
      trace.find? (fun other => other.thread = thread) = some check ∧
        user.driverId = some driverId ∧ Belongs driverId stopId deliveryId check.before ∧
          write.About stopId deliveryId

/-- The call is a skip. -/
def StopCall.skips : StopCall → Bool
  | .skip .. => true
  | _ => false

/-- The user has a driver profile, or the request is not the one that does without. -/
def StopCall.Profiled (call : StopCall) (user : AuthUser) : Prop :=
  call.skips = true → user.driverId ≠ none

namespace DeliveryStopsService

/-- After the first step of a verified process its stop is the driver's, or it has failed. -/
theorem Verified.advance {α : Type} {rely : Db → Db → Prop} {checked : Uuid → Uuid → Db → Prop}
    {stopId : Uuid} {driver : Option Uuid} {process next : Proc store α} {moment : Db}
    {inputs : Nat → store.Input} {writes : List Write}
    (verified : Verified rely checked stopId driver process)
    (learned : ∀ stop delivery, Reaches moment stopId driver stop delivery →
      ∀ db, checked stopId stop.deliveryId db)
    (advanced : process.advance inputs moment = some (writes, next)) :
    writes = [] ∧ ∀ since, next.Meets (.atomic rely (Within checked)) (fun _ _ => True) since := by
  obtain ⟨rest, rfl, continued⟩ := verified
  change some (Statement.writes (Prisma.DeliveryStop.findUnique stopId) (inputs 0) moment, _) = _
    at advanced
  cases advanced
  change (Prisma.DeliveryStop.findUnique stopId).writes (inputs 0) moment = [] ∧
    ∀ since, (Proc.bind (Proc.bind (Proc.ofExcept
      ((Prisma.DeliveryStop.findUnique stopId).result (inputs 0) moment)) _) _).Meets _ _ since
  rcases (Prisma.DeliveryStop.findUnique stopId).ends (inputs 0) moment with
    ⟨error, failure, none⟩ | ⟨found, success, executed⟩
  · rw [failure]
    exact ⟨none, fun _ => trivial⟩
  · obtain ⟨_, none, read⟩ := Prisma.DeliveryStop.findUnique_succeeds.mp executed
    rw [success]
    refine ⟨none, fun since => ?_⟩
    refine Proc.Meets.bind (Q := OnResult (fun found current => checked stopId found.1.deliveryId current)
      fun _ _ => True) ?_ (fun _ _ _ => trivial) fun found current known =>
        continued found current known
    refine Proc.Meets.require (fun _ => trivial) fun row present =>
      .rejectIf (fun _ => trivial) fun driven => ?_
    obtain ⟨stop, delivery⟩ := row
    rcases read with ⟨impossible, _⟩ | ⟨row, parent, same, foundStop, foundParent⟩
    · cases present.symm.trans impossible
    · cases present.symm.trans same
      exact learned stop delivery ⟨foundStop, foundParent, by tauto⟩ since

end DeliveryStopsService

variable [UuidText] {user : AuthUser} {call : StopCall}

/-- With a driver profile, every endpoint verifies the stop first. -/
theorem StopCall.proc_verified (isDriver : user.role = .driver) {driverId : Uuid}
    (profile : user.driverId = some driverId) (call : StopCall) : ∃ stopId,
    ∀ {rely : Db → Db → Prop} {checked : Uuid → Uuid → Db → Prop}, Lasting rely checked →
      DeliveryStopsService.Verified rely checked stopId (some driverId) (call.proc user) := by
  obtain ⟨id, role, _⟩ := user
  subst isDriver profile
  cases call with
  | depart stopId =>
      exact ⟨stopId, fun lasting => (DeliveryStopsService.departToStop_verified lasting).map _⟩
  | arrive stopId =>
      exact ⟨stopId, fun lasting => (DeliveryStopsService.arriveAtStop_verified lasting).map _⟩
  | unload stopId =>
      exact ⟨stopId, fun lasting => (DeliveryStopsService.startUnloading_verified lasting).map _⟩
  | fail stopId dto =>
      exact ⟨stopId, fun lasting => (DeliveryStopsService.failStop_verified lasting dto).map _⟩
  | skip stopId dto =>
      exact ⟨stopId, fun lasting => (DeliveryStopsService.skipStop_verified lasting dto
        { userId := id, role := .driver, driverId := some driverId }).map _⟩
  | pod stopId dto =>
      refine ⟨stopId, fun lasting => ?_⟩
      have verified : DeliveryStopsService.Verified _ _ stopId (some driverId)
          (PodService.submitPod stopId dto
            { userId := id, role := .driver, driverId := some driverId }) :=
        PodService.submitPod_verified lasting
      exact (verified.map fun result => (result.httpCode, result)).map _

/-- Without a driver profile, every endpoint but one takes no step. -/
theorem StopCall.advance_of_unprofiled (isDriver : user.role = .driver)
    (missing : user.driverId = none) (insists : call.skips = false) {inputs : Nat → store.Input}
    {db : Db} : (call.proc user).advance inputs db = none := by
  obtain ⟨id, role, _⟩ := user
  subst isDriver missing
  cases call with
  | skip stopId dto => cases insists
  | _ => rfl

/-- In every run, a request of a profiled driver changes what is his alone. -/
theorem authorized_of_profiled {start final : Pool store Response} {trace : List (Commit store)}
    {thread : Nat} (steps : start.Steps trace final)
    (made : start.procs[thread]? = some (call.proc user)) (isDriver : user.role = .driver)
    (profiled : call.Profiled user) : Authorized user thread trace := by
  intro commit member own write written touches
  cases profile : user.driverId with
  | none =>
      have insists : call.skips = false := by
        by_contra skips
        exact profiled (by simpa using skips) profile
      obtain ⟨_, _, impossible⟩ := steps.since_first made (fun _ _ _ => False)
        (fun _ _ _ _ advanced => by
          rw [StopCall.advance_of_unprofiled isDriver profile insists] at advanced
          cases advanced) commit member own
      exact impossible.elim
  | some driverId =>
      obtain ⟨stopId, verified⟩ := call.proc_verified isDriver profile
      obtain ⟨check, isFirst, within⟩ := steps.since_first made
        (fun check writes db =>
          Within (fun stopId deliveryId _ => Belongs driverId stopId deliveryId check.before)
            writes db)
        (fun moment inputs writes next advanced => by
          have lasting : Lasting (fun _ _ => True)
              (fun stopId deliveryId _ => Belongs driverId stopId deliveryId moment) :=
            ⟨fun _ belongs => belongs, fun belongs => belongs⟩
          obtain ⟨rfl, continued⟩ := (verified lasting).advance
            (fun stop delivery reached _ => ⟨stop, delivery, reached, rfl⟩) advanced
          exact ⟨.nothing moment, continued _⟩) commit member own
      obtain ⟨stopId, deliveryId, belongs, about⟩ := within write written touches
      exact ⟨check, driverId, stopId, deliveryId, isFirst, rfl, belongs, about⟩

/-- A driver without a profile skips a pending stop of a delivery that is not his. -/
theorem StopsController.skipStop_unverified (userId stopId : Uuid) (dto : StopReasonDto) :
    ∃ start trace final, (start : Pool store Response).Steps trace final ∧
      start.procs[0]? = some ((StopCall.skip stopId dto).proc ⟨userId, .driver, none⟩) ∧
        ∃ commit ∈ trace, commit.thread = 0 ∧ ∃ write ∈ commit.writes, write.touches = true := by
  let delivery : Delivery :=
    { id := 1, deliveryCode := "D-1", driverId := some 4, status := .enRoute, createdBy := 9 }
  let stop : DeliveryStop := { id := stopId, deliveryId := 1, sequence := 1 }
  let db : Db :=
    { deliveries := Table.empty.insert delivery, deliveryStops := Table.empty.insert stop }
  have foundStop : db.stop? stopId = some stop := by
    simp [db, stop, Db.stop?, Table.find?_insert, Relational.Keyed.key]
  have foundDelivery : db.delivery? 1 = some delivery := rfl
  have read : (Prisma.DeliveryStop.findUnique stopId).Succeeds {} db (some (stop, delivery)) [] :=
    Prisma.DeliveryStop.findUnique_succeeds.mpr
      ⟨rfl, rfl, .inr ⟨stop, delivery, rfl, foundStop, foundDelivery⟩⟩
  have claimed : (Prisma.DeliveryStop.updateMany stopId [.pending] terminalDeliveryStatuses
      fun _ => { status := some .skipped }).Succeeds {} db 1
        [.updateStop stopId { status := some .skipped }] :=
    Prisma.DeliveryStop.updateMany_succeeds.mpr ⟨rfl, .inl ⟨Prisma.DeliveryStop.matched_iff.mpr
      ⟨stop, foundStop, List.mem_singleton.mpr rfl, delivery, foundDelivery, by decide⟩, rfl, rfl⟩⟩
  let skip := (StopCall.skip stopId dto).proc ⟨userId, .driver, none⟩
  have first : skip.advance (fun _ => {}) db =
      some ((Prisma.DeliveryStop.findUnique stopId).writes {} db, Proc.bind (Proc.bind (Proc.bind
        (Proc.ofExcept ((Prisma.DeliveryStop.findUnique stopId).result {} db)) _) _) _) := rfl
  rw [Statement.writes, Statement.result, read] at first
  have start : (⟨db, [skip]⟩ : Pool store Response).Steps [] _ := .refl
  have one := start.step (show [skip][0]? = some skip from rfl) first
  have two := one.step (show ([skip].set 0 _)[0]? = some _ from rfl) (show Proc.advance _
    (fun _ => ({} : Input)) db = some ((Prisma.DeliveryStop.updateMany stopId [.pending]
      terminalDeliveryStatuses fun _ => { status := some .skipped }).writes {} db, _) from rfl)
  rw [Statement.writes, claimed] at two
  exact ⟨_, _, _, two, rfl, _, List.mem_append_right _ List.mem_cons_self, rfl, _,
    List.mem_cons_self, rfl⟩

/-- For every request of a driver: in every run, whatever else is in it, the request
changes only stops that were the driver's when they were checked, if and only if the
driver has a profile or the request is not to skip a stop. -/
theorem authorized_iff_profiled (call : StopCall) (user : AuthUser) (isDriver : user.role = .driver) :
    (∀ (start : Pool store Response) trace final thread, start.Steps trace final →
      start.procs[thread]? = some (call.proc user) → Authorized user thread trace) ↔
        call.Profiled user := by
  constructor
  · intro always skips missing
    obtain ⟨id, role, _⟩ := user
    subst isDriver missing
    cases call with
    | skip stopId dto =>
        obtain ⟨start, trace, final, steps, made, commit, member, own, write, written, touches⟩ :=
          StopsController.skipStop_unverified id stopId dto
        obtain ⟨_, _, _, _, _, impossible, _⟩ :=
          always start trace final 0 steps made commit member own write written touches
        cases impossible
    | _ => cases skips
  · exact fun profiled _ _ _ _ steps made => authorized_of_profiled steps made isDriver profiled

/-! ## A driver without a profile -/

namespace UnprofiledSkip

omit [UuidText]

/-- The equivalence at a departure. -/
theorem authorized_iff_profiled_of_depart :
    (∀ (start : Pool store Response) trace final thread, start.Steps trace final →
      start.procs[thread]? = some (@StopCall.proc noUuids ⟨30, .driver, some 3⟩ (.depart 7)) →
        Authorized ⟨30, .driver, some 3⟩ thread trace) ↔
          (StopCall.depart 7).Profiled ⟨30, .driver, some 3⟩ :=
  @authorized_iff_profiled noUuids (.depart 7) ⟨30, .driver, some 3⟩ rfl

/-- Not every driver changes his own stops only. -/
theorem authorized_violated :
    ¬∀ [UuidText] (call : StopCall) (user : AuthUser), user.role = .driver →
      ∀ (start : Pool store Response) trace final thread, start.Steps trace final →
        start.procs[thread]? = some (call.proc user) → Authorized user thread trace := by
  intro always
  obtain ⟨start, trace, final, steps, made, commit, member, own, write, written, touches⟩ :=
    @StopsController.skipStop_unverified noUuids 30 7 {}
  obtain ⟨_, _, _, _, _, impossible, _⟩ := @always noUuids (.skip 7 {}) ⟨30, .driver, none⟩ rfl start
    trace final 0 steps made commit member own write written touches
  cases impossible

end UnprofiledSkip

end Armada
