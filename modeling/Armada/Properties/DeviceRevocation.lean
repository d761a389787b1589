import Armada.Auth.Entitlement
import Armada.Auth.Footprint

/-!
# A revoked device

`registerDevice` and `registerPushToken` set a device to ACTIVE whatever its status is. As
long as neither updates the row while the device is revoked, it stays revoked, and no token
or socket of it is accepted.
-/

namespace Armada.Auth

open Relational Concurrency

namespace Accounts

/-- A device is there, in a status. -/
def InStatus (db : Accounts) (id : Uuid) (status : DeviceStatus) : Prop :=
  ∃ device, db.device? id = some device ∧ device.status = status

/-- The device is REVOKED. -/
abbrev DeviceRevoked (db : Accounts) (id : Uuid) : Prop := db.InStatus id .revoked

/-- The device is ACTIVE. -/
abbrev DeviceActive (db : Accounts) (id : Uuid) : Prop := db.InStatus id .active

/-- A REVOKED device is not ACTIVE. -/
theorem DeviceRevoked.not_active {db : Accounts} {id : Uuid} (revoked : db.DeviceRevoked id) :
    ¬db.DeviceActive id := by
  rintro ⟨device, found, active⟩
  obtain ⟨same, foundToo, isRevoked⟩ := revoked
  cases found.symm.trans foundToo
  cases active.symm.trans isRevoked

/-- Writes that set a device to one status, if any, leave it there. -/
theorem InStatus.commit {db : Accounts} {id : Uuid} {status : DeviceStatus} {writes : List Write}
    (sets : ∀ data, Write.updateDevice id data ∈ writes → data.status = some status)
    (initially : db.InStatus id status) : (db.commit writes).InStatus id status := by
  induction writes generalizing db with
  | nil => exact initially
  | cons write writes inductionHypothesis =>
      rw [commit_cons]
      refine inductionHypothesis (fun data member => sets data (List.mem_cons_of_mem _ member)) ?_
      obtain ⟨device, found, inStatus⟩ := initially
      rw [InStatus, write.device?_apply, found]
      cases write with
      | updateDevice key data =>
          by_cases here : id = key
          · subst here
            have set := sets data List.mem_cons_self
            exact ⟨data.set device, by simp [Write.onDevice], by simp [DeviceData.set, set]⟩
          · exact ⟨device, by simp [Write.onDevice, here], inStatus⟩
      | _ => exact ⟨device, rfl, inStatus⟩

/-- So do those among which there is such an update, whatever the status was. -/
theorem inStatus_of_mem {db : Accounts} {id : Uuid} {status : DeviceStatus} {writes : List Write}
    {data : DeviceData}
    (sets : ∀ data, Write.updateDevice id data ∈ writes → data.status = some status)
    (present : db.device? id ≠ none) (member : Write.updateDevice id data ∈ writes) :
    (db.commit writes).InStatus id status := by
  obtain ⟨first, rest, rfl⟩ := List.append_of_mem member
  rw [commit_append, commit_cons]
  refine InStatus.commit (fun data member => sets data (by simp [member])) ?_
  obtain ⟨device, found⟩ := Option.ne_none_iff_exists'.mp present
  obtain ⟨later, foundLater, _⟩ := (extends_commit first db).devices id device found
  have set := sets data member
  rw [InStatus, Write.device?_apply, foundLater]
  exact ⟨data.set later, by simp [Write.onDevice], by simp [DeviceData.set, set]⟩

end Accounts

/-- The requests that register a device, or a push token of it. -/
def Request.Registers : Request → Prop
  | .registerDevice _ _ => True
  | .registerPushToken _ _ => True
  | _ => False

/-- A step is the update of a registration, of a device that is revoked at that moment. -/
def Reactivates (requests : List Request) (id : Uuid) (deed : Deed accounts) : Prop :=
  Accounts.DeviceRevoked deed.before id ∧ ∃ request data, requests[deed.thread]? = some request ∧
    request.Registers ∧ Write.updateDevice id data ∈ deed.writes

/-- A device that was revoked after the first part of a run is active after no step of the
rest, and no check that starts in the rest accepts a token or a socket bound to it. -/
def StaysRevoked [UuidText] (requests : List Request) (trace rest : List (Deed accounts))
    (final : Pool accounts.whole Response) (id : Uuid) : Prop :=
  (∀ deed ∈ rest, ¬Accounts.DeviceActive deed.after id) ∧
    ∀ {check : Nat} {request : Request} {process : Proc accounts.whole Response}
      {answer : Response}, requests[check]? = some request → request.IsCheck →
      (∀ deed ∈ trace, deed.thread ≠ check) → final.procs[check]? = some process →
      process.finished = some (.ok answer) → answer.boundDevice.toUuid ≠ .ok id

section Runs

variable [UuidSpelling] [Argon2] {requests : List Request} {id : Uuid}

/-- Every update of a device by a request that registers sets it to ACTIVE. -/
theorem sets_active {request : Request} {data : DeviceData} (registers : request.Registers)
    (may : request.May (.updateDevice id data)) : data.status = some .active := by
  cases request with
  | registerDevice userId dto => exact may
  | registerPushToken dto actorUserId => exact may.2
  | _ => exact registers.elim

/-- Every other update of a device sets it to REVOKED. -/
theorem sets_revoked {request : Request} {data : DeviceData} (other : ¬request.Registers)
    (may : request.May (.updateDevice id data)) : data.status = some .revoked := by
  cases request with
  | registerDevice userId dto => exact absurd trivial other
  | registerPushToken dto actorUserId => exact absurd trivial other
  | revokeDevice deviceId actorUserId actorRole => exact may.2 ▸ rfl
  | _ => exact may.elim

/-- One step of a run does not touch a revoked device, revokes it again or reactivates it. -/
theorem revoked_of_step {deed : Deed accounts}
    (may : ∀ write ∈ deed.writes, ∀ request, requests[deed.thread]? = some request → request.May write)
    (owned : deed.thread < requests.length) (revoked : Accounts.DeviceRevoked deed.before id)
    (spared : ¬Reactivates requests id deed) : Accounts.DeviceRevoked deed.after id := by
  have atThread := List.getElem?_eq_getElem owned
  rw [Accounts.after_whole]
  refine Accounts.InStatus.commit (fun data member => ?_) revoked
  have allowed := may _ member _ atThread
  refine sets_revoked (fun registers => spared ?_) allowed
  exact ⟨revoked, _, data, atThread, registers, member⟩

/-- A step that reactivates leaves the device active. -/
theorem active_of_reactivates {deed : Deed accounts}
    (may : ∀ write ∈ deed.writes, ∀ request, requests[deed.thread]? = some request → request.May write)
    (reactivates : Reactivates requests id deed) : Accounts.DeviceActive deed.after id := by
  obtain ⟨⟨device, found, _⟩, request, data, atThread, registers, member⟩ := reactivates
  rw [Accounts.after_whole]
  refine Accounts.inStatus_of_mem (fun data member => ?_) (by rw [found]; simp) member
  exact sets_active registers (may _ member request atThread)

/-- While nothing is reactivated the device is revoked before and after every step. -/
theorem revoked_along {start last : Accounts} {steps : List (Deed accounts)}
    (linked : Linked (S := accounts.whole) start steps last)
    (may : ∀ deed ∈ steps, ∀ write ∈ deed.writes, ∀ request, requests[deed.thread]? = some request →
      request.May write)
    (owned : ∀ deed ∈ steps, deed.thread < requests.length) (revoked : start.DeviceRevoked id)
    (spared : ∀ deed ∈ steps, ¬Reactivates requests id deed) :
    ∀ deed ∈ steps, Accounts.DeviceRevoked deed.before id ∧ Accounts.DeviceRevoked deed.after id := by
  induction steps generalizing start with
  | nil => exact fun _ member => absurd member List.not_mem_nil
  | cons deed steps inductionHypothesis =>
      obtain ⟨rfl, linked⟩ := linked
      have after := revoked_of_step (may deed List.mem_cons_self) (owned deed List.mem_cons_self)
        revoked (spared deed List.mem_cons_self)
      intro other member
      rcases List.mem_cons.mp member with rfl | later
      · exact ⟨revoked, after⟩
      · exact inductionHypothesis linked (fun deed member => may deed (List.mem_cons_of_mem _ member))
          (fun deed member => owned deed (List.mem_cons_of_mem _ member)) after
          (fun deed member => spared deed (List.mem_cons_of_mem _ member)) other later

variable [TokenHash] [JsonWebToken] {config : JwtConfig} {db : Accounts}
  {trace rest : List (Deed accounts)} {middle final : Pool accounts.whole Response}

/-- A revoked device stays revoked exactly as long as it is not registered again. -/
theorem staysRevoked_iff (before : (Request.pool config db requests).Steps trace middle)
    (later : middle.Steps rest final) (revoked : Accounts.DeviceRevoked middle.state id) :
    StaysRevoked requests trace rest final id ↔ ∀ deed ∈ rest, ¬Reactivates requests id deed := by
  have whole := before.trans later
  have may : ∀ deed ∈ rest, ∀ write ∈ deed.writes, ∀ request,
      requests[deed.thread]? = some request → request.May write :=
    fun deed member => may_of_steps whole deed (List.mem_append_right _ member)
  constructor
  · rintro ⟨inactive, _⟩ deed member reactivates
    exact inactive deed member (active_of_reactivates (may deed member) reactivates)
  · intro spared
    have owned : ∀ deed ∈ rest, deed.thread < requests.length := by
      intro deed member
      simpa [Request.pool, Pool.whole] using
        whole.thread_lt deed (List.mem_append_right _ member)
    have along := revoked_along later.linked may owned revoked spared
    refine ⟨fun deed member => (along deed member).2.not_active, ?_⟩
    intro check request process answer found isCheck unstarted atCheck accepted named
    obtain ⟨userId, deed, member, session, device, admits⟩ :=
      looked_later before later found isCheck unstarted atCheck accepted
    rw [← admits.sameDevice, toUuid_spelled] at named
    refine (along deed member).1.not_active ⟨device, ?_, admits.active⟩
    rw [← Except.ok.inj named]
    exact admits.foundDevice

end Runs

/-! ## A device that is registered again -/

namespace RegisteredAgain

local instance : UuidSpelling := unarySpelling

local instance : TokenHash := plainHash

local instance : Argon2 := plainArgon2

local instance : JsonWebToken := tableTokens []

/-- The device of the driver has been revoked. -/
def db : Accounts where
  users := LoggedIn.db.users
  devices := Table.empty.insert
    { id := 2, userId := 1, status := .revoked, deviceIdentifier := "p", platform := .android,
      appVersion := "1" }

def requests : List Request :=
  [.registerDevice 1 { deviceIdentifier := "p", platform := .android, appVersion := "1" }]

def pool : Pool accounts.whole Response := Request.pool {} db requests

/-- The device is found, the clock is read, and the device is updated. -/
def schedule : List (Nat × (Nat → accounts.whole.Input)) :=
  [0, 0, 0].map fun thread => (thread, fun _ _ => {})

/-- The schedule is a run. -/
theorem steps : pool.Steps (pool.play schedule).1 (pool.play schedule).2 :=
  Pool.play_steps schedule pool

/-- The device is REVOKED at the start. -/
theorem revoked : db.DeviceRevoked 2 :=
  ⟨_, rfl, rfl⟩

/-- The equivalence at the registration. -/
theorem staysRevoked_iff_of_registration :
    StaysRevoked requests [] (pool.play schedule).1 (pool.play schedule).2 2 ↔
      ∀ deed ∈ (pool.play schedule).1, ¬Reactivates requests 2 deed :=
  staysRevoked_iff .refl steps revoked

/-- The device is ACTIVE again. -/
theorem reactivated : ∃ deed ∈ (pool.play schedule).1,
    (deed.after.device? 2).map (fun device => device.status) = some .active := by
  decide

/-- Not every revoked device stays revoked. -/
theorem staysRevoked_violated :
    ¬∀ (config : JwtConfig) (db : Accounts) (requests : List Request)
      (trace rest : List (Deed accounts)) (middle final : Pool accounts.whole Response) (id : Uuid),
      (Request.pool config db requests).Steps trace middle → middle.Steps rest final →
        Accounts.DeviceRevoked middle.state id → StaysRevoked requests trace rest final id := by
  intro always
  obtain ⟨deed, member, active⟩ := reactivated
  obtain ⟨device, found, active⟩ := Option.map_eq_some_iff.mp active
  exact (always {} db requests _ _ _ _ 2 .refl steps revoked).1 deed member ⟨device, found, active⟩

end RegisteredAgain

end Armada.Auth
