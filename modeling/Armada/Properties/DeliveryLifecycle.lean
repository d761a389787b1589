import Armada.Concurrency.Windows
import Armada.Effects.Rows
import Armada.Effects.Services

/-!
# The lifecycle of a delivery

The state machine of the design, and how far runs of concurrent requests stay
within it. Completion, cancellation and the override claim the row they change,
so their edges always hold. The updates of `assignDelivery`, `acceptDelivery` and
`startDelivery` rely on a status read earlier; the lifecycle is kept exactly as
long as that status is still right when the update runs.
-/

namespace Armada

open Relational Concurrency

/-- The edges of the delivery state machine, but for the override. -/
def deliveryTransitions : List (DeliveryStatus × DeliveryStatus) :=
  [(.draft, .assigned), (.assigned, .assigned), (.assigned, .accepted), (.accepted, .enRoute),
    (.enRoute, .completed), (.enRoute, .failed), (.draft, .cancelled), (.assigned, .cancelled),
    (.accepted, .cancelled), (.enRoute, .cancelled)]

/-- A change of status that the state machine has; a terminal status is left by
an override only. -/
structure LawfulChange (request : Request) (before after : DeliveryStatus) : Prop where
  edge : before ≠ after →
    (before, after) ∈ deliveryTransitions ∨ request.overrides = true ∧ after = .completed
  final : before.Terminal → request.overrides = false → after = before

/-- No change is lawful. -/
theorem LawfulChange.refl (request : Request) (status : DeliveryStatus) :
    LawfulChange request status status :=
  ⟨fun different => absurd rfl different, fun _ _ => rfl⟩

/-- No edge of the table leaves a terminal status. -/
theorem operational_of_transition :
    ∀ edge ∈ deliveryTransitions, ¬edge.1.Terminal := by
  decide

/-- An edge of the state machine starts in no terminal status. -/
theorem LawfulChange.of_edge {request : Request} {before after : DeliveryStatus}
    (edge : (before, after) ∈ deliveryTransitions) : LawfulChange request before after :=
  ⟨fun _ => .inl edge, fun terminal _ => absurd terminal (operational_of_transition _ edge)⟩

/-- The commit changes the status of every delivery lawfully. -/
def Lawful (request : Request) (commit : Commit store) : Prop :=
  ∀ id row row', commit.before.delivery? id = some row → commit.after.delivery? id = some row' →
    LawfulChange request row.status row'.status

/-- The commit contains an update of the delivery. -/
def Updates (commit : Commit store) (id : Uuid) : Prop :=
  ∃ data, Write.updateDelivery id data ∈ commit.writes

instance (commit : Commit store) (id : Uuid) : Decidable (Updates commit id) :=
  decidable_of_iff (commit.writes.any fun write =>
      match write with
      | .updateDelivery key _ => key = id
      | _ => false) (by
    simp only [Updates, List.any_eq_true]
    constructor
    · rintro ⟨write, member, updates⟩
      cases write <;> first | cases updates | skip
      rename_i key data
      exact ⟨data, of_decide_eq_true updates ▸ member⟩
    · rintro ⟨data, member⟩
      exact ⟨_, member, decide_eq_true rfl⟩)

/-- The delivery is there in one of the statuses. -/
def StatusIn (db : Db) (id : Uuid) (statuses : List DeliveryStatus) : Prop :=
  ∀ row, db.delivery? id = some row → row.status ∈ statuses

/-- The requests that update a delivery without testing it again, with the status
they set and the statuses in which the update is in time: those from which the
state machine reaches that status, and the status itself. -/
def Request.unconditional : Request → Option (Uuid × DeliveryStatus × List DeliveryStatus)
  | .assignDelivery id _ _ => some (id.uuid, .assigned, [.draft, .assigned])
  | .acceptDelivery id _ _ => some (id.uuid, .accepted, [.assigned, .accepted])
  | .startDelivery id _ _ => some (id.uuid, .enRoute, [.accepted, .enRoute])
  | _ => none

/-- An unconditional update runs in time. -/
def Timely (request : Request) (commit : Commit store) : Prop :=
  ∀ id target expected, request.unconditional = some (id, target, expected) →
    Updates commit id → StatusIn commit.before id expected

/-- The table of unconditional updates agrees with the state machine. -/
theorem Request.unconditional_expected {request : Request} {id : Uuid} {target : DeliveryStatus}
    {expected : List DeliveryStatus}
    (own : request.unconditional = some (id, target, expected)) (status : DeliveryStatus) :
    status ∈ expected ↔ status = target ∨ (status, target) ∈ deliveryTransitions := by
  cases request <;> simp only [unconditional, reduceCtorEq, Option.some.injEq, Prod.mk.injEq] at own
  all_goals
    obtain ⟨rfl, rfl, rfl⟩ := own
    cases status <;> decide

/-- Whether a commit updates the delivery depends on its essential writes. -/
theorem updates_iff_essential {commit : Commit store} {id : Uuid} :
    Updates commit id ↔ ∃ data, Write.updateDelivery id data ∈ essential commit.writes := by
  simp [Updates, essential, Write.ancillary]

/-- The rows after a commit are those that its essential writes leave. -/
theorem delivery?_after {commit : Commit store} {id : Uuid} {row : Delivery}
    (after : commit.after.delivery? id = some row) :
    (Db.commit commit.before (essential commit.writes)).delivery? id = some row := by
  rw [(Db.commit_essential commit.before commit.writes).delivery?]
  exact after

/-- The row after a commit whose essential writes are one update. -/
theorem delivery?_after_of_core {commit : Commit store} {id : Uuid} {data : DeliveryData}
    {row : Delivery} (core : essential commit.writes = [.updateDelivery id data])
    (before : commit.before.delivery? id = some row) :
    commit.after.delivery? id = some (data.set row) := by
  change (Db.commit commit.before commit.writes).delivery? id = _
  rw [← (Db.commit_essential _ _).delivery?, core, Db.delivery?_commit, before]
  simp [Write.onDelivery]

/-- Without an update of it a delivery stays as it is. -/
theorem delivery?_after_of_not_updates {commit : Commit store} {id : Uuid} {row : Delivery}
    (before : commit.before.delivery? id = some row) (idle : ¬Updates commit id) :
    commit.after.delivery? id = some row := by
  have kept : ∀ (writes : List Write) (db : Db), db.delivery? id = some row →
      (∀ data, Write.updateDelivery id data ∉ writes) → (db.commit writes).delivery? id = some row := by
    intro writes
    induction writes with
    | nil => exact fun _ found _ => found
    | cons write writes inductionHypothesis =>
        intro db found absent
        refine inductionHypothesis _ ?_ fun data member => absent data (List.mem_cons_of_mem _ member)
        rw [Write.delivery?_apply, found]
        cases write with
        | updateDelivery key data =>
            by_cases here : id = key
            · subst here
              exact absurd List.mem_cons_self (absent data)
            · rw [Write.onDelivery, if_neg here]
        | _ => rfl
  exact kept _ _ before fun data member => idle ⟨data, member⟩

/-- A completed evaluation names one of two statuses. -/
theorem verdict_target {stops : List DeliveryStop} {target : DeliveryStatus}
    (verdict : DeliveriesService.evaluateStops stops =
      { completed := true, targetStatus := some target }) :
    target = .completed ∨ target = .failed := by
  have completed : (DeliveriesService.evaluateStops stops).completed = true := by rw [verdict]
  obtain ⟨_, _, same⟩ := DeliveriesService.evaluateStops_completed completed
  have targetEq := congrArg CompletionEvaluation.targetStatus (verdict.symm.trans same)
  simp only [Option.some.injEq] at targetEq
  split at targetEq
  · exact .inl targetEq
  · exact .inr targetEq

section Runs

variable [UuidText]

omit [UuidText] in
/-- A request that completes is none of the unconditional writers. -/
theorem Request.unconditional_of_completes {request : Request} (able : request.completes = true) :
    request.unconditional = none := by
  cases request <;> first | rfl | cases able

omit [UuidText] in
/-- Nor is an override. -/
theorem Request.unconditional_of_overrides {request : Request}
    (overrides : request.overrides = true) : request.unconditional = none := by
  cases request <;> first | rfl | cases overrides

/-- A request with an unconditional update commits no other update of a delivery. -/
theorem Effect.sole_update {request : Request} {core : List Write} {db : Db}
    {id key : Uuid} {target : DeliveryStatus} {expected : List DeliveryStatus} {data : DeliveryData}
    (effect : Effect request core db)
    (own : request.unconditional = some (id, target, expected))
    (member : .updateDelivery key data ∈ core) :
    core = [.updateDelivery id data] ∧ data.status = some target ∧
      ∃ row, db.delivery? id = some row := by
  cases effect with
  | assigned found | accepted found | started found =>
      simp only [Request.unconditional, Option.some.injEq, Prod.mk.injEq] at own
      obtain ⟨rfl, rfl, rfl⟩ := own
      rw [List.mem_singleton] at member
      cases member
      exact ⟨rfl, rfl, _, found⟩
  | completed able found enRoute verdict =>
      rw [Request.unconditional_of_completes able] at own
      cases own
  | none | moved move able matched target order | delivered able matched target order absent ofStop
  | ticketed fresh target found owner => simp at member
  | _ => cases own

/-- A timely commit is lawful: the steps of completion, cancellation and override
by what their conditional updates test, the others by being in time. -/
theorem lawful_of_timely {request : Request} {commit : Commit store}
    (effect : Effect request (essential commit.writes) commit.before)
    (timely : Timely request commit) : Lawful request commit := by
  intro id row row' before after
  by_cases updates : Updates commit id
  · have inTime : ∀ {target expected}, request.unconditional = some (id, target, expected) →
        LawfulChange request row.status target := fun own => by
      have member := timely id _ _ own updates row before
      rcases (Request.unconditional_expected own _).mp member with same | edge
      · exact same ▸ .refl _ _
      · exact .of_edge edge
    cases effect.deliveryStep before (delivery?_after after) with
    | unchanged => exact .refl _ _
    | routed => exact .refl _ _
    | assigned requested => exact inTime (by rw [requested]; rfl)
    | accepted requested => exact inTime (by rw [requested]; rfl)
    | started requested => exact inTime (by rw [requested]; rfl)
    | @completed target now able enRoute verdict =>
        change LawfulChange _ row.status target
        rw [enRoute]
        rcases verdict_target verdict with rfl | rfl
        · exact .of_edge (by decide)
        · exact .of_edge (by decide)
    | cancelled requested operational =>
        change LawfulChange _ row.status .cancelled
        refine .of_edge ?_
        revert operational
        cases row.status <;> decide
    | overridden requested status =>
        have overrides : request.overrides = true := by
          rw [requested]
          exact decide_eq_true status
        exact ⟨fun _ => .inr ⟨overrides, rfl⟩, fun _ plain => absurd overrides (by simp [plain])⟩
  · rw [delivery?_after_of_not_updates before updates] at after
    cases after
    exact .refl _ _

/-- A lawful commit is timely: its update leaves the status it sets in the row, so
the change it makes is one into that status. -/
theorem timely_of_lawful {request : Request} {commit : Commit store}
    (effect : Effect request (essential commit.writes) commit.before)
    (lawful : Lawful request commit) : Timely request commit := by
  intro id target expected own updates row before
  obtain ⟨data, member⟩ := updates_iff_essential.mp updates
  obtain ⟨core, status, _⟩ := effect.sole_update own member
  have change := lawful id row _ before (delivery?_after_of_core core before)
  rw [show (data.set row).status = target by simp [DeliveryData.set, status]] at change
  rw [Request.unconditional_expected own]
  by_cases same : row.status = target
  · exact .inl same
  · rcases change.edge same with edge | ⟨overrides, _⟩
    · exact .inr edge
    · rw [Request.unconditional_of_overrides overrides] at own
      cases own

/-- In every run of any requests, every commit changes statuses lawfully if and
only if every unconditional update runs in time. -/
theorem lifecycle_iff_timely {db : Db} {requests : List Request} {trace : List (Commit store)}
    {final : Pool store Response} (steps : (Request.pool db requests).Steps trace final) :
    (∀ commit ∈ trace, ∀ request, requests[commit.thread]? = some request →
      Lawful request commit) ↔
    ∀ commit ∈ trace, ∀ request, requests[commit.thread]? = some request →
      Timely request commit := by
  have effects := Request.effect_of_steps steps
  constructor
  · intro lawful commit member request made
    obtain ⟨maker, found, effect⟩ := effects commit member
    cases found.symm.trans made
    exact timely_of_lawful effect (lawful commit member request made)
  · intro timely commit member request made
    obtain ⟨maker, found, effect⟩ := effects commit member
    cases found.symm.trans made
    exact lawful_of_timely effect (timely commit member request made)

/-! ### Requests that do not overlap -/

omit [UuidText] in
/-- What the check of a request with an unconditional update lets pass. -/
def Request.approves : Request → Delivery → Prop
  | .assignDelivery _ _ _, row => row.status = .draft ∨ row.status = .assigned
  | .acceptDelivery _ driverId _, row => row.driverId = some driverId ∧ row.status = .assigned
  | .startDelivery _ driverId _, row => row.driverId = some driverId ∧ row.status = .accepted
  | _, _ => True

omit [UuidText] in
/-- A request that approved the row it read found it in an expected status. -/
theorem Request.expected_of_approves {request : Request} {id : Uuid} {target : DeliveryStatus}
    {expected : List DeliveryStatus} {row : Delivery}
    (own : request.unconditional = some (id, target, expected)) (approves : request.approves row) :
    row.status ∈ expected := by
  cases request <;> simp only [unconditional, reduceCtorEq, Option.some.injEq, Prod.mk.injEq] at own
  all_goals
    obtain ⟨rfl, rfl, rfl⟩ := own
    rw [Request.approves] at approves
    simp [approves]

/-- The first step of a request with an unconditional update reads the delivery, and the
request goes on only if what it has read passes the check. -/
theorem Request.proc_checks {request : Request} {id : Uuid} {target : DeliveryStatus}
    {expected : List DeliveryStatus} (own : request.unconditional = some (id, target, expected)) :
    request.proc.Checks fun db => ∃ row, db.delivery? id = some row ∧ request.approves row := by
  -- the checks of an acceptance and of a start
  have moves : ∀ (path : IdText) (driverId : Uuid) (verb : String) (status : DeliveryStatus)
      (next : Unit → Proc store Response),
      (DeliveriesService.requireOwn path driverId verb status >>= next).Checks fun db =>
        ∃ row, db.delivery? path = some row ∧ row.driverId = some driverId ∧
          row.status = status := by
    intro path driverId verb status next
    rw [DeliveriesService.requireOwn]
    simp only [Proc.seq_assoc]
    refine Proc.checks_of_read fun input moment found writes executed => ?_
    obtain ⟨_, same, idle⟩ := Prisma.Delivery.findUnique_succeeds.mp executed
    refine ⟨idle, fun unfinished => ?_⟩
    obtain ⟨row, rfl, unfinished⟩ := Proc.unfinished_require unfinished
    obtain ⟨isDriver, unfinished⟩ := Proc.unfinished_rejectIf unfinished
    obtain ⟨isStatus, _⟩ := Proc.unfinished_rejectIf unfinished
    exact ⟨row, same, not_not.mp isDriver, not_not.mp isStatus⟩
  cases request <;> simp only [unconditional, reduceCtorEq, Option.some.injEq, Prod.mk.injEq] at own
  case assignDelivery deliveryId dto actor =>
    obtain ⟨rfl, _, _⟩ := own
    rw [Request.proc, DeliveriesService.assignDelivery, DeliveriesService.getDeliveryById,
      Proc.map_eq_bind]
    simp only [Proc.seq_assoc]
    refine Proc.checks_of_read fun input moment found writes executed => ?_
    obtain ⟨_, same, idle⟩ := Prisma.Delivery.findUnique_succeeds.mp executed
    refine ⟨idle, fun unfinished => ?_⟩
    obtain ⟨row, rfl, unfinished⟩ := Proc.unfinished_require unfinished
    obtain ⟨_, unfinished⟩ := Proc.unfinished_rejectIf unfinished
    obtain ⟨_, unfinished⟩ := Proc.unfinished_rejectIf unfinished
    obtain ⟨accepted, _⟩ := Proc.unfinished_rejectIf unfinished
    exact ⟨row, same, by simpa [approves, or_iff_not_imp_left] using accepted⟩
  case acceptDelivery deliveryId driverId userId =>
    obtain ⟨rfl, _, _⟩ := own
    rw [Request.proc, DeliveriesService.acceptDelivery, Proc.map_eq_bind, Proc.seq_assoc]
    exact moves deliveryId driverId _ _ _
  case startDelivery deliveryId driverId userId =>
    obtain ⟨rfl, _, _⟩ := own
    rw [Request.proc, DeliveriesService.startDelivery, Proc.map_eq_bind, Proc.seq_assoc]
    exact moves deliveryId driverId _ _ _

/-- Before an unconditional update its request has read the delivery, and it has passed. -/
theorem checked_of_unconditional {db : Db} {requests : List Request}
    {trace first rest : List (Commit store)} {commit : Commit store} {final : Pool store Response}
    (steps : (Request.pool db requests).Steps trace final)
    (split : trace = first ++ commit :: rest) {request : Request}
    (made : requests[commit.thread]? = some request) {id : Uuid} {target : DeliveryStatus}
    {expected : List DeliveryStatus} (own : request.unconditional = some (id, target, expected))
    (wrote : commit.writes ≠ []) :
    ∃ early check between, first = early ++ check :: between ∧ check.thread = commit.thread ∧
      check.writes = [] ∧ ∃ row, check.before.delivery? id = some row ∧ request.approves row := by
  have found : (Request.pool db requests).procs[commit.thread]? = some request.proc := by
    simp [Request.pool, made]
  exact steps.checked found (Request.proc_checks own) split rfl wrote

/-- A request with an unconditional update does not itself take the delivery out of the
statuses from which the update is in time. -/
theorem Effect.expected_kept {request : Request} {core : List Write} {db : Db} {id : Uuid}
    {target : DeliveryStatus} {expected : List DeliveryStatus} {row row' : Delivery}
    (effect : Effect request core db) (own : request.unconditional = some (id, target, expected))
    (before : db.delivery? id = some row) (after : (db.commit core).delivery? id = some row')
    (inTime : row.status ∈ expected) : row'.status ∈ expected := by
  have reached : request.unconditional = some (id, target, expected) → target ∈ expected :=
    fun own => (Request.unconditional_expected own target).mpr (.inl rfl)
  cases effect.deliveryStep before after with
  | unchanged => exact inTime
  | routed => exact inTime
  | assigned requested | accepted requested | started requested =>
      subst requested
      cases own
      exact reached rfl
  | completed able =>
      rw [Request.unconditional_of_completes able] at own
      cases own
  | cancelled requested | overridden requested =>
      subst requested
      cases own

/-- Requests of which none takes a step between two steps of another are in time: what they
have checked is still so when they update. -/
theorem timely_of_serial {db : Db} {requests : List Request} {trace : List (Commit store)}
    {final : Pool store Response} (steps : (Request.pool db requests).Steps trace final)
    (serial : Serial trace) :
    ∀ commit ∈ trace, ∀ request, requests[commit.thread]? = some request →
      Timely request commit := by
  intro commit member request made id target expected own updates row found
  obtain ⟨first, rest, split⟩ := List.append_of_mem member
  have wrote : commit.writes ≠ [] := by
    obtain ⟨data, update⟩ := updates
    exact List.ne_nil_of_mem update
  obtain ⟨early, check, between, rfl, same, _, checked, there, approves⟩ :=
    checked_of_unconditional steps split made own wrote
  have atCheck : trace = early ++ check :: (between ++ commit :: rest) := by simp [split]
  have held := (serial.unbroken commit.thread).holds steps
    (fun _ db => ∃ row, db.delivery? id = some row ∧ row.status ∈ expected)
    (fun first other rest split own_ holding => ?_) atCheck same rfl (not_not.mpr same)
    ⟨checked, there, Request.expected_of_approves own approves⟩
  · obtain ⟨row', now, inTime⟩ := held
    cases now.symm.trans found
    exact inTime
  · -- a step of the request itself
    obtain ⟨row, before, inTime⟩ := holding
    obtain ⟨maker, madeOther, effect⟩ := Request.effect_of_steps steps other (by simp [split])
    rw [not_not.mp own_] at madeOther
    cases madeOther.symm.trans made
    obtain ⟨row', after⟩ := Db.delivery?_commit_of_some before other.writes
    exact ⟨row', after, effect.expected_kept own before (delivery?_after after) inTime⟩

end Runs

/-! ## A cancellation that an assignment undoes -/

namespace CancelRace

def admin : DeliveryActor := { userId := 9, role := .admin }

def db : Db where
  drivers := Table.empty.insert { id := 3, userId := 30 }
  vehicles := Table.empty.insert { id := 4 }
  deliveries := Table.empty.insert { id := 1, deliveryCode := "D-1", createdBy := 9 }

def assignment : Request := .assignDelivery 1 { driverId := 3, vehicleId := 4 } admin

def requests : List Request := [assignment, .cancelDelivery 1 ⟨"late"⟩ admin]

def pool : Pool store Response := @Request.pool noUuids db requests

/-- The assignment makes its three readings, the cancellation runs, and then the
assignment updates. -/
def schedule : List (Nat × (Nat → store.Input)) :=
  [0, 0, 0, 1, 1, 0].map fun thread => (thread, fun _ => {})

/-- The schedule is a run. -/
theorem steps : pool.Steps (pool.play schedule).1 (pool.play schedule).2 :=
  Pool.play_steps schedule pool

/-- The last step finds the delivery cancelled and leaves it assigned. -/
theorem assigns_cancelled :
    ∃ commit ∈ (pool.play schedule).1, commit.thread = 0 ∧
      (commit.before.delivery? 1).map Delivery.status = some .cancelled ∧
        (commit.after.delivery? 1).map Delivery.status = some .assigned := by
  decide

/-- The equivalence at the run of the race. -/
theorem lifecycle_iff_timely_of_race :
    (∀ commit ∈ (pool.play schedule).1, ∀ request, requests[commit.thread]? = some request →
      Lawful request commit) ↔
    ∀ commit ∈ (pool.play schedule).1, ∀ request, requests[commit.thread]? = some request →
      Timely request commit :=
  @lifecycle_iff_timely noUuids db requests _ (pool.play schedule).2 steps

/-- Not every run keeps to the state machine. -/
theorem lifecycle_violated :
    ¬∀ [UuidText] (db : Db) (requests : List Request) (trace : List (Commit store))
      (final : Pool store Response), (Request.pool db requests).Steps trace final →
        ∀ commit ∈ trace, ∀ request, requests[commit.thread]? = some request →
          Lawful request commit := by
  intro always
  obtain ⟨commit, member, thread, before, after⟩ := assigns_cancelled
  obtain ⟨row, found, status⟩ := Option.map_eq_some_iff.mp before
  obtain ⟨row', found', status'⟩ := Option.map_eq_some_iff.mp after
  have made : requests[commit.thread]? = some assignment := by rw [thread]; rfl
  have lawful := @always noUuids db requests _ _ steps commit member _ made 1 row row' found found'
  have kept := lawful.final (by rw [status]; decide) rfl
  rw [status, status'] at kept
  cases kept

end CancelRace

end Armada
