import Armada.Properties.DeliveryLifecycle

/-!
# The driver who accepted executes

While a delivery is accepted or under way its driver should be the one whose
acceptance was committed last. `acceptDelivery` and `startDelivery` check the
driver on a snapshot and do not test it in their update, so this holds as long as
no assignment to another driver comes between a check and its update.
-/

namespace Armada

open Relational Concurrency

/-- The driver whose acceptance of the delivery a commit is, if it is one. -/
def acceptor (requests : List Request) (id : Uuid) (commit : Commit store) : Option Uuid :=
  match requests[commit.thread]? with
  | some (.acceptDelivery deliveryId driverId _) =>
      if deliveryId.uuid = id ∧ Updates commit id then some driverId else none
  | _ => none

/-- The last acceptance of the delivery: its commit and its driver. -/
def lastAcceptance (requests : List Request) (id : Uuid) (trace : List (Commit store)) :
    Option (Commit store × Uuid) :=
  trace.reverse.findSome? fun commit => (acceptor requests id commit).map fun driver =>
    (commit, driver)

/-- The delivery is in a status its driver executes it in. -/
def Delivery.Executing (row : Delivery) : Prop :=
  row.status = .accepted ∨ row.status = .enRoute

/-- The delivery has this driver. -/
def DrivenBy (db : Db) (id driver : Uuid) : Prop :=
  ∃ row, db.delivery? id = some row ∧ row.driverId = some driver

/-- While the delivery is executed its driver is the last who accepted it, and was
assigned to it when he did. -/
def ExecutedByAcceptor (requests : List Request) (id : Uuid) (trace : List (Commit store))
    (db : Db) : Prop :=
  ∀ row, db.delivery? id = some row → row.Executing →
    ∃ commit driver, lastAcceptance requests id trace = some (commit, driver) ∧
      row.driverId = some driver ∧ DrivenBy commit.before id driver

/-- The commit assigns the delivery to another driver. -/
def HandsOver (requests : List Request) (id driverId : Uuid) (commit : Commit store) : Prop :=
  (∃ spelling dto actor, requests[commit.thread]? = some (.assignDelivery ⟨id, spelling⟩ dto actor) ∧
    dto.driverId ≠ driverId) ∧ Updates commit id

/-- The commit is the update with which the driver accepts or starts the delivery. -/
def Executes (requests : List Request) (id driverId : Uuid) (commit : Commit store) : Prop :=
  (∃ spelling userId, requests[commit.thread]? = some (.acceptDelivery ⟨id, spelling⟩ driverId userId) ∨
    requests[commit.thread]? = some (.startDelivery ⟨id, spelling⟩ driverId userId)) ∧
      Updates commit id

/-- Between a step of an acceptance or a start of the delivery and the update of that request,
no assignment of the delivery to another driver is committed. -/
def Undisturbed (requests : List Request) (id : Uuid) (trace : List (Commit store)) : Prop :=
  ∀ driverId, Unbroken (Executes requests id driverId) (HandsOver requests id driverId) trace

/-- An acceptance finds its driver in the row, and a start the last one who accepted. -/
def InPlace (requests : List Request) (id : Uuid) (trace : List (Commit store))
    (commit : Commit store) : Prop :=
  (∀ driver, acceptor requests id commit = some driver → DrivenBy commit.before id driver) ∧
    ∀ spelling driverId userId,
      requests[commit.thread]? = some (.startDelivery ⟨id, spelling⟩ driverId userId) →
        Updates commit id →
          ∃ earlier driver, lastAcceptance requests id trace = some (earlier, driver) ∧
        DrivenBy commit.before id driver

/-- One more commit is the last acceptance when it accepts, and else changes nothing. -/
theorem lastAcceptance_append (requests : List Request) (id : Uuid) (trace : List (Commit store))
    (commit : Commit store) :
    lastAcceptance requests id (trace ++ [commit]) =
      ((acceptor requests id commit).map fun driver => (commit, driver)).or
        (lastAcceptance requests id trace) := by
  simp only [lastAcceptance, List.reverse_append, List.reverse_singleton, List.singleton_append,
    List.findSome?_cons]
  cases acceptor requests id commit <;> rfl

/-- The last acceptance is one of the commits. -/
theorem acceptor_of_lastAcceptance {requests : List Request} {id driver : Uuid}
    {trace : List (Commit store)} {commit : Commit store}
    (last : lastAcceptance requests id trace = some (commit, driver)) :
    commit ∈ trace ∧ acceptor requests id commit = some driver := by
  obtain ⟨found, member, same⟩ := List.exists_of_findSome?_eq_some last
  obtain ⟨by_, accepted, pair⟩ := Option.map_eq_some_iff.mp same
  cases pair
  exact ⟨List.mem_reverse.mp member, accepted⟩

/-- The commit accepts a delivery exactly when its request does and it makes the row ACCEPTED. -/
theorem acceptor_eq_some {requests : List Request} {id driver : Uuid} {commit : Commit store} :
    acceptor requests id commit = some driver ↔
      (∃ spelling userId,
        requests[commit.thread]? = some (.acceptDelivery ⟨id, spelling⟩ driver userId)) ∧
        Updates commit id := by
  rw [acceptor]
  split
  · rename_i deliveryId driverId userId made
    obtain ⟨deliveryId, spelling⟩ := deliveryId
    by_cases here : deliveryId = id ∧ Updates commit id
    · obtain ⟨rfl, updates⟩ := here
      simp [made, updates]
    · rw [if_neg here]
      simp only [reduceCtorEq, made, Option.some.injEq, Request.acceptDelivery.injEq,
        IdText.mk.injEq, false_iff]
      rintro ⟨⟨_, _, ⟨same, _⟩, _⟩, updates⟩
      exact here ⟨same, updates⟩
  · rename_i other
    simp only [reduceCtorEq, false_iff]
    rintro ⟨⟨spelling, userId, made⟩, _⟩
    exact other _ _ _ made

section Runs

variable [UuidText]

/-- A commit in place leaves an executed delivery with its last acceptor. -/
theorem executed_of_inPlace {requests : List Request} {id : Uuid}
    {trace : List (Commit store)} {commit : Commit store} {request : Request}
    (made : requests[commit.thread]? = some request)
    (effect : Effect request (essential commit.writes) commit.before)
    (before : ExecutedByAcceptor requests id trace commit.before)
    (earlier : ∀ accepted ∈ trace, ∀ driver, acceptor requests id accepted = some driver →
      DrivenBy accepted.before id driver)
    (inPlace : InPlace requests id trace commit) :
    ExecutedByAcceptor requests id (trace ++ [commit]) commit.after := by
  intro row' after executing
  rw [lastAcceptance_append]
  cases found : commit.before.delivery? id with
  | none =>
      have draft := effect.draft_of_absent found (delivery?_after after)
      rcases executing with status | status <;> cases draft.symm.trans status
  | some row =>
      have step := effect.deliveryStep found (delivery?_after after)
      cases accepts : acceptor requests id commit with
      | some driver =>
          -- the driver whose acceptance this is was in the row, and it has not changed
          obtain ⟨same, foundSame, isDriver⟩ := inPlace.1 driver accepts
          rw [Option.some.inj (foundSame.symm.trans found)] at isDriver
          obtain ⟨⟨spelling, userId, accept⟩, _⟩ := acceptor_eq_some.mp accepts
          refine ⟨commit, driver, rfl, ?_, row, found, isDriver⟩
          cases step with
          | assigned requested =>
              subst requested
              cases accept.symm.trans made
          | _ => exact isDriver
      | none =>
          simp only [Option.map_none, Option.none_or]
          by_cases updates : Updates commit id
          · cases step with
            | unchanged => exact before _ found executing
            | routed => exact before row found executing
            | assigned requested => rcases executing with status | status <;> cases status
            | accepted requested =>
                subst requested
                have isAcceptor := acceptor_eq_some.mpr ⟨⟨_, _, made⟩, updates⟩
                cases accepts.symm.trans isAcceptor
            | started requested =>
                subst requested
                obtain ⟨accepted, driver, last, same, foundSame, isDriver⟩ :=
                  inPlace.2 _ _ _ made updates
                rw [Option.some.inj (foundSame.symm.trans found)] at isDriver
                obtain ⟨member, isAcceptor⟩ := acceptor_of_lastAcceptance last
                exact ⟨accepted, driver, last, isDriver, earlier accepted member driver isAcceptor⟩
            | completed able enRoute verdict =>
                rcases verdict_target verdict with rfl | rfl <;>
                  rcases executing with status | status <;> cases status
            | cancelled requested operational =>
                rcases executing with status | status <;> cases status
            | overridden requested status =>
                rcases executing with status | status <;> cases status
          · rw [delivery?_after_of_not_updates found updates] at after
            cases after
            exact before _ found executing

/-- A commit that does not assign the delivery to another driver leaves its driver. -/
theorem DrivenBy.kept {requests : List Request} {id driver : Uuid} {commit : Commit store}
    {request : Request} (made : requests[commit.thread]? = some request)
    (effect : Effect request (essential commit.writes) commit.before)
    (idle : ¬HandsOver requests id driver commit) (driven : DrivenBy commit.before id driver) :
    DrivenBy commit.after id driver := by
  obtain ⟨row, found, isDriver⟩ := driven
  by_cases updates : Updates commit id
  · obtain ⟨row', after⟩ := Db.delivery?_commit_of_some found commit.writes
    refine ⟨row', after, ?_⟩
    cases effect.deliveryStep found (delivery?_after after) with
    | assigned requested =>
        subst requested
        by_contra different
        exact idle ⟨⟨_, _, _, made, fun same => different (congrArg some same)⟩, updates⟩
    | _ => exact isDriver
  · exact ⟨row, delivery?_after_of_not_updates found updates, isDriver⟩

/-- An acceptance or a start has found its driver in the row when it read the delivery. -/
theorem checked_of_executes {db : Db} {requests : List Request}
    {trace first rest : List (Commit store)} {commit : Commit store} {final : Pool store Response}
    (steps : (Request.pool db requests).Steps trace final)
    (split : trace = first ++ commit :: rest) {id driverId userId : Uuid} {request : Request}
    {spelling : Spelling} (made : requests[commit.thread]? = some request)
    (executes : request = .acceptDelivery ⟨id, spelling⟩ driverId userId ∨
      request = .startDelivery ⟨id, spelling⟩ driverId userId) (updates : Updates commit id) :
    ∃ early check between, first = early ++ check :: between ∧ check.thread = commit.thread ∧
      check.writes = [] ∧ ∃ row, check.before.delivery? id = some row ∧
        row.driverId = some driverId ∧ request.approves row := by
  have wrote : commit.writes ≠ [] := by
    obtain ⟨data, update⟩ := updates
    exact List.ne_nil_of_mem update
  rcases executes with rfl | rfl
  · obtain ⟨early, check, between, whole, same, idle, row, found, approves⟩ :=
      checked_of_unconditional steps split made rfl wrote
    exact ⟨early, check, between, whole, same, idle, row, found, approves.1, approves⟩
  · obtain ⟨early, check, between, whole, same, idle, row, found, approves⟩ :=
      checked_of_unconditional steps split made rfl wrote
    exact ⟨early, check, between, whole, same, idle, row, found, approves.1, approves⟩

section Undisturbed

variable {db : Db} {requests : List Request} {trace : List (Commit store)}
  {final : Pool store Response} {id : Uuid}

/-- An undisturbed acceptance finds its driver in the row when it updates. -/
theorem driven_of_acceptor (steps : (Request.pool db requests).Steps trace final)
    (undisturbed : Undisturbed requests id trace) {first rest : List (Commit store)}
    {commit : Commit store} (split : trace = first ++ commit :: rest) {driver : Uuid}
    (accepts : acceptor requests id commit = some driver) : DrivenBy commit.before id driver := by
  have effects := Request.effect_of_steps steps
  obtain ⟨⟨spelling, userId, made⟩, updates⟩ := acceptor_eq_some.mp accepts
  obtain ⟨early, check, between, rfl, same, idle, row, found, isDriver, _⟩ :=
    checked_of_executes steps split made (.inl rfl) updates
  have atCheck : trace = early ++ check :: (between ++ commit :: rest) := by simp [split]
  have harmless : ¬HandsOver requests id driver check := by
    rintro ⟨_, data, update⟩
    simp [idle] at update
  exact (undisturbed driver).holds steps (fun _ db => DrivenBy db id driver)
    (fun first other rest split idle driven => by
      obtain ⟨request, made, effect⟩ := effects other (by simp [split])
      exact driven.kept made effect idle)
    atCheck same ⟨⟨_, _, .inl made⟩, updates⟩ harmless ⟨row, found, isDriver⟩

omit [UuidText] in
/-- Requests of which none takes a step between two steps of another do not disturb each
other. -/
theorem undisturbed_of_serial (serial : Serial trace) : Undisturbed requests id trace := by
  rintro driverId early check between step rest split same ⟨⟨_, userId, made⟩, _⟩ other member
    ⟨⟨_, dto, actor, assigns, _⟩, _⟩
  rw [serial early check between step rest split same other member] at assigns
  rcases made with accepts | starts
  · cases accepts.symm.trans assigns
  · cases starts.symm.trans assigns

/-- The last acceptance is of this driver, who has the delivery. -/
def AcceptedBy (requests : List Request) (id driver : Uuid) (trace : List (Commit store))
    (db : Db) : Prop :=
  (∃ commit, lastAcceptance requests id trace = some (commit, driver)) ∧ DrivenBy db id driver

/-- An undisturbed start finds the last driver who accepted in the row when it updates, if
every state before it has the delivery executed by its last acceptor. -/
theorem acceptedBy_of_start (steps : (Request.pool db requests).Steps trace final)
    (undisturbed : Undisturbed requests id trace) {first rest : List (Commit store)}
    {commit : Commit store} (split : trace = first ++ commit :: rest)
    (executed : ∀ early check between, first = early ++ check :: between →
      ExecutedByAcceptor requests id early check.before) {driverId userId : Uuid}
    {spelling : Spelling}
    (made : requests[commit.thread]? = some (.startDelivery ⟨id, spelling⟩ driverId userId))
    (updates : Updates commit id) : AcceptedBy requests id driverId first commit.before := by
  have effects := Request.effect_of_steps steps
  obtain ⟨early, check, between, rfl, same, idle, row, found, isDriver, approves⟩ :=
    checked_of_executes steps split made (.inr rfl) updates
  have atCheck : trace = early ++ check :: (between ++ commit :: rest) := by simp [split]
  have harmless : ¬HandsOver requests id driverId check := by
    rintro ⟨_, data, update⟩
    simp [idle] at update
  -- the delivery was accepted by this driver when the start read it
  have accepted : AcceptedBy requests id driverId early check.before := by
    obtain ⟨acceptance, driver, last, isLast, _⟩ :=
      executed early check between rfl row found (.inl approves.2)
    obtain rfl : driverId = driver := Option.some.inj (isDriver.symm.trans isLast)
    exact ⟨⟨acceptance, last⟩, row, found, isDriver⟩
  refine (undisturbed driverId).holds steps (AcceptedBy requests id driverId)
    (fun first other rest split idle holding => ?_) atCheck same ⟨⟨_, _, .inr made⟩, updates⟩
      harmless accepted
  obtain ⟨⟨acceptance, last⟩, driven⟩ := holding
  obtain ⟨request, made, effect⟩ := effects other (by simp [split])
  refine ⟨?_, driven.kept made effect idle⟩
  rw [lastAcceptance_append]
  cases accepts : acceptor requests id other with
  | some another =>
      -- another acceptance in between is of the driver who has the delivery
      obtain ⟨row, found, isDriver⟩ := driven
      obtain ⟨row', foundToo, isAnother⟩ := driven_of_acceptor steps undisturbed split accepts
      cases foundToo.symm.trans found
      obtain rfl : driverId = another := Option.some.inj (isDriver.symm.trans isAnother)
      exact ⟨other, rfl⟩
  | none => exact ⟨acceptance, last⟩

/-- In every run from a state where the delivery is not executed, it is executed by its last
acceptor in every state reached, if no assignment of it to another driver is committed between
the check of an acceptance or a start and the update of that request. -/
theorem executed_of_undisturbed (steps : (Request.pool db requests).Steps trace final)
    (idle : ∀ row, db.delivery? id = some row → ¬row.Executing)
    (undisturbed : Undisturbed requests id trace) :
    ∀ first commit rest, trace = first ++ commit :: rest →
      ExecutedByAcceptor requests id (first ++ [commit]) commit.after := by
  have effects := Request.effect_of_steps steps
  -- by induction along the run, for all states so far
  have initially : ExecutedByAcceptor requests id [] (Request.pool db requests).state ∧
      ∀ early check between, ([] : List (Commit store)) = early ++ check :: between →
        ExecutedByAcceptor requests id early check.before :=
    ⟨fun row found executing => absurd executing (idle row found),
      fun early check between split => by simp at split⟩
  have step : ∀ first commit rest, trace = first ++ commit :: rest →
      (ExecutedByAcceptor requests id first commit.before ∧
        ∀ early check between, first = early ++ check :: between →
          ExecutedByAcceptor requests id early check.before) →
      ExecutedByAcceptor requests id (first ++ [commit]) commit.after := by
    rintro first commit rest split ⟨before, executed⟩
    obtain ⟨request, made, effect⟩ := effects commit (by simp [split])
    have earlier : ∀ accepted ∈ first, ∀ driver, acceptor requests id accepted = some driver →
        DrivenBy accepted.before id driver := by
      intro accepted member driver accepts
      obtain ⟨left, right, rfl⟩ := List.append_of_mem member
      have atAccepted : trace = left ++ accepted :: (right ++ commit :: rest) := by simp [split]
      exact driven_of_acceptor steps undisturbed atAccepted accepts
    refine executed_of_inPlace made effect before earlier ⟨fun driver accepts => ?_, ?_⟩
    · exact driven_of_acceptor steps undisturbed split accepts
    · intro spelling driverId userId start updates
      obtain ⟨⟨acceptance, last⟩, driven⟩ :=
        acceptedBy_of_start steps undisturbed split executed start updates
      exact ⟨acceptance, driverId, last, driven⟩
  have along := steps.along
    (fun first db => ExecutedByAcceptor requests id first db ∧
      ∀ early check between, first = early ++ check :: between →
        ExecutedByAcceptor requests id early check.before) initially
    fun first commit rest split holding => by
      refine ⟨step first commit rest split holding, fun early check between whole => ?_⟩
      induction between using List.reverseRecOn with
      | nil =>
          obtain ⟨rfl, same⟩ := List.append_inj' whole rfl
          cases same
          exact holding.1
      | append_singleton between last _ =>
          rw [← List.cons_append, ← List.append_assoc] at whole
          exact holding.2 early check between (List.append_inj' whole rfl).1
  exact fun first commit rest split => step first commit rest split (along.2 first commit rest split)

end Undisturbed

end Runs

/-! ## An assignment between the check of an acceptance and its update -/

namespace Reassigned

def admin : DeliveryActor := { userId := 9, role := .admin }

def db : Db where
  drivers := (Table.empty.insert { id := 3, userId := 30 }).insert { id := 5, userId := 50 }
  vehicles := Table.empty.insert { id := 4 }
  deliveries := Table.empty.insert
    { id := 1, deliveryCode := "D-1", driverId := some 3, vehicleId := some 4, status := .assigned,
      createdBy := 9 }

def requests : List Request :=
  [.acceptDelivery 1 3 30, .assignDelivery 1 { driverId := 5, vehicleId := 4 } admin]

def pool : Pool store Response := @Request.pool noUuids db requests

/-- Driver 3 reads the delivery, it is assigned to driver 5, and then the
acceptance of driver 3 updates it. -/
def schedule : List (Nat × (Nat → store.Input)) :=
  [0, 1, 1, 1, 1, 0].map fun thread => (thread, fun _ => {})

/-- The schedule is a run. -/
theorem steps : pool.Steps (pool.play schedule).1 (pool.play schedule).2 :=
  Pool.play_steps schedule pool

/-- The delivery is not under execution at the start. -/
theorem idle : ∀ row, db.delivery? 1 = some row → ¬row.Executing := by
  intro row found
  cases found
  rintro (status | status) <;> cases status

/-- The last step leaves the delivery accepted and assigned to driver 5. -/
theorem accepts_for_other :
    ∃ first commit, (pool.play schedule).1 = first ++ [commit] ∧
      (commit.after.delivery? 1).map (fun row => (row.status, row.driverId)) =
        some (.accepted, some 5) ∧
      (lastAcceptance requests 1 (first ++ [commit])).map Prod.snd = some 3 := by
  refine ⟨(pool.play schedule).1.dropLast,
    (pool.play schedule).1.getLast (by decide), ?_, ?_, ?_⟩
  · exact (List.dropLast_append_getLast _).symm
  · decide
  · decide

/-- Not every run has its deliveries executed by who accepted them. -/
theorem executed_violated :
    ¬∀ [UuidText] (db : Db) (requests : List Request) (trace : List (Commit store))
      (final : Pool store Response) (id : Uuid), (Request.pool db requests).Steps trace final →
        (∀ row, db.delivery? id = some row → ¬row.Executing) →
          ∀ first commit rest, trace = first ++ commit :: rest →
            ExecutedByAcceptor requests id (first ++ [commit]) commit.after := by
  intro always
  obtain ⟨first, commit, split, after, last⟩ := accepts_for_other
  obtain ⟨row, found, same⟩ := Option.map_eq_some_iff.mp after
  simp only [Prod.mk.injEq] at same
  obtain ⟨accepted, driver, isLast, isDriver, _⟩ :=
    @always noUuids db requests _ _ 1 steps idle first commit [] split row found (.inl same.1)
  rw [isLast] at last
  cases last
  rw [same.2] at isDriver
  cases isDriver

end Reassigned

/-! ## An assignment that comes before the check -/

namespace Handed

/-- The delivery is assigned to driver 5, who then accepts it. -/
def requests : List Request :=
  [.assignDelivery 1 { driverId := 5, vehicleId := 4 } Reassigned.admin, .acceptDelivery 1 5 50]

def pool : Pool store Response := @Request.pool noUuids Reassigned.db requests

def schedule : List (Nat × (Nat → store.Input)) :=
  [0, 0, 0, 0, 1, 1].map fun thread => (thread, fun _ => {})

/-- The schedule is a run. -/
theorem steps : pool.Steps (pool.play schedule).1 (pool.play schedule).2 :=
  Pool.play_steps schedule pool

/-- Nothing comes between an acceptance's read and its update, or a start's. -/
theorem undisturbed : Undisturbed requests 1 (pool.play schedule).1 :=
  undisturbed_of_serial (serial_of_sorted (by decide))

/-- The run that hands the delivery over ends with the new driver's acceptance. -/
theorem executed_of_undisturbed_of_handover :
    ∃ first commit, (pool.play schedule).1 = first ++ [commit] ∧
      (commit.after.delivery? 1).map (fun row => (row.status, row.driverId)) =
        some (.accepted, some 5) ∧
      ExecutedByAcceptor requests 1 (first ++ [commit]) commit.after := by
  refine ⟨(pool.play schedule).1.dropLast, (pool.play schedule).1.getLast (by decide), ?_, ?_, ?_⟩
  · exact (List.dropLast_append_getLast _).symm
  · decide
  · exact @executed_of_undisturbed noUuids Reassigned.db requests _ _ 1 steps Reassigned.idle
      undisturbed _ _ [] (List.dropLast_append_getLast _).symm

end Handed

end Armada
