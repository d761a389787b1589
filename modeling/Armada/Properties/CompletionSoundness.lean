import Armada.Effects.Rows
import Armada.Effects.Services

/-!
# What a finished delivery says about its stops

A completed delivery has all its stops finished and one of them delivered, a failed
one has all finished and none delivered. The manual and the automatic completion
evaluate the stops in the transaction that sets the status, and no stop of a
terminal delivery moves after that; the override of a conflict, which does change
such a stop, evaluates them again. That it evaluates the stops of the right
delivery is a second invariant, about the tickets.
-/

namespace Armada

open Relational Concurrency

/-- The statuses of the stops of a delivery. -/
def Db.stopStatuses (db : Db) (deliveryId : Uuid) : List StopStatus :=
  (db.stopsOf deliveryId).map DeliveryStop.status

/-- What a delivery's status promises of the statuses of its stops. -/
def Promised (statuses : List StopStatus) : DeliveryStatus → Prop
  | .completed => statuses ≠ [] ∧ (∀ status ∈ statuses, status.Terminal) ∧ .delivered ∈ statuses
  | .failed => statuses ≠ [] ∧ (∀ status ∈ statuses, status.Terminal) ∧ .delivered ∉ statuses
  | _ => True

/-- Every ticket is about a stop of its own delivery. -/
def TicketsBound [UuidText] (db : Db) : Prop :=
  ∀ id conflict stopId, db.conflict? id = some conflict →
    conflict.clientPayload.payload.target.toUuid = .ok stopId →
      ∃ stop, db.stop? stopId = some stop ∧ stop.deliveryId = conflict.deliveryId

/-- Every delivery keeps what its status promises. -/
def CompletionsSound (db : Db) : Prop :=
  ∀ id row, db.delivery? id = some row → Promised (db.stopStatuses id) row.status

/-- The tickets are bound where the two states agree. -/
theorem TicketsBound.congr [UuidText] {left right : Db} (agree : left.Agree right)
    (bound : TicketsBound left) : TicketsBound right := by
  simpa only [TicketsBound, agree.conflict?, agree.stop?] using bound

/-- Completions are sound where the two states agree. -/
theorem CompletionsSound.congr {left right : Db} (agree : left.Agree right)
    (sound : CompletionsSound left) : CompletionsSound right := by
  simpa only [CompletionsSound, agree.delivery?, Db.stopStatuses, agree.stopsOf] using sound

/-- An operational delivery promises nothing. -/
theorem promised_of_operational {statuses : List StopStatus} {status : DeliveryStatus}
    (operational : ¬status.Terminal) : Promised statuses status := by
  cases status with
  | completed => exact absurd (by decide) operational
  | failed => exact absurd (by decide) operational
  | _ => trivial

/-- The evaluation of the stops gives a status that keeps its promise. -/
theorem promised_of_verdict {stops : List DeliveryStop} {target : DeliveryStatus}
    (verdict : DeliveriesService.evaluateStops stops =
      { completed := true, targetStatus := some target }) :
    Promised (stops.map DeliveryStop.status) target := by
  have completed : (DeliveriesService.evaluateStops stops).completed = true := by rw [verdict]
  obtain ⟨present, terminal, same⟩ := DeliveriesService.evaluateStops_completed completed
  have targetEq := congrArg CompletionEvaluation.targetStatus (verdict.symm.trans same)
  simp only [Option.some.injEq] at targetEq
  have allTerminal : ∀ status ∈ stops.map DeliveryStop.status, status.Terminal :=
    List.forall_mem_map.mpr terminal
  have nonempty : stops.map DeliveryStop.status ≠ [] := by simpa using present
  split at targetEq
  · rename_i delivered
    subst targetEq
    exact ⟨nonempty, allTerminal, List.mem_map.mpr delivered⟩
  · rename_i undelivered
    subst targetEq
    exact ⟨nonempty, allTerminal, fun member => undelivered (List.mem_map.mp member)⟩

/-- The test of an override is the promise of a completed delivery. -/
theorem overrideCompletes_iff {stops : List DeliveryStop} :
    DeliveryConflictsService.overrideCompletes stops = true ↔
      Promised (stops.map DeliveryStop.status) .completed := by
  simp only [DeliveryConflictsService.overrideCompletes, Bool.and_eq_true, List.all_eq_true,
    List.any_eq_true, decide_eq_true_eq]
  constructor
  · rintro ⟨terminal, delivered⟩
    have member : .delivered ∈ stops.map DeliveryStop.status := List.mem_map.mpr delivered
    exact ⟨List.ne_nil_of_mem member, List.forall_mem_map.mpr terminal, member⟩
  · rintro ⟨_, terminal, delivered⟩
    exact ⟨List.forall_mem_map.mp terminal, List.mem_map.mp delivered⟩

/-! ## The stops of a delivery after a write -/

namespace Db

/-- An update that leaves the status of a stop as it is, or is about a stop of
another delivery. -/
theorem stopStatuses_updateStop {db : Db} {key deliveryId : Uuid} {data : StopData}
    (idle : data.status = none ∨ ∀ stop, db.stop? key = some stop → stop.deliveryId ≠ deliveryId) :
    ((Write.updateStop key data).apply db).stopStatuses deliveryId =
      db.stopStatuses deliveryId := by
  rw [stopStatuses, stopsOf_updateStop, List.map_map, stopStatuses]
  refine List.map_congr_left fun stop member => ?_
  obtain ⟨found, own⟩ := mem_stopsOf.mp member
  by_cases here : stop.id = key
  · rcases idle with unset | other
    · simp [here, StopData.set, unset]
    · exact absurd own (other stop (here ▸ found))
  · simp [here]

/-- Stops of other deliveries leave the statuses of these. -/
theorem stopStatuses_createStops {db : Db} {stops : List DeliveryStop} {deliveryId : Uuid}
    (other : ∀ stop ∈ stops, stop.deliveryId ≠ deliveryId) :
    (db.commit (stops.map .createStop)).stopStatuses deliveryId = db.stopStatuses deliveryId := by
  induction stops generalizing db with
  | nil => rfl
  | cons stop stops inductionHypothesis =>
      rw [List.map_cons, commit_cons,
        inductionHypothesis fun later member => other later (List.mem_cons_of_mem _ member),
        stopStatuses, stopsOf_createStop (other stop List.mem_cons_self), stopStatuses]

/-- A resequencing leaves the statuses of the stops. -/
theorem stopStatuses_resequence (db : Db) (moves : List (Uuid × Int)) (deliveryId : Uuid) :
    (db.commit (moves.map .resequence)).stopStatuses deliveryId = db.stopStatuses deliveryId := by
  refine commit_idle (·.stopStatuses deliveryId) (fun write member db => ?_) db
  obtain ⟨item, _, rfl⟩ := List.mem_map.mp member
  exact stopStatuses_updateStop (.inl rfl)

end Db

/-! ## The two invariants -/

/-- What a delivery promises is kept by writes that change neither its status nor
the statuses of its stops. -/
private theorem promised_of_same {before after : Db} {id : Uuid} {row row' : Delivery}
    (statuses : after.stopStatuses id = before.stopStatuses id) (status : row'.status = row.status)
    (promised : Promised (before.stopStatuses id) row.status) :
    Promised (after.stopStatuses id) row'.status := by
  rw [statuses, status]
  exact promised

/-- The parent of a stop that a conditional update changes is operational. -/
private theorem promised_of_matched {db : Db} {id stopId : Uuid} {expected : List StopStatus}
    {data : StopData} {row : Delivery} (found : db.delivery? id = some row)
    (matched : Prisma.DeliveryStop.matched db stopId expected terminalDeliveryStatuses = true)
    (promised : Promised (db.stopStatuses id) row.status) :
    Promised (((Write.updateStop stopId data).apply db).stopStatuses id) row.status := by
  obtain ⟨stop, foundStop, _, parent, foundParent, operational⟩ :=
    Prisma.DeliveryStop.matched_iff.mp matched
  by_cases own : stop.deliveryId = id
  · subst own
    obtain rfl : parent = row := Option.some.inj (foundParent.symm.trans found)
    exact promised_of_operational operational
  · refine promised_of_same (Db.stopStatuses_updateStop (.inr ?_)) rfl promised
    intro other foundOther
    rw [Option.some.inj (foundOther.symm.trans foundStop)]
    exact own

/-- Among terminal stops the delivery of one completes. -/
private theorem promised_of_delivered {db : Db} {stopId : Uuid} {data : StopData}
    {stop : DeliveryStop} (foundStop : db.stop? stopId = some stop)
    (outcome : data.status = some .delivered)
    (terminal : ∀ status ∈ db.stopStatuses stop.deliveryId, status.Terminal) :
    Promised (((Write.updateStop stopId data).apply db).stopStatuses stop.deliveryId)
      .completed := by
  obtain rfl := Db.id_of_stop? foundStop
  have member : stop ∈ db.stopsOf stop.deliveryId := Db.mem_stopsOf.mpr ⟨foundStop, rfl⟩
  have delivered : .delivered ∈
      ((Write.updateStop stop.id data).apply db).stopStatuses stop.deliveryId := by
    rw [Db.stopStatuses, Db.stopsOf_updateStop, List.map_map]
    exact List.mem_map.mpr ⟨stop, member, by simp [StopData.set, outcome]⟩
  refine ⟨List.ne_nil_of_mem delivered, ?_, delivered⟩
  rw [Db.stopStatuses, Db.stopsOf_updateStop, List.map_map, List.forall_mem_map]
  intro other otherMember
  by_cases here : other.id = stop.id
  · simp only [Function.comp_apply, here, if_true, StopData.set, outcome, Option.getD_some]
    decide
  · simpa [here] using terminal _ (List.mem_map_of_mem otherMember)

/-- An override that finishes no delivery leaves what the parent promises, since it
would have completed a parent whose stops are terminal. -/
private theorem promised_of_unfinished {db : Db} {id stopId : Uuid} {data : StopData}
    {stop : DeliveryStop} {row : Delivery} (foundStop : db.stop? stopId = some stop)
    (outcome : data.status = some .delivered)
    (remain : DeliveryConflictsService.overrideCompletes
      (((Write.updateStop stopId data).apply db).stopsOf stop.deliveryId) = false)
    (promised : Promised (db.stopStatuses id) row.status) :
    Promised (((Write.updateStop stopId data).apply db).stopStatuses id) row.status := by
  by_cases own : stop.deliveryId = id
  · subst own
    have unfinished : ¬∀ status ∈ db.stopStatuses stop.deliveryId, status.Terminal := by
      intro terminal
      have finished := overrideCompletes_iff.mpr (promised_of_delivered foundStop outcome terminal)
      rw [remain] at finished
      cases finished
    cases status : row.status with
    | completed => rw [status] at promised; exact absurd promised.2.1 unfinished
    | failed => rw [status] at promised; exact absurd promised.2.1 unfinished
    | _ => trivial
  · refine promised_of_same (Db.stopStatuses_updateStop (.inr ?_)) rfl promised
    intro other foundOther
    rw [Option.some.inj (foundOther.symm.trans foundStop)]
    exact own

variable [UuidText]

/-- Tickets stay bound: a new one names the stop that was found for it. -/
theorem Effect.ticketsBound {request : Request} {core : List Write} {db : Db}
    (effect : Effect request core db) (bound : TicketsBound db) :
    TicketsBound (db.commit core) := by
  intro id conflict stopId after target
  have extended := db.extends_commit core
  -- a stop that a ticket names is still there and with its delivery
  have still : ∀ {stop : DeliveryStop} {deliveryId : Uuid}, db.stop? stopId = some stop →
      stop.deliveryId = deliveryId →
        ∃ later, (db.commit core).stop? stopId = some later ∧ later.deliveryId = deliveryId := by
    intro stop deliveryId found own
    obtain ⟨later, foundLater, same⟩ := extended.stops stopId stop found
    exact ⟨later, foundLater, same.trans own⟩
  cases before : db.conflict? id with
  | some earlier =>
      obtain ⟨later, foundLater, sameDelivery, samePayload⟩ := extended.conflicts id earlier before
      obtain rfl : later = conflict := Option.some.inj (foundLater.symm.trans after)
      rw [samePayload] at target
      obtain ⟨stop, found, own⟩ := bound id earlier stopId before target
      exact still found (own.trans sameDelivery.symm)
  | none =>
      obtain ⟨_, member, created, rfl⟩ := Db.conflict?_commit_of_absent before after
      cases effect with
      | @ticketed dto driver user db row ticketStop stop fresh named found owner =>
          have same : row = conflict := by
            rw [Db.commit_cons, Db.commit_nil, Write.conflict?_apply, before] at after
            by_cases here : row.id = id
            · simpa [Write.onConflict, here] using after
            · simp [Write.onConflict, here] at after
          subst same
          cases named.symm.trans target
          exact still found owner
      | created fresh draft pending => simp at member
      | overridden status found named target stopFound evidenced outcome order completes =>
          cases evidenced <;> cases completes <;> simp at member
      | reordered ofDelivery fresh own => simp [Write.resequence] at member
      | _ => simp at member

omit [UuidText] in
/-- A request that completes is no override. -/
private theorem Request.overrides_of_completes {request : Request}
    (able : request.completes = true) : request.overrides = false := by
  cases request <;> first | rfl | cases able

omit [UuidText] in
/-- A change of a delivery alone keeps what it promises, since a completion has
evaluated the stops as they are. -/
private theorem DeliveryStep.promised {request : Request} {db : Db} {id : Uuid}
    {row row' : Delivery} (step : DeliveryStep request db id row row')
    (plain : request.overrides = false) (before : Promised (db.stopStatuses id) row.status) :
    Promised (db.stopStatuses id) row'.status := by
  cases step with
  | unchanged => exact before
  | routed => exact before
  | completed able enRoute verdict => exact promised_of_verdict verdict
  | overridden requested status =>
      subst requested
      exact absurd (decide_eq_true status) (Bool.eq_false_iff.mp plain)
  | _ => trivial

omit [UuidText] in
/-- The completion by an override: of the parent of the stop it has delivered. -/
private theorem promised_of_overridden {db : Db} {id stopId deliveryId : Uuid} {data : StopData}
    {stop : DeliveryStop} {row row' : Delivery} {now : Instant}
    (foundStop : db.stop? stopId = some stop) (own : stop.deliveryId = deliveryId)
    (finished : DeliveryConflictsService.overrideCompletes
      (((Write.updateStop stopId data).apply db).stopsOf deliveryId) = true)
    (before : db.delivery? id = some row)
    (after : ((Write.updateDelivery deliveryId
      { status := some .completed, completedAt := some now }).apply db).delivery? id = some row')
    (promised : Promised (db.stopStatuses id) row.status) :
    Promised (((Write.updateStop stopId data).apply db).stopStatuses id) row'.status := by
  rw [Write.delivery?_apply, before] at after
  by_cases here : id = deliveryId
  · rw [Write.onDelivery, if_pos here] at after
    cases after
    subst here
    exact overrideCompletes_iff.mp finished
  · rw [Write.onDelivery, if_neg here] at after
    cases after
    refine promised_of_same (Db.stopStatuses_updateStop (.inr ?_)) rfl promised
    intro other foundOther
    rw [Option.some.inj (foundOther.symm.trans foundStop), own]
    exact Ne.symm here

/-- Deliveries keep what they promise. -/
theorem Effect.completionsSound {request : Request} {core : List Write} {db : Db}
    (effect : Effect request core db) (bound : TicketsBound db) (sound : CompletionsSound db) :
    CompletionsSound (db.commit core) := by
  intro id row' after
  cases before : db.delivery? id with
  | none =>
      rw [effect.draft_of_absent before after]
      trivial
  | some row =>
      have promised := sound id row before
      have step := effect.deliveryStep before after
      cases effect with
      | none => exact sound id row' after
      | ticketed fresh target found owner => exact sound id row' after
      | resolved found plain => exact sound id row' after
      | @created dto user db delivery stops fresh draft pending =>
          have others : ∀ stop ∈ stops, stop.deliveryId ≠ id := by
            rintro stop member rfl
            rw [(pending stop member).2.1, fresh] at before
            cases before
          exact promised_of_same (Db.stopStatuses_createStops others) rfl
            (step.promised rfl promised)
      | completed able found enRoute verdict =>
          exact step.promised (Request.overrides_of_completes able) promised
      | moved move able matched target order =>
          obtain rfl : row' = row := Option.some.inj (after.symm.trans before)
          exact promised_of_matched before matched promised
      | delivered able matched target order absent ofStop =>
          obtain rfl : row' = row := Option.some.inj (after.symm.trans before)
          exact promised_of_matched before matched promised
      | overridden status found named target stopFound evidenced outcome order completes =>
          obtain ⟨owned, foundOwned, own⟩ := bound _ _ _ found target
          cases completes with
          | unfinished remain =>
              have same : db.delivery? id = some row' := by cases evidenced <;> exact after
              obtain rfl : row' = row := Option.some.inj (same.symm.trans before)
              have kept := promised_of_unfinished foundOwned outcome (own ▸ remain) promised
              cases evidenced <;> exact kept
          | completed foundDelivery finished =>
              have changed {now : Instant} (after : ((Write.updateDelivery _
                  { status := some .completed, completedAt := some now }).apply db).delivery? id =
                    some row') := promised_of_overridden foundOwned own finished before after promised
              cases evidenced <;> exact changed after
      | @reordered deliveryId dto actor db route rows mode moves ofDelivery fresh own =>
          refine (promised_of_same ?_ rfl (step.promised rfl promised))
          rw [Db.commit_append]
          exact Db.stopStatuses_resequence db moves id
      | _ => exact step.promised rfl promised

/-- In every run of any requests, started where every delivery keeps what its status
promises and every ticket is about a stop of its delivery, every state is such. -/
theorem completions_sound {db : Db} {requests : List Request} {trace : List (Commit store)}
    {final : Pool store Response} (steps : (Request.pool db requests).Steps trace final)
    (sound : CompletionsSound db) (bound : TicketsBound db) :
    CompletionsSound final.state ∧ ∀ commit ∈ trace, CompletionsSound commit.before := by
  obtain ⟨last, earlier⟩ := Request.invariant_of_steps steps
    (fun db => TicketsBound db ∧ CompletionsSound db) ⟨bound, sound⟩
    (fun agree both => ⟨both.1.congr agree, both.2.congr agree⟩)
    fun request core db effect both =>
      ⟨effect.ticketsBound both.1, effect.completionsSound both.1 both.2⟩
  exact ⟨last.2, fun commit member => (earlier commit member).2⟩

/-! ## The proof of the last stop completes the delivery -/

namespace LastStop

omit [UuidText]

def driver : DeliveryActor := { userId := 30, role := .driver, driverId := some 3 }

def db : Db where
  deliveries := Table.empty.insert
    { id := 1, deliveryCode := "D-1", driverId := some 3, status := .enRoute, createdBy := 9 }
  deliveryStops := Table.empty.insert { id := 7, deliveryId := 1, sequence := 1, status := .arrived }

def requests : List Request := [.submitPod 7 { receiverName := .string "R" } driver]

def pool : Pool store Response := @Request.pool noUuids db requests

def schedule : List (Nat × (Nat → store.Input)) :=
  List.replicate 6 (0, fun _ => {})

/-- The schedule is a run. -/
theorem steps : pool.Steps (pool.play schedule).1 (pool.play schedule).2 :=
  Pool.play_steps schedule pool

/-- The store is sound at the start. -/
theorem initially_sound : CompletionsSound db := by
  intro id row found
  obtain ⟨member, _⟩ := Table.find?_eq_some.mp found
  obtain rfl := List.mem_singleton.mp member
  trivial

/-- The tickets are bound at the start. -/
theorem initially_bound : @TicketsBound noUuids db := by
  intro id conflict stopId found
  cases found

/-- The submission for the last stop completes the delivery soundly. -/
theorem completions_sound_of_last_stop :
    CompletionsSound (pool.play schedule).2.state ∧
      ∀ commit ∈ (pool.play schedule).1, CompletionsSound commit.before :=
  @completions_sound noUuids db requests _ _ steps initially_sound initially_bound

example : ((pool.play schedule).2.state.delivery? 1).map Delivery.status = some .completed := by
  decide

end LastStop

end Armada
