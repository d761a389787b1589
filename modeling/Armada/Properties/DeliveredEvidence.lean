import Armada.Effects.Rows
import Armada.Effects.Services

/-!
# Delivered stops and their proofs

A stop should be delivered exactly if there is a proof of delivery for it.
`submitPod` writes both in one transaction. The override of a conflict delivers the
stop of its ticket whatever the event was, but writes a proof only where the
payload names a receiver; so the equivalence holds as long as every override names
one or finds a proof.
-/

namespace Armada

open Relational Concurrency

/-- A stop is delivered exactly if there is a proof of delivery for it. -/
def Evidenced (db : Db) : Prop :=
  ∀ id stop, db.stop? id = some stop → (stop.status = .delivered ↔ (db.pod? id).isSome = true)

/-- The property carries over to a state that agrees. -/
theorem Evidenced.congr {left right : Db} (agree : left.Agree right) (evidenced : Evidenced right) :
    Evidenced left := by
  simpa only [Evidenced, agree.stop?, agree.pod?] using evidenced

/-- The foreign key of a proof of delivery. -/
def ProofsOfStops (db : Db) : Prop :=
  ∀ id, (db.pod? id).isSome = true → (db.stop? id).isSome = true

/-- Where the writes are the override of a ticket about a stop, its payload names a
receiver, or there is a proof for the stop already. -/
def Named [UuidText] (request : Request) (writes : List Write) (db : Db) : Prop :=
  ∀ conflictId dto actorUserId actorRole conflict stopId data,
    request = .resolveConflict conflictId dto actorUserId actorRole →
      dto.status = .resolvedOverridden → Write.updateConflict conflictId data ∈ writes →
        db.conflict? conflictId = some conflict →
          conflict.clientPayload.payload.target.truthy = true →
            conflict.clientPayload.payload.target.toUuid = .ok stopId →
              conflict.clientPayload.payload.receiverName.truthy = true ∨
                (db.pod? stopId).isSome = true

/-- Naming depends on the essential writes alone. -/
theorem named_essential [UuidText] {request : Request} {writes : List Write} {db : Db} :
    Named request (essential writes) db ↔ Named request writes db := by
  simp [Named, essential, Write.ancillary]

namespace Db

/-- The status of the stop with an id. -/
def stopStatus? (db : Db) (id : Uuid) : Option StopStatus := (db.stop? id).map DeliveryStop.status

/-- Both statements in one: where there is no stop there is no proof either. -/
def Matched (db : Db) (id : Uuid) : Prop :=
  db.stopStatus? id = some .delivered ↔ (db.pod? id).isSome = true

/-- Evidence and the foreign key together are a match at every stop. -/
theorem evidenced_iff (db : Db) : Evidenced db ∧ ProofsOfStops db ↔ ∀ id, db.Matched id := by
  constructor
  · rintro ⟨evidenced, ofStops⟩ id
    cases found : db.stop? id with
    | none =>
        have absent := ofStops id
        rw [found] at absent
        simpa [Matched, stopStatus?, found] using absent
    | some stop => simpa [Matched, stopStatus?, found] using evidenced id stop found
  · intro all
    refine ⟨fun id stop found => ?_, fun id present => ?_⟩
    · simpa [Matched, stopStatus?, found] using all id
    · obtain ⟨stop, found, _⟩ := Option.map_eq_some_iff.mp ((all id).mpr present)
      rw [found]
      rfl

/-- Matches carry over to a state that agrees. -/
theorem Agree.matchedStops {left right : Db} (agree : left.Agree right)
    (all : ∀ id, left.Matched id) : ∀ id, right.Matched id := by
  simpa only [Matched, stopStatus?, agree.stop?, agree.pod?] using all

/-- The status of a stop after an update. -/
theorem stopStatus?_updateStop (db : Db) (key id : Uuid) (data : StopData) :
    ((Write.updateStop key data).apply db).stopStatus? id =
      if id = key then (db.stopStatus? id).map data.status.getD else db.stopStatus? id := by
  rw [stopStatus?, Write.stop?_apply, Write.onStop]
  split
  · rw [stopStatus?, Option.map_map, Option.map_map]
    rfl
  · rfl

/-- A resequencing leaves the statuses. -/
theorem stopStatus?_resequence (db : Db) (moves : List (Uuid × Int)) (id : Uuid) :
    (db.commit (moves.map .resequence)).stopStatus? id = db.stopStatus? id := by
  refine commit_idle (·.stopStatus? id) (fun write member db => ?_) db
  obtain ⟨item, _, rfl⟩ := List.mem_map.mp member
  rw [Write.resequence, stopStatus?_updateStop]
  split
  · exact Option.map_id'
  · rfl

/-- A resequencing leaves the proofs. -/
theorem pod?_resequence (db : Db) (moves : List (Uuid × Int)) (id : Uuid) :
    (db.commit (moves.map .resequence)).pod? id = db.pod? id := by
  refine commit_idle (·.pod? id) (fun write member db => ?_) db
  obtain ⟨item, _, rfl⟩ := List.mem_map.mp member
  rfl

/-- No new stop is delivered. -/
theorem delivered_createStops {db : Db} {stops : List DeliveryStop}
    (pending : ∀ stop ∈ stops, stop.status = .pending) (id : Uuid) :
    (db.commit (stops.map .createStop)).stopStatus? id = some .delivered ↔
      db.stopStatus? id = some .delivered := by
  refine iff_of_eq (commit_idle (fun db => db.stopStatus? id = some .delivered)
    (fun write member db => propext ?_) db)
  obtain ⟨stop, isStop, rfl⟩ := List.mem_map.mp member
  rw [stopStatus?, Write.stop?_apply, stopStatus?, Write.onStop]
  cases db.stop? id with
  | some row => rfl
  | none => by_cases here : stop.id = id <;> simp [here, pending stop isStop]

/-- New stops leave the proofs. -/
theorem pod?_createStops (db : Db) (stops : List DeliveryStop) (id : Uuid) :
    (db.commit (stops.map .createStop)).pod? id = db.pod? id := by
  refine commit_idle (·.pod? id) (fun write member db => ?_) db
  obtain ⟨item, _, rfl⟩ := List.mem_map.mp member
  rfl

/-- The delivery of a stop, after its proof has been written. -/
theorem matched_of_delivered {before after : Db} {stopId : Uuid} {data : StopData}
    {stop : DeliveryStop} (all : ∀ id, before.Matched id) (found : before.stop? stopId = some stop)
    (outcome : data.status = some .delivered)
    (stops : ∀ id, after.stop? id = ((Write.updateStop stopId data).apply before).stop? id)
    (proof : (after.pod? stopId).isSome = true)
    (others : ∀ id, id ≠ stopId → after.pod? id = before.pod? id) : ∀ id, after.Matched id := by
  intro id
  have status : after.stopStatus? id =
      if id = stopId then (before.stopStatus? id).map data.status.getD else before.stopStatus? id := by
    rw [← stopStatus?_updateStop, stopStatus?, stops, stopStatus?]
  rw [Matched, status]
  by_cases here : id = stopId
  · subst here
    simp [stopStatus?, found, outcome, proof]
  · rw [if_neg here, others id here]
    exact all id

end Db

variable [UuidText]

/-- Effects keep stops and proofs matched, overrides if they are named. -/
theorem Effect.matched {request : Request} {core : List Write} {db : Db}
    (effect : Effect request core db) (evidence : Named request core db)
    (all : ∀ id, db.Matched id) : ∀ id, (db.commit core).Matched id := by
  cases effect with
  | created fresh draft pending =>
      intro id
      rw [Db.Matched, Db.commit_cons, Db.delivered_createStops fun stop member =>
        (pending stop member).1, Db.pod?_createStops]
      exact all id
  | @moved request stopId db data move able matched target order =>
      obtain ⟨stop, found, expected, _⟩ := Prisma.DeliveryStop.matched_iff.mp matched
      intro id
      have proofs : (db.commit [.updateStop stopId data]).pod? id = db.pod? id := rfl
      rw [Db.Matched, proofs, Db.commit_cons, Db.commit_nil, Db.stopStatus?_updateStop]
      by_cases here : id = stopId
      · subst here
        have undelivered : stop.status ≠ .delivered ∧ move.target ≠ .delivered := by
          cases move <;> revert expected <;> cases stop.status <;> decide
        have matchedBefore := all id
        simp only [Db.Matched, Db.stopStatus?, found, Option.map_some, Option.some.injEq,
          undelivered.1, false_iff] at matchedBefore
        simp [Db.stopStatus?, found, target, undelivered.2, matchedBefore]
      · rw [if_neg here]
        exact all id
  | delivered able matched target order absent ofStop =>
      obtain ⟨stop, found, _⟩ := Prisma.DeliveryStop.matched_iff.mp matched
      refine Db.matched_of_delivered all found target (fun id => rfl) ?_ ?_
      · simp [Write.pod?_apply, Write.onPod, ofStop]
      · intro id other
        simp [Write.pod?_apply, Write.onPod, ofStop, Ne.symm other]
  | @overridden conflictId dto user role db conflict stopId stop data delivered evidenceWrites
      completion status found truthy target stopFound evidenced outcome order completes =>
      have proofOrName := evidence conflictId dto user role conflict stopId data rfl status
        List.mem_cons_self found truthy target
      refine Db.matched_of_delivered all stopFound outcome (fun id => ?_) ?_ fun id other => ?_
      · cases evidenced <;> cases completes <;> rfl
      · have proof : (db.commit evidenceWrites).pod? stopId |>.isSome := by
          cases evidenced with
          | none unnamed => exact proofOrName.resolve_left (by simp [unnamed])
          | updated named present =>
              simpa [Write.pod?_apply, Write.onPod, Option.isSome_iff_ne_none] using present
          | created named absent ofStop =>
              simp [Write.pod?_apply, Write.onPod, ofStop]
        cases evidenced <;> cases completes <;> exact proof
      · have kept : (db.commit evidenceWrites).pod? id = db.pod? id := by
          cases evidenced with
          | none unnamed => rfl
          | updated named present => simp [Write.pod?_apply, Write.onPod, other]
          | created named absent ofStop =>
              simp [Write.pod?_apply, Write.onPod, ofStop, Ne.symm other]
        rw [← kept]
        cases evidenced <;> cases completes <;> rfl
  | @reordered deliveryId dto actor db route rows mode moves ofDelivery fresh own =>
      intro id
      have status := Db.stopStatus?_resequence db moves id
      have proof := Db.pod?_resequence db moves id
      have moved : (db.commit (moves.map .resequence)).Matched id := by
        rw [Db.Matched, status, proof]
        exact all id
      rw [Db.commit_append]
      exact moved
  | _ => exact all

/-- An override that leaves stops and proofs matched is named: it has delivered the
stop, so there is a proof, and the proof is older or its own. -/
theorem Effect.named {request : Request} {core : List Write} {db : Db}
    (effect : Effect request core db) (evidenced : Evidenced (db.commit core)) :
    Named request core db := by
  intro conflictId dto user role conflict stopId data requested status resolves found truthy target
  subst requested
  cases effect with
  | @resolved _ _ _ _ _ other _ foundOther plain =>
      obtain rfl : other = conflict := Option.some.inj (foundOther.symm.trans found)
      rw [plain status] at truthy
      cases truthy
  | @overridden _ _ _ _ _ other otherId stop _ delivered evidenceWrites completion _ foundOther _
      otherTarget stopFound evidence outcome order completes =>
      obtain rfl : other = conflict := Option.some.inj (foundOther.symm.trans found)
      cases otherTarget.symm.trans target
      cases evidence with
      | none unnamed =>
          have after : ((Write.updateStop stopId delivered).apply db).stop? stopId =
              some (delivered.set stop) := by
            rw [Write.stop?_apply, stopFound]
            simp [Write.onStop]
          have isDelivered : (delivered.set stop).status = .delivered := by
            simp [StopData.set, outcome]
          cases completes <;> exact .inr ((evidenced stopId _ after).mp isDelivered)
      | updated named present => exact .inl named
      | created named absent ofStop => exact .inl named
  | completed able => cases able
  | _ => simp at resolves

/-- In every run of any requests from a state in which stops are delivered exactly
if they have a proof, this stays so after every commit if and only if every override
names a receiver or finds a proof. -/
theorem evidenced_iff_named {db : Db} {requests : List Request} {trace : List (Commit store)}
    {final : Pool store Response} (steps : (Request.pool db requests).Steps trace final)
    (initially : Evidenced db) (foreignKey : ProofsOfStops db) :
    (∀ commit ∈ trace, Evidenced commit.after) ↔
      ∀ commit ∈ trace, ∀ request, requests[commit.thread]? = some request →
        Named request commit.writes commit.before := by
  have effects := Request.effect_of_steps steps
  constructor
  · intro evidenced commit member request made
    obtain ⟨maker, found, effect⟩ := effects commit member
    obtain rfl : maker = request := Option.some.inj (found.symm.trans made)
    have agree := (Db.commit_essential commit.before commit.writes)
    exact named_essential.mp (effect.named (Evidenced.congr agree (evidenced commit member)))
  · intro named
    have kept : ∀ commit ∈ trace, (∀ id, Db.Matched commit.before id) →
        ∀ id, Db.Matched commit.after id := by
      intro commit member before
      obtain ⟨request, made, effect⟩ := effects commit member
      have after := effect.matched (named_essential.mpr (named commit member request made)) before
      exact (Db.commit_essential commit.before commit.writes).matchedStops after
    have start : ∀ id, Db.Matched (Request.pool db requests).state id :=
      db.evidenced_iff.mp ⟨initially, foreignKey⟩
    have earlier := (steps.invariant (fun db => ∀ id, Db.Matched db id) start kept).2
    exact fun commit member =>
      ((Db.evidenced_iff _).mpr (kept commit member (earlier commit member))).1

/-! ## An override of an arrival -/

namespace UnnamedOverride

omit [UuidText]

/-- The one UUID of the run below. -/
@[reducible] def stopUuids : UuidText := ⟨fun text => if text = "s" then some 7 else none⟩

def db : Db where
  deliveries := Table.empty.insert
    { id := 1, deliveryCode := "D-1", driverId := some 3, status := .cancelled, createdBy := 9 }
  deliveryStops := Table.empty.insert { id := 7, deliveryId := 1, sequence := 1 }

/-- The driver's late arrival at the stop. -/
def arrival : OutboxEventItem where
  clientEventId := "e"
  eventType := "stop.arrive"
  payload := { stopId := .string "s" }

def requests : List Request :=
  [.syncOutbox ⟨[arrival], by decide, by decide⟩ 3 30,
    .resolveConflict 0 { status := .resolvedOverridden } 9 .admin]

def pool : Pool store Response := @Request.pool stopUuids db requests

/-- The sync opens a ticket, which is then overridden. -/
def schedule : List (Nat × (Nat → store.Input)) :=
  [0, 0, 1, 1].map fun thread => (thread, fun _ => {})

/-- The schedule is a run. -/
theorem steps : pool.Steps (pool.play schedule).1 (pool.play schedule).2 :=
  Pool.play_steps schedule pool

/-- The store is evidenced at the start. -/
theorem initially_evidenced : Evidenced db := by
  intro id stop found
  obtain ⟨member, _⟩ := Table.find?_eq_some.mp found
  obtain rfl := List.mem_singleton.mp member
  exact ⟨(nomatch ·), (nomatch ·)⟩

/-- Its proofs are of stops that exist. -/
theorem foreignKey : ProofsOfStops db := by
  intro id present
  cases present

/-- The equivalence at the override of a late arrival. -/
theorem evidenced_iff_named_of_arrival :
    (∀ commit ∈ (pool.play schedule).1, Evidenced commit.after) ↔
      ∀ commit ∈ (pool.play schedule).1, ∀ request, requests[commit.thread]? = some request →
        @Named stopUuids request commit.writes commit.before :=
  @evidenced_iff_named stopUuids db requests _ _ steps initially_evidenced foreignKey

/-- The override delivers the stop without a proof. -/
theorem delivers_without_proof :
    ∃ commit ∈ (pool.play schedule).1,
      (commit.after.stop? 7).map DeliveryStop.status = some .delivered ∧
        commit.after.pod? 7 = none := by
  decide

/-- Not every run keeps delivered stops evidenced. -/
theorem evidenced_violated :
    ¬∀ [UuidText] (db : Db) (requests : List Request) (trace : List (Commit store))
      (final : Pool store Response), (Request.pool db requests).Steps trace final →
        Evidenced db → ProofsOfStops db → ∀ commit ∈ trace, Evidenced commit.after := by
  intro always
  obtain ⟨commit, member, delivered, absent⟩ := delivers_without_proof
  obtain ⟨stop, found, status⟩ := Option.map_eq_some_iff.mp delivered
  have evidenced := @always stopUuids db requests _ _ steps initially_evidenced foreignKey commit
    member 7 stop found
  rw [absent] at evidenced
  cases evidenced.mp status

end UnnamedOverride

end Armada
