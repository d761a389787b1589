import Armada.Effects.Services

/-!
# Accepted evidence

A proof of delivery is created with its stop's delivery, and no operation deletes one.
The override of a ticket overwrites the name and the photo of the proof it finds with
those of the ticket's event, whatever was accepted before. So the evidence is immutable
exactly in those runs in which every override agrees with the proof it finds.
-/

namespace Armada

open Relational Concurrency

/-- What a proof of delivery is evidence of. -/
structure Evidence where
  receiverName : String
  photoFileId : Option Uuid
  signatureFileId : Option Uuid
  createdBy : Uuid
  completedAt : Instant
  deriving DecidableEq

/-- The evidence columns of a proof. -/
def ProofOfDelivery.evidence (row : ProofOfDelivery) : Evidence where
  receiverName := row.receiverName
  photoFileId := row.photoFileId
  signatureFileId := row.signatureFileId
  createdBy := row.createdBy
  completedAt := row.completedAt

namespace Db

/-- The evidence of a stop. -/
def evidence? (db : Db) (stopId : Uuid) : Option Evidence :=
  (db.pod? stopId).map ProofOfDelivery.evidence

/-- The evidence that there was is still there, as it was. -/
def KeepsEvidence (before after : Db) : Prop :=
  ∀ stopId evidence, before.evidence? stopId = some evidence →
    after.evidence? stopId = some evidence

/-- Every state keeps its own evidence. -/
theorem KeepsEvidence.refl (db : Db) : db.KeepsEvidence db := fun _ _ found => found

/-- Keeping is transitive. -/
theorem KeepsEvidence.trans {first second third : Db} (left : first.KeepsEvidence second)
    (right : second.KeepsEvidence third) : first.KeepsEvidence third :=
  fun stopId evidence found => right stopId evidence (left stopId evidence found)

/-- Evidence kept by a state is kept by one that agrees. -/
theorem Agree.keepsEvidence {before left right : Db} (agree : left.Agree right)
    (kept : before.KeepsEvidence left) : before.KeepsEvidence right := by
  simpa only [KeepsEvidence, evidence?, agree.pod?] using kept

end Db

/-- A write that overwrites no proof. -/
def Write.sparesProofs : Write → Bool
  | .updatePod .. => false
  | _ => true

/-- A write that spares the proofs keeps the evidence. -/
theorem Write.keepsEvidence_apply {write : Write} (spares : write.sparesProofs = true) (db : Db) :
    db.KeepsEvidence (write.apply db) := by
  intro stopId evidence found
  obtain ⟨row, present, rfl⟩ := Option.map_eq_some_iff.mp found
  rw [Db.evidence?, Write.pod?_apply, present]
  cases write with
  | updatePod key data => cases spares
  | _ => rfl

/-- So do such writes. -/
theorem Db.keepsEvidence_commit {writes : List Write}
    (spare : ∀ write ∈ writes, write.sparesProofs = true) (db : Db) :
    db.KeepsEvidence (db.commit writes) := by
  induction writes generalizing db with
  | nil => exact .refl db
  | cons write writes inductionHypothesis =>
      have later := inductionHypothesis (fun other member =>
        spare other (List.mem_cons_of_mem _ member)) (write.apply db)
      exact (Write.keepsEvidence_apply (spare write List.mem_cons_self) db).trans later

/-- No write deletes a proof. -/
theorem Db.evidence?_commit_of_some {db : Db} {stopId : Uuid} {evidence : Evidence}
    (found : db.evidence? stopId = some evidence) (writes : List Write) :
    ∃ later, (db.commit writes).evidence? stopId = some later := by
  induction writes generalizing db evidence with
  | nil => exact ⟨evidence, found⟩
  | cons write writes inductionHypothesis =>
      obtain ⟨row, present, rfl⟩ := Option.map_eq_some_iff.mp found
      obtain ⟨next, presentNext⟩ : ∃ next, (write.apply db).pod? stopId = some next := by
        rw [write.pod?_apply, present]
        cases write with
        | updatePod key data => by_cases here : stopId = key <;> simp [Write.onPod, here]
        | _ => exact ⟨row, rfl⟩
      have foundNext : (write.apply db).evidence? stopId = some next.evidence := by
        rw [Db.evidence?, presentNext, Option.map_some]
      exact inductionHypothesis foundNext

/-- The proof says what the payload says. -/
def OutboxPayload.Confirms [UuidText] (payload : OutboxPayload) (row : ProofOfDelivery) : Prop :=
  payload.receiverName.toVarChar 100 = .ok row.receiverName ∧
    payload.photoFileId.orNull JsValue.toUuid = .ok row.photoFileId

/-- Where the writes are the override of a ticket that names a stop and a receiver, the
payload confirms the proof that there is for the stop. -/
def Confirming [UuidText] (request : Request) (writes : List Write) (db : Db) : Prop :=
  ∀ conflictId dto actorUserId actorRole conflict stopId data row,
    request = .resolveConflict conflictId dto actorUserId actorRole →
      dto.status = .resolvedOverridden → Write.updateConflict conflictId data ∈ writes →
        db.conflict? conflictId = some conflict →
          conflict.clientPayload.payload.target.truthy = true →
            conflict.clientPayload.payload.target.toUuid = .ok stopId →
              conflict.clientPayload.payload.receiverName.truthy = true →
                db.pod? stopId = some row → conflict.clientPayload.payload.Confirms row

/-- Confirming depends on the essential writes alone. -/
theorem confirming_essential [UuidText] {request : Request} {writes : List Write} {db : Db} :
    Confirming request (essential writes) db ↔ Confirming request writes db := by
  simp [Confirming, essential, Write.ancillary]

/-- The operations that accept evidence, or decide about it. -/
def Request.evidential : Request → Bool
  | .submitPod .. | .syncOutbox .. | .cancelDelivery .. | .resolveConflict .. => true
  | _ => false

section Effects

variable [UuidText]

omit [UuidText] in
/-- What an override of a present proof does to the proofs. -/
theorem Effect.pod?_overridden {db : Db} {conflictId deliveryId stopId : Uuid}
    {resolution : ResolutionData} {data : PodData} {delivered : StopData} {completion : List Write}
    (completes : OverrideCompletion deliveryId ((Write.updateStop stopId delivered).apply db)
      completion) (id : Uuid) :
    (db.commit (.updateConflict conflictId resolution :: [.updatePod stopId data] ++
      [.updateStop stopId delivered] ++ completion)).pod? id =
        if id = stopId then (db.pod? id).map data.set else db.pod? id := by
  cases completes <;> exact Write.pod?_apply (.updatePod stopId data) db id

/-- Effects keep the evidence there is, overrides if they confirm it. -/
theorem Effect.keepsEvidence {request : Request} {core : List Write} {db : Db}
    (effect : Effect request core db) (confirming : Confirming request core db) :
    db.KeepsEvidence (db.commit core) := by
  cases effect with
  | @overridden conflictId dto user role db conflict stopId stop data delivered evidenceWrites
      completion status found named target stopFound evidenced outcome order completes =>
      cases evidenced with
      | @updated podData receiverNamed present receiver photo =>
          intro id evidence before
          obtain ⟨row, podFound, rfl⟩ := Option.map_eq_some_iff.mp before
          rw [Db.evidence?, Effect.pod?_overridden completes, podFound]
          split
          · rename_i here
            subst here
            obtain ⟨sameReceiver, samePhoto⟩ := confirming conflictId dto user role conflict id
              data row rfl status List.mem_cons_self found named target receiverNamed podFound
            rw [receiver, Except.ok.injEq] at sameReceiver
            rw [photo, Except.ok.injEq] at samePhoto
            simp [PodData.set, ProofOfDelivery.evidence, sameReceiver, samePhoto]
          · rfl
      | none unnamed =>
          refine Db.keepsEvidence_commit ?_ db
          cases completes <;> simp [Write.sparesProofs]
      | created receiverNamed absent ofStop receiver photo unsigned =>
          refine Db.keepsEvidence_commit ?_ db
          cases completes <;> simp [Write.sparesProofs]
  | @reordered _ _ _ _ _ _ _ moves ofDelivery fresh own =>
      have moved : ∀ write ∈ moves.map Write.resequence, write.sparesProofs = true := by
        intro write member
        obtain ⟨item, _, rfl⟩ := List.mem_map.mp member
        rfl
      exact Db.keepsEvidence_commit (List.forall_mem_append.mpr ⟨moved, by simp [Write.sparesProofs]⟩) db
  | _ => exact Db.keepsEvidence_commit (by simp [Write.sparesProofs, or_imp, forall_and]) _

/-- An override that keeps the evidence it finds confirms it. -/
theorem Effect.confirming {request : Request} {core : List Write} {db : Db}
    (effect : Effect request core db) (kept : db.KeepsEvidence (db.commit core)) :
    Confirming request core db := by
  intro conflictId dto user role conflict stopId data row requested status resolves found truthy
    target named podFound
  subst requested
  cases effect with
  | @resolved _ _ _ _ _ other _ foundOther plain =>
      obtain rfl : other = conflict := Option.some.inj (foundOther.symm.trans found)
      rw [plain status] at truthy
      cases truthy
  | @overridden _ _ _ _ _ other otherId stop _ delivered evidenceWrites completion _ foundOther _
      otherTarget stopFound evidence outcome order completes =>
      obtain rfl : other = conflict := Option.some.inj (foundOther.symm.trans found)
      cases otherTarget.symm.trans target
      cases evidence with
      | none unnamed =>
          rw [unnamed] at named
          cases named
      | created _ absent =>
          rw [absent] at podFound
          cases podFound
      | @updated podData _ present receiver photo =>
          have before : db.evidence? stopId = some row.evidence := by
            rw [Db.evidence?, podFound, Option.map_some]
          have after := kept stopId row.evidence before
          rw [Db.evidence?, Effect.pod?_overridden completes, if_pos rfl, podFound] at after
          simp only [Option.map_some, Option.some.injEq, ProofOfDelivery.evidence, PodData.set,
            Evidence.mk.injEq] at after
          exact ⟨after.1 ▸ receiver, after.2.1 ▸ photo⟩
  | completed able => cases able
  | _ => simp at resolves

/-- In every run of any requests, the evidence that there is at a moment of the run is
there unchanged from then on if and only if every override confirms the proof it finds. -/
theorem evidence_immutable_iff_confirming {db : Db} {requests : List Request}
    {trace : List (Commit store)} {final : Pool store Response}
    (steps : (Request.pool db requests).Steps trace final) :
    (∀ commit ∈ trace, commit.before.KeepsEvidence final.state) ↔
      ∀ commit ∈ trace, ∀ request, requests[commit.thread]? = some request →
        Confirming request commit.writes commit.before := by
  have effects := Request.effect_of_steps steps
  constructor
  · intro kept commit member request made
    obtain ⟨maker, found, effect⟩ := effects commit member
    obtain rfl : maker = request := Option.some.inj (found.symm.trans made)
    refine confirming_essential.mp (effect.confirming ?_)
    refine (Db.commit_essential commit.before commit.writes).symm.keepsEvidence ?_
    -- what the commit has left is what the run keeps, and that is what there was before
    intro stopId evidence before
    obtain ⟨later, after⟩ := Db.evidence?_commit_of_some before commit.writes
    have same : final.state.evidence? stopId = some later := by
      rcases steps.linked.after_eq member with isFinal | ⟨next, nextMember, follows⟩
      · rw [← isFinal]
        exact after
      · exact kept next nextMember stopId later (follows ▸ after)
    rw [after, ← same]
    exact kept commit member stopId evidence before
  · intro confirming commit member
    refine (steps.linked.onwards Db.KeepsEvidence.refl Db.KeepsEvidence.trans ?_).2 commit member
    intro commit member
    obtain ⟨request, made, effect⟩ := effects commit member
    have kept := effect.keepsEvidence
      (confirming_essential.mpr (confirming commit member request made))
    exact (Db.commit_essential commit.before commit.writes).keepsEvidence kept

end Effects

/-! ## An override of accepted evidence -/

namespace OlderEvent

/-- The one UUID of the run below. -/
@[reducible] def stopUuids : UuidText := ⟨fun text => if text = "s" then some 7 else none⟩

def db : Db where
  deliveries := Table.empty.insert
    { id := 1, deliveryCode := "D-1", driverId := some 3, status := .enRoute, createdBy := 9 }
  deliveryStops := (Table.empty.insert
    { id := 7, deliveryId := 1, sequence := 1, status := .arrived }).insert
      { id := 8, deliveryId := 1, sequence := 2 }

/-- An event of the stop that names another receiver. -/
def older : OutboxEventItem where
  clientEventId := "e"
  eventType := "stop.pod"
  payload := { stopId := .string "s", receiverName := .string "Budi" }

def requests : List Request :=
  [.submitPod 7 { receiverName := .string "Ani" } (driverActor 30 3),
    .cancelDelivery 1 ⟨"closed"⟩ { userId := 9, role := .admin },
    .syncOutbox ⟨[older], by decide, by decide⟩ 3 30,
    .resolveConflict 0 { status := .resolvedOverridden } 9 .admin]

def pool : Pool store Response := @Request.pool stopUuids db requests

/-- One request after the other. -/
def schedule : List (Nat × (Nat → store.Input)) :=
  [0, 0, 0, 0, 1, 1, 1, 2, 2, 3, 3].map fun thread => (thread, fun _ => {})

/-- The schedule is a run. -/
theorem steps : pool.Steps (pool.play schedule).1 (pool.play schedule).2 :=
  Pool.play_steps schedule pool

/-- The equivalence at the override of an older event. -/
theorem evidence_immutable_iff_confirming_of_older :
    (∀ commit ∈ (pool.play schedule).1, commit.before.KeepsEvidence (pool.play schedule).2.state) ↔
      ∀ commit ∈ (pool.play schedule).1, ∀ request, requests[commit.thread]? = some request →
        @Confirming stopUuids request commit.writes commit.before :=
  @evidence_immutable_iff_confirming stopUuids db requests _ _ steps

/-- The name that was accepted is not the one at the end. -/
theorem renamed :
    (∃ commit ∈ (pool.play schedule).1,
      (commit.before.evidence? 7).map Evidence.receiverName = some "Ani") ∧
        ((pool.play schedule).2.state.evidence? 7).map Evidence.receiverName = some "Budi" := by
  decide

/-- Not every run leaves accepted evidence as it was. -/
theorem evidence_immutable_violated :
    ¬∀ [UuidText] (db : Db) (requests : List Request) (trace : List (Commit store))
      (final : Pool store Response), (Request.pool db requests).Steps trace final →
        (∀ request ∈ requests, request.evidential = true) →
          ∀ commit ∈ trace, commit.before.KeepsEvidence final.state := by
  intro always
  obtain ⟨⟨commit, member, accepted⟩, last⟩ := renamed
  obtain ⟨evidence, found, name⟩ := Option.map_eq_some_iff.mp accepted
  have kept := @always stopUuids db requests _ _ steps (by decide) commit member 7 evidence found
  rw [kept, Option.map_some, name] at last
  exact absurd last (by decide)

end OlderEvent

end Armada
