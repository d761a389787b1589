import Armada.Effects
import Armada.Concurrency.ReadCommitted

/-!
# What the idempotent transactions commit

The transactions of `submitPod`, `selectRoute` and `reorderStops`, and the completion
of a delivery that may follow the first: the result and the writes of each, with
what the locks it holds guarantee of the state it commits in. The statements hold with
other transactions interleaved, and so of a transaction that is one step.
-/

namespace Armada

open Relational Concurrency

/-- Others leave the rows alone whose locks are held, the routes of a locked delivery, and
the uploaded files. -/
structure Stable (rely : List Lock → Db → Db → Prop) : Prop where
  pod : ∀ {held before after id}, rely held before after → .pod id ∈ held →
    after.pod? id = before.pod? id
  record : ∀ {held before after key}, rely held before after → .record key ∈ held →
    after.record? key = before.record? key
  routes : ∀ {held before after id}, rely held before after → .delivery id ∈ held →
    after.routesOf id = before.routesOf id
  route : ∀ {held before after id}, rely held before after → .route id ∈ held →
    after.routes.find? id = before.routes.find? id
  files : ∀ {held before after}, rely held before after → after.files = before.files

/-- A transaction that is one step. -/
theorem Stable.alone : Stable fun _ before after => before = after where
  pod same _ := by rw [same]
  record same _ := by rw [same]
  routes same _ := by rw [same]
  route same _ := by rw [same]
  files same := by rw [same]

/-! ## The claim of a key -/

/-- A claim of a free key inserts a placeholder; without a key nothing is claimed. -/
inductive Claimed (db : Db) : Option IdempotencyKey → List Write → Prop where
  | keyless : Claimed db none []
  | placed {key : IdempotencyKey} {row : IdempotencyRecord} (absent : db.record? key = none)
      (own : row.keyUserEndpoint = key) : Claimed db (some key) [.createRecord row]

/-- A claim is ancillary. -/
theorem Claimed.essential_eq {db : Db} {key : Option IdempotencyKey} {writes : List Write}
    (claimed : Claimed db key writes) : essential writes = [] := by
  cases claimed <;> rfl

/-- It touches no file. -/
theorem Claimed.files_eq {db current : Db} {key : Option IdempotencyKey} {writes : List Write}
    (claimed : Claimed db key writes) : (current.commit writes).files = current.files := by
  cases claimed <;> rfl

/-- The placeholder becomes the result. -/
def settled (key : Option IdempotencyKey) (responseStatus : Nat) (responseBody : ResponseBody) :
    List Write :=
  key.toList.map fun key => .updateRecord key { responseStatus, responseBody }

/-- So is the settling of a record. -/
@[simp] theorem essential_settled (key : Option IdempotencyKey) (responseStatus : Nat)
    (responseBody : ResponseBody) : essential (settled key responseStatus responseBody) = [] := by
  cases key <;> rfl

/-- The claim, with the lock of the key. -/
def KeyHeld (key : Option IdempotencyKey) (claimed : List Write) (held : List Lock) (db : Db) :
    Prop :=
  Claimed db key claimed ∧ ∀ own ∈ key, .record own ∈ held

variable {rely : List Lock → Db → Db → Prop}

/-- While the transaction holds the key, the claim stays as it was made. -/
theorem KeyHeld.lasting (frame : Stable rely) (key : Option IdempotencyKey) (claimed : List Write) :
    Txn.Lasting (S := store) rely (KeyHeld key claimed) where
  stable := by
    rintro held db next ⟨claim, locked⟩ within
    refine ⟨?_, locked⟩
    cases claim with
    | keyless => exact .keyless
    | placed absent own => exact .placed ((frame.record within (locked _ rfl)).trans absent) own
  grows := fun more keyHeld =>
    ⟨keyHeld.1, fun own member => List.mem_append_right more (keyHeld.2 own member)⟩

namespace Idempotency

variable {key : Option IdempotencyKey} {held : List Lock} {written : List Write} {db : Db}

/-- The claim takes the key and makes the placeholder, or there is no key. -/
theorem claim_holds (unwritten : ∀ (db : Db), ∀ own ∈ key,
      (db.commit written).record? own = db.record? own) :
    (claim key).Holds rely (fun _ held made db => ∃ claimed, KeyHeld key claimed held db ∧
      made = written ++ claimed) held written db := by
  cases key with
  | none => exact ⟨[], ⟨.keyless, by simp⟩, (List.append_nil written).symm⟩
  | some key =>
      intro next within input value writes succeeded
      obtain ⟨_, absent, rfl⟩ := Prisma.IdempotencyRecord.create_succeeds.mp succeeded
      rw [Db.applyAll_store, unwritten next key rfl] at absent
      refine ⟨_, ⟨.placed absent rfl, ?_⟩, rfl⟩
      rintro own ⟨⟩
      exact List.mem_append_left held (List.mem_singleton_self _)

/-- The settling writes the response under the key. -/
theorem settle_holds {status : Nat} {body : ResponseBody} :
    (settle key status body).Holds rely (fun _ _ made _ => made = written ++ settled key status body)
      held written db := by
  cases key with
  | none => exact (List.append_nil written).symm
  | some key =>
      intro next within input value writes succeeded
      obtain ⟨_, _, rfl⟩ := Prisma.IdempotencyRecord.update_succeeds.mp succeeded
      rfl

end Idempotency

/-! ## The completion that follows a stop -/

/-- A delivery is completed, or nothing is done. -/
theorem DeliveriesService.claimIfEligible_holds (deliveryId : Uuid) (db : Db) :
    (claimIfEligible deliveryId).Holds rely
      (fun _ _ (written : List Write) _ => written = [] ∨ ∃ target now, written =
        [.updateDelivery deliveryId { status := some target, completedAt := some now }])
      [] [] db := by
  simp only [claimIfEligible, evaluateDeliveryCompletion, Txn.holds_bind, Txn.holds_lift,
    Txn.holds_pure]
  intro _ _ _ stops _ succeededStops
  obtain ⟨_, _, rfl⟩ := Prisma.DeliveryStop.findMany_succeeds.mp succeededStops
  split
  · exact .inl rfl
  · split
    · simp only [Txn.holds_bind, Txn.holds_lift]
      intro _ _ input count writes succeeded
      obtain ⟨_, ⟨_, _, _, rfl, rfl⟩ | ⟨_, rfl, rfl⟩⟩ :=
        Prisma.Delivery.updateMany_succeeds.mp succeeded
      · rw [if_neg (by decide), Txn.holds_lift]
        intro _ _ _ _ _ succeededRow
        obtain ⟨_, _, rfl⟩ := Prisma.Delivery.findUnique_succeeds.mp succeededRow
        exact .inr ⟨_, _, rfl⟩
      · exact .inl rfl
    · exact .inl rfl

/-! ## submitPod -/

section Pod

variable [UuidText]

/-- The row says what was submitted. -/
structure SubmitPodDto.Evidences (dto : SubmitPodDto) (row : ProofOfDelivery) : Prop where
  receiverName : dto.receiverName.toVarChar 100 = .ok row.receiverName
  photoFileId : dto.photoFileId.orNull JsValue.toUuid = .ok row.photoFileId
  signatureFileId : dto.signatureFileId.orNull JsValue.toUuid = .ok row.signatureFileId
  notes : dto.notes.orNull JsValue.toText = .ok row.notes

/-- The files that the row names are there. -/
structure ProofOfDelivery.Filed (row : ProofOfDelivery) (db : Db) : Prop where
  photo : ∀ id ∈ row.photoFileId, db.files.find? id ≠ none
  signature : ∀ id ∈ row.signatureFileId, db.files.find? id ≠ none

/-- A submission for a stop without a proof: the writes, and the result. -/
inductive PodCommit (stopId deliveryId : Uuid) (dto : SubmitPodDto) (actor : DeliveryActor)
    (db : Db) : ResponseBody → List Write → Prop where
  | intro {claimed : List Write} {row : ProofOfDelivery} {now : Instant} (event : DeliveryEvent)
      (claim : Claimed db (PodService.recordKey actor dto.idempotencyKey) claimed)
      (absent : db.pod? stopId = none) (ofStop : row.deliveryStopId = stopId)
      (author : row.createdBy = actor.userId) (evidence : dto.Evidences row) (filed : row.Filed db)
      (eventOf : event.stopId = some stopId ∧ event.deliveryId = deliveryId ∧
        event.eventType = "POD_SUBMITTED") :
      PodCommit stopId deliveryId dto actor db (.pod row.id stopId row.completedAt)
        (claimed ++ [.updateStop stopId { status := some .delivered, completedAt := some now },
          .createPod row, .createEvent event] ++
          settled (PodService.recordKey actor dto.idempotencyKey) 201
            (.pod row.id stopId row.completedAt))

omit [UuidText] in
/-- Files are never removed. -/
theorem ProofOfDelivery.Filed.lasting (frame : Stable rely) (row : ProofOfDelivery) :
    Txn.Lasting (S := store) rely fun _ db => row.Filed db where
  stable := by
    rintro _ _ next ⟨photo, signature⟩ within
    constructor <;> rw [frame.files within]
    · exact photo
    · exact signature
  grows := fun _ filed => filed

/-- The stop had no proof, and nobody else gives it one. -/
def Unproven (stopId : Uuid) (held : List Lock) (db : Db) : Prop :=
  db.pod? stopId = none ∧ .pod stopId ∈ held

omit [UuidText] in
/-- A stop without a proof stays without one while its lock is held. -/
theorem Unproven.lasting (frame : Stable rely) (stopId : Uuid) :
    Txn.Lasting (S := store) rely (Unproven stopId) where
  stable := fun ⟨absent, locked⟩ within => ⟨(frame.pod within locked).trans absent, locked⟩
  grows := fun more ⟨absent, locked⟩ => ⟨absent, List.mem_append_right more locked⟩

/-- `seen` is what the conditional update has seen of the stop, as far as it lasts. -/
theorem PodService.claimPod_holds (frame : Stable rely) {stopId deliveryId : Uuid}
    {dto : SubmitPodDto} {actor : DeliveryActor} {seen : List Lock → Db → Prop}
    (lasting : Txn.Lasting (S := store) rely seen)
    (sees : ∀ held db, .stop stopId ∈ held → Prisma.DeliveryStop.matched db stopId
      [.unloading, .arrived] terminalDeliveryStatuses = true → seen held db) (db : Db) :
    (claimPod stopId deliveryId dto actor).Holds rely
      (fun value held written db => PodCommit stopId deliveryId dto actor db value written ∧
        (∀ own ∈ recordKey actor dto.idempotencyKey, .record own ∈ held) ∧
          .pod stopId ∈ held ∧ .stop stopId ∈ held ∧ seen held db) [] [] db := by
  simp only [claimPod, Txn.holds_bind, Txn.holds_lift, Txn.holds_pure, Txn.holds_rejectIf]
  refine (Idempotency.claim_holds fun _ _ _ => rfl).mono fun _ held claimed db claimedKey => ?_
  obtain ⟨_, keyHeld, rfl⟩ := claimedKey
  -- what is known once the stop is updated, and lasts
  have kept := (KeyHeld.lasting frame (recordKey actor dto.idempotencyKey) claimed).and
    ((Txn.Lasting.locked (S := store) (Lock.stop stopId)).and lasting)
  intro updated within input count writes succeeded accepted
  obtain ⟨_, ⟨matched, rfl, rfl⟩ | ⟨_, rfl, _⟩⟩ :=
    Prisma.DeliveryStop.updateMany_succeeds.mp succeeded
  · have keyNow := (KeyHeld.lasting frame _ _).stable keyHeld within
    have agree := updated.agree_commit_of_ancillary keyNow.1.essential_eq
    have locks := Prisma.DeliveryStop.locks_updateMany (fun input : Input =>
      { status := some .delivered, completedAt := some input.now }) input matched
    have locked : Lock.stop stopId ∈ [.stop stopId] ++ held := List.mem_cons_self
    have seenNow := sees _ updated locked ((agree.matched _ _ _).trans matched)
    have first := And.intro ((KeyHeld.lasting frame _ _).grows [.stop stopId] keyNow)
      (And.intro locked seenNow)
    rw [← locks] at first
    intro proven withinProof proofInput row _ proofSucceeded
    obtain ⟨_, ofStop, _, _, author, receiver, photo, signature, notes, absent, _, photoFile,
      signatureFile, rfl⟩ := Prisma.ProofOfDelivery.create_succeeds.mp proofSucceeded
    have all := kept.and ((Unproven.lasting frame stopId).and (ProofOfDelivery.Filed.lasting frame row))
    have second := kept.stable first withinProof
    have agreeNow := proven.agree_commit_of_ancillary second.1.1.essential_eq
    rw [Db.applyAll_store, Db.commit_append] at absent
    have unproven : proven.pod? stopId = none := (agreeNow.pod? stopId).trans absent
    have files : (proven.commit claimed).files = proven.files := second.1.1.files_eq
    have filed : row.Filed proven := by
      rw [Db.applyAll_store, Db.commit_append] at photoFile signatureFile
      exact ⟨files ▸ photoFile, files ▸ signatureFile⟩
    intro reported withinReport eventInput _ _ eventSucceeded
    obtain ⟨_, rfl⟩ := Prisma.DeliveryEvent.create_succeeds.mp eventSucceeded
    have third := all.stable
      ⟨kept.grows [Lock.pod stopId] second, ⟨unproven, List.mem_cons_self⟩, filed⟩ withinReport
    refine (Idempotency.settle_holds.carry all (all.grows [] third)).mono fun _ locks made db outcome => ?_
    obtain ⟨rfl, ⟨⟨keyLast, stopLock, last⟩, ⟨absentLast, podLock⟩, filedLast⟩⟩ := outcome
    refine ⟨?_, keyLast.2, podLock, stopLock, last⟩
    subst ofStop
    let event : DeliveryEvent :=
      { id := eventInput.uuid, deliveryId, stopId := some row.deliveryStopId,
        eventType := "POD_SUBMITTED", actorUserId := actor.userId,
        metadataJson := .pod row.id row.receiverName }
    simpa using PodCommit.intro event keyLast.1 absentLast rfl author
      ⟨receiver, photo, signature, notes⟩ filedLast ⟨rfl, rfl, rfl⟩
  · exact absurd (by decide) accepted

end Pod

/-! ## selectRoute and reorderStops -/

/-- The route that a stored or returned result reports: its id, delivery and version. -/
def ResponseBody.route? : ResponseBody → Option (Uuid × Uuid × Nat)
  | .route routeId deliveryId version _ _ => some (routeId, deliveryId, version)
  | .reorder routeId deliveryId version _ _ => some (routeId, deliveryId, version)
  | _ => none

/-- The version that follows those of a delivery. -/
def Db.nextVersion (db : Db) (deliveryId : Uuid) : Nat :=
  ((db.routesOf deliveryId).map Route.version).max?.getD 0 + 1

/-- The rows that say where a route passes its stops. -/
def routeStopsOf (routeId : Uuid) (stops : List (Uuid × Int)) : List RouteStop :=
  stops.map fun stop => { routeId, deliveryStopId := stop.1, sequence := stop.2 }

/-- The moves of one pass of a reorder. -/
def RoutesDomainService.pass (sign : Int) (items : List StopSequenceItemDto) :
    List (Uuid × Int) :=
  items.map fun item => (item.deliveryStopId, sign * item.sequence)

/-- The moves of stops act on no route. -/
theorem Db.routes_resequence (db : Db) (moves : List (Uuid × Int)) :
    (db.commit (moves.map .resequence)).routes = db.routes := by
  refine Db.commit_idle Db.routes (fun write member db => ?_) db
  obtain ⟨item, _, rfl⟩ := List.mem_map.mp member
  rfl

/-- A new version of a delivery's route: the writes, and the result. -/
inductive RouteCommit (deliveryId : Uuid) (key : Option IdempotencyKey) (stops : List (Uuid × Int))
    (moves : List (Uuid × Int)) (db : Db) : ResponseBody → List Write → Prop where
  | intro {claimed : List Write} {route : Route} {value : ResponseBody} (mode : RouteMode)
      (status : Nat) (claim : Claimed db key claimed)
      (ofDelivery : route.deliveryId = deliveryId)
      (next : route.version = db.nextVersion deliveryId)
      (fresh : db.routes.find? route.id = none)
      (reported : value.route? = some (route.id, deliveryId, route.version)) :
      RouteCommit deliveryId key stops moves db value
        (claimed ++ moves.map .resequence ++ [.createRoute route,
          .createRouteStops (routeStopsOf route.id stops),
          .updateDelivery deliveryId { routeMode := some mode }] ++ settled key status value)

/-- The version is the next one, and nobody else allocates it. -/
def Versioned (deliveryId : Uuid) (version : Nat) (held : List Lock) (db : Db) : Prop :=
  version = db.nextVersion deliveryId ∧ .delivery deliveryId ∈ held

/-- The newest version stays the newest while the delivery is locked. -/
theorem Versioned.lasting (frame : Stable rely) (deliveryId : Uuid) (version : Nat) :
    Txn.Lasting (S := store) rely (Versioned deliveryId version) where
  stable := by
    rintro held db next ⟨rfl, locked⟩ within
    refine ⟨?_, locked⟩
    rw [Db.nextVersion, Db.nextVersion, frame.routes within locked]
  grows := fun more ⟨same, locked⟩ => ⟨same, List.mem_append_right more locked⟩

/-- There is no route with the id, and nobody else makes one. -/
def Unrouted (routeId : Uuid) (held : List Lock) (db : Db) : Prop :=
  db.routes.find? routeId = none ∧ .route routeId ∈ held

/-- A route that is new stays without stops of its own. -/
theorem Unrouted.lasting (frame : Stable rely) (routeId : Uuid) :
    Txn.Lasting (S := store) rely (Unrouted routeId) where
  stable := fun ⟨absent, locked⟩ within => ⟨(frame.route within locked).trans absent, locked⟩
  grows := fun more ⟨absent, locked⟩ => ⟨absent, List.mem_append_right more locked⟩

namespace RoutesDomainService

variable {held : List Lock} {written : List Write} {db : Db}

/-- Recording a route adds one version after the newest, with the given stops in their order. -/
theorem recordRoute_holds (frame : Stable rely) {deliveryId : Uuid} {source : RouteSource}
    {totalDistanceM estimatedDurationS : Rat} {stops : List (Uuid × Int)} {routeMode : RouteMode}
    (unwritten : ∀ db : Db, (db.commit written).routes = db.routes)
    (locked : .delivery deliveryId ∈ held) :
    (recordRoute deliveryId source totalDistanceM estimatedDurationS stops routeMode).Holds rely
      (fun route held made db => route.deliveryId = deliveryId ∧ route.source = source ∧
        Versioned deliveryId route.version held db ∧ Unrouted route.id held db ∧
          made = written ++ [.createRoute route, .createRouteStops (routeStopsOf route.id stops),
            .updateDelivery deliveryId { routeMode := some routeMode }]) held written db := by
  simp only [recordRoute, nextVersion, Txn.holds_bind, Txn.holds_lift, Txn.holds_pure]
  intro numbered _ _ highest _ readVersion
  obtain ⟨_, rfl, rfl⟩ := Prisma.Route.findMaxVersion_succeeds.mp readVersion
  rw [List.append_nil, Db.applyAll_store, Db.routesOf, unwritten]
  have versioned : Versioned deliveryId (numbered.nextVersion deliveryId) ([] ++ held) numbered :=
    ⟨rfl, locked⟩
  intro created withinCreate input route _ succeeded
  obtain ⟨isInput, ofDelivery, version, sourceEq, fresh, _, rfl⟩ :=
    Prisma.Route.create_succeeds succeeded
  rw [Db.applyAll_store, unwritten] at fresh
  have first := (Versioned.lasting frame _ _).stable versioned withinCreate
  have all := (Versioned.lasting frame deliveryId (numbered.nextVersion deliveryId)).and
    (Unrouted.lasting frame route.id)
  intro listed withinList _ _ _ succeededList
  obtain ⟨_, _, _, _, rfl⟩ := Prisma.RouteStop.createMany_succeeds.mp succeededList
  have second := all.grows [] (all.stable
    ⟨(Versioned.lasting frame _ _).grows _ first, fresh, by rw [isInput]; exact List.mem_cons_self⟩
    withinList)
  intro updated withinUpdate _ _ _ succeededUpdate
  obtain ⟨_, _, rfl⟩ := Prisma.Delivery.update_succeeds.mp succeededUpdate
  have third := all.grows [.delivery deliveryId] (all.stable second withinUpdate)
  rw [version]
  refine ⟨ofDelivery, sourceEq, third.1, third.2, ?_⟩
  simp [routeStopsOf]

/-- A pass renumbers the stops one by one. -/
theorem updateSequences_holds (sign : Int) (items : List StopSequenceItemDto) :
    (updateSequences sign items).Holds rely
      (fun _ _ made _ => made = written ++ (pass sign items).map .resequence) held written db := by
  induction items generalizing held written db with
  | nil => exact (List.append_nil written).symm
  | cons item items inductionHypothesis =>
      rw [updateSequences, Txn.holds_bind, Txn.holds_lift]
      intro next _ input row writes succeeded
      obtain ⟨_, _, rfl⟩ := Prisma.DeliveryStop.updateSequence_succeeds.mp succeeded
      refine inductionHypothesis.mono fun _ _ made _ same => ?_
      rw [same, List.append_assoc]
      rfl

/-- What a route transaction holds at its end. -/
def RouteHeld (deliveryId : Uuid) (key : Option IdempotencyKey) (value : ResponseBody)
    (held : List Lock) : Prop :=
  .delivery deliveryId ∈ held ∧ (∀ own ∈ key, .record own ∈ held) ∧
    ∀ routeId, value.route?.map Prod.fst = some routeId → .route routeId ∈ held

/-- The selected stops, numbered in their order, become a route. -/
theorem claimSelection_holds (frame : Stable rely) (deliveryId : Uuid) (dto : SelectRouteDto)
    (actor : RouteActor) (db : Db) :
    (claimSelection deliveryId dto actor).Holds rely
      (fun value held made db =>
        RouteCommit deliveryId (recordKey selectEndpoint actor dto.idempotencyKey)
          (numbered dto.recommendedSequence) [] db value made ∧
        RouteHeld deliveryId (recordKey selectEndpoint actor dto.idempotencyKey) value held)
      [] [] db := by
  simp only [claimSelection, Txn.holds_bind, Txn.holds_lift, Txn.holds_pure]
  intro next _ _ _ _ succeeded
  obtain ⟨_, rfl⟩ := Prisma.Delivery.selectForUpdate_succeeds.mp succeeded
  have deliveryLock : Txn.Lasting (S := store) rely fun held _ => .delivery deliveryId ∈ held :=
    .locked _
  refine ((Idempotency.claim_holds fun _ _ _ => rfl).carry deliveryLock List.mem_cons_self).mono ?_
  rintro _ held claimed db ⟨⟨_, keyHeld, rfl⟩, locked⟩
  have keyLasts := KeyHeld.lasting frame (recordKey selectEndpoint actor dto.idempotencyKey) claimed
  refine ((recordRoute_holds frame (fun db => ?_) locked).carry keyLasts keyHeld).mono ?_
  · exact (db.agree_commit_of_ancillary keyHeld.1.essential_eq).routes.symm
  rintro route held made db ⟨⟨ofDelivery, sourceEq, versioned, unrouted, rfl⟩, keyNow⟩
  have all := keyLasts.and ((Versioned.lasting frame deliveryId route.version).and
    (Unrouted.lasting frame route.id))
  refine (Idempotency.settle_holds.carry all ⟨keyNow, versioned, unrouted⟩).mono ?_
  rintro _ held made db ⟨rfl, keyLast, versionLast, routeLast⟩
  refine ⟨?_, versionLast.2, keyLast.2, ?_⟩
  · subst ofDelivery
    have made : RouteCommit route.deliveryId (recordKey selectEndpoint actor dto.idempotencyKey)
        (numbered dto.recommendedSequence) [] db
        (.route route.id route.deliveryId route.version route.source route.selectedAt) _ :=
      .intro (if dto.source = .manual then .manual else .recommended2opt) 201 keyLast.1 rfl
        versionLast.1 routeLast.1 rfl
    simpa using made
  · rintro routeId ⟨⟩
    exact routeLast.2

/-- The submitted sequence becomes the order of the stops, and a route. -/
theorem claimReorder_holds (frame : Stable rely) (deliveryId : IdText) (dto : ManualReorderDto)
    (actor : RouteActor) (db : Db) :
    (claimReorder deliveryId dto actor).Holds rely
      (fun value held made db =>
        RouteCommit deliveryId (recordKey reorderEndpoint actor dto.idempotencyKey)
          (dto.stopSequence.map fun item => (item.deliveryStopId, item.sequence))
          (pass (-1) dto.stopSequence ++ pass 1 dto.stopSequence) db value made ∧
        RouteHeld deliveryId (recordKey reorderEndpoint actor dto.idempotencyKey) value held)
      [] [] db := by
  simp only [claimReorder, Txn.holds_bind, Txn.holds_lift, Txn.holds_pure]
  intro next _ _ _ _ succeeded
  obtain ⟨_, rfl⟩ := Prisma.Delivery.selectForUpdate_succeeds.mp succeeded
  have deliveryLock : Txn.Lasting (S := store) rely fun held _ => .delivery deliveryId ∈ held :=
    .locked _
  refine ((Idempotency.claim_holds fun _ _ _ => rfl).carry deliveryLock List.mem_cons_self).mono ?_
  rintro _ held claimed db ⟨⟨_, keyHeld, rfl⟩, locked⟩
  -- the claim and the lock of the delivery outlast both passes
  have both := (KeyHeld.lasting frame (recordKey reorderEndpoint actor dto.idempotencyKey)
    claimed).and deliveryLock
  refine ((updateSequences_holds (-1) dto.stopSequence).carry both ⟨keyHeld, locked⟩).mono ?_
  rintro _ held made db ⟨rfl, first⟩
  refine ((updateSequences_holds 1 dto.stopSequence).carry both first).mono ?_
  rintro _ held made db ⟨rfl, second⟩
  refine ((recordRoute_holds frame (fun db => ?_) second.2).carry both second).mono ?_
  · have agree := db.agree_commit_of_ancillary second.1.1.essential_eq
    simp only [Db.commit_append, Db.routes_resequence, agree.routes]
  rintro route held made db ⟨⟨ofDelivery, sourceEq, versioned, unrouted, rfl⟩, third⟩
  have all := both.and ((Versioned.lasting frame deliveryId route.version).and
    (Unrouted.lasting frame route.id))
  refine (Idempotency.settle_holds.carry all ⟨third, versioned, unrouted⟩).mono ?_
  rintro _ held made db ⟨rfl, ⟨keyLast, locked⟩, versionLast, routeLast⟩
  refine ⟨?_, locked, keyLast.2, ?_⟩
  · have made : RouteCommit deliveryId (recordKey reorderEndpoint actor dto.idempotencyKey)
        (dto.stopSequence.map fun item => (item.deliveryStopId, item.sequence))
        (pass (-1) dto.stopSequence ++ pass 1 dto.stopSequence) db
        (.reorder route.id deliveryId route.version route.source route.selectedAt) _ :=
      .intro .manual 200 keyLast.1 ofDelivery versionLast.1 routeLast.1 rfl
    simpa using made
  · rintro routeId ⟨⟩
    exact routeLast.2

end RoutesDomainService

end Armada
