import Armada.Concurrency.Sequential
import Armada.Effects
import Armada.Elsewhere
import Armada.Footprint
import Armada.Pod.FileStorageService
import Armada.Relational.Preserved

/-!
# Who can read the files of proofs

A driver may read what is attached to a proof of a delivery of his, and whoever writes a
proof attaches any file to it. So a driver reads files of his own, of the creators of proofs
and of former drivers only, as long as the writers attach no others.
-/

namespace Armada.FileReadAccess

open Relational Concurrency FileStorageService

/-! ## What a reader may be given -/

/-- The file is the photo or the signature of the proof. -/
def Attached (pod : ProofOfDelivery) (fileId : Uuid) : Prop :=
  pod.photoFileId = some fileId ∨ pod.signatureFileId = some fileId

/-- The delivery is assigned to a driver profile of the user. -/
def AssignedTo (db : Db) (deliveryId userId : Uuid) : Prop :=
  ∃ delivery driver, db.delivery? deliveryId = some delivery ∧ driver ∈ db.drivers.rows ∧
    delivery.driverId = some driver.id ∧ driver.userId = userId

/-- The driver was assigned to the delivery at some turn of the past. -/
def FormerlyAssigned (past : List (Concurrency.Turn store)) (deliveryId userId : Uuid) : Prop :=
  ∃ turn ∈ past, AssignedTo turn.before deliveryId userId

/-- The file was uploaded by the user who created the proof or by a former driver. -/
def Legitimate (past : List (Concurrency.Turn store)) (creator deliveryId : Uuid)
    (file : FileRecord) : Prop :=
  file.uploadedBy = creator ∨ FormerlyAssigned past deliveryId file.uploadedBy

/-- A driver may be given the file: he has uploaded it, or it is attached to a proof of a
delivery of his, legitimately. -/
def MayRead (past : List (Concurrency.Turn store)) (db : Db) (userId : Uuid)
    (file : FileRecord) : Prop :=
  file.uploadedBy = userId ∨ ∃ pod ∈ db.proofsOfDelivery.rows, ∃ stop, Attached pod file.id ∧
    db.stop? pod.deliveryStopId = some stop ∧ AssignedTo db stop.deliveryId userId ∧
    Legitimate past pod.createdBy stop.deliveryId file

/-- The file can be downloaded by the user as a driver. -/
def Readable (db : Db) (userId : Uuid) (file : FileRecord) : Prop :=
  ∃ after, (getAuthorizedFileBuffer file.id userId .driver).Returns (fun _ => True) db file after

/-- The deliveries of the proofs. -/
theorem mem_deliveriesOf {db : Db} {pods : List ProofOfDelivery} {delivery : Delivery} :
    delivery ∈ Prisma.FileRecord.deliveriesOf db pods ↔ ∃ pod ∈ pods, ∃ stop,
      db.stop? pod.deliveryStopId = some stop ∧ db.delivery? stop.deliveryId = some delivery := by
  simp [Prisma.FileRecord.deliveriesOf, List.mem_filterMap, Option.bind_eq_some_iff]

/-- A look at the store answers with what is there, and leaves it. -/
theorem select_returns {β : Type} {body : Db → Except PrismaError β} {db after : Db} {found : β}
    (returned : (liftM (select body) : Proc store β).Returns (fun _ => True) db found after) :
    body db = .ok found ∧ after = db := by
  obtain ⟨_, writes, _, executed, rfl⟩ := Proc.returns_lift.mp returned
  obtain ⟨_, looked, rfl⟩ := select_succeeds.mp executed
  exact ⟨looked, rfl⟩

/-- A proof by which a driver has access. -/
theorem assigned_of_drives {db : Db} {userId fileId : Uuid} {attached : ProofOfDelivery → Bool}
    (names : ∀ pod, attached pod = true → Attached pod fileId)
    (access : (Prisma.FileRecord.deliveriesOf db (db.proofsOfDelivery.rows.filter attached)).any
      (drives (db.drivers.rows.find? fun row => row.userId = userId)) = true) :
    ∃ pod ∈ db.proofsOfDelivery.rows, ∃ stop, Attached pod fileId ∧
      db.stop? pod.deliveryStopId = some stop ∧ AssignedTo db stop.deliveryId userId := by
  obtain ⟨delivery, among, drives⟩ := List.any_eq_true.mp access
  obtain ⟨pod, member, stop, found, foundDelivery⟩ := mem_deliveriesOf.mp among
  obtain ⟨inTable, isAttached⟩ := List.mem_filter.mp member
  rw [FileStorageService.drives, Option.any_eq_true] at drives
  obtain ⟨driver, profile, assigned⟩ := drives
  exact ⟨pod, inTable, stop, names pod isAttached, found, delivery, driver, foundDelivery,
    List.mem_of_find?_eq_some profile, of_decide_eq_true assigned,
    by simpa using List.find?_some profile⟩

/-- What the check asks of a driver. -/
theorem of_readable {db : Db} {userId : Uuid} {file : FileRecord} (readable : Readable db userId file) :
    db.files.find? file.id = some file ∧ (file.uploadedBy = userId ∨
      ∃ pod ∈ db.proofsOfDelivery.rows, ∃ stop, Attached pod file.id ∧
        db.stop? pod.deliveryStopId = some stop ∧ AssignedTo db stop.deliveryId userId) := by
  obtain ⟨after, returned⟩ := readable
  rw [getAuthorizedFileBuffer, Proc.returns_bind] at returned
  obtain ⟨found, _, looked, returned⟩ := returned
  obtain ⟨same, rfl⟩ := select_returns looked
  rw [Proc.returns_require_bind] at returned
  obtain ⟨⟨row, photoPods, signaturePods⟩, rfl, returned⟩ := returned
  simp only [Except.ok.injEq, Option.map_eq_some_iff, Prod.mk.injEq] at same
  obtain ⟨_, stored, rfl, rfl, rfl⟩ := same
  rw [Proc.returns_bind] at returned
  obtain ⟨driver, _, profiled, returned⟩ := returned
  obtain ⟨current, rfl⟩ := select_returns profiled
  obtain rfl := Except.ok.inj current
  rw [Proc.returns_rejectIf_bind, Proc.returns_pure] at returned
  obtain ⟨passed, rfl, rfl⟩ := returned
  refine ⟨stored, ?_⟩
  by_cases own : file.uploadedBy = userId
  · exact .inl own
  by_cases photo : (Prisma.FileRecord.deliveriesOf after (after.proofsOfDelivery.rows.filter
      fun pod => pod.photoFileId = some file.id)).any
        (drives (after.drivers.rows.find? fun row => row.userId = userId)) = true
  · exact .inr (assigned_of_drives (fun pod same => .inl (of_decide_eq_true same)) photo)
  by_cases signature : (Prisma.FileRecord.deliveriesOf after (after.proofsOfDelivery.rows.filter
      fun pod => pod.signatureFileId = some file.id)).any
        (drives (after.drivers.rows.find? fun row => row.userId = userId)) = true
  · exact .inr (assigned_of_drives (fun pod same => .inr (of_decide_eq_true same)) signature)
  · rw [Bool.not_eq_true] at photo signature
    exact absurd (.inl ⟨rfl, decide_eq_false own, photo, signature⟩) passed

/-! ## What is attached -/

/-- The turn attaches the file to the proof of the stop. -/
def Attaches (turn : Concurrency.Turn store) (stopId fileId : Uuid) : Prop :=
  (∃ row, .createPod row ∈ turn.writes ∧ row.deliveryStopId = stopId ∧ Attached row fileId) ∨
    ∃ data, .updatePod stopId data ∈ turn.writes ∧ data.photoFileId = some fileId

/-- What the turn attaches to a proof was uploaded by the creator of the proof, or by a driver
who has had the delivery. -/
def Vouched (past : List (Concurrency.Turn store)) (turn : Concurrency.Turn store) : Prop :=
  ∀ stopId fileId, Attaches turn stopId fileId → ∀ pod, turn.after.pod? stopId = some pod →
    ∃ stop file, turn.before.stop? stopId = some stop ∧ turn.before.files.find? fileId = some file ∧
      Legitimate (past ++ [turn]) pod.createdBy stop.deliveryId file

/-- Everything attached is legitimate. -/
def Sound (past : List (Concurrency.Turn store)) (db : Db) : Prop :=
  ∀ pod ∈ db.proofsOfDelivery.rows, ∀ fileId, Attached pod fileId → ∃ stop file,
    db.stop? pod.deliveryStopId = some stop ∧ db.files.find? fileId = some file ∧
      Legitimate past pod.createdBy stop.deliveryId file

/-- A proof after some writes is an old one or one that they create, with files of its own or
files that they put in. -/
theorem pod_of_commit {writes : List Write} {db : Db} {pod : ProofOfDelivery}
    (member : pod ∈ (db.commit writes).proofsOfDelivery.rows) :
    ∃ origin, (origin ∈ db.proofsOfDelivery.rows ∨ .createPod origin ∈ writes) ∧
      origin.deliveryStopId = pod.deliveryStopId ∧ origin.createdBy = pod.createdBy ∧
      ∀ fileId, Attached pod fileId → Attached origin fileId ∨
        ∃ data, .updatePod pod.deliveryStopId data ∈ writes ∧ data.photoFileId = some fileId := by
  induction writes generalizing db with
  | nil => exact ⟨pod, .inl member, rfl, rfl, fun _ attached => .inl attached⟩
  | cons write writes inductionHypothesis =>
      rw [Db.commit_cons] at member
      obtain ⟨origin, from_, stop, creator, files⟩ := inductionHypothesis member
      have later : ∀ fileId, Attached pod fileId → Attached origin fileId ∨ ∃ data,
          .updatePod pod.deliveryStopId data ∈ write :: writes ∧ data.photoFileId = some fileId := by
        intro fileId attached
        refine (files fileId attached).imp_right ?_
        rintro ⟨data, among, photo⟩
        exact ⟨data, List.mem_cons_of_mem _ among, photo⟩
      rcases from_ with inTable | created
      · cases write with
        | createPod row =>
            rcases Table.mem_of_mem_insert inTable with old | rfl
            · exact ⟨origin, .inl old, stop, creator, later⟩
            · exact ⟨origin, .inr List.mem_cons_self, stop, creator, later⟩
        | updatePod stopId data =>
            have keyed : ∀ row, Keyed.key (data.set row) = Keyed.key row := fun _ => rfl
            obtain ⟨old, inBefore, rfl⟩ := (Table.mem_modify keyed).mp inTable
            by_cases here : Keyed.key old = stopId
            · rw [if_pos here] at stop creator later
              refine ⟨old, .inl inBefore, stop, creator, fun fileId attached => ?_⟩
              rcases later fileId attached with (photo | signature) | put
              · exact .inr ⟨data, stop ▸ here ▸ List.mem_cons_self, photo⟩
              · exact .inl (.inr signature)
              · exact .inr put
            · rw [if_neg here] at stop creator later
              exact ⟨old, .inl inBefore, stop, creator, later⟩
        | _ => exact ⟨origin, .inl inTable, stop, creator, later⟩
      · exact ⟨origin, .inr (List.mem_cons_of_mem _ created), stop, creator, later⟩

/-- Files stay with their uploaders, and stops with their deliveries. -/
structure Grows (before after : Db) : Prop where
  rows : before.Extends after
  files : Preserved Eq before.files after.files

/-- A turn of the system only adds files, stops and proofs. -/
theorem grows_turn (turn : Concurrency.Turn store) : Grows turn.before turn.after where
  rows := turn.before.extends_commit turn.writes
  files := by
    have same : turn.after.files = turn.before.files := by
      refine Db.commit_idle Db.files (fun write _ db => ?_) turn.before
      cases write <;> rfl
    rw [same]
    exact .refl fun _ => rfl

/-- So does a change elsewhere. -/
theorem grows_elsewhere {before after : Db} (changed : Elsewhere before after) :
    Grows before after := by
  have rows : before.Extends before := .refl before
  have files : Preserved Eq before.files before.files := .refl fun _ => rfl
  cases changed with
  | createFile row => exact ⟨⟨rows.stops, rows.conflicts⟩, .insert (fun _ => rfl) row⟩
  | _ => exact ⟨⟨rows.stops, rows.conflicts⟩, files⟩

/-- What is legitimate stays so. -/
theorem Legitimate.mono {past later : List (Concurrency.Turn store)} {creator deliveryId : Uuid}
    {file : FileRecord} (legitimate : Legitimate past creator deliveryId file)
    (extended : past ⊆ later) : Legitimate later creator deliveryId file := by
  refine legitimate.imp_right ?_
  rintro ⟨turn, member, assigned⟩
  exact ⟨turn, extended member, assigned⟩

/-- What was found of an attachment before is found after. -/
theorem found_later {before after : Db} (grows : Grows before after) {stopId fileId : Uuid}
    {past : List (Concurrency.Turn store)} {creator : Uuid}
    (found : ∃ stop file, before.stop? stopId = some stop ∧ before.files.find? fileId = some file ∧
      Legitimate past creator stop.deliveryId file) :
    ∃ stop file, after.stop? stopId = some stop ∧ after.files.find? fileId = some file ∧
      Legitimate past creator stop.deliveryId file := by
  obtain ⟨stop, file, foundStop, foundFile, legitimate⟩ := found
  obtain ⟨current, foundNow, sameDelivery⟩ := grows.rows.stops stopId stop foundStop
  obtain ⟨_, fileNow, rfl⟩ := grows.files fileId file foundFile
  exact ⟨current, file, foundNow, fileNow, sameDelivery ▸ legitimate⟩

/-- A vouched turn keeps everything legitimate. -/
theorem sound_turn {past : List (Concurrency.Turn store)} {turn : Concurrency.Turn store}
    (sound : Sound past turn.before) (vouched : Vouched past turn) :
      Sound (past ++ [turn]) turn.after := by
  intro pod member fileId attached
  apply found_later (grows_turn turn)
  have current : turn.after.pod? pod.deliveryStopId = some pod := Table.find?_of_mem member
  obtain ⟨origin, from_, stop, creator, files⟩ := pod_of_commit member
  rcases files fileId attached with old | ⟨data, put, photo⟩
  · rcases from_ with inTable | created
    · obtain ⟨found, file, foundStop, foundFile, legitimate⟩ := sound origin inTable fileId old
      rw [stop] at foundStop
      rw [creator] at legitimate
      exact ⟨found, file, foundStop, foundFile, legitimate.mono (List.subset_append_left _ _)⟩
    · exact vouched _ _ (.inl ⟨origin, created, stop, old⟩) pod current
  · exact vouched _ _ (.inr ⟨data, put, photo⟩) pod current

/-- A change elsewhere keeps the attachments sound. -/
theorem sound_elsewhere {past : List (Concurrency.Turn store)} {before after : Db}
    (changed : Elsewhere before after) (sound : Sound past before) : Sound past after := by
  intro pod member fileId attached
  have same : after.proofsOfDelivery = before.proofsOfDelivery := by cases changed <;> rfl
  rw [same] at member
  exact found_later (grows_elsewhere changed) (sound pod member fileId attached)

/-! ## Requests of one driver -/

/-- The request is one that a driver can make, and it is made by this user. -/
def ByDriver (userId : Uuid) : Request → Prop
  | .createDelivery .. | .assignDelivery .. | .cancelDelivery .. => False
  | .acceptDelivery _ _ actorUserId | .startDelivery _ _ actorUserId
  | .departToStop _ _ actorUserId | .arriveAtStop _ _ actorUserId
  | .startUnloading _ _ actorUserId | .failStop _ _ _ actorUserId
  | .syncOutbox _ _ actorUserId => actorUserId = userId
  | .completeDelivery _ actor | .skipStop _ _ actor | .submitPod _ _ actor =>
      actor.userId = userId ∧ actor.role = .driver
  | .resolveConflict _ _ actorUserId actorRole => actorUserId = userId ∧ actorRole = .driver
  | .selectRoute _ _ actor | .reorderStops _ _ actor =>
      actor.userId = userId ∧ actor.role = .driver
  | .sendMessage _ _ actor _ => actor.userId = userId ∧ actor.role = .driver

/-- The write leaves the assignments, and creates proofs of the user only. -/
def OfDriver (userId : Uuid) : Write → Prop
  | .createDelivery _ | .updatePod _ _ => False
  | .updateDelivery _ data => data.driverId = none
  | .createPod row => row.createdBy = userId
  | _ => True

instance (userId : Uuid) : Permissive (OfDriver userId) where
  plain write plain := by
    cases write with
    | updateDelivery id data => exact Option.isNone_iff_eq_none.mp plain
    | createDelivery row => cases plain
    | createPod row => cases plain
    | updatePod stopId data => cases plain
    | _ => trivial

/-- A driver's own request writes only what the driver may. -/
theorem ByDriver.permits {userId : Uuid} {request : Request} (by_ : ByDriver userId request) :
    request.Permits (OfDriver userId) := by
  cases request with
  | submitPod stopId dto actor => exact fun row creator => creator.trans by_.1
  | syncOutbox dto driver user => exact fun row creator => creator.trans by_
  | resolveConflict id dto user role => exact fun operator => absurd by_.2 operator
  | createDelivery dto user => exact by_.elim
  | assignDelivery id dto actor => exact by_.elim
  | sendMessage id dto actor channel => exact fun _ => trivial
  | _ => trivial

/-- The delivery has the driver it had. -/
def SameDriver (row current : Delivery) : Prop := current.driverId = row.driverId

/-- A delivery has its own driver. -/
theorem SameDriver.refl (row : Delivery) : SameDriver row row := rfl

/-- This is transitive. -/
theorem SameDriver.trans {first second third : Delivery} (prior : SameDriver first second)
    (suffix : SameDriver second third) : SameDriver first third :=
  Eq.trans suffix prior

/-- Assignments stay, and every proof is of the user. -/
structure Unassigning (userId : Uuid) (before after : Db) : Prop where
  deliveries : Preserved SameDriver before.deliveries after.deliveries
  drivers : after.drivers = before.drivers
  pods : (∀ pod ∈ before.proofsOfDelivery.rows, pod.createdBy = userId) →
    ∀ pod ∈ after.proofsOfDelivery.rows, pod.createdBy = userId

namespace Unassigning

variable {userId : Uuid} {before middle after : Db}

/-- Nothing unassigned. -/
theorem refl (db : Db) : Unassigning userId db db :=
  ⟨.refl SameDriver.refl, rfl, id⟩

/-- This is transitive. -/
theorem trans (prior : Unassigning userId before middle) (suffix : Unassigning userId middle after) :
    Unassigning userId before after where
  deliveries := prior.deliveries.trans SameDriver.trans suffix.deliveries
  drivers := suffix.drivers.trans prior.drivers
  pods own := suffix.pods (prior.pods own)

/-- A change elsewhere unassigns nobody. -/
theorem elsewhere (changed : Elsewhere before after) : Unassigning userId before after := by
  obtain ⟨deliveries, drivers, pods⟩ : Unassigning userId before before := refl before
  cases changed <;> exact ⟨deliveries, drivers, pods⟩

/-- A driver's own write unassigns nobody. -/
theorem apply {write : Write} (own : OfDriver userId write) (db : Db) :
    Unassigning userId db (write.apply db) := by
  obtain ⟨deliveries, drivers, pods⟩ : Unassigning userId db db := refl db
  cases write with
  | createDelivery row => exact own.elim
  | updatePod stopId data => exact own.elim
  | updateDelivery id data =>
      have same : data.driverId = none := own
      refine ⟨.modify SameDriver.refl id (fun _ => rfl) fun row => ?_, drivers, pods⟩
      simp [SameDriver, DeliveryData.set, same]
  | createPod row =>
      refine ⟨deliveries, drivers, fun others pod member => ?_⟩
      rcases Table.mem_of_mem_insert member with old | rfl
      · exact others pod old
      · exact own
  | _ => exact ⟨deliveries, drivers, pods⟩

/-- Nor do such writes. -/
theorem commit {writes : List Write} (own : ∀ write ∈ writes, OfDriver userId write) (db : Db) :
    Unassigning userId db (db.commit writes) := by
  induction writes generalizing db with
  | nil => exact refl db
  | cons write writes inductionHypothesis =>
      exact (apply (own write List.mem_cons_self) db).trans
        (inductionHypothesis (fun later member => own later (List.mem_cons_of_mem _ member)) _)

end Unassigning

/-- Who has had a delivery still has it. -/
theorem assigned_same {deliveryId former latter other : Uuid} {before after : Db}
    (unassigning : Unassigning other before after) (assigned : AssignedTo before deliveryId former)
    (current : AssignedTo after deliveryId latter) : former = latter := by
  obtain ⟨delivery, driver, found, inTable, ofDriver, rfl⟩ := assigned
  obtain ⟨row, holder, foundToo, inTableToo, ofHolder, rfl⟩ := current
  obtain ⟨_, still, same⟩ := unassigning.deliveries _ delivery found
  obtain rfl := Option.some.inj (still.symm.trans foundToo)
  rw [unassigning.drivers] at inTableToo
  have sameId : driver.id = holder.id := by simpa [ofDriver, ofHolder] using same.symm
  rw [Table.eq_of_key inTable inTableToo sameId]

/-! ## Runs -/

section Runs

variable [UuidText] {start final : Db} {trace : List (Concurrency.Turn store)}
  {arrived : List (Request × Proc store Response)} {admits : Db → Request → Prop}

/-- Where every turn is vouched for, the attachments are sound. -/
theorem sound_of_vouched (empty : start.proofsOfDelivery = .empty)
    (runs : (Request.service admits).Runs start trace final arrived)
    (vouched : ∀ past turn rest, trace = past ++ turn :: rest → Vouched past turn) :
    Sound trace final := by
  refine runs.along Sound ?_ (fun past before after => sound_elsewhere)
    fun past turn rest split sound => sound_turn sound (vouched past turn rest split)
  intro pod member
  rw [empty] at member
  cases member

/-- A driver who acts alone stays with the files of the driver's own. -/
theorem unassigning_of_byDriver (runs : (Request.service admits).Runs start trace final arrived)
    {userId : Uuid} (alone : ∀ request ∈ arrived.map Prod.fst, ByDriver userId request) :
    Unassigning userId start final ∧ ∀ turn ∈ trace, Unassigning userId turn.before final := by
  have meets : ∀ (request : Request) (thread : Nat), request.proc.Meets
      (.turns (fun _ => True) thread fun _ turn =>
        ByDriver userId request → ∀ write ∈ turn.writes, OfDriver userId write)
      (fun _ _ => True) [] := by
    intro request thread
    by_cases by_ : ByDriver userId request
    · exact (Request.confined by_.permits).turns (fun _ _ own _ => own) []
    · exact Proc.Commits.free _ (fun _ _ byToo => absurd byToo by_) []
  have kept : ∀ turn ∈ trace, Unassigning userId turn.before turn.after := by
    intro turn member
    obtain ⟨first, rest, split⟩ := List.append_of_mem member
    obtain ⟨request, made, own⟩ :=
      runs.own (fun _ request thread _ => meets request thread) first turn rest split
    exact .commit (own (alone request (List.mem_of_getElem? made))) turn.before
  refine ⟨runs.within .refl .trans .elsewhere kept, fun turn member => ?_⟩
  exact (kept turn member).trans ((runs.onwards .refl .trans .elsewhere kept).1 turn member)

/-- In every run whose turns vouch for what they attach, a driver is given files of his own,
and what was attached to proofs of his deliveries by their creators and former drivers. Where
all requests are of one driver, he is given files of his own only. -/
theorem pod_files_confined (empty : start.proofsOfDelivery = .empty)
    (runs : (Request.service admits).Runs start trace final arrived)
    (vouched : ∀ past turn rest, trace = past ++ turn :: rest → Vouched past turn) :
    (∀ userId file, Readable final userId file → MayRead trace final userId file) ∧
      ∀ userId, (∀ request ∈ arrived.map Prod.fst, ByDriver userId request) →
        ∀ file, Readable final userId file → file.uploadedBy = userId := by
  have sound := sound_of_vouched empty runs vouched
  have may : ∀ userId file, Readable final userId file → MayRead trace final userId file := by
    intro userId file readable
    obtain ⟨stored, own | ⟨pod, member, stop, attached, foundStop, assigned⟩⟩ := of_readable readable
    · exact .inl own
    · obtain ⟨current, found, sameStop, sameFile, legitimate⟩ := sound pod member file.id attached
      obtain rfl := Option.some.inj (sameStop.symm.trans foundStop)
      obtain rfl := Option.some.inj (sameFile.symm.trans stored)
      exact .inr ⟨pod, member, current, attached, foundStop, assigned, legitimate⟩
  refine ⟨may, fun userId alone file readable => ?_⟩
  obtain ⟨whole, onwards⟩ := unassigning_of_byDriver runs alone
  rcases may userId file readable with own | ⟨pod, member, stop, _, _, assigned, legitimate⟩
  · exact own
  · rcases legitimate with creator | ⟨turn, inTrace, former⟩
    · rw [creator]
      refine whole.pods (fun row present => ?_) pod member
      rw [empty] at present
      cases present
    · exact assigned_same (onwards turn inTrace) former assigned

end Runs

/-! ### A proof with the file of a colleague -/

namespace Borrowed

local instance stopUuids : UuidText := tableUuids [("f", 4), ("g", 6)]

/-- A driver at a stop of his, a file that another user has uploaded, and one of his own. -/
def db : Db where
  drivers := Table.empty.insert { id := 3, userId := 30 }
  deliveries := Table.empty.insert
    { id := 1, deliveryCode := "D-1", driverId := some 3, status := .enRoute, createdBy := 9 }
  deliveryStops := Table.empty.insert { id := 7, deliveryId := 1, sequence := 1, status := .arrived }
  files := (Table.empty.insert { id := 4, uploadedBy := 40 }).insert { id := 6, uploadedBy := 30 }

/-- The driver submits a proof with a photo. -/
def request (photo : String) : Request :=
  .submitPod 7 { receiverName := .string "Ann", photoFileId := .string photo } ⟨30, .driver, some 3, none⟩

def played (photo : String) : List (Concurrency.Turn store) × Pool store Response :=
  Pool.perform (List.replicate 8 (0, fun _ => { uuid := 50 })) ⟨db, [(request photo).proc]⟩

/-- The example is a run of the service. -/
theorem runs (photo : String) : ∃ arrived, arrived.map Prod.fst = [request photo] ∧
    (Request.service fun _ _ => True).Runs db (played photo).1 (played photo).2.state arrived := by
  have admitted : (Request.service fun _ _ => True).Runs db [] db
      [(request photo, (request photo).proc)] := Service.Runs.start.arrive trivial
  have turns : (⟨db, [(request photo).proc]⟩ : Pool store Response).Turns (played photo).1
      (played photo).2 := Pool.perform_turns _ _
  obtain ⟨later, runs, requests, _⟩ := admitted.turns turns
  exact ⟨later, requests, runs⟩

/-- What is attached by the write is the file of the driver. -/
def ownPhoto : Write → Bool
  | .createPod row => row.deliveryStopId = 7 ∧ row.photoFileId = some 6 ∧ row.signatureFileId = none
  | .updatePod .. => false
  | _ => true

/-- The example attaches the driver's own photo. -/
theorem attaches_own : ∀ turn ∈ (played "g").1, (∀ write ∈ turn.writes, ownPhoto write = true) ∧
    (turn.before.stop? 7).isSome ∧ turn.before.files.find? 6 = some { id := 6, uploadedBy := 30 } ∧
      ∀ pod ∈ turn.after.pod? 7, pod.createdBy = 30 := by
  decide

/-- Each of its turns is vouched for. -/
theorem vouched (past : List (Concurrency.Turn store)) {turn : Concurrency.Turn store}
    (member : turn ∈ (played "g").1) : Vouched past turn := by
  obtain ⟨writes, present, found, creator⟩ := attaches_own turn member
  obtain ⟨stop, foundStop⟩ := Option.isSome_iff_exists.mp present
  rintro _ fileId (⟨row, created, rfl, attached⟩ | ⟨data, updated, _⟩) pod current
  · have own := of_decide_eq_true (writes _ created)
    have file : fileId = 6 := by simpa [Attached, own, eq_comm] using attached
    rw [own.1] at current ⊢
    exact ⟨stop, _, foundStop, file ▸ found, .inl (creator pod current).symm⟩
  · cases writes _ updated

/-- Its request is the driver's own. -/
theorem byDriver (photo : String) : ∀ each ∈ [request photo], ByDriver 30 each := by
  intro each member
  obtain rfl := List.mem_singleton.mp member
  exact ⟨rfl, rfl⟩

/-- Who reads a file of the run may do so, and the driver reads only the driver's own. -/
theorem pod_files_confined_own :
    (∀ userId file, Readable (played "g").2.state userId file →
      MayRead (played "g").1 (played "g").2.state userId file) ∧
        ∀ file, Readable (played "g").2.state 30 file → file.uploadedBy = 30 := by
  obtain ⟨arrived, requests, ran⟩ := runs "g"
  have confined := pod_files_confined rfl ran fun past turn rest split =>
    vouched past (split ▸ List.mem_append_right _ List.mem_cons_self)
  exact ⟨confined.1, confined.2 30 (requests ▸ byDriver "g")⟩

/-- The file of the colleague. -/
def file : FileRecord := { id := 4, uploadedBy := 40 }

/-- After the run that attaches another's file, the driver can read it. -/
theorem readable : Readable (played "f").2.state 30 file :=
  ⟨_, (getAuthorizedFileBuffer 4 30 .driver).runs_run (fun _ _ => {}) (fun _ _ => trivial) _⟩

/-- The driver may not read the file: neither he nor a former driver has uploaded it. -/
theorem not_mayRead : ¬MayRead (played "f").1 (played "f").2.state 30 file := by
  obtain ⟨arrived, requests, ran⟩ := runs "f"
  obtain ⟨whole, onwards⟩ := unassigning_of_byDriver ran (requests ▸ byDriver "f")
  rintro (own | ⟨pod, member, _, _, _, _, creator | ⟨turn, inTrace, _, driver, _, inTable, _, user⟩⟩)
  · cases own
  · cases creator.trans (whole.pods (List.forall_mem_nil _) pod member)
  · rw [← (onwards turn inTrace).drivers, whole.drivers] at inTable
    obtain rfl := List.mem_singleton.mp inTable
    cases user

/-- The request of the driver alone makes the file readable to him. -/
theorem not_confined :
    (¬∀ (start final : Db) (trace : List (Concurrency.Turn store))
      (arrived : List (Request × Proc store Response)), start.proofsOfDelivery = .empty →
        (Request.service fun _ _ => True).Runs start trace final arrived →
          ∀ userId file, Readable final userId file → MayRead trace final userId file) ∧
      ¬∀ (start final : Db) (trace : List (Concurrency.Turn store))
        (arrived : List (Request × Proc store Response)), start.proofsOfDelivery = .empty →
          (Request.service fun _ _ => True).Runs start trace final arrived →
            ∀ userId, (∀ request ∈ arrived.map Prod.fst, ByDriver userId request) →
              ∀ file, Readable final userId file → file.uploadedBy = userId := by
  obtain ⟨arrived, requests, ran⟩ := runs "f"
  constructor
  · intro always
    exact not_mayRead (always db _ _ arrived rfl ran 30 file readable)
  · intro always
    have own := always db _ _ arrived rfl ran 30 (requests ▸ byDriver "f") file readable
    cases own

end Borrowed

end Armada.FileReadAccess
