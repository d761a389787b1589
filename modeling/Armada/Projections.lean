import Armada.Prisma

/-!
# What a list of writes does to one row

The lookups of the store, after a write, as functions of the lookup before it.
A write that leaves a table alone acts on its rows as the identity, so the
lemmas below evaluate a committed list of writes to its effect on one row.
-/

namespace Armada

open Relational Concurrency

namespace Write

/-- The effect of a write on the delivery with an id. -/
def onDelivery (id : Uuid) : Write → Option Delivery → Option Delivery
  | .createDelivery row, found => found.or (if row.id = id then some row else none)
  | .updateDelivery key data, found => if id = key then found.map data.set else found
  | _, found => found

/-- What one write makes of the stop with an id. -/
def onStop (id : Uuid) : Write → Option DeliveryStop → Option DeliveryStop
  | .createStop row, found => found.or (if row.id = id then some row else none)
  | .updateStop key data, found => if id = key then found.map data.set else found
  | _, found => found

/-- What one write makes of the proof of a stop. -/
def onPod (stopId : Uuid) : Write → Option ProofOfDelivery → Option ProofOfDelivery
  | .createPod row, found => found.or (if row.deliveryStopId = stopId then some row else none)
  | .updatePod key data, found => if stopId = key then found.map data.set else found
  | _, found => found

/-- What one write makes of the ticket with an id. -/
def onConflict (id : Uuid) : Write → Option DeliveryConflict → Option DeliveryConflict
  | .createConflict row, found => found.or (if row.id = id then some row else none)
  | .updateConflict key data, found => if id = key then found.map data.set else found
  | _, found => found

/-- What one write makes of the record of a key. -/
def onRecord (key : IdempotencyKey) :
    Write → Option IdempotencyRecord → Option IdempotencyRecord
  | .createRecord row, found => found.or (if row.keyUserEndpoint = key then some row else none)
  | .updateRecord other data, found => if key = other then found.map data.set else found
  | _, found => found

/-- The delivery found after a write. -/
theorem delivery?_apply (write : Write) (db : Db) (id : Uuid) :
    (write.apply db).delivery? id = write.onDelivery id (db.delivery? id) := by
  cases write with
  | createDelivery row => exact Table.find?_insert _ _ _
  | updateDelivery key data => exact Table.find?_modify _ _ _ fun _ => rfl
  | _ => rfl

/-- The stop found after a write. -/
theorem stop?_apply (write : Write) (db : Db) (id : Uuid) :
    (write.apply db).stop? id = write.onStop id (db.stop? id) := by
  cases write with
  | createStop row => exact Table.find?_insert _ _ _
  | updateStop key data => exact Table.find?_modify _ _ _ fun _ => rfl
  | _ => rfl

/-- The proof found after a write. -/
theorem pod?_apply (write : Write) (db : Db) (stopId : Uuid) :
    (write.apply db).pod? stopId = write.onPod stopId (db.pod? stopId) := by
  cases write with
  | createPod row => exact Table.find?_insert _ _ _
  | updatePod key data => exact Table.find?_modify _ _ _ fun _ => rfl
  | _ => rfl

/-- The ticket found after a write. -/
theorem conflict?_apply (write : Write) (db : Db) (id : Uuid) :
    (write.apply db).conflict? id = write.onConflict id (db.conflict? id) := by
  cases write with
  | createConflict row => exact Table.find?_insert _ _ _
  | updateConflict key data => exact Table.find?_modify _ _ _ fun _ => rfl
  | _ => rfl

/-- The record found after a write. -/
theorem record?_apply (write : Write) (db : Db) (key : IdempotencyKey) :
    (write.apply db).record? key = write.onRecord key (db.record? key) := by
  cases write with
  | createRecord row => exact Table.find?_insert _ _ _
  | updateRecord other data => exact Table.find?_modify _ _ _ fun _ => rfl
  | _ => rfl

end Write

namespace Db

/-- The store after a list of writes. -/
def commit (db : Db) (writes : List Write) : Db := store.applyAll writes db

/-- No writes, no change. -/
@[simp] theorem commit_nil (db : Db) : db.commit [] = db := rfl

/-- The first of the writes comes first. -/
@[simp] theorem commit_cons (db : Db) (write : Write) (writes : List Write) :
    db.commit (write :: writes) = (write.apply db).commit writes := rfl

/-- Writes of two parts are applied part by part. -/
@[simp] theorem commit_append (db : Db) (first second : List Write) :
    db.commit (first ++ second) = (db.commit first).commit second :=
  store.applyAll_append first second db

/-- To commit is to apply the writes in their order. -/
@[simp] theorem applyAll_store (db : Db) (writes : List Write) :
    store.applyAll writes db = db.commit writes := rfl

/-- A part of the store on which every write acts is folded over a list of writes. -/
theorem observe_commit {β : Type} (look : Db → β) (act : Write → β → β)
    (step : ∀ write db, look (write.apply db) = act write (look db)) (db : Db)
    (writes : List Write) :
    look (db.commit writes) = writes.foldl (fun found write => act write found) (look db) := by
  induction writes generalizing db with
  | nil => rfl
  | cons write writes inductionHypothesis =>
      rw [commit_cons, inductionHypothesis, step, List.foldl_cons]

/-- The delivery found after a commit. -/
theorem delivery?_commit (db : Db) (writes : List Write) (id : Uuid) :
    (db.commit writes).delivery? id =
      writes.foldl (fun found write => write.onDelivery id found) (db.delivery? id) :=
  observe_commit (·.delivery? id) (Write.onDelivery id)
    (fun write db => write.delivery?_apply db id) db writes

/-- The stop found after a commit. -/
theorem stop?_commit (db : Db) (writes : List Write) (id : Uuid) :
    (db.commit writes).stop? id =
      writes.foldl (fun found write => write.onStop id found) (db.stop? id) :=
  observe_commit (·.stop? id) (Write.onStop id) (fun write db => write.stop?_apply db id) db writes

/-- The proof found after a commit. -/
theorem pod?_commit (db : Db) (writes : List Write) (stopId : Uuid) :
    (db.commit writes).pod? stopId =
      writes.foldl (fun found write => write.onPod stopId found) (db.pod? stopId) :=
  observe_commit (·.pod? stopId) (Write.onPod stopId)
    (fun write db => write.pod?_apply db stopId) db writes

/-- The ticket found after a commit. -/
theorem conflict?_commit (db : Db) (writes : List Write) (id : Uuid) :
    (db.commit writes).conflict? id =
      writes.foldl (fun found write => write.onConflict id found) (db.conflict? id) :=
  observe_commit (·.conflict? id) (Write.onConflict id)
    (fun write db => write.conflict?_apply db id) db writes

/-- The record found after a commit. -/
theorem record?_commit (db : Db) (writes : List Write) (key : IdempotencyKey) :
    (db.commit writes).record? key =
      writes.foldl (fun found write => write.onRecord key found) (db.record? key) :=
  observe_commit (·.record? key) (Write.onRecord key)
    (fun write db => write.record?_apply db key) db writes

/-- The stops of a delivery are the rows that name it. -/
theorem mem_stopsOf {db : Db} {deliveryId : Uuid} {stop : DeliveryStop} :
    stop ∈ db.stopsOf deliveryId ↔ db.stop? stop.id = some stop ∧ stop.deliveryId = deliveryId := by
  simp only [stopsOf, List.mem_filter, decide_eq_true_eq, stop?, Table.find?_eq_some]
  constructor
  · rintro ⟨member, same⟩
    exact ⟨⟨member, rfl⟩, same⟩
  · rintro ⟨⟨member, _⟩, same⟩
    exact ⟨member, same⟩

/-- The stops of a delivery after one of them is updated. -/
theorem stopsOf_updateStop (db : Db) (key : Uuid) (data : StopData) (deliveryId : Uuid) :
    ((Write.updateStop key data).apply db).stopsOf deliveryId =
      (db.stopsOf deliveryId).map fun stop => if stop.id = key then data.set stop else stop := by
  have same : ∀ stop : DeliveryStop, (Keyed.key stop = key ∧ Keyed.key (data.set stop) = key) ↔
      stop.id = key := fun stop => and_self_iff
  simp only [stopsOf, Write.apply, Table.modify, same, List.filter_map]
  congr 1
  refine List.filter_congr fun stop _ => ?_
  simp only [Function.comp_apply]
  split <;> rfl

/-- A new stop of another delivery is not among them. -/
theorem stopsOf_createStop {db : Db} {stop : DeliveryStop} {deliveryId : Uuid}
    (other : stop.deliveryId ≠ deliveryId) :
    ((Write.createStop stop).apply db).stopsOf deliveryId = db.stopsOf deliveryId := by
  simp only [stopsOf, Write.apply, Table.insert]
  split
  · simp [List.filter_append, other]
  · rfl

/-- A stop is found under its own id. -/
theorem id_of_stop? {db : Db} {id : Uuid} {stop : DeliveryStop} (found : db.stop? id = some stop) :
    stop.id = id :=
  Table.key_of_find? found

/-- So is a delivery. -/
theorem id_of_delivery? {db : Db} {id : Uuid} {row : Delivery} (found : db.delivery? id = some row) :
    row.id = id :=
  Table.key_of_find? found

/-- No write deletes a delivery. -/
theorem delivery?_commit_of_some {db : Db} {id : Uuid} {row : Delivery}
    (found : db.delivery? id = some row) (writes : List Write) :
    ∃ later, (db.commit writes).delivery? id = some later := by
  induction writes generalizing db row with
  | nil => exact ⟨row, found⟩
  | cons write writes inductionHypothesis =>
      obtain ⟨next, foundNext⟩ : ∃ next, (write.apply db).delivery? id = some next := by
        rw [write.delivery?_apply, found]
        cases write with
        | updateDelivery key data => by_cases here : id = key <;> simp [Write.onDelivery, here]
        | _ => exact ⟨row, rfl⟩
      exact inductionHypothesis foundNext

/-! ## What no write undoes -/

/-- What a process may go on believing after others have run: stops stay with
their delivery, and tickets keep the payload they were opened with. -/
structure Extends (before after : Db) : Prop where
  stops : ∀ id stop, before.stop? id = some stop →
    ∃ later, after.stop? id = some later ∧ later.deliveryId = stop.deliveryId
  conflicts : ∀ id conflict, before.conflict? id = some conflict →
    ∃ later, after.conflict? id = some later ∧ later.deliveryId = conflict.deliveryId ∧
      later.clientPayload = conflict.clientPayload

/-- Every store extends itself. -/
theorem Extends.refl (db : Db) : db.Extends db :=
  ⟨fun _ stop found => ⟨stop, found, rfl⟩, fun _ conflict found => ⟨conflict, found, rfl, rfl⟩⟩

/-- What extends an extension extends. -/
theorem Extends.trans {first second third : Db} (left : first.Extends second)
    (right : second.Extends third) : first.Extends third where
  stops id stop found := by
    obtain ⟨middle, foundMiddle, same⟩ := left.stops id stop found
    obtain ⟨last, foundLast, sameLast⟩ := right.stops id middle foundMiddle
    exact ⟨last, foundLast, sameLast.trans same⟩
  conflicts id conflict found := by
    obtain ⟨middle, foundMiddle, same, payload⟩ := left.conflicts id conflict found
    obtain ⟨last, foundLast, sameLast, payloadLast⟩ := right.conflicts id middle foundMiddle
    exact ⟨last, foundLast, sameLast.trans same, payloadLast.trans payload⟩

/-- A write takes nothing away that an extension keeps. -/
theorem extends_apply (write : Write) (db : Db) : db.Extends (write.apply db) where
  stops id stop found := by
    rw [write.stop?_apply, found]
    cases write with
    | updateStop key data =>
        by_cases same : id = key <;> simp [Write.onStop, same, StopData.set]
    | _ => exact ⟨stop, rfl, rfl⟩
  conflicts id conflict found := by
    rw [write.conflict?_apply, found]
    cases write with
    | updateConflict key data =>
        by_cases same : id = key <;> simp [Write.onConflict, same, ResolutionData.set]
    | _ => exact ⟨conflict, rfl, rfl, rfl⟩

/-- Nor does a commit. -/
theorem extends_commit (writes : List Write) (db : Db) : db.Extends (db.commit writes) := by
  induction writes generalizing db with
  | nil => exact .refl db
  | cons write writes inductionHypothesis =>
      exact (extends_apply write db).trans (inductionHypothesis (write.apply db))

end Db

end Armada
