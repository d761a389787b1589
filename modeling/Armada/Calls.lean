import Armada.Projections

/-!
# What the calls do

For every call of the Prisma client that the services make, what a successful
execution returns and writes.
-/

namespace Armada

open Relational Concurrency

/-- A query succeeds if no fault comes and its body does. -/
theorem query_succeeds {β : Type} {locks : Input → Db → List Lock}
    {body : Input → Db → Except PrismaError (β × List Write)} {input : Input} {db : Db}
    {value : β} {writes : List Write} :
    (query locks body).Succeeds input db value writes ↔
      input.fault = none ∧ body input db = .ok (value, writes) := by
  simp only [query, Statement.Succeeds]
  cases input.fault with
  | some error => simp
  | none => cases body input db <;> simp

/-- A look succeeds with what it finds, and writes nothing. -/
theorem select_succeeds {β : Type} {body : Db → Except PrismaError β} {input : Input} {db : Db}
    {value : β} {writes : List Write} :
    (select body).Succeeds input db value writes ↔
      input.fault = none ∧ body db = .ok value ∧ writes = [] := by
  rw [select, query_succeeds, except_map_ok]
  simp only [Prod.mk.injEq]
  constructor
  · rintro ⟨fault, result, read, rfl, rfl⟩
    exact ⟨fault, read, rfl⟩
  · rintro ⟨fault, read, rfl⟩
    exact ⟨fault, value, read, rfl, rfl⟩

namespace Prisma

/-- A check of a query passes exactly if its condition holds. -/
theorem check_ok {condition : Prop} [Decidable condition] {error : PrismaError} {answer : Unit} :
    check condition error = .ok answer ↔ condition := by
  by_cases holds : condition <;> simp [check, holds]

namespace Driver

/-- The driver of the id, if there is one. -/
theorem findUnique_succeeds {id : Uuid} {input : Input} {db : Db} {found : Option Armada.Driver}
    {writes : List Write} :
    (findUnique id).Succeeds input db found writes ↔
      input.fault = none ∧ db.drivers.find? id = found ∧ writes = [] := by
  simp [findUnique, select_succeeds]

end Driver

namespace Vehicle

/-- The vehicle of the id, if there is one. -/
theorem findUnique_succeeds {id : Uuid} {input : Input} {db : Db} {found : Option Armada.Vehicle}
    {writes : List Write} :
    (findUnique id).Succeeds input db found writes ↔
      input.fault = none ∧ db.vehicles.find? id = found ∧ writes = [] := by
  simp [findUnique, select_succeeds]

end Vehicle

namespace Delivery

/-- The delivery of the id, if there is one. -/
theorem findUnique_succeeds {id : Uuid} {input : Input} {db : Db} {found : Option Armada.Delivery}
    {writes : List Write} :
    (findUnique id).Succeeds input db found writes ↔
      input.fault = none ∧ db.delivery? id = found ∧ writes = [] := by
  simp [findUnique, select_succeeds]

/-- The first delivery with the code. -/
theorem findByCode_succeeds {code : String} {input : Input} {db : Db} {found : Option Armada.Delivery}
    {writes : List Write} :
    (findByCode code).Succeeds input db found writes ↔
      input.fault = none ∧ (db.deliveries.rows.find? fun row => row.deliveryCode = code) = found ∧
        writes = [] := by
  simp [findByCode, select_succeeds]

/-- The delivery of the id together with its stops. -/
theorem findWithStops_succeeds {id : Uuid} {input : Input} {db : Db}
    {found : Option (Armada.Delivery × List Armada.DeliveryStop)} {writes : List Write} :
    (findWithStops id).Succeeds input db found writes ↔
      input.fault = none ∧ ((db.delivery? id).map fun row =>
        (row, (db.stopsOf id).insertionSort fun left right => left.sequence ≤ right.sequence)) =
          found ∧ writes = [] := by
  simp [findWithStops, select_succeeds]

/-- A new delivery is a draft under a fresh id and code. -/
theorem create_succeeds {code : String} {plannedStartAt : Option Instant} {createdBy : Uuid}
    {input : Input} {db : Db} {row : Armada.Delivery} {writes : List Write} :
    (create code plannedStartAt createdBy).Succeeds input db row writes ↔
      input.fault = none ∧ db.delivery? input.uuid = none ∧
        (∀ other ∈ db.deliveries.rows, other.deliveryCode ≠ code) ∧
        row = { id := input.uuid, deliveryCode := code, plannedStartAt, createdBy } ∧
        writes = [.createDelivery row] := by
  simp only [create, query_succeeds, except_bind_ok, check_ok, exists_const, Except.ok.injEq,
    Prod.mk.injEq]
  constructor
  · rintro ⟨fault, fresh, code, rfl, rfl⟩
    exact ⟨fault, fresh, code, rfl, rfl⟩
  · rintro ⟨fault, fresh, code, rfl, rfl⟩
    exact ⟨fault, fresh, code, rfl, rfl⟩

/-- An update of a delivery needs the row alone, and answers the row after it. -/
theorem update_succeeds {id : Uuid} {data : Input → DeliveryData} {input : Input} {db : Db}
    {row : Armada.Delivery} {writes : List Write} :
    (update id data).Succeeds input db row writes ↔
      input.fault = none ∧ (∃ old, db.delivery? id = some old ∧ row = (data input).set old) ∧
        writes = [.updateDelivery id (data input)] := by
  rw [update, query_succeeds]
  cases db.delivery? id with
  | none => simp
  | some old =>
      simp only [Except.ok.injEq, Prod.mk.injEq, Option.some.injEq, exists_eq_left', eq_comm]

/-- An update by status counts one row or none, and writes accordingly. -/
theorem updateMany_succeeds {id : Uuid} {status : DeliveryStatus → Bool} {data : Input → DeliveryData}
    {input : Input} {db : Db} {count : Nat} {writes : List Write} :
    (updateMany id status data).Succeeds input db count writes ↔
      input.fault = none ∧
        ((∃ row, db.delivery? id = some row ∧ status row.status ∧ count = 1 ∧
            writes = [.updateDelivery id (data input)]) ∨
          (∀ row, db.delivery? id = some row → status row.status = false) ∧ count = 0 ∧
            writes = []) := by
  rw [updateMany, query_succeeds]
  cases db.delivery? id with
  | none =>
      simp only [Option.any_none, Bool.false_eq_true, if_false, Except.ok.injEq, Prod.mk.injEq]
      grind
  | some row =>
      by_cases matched : status row.status = true
      · simp only [Option.any_some, matched, if_true]
        grind
      · simp only [Option.any_some, matched]
        grind

/-- A row lock writes nothing. -/
theorem selectForUpdate_succeeds {id : Uuid} {input : Input} {db : Db} {answer : Unit}
    {writes : List Write} :
    (selectForUpdate id).Succeeds input db answer writes ↔
      input.fault = none ∧ writes = [] := by
  simp [selectForUpdate, query_succeeds, eq_comm]

end Delivery

namespace DeliveryItem

/-- Items are inserted as they are given. -/
theorem createMany_succeeds {rows : List DeliveryItem} {input : Input} {db : Db} {answer : Unit}
    {writes : List Write} :
    (createMany rows).Succeeds input db answer writes ↔
      input.fault = none ∧ writes = [.createItems rows] := by
  simp [createMany, query_succeeds, eq_comm]

end DeliveryItem

namespace DeliveryStop

/-- The stop of the id together with its delivery. -/
theorem findUnique_succeeds {id : Uuid} {input : Input} {db : Db}
    {found : Option (Armada.DeliveryStop × Armada.Delivery)} {writes : List Write} :
    (findUnique id).Succeeds input db found writes ↔
      input.fault = none ∧ writes = [] ∧
        (found = none ∧ db.stop? id = none ∨ ∃ stop delivery, found = some (stop, delivery) ∧
          db.stop? id = some stop ∧ db.delivery? stop.deliveryId = some delivery) := by
  rw [findUnique, select_succeeds]
  cases db.stop? id with
  | none => simp [eq_comm, and_comm]
  | some stop =>
      cases parent : db.delivery? stop.deliveryId with
      | none => simp [parent]
      | some delivery => simp [parent, eq_comm, and_comm]

/-- The stops of the delivery. -/
theorem findMany_succeeds {deliveryId : Uuid} {input : Input} {db : Db}
    {found : List Armada.DeliveryStop} {writes : List Write} :
    (findMany deliveryId).Succeeds input db found writes ↔
      input.fault = none ∧ db.stopsOf deliveryId = found ∧ writes = [] := by
  simp [findMany, select_succeeds]

/-- A new stop gets a fresh id, and its delivery has to be there. -/
theorem create_succeeds {row : Uuid → Armada.DeliveryStop} {input : Input} {db : Db} {answer : Unit}
    {writes : List Write} :
    (create row).Succeeds input db answer writes ↔
      input.fault = none ∧ db.stop? (row input.uuid).id = none ∧
        (∀ other ∈ db.stopsOf (row input.uuid).deliveryId,
          other.sequence ≠ (row input.uuid).sequence) ∧
        writes = [.createStop (row input.uuid)] := by
  simp [create, query_succeeds, except_bind_ok, check_ok, eq_comm (a := writes)]

/-- An update of a stop needs the row alone, and answers the row after it. -/
theorem update_succeeds {id : Uuid} {data : Input → StopData} {input : Input} {db : Db}
    {row : Armada.DeliveryStop} {writes : List Write} :
    (update id data).Succeeds input db row writes ↔
      input.fault = none ∧ (∃ old, db.stop? id = some old ∧ row = (data input).set old) ∧
        writes = [.updateStop id (data input)] := by
  rw [update, query_succeeds]
  cases db.stop? id with
  | none => simp
  | some old =>
      simp only [Except.ok.injEq, Prod.mk.injEq, Option.some.injEq, exists_eq_left', eq_comm]

/-- A renumbering needs the sequence to be free. -/
theorem updateSequence_succeeds {id : Uuid} {sequence : Int} {input : Input} {db : Db}
    {row : Armada.DeliveryStop} {writes : List Write} :
    (updateSequence id sequence).Succeeds input db row writes ↔
      input.fault = none ∧ (∃ old, db.stop? id = some old ∧ row = { old with sequence } ∧
        ∀ other ∈ db.stopsOf old.deliveryId, other.id ≠ id → other.sequence ≠ sequence) ∧
        writes = [.updateStop id { sequence := some sequence }] := by
  rw [updateSequence, query_succeeds]
  cases db.stop? id with
  | none => simp
  | some old =>
      simp only [except_bind_ok, check_ok, exists_const, Except.ok.injEq, Prod.mk.injEq,
        Option.some.injEq, exists_eq_left']
      constructor
      · rintro ⟨fault, unique, rfl, rfl⟩
        exact ⟨fault, ⟨rfl, unique⟩, rfl⟩
      · rintro ⟨fault, ⟨rfl, unique⟩, rfl⟩
        exact ⟨fault, unique, rfl, rfl⟩

/-- The update by status finds a stop in an expected status whose delivery is in none of the
excluded ones. -/
theorem matched_iff {db : Db} {id : Uuid} {expected : List StopStatus}
    {excluded : List DeliveryStatus} :
    matched db id expected excluded = true ↔ ∃ stop, db.stop? id = some stop ∧
      stop.status ∈ expected ∧ ∃ parent, db.delivery? stop.deliveryId = some parent ∧
        parent.status ∉ excluded := by
  simp only [matched, Option.any_eq_true, Bool.and_eq_true, decide_eq_true_eq, Db.parentStatus?,
    Option.map_eq_some_iff]
  grind

/-- It counts one row or none, and writes accordingly. -/
theorem updateMany_succeeds {id : Uuid} {expected : List StopStatus} {excluded : List DeliveryStatus}
    {data : Input → StopData} {input : Input} {db : Db} {count : Nat} {writes : List Write} :
    (updateMany id expected excluded data).Succeeds input db count writes ↔
      input.fault = none ∧
        (matched db id expected excluded = true ∧ count = 1 ∧
            writes = [.updateStop id (data input)] ∨
          matched db id expected excluded = false ∧ count = 0 ∧ writes = []) := by
  rw [updateMany, query_succeeds]
  cases matched db id expected excluded <;> simp [eq_comm]

/-- It locks the stop that it finds. -/
theorem locks_updateMany {id : Uuid} {expected : List StopStatus} {excluded : List DeliveryStatus}
    (data : Input → StopData) (input : Input) {db : Db}
    (found : matched db id expected excluded = true) :
    (updateMany id expected excluded data).locks input db = [.stop id] :=
  if_pos found

end DeliveryStop

namespace ProofOfDelivery

/-- The proof of the stop, if there is one. -/
theorem findUnique_succeeds {stopId : Uuid} {input : Input} {db : Db}
    {found : Option Armada.ProofOfDelivery} {writes : List Write} :
    (findUnique stopId).Succeeds input db found writes ↔
      input.fault = none ∧ db.pod? stopId = found ∧ writes = [] := by
  simp [findUnique, select_succeeds]

variable [UuidText]

/-- A new proof is that of its stop, which had none; its columns are the given values. -/
theorem create_succeeds {stopId : Uuid} {receiverName photoFileId signatureFileId notes : JsValue}
    {createdBy : Uuid} {input : Input} {db : Db} {row : Armada.ProofOfDelivery}
    {writes : List Write} :
    (create stopId receiverName photoFileId signatureFileId notes
      createdBy).Succeeds input db row writes ↔
      input.fault = none ∧ row.deliveryStopId = stopId ∧ row.id = input.uuid ∧
        row.completedAt = input.now ∧ row.createdBy = createdBy ∧
        receiverName.toVarChar 100 = .ok row.receiverName ∧
        photoFileId.orNull JsValue.toUuid = .ok row.photoFileId ∧
        signatureFileId.orNull JsValue.toUuid = .ok row.signatureFileId ∧
        notes.orNull JsValue.toText = .ok row.notes ∧ db.pod? stopId = none ∧
        db.stop? stopId ≠ none ∧ (∀ id ∈ row.photoFileId, db.files.find? id ≠ none) ∧
        (∀ id ∈ row.signatureFileId, db.files.find? id ≠ none) ∧ writes = [.createPod row] := by
  simp only [create, query_succeeds, except_bind_ok, check_ok, checkFile, exists_const,
    Except.ok.injEq, Prod.mk.injEq]
  constructor
  · rintro ⟨fault, _, receiver, _, photo, _, signature, _, text, absent, stop, photoFile,
      signatureFile, rfl, rfl⟩
    exact ⟨fault, rfl, rfl, rfl, rfl, receiver, photo, signature, text, absent, stop, photoFile,
      signatureFile, rfl⟩
  · rintro ⟨fault, rfl, own, now, rfl, receiver, photo, signature, text, absent, stop, photoFile,
      signatureFile, rfl⟩
    refine ⟨fault, _, receiver, _, photo, _, signature, _, text, absent, stop, photoFile,
      signatureFile, ?_⟩
    rw [← own, ← now]
    exact ⟨rfl, rfl⟩

/-- An upsert takes the name and the photo that are given, and never a signature. -/
theorem upsert_succeeds {stopId : Uuid} {receiverName photoFileId : JsValue} {notes : String}
    {createdBy : Uuid} {input : Input} {db : Db} {answer : Unit} {writes : List Write}
    (executed : (upsert stopId receiverName photoFileId notes
      createdBy).Succeeds input db answer writes) :
    (∃ data : PodData, db.pod? stopId ≠ none ∧ receiverName.toVarChar 100 = .ok data.receiverName ∧
        photoFileId.orNull JsValue.toUuid = .ok data.photoFileId ∧
        writes = [.updatePod stopId data]) ∨
      ∃ row : Armada.ProofOfDelivery, db.pod? stopId = none ∧ row.deliveryStopId = stopId ∧
        receiverName.toVarChar 100 = .ok row.receiverName ∧
        photoFileId.orNull JsValue.toUuid = .ok row.photoFileId ∧ row.signatureFileId = none ∧
        writes = [.createPod row] := by
  simp only [upsert, query_succeeds, except_bind_ok] at executed
  obtain ⟨_, _, receiver, _, photo, _, _, executed⟩ := executed
  cases found : db.pod? stopId with
  | some row =>
      simp only [found, Except.ok.injEq, Prod.mk.injEq] at executed
      exact .inl ⟨_, by simp, receiver, photo, executed.2.symm⟩
  | none =>
      simp only [found, except_bind_ok, check_ok, exists_const, Except.ok.injEq,
        Prod.mk.injEq] at executed
      obtain ⟨_, _, rfl⟩ := executed
      exact .inr ⟨_, rfl, rfl, receiver, photo, rfl, rfl⟩

/-- An upsert takes a name that fits, and no file that is not there. -/
theorem upsert_accepts {stopId : Uuid} {receiverName photoFileId : JsValue} {notes : String}
    {createdBy : Uuid} {input : Input} {db : Db} {answer : Unit} {writes : List Write}
    (executed : (upsert stopId receiverName photoFileId notes
      createdBy).Succeeds input db answer writes) :
    ∃ receiver photo, receiverName.toVarChar 100 = .ok receiver ∧
      photoFileId.orNull JsValue.toUuid = .ok photo ∧
      ∀ id ∈ photo, db.files.find? id ≠ none := by
  simp only [upsert, query_succeeds, except_bind_ok, checkFile, check_ok] at executed
  obtain ⟨_, receiver, fits, photo, parsed, _, filed, _⟩ := executed
  exact ⟨receiver, photo, fits, parsed, filed⟩

end ProofOfDelivery

namespace DeliveryEvent

/-- An event is inserted under a fresh id. -/
theorem create_succeeds {deliveryId : Uuid} {stopId : Option Uuid} {eventType : String}
    {actorUserId : Uuid} {metadataJson : EventMetadata} {input : Input} {db : Db} {answer : Unit}
    {writes : List Write} :
    (create deliveryId stopId eventType actorUserId metadataJson).Succeeds input db answer writes ↔
      input.fault = none ∧ writes = [.createEvent
        { id := input.uuid, deliveryId, stopId, eventType, actorUserId, metadataJson }] := by
  simp [create, query_succeeds, eq_comm]

end DeliveryEvent

namespace DeliveryConflict

/-- The ticket of the id, if there is one. -/
theorem findUnique_succeeds {id : Uuid} {input : Input} {db : Db}
    {found : Option Armada.DeliveryConflict} {writes : List Write} :
    (findUnique id).Succeeds input db found writes ↔
      input.fault = none ∧ db.conflict? id = found ∧ writes = [] := by
  simp [findUnique, select_succeeds]

/-- A new ticket is OPEN, under a fresh id. -/
theorem create_succeeds {deliveryId : Uuid} {clientEventId conflictType serverState : String}
    {clientPayload : OutboxEventItem} {input : Input} {db : Db} {row : Armada.DeliveryConflict}
    {writes : List Write} :
    (create deliveryId clientEventId conflictType serverState clientPayload).Succeeds input db row writes ↔
      input.fault = none ∧ clientEventId.length ≤ 100 ∧ db.conflict? input.uuid = none ∧
        row = { id := input.uuid, deliveryId, clientEventId, conflictType, serverState,
                clientPayload } ∧
        writes = [.createConflict row] := by
  simp only [create, query_succeeds, except_bind_ok, check_ok, exists_const, Except.ok.injEq,
    Prod.mk.injEq]
  constructor
  · rintro ⟨fault, short, fresh, rfl, rfl⟩
    exact ⟨fault, short, fresh, rfl, rfl⟩
  · rintro ⟨fault, short, fresh, rfl, rfl⟩
    exact ⟨fault, short, fresh, rfl, rfl⟩

/-- An update of a ticket needs the row alone, and answers the row after it. -/
theorem update_succeeds {id : Uuid} {data : Input → ResolutionData} {input : Input} {db : Db}
    {row : Armada.DeliveryConflict} {writes : List Write} :
    (update id data).Succeeds input db row writes ↔
      input.fault = none ∧ (∃ old, db.conflict? id = some old ∧ row = (data input).set old) ∧
        writes = [.updateConflict id (data input)] := by
  rw [update, query_succeeds]
  cases db.conflict? id with
  | none => simp
  | some old =>
      simp only [Except.ok.injEq, Prod.mk.injEq, Option.some.injEq, exists_eq_left', eq_comm]

end DeliveryConflict

namespace AuditLog

/-- An audit row is appended. -/
theorem create_succeeds {row : Armada.AuditLog} {input : Input} {db : Db} {answer : Unit}
    {writes : List Write} :
    (create row).Succeeds input db answer writes ↔
      input.fault = none ∧ writes = [.createAuditLog row] := by
  simp [create, query_succeeds, eq_comm]

end AuditLog

namespace IdempotencyRecord

/-- The record of the key, if there is one. -/
theorem findUnique_succeeds {key : IdempotencyKey} {input : Input} {db : Db}
    {found : Option Armada.IdempotencyRecord} {writes : List Write} :
    (findUnique key).Succeeds input db found writes ↔
      input.fault = none ∧ db.record? key = found ∧ writes = [] := by
  simp [findUnique, select_succeeds]

/-- A new record needs the key to be free. -/
theorem create_succeeds {key : IdempotencyKey} {responseStatus : Nat} {responseBody : ResponseBody}
    {input : Input} {db : Db} {answer : Unit} {writes : List Write} :
    (create key responseStatus responseBody).Succeeds input db answer writes ↔
      input.fault = none ∧ db.record? key = none ∧
        writes = [.createRecord { keyUserEndpoint := key, responseStatus, responseBody,
                                  expiresAt := input.now + 24 * 3600 * 1000 }] := by
  simp [create, query_succeeds, except_bind_ok, check_ok, eq_comm (a := writes)]

/-- An update of a record needs the row. -/
theorem update_succeeds {key : IdempotencyKey} {data : ResponseData} {input : Input} {db : Db}
    {answer : Unit} {writes : List Write} :
    (update key data).Succeeds input db answer writes ↔
      input.fault = none ∧ db.record? key ≠ none ∧ writes = [.updateRecord key data] := by
  simp [update, query_succeeds, except_bind_ok, check_ok, eq_comm (a := writes)]

end IdempotencyRecord

namespace Route

/-- The greatest version of a delivery's routes. -/
theorem findMaxVersion_succeeds {deliveryId : Uuid} {input : Input} {db : Db} {found : Option Nat}
    {writes : List Write} :
    (findMaxVersion deliveryId).Succeeds input db found writes ↔
      input.fault = none ∧ ((db.routesOf deliveryId).map Armada.Route.version).max? = found ∧
        writes = [] := by
  simp [findMaxVersion, select_succeeds]

/-- A new route has the version given, which the delivery has not yet, and sums that fit the
columns. -/
theorem create_succeeds {deliveryId : Uuid} {version : Nat} {source : RouteSource}
    {totalDistanceM estimatedDurationS : Rat} {input : Input} {db : Db} {row : Armada.Route}
    {writes : List Write}
    (executed : (create deliveryId version source totalDistanceM
      estimatedDurationS).Succeeds input db row writes) :
    row.id = input.uuid ∧ row.deliveryId = deliveryId ∧ row.version = version ∧
      row.source = source ∧ db.routes.find? row.id = none ∧
      (∀ other ∈ db.routesOf deliveryId, other.version ≠ version) ∧
      writes = [.createRoute row] := by
  simp only [create, query_succeeds, except_bind_ok, check_ok, exists_const, Except.ok.injEq,
    Prod.mk.injEq] at executed
  obtain ⟨_, _, _, _, _, fresh, unique, rfl, rfl⟩ := executed
  exact ⟨rfl, rfl, rfl, rfl, fresh, unique, rfl⟩

/-- The two numbers of a route that is created fit their columns. -/
theorem storable_of_create {deliveryId : Uuid} {version : Nat} {source : RouteSource}
    {totalDistanceM estimatedDurationS : Rat} {input : Input} {db : Db} {row : Armada.Route}
    {writes : List Write}
    (executed : (create deliveryId version source totalDistanceM
      estimatedDurationS).Succeeds input db row writes) :
    Storable totalDistanceM estimatedDurationS := by
  simp only [create, query_succeeds, except_bind_ok, check_ok, exists_const, Except.ok.injEq,
    Prod.mk.injEq] at executed
  obtain ⟨_, seconds, isInt, metres, isDecimal, _⟩ := executed
  exact ⟨⟨metres, isDecimal⟩, ⟨seconds, isInt⟩⟩

end Route

namespace RouteStop

/-- The stops of a version are inserted together, no place and no stop twice. -/
theorem createMany_succeeds {rows : List RouteStop} {input : Input} {db : Db} {answer : Unit}
    {writes : List Write} :
    (createMany rows).Succeeds input db answer writes ↔
      input.fault = none ∧ ((rows.map fun row => (row.routeId, row.sequence)).Nodup) ∧
        ((rows.map fun row => (row.routeId, row.deliveryStopId)).Nodup) ∧
        (∀ row ∈ rows, ∀ other ∈ db.routeStops, other.routeId = row.routeId →
          other.sequence ≠ row.sequence ∧ other.deliveryStopId ≠ row.deliveryStopId) ∧
        writes = [.createRouteStops rows] := by
  simp only [createMany, query_succeeds, except_bind_ok, check_ok, exists_const, Except.ok.injEq,
    Prod.mk.injEq, true_and, eq_comm (a := writes)]

end RouteStop

namespace Conversation

/-- The conversation of the id, if there is one. -/
theorem findUnique_succeeds {id : Uuid} {input : Input} {db : Db} {found : Option Armada.Conversation}
    {writes : List Write} :
    (findUnique id).Succeeds input db found writes ↔
      input.fault = none ∧ db.conversations.find? id = found ∧ writes = [] := by
  simp [findUnique, select_succeeds]

end Conversation

namespace Device

/-- The device of the id, if there is one. -/
theorem findUnique_succeeds {id : Uuid} {input : Input} {db : Db} {found : Option Armada.Device}
    {writes : List Write} :
    (findUnique id).Succeeds input db found writes ↔
      input.fault = none ∧ db.devices.find? id = found ∧ writes = [] := by
  simp [findUnique, select_succeeds]

end Device

namespace Message

/-- A new message gets a fresh id. -/
theorem create_succeeds {conversationId senderUserId senderDeviceId recipientDeviceId : Uuid}
    {protocolVersion : Nat} {ciphertextBlob : String} {headerJson : List (String × JsValue)}
    {input : Input} {db : Db} {row : Armada.Message} {writes : List Write}
    (executed : (create conversationId senderUserId senderDeviceId recipientDeviceId
      protocolVersion ciphertextBlob headerJson).Succeeds input db row writes) :
    row.id = input.uuid ∧ row.conversationId = conversationId ∧
      db.messages.find? row.id = none ∧ writes = [.createMessage row] := by
  simp only [create, query_succeeds, except_bind_ok, check_ok, exists_const, Except.ok.injEq,
    Prod.mk.injEq] at executed
  obtain ⟨_, fresh, rfl, rfl⟩ := executed
  exact ⟨rfl, rfl, fresh, rfl⟩

/-- Its sender and its devices are the ones given. -/
theorem create_addresses {conversationId senderUserId senderDeviceId recipientDeviceId : Uuid}
    {protocolVersion : Nat} {ciphertextBlob : String} {headerJson : List (String × JsValue)}
    {input : Input} {db : Db} {row : Armada.Message} {writes : List Write}
    (executed : (create conversationId senderUserId senderDeviceId recipientDeviceId
      protocolVersion ciphertextBlob headerJson).Succeeds input db row writes) :
    row.senderUserId = senderUserId ∧ row.senderDeviceId = senderDeviceId ∧
      row.recipientDeviceId = recipientDeviceId := by
  simp only [create, query_succeeds, except_bind_ok, check_ok, exists_const, Except.ok.injEq,
    Prod.mk.injEq] at executed
  obtain ⟨_, _, rfl, _⟩ := executed
  exact ⟨rfl, rfl, rfl⟩

end Message

end Prisma

/-- The count is the counter's, or 1 where Redis fails. -/
theorem RedisService.incrRateLimit_succeeds {key : String} {windowSeconds : Nat} {input : Input}
    {db : Db} {count : Nat} {writes : List Write} :
    (RedisService.incrRateLimit key windowSeconds).Succeeds input db count writes ↔
      count = input.rateCount ∧ writes = [] := by
  simp [RedisService.incrRateLimit, Statement.Succeeds, eq_comm]

/-- An emission writes one entry for each room. -/
theorem RealtimeGateway.emit_succeeds {rooms : List Room} {payload : RealtimePayload}
    {actor : RealtimeActor} {input : Input} {db : Db} {answer : Unit} {writes : List Write} :
    (RealtimeGateway.emit rooms payload actor).Succeeds input db answer writes ↔
      writes = rooms.map fun room => .emit { room, payload, actor } := by
  simp [RealtimeGateway.emit, Statement.Succeeds, eq_comm]

end Armada
