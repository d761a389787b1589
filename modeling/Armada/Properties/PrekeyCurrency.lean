import Armada.Concurrency.Ledger
import Armada.Properties.PrekeySingleUse

/-!
# Prekeys and the keys they were published with

An upload leaves out the numbers that are taken, and a device may register another identity
key while prekeys of the former one are still unused. Requests run one after another here.
As long as every batch fits the store and no identity key is replaced over unused prekeys,
a bundle carries what was uploaded last, under the identity key it belongs to, and an upload
counts what it has stored.
-/

namespace Armada.E2eeKeys

open Relational Concurrency

namespace Db

/-- The device is registered for the user. -/
def Owns (db : Db) (deviceId actorUserId : Uuid) : Prop :=
  ∃ device, db.device? deviceId = some device ∧ device.userId = actorUserId

/-- The public key stored under a number. -/
def publicKey? (db : Db) (deviceId : Uuid) (keyId : Int) : Option String :=
  (db.prekey? deviceId keyId).map Prekey.publicKey

/-- The identity key of a device. -/
def identityKey? (db : Db) (deviceId : Uuid) : Option String :=
  (db.deviceKey? deviceId).map DeviceKey.identityKeyPublic

/-- A prekey is stored as it was sent, and unused. -/
def holds (db : Db) (deviceId : Uuid) (item : OneTimePrekey) : Bool :=
  (db.prekey? deviceId item.keyId).any fun row =>
    row.isConsumed = false ∧ row.publicKey = item.publicKey

/-- A prekey is held when an unconsumed row has its number and its public key. -/
theorem holds_iff {db : Db} {deviceId : Uuid} {item : OneTimePrekey} :
    db.holds deviceId item = true ↔ ∃ row, db.prekey? deviceId item.keyId = some row ∧
      row.isConsumed = false ∧ row.publicKey = item.publicKey := by
  simp [holds, Option.any_eq_true]

end Db

/-- No call fails of its own. -/
def Unfailing (input : Input) : Prop := input.fault = none

/-! ## What a request does -/

/-- What a request on a store returns, and what it leaves. -/
inductive Move [Auth.UuidSpelling] (db : Db) : Request → Except Failure Answer → Db → Prop where
  | refused {request : Request} {error : Failure} : Move db request (.error error) db
  | registered {dto : RegisterDeviceKeysDto} {actorUserId deviceId : Uuid}
      {result : Except Failure Answer} {after : Db}
      (device : (JsValue.string dto.deviceId).toUuid = .ok deviceId)
      (owns : db.Owns deviceId actorUserId)
      (identity : ∀ other, after.identityKey? other =
        if other = deviceId then some dto.identityKeyPublic else db.identityKey? other)
      (prekeys : after.prekeys = db.prekeys)
      (answers : ∀ uploaded, result ≠ .ok (.uploaded uploaded)) :
      Move db (.registerDeviceKeys dto actorUserId) result after
  | uploaded {dto : UploadPrekeysDto} {actorUserId deviceId : Uuid} {uploaded : UploadedPrekeys}
      {after : Db} (device : (JsValue.string dto.deviceId).toUuid = .ok deviceId)
      (owns : db.Owns deviceId actorUserId)
      (prekeys : after.prekeys =
        db.prekeys.insertAll (E2eeKeysService.prekeyRows dto.prekeys deviceId))
      (deviceKeys : after.deviceKeys = db.deviceKeys)
      (count : uploaded.uploadedCount = dto.prekeys.length) :
      Move db (.uploadPrekeys dto actorUserId) (.ok (.uploaded uploaded)) after
  | consumed {target : String} {deviceId : Uuid} {result : Except Failure Answer} {after : Db}
      (device : (JsValue.string target).toUuid = .ok deviceId)
      (prekeys : ∃ now, after.prekeys = ((db.nextPrekey? deviceId).map fun row =>
        db.prekeys.modify (deviceId, row.keyId) (Prekey.consume now)).getD db.prekeys)
      (deviceKeys : after.deviceKeys = db.deviceKeys)
      (answers : ∀ answer, result = .ok answer → ∃ bundle, answer = .bundle bundle ∧
        bundle.oneTimePrekey = E2eeKeysService.oneTimePrekey (db.nextPrekey? deviceId)) :
      Move db (.consumePrekeyBundle target) result after

section Services

variable [Auth.UuidSpelling] {db : Db} {supplied : Input → Prop}

/-- What is run on an own device. -/
theorem ownDevice_next {α : Type} {deviceId : String} {actorUserId : Uuid}
    {next : Device → Proc keys α} {post : Except Failure α → List Write → Prop}
    (refused : ∀ error, post (.error error) [])
    (owned : ∀ id device, (JsValue.string deviceId).toUuid = .ok id → db.Owns id actorUserId →
      (next device).Meets (.ledger supplied db) post []) :
    (E2eeKeysService.ownDevice deviceId actorUserId >>= next).Meets (.ledger supplied db) post
      [] := by
  rw [E2eeKeysService.ownDevice, Proc.meets_bind]
  refine Ledger.next (fun _ error _ _ => refused error) fun input found writes _ executed => ?_
  obtain ⟨_, id, spelled, rfl, rfl⟩ := select_succeeds.mp executed
  refine Proc.Meets.require (fun _ => refused _) fun device found => ?_
  refine Proc.Meets.rejectIf (fun _ => refused _) fun own => ?_
  exact owned id device spelled ⟨device, found, not_not.mp own⟩

omit [Auth.UuidSpelling] in
/-- The identity keys that an upsert leaves. -/
theorem upsert_leaves {id : Except PrismaError Uuid}
    {identityKeyPublic signedPrekeyPublic signedPrekeySig : String} {input : Input}
    {row : DeviceKey} {writes : List Write} {deviceId : Uuid} (spelled : id = .ok deviceId)
    (executed : (Prisma.DeviceKey.upsert id identityKeyPublic signedPrekeyPublic
      signedPrekeySig).Succeeds input db row writes) :
    (∀ other, Db.identityKey? (keys.applyAll writes db) other =
      if other = deviceId then some identityKeyPublic else db.identityKey? other) ∧
    (keys.applyAll writes db : Db).prekeys = db.prekeys := by
  obtain ⟨named, same, upserted⟩ := Prisma.DeviceKey.upsert_succeeds executed
  obtain rfl := Except.ok.inj (spelled.symm.trans same)
  rcases upserted with ⟨old, found, rfl⟩ | ⟨missing, rfl, rfl, rfl⟩
  · refine ⟨fun other => ?_, rfl⟩
    change Option.map _ ((db.deviceKeys.modify deviceId _).find? other) = _
    rw [Table.find?_modify db.deviceKeys deviceId other (DeviceKey.key_set _ _ _)]
    split
    · rename_i isDevice
      rw [isDevice, show db.deviceKeys.find? deviceId = some old from found]
      rfl
    · rfl
  · refine ⟨fun other => ?_, rfl⟩
    change Option.map _ ((db.deviceKeys.insert row).find? other) = _
    rw [Table.find?_insert, show Keyed.key row = row.deviceId from rfl]
    by_cases isDevice : other = row.deviceId
    · rw [if_pos isDevice, isDevice, show db.deviceKeys.find? row.deviceId = none from missing,
        Option.none_or, if_pos rfl]
      rfl
    · rw [if_neg isDevice, if_neg (Ne.symm isDevice), Option.or_none]
      rfl

/-- A registration is a move of the store. -/
theorem registerDeviceKeys_moves (dto : RegisterDeviceKeysDto) (actorUserId : Uuid) :
    (Request.proc (.registerDeviceKeys dto actorUserId)).Meets (.ledger supplied db)
      (fun result writes =>
        Move db (.registerDeviceKeys dto actorUserId) result (keys.applyAll writes db)) [] := by
  refine (Proc.meets_map _ _ _).mpr ?_
  rw [E2eeKeysService.registerDeviceKeys]
  refine ownDevice_next (fun _ => .refused) fun deviceId device spelled owns => ?_
  refine Ledger.next (fun _ _ _ _ => .refused) fun input row writes _ executed => ?_
  obtain ⟨identity, prekeys⟩ := upsert_leaves spelled executed
  refine Ledger.next (fun _ error _ _ => ?_) fun input answer audit _ audited => ?_
  · exact .registered spelled owns identity prekeys (by rintro _ ⟨⟩)
  · obtain ⟨_, made⟩ := query_succeeds.mp audited
    obtain ⟨_, rfl⟩ := Prod.mk.inj (Except.ok.inj made)
    refine .registered spelled owns (fun other => ?_) ?_ (by rintro _ ⟨⟩)
    · rw [List.nil_append, keys.applyAll_append]
      exact identity other
    · rw [List.nil_append, keys.applyAll_append]
      exact prekeys

omit [Auth.UuidSpelling] in
/-- What a claim leaves. -/
theorem claim_leaves (deviceId : Uuid) (claimed : Option Prekey) (now : Int) (db : Db) :
    let after : Db := keys.applyAll
      (claimed.map fun row => .consumePrekey deviceId row.keyId now).toList db
    after.prekeys = (claimed.map fun row =>
      db.prekeys.modify (deviceId, row.keyId) (Prekey.consume now)).getD db.prekeys ∧
    after.deviceKeys = db.deviceKeys := by
  cases claimed with
  | none => exact ⟨rfl, rfl⟩
  | some row => exact ⟨rfl, rfl⟩

/-- So is a consumption. -/
theorem consumePrekeyBundle_moves (target : String) :
    (Request.proc (.consumePrekeyBundle target)).Meets (.ledger supplied db)
      (fun result writes =>
        Move db (.consumePrekeyBundle target) result (keys.applyAll writes db)) [] := by
  refine (Proc.meets_map _ _ _).mpr ?_
  rw [E2eeKeysService.consumePrekeyBundle]
  refine Ledger.next (fun _ _ _ _ => .refused) fun input found writes _ executed => ?_
  obtain ⟨_, deviceId, spelled, rfl, rfl⟩ := select_succeeds.mp executed
  refine Proc.Meets.require (fun _ => .refused) fun deviceKey _ => ?_
  refine Ledger.next (fun _ _ _ _ => .refused) fun input claimed writes _ executed => ?_
  obtain ⟨_, id, same, rfl, rfl⟩ := Prisma.Prekey.claim_succeeds.mp executed
  obtain rfl := Except.ok.inj (spelled.symm.trans same)
  obtain ⟨prekeys, deviceKeys⟩ :=
    claim_leaves deviceId (db.nextPrekey? deviceId) input.now db
  refine Ledger.next (fun _ error _ _ => ?_) fun count remaining writes _ counted => ?_
  · exact .consumed spelled ⟨input.now, prekeys⟩ deviceKeys (by rintro _ ⟨⟩)
  · obtain ⟨_, _, _, _, rfl⟩ := select_succeeds.mp counted
    simp only [List.nil_append, List.append_nil, keys.applyAll_nil]
    refine .consumed spelled ⟨input.now, prekeys⟩ deviceKeys ?_
    rintro _ ⟨⟩
    exact ⟨_, rfl, rfl⟩

/-- An upload none of whose calls fails of its own. -/
theorem uploadPrekeys_moves (dto : UploadPrekeysDto) (actorUserId : Uuid) :
    (Request.proc (.uploadPrekeys dto actorUserId)).Meets
      (.ledger Unfailing db)
      (fun result writes =>
        Move db (.uploadPrekeys dto actorUserId) result (keys.applyAll writes db)) [] := by
  refine (Proc.meets_map _ _ _).mpr ?_
  rw [E2eeKeysService.uploadPrekeys]
  refine ownDevice_next (fun _ => .refused) fun deviceId device spelled owns => ?_
  refine Ledger.next (fun _ _ _ _ => .refused) fun input row writes _ executed => ?_
  obtain ⟨_, id, same, _, _, rfl⟩ := Prisma.Prekey.createMany_succeeds.mp executed
  obtain rfl := Except.ok.inj (spelled.symm.trans same)
  refine Ledger.next (fun input error given failed => ?_) fun input total writes _ counted => ?_
  · rw [Unfailing] at given
    simp [Prisma.Prekey.count, select, query, given, spelled, Except.mapError, Except.map] at failed
  obtain ⟨_, _, _, _, rfl⟩ := select_succeeds.mp counted
  refine Ledger.next (fun input error given failed => ?_) fun input answer audit _ audited => ?_
  · rw [Unfailing] at given
    simp [Prisma.AuditLog.create, query, given] at failed
  obtain ⟨_, made⟩ := query_succeeds.mp audited
  obtain ⟨_, rfl⟩ := Prod.mk.inj (Except.ok.inj made)
  exact .uploaded spelled owns rfl rfl rfl

end Services

/-! ## Batches -/

/-- A batch repeats a stored number only with the public key that is stored there, unused,
and a number of its own only with the same public key. -/
def Fits (db : Db) (deviceId : Uuid) (prekeys : List OneTimePrekey) : Prop :=
  ∀ item ∈ prekeys,
    (∀ row, db.prekey? deviceId item.keyId = some row →
      row.isConsumed = false ∧ row.publicKey = item.publicKey) ∧
    ∀ other ∈ prekeys, other.keyId = item.keyId → other.publicKey = item.publicKey

section Batches

variable {db after : Db} {deviceId : Uuid} {prekeys : List OneTimePrekey}

/-- The first item of a batch with a number. -/
def itemOf? (prekeys : List OneTimePrekey) (keyId : Int) : Option OneTimePrekey :=
  prekeys.find? fun item => item.keyId = keyId

/-- The item that is found has the number. -/
theorem itemOf?_spec {keyId : Int} {item : OneTimePrekey}
    (found : itemOf? prekeys keyId = some item) : item ∈ prekeys ∧ item.keyId = keyId :=
  ⟨List.mem_of_find?_eq_some found, by simpa using List.find?_some found⟩

/-- For every item of the list one is found. -/
theorem exists_itemOf? {item : OneTimePrekey} (member : item ∈ prekeys) :
    ∃ first, itemOf? prekeys item.keyId = some first := by
  rw [← Option.isSome_iff_exists, itemOf?, List.find?_isSome]
  exact ⟨item, member, decide_eq_true rfl⟩

/-- What is stored under a number after an upload. -/
theorem prekey?_upload
    (stored : after.prekeys = db.prekeys.insertAll (E2eeKeysService.prekeyRows prekeys deviceId))
    (other : Uuid) (keyId : Int) :
    after.prekey? other keyId = (db.prekey? other keyId).or
      (if other = deviceId then (itemOf? prekeys keyId).map fun item =>
        { deviceId, keyId := item.keyId, publicKey := item.publicKey } else none) := by
  rw [Db.prekey?, stored, Table.find?_insertAll, Db.prekey?]
  congr 1
  rw [E2eeKeysService.prekeyRows, List.find?_map]
  split
  · rename_i same
    subst same
    rw [itemOf?]
    congr 2
    funext item
    exact decide_eq_decide.mpr ⟨fun both => congrArg Prod.snd both, fun both =>
      congrArg (Prod.mk other) both⟩
  · rename_i different
    rw [Option.map_eq_none_iff, List.find?_eq_none]
    intro item _ both
    exact different (congrArg Prod.fst (of_decide_eq_true both)).symm

/-- An upload counts what it stores exactly if its batch fits. -/
theorem count_holds_iff
    (stored : after.prekeys = db.prekeys.insertAll (E2eeKeysService.prekeyRows prekeys deviceId)) :
    prekeys.length = prekeys.countP (after.holds deviceId) ↔ Fits db deviceId prekeys := by
  rw [eq_comm, List.countP_eq_length]
  constructor
  · intro all item member
    obtain ⟨row, found, unused, same⟩ := Db.holds_iff.mp (all item member)
    refine ⟨fun old present => ?_, fun other otherMember alike => ?_⟩
    · rw [prekey?_upload stored, present, Option.some_or] at found
      obtain rfl := Option.some.inj found
      exact ⟨unused, same⟩
    · obtain ⟨otherRow, otherFound, _, otherSame⟩ := Db.holds_iff.mp (all other otherMember)
      rw [alike] at otherFound
      obtain rfl := Option.some.inj (found.symm.trans otherFound)
      exact otherSame.symm.trans same
  · intro fits item member
    obtain ⟨old, alike⟩ := fits item member
    rw [Db.holds_iff, prekey?_upload stored, if_pos rfl]
    cases present : db.prekey? deviceId item.keyId with
    | some row => exact ⟨row, Option.some_or, old row present⟩
    | none =>
        obtain ⟨first, found⟩ := exists_itemOf? member
        obtain ⟨firstMember, same⟩ := itemOf?_spec found
        rw [found, Option.none_or]
        exact ⟨_, rfl, rfl, alike first firstMember same⟩

end Batches

/-! ## Runs -/

/-- The last element of a kind. -/
theorem exists_last {ι : Type} {items : List ι} {kind : ι → Prop}
    (some : ∃ item ∈ items, kind item) :
    ∃ earlier last later, items = earlier ++ last :: later ∧ kind last ∧
      ∀ item ∈ later, ¬kind item := by
  induction items using List.reverseRecOn with
  | nil =>
      obtain ⟨item, member, _⟩ := some
      cases member
  | append_singleton items final inductionHypothesis =>
      by_cases isKind : kind final
      · exact ⟨items, final, [], rfl, isKind, fun _ member => absurd member List.not_mem_nil⟩
      · obtain ⟨item, member, itemKind⟩ := some
        have before : item ∈ items := by
          rcases List.mem_append.mp member with earlier | isFinal
          · exact earlier
          · exact absurd (List.mem_singleton.mp isFinal ▸ itemKind) isKind
        obtain ⟨earlier, last, later, rfl, lastKind, none⟩ :=
          inductionHypothesis ⟨item, before, itemKind⟩
        refine ⟨earlier, last, later ++ [final], by simp, lastKind, ?_⟩
        exact List.forall_mem_append.mpr ⟨none, List.forall_mem_singleton.mpr isKind⟩

section Runs

variable [Auth.UuidSpelling]

/-- A request that has returned gave the prekey of a device. -/
def Request.Gives (request : Request) (result : Except Failure Answer) (deviceId : Uuid)
    (item : OneTimePrekey) : Prop :=
  ∃ dto actorUserId uploaded, request = .uploadPrekeys dto actorUserId ∧
    result = .ok (.uploaded uploaded) ∧ (JsValue.string dto.deviceId).toUuid = .ok deviceId ∧
      item ∈ dto.prekeys

/-- It gave some prekey under the number. -/
def GivesUnder (deviceId : Uuid) (keyId : Int) (entry : Entry Request Answer keys) : Prop :=
  ∃ publicKey, entry.call.Gives entry.result deviceId ⟨keyId, publicKey⟩

/-- The identity key of a device is replaced by another. -/
def Rekeys (before after : Db) (deviceId : Uuid) : Prop :=
  ∃ old new, before.identityKey? deviceId = some old ∧
    after.identityKey? deviceId = some new ∧ new ≠ old

/-- The store after some requests. -/
def storeAfter (start : Db) (entries : List (Entry Request Answer keys)) : Db :=
  keys.applyAll (journal entries) start

/-- The request has returned a bundle of the device with the prekey. -/
def Carries (deviceId : Uuid) (item : OneTimePrekey) (entry : Entry Request Answer keys) : Prop :=
  ∃ target bundle, entry.call = .consumePrekeyBundle target ∧
    (JsValue.string target).toUuid = .ok deviceId ∧ entry.result = .ok (.bundle bundle) ∧
      bundle.oneTimePrekey = some item

/-- What is handed out belongs to the present keys of the device. -/
structure Current (start : Db) (entries : List (Entry Request Answer keys)) : Prop where
  /-- A returned prekey is as the latest upload of its number gave it. -/
  latest : ∀ first entry rest, entries = first ++ entry :: rest →
    ∀ deviceId item, Carries deviceId item entry →
      ∃ earlier upload later, first = earlier ++ upload :: later ∧
        upload.call.Gives upload.result deviceId item ∧
        (∀ other, upload.call.Gives upload.result deviceId ⟨item.keyId, other⟩ →
          other = item.publicKey) ∧
        ∀ next ∈ later, ¬GivesUnder deviceId item.keyId next
  /-- It was not there yet when the identity key was replaced. -/
  identity : ∀ first entry rest, entries = first ++ entry :: rest →
    ∀ deviceId item, Carries deviceId item entry →
      ∀ earlier change later, first = earlier ++ change :: later →
        Rekeys (storeAfter start earlier) (storeAfter start (earlier ++ [change])) deviceId →
          (storeAfter start earlier).prekey? deviceId item.keyId = none
  /-- An upload counts those of its batch that are stored as they were sent, and unused. -/
  counted : ∀ first entry rest, entries = first ++ entry :: rest →
    ∀ dto actorUserId deviceId uploaded, entry.call = .uploadPrekeys dto actorUserId →
      (JsValue.string dto.deviceId).toUuid = .ok deviceId →
        entry.result = .ok (.uploaded uploaded) →
          uploaded.uploadedCount =
            dto.prekeys.countP ((storeAfter start (first ++ [entry])).holds deviceId)

/-- When the owner of a device may make a request: an upload fits, and an identity key is
not replaced while there are unused prekeys. -/
def Request.Sound (db : Db) : Request → Prop
  | .registerDeviceKeys dto actorUserId => ∀ deviceId old,
      (JsValue.string dto.deviceId).toUuid = .ok deviceId → db.Owns deviceId actorUserId →
        db.identityKey? deviceId = some old → old ≠ dto.identityKeyPublic →
          db.available deviceId = []
  | .uploadPrekeys dto actorUserId => ∀ deviceId,
      (JsValue.string dto.deviceId).toUuid = .ok deviceId → db.Owns deviceId actorUserId →
        Fits db deviceId dto.prekeys
  | .consumePrekeyBundle _ => True

/-- If it is an upload, then none of its calls fails of its own. -/
def Undisturbed (db : Db) (entry : Entry Request Answer keys) : Prop :=
  ∀ dto actorUserId, entry.call = .uploadPrekeys dto actorUserId →
    (Request.proc entry.call).Wrote Unfailing db entry.result entry.writes

/-- Every request of a run is made when it may be made. -/
def Considerate (start : Db) (entries : List (Entry Request Answer keys)) : Prop :=
  ∀ first entry rest, entries = first ++ entry :: rest →
    entry.call.Sound (storeAfter start first) ∧ Undisturbed (storeAfter start first) entry

variable {db after : Db} {request : Request} {result : Except Failure Answer}

/-- An undisturbed request is a move. -/
theorem move_of_wrote {entry : Entry Request Answer keys}
    (wrote : (Request.proc entry.call).Wrote (fun _ => True) db entry.result entry.writes)
    (undisturbed : Undisturbed db entry) :
    Move db entry.call entry.result (keys.applyAll entry.writes db) := by
  obtain ⟨call, result, writes⟩ := entry
  cases call with
  | registerDeviceKeys dto actorUserId =>
      exact Ledger.of_wrote (registerDeviceKeys_moves dto actorUserId) wrote
  | uploadPrekeys dto actorUserId =>
      exact Ledger.of_wrote (uploadPrekeys_moves dto actorUserId) (undisturbed dto actorUserId rfl)
  | consumePrekeyBundle target =>
      exact Ledger.of_wrote (consumePrekeyBundle_moves target) wrote

omit [Auth.UuidSpelling] in
/-- The public key of a number is that of its row. -/
theorem publicKey?_eq_some {deviceId : Uuid} {keyId : Int} {publicKey : String} :
    db.publicKey? deviceId keyId = some publicKey ↔
      ∃ row, db.prekey? deviceId keyId = some row ∧ row.publicKey = publicKey :=
  Option.map_eq_some_iff

omit [Auth.UuidSpelling] in
/-- A consumption leaves the public keys. -/
theorem publicKey?_consume (db : Db) (deviceId other : Uuid) (keyId otherKey now : Int) :
    (Write.apply (.consumePrekey other otherKey now) db).publicKey? deviceId keyId =
      db.publicKey? deviceId keyId := by
  rw [Db.publicKey?, prekey?_consume, Db.publicKey?]
  split
  · rw [Option.map_map]
    rfl
  · rfl

omit [Auth.UuidSpelling] in
/-- The row of a number depends on the prekeys alone. -/
theorem prekey?_congr {other : Db} (same : after.prekeys = other.prekeys) (deviceId : Uuid)
    (keyId : Int) : after.prekey? deviceId keyId = other.prekey? deviceId keyId := by
  rw [Db.prekey?, Db.prekey?, same]

omit [Auth.UuidSpelling] in
/-- A claim leaves the public keys. -/
theorem publicKey?_claim {claimed : Option Prekey} {device : Uuid} {now : Int}
    (stored : after.prekeys = (claimed.map fun row =>
      db.prekeys.modify (device, row.keyId) (Prekey.consume now)).getD db.prekeys)
    (deviceId : Uuid) (keyId : Int) :
    after.publicKey? deviceId keyId = db.publicKey? deviceId keyId := by
  cases claimed with
  | none => rw [Db.publicKey?, prekey?_congr stored, Db.publicKey?]
  | some row =>
      have same : after.prekeys = (Write.apply (.consumePrekey device row.keyId now) db).prekeys :=
        stored
      rw [← publicKey?_consume db deviceId device keyId row.keyId now, Db.publicKey?,
        prekey?_congr same, Db.publicKey?]

/-- The public keys that a request leaves are those it found and those it gave. -/
theorem Move.publicKey? (move : Move db request result after) (sound : request.Sound db)
    (deviceId : Uuid) (keyId : Int) (publicKey : String) :
    after.publicKey? deviceId keyId = some publicKey ↔
      db.publicKey? deviceId keyId = some publicKey ∨
        request.Gives result deviceId ⟨keyId, publicKey⟩ := by
  cases move with
  | refused =>
      refine ⟨.inl, ?_⟩
      rintro (old | ⟨_, _, _, _, impossible, _⟩)
      · exact old
      · cases impossible
  | registered device owns identity prekeys answers =>
      rw [Db.publicKey?, Db.prekey?, prekeys]
      refine ⟨.inl, ?_⟩
      rintro (old | ⟨_, _, _, impossible, _⟩)
      · exact old
      · cases impossible
  | consumed device prekeys deviceKeys answers =>
      obtain ⟨now, prekeys⟩ := prekeys
      rw [publicKey?_claim prekeys]
      refine ⟨.inl, ?_⟩
      rintro (old | ⟨_, _, _, impossible, _⟩)
      · exact old
      · cases impossible
  | @uploaded dto actorUserId device uploaded _ spelled owns prekeys deviceKeys count =>
      have fits := sound device spelled owns
      rw [publicKey?_eq_some, publicKey?_eq_some, prekey?_upload prekeys]
      constructor
      · rintro ⟨row, found, rfl⟩
        cases present : db.prekey? deviceId keyId with
        | some old =>
            rw [present, Option.some_or] at found
            exact .inl ⟨old, rfl, congrArg Prekey.publicKey (Option.some.inj found)⟩
        | none =>
            rw [present, Option.none_or] at found
            split at found
            · rename_i same
              subst same
              obtain ⟨item, first, rfl⟩ := Option.map_eq_some_iff.mp found
              obtain ⟨member, rfl⟩ := itemOf?_spec first
              exact .inr ⟨dto, actorUserId, uploaded, rfl, rfl, spelled, member⟩
            · cases found
      · rintro (⟨row, found, rfl⟩ | ⟨_, _, _, ⟨⟩, _, same, member⟩)
        · exact ⟨row, by rw [found, Option.some_or], rfl⟩
        · obtain rfl := Except.ok.inj (spelled.symm.trans same)
          obtain ⟨old, alike⟩ := fits _ member
          cases present : db.prekey? device keyId with
          | some row => exact ⟨row, Option.some_or, (old row present).2⟩
          | none =>
              obtain ⟨first, found⟩ := exists_itemOf? member
              obtain ⟨firstMember, isFirst⟩ := itemOf?_spec found
              rw [Option.none_or, if_pos rfl, found]
              exact ⟨_, rfl, alike first firstMember isFirst⟩

/-- A request that replaces the identity key of a device finds no unused prekey there. -/
theorem Move.spent_of_rekeys (move : Move db request result after) (sound : request.Sound db)
    {deviceId : Uuid} (rekeys : Rekeys db after deviceId) {keyId : Int}
    (present : db.prekey? deviceId keyId ≠ none) : db.Spent deviceId keyId := by
  obtain ⟨old, new, before, later, different⟩ := rekeys
  have unchanged : after.deviceKeys = db.deviceKeys → db.Spent deviceId keyId := by
    intro same
    rw [Db.identityKey?, Db.deviceKey?, same] at later
    exact absurd (Option.some.inj (later.symm.trans before)) different
  cases move with
  | refused => exact unchanged rfl
  | consumed _ _ deviceKeys _ => exact unchanged deviceKeys
  | uploaded _ _ _ deviceKeys _ => exact unchanged deviceKeys
  | @registered dto actorUserId named _ _ spelled owns identity prekeys answers =>
      rw [identity] at later
      split at later
      · rename_i same
        subst same
        obtain rfl := Option.some.inj later
        have none := sound deviceId old spelled owns before (Ne.symm different)
        obtain ⟨row, found⟩ := Option.ne_none_iff_exists'.mp present
        obtain rfl := Db.keyId_of_prekey? found
        refine ⟨row, found, ?_⟩
        by_contra unused
        have member : row ∈ db.available deviceId :=
          Db.mem_available.mpr ⟨found, eq_false_of_ne_true unused⟩
        rw [none] at member
        cases member
      · exact absurd (Option.some.inj (later.symm.trans before)) different

/-- What holds after a list of considerate requests. -/
structure Kept (start : Db) (entries : List (Entry Request Answer keys)) : Prop where
  given : ∀ deviceId keyId publicKey,
    (storeAfter start entries).publicKey? deviceId keyId = some publicKey ↔
      ∃ upload ∈ entries, upload.call.Gives upload.result deviceId ⟨keyId, publicKey⟩
  barred : ∀ earlier change later, entries = earlier ++ change :: later → ∀ deviceId,
    Rekeys (storeAfter start earlier) (storeAfter start (earlier ++ [change])) deviceId →
      ∀ keyId, (storeAfter start earlier).prekey? deviceId keyId ≠ none →
        (storeAfter start entries).Spent deviceId keyId

omit [Auth.UuidSpelling] in
/-- The store after one more request. -/
theorem storeAfter_snoc (start : Db) (entries : List (Entry Request Answer keys))
    (entry : Entry Request Answer keys) : storeAfter start (entries ++ [entry]) =
      keys.applyAll entry.writes (storeAfter start entries) := by
  rw [storeAfter, journal_append, journal_singleton, keys.applyAll_append, storeAfter]

/-- What is kept is kept by one more move. -/
theorem Kept.snoc {start : Db} {entries : List (Entry Request Answer keys)}
    {entry : Entry Request Answer keys} (kept : Kept start entries)
    (move : Move (storeAfter start entries) entry.call entry.result
      (storeAfter start (entries ++ [entry])))
    (sound : entry.call.Sound (storeAfter start entries)) : Kept start (entries ++ [entry]) where
  given := by
    intro deviceId keyId publicKey
    rw [move.publicKey? sound, kept.given]
    simp only [List.mem_append, List.mem_singleton, or_and_right, exists_or, exists_eq_left]
  barred := by
    intro earlier change later split deviceId rekeys keyId present
    have lasts : (storeAfter start entries).Spent deviceId keyId →
        (storeAfter start (entries ++ [entry])).Spent deviceId keyId := by
      intro spent
      rw [storeAfter_snoc]
      exact spent_applyAll entry.writes spent
    induction later using List.reverseRecOn with
    | nil =>
        obtain ⟨rfl, same⟩ := List.append_inj' split rfl
        obtain rfl := (List.cons.inj same).1
        exact lasts (move.spent_of_rekeys sound rekeys present)
    | append_singleton later last _ =>
        rw [← List.cons_append, ← List.append_assoc] at split
        exact lasts (kept.barred earlier change later (List.append_inj' split rfl).1 deviceId
          rekeys keyId present)

variable {start : Db} {entries first rest : List (Entry Request Answer keys)}
  {entry : Entry Request Answer keys} {deviceId : Uuid}

/-- Each request of a considerate session is a move. -/
theorem Considerate.move (considerate : Considerate start entries)
    (session : Session (fun _ => True) Request.proc start entries)
    (split : entries = first ++ entry :: rest) :
    Move (storeAfter start first) entry.call entry.result
      (storeAfter start (first ++ [entry])) := by
  rw [storeAfter_snoc]
  exact move_of_wrote (session.wrote split) (considerate first entry rest split).2

/-- So the session is kept at each of its requests. -/
theorem Considerate.kept (considerate : Considerate start entries)
    (session : Session (fun _ => True) Request.proc start entries)
    (fresh : start.prekeys = .empty) (split : entries = first ++ rest) : Kept start first := by
  refine session.along (Kept start) ⟨fun deviceId keyId publicKey => ?_, ?_⟩ ?_ first rest split
  · have empty : (storeAfter start []).publicKey? deviceId keyId = none := by
      rw [Db.publicKey?, prekey?_congr (show (storeAfter start []).prekeys = start.prekeys from rfl),
        Db.prekey?, fresh]
      rfl
    simp [empty]
  · intro earlier change later split
    simp at split
  · intro first entry rest split _ before
    exact before.snoc (considerate.move session split) (considerate first entry rest split).1

/-- What a bundle carries is the next prekey of the store that it was taken from. -/
theorem Carries.available {item : OneTimePrekey} (carries : Carries deviceId item entry)
    (considerate : Considerate start entries)
    (session : Session (fun _ => True) Request.proc start entries)
    (split : entries = first ++ entry :: rest) :
    ∃ row ∈ (storeAfter start first).available deviceId, item = ⟨row.keyId, row.publicKey⟩ := by
  obtain ⟨target, bundle, called, spelled, returned, carried⟩ := carries
  have move := considerate.move session split
  rw [called, returned] at move
  cases move with
  | consumed same _ _ answers =>
      obtain rfl := Except.ok.inj (spelled.symm.trans same)
      obtain ⟨_, ⟨⟩, given⟩ := answers _ rfl
      rw [carried] at given
      obtain ⟨row, found, rfl⟩ := Option.map_eq_some_iff.mp given.symm
      exact ⟨row, (Db.nextPrekey?_spec found).1, rfl⟩

/-- An unused prekey is as the latest upload of its number gave it. -/
theorem Kept.latest (kept : Kept start entries) {row : Prekey}
    (member : row ∈ (storeAfter start entries).available deviceId) :
    ∃ earlier upload later, entries = earlier ++ upload :: later ∧
      upload.call.Gives upload.result deviceId ⟨row.keyId, row.publicKey⟩ ∧
      (∀ other, upload.call.Gives upload.result deviceId ⟨row.keyId, other⟩ →
        other = row.publicKey) ∧
      ∀ next ∈ later, ¬GivesUnder deviceId row.keyId next := by
  have given := kept.given deviceId row.keyId
  have stored : (storeAfter start entries).publicKey? deviceId row.keyId = some row.publicKey :=
    publicKey?_eq_some.mpr ⟨row, (Db.mem_available.mp member).1, rfl⟩
  obtain ⟨upload, among, gives⟩ := (given row.publicKey).mp stored
  have some : ∃ upload ∈ entries, GivesUnder deviceId row.keyId upload :=
    ⟨upload, among, row.publicKey, gives⟩
  obtain ⟨earlier, last, later, rfl, ⟨publicKey, lastGives⟩, none⟩ := exists_last some
  have only : ∀ other, last.call.Gives last.result deviceId ⟨row.keyId, other⟩ →
      other = row.publicKey := by
    intro other otherGives
    have otherStored := (given other).mpr
      ⟨last, List.mem_append_right _ List.mem_cons_self, otherGives⟩
    exact Option.some.inj (otherStored.symm.trans stored)
  exact ⟨earlier, last, later, rfl, only publicKey lastGives ▸ lastGives, only, none⟩

/-- Requests on devices without prekeys, one after another: if each is made when it may be,
what is handed out belongs to the present keys of its device. -/
theorem prekeys_current (fresh : start.prekeys = .empty)
    (session : Session (fun _ => True) Request.proc start entries)
    (considerate : Considerate start entries) : Current start entries where
  latest := by
    intro first entry rest split deviceId item carries
    obtain ⟨row, member, rfl⟩ := carries.available considerate session split
    exact (considerate.kept session fresh split).latest member
  identity := by
    intro first entry rest split deviceId item carries earlier change later parts rekeys
    obtain ⟨row, member, rfl⟩ := carries.available considerate session split
    by_contra present
    have unspent : (storeAfter start first).Unspent deviceId row.keyId :=
      ⟨row, Db.mem_available.mp member⟩
    exact unspent.not_spent ((considerate.kept session fresh split).barred earlier change later
      parts deviceId rekeys row.keyId present)
  counted := by
    intro first entry rest split dto actorUserId deviceId uploaded called spelled returned
    have move := considerate.move session split
    have sound := (considerate first entry rest split).1
    rw [called] at sound
    rw [called, returned] at move
    cases move with
    | uploaded same owns prekeys _ count =>
        obtain rfl := Except.ok.inj (spelled.symm.trans same)
        exact count.trans ((count_holds_iff prekeys).mpr (sound deviceId spelled owns))

/-- The empty session is considerate. -/
theorem considerate_nil : Considerate start [] := by
  intro first entry rest split
  simp at split

/-- A sound and undisturbed request keeps it so. -/
theorem Considerate.snoc (considerate : Considerate start entries)
    (sound : entry.call.Sound (storeAfter start entries))
    (undisturbed : Undisturbed (storeAfter start entries) entry) :
    Considerate start (entries ++ [entry]) := by
  intro first other rest split
  induction rest using List.reverseRecOn with
  | nil =>
      obtain ⟨rfl, same⟩ := List.append_inj' split rfl
      obtain rfl := (List.cons.inj same).1
      exact ⟨sound, undisturbed⟩
  | append_singleton rest last _ =>
      rw [← List.cons_append, ← List.append_assoc] at split
      exact considerate first other rest (List.append_inj' split rfl).1

end Runs

/-! ### A device that is set up again -/

section Example

local instance : Auth.UuidSpelling := Auth.unarySpelling

def tabletDb : Db where
  devices := Table.empty.insert { id := 1, userId := 2 }

def tabletKeys (identityKeyPublic : String) : Request :=
  .registerDeviceKeys
    { deviceId := "11", identityKeyPublic, signedPrekeyPublic := "signed",
      signedPrekeySig := "signature" } 2

def tabletPrekey (publicKey : String) : Request :=
  .uploadPrekeys { deviceId := "11", prekeys := [⟨7, publicKey⟩] } 2

def plainInputs (_ _ : Nat) : keys.Input := {}

/-- The plain inputs carry no fault. -/
theorem plainInputs_unfailing (index : Nat) : Each Unfailing (plainInputs index) := fun _ => rfl

/-- Requests on a day on which no call fails. -/
def tabletRun (requests : List Request) : List (Entry Request Answer keys) :=
  conduct Request.proc plainInputs tabletDb requests

/-- The tablet's requests are a session. -/
theorem session_tabletRun (requests : List Request) :
    Session (fun _ => True) Request.proc tabletDb (tabletRun requests) :=
  session_conduct Request.proc _ (fun _ _ => trivial) tabletDb requests

/-- The device publishes its keys, and a bundle is taken. -/
def tabletSetup : List Request :=
  [tabletKeys "identity", tabletPrekey "seven", .consumePrekeyBundle "11"]

/-- The tablet's keys are current at each request. -/
theorem prekeys_current_tablet : Current tabletDb (tabletRun tabletSetup) := by
  refine prekeys_current rfl (session_tabletRun _) ?_
  refine ((considerate_nil.snoc ?_ ?_).snoc ?_ ?_).snoc trivial ?_
  · intro deviceId old _ _ present
    cases present
  · rintro _ _ ⟨⟩
  · intro deviceId spelled _
    obtain rfl := Except.ok.inj spelled
    intro item member
    obtain rfl := List.mem_singleton.mp member
    refine ⟨fun row found => ?_, fun other same _ => by rw [List.mem_singleton.mp same]⟩
    cases found
  · intro _ _ _
    exact Proc.wrote_tally _ plainInputs plainInputs_unfailing _
  · rintro _ _ ⟨⟩

/-- After it has been set up again, a device sends another prekey under a number that is
taken. -/
def tabletReset : List Request :=
  [tabletKeys "identity", tabletPrekey "seven", tabletKeys "other identity",
   tabletPrekey "other seven", .consumePrekeyBundle "11"]

/-- The upload counts a prekey that is not stored, and the former one is handed out. -/
theorem prekeys_not_current :
    ¬∀ (start : Db) (entries : List (Entry Request Answer keys)), start.prekeys = .empty →
      Session (fun _ => True) Request.proc start entries → Current start entries := by
  intro claimed
  have current := claimed tabletDb (tabletRun tabletReset) rfl (session_tabletRun _)
  have counts := current.counted ((tabletRun tabletReset).take 3) _ _ rfl _ _ 1 _ rfl rfl rfl
  revert counts
  decide +kernel

end Example

end Armada.E2eeKeys
