import Armada.Auth.Requests
import Armada.Concurrency.LateRecord
import Armada.E2eeKeys.E2eeKeysService

/-!
# One-time prekeys are used once

The statement that claims a prekey looks for an unused one and marks it in one step, an
upload leaves out every number that is taken, and nothing else writes prekeys. So a prekey
that has been used bars its number for good, whatever runs at the same time.
-/

namespace Armada.E2eeKeys

open Relational Concurrency

namespace Db

/-- The number of a prekey that has been claimed. -/
def Spent (deviceId : Uuid) (keyId : Int) (db : Db) : Prop :=
  ∃ row, db.prekey? deviceId keyId = some row ∧ row.isConsumed = true

/-- The number of a prekey that can be claimed. -/
def Unspent (deviceId : Uuid) (keyId : Int) (db : Db) : Prop :=
  ∃ row, db.prekey? deviceId keyId = some row ∧ row.isConsumed = false

/-- A key that is there unspent is not spent. -/
theorem Unspent.not_spent {db : Db} {deviceId : Uuid} {keyId : Int}
    (unspent : db.Unspent deviceId keyId) : ¬db.Spent deviceId keyId := by
  rintro ⟨row, found, consumed⟩
  obtain ⟨other, same, unused⟩ := unspent
  obtain rfl := Option.some.inj (found.symm.trans same)
  cases consumed.symm.trans unused

/-- The unspent keys are the available rows. -/
theorem unspent_iff {db : Db} {deviceId : Uuid} {keyId : Int} :
    db.Unspent deviceId keyId ↔ ∃ row ∈ db.available deviceId, row.keyId = keyId := by
  constructor
  · rintro ⟨row, found, unused⟩
    obtain rfl := keyId_of_prekey? found
    exact ⟨row, mem_available.mpr ⟨found, unused⟩, rfl⟩
  · rintro ⟨row, member, rfl⟩
    exact ⟨row, mem_available.mp member⟩

end Db

/-! ## The writes -/

variable {deviceId : Uuid} {keyId : Int}

/-- The row of a number after a consumption. -/
theorem prekey?_consume (db : Db) (deviceId other : Uuid) (keyId otherKey now : Int) :
    (Write.apply (.consumePrekey other otherKey now) db).prekey? deviceId keyId =
      if (deviceId, keyId) = (other, otherKey) then
        (db.prekey? deviceId keyId).map (Prekey.consume now)
      else db.prekey? deviceId keyId :=
  Table.find?_modify db.prekeys (other, otherKey) (deviceId, keyId) fun _ => rfl

/-- No write gives a used prekey free again. -/
theorem spent_apply (write : Write) {db : Db} (spent : db.Spent deviceId keyId) :
    (write.apply db).Spent deviceId keyId := by
  obtain ⟨row, found, consumed⟩ := spent
  cases write with
  | createDeviceKey added => exact ⟨row, found, consumed⟩
  | updateDeviceKey other change => exact ⟨row, found, consumed⟩
  | createPrekeys rows => exact ⟨row, Table.find?_insertAll_of_some found, consumed⟩
  | consumePrekey other otherKey now =>
      have after := prekey?_consume db deviceId other keyId otherKey now
      rw [found] at after
      split at after
      · exact ⟨row.consume now, after, rfl⟩
      · exact ⟨row, after, consumed⟩
  | createAuditLog added => exact ⟨row, found, consumed⟩

/-- A spent key stays spent under every write. -/
theorem spent_applyAll (writes : List Write) {db : Db} (spent : db.Spent deviceId keyId) :
    Db.Spent deviceId keyId (keys.applyAll writes db) := by
  induction writes generalizing db with
  | nil => exact spent
  | cons write writes inductionHypothesis => exact inductionHypothesis (spent_apply write spent)

/-- So it does over a turn. -/
theorem spent_after (turn : Concurrency.Turn keys) (spent : turn.before.Spent deviceId keyId) :
    Db.Spent deviceId keyId turn.after :=
  spent_applyAll turn.writes spent

/-! ## Claims -/

/-- The turn claims the prekey under this number. -/
def HandsOut (deviceId : Uuid) (keyId : Int) (turn : Concurrency.Turn keys) : Prop :=
  ∃ id row, id = .ok deviceId ∧ turn.Returned (Prisma.Prekey.claim id) (some row) ∧
    row.keyId = keyId

/-- What a claim finds and leaves. -/
structure Takes (turn : Concurrency.Turn keys) (deviceId : Uuid) (row : Prekey) : Prop where
  found : turn.before.prekey? deviceId row.keyId = some row
  unused : row.isConsumed = false
  smallest : ∀ other, turn.before.Unspent deviceId other → row.keyId ≤ other
  spent : Db.Spent deviceId row.keyId turn.after

/-- A claim that answers a row takes it. -/
theorem takes_of_returned {turn : Concurrency.Turn keys} {id : Except PrismaError Uuid} {row : Prekey}
    (same : id = .ok deviceId) (returned : turn.Returned (Prisma.Prekey.claim id) (some row)) :
    Takes turn deviceId row := by
  obtain ⟨_, other, isOther, next, wrote⟩ := Prisma.Prekey.claim_succeeds.mp returned.succeeds
  obtain rfl : deviceId = other := Except.ok.inj (same.symm.trans isOther)
  obtain ⟨member, least⟩ := Db.nextPrekey?_spec next.symm
  obtain ⟨found, unused⟩ := Db.mem_available.mp member
  refine ⟨found, unused, ?_, row.consume (turn.inputs 0).now, ?_, rfl⟩
  · intro other unspent
    obtain ⟨candidate, available, rfl⟩ := Db.unspent_iff.mp unspent
    exact least candidate available
  · have after := prekey?_consume turn.before deviceId deviceId row.keyId row.keyId
      (turn.inputs 0).now
    rw [if_pos rfl, found] at after
    rw [Concurrency.Turn.after, wrote]
    exact after

/-- A claim that finds nothing finds no unused prekey. -/
theorem none_of_returned {turn : Concurrency.Turn keys} {id : Except PrismaError Uuid}
    (same : id = .ok deviceId) (returned : turn.Returned (Prisma.Prekey.claim id) none) :
    ∀ other, ¬turn.before.Unspent deviceId other := by
  obtain ⟨_, other, isOther, next, _⟩ := Prisma.Prekey.claim_succeeds.mp returned.succeeds
  obtain rfl : deviceId = other := Except.ok.inj (same.symm.trans isOther)
  intro keyId unspent
  obtain ⟨row, member, _⟩ := Db.unspent_iff.mp unspent
  rw [Db.nextPrekey?_eq_none.mp next.symm] at member
  cases member

/-- To hand out a key is to spend one that was unspent. -/
theorem HandsOut.spends {turn : Concurrency.Turn keys} (hands : HandsOut deviceId keyId turn) :
    ¬turn.before.Spent deviceId keyId ∧ Db.Spent deviceId keyId turn.after := by
  obtain ⟨id, row, same, returned, rfl⟩ := hands
  have takes := takes_of_returned same returned
  have unspent : turn.before.Unspent deviceId row.keyId := ⟨row, takes.found, takes.unused⟩
  exact ⟨unspent.not_spent, takes.spent⟩

/-! ## Calls -/

section Calls

variable [Auth.UuidSpelling]

/-- A bundle that the turns of its process account for. -/
def Accounted (target : String) (bundle : PrekeyBundle) (history : List (Concurrency.Turn keys)) : Prop :=
  ∃ deviceId claimed, (JsValue.string target).toUuid = .ok deviceId ∧ (∃ turn ∈ history,
    turn.Returned (Prisma.Prekey.claim (JsValue.string target).toUuid) claimed) ∧
      bundle.oneTimePrekey = E2eeKeysService.oneTimePrekey claimed

/-- The contract of a request for a bundle. -/
def Delivers (target : String) : Except Failure Answer → List (Concurrency.Turn keys) → Prop
  | .ok (.bundle bundle), history => Accounted target bundle history
  | .ok (.registered _), _ => True
  | .ok (.uploaded _), _ => True
  | .error _, _ => True

/-- What a consumption answers is what its claim took. -/
theorem consumePrekeyBundle_meets (target : String) {thread : Nat} :
    (E2eeKeysService.consumePrekeyBundle target).Meets
      (.turns (fun _ => True) thread fun _ _ => True)
      (OnResult (Accounted target) fun _ _ => True) [] := by
  rw [E2eeKeysService.consumePrekeyBundle]
  refine Proc.Meets.told (fun _ _ => trivial) (fun _ _ => trivial) fun found lookup _ => ?_
  refine Proc.Meets.require (fun _ => trivial) fun deviceKey _ => ?_
  refine Proc.Meets.told (fun _ _ => trivial) (fun _ _ => trivial) fun claimed claim returned => ?_
  refine Proc.Meets.told (fun _ _ => trivial) (fun _ _ => trivial) fun remaining count _ => ?_
  obtain ⟨_, deviceId, same, _, _⟩ := Prisma.Prekey.claim_succeeds.mp returned.succeeds
  refine ⟨deviceId, claimed, same, ⟨claim, ?_, returned⟩, rfl⟩
  exact List.mem_append_left _ (List.mem_append_right _ (List.mem_singleton_self claim))

/-- Requests that start together. -/
def pool (requests : List Request) (db : Db) : Pool keys Answer where
  state := db
  procs := requests.map Request.proc

/-- A request for a bundle of a device has returned this prekey, or none. -/
def Received (requests : List Request) (final : Pool keys Answer) (thread : Nat)
    (deviceId : Uuid) (item : Option OneTimePrekey) : Prop :=
  ∃ target process bundle, requests[thread]? = some (.consumePrekeyBundle target) ∧
    (JsValue.string target).toUuid = .ok deviceId ∧ final.procs[thread]? = some process ∧
      process.finished = some (.ok (.bundle bundle)) ∧ bundle.oneTimePrekey = item

variable {requests : List Request} {db : Db} {trace : List (Concurrency.Turn keys)}
    {final : Pool keys Answer}

/-- A bundle that has been returned is accounted for. -/
theorem accounted_of_finished (turns : (pool requests db).Turns trace final) {thread : Nat}
    {target : String} {process : Proc keys Answer} {bundle : PrekeyBundle}
    (asked : requests[thread]? = some (.consumePrekeyBundle target))
    (found : final.procs[thread]? = some process)
    (ended : process.finished = some (.ok (.bundle bundle))) :
    Accounted target bundle (Pool.own trace thread) := by
  have started : (pool requests db).procs[thread]? =
      some (Answer.bundle <$> E2eeKeysService.consumePrekeyBundle target) := by
    rw [pool, List.getElem?_map, asked]
    rfl
  have meets : (Answer.bundle <$> E2eeKeysService.consumePrekeyBundle target).Meets
      (.turns (fun _ => True) thread fun _ _ => True) (Delivers target) [] := by
    refine (Proc.meets_map _ _ _).mpr ((consumePrekeyBundle_meets target).weaken ?_)
    rintro (error | bundle) history reached
    · trivial
    · exact reached
  have delivered : Delivers target (.ok (.bundle bundle)) (Pool.own trace thread) :=
    turns.own_of_thread started meets found ended
  exact delivered

/-- What has been returned was claimed in a turn of the request. -/
theorem Received.claimed {thread : Nat} {item : Option OneTimePrekey}
    (received : Received requests final thread deviceId item)
    (turns : (pool requests db).Turns trace final) :
    ∃ id claimed, id = .ok deviceId ∧ (∃ turn ∈ trace, turn.thread = thread ∧
      turn.Returned (Prisma.Prekey.claim id) claimed) ∧
        item = E2eeKeysService.oneTimePrekey claimed := by
  obtain ⟨target, process, bundle, asked, spelled, found, ended, rfl⟩ := received
  obtain ⟨_, claimed, _, ⟨turn, owned, returned⟩, same⟩ :=
    accounted_of_finished turns asked found ended
  obtain ⟨member, isThread⟩ := Pool.mem_own.mp owned
  exact ⟨_, claimed, spelled, ⟨turn, member, isThread, returned⟩, same⟩

/-- Prekeys are used once in a run. -/
structure UsedOnce (requests : List Request) (trace : List (Concurrency.Turn keys))
    (final : Pool keys Answer) : Prop where
  /-- Whoever is returned a bundle has named a device. -/
  named : ∀ (thread : Nat) target process bundle,
    requests[thread]? = some (.consumePrekeyBundle target) → final.procs[thread]? = some process →
      process.finished = some (.ok (.bundle bundle)) →
        ∃ deviceId, Received requests final thread deviceId bundle.oneTimePrekey
  /-- No two requests return one number of a device. -/
  once : ∀ deviceId keyId first second publicKey otherKey,
    Received requests final first deviceId (some ⟨keyId, publicKey⟩) →
      Received requests final second deviceId (some ⟨keyId, otherKey⟩) → first = second
  /-- A used prekey stays so, and its number is not handed out any more. -/
  spent : ∀ earlier turn later, trace = earlier ++ turn :: later → ∀ deviceId keyId,
    turn.before.Spent deviceId keyId → Db.Spent deviceId keyId final.state ∧
      ∀ next ∈ turn :: later,
        next.before.Spent deviceId keyId ∧ ¬HandsOut deviceId keyId next
  /-- A request that returns a prekey claims the unused one with the smallest number. -/
  smallest : ∀ thread deviceId item, Received requests final thread deviceId (some item) →
    ∃ turn ∈ trace, turn.thread = thread ∧ HandsOut deviceId item.keyId turn ∧
      ∃ row, Takes turn deviceId row ∧ row.keyId = item.keyId ∧ row.publicKey = item.publicKey
  /-- A request that returns none finds no unused one. -/
  depleted : ∀ thread deviceId, Received requests final thread deviceId none →
    ∃ id, id = .ok deviceId ∧ ∃ turn ∈ trace, turn.thread = thread ∧
      turn.Returned (Prisma.Prekey.claim id) none ∧
        ∀ keyId, ¬turn.before.Unspent deviceId keyId

/-- An answer with a prekey was taken by a turn of its thread. -/
theorem Received.takes {thread : Nat} {item : OneTimePrekey}
    (received : Received requests final thread deviceId (some item))
    (turns : (pool requests db).Turns trace final) :
    ∃ turn ∈ trace, turn.thread = thread ∧ HandsOut deviceId item.keyId turn ∧
      ∃ row, Takes turn deviceId row ∧ row.keyId = item.keyId ∧
        row.publicKey = item.publicKey := by
  obtain ⟨id, claimed, same, ⟨turn, member, isThread, returned⟩, given⟩ := received.claimed turns
  cases claimed with
  | none => cases given
  | some row =>
      obtain rfl := Option.some.inj given
      exact ⟨turn, member, isThread, ⟨id, row, same, returned, rfl⟩, row,
        takes_of_returned same returned, rfl, rfl⟩

/-- Any requests on any devices, in any order of their steps, use each prekey once. -/
theorem prekeys_used_once (turns : (pool requests db).Turns trace final) :
    UsedOnce requests trace final where
  named := by
    intro thread target process bundle asked found ended
    obtain ⟨deviceId, _, spelled, _⟩ := accounted_of_finished turns asked found ended
    exact ⟨deviceId, target, process, bundle, asked, spelled, found, ended, rfl⟩
  once := by
    intro deviceId keyId first second publicKey otherKey received receivedAgain
    obtain ⟨turn, member, rfl, hands, _⟩ := received.takes turns
    obtain ⟨again, memberAgain, rfl, handsAgain, _⟩ := receivedAgain.takes turns
    have once : Once (HandsOut deviceId keyId) trace :=
      Once.of_barred turns (fun turn _ hands => hands.spends) fun turn _ spent =>
        spent_after turn spent
    obtain ⟨position, _, atFirst⟩ := List.getElem_of_mem member
    obtain ⟨otherPosition, _, atSecond⟩ := List.getElem_of_mem memberAgain
    have positions := once.eq_of_works (List.getElem?_eq_some_iff.mpr ⟨_, atFirst⟩)
      (List.getElem?_eq_some_iff.mpr ⟨_, atSecond⟩) hands handsAgain
    subst positions
    rw [← atFirst, ← atSecond]
  spent := by
    intro earlier turn later split deviceId keyId spent
    have kept : ∀ next ∈ later, next.before.Spent deviceId keyId →
        Db.Spent deviceId keyId next.after := fun next _ => spent_after next
    have after := spent_after turn spent
    have bars : ∀ next : Concurrency.Turn keys, next.before.Spent deviceId keyId →
        next.before.Spent deviceId keyId ∧ ¬HandsOut deviceId keyId next :=
      fun next now => ⟨now, fun hands => hands.spends.1 now⟩
    refine ⟨turns.remains split after kept, List.forall_mem_cons.mpr
      ⟨bars turn spent, fun next member => bars next ?_⟩⟩
    exact turns.lasting split after kept next member
  smallest := by
    intro thread deviceId item received
    exact received.takes turns
  depleted := by
    intro thread deviceId received
    obtain ⟨id, claimed, same, ⟨turn, member, isThread, returned⟩, given⟩ :=
      received.claimed turns
    cases claimed with
    | none => exact ⟨id, same, turn, member, isThread, returned, none_of_returned same returned⟩
    | some row => cases given

end Calls

/-! ### Two requests for bundles and an upload that repeats a number -/

section Example

local instance : Auth.UuidSpelling := Auth.unarySpelling

def phoneDb : Db where
  devices := Table.empty.insert { id := 1, userId := 2 }
  deviceKeys := Table.empty.insert
    { id := 3, deviceId := 1, identityKeyPublic := "identity", signedPrekeyPublic := "signed",
      signedPrekeySig := "signature" }
  prekeys := Table.empty.insert { deviceId := 1, keyId := 7, publicKey := "seven" }

def phoneRequests : List Request :=
  [.consumePrekeyBundle "11",
   .uploadPrekeys { deviceId := "11", prekeys := [⟨7, "seven again"⟩, ⟨8, "eight"⟩] } 2,
   .consumePrekeyBundle "11"]

/-- The first bundle is claimed before the upload, the second one after it. -/
def phoneSchedule : List (Nat × (Nat → Input)) :=
  [0, 1, 0, 2, 1, 1, 2, 2, 1, 0].map fun thread => (thread, fun _ => {})

/-- The phone's keys are used once, though one of them is uploaded again. -/
theorem prekeys_used_once_phone :
    UsedOnce phoneRequests ((pool phoneRequests phoneDb).perform phoneSchedule).1
      ((pool phoneRequests phoneDb).perform phoneSchedule).2 :=
  prekeys_used_once (Pool.perform_turns phoneSchedule (pool phoneRequests phoneDb))

end Example

end Armada.E2eeKeys
