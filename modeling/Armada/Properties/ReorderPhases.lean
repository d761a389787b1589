import Mathlib.Data.List.Perm.Subperm
import Armada.Claims
import Armada.Effects.Services
import Armada.Routes.Alone

/-!
# A reorder does not trip over itself

The two passes move every submitted stop to the negative of its new place and then to the
place. In the first pass a stop meets old places, which are positive, and negatives of
other submitted places; in the second one every stop that has not been moved again stands
at a negative. So no update meets the unique index, whatever the permutation.
-/

namespace Armada

open Concurrency Relational

namespace RoutesDomainService

/-! ## The validator -/

/-- As sets with their sizes compared: one list rearranges the other. -/
theorem hasExactIds_iff {expected submitted : List Uuid} (distinct : expected.Nodup)
    (occupied : expected ≠ []) :
    hasExactIds expected submitted = true ↔ submitted.Perm expected := by
  have positive : 0 < expected.length := List.length_pos_iff.mpr occupied
  simp only [hasExactIds, distinct.dedup, Bool.and_eq_true, decide_eq_true_eq, List.all_eq_true,
    positive, true_and]
  constructor
  · rintro ⟨⟨long, sizes⟩, known⟩
    have unique : submitted.Nodup := by
      rw [← List.dedup_eq_self]
      exact (List.dedup_sublist submitted).eq_of_length (sizes.trans long.symm)
    exact (unique.subperm known).perm_of_length_le long.ge
  · intro permuted
    have unique := permuted.nodup_iff.mpr distinct
    exact ⟨⟨permuted.length_eq, by rw [unique.dedup, permuted.length_eq]⟩,
      fun id member => permuted.mem_iff.mp member⟩

/-- The places 1 to `n`. -/
def places (n : Nat) : List Int := (List.range n).map fun index : Nat => (index : Int) + 1

/-- The places ascend. -/
theorem places_sorted (n : Nat) : (places n).Pairwise (· ≤ ·) := by
  refine List.Pairwise.map _ (fun _ _ less => ?_) List.pairwise_lt_range
  omega

/-- Sequences are contiguous when they are the places in some order. -/
theorem contiguous_iff {sequences : List Int} :
    contiguous sequences = true ↔ sequences.Perm (places sequences.length) := by
  have sorted := List.pairwise_insertionSort (fun left right : Int => left ≤ right) sequences
  have permuted := List.perm_insertionSort (fun left right : Int => left ≤ right) sequences
  have numbered : contiguous sequences = true ↔
      sequences.insertionSort (· ≤ ·) = places sequences.length := by
    have long : (sequences.insertionSort (· ≤ ·)).length = sequences.length := permuted.length_eq
    simp only [contiguous, List.all_eq_true, List.mem_iff_getElem, List.length_zipIdx, places]
    constructor
    · intro each
      refine List.ext_getElem (by simp) fun index bound _ => ?_
      have here := each _ ⟨index, bound, rfl⟩
      simpa using here
    · rintro same _ ⟨index, bound, rfl⟩
      simp [same]
  rw [numbered]
  constructor
  · intro same
    rw [← same]
    exact permuted.symm
  · intro rearranged
    exact (permuted.trans rearranged).eq_of_pairwise (fun _ _ _ _ => Int.le_antisymm) sorted
      (places_sorted _)

/-- A submission passes the validator exactly if neither of its two checks rejects it. -/
theorem validateCompleteStopSet_eq_pure {stopIds submitted : List Uuid} {sequences : List Int} :
    validateCompleteStopSet stopIds submitted (some sequences) = pure () ↔
      hasExactIds stopIds submitted = true ∧ contiguous sequences = true := by
  simp only [validateCompleteStopSet, Option.mem_some_iff, exists_eq_left']
  cases hasExactIds stopIds submitted with
  | false => exact iff_of_false (fun passed => by cases passed) (by simp)
  | true =>
      cases contiguous sequences with
      | false => exact iff_of_false (fun passed => by cases passed) (by simp)
      | true => exact iff_of_true rfl ⟨rfl, rfl⟩

/-- A submission is complete when it names each stop once. -/
theorem validateCompleteStopSet_iff {stopIds : List Uuid} {items : List StopSequenceItemDto}
    (distinct : stopIds.Nodup) (occupied : stopIds ≠ []) :
    validateCompleteStopSet stopIds (items.map StopSequenceItemDto.deliveryStopId)
        (some (items.map StopSequenceItemDto.sequence)) = pure () ↔
      (items.map StopSequenceItemDto.deliveryStopId).Perm stopIds ∧
        (items.map StopSequenceItemDto.sequence).Perm (places stopIds.length) := by
  rw [validateCompleteStopSet_eq_pure, hasExactIds_iff distinct occupied, contiguous_iff]
  refine and_congr_right fun permuted => ?_
  have long := permuted.length_eq
  rw [List.length_map] at long
  rw [List.length_map, long]

/-! ## The two passes -/

/-- The place of a stop after some moves. -/
def placed (moves : List (Uuid × Int)) (id : Uuid) (place : Int) : Int :=
  moves.foldl (fun place move => if move.1 = id then move.2 else place) place

/-- Two runs of moves place a stop one after the other. -/
theorem placed_append (first second : List (Uuid × Int)) (id : Uuid) (place : Int) :
    placed (first ++ second) id place = placed second id (placed first id place) :=
  List.foldl_append

/-- A stop that does not move keeps its place. -/
theorem placed_of_notMem {moves : List (Uuid × Int)} {id : Uuid} (place : Int)
    (unmoved : id ∉ moves.map Prod.fst) : placed moves id place = place := by
  induction moves generalizing place with
  | nil => rfl
  | cons move moves inductionHypothesis =>
      simp only [List.map_cons, List.mem_cons, not_or] at unmoved
      have here : placed [move] id place = place := if_neg (Ne.symm unmoved.1)
      rw [← List.singleton_append, placed_append, here, inductionHypothesis place unmoved.2]

/-- A stop that is moved stands where one of the moves has put it. -/
theorem mem_of_placed {moves : List (Uuid × Int)} {id : Uuid} (place : Int)
    (moved : id ∈ moves.map Prod.fst) : (id, placed moves id place) ∈ moves := by
  induction moves generalizing place with
  | nil => cases moved
  | cons move moves inductionHypothesis =>
      rw [← List.singleton_append, placed_append]
      by_cases later : id ∈ moves.map Prod.fst
      · exact List.mem_append_right _ (inductionHypothesis _ later)
      · have same : move.1 = id := by
          rcases List.mem_cons.mp moved with here | there
          · exact here.symm
          · exact absurd there later
        have here : placed [move] id place = move.2 := if_pos same
        rw [placed_of_notMem _ later, here, ← same]
        exact List.mem_append_left _ List.mem_cons_self

/-- Moves change the places of stops and nothing else of them. -/
theorem stop?_moved (db : Db) (moves : List (Uuid × Int)) (id : Uuid) :
    (db.commit (moves.map .resequence)).stop? id =
      (db.stop? id).map fun row => { row with sequence := placed moves id row.sequence } := by
  induction moves generalizing db with
  | nil => simp [placed]
  | cons move moves inductionHypothesis =>
      rw [List.map_cons, Db.commit_cons, inductionHypothesis, Write.stop?_apply,
        Write.resequence, Write.onStop]
      by_cases here : id = move.1
      · subst here
        simp [placed, StopData.set, Option.map_map, Function.comp_def]
      · simp [placed, here, Ne.symm here]

/-- The stops after the moves. -/
theorem mem_stopsOf_moved {db : Db} {moves : List (Uuid × Int)} {deliveryId : Uuid}
    {stop : DeliveryStop} :
    stop ∈ (db.commit (moves.map .resequence)).stopsOf deliveryId ↔
      ∃ row ∈ db.stopsOf deliveryId,
        stop = { row with sequence := placed moves row.id row.sequence } := by
  rw [Db.mem_stopsOf, stop?_moved]
  constructor
  · rintro ⟨found, owner⟩
    obtain ⟨row, present, moved⟩ := Option.map_eq_some_iff.mp found
    have same : row.id = stop.id := Db.id_of_stop? present
    rw [← same] at present moved
    refine ⟨row, Db.mem_stopsOf.mpr ⟨present, ?_⟩, moved.symm⟩
    rw [← moved] at owner
    exact owner
  · rintro ⟨row, member, rfl⟩
    obtain ⟨found, owner⟩ := Db.mem_stopsOf.mp member
    exact ⟨by simp [found], owner⟩

/-- No stop of a delivery is listed twice. -/
theorem nodup_stopsOf (db : Db) (deliveryId : Uuid) :
    ((db.stopsOf deliveryId).map DeliveryStop.id).Nodup :=
  db.deliveryStops.unique.sublist (List.filter_sublist.map _)

/-- A submission that rearranges the stops of a delivery, all of which stand at positive
places. -/
structure Rearranges (db : Db) (deliveryId : Uuid) (items : List StopSequenceItemDto) : Prop where
  ids : (items.map StopSequenceItemDto.deliveryStopId).Perm
    ((db.stopsOf deliveryId).map DeliveryStop.id)
  sequences : (items.map StopSequenceItemDto.sequence).Perm (places (db.stopsOf deliveryId).length)
  positive : ∀ stop ∈ db.stopsOf deliveryId, 0 < stop.sequence

namespace Rearranges

variable {db : Db} {deliveryId : Uuid} {items before after : List StopSequenceItemDto}
  {item : StopSequenceItemDto}

/-- A rearrangement names no stop twice. -/
theorem ids_nodup (rearranges : Rearranges db deliveryId items) :
    (items.map StopSequenceItemDto.deliveryStopId).Nodup :=
  rearranges.ids.nodup_iff.mpr (nodup_stopsOf db deliveryId)

/-- It gives no place twice. -/
theorem distinct (rearranges : Rearranges db deliveryId items) :
    (items.map StopSequenceItemDto.sequence).Nodup := by
  rw [rearranges.sequences.nodup_iff, places,
    List.nodup_map_iff (fun _ _ same => by simpa using same)]
  exact List.nodup_range

/-- Its places are positive. -/
theorem pos (rearranges : Rearranges db deliveryId items) (member : item ∈ items) :
    0 < item.sequence := by
  have place := rearranges.sequences.mem_iff.mp (List.mem_map_of_mem member)
  obtain ⟨index, _, same⟩ := List.mem_map.mp place
  omega

/-- The place of an item differs from those of the items before it. -/
theorem sequence_ne (rearranges : Rearranges db deliveryId items)
    (split : items = before ++ item :: after) {other : StopSequenceItemDto}
    (earlier : other ∈ before) : other.sequence ≠ item.sequence := by
  have distinct := rearranges.distinct
  rw [split, List.map_append, List.map_cons, List.nodup_append] at distinct
  exact distinct.2.2 _ (List.mem_map_of_mem earlier) _ List.mem_cons_self

/-- The moves of a pass. -/
theorem mem_pass {sign : Int} {move : Uuid × Int} :
    move ∈ pass sign items ↔
      ∃ item ∈ items, move = (item.deliveryStopId, sign * item.sequence) := by
  simp [pass, eq_comm]

/-- A pass moves the stops of the items. -/
theorem map_fst_pass (sign : Int) (items : List StopSequenceItemDto) :
    (pass sign items).map Prod.fst = items.map StopSequenceItemDto.deliveryStopId := by
  simp [pass]

/-- In the first pass a stop meets positive places and the negatives of other ones. -/
theorem clear_first (rearranges : Rearranges db deliveryId items)
    (split : items = before ++ item :: after) {other : DeliveryStop}
    (member : other ∈ (db.commit ((pass (-1) before).map .resequence)).stopsOf deliveryId) :
    other.sequence ≠ -1 * item.sequence := by
  have above : 0 < item.sequence := rearranges.pos (by simp [split])
  obtain ⟨row, old, rfl⟩ := mem_stopsOf_moved.mp member
  by_cases moved : row.id ∈ (pass (-1) before).map Prod.fst
  · obtain ⟨earlier, inBefore, same⟩ := mem_pass.mp (mem_of_placed row.sequence moved)
    have differ := rearranges.sequence_ne split inBefore
    have place := (Prod.ext_iff.mp same).2
    dsimp only at place ⊢
    omega
  · have old := rearranges.positive row old
    dsimp only
    rw [placed_of_notMem _ moved]
    omega

/-- In the second pass it meets negatives, and the places of other items. -/
theorem clear_second (rearranges : Rearranges db deliveryId items)
    (split : items = before ++ item :: after) {other : DeliveryStop}
    (member : other ∈ (db.commit
      ((pass (-1) items ++ pass 1 before).map .resequence)).stopsOf deliveryId) :
    other.sequence ≠ 1 * item.sequence := by
  have above : 0 < item.sequence := rearranges.pos (by simp [split])
  obtain ⟨row, old, rfl⟩ := mem_stopsOf_moved.mp member
  dsimp only
  rw [placed_append]
  by_cases moved : row.id ∈ (pass 1 before).map Prod.fst
  · obtain ⟨earlier, inBefore, same⟩ := mem_pass.mp
      (mem_of_placed (placed (pass (-1) items) row.id row.sequence) moved)
    have differ := rearranges.sequence_ne split inBefore
    have place := (Prod.ext_iff.mp same).2
    dsimp only at place
    omega
  · have submitted : row.id ∈ (pass (-1) items).map Prod.fst := by
      rw [map_fst_pass, rearranges.ids.mem_iff]
      exact List.mem_map_of_mem old
    obtain ⟨first, inItems, same⟩ := mem_pass.mp (mem_of_placed row.sequence submitted)
    have below := rearranges.pos inItems
    have place := (Prod.ext_iff.mp same).2
    rw [placed_of_notMem _ moved]
    dsimp only at place
    omega

/-- A stop of the delivery that meets no other one at its new place is moved there. -/
theorem succeeds {moved : List (Uuid × Int)} {id : Uuid} {sequence : Int}
    (owned : id ∈ (db.stopsOf deliveryId).map DeliveryStop.id)
    (clear : ∀ other ∈ (db.commit (moved.map .resequence)).stopsOf deliveryId,
      other.sequence ≠ sequence) {input : Input} (healthy : input.fault = none) :
    ∃ row, (Prisma.DeliveryStop.updateSequence id sequence).Succeeds input
      (db.commit (moved.map .resequence)) row [.resequence (id, sequence)] := by
  obtain ⟨stop, member, rfl⟩ := List.mem_map.mp owned
  obtain ⟨found, owner⟩ := Db.mem_stopsOf.mp member
  refine ⟨_, Prisma.DeliveryStop.updateSequence_succeeds.mpr
    ⟨healthy, ⟨_, by rw [stop?_moved, found]; rfl, rfl, ?_⟩, rfl⟩⟩
  intro other present _
  exact clear other (owner ▸ present)

/-- A rearrangement names stops of the delivery. -/
theorem owns (rearranges : Rearranges db deliveryId items) (member : item ∈ items) :
    item.deliveryStopId ∈ (db.stopsOf deliveryId).map DeliveryStop.id :=
  rearranges.ids.mem_iff.mp (List.mem_map_of_mem member)

end Rearranges

/-- Every update of a pass succeeds in the state that the updates before it leave, unless
the environment makes it fail. -/
def Passes (sign : Int) (items : List StopSequenceItemDto) (moved : List (Uuid × Int))
    (db : Db) : Prop :=
  ∀ before item after, items = before ++ item :: after → ∀ input : Input, input.fault = none →
    ∃ row, (Prisma.DeliveryStop.updateSequence item.deliveryStopId (sign * item.sequence)).Succeeds
      input (db.commit ((moved ++ pass sign before).map .resequence)) row
      [.resequence (item.deliveryStopId, sign * item.sequence)]

variable {db : Db} {deliveryId : Uuid} {items : List StopSequenceItemDto}

/-- The first loop passes from a state without moves. -/
theorem Rearranges.passes_first (rearranges : Rearranges db deliveryId items) :
    Passes (-1) items [] db := by
  intro before item after split input healthy
  exact succeeds (rearranges.owns (by simp [split]))
    (fun _ present => rearranges.clear_first split present) healthy

/-- The second passes from the state the first leaves. -/
theorem Rearranges.passes_second (rearranges : Rearranges db deliveryId items) :
    Passes 1 items (pass (-1) items) db := by
  intro before item after split input healthy
  exact succeeds (rearranges.owns (by simp [split]))
    (fun _ present => rearranges.clear_second split present) healthy

/-- A pass runs through to what follows it, or ends in a failure of the environment. -/
theorem Passes.run {β : Type} {sign : Int} {moved : List (Uuid × Int)}
    (passes : Passes sign items moved db) (next : Unit → Txn store β) (inputs : Nat → Input) :
    (∃ index reason, (inputs index).fault = some reason ∧
        (updateSequences sign items >>= next).run inputs (db.commit (moved.map .resequence)) =
          .error (.prisma reason)) ∨
      (updateSequences sign items >>= next).run inputs (db.commit (moved.map .resequence)) =
        ((next ()).run (fun index => inputs (index + items.length))
          (db.commit ((moved ++ pass sign items).map .resequence))).map
          fun outcome => (outcome.1, (pass sign items).map .resequence ++ outcome.2) := by
  induction items generalizing moved inputs with
  | nil =>
      refine .inr ?_
      change (next ()).run inputs _ = _
      cases ran : (next ()).run inputs (db.commit (moved.map .resequence)) <;>
        simp [pass, ran, Except.map]
  | cons item items inductionHypothesis =>
      let move : Uuid × Int := (item.deliveryStopId, sign * item.sequence)
      have unfolded : (updateSequences sign (item :: items) >>= next) =
          .step (Prisma.DeliveryStop.updateSequence move.1 move.2)
            fun _ => updateSequences sign items >>= next := rfl
      cases fault : (inputs 0).fault with
      | some reason =>
          refine .inl ⟨0, reason, fault, ?_⟩
          rw [unfolded, Txn.run, Prisma.DeliveryStop.updateSequence, query]
          simp only [fault]
      | none =>
          obtain ⟨row, succeeded⟩ := passes [] item items rfl (inputs 0) fault
          rw [show pass sign [] = [] from rfl, List.append_nil] at succeeded
          have later : Passes sign items (moved ++ [move]) db := by
            intro before other after split input healthy
            have there := passes (item :: before) other after (by rw [split]; rfl) input healthy
            rwa [show moved ++ pass sign (item :: before) = moved ++ [move] ++ pass sign before by
              simp [pass, move]] at there
          have step : (updateSequences sign (item :: items) >>= next).run inputs
              (db.commit (moved.map .resequence)) =
                ((updateSequences sign items >>= next).run (fun index => inputs (index + 1))
                  (db.commit ((moved ++ [move]).map .resequence))).map
                  fun outcome => (outcome.1, [.resequence move] ++ outcome.2) := by
            rw [unfolded, Txn.run_step succeeded, List.map_append, Db.commit_append]
            rfl
          rcases inductionHypothesis later (fun index => inputs (index + 1)) with
            ⟨index, reason, failed, ended⟩ | ran
          · exact .inl ⟨index + 1, reason, failed, by rw [step, ended]; rfl⟩
          · refine .inr ?_
            have whole :
                moved ++ [move] ++ pass sign items = moved ++ pass sign (item :: items) := by
              simp [pass, move]
            rw [step, ran, whole]
            cases (next ()).run (fun index => inputs (index + items.length + 1))
              (db.commit ((moved ++ pass sign (item :: items)).map .resequence)) <;> rfl

/-- The updates of the loop, in their order. -/
def moves (items : List StopSequenceItemDto) : List (Uuid × Int) :=
  pass (-1) items ++ pass 1 items

/-- The loop makes all its updates, or the environment makes one fail. -/
theorem Rearranges.run (rearranges : Rearranges db deliveryId items) (inputs : Nat → Input) :
    (∃ index reason, (inputs index).fault = some reason ∧
      (do updateSequences (-1) items; updateSequences 1 items : Txn store Unit).run inputs db =
        .error (.prisma reason)) ∨
      (do updateSequences (-1) items; updateSequences 1 items : Txn store Unit).run inputs db =
        .ok ((), (moves items).map .resequence) := by
  have first := rearranges.passes_first.run (fun _ => updateSequences 1 items) inputs
  have second := rearranges.passes_second.run pure fun index => inputs (index + items.length)
  rw [Txn.bind_pure] at second
  rcases first with failed | ran
  · exact .inl failed
  rcases second with ⟨index, reason, fault, failed⟩ | done
  · refine .inl ⟨index + items.length, reason, fault, ?_⟩
    exact ran.trans (congrArg (Except.map _) failed)
  · have whole := ran.trans (congrArg (Except.map _) done)
    -- what is left is the commit
    cases fault : (inputs (items.length + items.length)).fault with
    | some reason =>
        refine .inl ⟨_, reason, fault, whole.trans ?_⟩
        simp [pure, Txn.run, fault, Except.map]
    | none =>
        refine .inr (whole.trans ?_)
        simp [pure, Txn.run, fault, Except.map, moves]

/-! ## What a reorder leaves -/

/-- The stops of the delivery stand where the submission puts them, and every other stop is
as it was. -/
structure Reordered (db : Db) (deliveryId : Uuid) (items : List StopSequenceItemDto)
    (after : Db) : Prop where
  places : ∀ item ∈ items, ∃ row, db.stop? item.deliveryStopId = some row ∧
    row.deliveryId = deliveryId ∧
    after.stop? item.deliveryStopId = some { row with sequence := item.sequence }
  every : ∀ stop ∈ db.stopsOf deliveryId, ∃ item ∈ items, item.deliveryStopId = stop.id
  others : ∀ id row, db.stop? id = some row → row.deliveryId ≠ deliveryId →
    after.stop? id = some row

/-- Once both loops have run, the delivery is reordered. -/
theorem Rearranges.reordered (rearranges : Rearranges db deliveryId items) {after : Db}
    (moved : ∀ id, after.stop? id = (db.commit ((moves items).map .resequence)).stop? id) :
    Reordered db deliveryId items after where
  places item member := by
    obtain ⟨row, present, same⟩ := List.mem_map.mp (rearranges.owns member)
    obtain ⟨found, owner⟩ := Db.mem_stopsOf.mp present
    rw [same] at found
    refine ⟨row, found, owner, ?_⟩
    rw [moved, stop?_moved, found, Option.map_some]
    congr 2
    rw [moves, placed_append]
    have submitted : item.deliveryStopId ∈ (pass 1 items).map Prod.fst := by
      rw [map_fst_pass]
      exact List.mem_map_of_mem member
    obtain ⟨other, inItems, placing⟩ := mem_pass.mp (mem_of_placed
      (placed (pass (-1) items) item.deliveryStopId row.sequence) submitted)
    obtain ⟨sameId, place⟩ := Prod.ext_iff.mp placing
    obtain rfl : item = other := List.inj_on_of_nodup_map rearranges.ids_nodup member inItems sameId
    exact place.trans (one_mul _)
  every stop member := by
    have known := rearranges.ids.mem_iff.mpr (List.mem_map_of_mem member)
    obtain ⟨item, submitted, same⟩ := List.mem_map.mp known
    exact ⟨item, submitted, same⟩
  others id row found foreign := by
    have unmoved : id ∉ (moves items).map Prod.fst := by
      rw [moves, List.map_append, map_fst_pass, map_fst_pass, List.mem_append, or_self,
        rearranges.ids.mem_iff]
      intro present
      obtain ⟨stop, member, rfl⟩ := List.mem_map.mp present
      obtain ⟨same, owner⟩ := Db.mem_stopsOf.mp member
      rw [found] at same
      exact foreign (Option.some.inj same ▸ owner)
    rw [moved, stop?_moved, found, Option.map_some, placed_of_notMem _ unmoved]

/-- What the validator says to a submission, in terms of the stops of the delivery. -/
theorem accepts_iff (occupied : db.stopsOf deliveryId ≠ []) :
    validateCompleteStopSet ((snapshot db deliveryId).map DeliveryStop.id)
        (items.map StopSequenceItemDto.deliveryStopId)
        (some (items.map StopSequenceItemDto.sequence)) = pure () ↔
      (items.map StopSequenceItemDto.deliveryStopId).Perm
          ((db.stopsOf deliveryId).map DeliveryStop.id) ∧
        (items.map StopSequenceItemDto.sequence).Perm (places (db.stopsOf deliveryId).length) := by
  have permuted := (snapshot_perm db deliveryId).map DeliveryStop.id
  rw [validateCompleteStopSet_iff (permuted.nodup_iff.mpr (nodup_stopsOf db deliveryId)),
    permuted.congr_right, permuted.length_eq, List.length_map]
  intro empty
  rw [empty] at permuted
  exact occupied (List.map_eq_nil_iff.mp permuted.nil_eq.symm)

end RoutesDomainService

/-- Of the writes of a reorder only the moves act on stops. -/
theorem RouteCommit.stop? {db : Db} {deliveryId : Uuid} {key : Option IdempotencyKey}
    {stops moved : List (Uuid × Int)}
    {body : ResponseBody} {writes : List Write}
    (commit : RouteCommit deliveryId key stops moved db body writes) (id : Uuid) :
    (db.commit writes).stop? id = (db.commit (moved.map .resequence)).stop? id := by
  cases commit with
  | intro mode status claim ofDelivery next fresh reported =>
      have core : ∀ moved : List (Uuid × Int),
          essential (moved.map .resequence) = moved.map .resequence := essential_map fun _ => rfl
      rw [← (db.commit_essential _).stop?]
      simp only [essential_append, claim.essential_eq, essential_settled, core, List.nil_append,
        List.append_nil, Db.commit_append]
      rfl

open RoutesDomainService

/-- For every delivery whose stops, one or more, stand at positive places: the validator
accepts exactly the submissions that rearrange its stops over the places 1 to N; on what it
accepts no update of the two passes fails, unless the environment makes it fail; and a
reorder that is done leaves every stop of the delivery at its submitted place and every
other stop as it was. -/
theorem reorder_never_clashes (db : Db) (deliveryId : IdText) (dto : ManualReorderDto)
    (actor : RouteActor) (occupied : db.stopsOf deliveryId ≠ [])
    (positive : ∀ stop ∈ db.stopsOf deliveryId, 0 < stop.sequence) :
    (validateCompleteStopSet ((snapshot db deliveryId).map DeliveryStop.id)
        (dto.stopSequence.map StopSequenceItemDto.deliveryStopId)
        (some (dto.stopSequence.map StopSequenceItemDto.sequence)) = pure () ↔
      (dto.stopSequence.map StopSequenceItemDto.deliveryStopId).Perm
          ((db.stopsOf deliveryId).map DeliveryStop.id) ∧
        (dto.stopSequence.map StopSequenceItemDto.sequence).Perm
          (places (db.stopsOf deliveryId).length)) ∧
    (validateCompleteStopSet ((snapshot db deliveryId).map DeliveryStop.id)
        (dto.stopSequence.map StopSequenceItemDto.deliveryStopId)
        (some (dto.stopSequence.map StopSequenceItemDto.sequence)) = pure () →
      ∀ inputs : Nat → Input,
        (∃ index reason, (inputs index).fault = some reason ∧
          (do updateSequences (-1) dto.stopSequence
              updateSequences 1 dto.stopSequence : Txn store Unit).run inputs db =
            .error (.prisma reason)) ∨
        (do updateSequences (-1) dto.stopSequence
            updateSequences 1 dto.stopSequence : Txn store Unit).run inputs db =
          .ok ((), (moves dto.stopSequence).map .resequence)) ∧
    ∀ (supplied : Input → Prop) (body : ResponseBody) (after : Db),
      (reorderStops deliveryId dto actor).Returns supplied db (.fresh body) after →
        (dto.stopSequence.map StopSequenceItemDto.sequence).Perm
            (places (db.stopsOf deliveryId).length) ∧
          Reordered db deliveryId dto.stopSequence after := by
  refine ⟨accepts_iff occupied, fun accepted inputs => ?_, fun supplied body after returned => ?_⟩
  · obtain ⟨ids, sequences⟩ := (accepts_iff occupied).mp accepted
    exact Rearranges.run ⟨ids, sequences, positive⟩ inputs
  · have made := mutateRoute_returns (((claimReorder_holds .alone deliveryId dto actor db).yields
      fun _ => rfl).mono fun body writes done => done) returned
    obtain ⟨writes, emitted, ⟨_, commit, _⟩, rfl⟩ := made.worked
    obtain ⟨ids, sequences⟩ := (accepts_iff occupied).mp (validateCompleteStopSet_eq_pure.mpr
      ⟨made.valid.1, made.valid.2 _ rfl⟩)
    exact ⟨sequences, Rearranges.reordered ⟨ids, sequences, positive⟩ commit.stop?⟩

namespace Swapped

def db : Db where
  deliveries := Table.empty.insert { id := 1, deliveryCode := "D-1", createdBy := 9 }
  deliveryStops :=
    (Table.empty.insert { id := 7, deliveryId := 1, sequence := 1 }).insert
      { id := 8, deliveryId := 1, sequence := 2 }

def dto : ManualReorderDto := { stopSequence := [⟨7, 2⟩, ⟨8, 1⟩] }

/-- Two stops change places. -/
theorem reorder_never_clashes_here :
    (do updateSequences (-1) dto.stopSequence
        updateSequences 1 dto.stopSequence : Txn store Unit).run (fun _ => {}) db =
      .ok ((), [(7, -2), (8, -1), (7, 2), (8, 1)].map .resequence) := by
  obtain ⟨accepts, runs, _⟩ := reorder_never_clashes db 1 dto
    { userId := 9, role := .admin } (by decide) (by decide)
  rcases runs (accepts.mpr ⟨by decide, by decide⟩) fun _ => {} with ⟨_, _, fault, _⟩ | ran
  · cases fault
  · exact ran

end Swapped

end Armada
