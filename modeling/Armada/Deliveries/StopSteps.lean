import Armada.Projections

/-!
# The steps of a stop

What the operations write of a stop, each with the statuses that its condition expects: the steps
of drivers and operators, the submission of a proof, the override of a conflict and the moves in
the sequence. A stop only ever comes further, and records when it has arrived and when it was
finished.
-/

namespace Armada

/-- How far a stop has come. -/
def StopStatus.level : StopStatus → Nat
  | .pending => 0
  | .enRoute => 1
  | .arrived => 2
  | .unloading => 3
  | .delivered | .failed | .skipped => 4

/-- A conditional update of a stop: the statuses it expects, and what it sets. -/
inductive StopUpdate : List StopStatus → StopData → Prop where
  | departed : StopUpdate [.pending] { status := some .enRoute }
  | arrived (now : Instant) :
      StopUpdate [.enRoute, .pending] { status := some .arrived, arrivedAt := some now }
  | unloading : StopUpdate [.arrived] { status := some .unloading }
  | failed (now : Instant) : StopUpdate [.arrived, .unloading, .enRoute]
      { status := some .failed, completedAt := some now }
  | skipped : StopUpdate [.pending] { status := some .skipped }
  | delivered (now : Instant) : StopUpdate [.unloading, .arrived]
      { status := some .delivered, completedAt := some now }

/-- What an override sets, whatever the status of the stop. -/
def StopData.overridden (now : Instant) : StopData :=
  { status := some .delivered, completedAt := some now }

/-- A stop as `createDelivery` inserts it. -/
structure DeliveryStop.Fresh (row : DeliveryStop) : Prop where
  status : row.status = .pending
  arrivedAt : row.arrivedAt = none
  completedAt : row.completedAt = none

/-- A stop that has come to a status has recorded its times. -/
structure DeliveryStop.Timed (row : DeliveryStop) : Prop where
  arrived : row.status = .arrived ∨ row.status = .unloading → row.arrivedAt ≠ none
  waiting : row.status.level < 2 → row.arrivedAt = none
  completed : row.status = .delivered ∨ row.status = .failed → row.completedAt ≠ none
  unfinished : row.status.level < 4 → row.completedAt = none

/-- What a stop has come to is not undone: its status, the arrival and that it was completed. -/
structure DeliveryStop.Onward (before after : DeliveryStop) : Prop where
  delivery : after.deliveryId = before.deliveryId
  level : before.status.level ≤ after.status.level
  arrived : ∀ time, before.arrivedAt = some time → after.arrivedAt = some time
  completed : before.completedAt ≠ none → after.completedAt ≠ none

namespace DeliveryStop

variable {first second third row : DeliveryStop} {data : StopData} {expected : List StopStatus}

/-- A fresh stop has the times of its status. -/
theorem Fresh.timed (fresh : row.Fresh) : row.Timed where
  arrived status := by simp [fresh.status] at status
  waiting _ := fresh.arrivedAt
  completed status := by simp [fresh.status] at status
  unfinished _ := fresh.completedAt

/-- A stop that stays is no step back. -/
theorem Onward.refl (row : DeliveryStop) : row.Onward row := 
  ⟨rfl, le_rfl, fun _ recorded => recorded, fun recorded => recorded⟩

/-- Nor are two that are none. -/
theorem Onward.trans (left : first.Onward second) (right : second.Onward third) :
    first.Onward third where
  delivery := right.delivery.trans left.delivery
  level := left.level.trans right.level
  arrived time recorded := right.arrived time (left.arrived time recorded)
  completed recorded := right.completed (left.completed recorded)

end DeliveryStop

/-- What a write may set of a stop: a step from a status that it expects, an override by who
overrides, or another place in the sequence. -/
inductive StopChange (overrides : Prop) (row : DeliveryStop) : StopData → Prop where
  | updated {expected : List StopStatus} {data : StopData} (update : StopUpdate expected data)
      (able : row.status ∈ expected) : StopChange overrides row data
  | overridden (able : overrides) (now : Instant) : StopChange overrides row (.overridden now)
  | resequenced (sequence : Int) : StopChange overrides row { sequence := some sequence }

variable {overrides : Prop} {row : DeliveryStop} {data : StopData} {expected : List StopStatus}

/-- What is allowed without an override is allowed with one. -/
theorem StopChange.mono {more : Prop} (change : StopChange overrides row data)
    (wider : overrides → more) : StopChange more row data := by
  cases change with
  | updated update able => exact .updated update able
  | overridden able now => exact .overridden (wider able) now
  | resequenced sequence => exact .resequenced sequence

/-- A step leads to a higher level. -/
theorem StopUpdate.level_lt (update : StopUpdate expected data) (able : row.status ∈ expected) :
    row.status.level < (data.set row).status.level := by
  cases update <;> revert able <;> cases row.status <;> simp [StopData.set, StopStatus.level]

/-- A stop that can take a step has not been finished, nor arrived before its arrival. -/
theorem StopUpdate.timed (update : StopUpdate expected data) (able : row.status ∈ expected)
    (timed : row.Timed) : (data.set row).Timed := by
  obtain ⟨arrived, waiting, completed, unfinished⟩ := timed
  cases update with
  | departed =>
      have status := List.mem_singleton.mp able
      rw [status] at waiting unfinished
      exact ⟨by simp [StopData.set], fun _ => waiting (by decide), by simp [StopData.set],
        fun _ => unfinished (by decide)⟩
  | arrived now =>
      have level : row.status.level < 4 := by
        simp only [List.mem_cons, List.not_mem_nil, or_false] at able
        rcases able with status | status <;> rw [status] <;> decide
      exact ⟨by simp [StopData.set], by simp [StopData.set, StopStatus.level],
        by simp [StopData.set],
        fun _ => unfinished level⟩
  | unloading =>
      have status := List.mem_singleton.mp able
      rw [status] at unfinished
      exact ⟨fun _ => arrived (.inl status), by simp [StopData.set, StopStatus.level],
        by simp [StopData.set], fun _ => unfinished (by decide)⟩
  | skipped =>
      exact ⟨by simp [StopData.set], by simp [StopData.set, StopStatus.level],
        by simp [StopData.set], by simp [StopData.set, StopStatus.level]⟩
  | failed now | delivered now =>
      exact ⟨by simp [StopData.set], by simp [StopData.set, StopStatus.level],
        by simp [StopData.set], by simp [StopData.set, StopStatus.level]⟩

/-- A change keeps the times in step with the status. -/
theorem StopChange.timed (change : StopChange overrides row data) (timed : row.Timed) :
    (data.set row).Timed := by
  cases change with
  | updated update able => exact update.timed able timed
  | overridden able now =>
      exact ⟨by simp [StopData.set, StopData.overridden],
        by simp [StopData.set, StopData.overridden, StopStatus.level],
        by simp [StopData.set, StopData.overridden],
        by simp [StopData.set, StopData.overridden, StopStatus.level]⟩
  | resequenced sequence => exact ⟨timed.arrived, timed.waiting, timed.completed, timed.unfinished⟩

/-- There are five levels. -/
theorem StopStatus.level_le (status : StopStatus) : status.level ≤ 4 := by
  cases status <;> decide

/-- No change goes back a level. -/
theorem StopChange.level_le (change : StopChange overrides row data) :
    row.status.level ≤ (data.set row).status.level := by
  cases change with
  | updated update able => exact (update.level_lt able).le
  | overridden able now => exact row.status.level_le
  | resequenced sequence => exact le_rfl

/-- So a change goes onward. -/
theorem StopChange.onward (change : StopChange overrides row data) (timed : row.Timed) :
    row.Onward (data.set row) := by
  refine ⟨rfl, change.level_le, fun time recorded => ?_, fun recorded => ?_⟩
  · cases change with
    | updated update able =>
        cases update with
        | arrived now =>
            have waiting : row.arrivedAt = none := by
              refine timed.waiting ?_
              simp only [List.mem_cons, List.not_mem_nil, or_false] at able
              rcases able with status | status <;> rw [status] <;> decide
            rw [waiting] at recorded
            cases recorded
        | _ => exact recorded
    | _ => exact recorded
  · obtain ⟨time, completed⟩ := Option.ne_none_iff_exists'.mp recorded
    cases data.completedAt <;> simp [StopData.set, completed]

/-! ## Writes -/

/-- What a write does to a stop is allowed to one who overrides, or does not. -/
def Write.StepsStop (overrides : Prop) (id : Uuid) : Write → Option DeliveryStop → Prop
  | .createStop row, found => row.id = id → found = none ∧ row.Fresh
  | .updateStop key data, found => id = key → ∃ row, found = some row ∧
      StopChange overrides row data
  | _, _ => True

end Armada
