import Armada.Effects.Rows
import Armada.Effects.Services

/-!
# The lifecycle of a stop

Every operation on a stop claims the row with a condition on its status and on the
status of its delivery, tested by the update itself. The state machine of the
design therefore holds in every run; only the override of a conflict steps out of
it, and only to `DELIVERED`.
-/

namespace Armada

open Relational Concurrency

/-- The edges of the stop state machine, but for the override. -/
def stopTransitions : List (StopStatus × StopStatus) :=
  [(.pending, .enRoute), (.pending, .arrived), (.pending, .skipped), (.enRoute, .arrived),
    (.enRoute, .failed), (.arrived, .unloading), (.arrived, .delivered), (.arrived, .failed),
    (.unloading, .delivered), (.unloading, .failed)]

/-- A change of the status of a stop that the state machine has. -/
structure LawfulStopChange (request : Request) (db : Db) (row : DeliveryStop)
    (after : StopStatus) : Prop where
  edge : row.status ≠ after →
    (row.status, after) ∈ stopTransitions ∨ request.overrides = true ∧ after = .delivered
  delivered : row.status = .delivered → after = .delivered
  operational : row.status ≠ after → request.overrides = false →
    ∃ parent, db.delivery? row.deliveryId = some parent ∧ ¬parent.status.Terminal

/-- No change is lawful. -/
theorem LawfulStopChange.refl (request : Request) (db : Db) (row : DeliveryStop) :
    LawfulStopChange request db row row.status :=
  ⟨fun different => absurd rfl different, id, fun different => absurd rfl different⟩

/-- The steps that drivers and operators take are edges of the state machine. -/
theorem StopMove.transition (move : StopMove) :
    ∀ status ∈ move.expected, (status, move.target) ∈ stopTransitions := by
  cases move <;> decide

/-- No edge of the table leaves DELIVERED. -/
theorem transition_of_delivered :
    ∀ edge ∈ stopTransitions, edge.1 ≠ .delivered := by
  decide

/-- A conditional update changes a stop lawfully if its edges are those of the
state machine. -/
theorem LawfulStopChange.of_matched {request : Request} {db : Db} {id : Uuid}
    {row : DeliveryStop} {expected : List StopStatus} {target : StopStatus}
    (found : db.stop? id = some row)
    (matched : Prisma.DeliveryStop.matched db id expected terminalDeliveryStatuses = true)
    (edges : ∀ status ∈ expected, (status, target) ∈ stopTransitions) :
    LawfulStopChange request db row target := by
  obtain ⟨stop, same, member, parent, foundParent, operational⟩ :=
    Prisma.DeliveryStop.matched_iff.mp matched
  obtain rfl : stop = row := Option.some.inj (same.symm.trans found)
  have edge := edges _ member
  exact ⟨fun _ => .inl edge, fun delivered => absurd delivered (transition_of_delivered _ edge),
    fun _ _ => ⟨parent, foundParent, operational⟩⟩

variable [UuidText]

/-- Every effect changes every stop lawfully. -/
theorem Effect.lawfulStopChange {request : Request} {core : List Write} {db : Db}
    (effect : Effect request core db) {id : Uuid} {row row' : DeliveryStop}
    (before : db.stop? id = some row) (after : (db.commit core).stop? id = some row') :
    LawfulStopChange request db row row'.status := by
  cases effect.stopStep before after with
  | unchanged => exact .refl _ _ _
  | @moved data move able matched target order =>
      rw [show (data.set row).status = move.target by simp [StopData.set, target]]
      exact .of_matched before matched move.transition
  | @delivered data able matched target order =>
      rw [show (data.set row).status = .delivered by simp [StopData.set, target]]
      exact .of_matched before matched (by decide)
  | @overridden conflictId dto user role conflict data requested status found target outcome order =>
      rw [show (data.set row).status = .delivered by simp [StopData.set, outcome]]
      have overrides : request.overrides = true := by
        rw [requested]
        exact decide_eq_true status
      exact ⟨fun _ => .inr ⟨overrides, rfl⟩, fun _ => rfl,
        fun _ plain => absurd overrides (by simp [plain])⟩
  | resequenced requested => exact .refl _ _ _

/-- In every run of any requests on any store, every commit changes the status of
every stop along an edge of the state machine, never away from `DELIVERED`, and,
but for overrides, only while the delivery is operational. -/
theorem stop_lifecycle {db : Db} {requests : List Request} {trace : List (Commit store)}
    {final : Pool store Response} (steps : (Request.pool db requests).Steps trace final) :
    ∀ commit ∈ trace, ∀ request, requests[commit.thread]? = some request →
      ∀ id row row', commit.before.stop? id = some row → commit.after.stop? id = some row' →
        LawfulStopChange request commit.before row row'.status := by
  intro commit member request made id row row' before after
  obtain ⟨maker, found, effect⟩ := Request.effect_of_steps steps commit member
  obtain rfl : maker = request := Option.some.inj (found.symm.trans made)
  refine effect.lawfulStopChange before ?_
  rw [(Db.commit_essential commit.before commit.writes).stop?]
  exact after

/-! ## A proof of delivery that comes after a cancellation -/

namespace LateProof

omit [UuidText]

def owner : DeliveryActor := { userId := 9, role := .admin }

def driver : DeliveryActor := { userId := 30, role := .driver, driverId := some 3 }

def db : Db where
  deliveries := Table.empty.insert
    { id := 1, deliveryCode := "D-1", driverId := some 3, status := .enRoute, createdBy := 9 }
  deliveryStops := Table.empty.insert { id := 7, deliveryId := 1, sequence := 1, status := .arrived }

def requests : List Request :=
  [.submitPod 7 { receiverName := .string "R" } driver, .cancelDelivery 1 ⟨"late"⟩ owner]

def pool : Pool store Response := @Request.pool noUuids db requests

/-- The submission reads the stop, the cancellation runs, and the submission goes on. -/
def schedule : List (Nat × (Nat → store.Input)) :=
  [0, 1, 1, 0, 0].map fun thread => (thread, fun _ => {})

/-- The schedule is a run. -/
theorem steps : pool.Steps (pool.play schedule).1 (pool.play schedule).2 :=
  Pool.play_steps schedule pool

/-- The cancellation wins, the stop stays as it is, and each step is lawful. -/
theorem stop_lifecycle_of_race :
    ((pool.play schedule).2.state.delivery? 1).map Delivery.status = some .cancelled ∧
      ((pool.play schedule).2.state.stop? 7).map DeliveryStop.status = some .arrived ∧
      ∀ commit ∈ (pool.play schedule).1, ∀ request, requests[commit.thread]? = some request →
        ∀ id row row', commit.before.stop? id = some row → commit.after.stop? id = some row' →
          LawfulStopChange request commit.before row row'.status :=
  ⟨by decide, by decide, @stop_lifecycle noUuids db requests _ (pool.play schedule).2 steps⟩

end LateProof

end Armada
