import Armada.Idempotency
import Armada.Deliveries.DeliveryStopsService

/-!
# PodService

`src/modules/pod/services/pod.service.ts`: submitting a proof of delivery, which
delivers the stop.
-/

namespace Armada

open Concurrency

/-- The offline sync passes on what the client sent, so the columns take any
value here; the validated request bodies are among them. -/
structure SubmitPodDto where
  receiverName : JsValue
  photoFileId : JsValue := .undefined
  signatureFileId : JsValue := .undefined
  notes : JsValue := .undefined
  idempotencyKey : Option Uuid := none
  deriving DecidableEq

/-- What `submitPod` returns. -/
inductive PodReply where
  | reply (reply : Reply)
  | alreadySubmitted (podId : Option Uuid) (deliveryStopId : Uuid) (completedAt : Option Instant)
  deriving DecidableEq

namespace PodService

open DeliveriesService (conflict completeDeliveryIfEligible)
open DeliveryStopsService (getStopAndVerifyDriver verifiedDriver)

/-- The endpoint of both callers. -/
def endpoint : String := "/v1/me/stops/:id/pod"

/-- The key of a record, if the submission has one. -/
def recordKey (actor : DeliveryActor) (idempotencyKey : Option Uuid) : Option IdempotencyKey :=
  idempotencyKey.map fun key => ⟨key, actor.userId, endpoint⟩

/-- `isUniqueConstraintError`. -/
def isUniqueConstraintError (error : Exception) : Bool :=
  error = .prisma (.knownRequest .uniqueConstraint)

/-- The events of a proof, in the delivery's room and the fleet's. -/
def broadcastPodCreated (deliveryId stopId : Uuid) (podResult : ResponseBody)
    (actor : DeliveryActor) : Statement store Unit :=
  RealtimeGateway.emit [.delivery deliveryId.text]
    (.podCreated deliveryId stopId
      (match podResult with
      | .pod podId _ _ => some podId
      | _ => none))
    actor.realtime

variable [UuidText]

/-- The transaction of `submitPod`. -/
def claimPod (stopId deliveryId : Uuid) (dto : SubmitPodDto) (actor : DeliveryActor) :
    Txn store ResponseBody := do
  Idempotency.claim (recordKey actor dto.idempotencyKey)
  let claimed ← Prisma.DeliveryStop.updateMany stopId [.unloading, .arrived]
    terminalDeliveryStatuses fun input =>
      { status := some .delivered, completedAt := some input.now }
  Txn.rejectIf (claimed ≠ 1)
    (conflict "INVALID_DELIVERY_STATE"
      "Cannot submit POD after the delivery has become terminal")
  let pod ← Prisma.ProofOfDelivery.create stopId dto.receiverName dto.photoFileId
    dto.signatureFileId dto.notes actor.userId
  -- `create` has succeeded, so the name of the dto is the string in the row
  Prisma.DeliveryEvent.create deliveryId (some stopId) "POD_SUBMITTED" actor.userId
    (.pod pod.id pod.receiverName)
  let result := ResponseBody.pod pod.id stopId pod.completedAt
  Idempotency.settle (recordKey actor dto.idempotencyKey) 201 result
  return result

/-- The path of a stop that is delivered already. -/
def alreadySubmitted (stop : DeliveryStop) (stopId : Uuid) : Proc store PodReply := do
  let existingPod ← Prisma.ProofOfDelivery.findUnique stopId
  return .alreadySubmitted (existingPod.map ProofOfDelivery.id) stopId
    (existingPod.map ProofOfDelivery.completedAt <|> stop.completedAt)

/-- Past the replay and the fast path: check the snapshot, do the work once. -/
def submitOnce (stop : DeliveryStop) (delivery : Delivery) (stopId : Uuid) (dto : SubmitPodDto)
    (actor : DeliveryActor) : Proc store PodReply := do
  Proc.rejectIf (delivery.status ∈ terminalDeliveryStatuses)
    (conflict "INVALID_DELIVERY_STATE"
      s!"Cannot submit POD while delivery is in state {delivery.status.name}")
  Proc.rejectIf (stop.status ≠ .unloading ∧ stop.status ≠ .arrived)
    (conflict "INVALID_STATE_TRANSITION"
      s!"Cannot submit POD for stop in status {stop.status.name}. Expected UNLOADING or ARRIVED")
  let reply ← Idempotency.transactOnce (recordKey actor dto.idempotencyKey)
    isUniqueConstraintError (claimPod stopId stop.deliveryId dto actor)
  match reply with
  | .replayed body => return .reply (.replayed body)
  | .fresh podResult =>
      broadcastPodCreated stop.deliveryId stopId podResult actor
      completeDeliveryIfEligible stop.deliveryId actor
      return .reply (.fresh podResult)

/-- `submitPod`: the stop and its driver, then the submission. -/
def submitPod (stopId : Uuid) (dto : SubmitPodDto) (actor : DeliveryActor) :
    Proc store PodReply := do
  let (stop, delivery) ← getStopAndVerifyDriver stopId (verifiedDriver actor)
  let existingRecord ← Idempotency.stored (recordKey actor dto.idempotencyKey)
  match existingRecord with
  | some body => return .reply (.replayed body)
  | none =>
      if stop.status = .delivered then alreadySubmitted stop stopId
      else submitOnce stop delivery stopId dto actor

end PodService

end Armada
