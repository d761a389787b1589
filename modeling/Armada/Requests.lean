import Armada.Deliveries.DeliveryConflictsService
import Armada.Routes.RoutesDomainService
import Armada.Conversations.MessagesService
import Armada.Concurrency.Pool

/-!
# Requests

The calls a client can make, as the processes that run on the shared store.
-/

namespace Armada

open Concurrency

/-- A call of one of the services, with its arguments. -/
inductive Request where
  | createDelivery (dto : CreateDeliveryDto) (creatorUserId : Uuid)
  | assignDelivery (deliveryId : IdText) (dto : AssignDeliveryDto) (actor : DeliveryActor)
  | acceptDelivery (deliveryId : IdText) (actorDriverId actorUserId : Uuid)
  | startDelivery (deliveryId : IdText) (actorDriverId actorUserId : Uuid)
  | completeDelivery (deliveryId : IdText) (actor : DeliveryActor)
  | cancelDelivery (deliveryId : IdText) (dto : CancelDeliveryDto) (actor : DeliveryActor)
  | departToStop (stopId actorDriverId actorUserId : Uuid)
  | arriveAtStop (stopId actorDriverId actorUserId : Uuid)
  | startUnloading (stopId actorDriverId actorUserId : Uuid)
  | failStop (stopId : Uuid) (dto : StopReasonDto) (actorDriverId actorUserId : Uuid)
  | skipStop (stopId : Uuid) (dto : StopReasonDto) (actor : DeliveryActor)
  | submitPod (stopId : Uuid) (dto : SubmitPodDto) (actor : DeliveryActor)
  | syncOutbox (dto : OutboxSyncDto) (actorDriverId actorUserId : Uuid)
  | resolveConflict (conflictId : IdText) (dto : ResolveConflictDto) (actorUserId : Uuid)
      (actorRole : Role)
  | selectRoute (deliveryId : IdText) (dto : SelectRouteDto) (actor : RouteActor)
  | reorderStops (deliveryId : IdText) (dto : ManualReorderDto) (actor : RouteActor)
  | sendMessage (conversationId : Uuid) (dto : SendMessageDto) (actor : UserActor)
      (channel : MessageChannel)

/-- What the services return. -/
inductive Response where
  | delivery (row : Option Delivery)
  | stop (row : Option (DeliveryStop × Delivery))
  | pod (reply : PodReply)
  | sync (result : SyncResult)
  | conflict (row : DeliveryConflict)
  | reply (reply : Reply)

/-- The process of a request. -/
def Request.proc [UuidText] : Request → Proc store Response
  | .createDelivery dto creatorUserId =>
      (Response.delivery ∘ some) <$> DeliveriesService.createDelivery dto creatorUserId
  | .assignDelivery deliveryId dto actor =>
      (Response.delivery ∘ some) <$> DeliveriesService.assignDelivery deliveryId dto actor
  | .acceptDelivery deliveryId actorDriverId actorUserId =>
      (Response.delivery ∘ some) <$>
        DeliveriesService.acceptDelivery deliveryId actorDriverId actorUserId
  | .startDelivery deliveryId actorDriverId actorUserId =>
      (Response.delivery ∘ some) <$>
        DeliveriesService.startDelivery deliveryId actorDriverId actorUserId
  | .completeDelivery deliveryId actor =>
      Response.delivery <$> DeliveriesService.completeDelivery deliveryId actor
  | .cancelDelivery deliveryId dto actor =>
      Response.delivery <$> DeliveriesService.cancelDelivery deliveryId dto actor
  | .departToStop stopId actorDriverId actorUserId =>
      Response.stop <$> DeliveryStopsService.departToStop stopId actorDriverId actorUserId
  | .arriveAtStop stopId actorDriverId actorUserId =>
      Response.stop <$> DeliveryStopsService.arriveAtStop stopId actorDriverId actorUserId
  | .startUnloading stopId actorDriverId actorUserId =>
      Response.stop <$> DeliveryStopsService.startUnloading stopId actorDriverId actorUserId
  | .failStop stopId dto actorDriverId actorUserId =>
      Response.stop <$> DeliveryStopsService.failStop stopId dto actorDriverId actorUserId
  | .skipStop stopId dto actor =>
      Response.stop <$> DeliveryStopsService.skipStop stopId dto actor
  | .submitPod stopId dto actor => Response.pod <$> PodService.submitPod stopId dto actor
  | .syncOutbox dto actorDriverId actorUserId =>
      Response.sync <$> DeliveryConflictsService.syncOutbox dto actorDriverId actorUserId
  | .resolveConflict conflictId dto actorUserId actorRole =>
      Response.conflict <$>
        DeliveryConflictsService.resolveConflict conflictId dto actorUserId actorRole
  | .selectRoute deliveryId dto actor =>
      Response.reply <$> RoutesDomainService.selectRoute deliveryId dto actor
  | .reorderStops deliveryId dto actor =>
      Response.reply <$> RoutesDomainService.reorderStops deliveryId dto actor
  | .sendMessage conversationId dto actor channel =>
      Response.reply <$> MessagesService.sendMessage conversationId dto actor channel

/-- A database driver that takes no string for a UUID, where none is parsed. -/
@[reducible] def noUuids : UuidText := ⟨fun _ => none⟩

/-- A database driver that reads the strings of a table as UUIDs. -/
@[reducible] def tableUuids (table : List (String × Uuid)) : UuidText :=
  ⟨fun text => table.lookup text⟩

/-- Requests that start together on a state. -/
def Request.pool [UuidText] (db : Db) (requests : List Request) : Pool store Response where
  state := db
  procs := requests.map Request.proc

end Armada
