import Armada.Communication.CallSessionService

/-!
# WsRoomAuthorizerService

`src/modules/realtime/services/ws-room-authorizer.service.ts`: which rooms a socket may join,
by the name of the room.
-/

namespace Armada.Communication

open Concurrency
open Auth (AuthenticatedSocketData UuidSpelling spelled)

/-! ## Room names -/

/-- The white space that `trim` takes away. -/
def isWhiteSpace (char : Char) : Bool :=
  char.val ∈ [0x9, 0xA, 0xB, 0xC, 0xD, 0x20, 0xA0, 0x1680, 0x2028, 0x2029, 0x202F, 0x205F, 0x3000,
    0xFEFF] || (0x2000 ≤ char.val && char.val ≤ 0x200A)

/-- `trim`. -/
def trim (text : String) : String :=
  String.ofList ((text.toList.dropWhile isWhiteSpace).reverse.dropWhile isWhiteSpace).reverse

/-- `room.split(':')[0]`. -/
def category (room : String) : String := String.ofList (room.toList.takeWhile (· ≠ ':'))

/-- `room.split(':').slice(1).join(':')`. -/
def resourceId (room : String) : String :=
  String.ofList ((room.toList.dropWhile (· ≠ ':')).drop 1)

/-- What stands before the first colon of a name. -/
theorem category_eq {room before : String} {after : List Char} (plain : ':' ∉ before.toList)
    (same : room.toList = before.toList ++ ':' :: after) : category room = before := by
  have whole : (before.toList ++ ':' :: after).takeWhile (fun char => char ≠ ':') =
      before.toList := by
    rw [List.takeWhile_append_of_pos]
    · simp
    · intro char member
      have different : char ≠ ':' := by
        rintro rfl
        exact plain member
      exact decide_eq_true different
  rw [category, same, whole, String.ofList_toList]

/-! ## Authorization -/

/-- What the authorizer answers. -/
structure RoomAuthorizationResult where
  authorized : Bool
  reason : Option String := none
  normalizedRoom : Option String := none
  deriving DecidableEq

namespace RoomAuthorizationResult

/-- The room is denied, for a reason. -/
def denied (reason : String) : RoomAuthorizationResult := { authorized := false, reason }

/-- The room is granted. -/
def granted (normalizedRoom : String) : RoomAuthorizationResult :=
  { authorized := true, normalizedRoom := some normalizedRoom }

end RoomAuthorizationResult

open RoomAuthorizationResult

variable [UuidSpelling]

namespace WsRoomAuthorizerService

/-- The roles that join the room of every delivery and call. -/
def isAdmin (role : String) : Bool := role = "ADMIN" || role = "SUPER_ADMIN"

/-- Whether the driver of a socket, if it has one, is a given one. -/
def drives (socketData : AuthenticatedSocketData) (driverId : Option Uuid) : Bool :=
  socketData.driverId.isSome && driverId = socketData.driverId

/-- The room of a delivery. -/
def authorizeDeliveryRoom (socketData : AuthenticatedSocketData)
    (deliveryId normalizedRoom : String) : Proc communication RoomAuthorizationResult :=
  if deliveryId = "" then return denied "MISSING_DELIVERY_ID"
  else do
    let found ← Prisma.Delivery.findUnique deliveryId
    match found with
    | none => return denied "DELIVERY_NOT_FOUND"
    | some delivery =>
        let allowed :=
          if isAdmin socketData.role then true
          else if socketData.role = "OWNER" then
            decide (spelled delivery.createdBy = socketData.userId) ||
              (socketData.organizationId.isSome &&
                decide (delivery.organizationId = socketData.organizationId))
          else socketData.role = "DRIVER" && drives socketData delivery.driverId
        return if allowed then granted normalizedRoom else denied "ROOM_ACCESS_DENIED"

/-- The room of a conversation. -/
def authorizeConversationRoom (socketData : AuthenticatedSocketData)
    (conversationId normalizedRoom : String) : Proc communication RoomAuthorizationResult :=
  if conversationId = "" then return denied "MISSING_CONVERSATION_ID"
  else do
    let found ← Prisma.Conversation.findUnique conversationId
    match found with
    | none => return denied "CONVERSATION_NOT_FOUND"
    | some conversation =>
        let allowed := decide (spelled conversation.ownerId = socketData.userId) ||
          drives socketData (some conversation.driverId)
        return if allowed then granted normalizedRoom else denied "ROOM_ACCESS_DENIED"

/-- The room of a call. -/
def authorizeRealtimeSessionRoom (socketData : AuthenticatedSocketData)
    (sessionId normalizedRoom : String) : Proc communication RoomAuthorizationResult :=
  if sessionId = "" then return denied "MISSING_SESSION_ID"
  else if isAdmin socketData.role then return granted normalizedRoom
  else do
    let found ← Prisma.RealtimeSession.findUnique sessionId
    match found with
    | none => return denied "SESSION_NOT_FOUND"
    | some session =>
        let allowed := decide (spelled session.ownerId = socketData.userId) ||
          drives socketData (some session.driverId)
        return if allowed then granted normalizedRoom else denied "ROOM_ACCESS_DENIED"

/-- The room of the fleet, for administrators and owners. -/
def authorizeFleetMonitoringRoom (socketData : AuthenticatedSocketData)
    (normalizedRoom : String) : RoomAuthorizationResult :=
  if isAdmin socketData.role || socketData.role = "OWNER" then granted normalizedRoom
  else denied "ROOM_ACCESS_DENIED"

/-- `authorizeRoomJoin`: by the category of the room's name. -/
def authorizeRoomJoin (socketData : AuthenticatedSocketData) (roomName : String) :
    Proc communication RoomAuthorizationResult :=
  let trimmedRoom := trim roomName
  let resourceId := resourceId trimmedRoom
  if socketData.userId.truthy = false then return denied "UNAUTHENTICATED"
  else if trimmedRoom = "" then return denied "INVALID_ROOM_FORMAT"
  else if category trimmedRoom = "delivery" then
    authorizeDeliveryRoom socketData resourceId trimmedRoom
  else if category trimmedRoom = "conversation" then
    authorizeConversationRoom socketData resourceId trimmedRoom
  else if category trimmedRoom = "session" then
    authorizeRealtimeSessionRoom socketData resourceId trimmedRoom
  else if category trimmedRoom = "fleet" then
    if resourceId = "monitoring" then
      return authorizeFleetMonitoringRoom socketData trimmedRoom
    else return denied "UNKNOWN_ROOM_PATTERN"
  else return denied "UNKNOWN_ROOM_PATTERN"

end WsRoomAuthorizerService

end Armada.Communication
