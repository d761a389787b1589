import Armada.Concurrency.Service
import Armada.Properties.CallInvite
import Armada.Properties.DeliveryAccess
import Mathlib.Data.List.TakeWhile

/-!
# The rooms of deliveries

A driver is let into the room of a delivery that was assigned to him when the authorizer looked,
and nothing puts him out again. So the drivers in the rooms are those of the assignments as long
as no delivery is taken from a driver who is in its room, or about to enter it.
-/

namespace Armada.Communication.DeliveryRooms

open Relational Concurrency Realtime
open Auth (AuthenticatedSocketData UuidSpelling spelled)
open DeliveryAccess (selected roomAllowed)
open Communication.RealtimeGateway CallSessionService

/-! ## Assignments -/

/-- The driver of an update, if it has one. -/
def assign (data : DeliveryData) (row : Delivery) : Delivery :=
  { row with driverId := data.driverId <|> row.driverId }

/-- An assignment keeps the id. -/
theorem key_assign (data : DeliveryData) (row : Delivery) :
    Keyed.key (assign data row) = Keyed.key row := rfl

/-- What a write of the delivery services does to the deliveries that the authorizer selects;
of all requests only `assignDelivery` sets the driver. -/
def reselect (write : Armada.Write) (rows : Table Delivery) : Table Delivery :=
  match write with
  | .createDelivery row => rows.insert (selected row)
  | .updateDelivery id data => rows.modify id (assign data)
  | _ => rows

/-- The rows are those of the store, as the authorizer selects them. -/
def Selects (db : Armada.Db) (rows : Table Delivery) : Prop :=
  ∀ id, rows.find? id = (db.delivery? id).map selected

/-- The selection follows the store's writes. -/
theorem Selects.apply {db : Armada.Db} {rows : Table Delivery} (selects : Selects db rows)
    (write : Armada.Write) : Selects (write.apply db) (reselect write rows) := by
  intro id
  cases write with
  | createDelivery row =>
      change (rows.insert (selected row)).find? id =
        ((db.deliveries.insert row).find? id).map selected
      have same : Keyed.key (selected row) = Keyed.key row := rfl
      rw [Table.find?_insert, Table.find?_insert, selects id, Option.map_or, same]
      by_cases here : Keyed.key row = id
      · rw [if_pos here, if_pos here]
        rfl
      · rw [if_neg here, if_neg here]
        rfl
  | updateDelivery other data =>
      change (rows.modify other (assign data)).find? id =
        ((db.deliveries.modify other data.set).find? id).map selected
      have keyed : ∀ row, Keyed.key (data.set row) = Keyed.key row := fun _ => rfl
      rw [Table.find?_modify _ _ _ (key_assign data), Table.find?_modify _ _ _ keyed, selects id]
      by_cases here : id = other
      · rw [if_pos here, if_pos here, Option.map_map, Option.map_map]
        rfl
      · rw [if_neg here, if_neg here]
        rfl
  | _ => exact selects id

/-- A write of the delivery services, as the authorizer sees it. -/
def Rewritten (write : Armada.Write) (before after : Db) : Prop :=
  after = { before with deliveries := reselect write before.deliveries }

/-! ## The drivers in the rooms -/

section Rooms

variable [UuidSpelling]

/-- The room is one of the delivery, in some spelling. -/
def Denotes (room : String) (deliveryId : Uuid) : Prop :=
  category room = "delivery" ∧ UuidText.parse (resourceId room) = some deliveryId

/-- The driver of a delivery, if the delivery is there. -/
def driver? (db : Db) (deliveryId : Uuid) : Option (Option Uuid) :=
  (db.deliveries.find? deliveryId).map Delivery.driverId

/-- What the handshake has left on each socket; the ids of sockets are not used again. -/
abbrev Handshakes := SocketId → AuthenticatedSocketData

/-- A socket of a driver is in the room. -/
structure Inside (handshakes : Handshakes) (db : Db) (deliveryId : Uuid) (socket : SocketId) :
    Prop where
  driver : (handshakes socket).role = "DRIVER"
  room : ∃ room ∈ db.rooms socket, Denotes room deliveryId

/-- Every driver in the room of a delivery is the one that it is assigned to. -/
def Follows (handshakes : Handshakes) (db : Db) : Prop :=
  ∀ deliveryId socket, Inside handshakes db deliveryId socket →
    ∃ driverId, (handshakes socket).driverId = some driverId ∧
      driver? db deliveryId = some (some driverId)

/-- A delivery that the write hands to a driver is not left behind in its room by another. -/
def Careful (handshakes : Handshakes) (before : Db) : Armada.Write → Prop
  | .updateDelivery id data => ∀ driverId, data.driverId = some driverId →
      ∀ socket, Inside handshakes before id socket → (handshakes socket).driverId = some driverId
  | _ => True

/-- Requests of sockets with the data of their handshakes, while the deliveries are written. -/
def service (handshakes : Handshakes) (allows : Db → Armada.Write → Prop) :
    Service communication Request (Option RealtimeSession) where
  proc := Request.proc
  admits _ request := ∀ client room, request = .joinRoom client room →
    client.data = handshakes client.id
  changes before after := ∃ write, allows before write ∧ Rewritten write before after

/-- A turn lets a driver into the room of a delivery only while the delivery is assigned as it
was when the authorizer looked. -/
def Prompt (handshakes : Handshakes) (first : List (Concurrency.Turn communication))
    (turn : Concurrency.Turn communication) : Prop :=
  ∀ socket room deliveryId, .join socket room ∈ turn.writes →
    (handshakes socket).role = "DRIVER" → Denotes room deliveryId →
      ∀ lookup ∈ Pool.own first turn.thread,
        lookup.Performs (Prisma.Delivery.findUnique (resourceId room)) →
          driver? turn.before deliveryId = driver? lookup.before deliveryId

/-! ## What happens to the rooms -/

section Changes

variable {handshakes : Handshakes} {before after : Db} {write : Armada.Write}

/-- Who is inside depends on the rooms, which a rewriting leaves. -/
theorem Inside.of_rewritten {deliveryId : Uuid} {socket : SocketId}
    (rewritten : Rewritten write before after) :
    Inside handshakes after deliveryId socket ↔ Inside handshakes before deliveryId socket := by
  rw [rewritten]
  exact ⟨fun inside => ⟨inside.driver, inside.room⟩, fun inside => ⟨inside.driver, inside.room⟩⟩

omit [UuidSpelling] in
/-- The driver after an update of a delivery. -/
theorem driver?_update {id : Uuid} {data : DeliveryData}
    (rewritten : Rewritten (.updateDelivery id data) before after) (deliveryId : Uuid) :
    driver? after deliveryId =
      if deliveryId = id then (driver? before deliveryId).map fun driverId => data.driverId <|> driverId
      else driver? before deliveryId := by
  rw [driver?, rewritten]
  change ((before.deliveries.modify id (assign data)).find? deliveryId).map _ = _
  rw [Table.find?_modify _ _ _ (key_assign data), driver?]
  split
  · rw [Option.map_map, Option.map_map]
    rfl
  · rfl

omit [UuidSpelling] in
/-- The driver after the creation of one. -/
theorem driver?_create {row : Armada.Delivery}
    (rewritten : Rewritten (.createDelivery row) before after) {deliveryId : Uuid}
    {driverId : Option Uuid} (found : driver? before deliveryId = some driverId) :
    driver? after deliveryId = some driverId := by
  obtain ⟨old, foundOld, rfl⟩ := Option.map_eq_some_iff.mp found
  rw [driver?, rewritten]
  change ((before.deliveries.insert (selected row)).find? deliveryId).map _ = _
  rw [Table.find?_insert_of_some foundOld]
  rfl

/-- A write leaves the rooms right exactly if it leaves no driver behind. -/
theorem follows_rewritten (rewritten : Rewritten write before after)
    (follows : Follows handshakes before) :
    Follows handshakes after ↔ Careful handshakes before write := by
  constructor
  · intro followsAfter
    cases write with
    | updateDelivery id data =>
        intro driverId sets socket inside
        obtain ⟨former, _, assigned⟩ := follows id socket inside
        obtain ⟨current, own, assignedAfter⟩ :=
          followsAfter id socket ((Inside.of_rewritten rewritten).mpr inside)
        rw [driver?_update rewritten, if_pos rfl, assigned, sets] at assignedAfter
        have same : driverId = current := by simpa using assignedAfter
        rw [own, same]
    | _ => exact trivial
  · intro careful deliveryId socket inside
    rw [Inside.of_rewritten rewritten] at inside
    obtain ⟨driverId, own, assigned⟩ := follows deliveryId socket inside
    refine ⟨driverId, own, ?_⟩
    cases write with
    | createDelivery row => exact driver?_create rewritten assigned
    | updateDelivery id data =>
        rw [driver?_update rewritten]
        by_cases here : deliveryId = id
        · subst here
          rw [if_pos rfl, assigned]
          cases sets : data.driverId with
          | none => rfl
          | some latter =>
              have same := careful latter sets socket inside
              rw [own] at same
              exact congrArg (fun driver => some driver) same.symm
        · rw [if_neg here]
          exact assigned
    | _ =>
        rw [rewritten]
        exact assigned

end Changes

/-! ## Who enters a room -/

/-- The authorizer has looked at the delivery of the room, and lets the socket in. -/
def Granted (data : AuthenticatedSocketData) (room : String)
    (history : List (Concurrency.Turn communication)) : Prop :=
  ∃ lookup ∈ history, ∃ row,
    lookup.Returned (Prisma.Delivery.findUnique (resourceId room)) (some row) ∧
      roomAllowed data row = true

/-- A turn lets a socket into the room of a delivery only for a `join_room` of the socket that
has been granted. -/
def Enters (request : Request) (history : List (Concurrency.Turn communication))
    (turn : Concurrency.Turn communication) : Prop :=
  ∀ socket room, .join socket room ∈ turn.writes → category room = "delivery" →
    ∃ client typed, request = .joinRoom client typed ∧ socket = client.id ∧
      Granted client.data room history

section Contract

variable {request : Request} {history later : List (Concurrency.Turn communication)}
  {turn : Concurrency.Turn communication} {supplied : Concurrency.Turn communication → Prop}
  {thread : Nat} {data : AuthenticatedSocketData} {room : String}

/-- What was granted stays granted later. -/
theorem Granted.mono (granted : Granted data room history) (extended : history ⊆ later) :
    Granted data room later := by
  obtain ⟨lookup, member, row, returned, allowed⟩ := granted
  exact ⟨lookup, extended member, row, returned, allowed⟩

/-- What lets nobody in. -/
theorem enters_of_none (none : ∀ socket room, .join socket room ∉ turn.writes) :
    Enters request history turn :=
  fun socket room member => absurd member (none socket room)

/-- A quiet turn enters no room. -/
theorem enters_of_quiet (history : List (Concurrency.Turn communication))
    (turn : Concurrency.Turn communication) (quiet : Quiet turn.writes) :
    Enters request history turn :=
  enters_of_none fun _ _ member => by cases quiet _ member

/-- An idle turn enters none. -/
theorem enters_of_idle (idle : turn.writes = []) : Enters request history turn :=
  enters_of_none fun _ _ member => by simp [idle] at member

/-- A turn of one write that is no join enters none. -/
theorem enters_of_single {write : Write} (made : turn.writes = [write])
    (other : ∀ socket room, write ≠ .join socket room) : Enters request history turn := by
  refine enters_of_none fun socket room member => ?_
  rw [made] at member
  exact other socket room (List.mem_singleton.mp member).symm

/-- The update of a session enters none. -/
theorem enters_of_updateMany {sessionId : String} {condition : RealtimeSession → Bool}
    {change : SessionChange}
    (performs : turn.Performs (Prisma.RealtimeSession.updateMany sessionId condition change)) :
    Enters request history turn := by
  obtain idle | ⟨id, made⟩ := updateMany_writes performs
  · exact enters_of_idle idle
  · exact enters_of_single made fun _ _ => nofun

/-- The end of a session enters none. -/
theorem enters_of_finish {sessionId : String} {instant : Int}
    (performs : turn.Performs (finish sessionId instant)) : Enters request history turn := by
  obtain idle | ⟨row, succeeded⟩ := performs.ends
  · exact enters_of_idle idle
  · obtain ⟨_, _, _, _, _, _, made⟩ := Prisma.RealtimeSession.update_succeeds.mp succeeded
    exact enters_of_single made fun _ _ => nofun

/-! ### The authorizer -/

/-- A socket that is let in is let into this room, which keeps to a condition. -/
def Admits (room : String) (holds : Prop) (result : Except Exception RoomAuthorizationResult) :
    Prop :=
  ∀ granted, result = .ok granted → granted.authorized = true →
    granted.normalizedRoom = some room ∧ holds

omit [UuidSpelling] in
/-- A denial admits nobody. -/
theorem admits_denied (holds : Prop) (reason : String) : Admits room holds (.ok (.denied reason)) := by
  rintro _ ⟨⟩ ⟨⟩

omit [UuidSpelling] in
/-- Nor does an error. -/
theorem admits_error (holds : Prop) (error : Exception) : Admits room holds (.error error) := nofun

omit [UuidSpelling] in
/-- A conditional grant admits where its condition holds. -/
theorem admits_ite {condition : Prop} [Decidable condition] {holds : Prop} (reason : String)
    (kept : condition → holds) :
    Admits room holds (.ok (if condition then .granted room else .denied reason)) := by
  split
  · rename_i met
    rintro _ ⟨⟩ _
    exact ⟨rfl, kept met⟩
  · exact admits_denied holds reason

section Authorizer

variable {guar : List (Concurrency.Turn communication) → Concurrency.Turn communication → Prop}
  (quiet : ∀ history turn, Quiet turn.writes → guar history turn)

include quiet

/-- A lookup, and what it is found to allow. -/
theorem lookup_admits {β : Type} {id : String} {read : Uuid → Db → β}
    {resume : β → Proc communication RoomAuthorizationResult}
    {holds : List (Concurrency.Turn communication) → Prop}
    (decided : ∀ found turn, turn.Returned (lookup id read) found →
      (resume found).Meets (.turns supplied thread guar)
        (fun result current => Admits room (holds current) result) (history ++ [turn])) :
    (liftM (lookup id read) >>= resume).Meets (.turns supplied thread guar)
      (fun result current => Admits room (holds current) result) history := by
  refine Proc.Meets.told (fun turn performs => ?_) (fun error _ => admits_error _ error) decided
  exact quiet _ _ (quiet_of_performs quiet_lookup performs)

open WsRoomAuthorizerService in
/-- The check of a delivery room grants it to those the database allows. -/
theorem authorizeDeliveryRoom_admits (history : List (Concurrency.Turn communication)) :
    (authorizeDeliveryRoom data (resourceId room) room).Meets (.turns supplied thread guar)
      (fun result current => Admits room (Granted data room current) result) history := by
  apply Proc.Meets.ite
  · intro _
    exact admits_denied _ _
  intro _
  apply lookup_admits quiet
  intro found turn returned
  cases found with
  | none => exact admits_denied _ _
  | some row =>
      refine admits_ite _ fun allowed => ?_
      exact ⟨turn, List.mem_append_right _ List.mem_cons_self, row, returned, allowed⟩

open WsRoomAuthorizerService in
/-- The check of a conversation room says nothing of delivery rooms. -/
theorem authorizeConversationRoom_admits (id : String)
    (history : List (Concurrency.Turn communication)) :
    (authorizeConversationRoom data id room).Meets (.turns supplied thread guar)
      (fun result _ => Admits room True result) history := by
  apply Proc.Meets.ite
  · intro _
    exact admits_denied _ _
  intro _
  apply lookup_admits quiet
  intro found turn _
  cases found with
  | none => exact admits_denied _ _
  | some conversation => exact admits_ite _ fun _ => trivial

open WsRoomAuthorizerService in
/-- Nor does the check of a session room. -/
theorem authorizeRealtimeSessionRoom_admits (id : String)
    (history : List (Concurrency.Turn communication)) :
    (authorizeRealtimeSessionRoom data id room).Meets (.turns supplied thread guar)
      (fun result _ => Admits room True result) history := by
  apply Proc.Meets.ite
  · intro _
    exact admits_denied _ _
  intro _
  apply Proc.Meets.ite
  · intro _
    rintro _ ⟨⟩ _
    exact ⟨rfl, trivial⟩
  intro _
  apply lookup_admits quiet
  intro found turn _
  cases found with
  | none => exact admits_denied _ _
  | some session => exact admits_ite _ fun _ => trivial

/-- Who is let into the room of a delivery has been granted it. -/
theorem authorizeRoomJoin_admits (typed : String)
    (history : List (Concurrency.Turn communication)) :
    (WsRoomAuthorizerService.authorizeRoomJoin data typed).Meets (.turns supplied thread guar)
      (fun result current => Admits (trim typed)
        (category (trim typed) = "delivery" → Granted data (trim typed) current) result) history := by
  rw [WsRoomAuthorizerService.authorizeRoomJoin]
  dsimp only
  generalize trim typed = room
  have elsewhere : ∀ {kind : String} {result : Except Exception RoomAuthorizationResult}
      {current : List (Concurrency.Turn communication)}, category room = kind → kind ≠ "delivery" →
        Admits room True result →
          Admits room (category room = "delivery" → Granted data room current) result := by
    rintro kind result current rfl other admits granted same authorized
    exact ⟨(admits granted same authorized).1, fun delivery => absurd delivery other⟩
  apply Proc.Meets.ite
  · intro _
    exact admits_denied _ _
  intro _
  apply Proc.Meets.ite
  · intro _
    exact admits_denied _ _
  intro _
  apply Proc.Meets.ite
  · intro _
    refine (authorizeDeliveryRoom_admits quiet history).weaken fun result current admits => ?_
    intro granted same authorized
    obtain ⟨named, looked⟩ := admits granted same authorized
    exact ⟨named, fun _ => looked⟩
  intro _
  apply Proc.Meets.ite
  · intro kind
    exact (authorizeConversationRoom_admits quiet _ history).weaken fun _ _ =>
      elsewhere kind (by decide)
  intro _
  apply Proc.Meets.ite
  · intro kind
    exact (authorizeRealtimeSessionRoom_admits quiet _ history).weaken fun _ _ =>
      elsewhere kind (by decide)
  intro _
  apply Proc.Meets.ite
  · intro kind
    apply Proc.Meets.ite
    · intro _
      exact elsewhere kind (by decide) (admits_ite _ fun _ => trivial)
    · intro _
      exact admits_denied _ _
  · intro _
    exact admits_denied _ _

end Authorizer

/-! ### The requests -/

/-- A join enters a room that was granted to it. -/
theorem handleJoinRoom_enters (client : Client) (typed : String) :
    (handleJoinRoom client typed).Commits
      (.turns supplied thread (Enters (.joinRoom client typed))) := by
  have quiet : ∀ history turn, Quiet turn.writes → Enters (.joinRoom client typed) history turn :=
    enters_of_quiet
  rw [handleJoinRoom]
  apply (revalidateSensitiveSocket_commits quiet client).bind
  intro valid
  apply Proc.Commits.ite (Proc.Commits.pure _)
  apply Proc.Commits.ite (clientEmit_commits quiet client rfl)
  apply Proc.Commits.ite (clientEmit_commits quiet client rfl)
  intro history
  apply (authorizeRoomJoin_admits quiet typed history).bind
  · exact fun _ _ _ => trivial
  intro result current admits
  apply Proc.Meets.ite
  · intro _
    exact clientEmit_commits quiet client rfl current
  · intro authorized
    obtain ⟨named, granted⟩ := admits result rfl (by simpa using authorized)
    rw [named]
    refine Proc.Meets.told (fun turn performs => ?_) (fun _ _ => trivial)
      fun _ turn _ => clientEmit_commits quiet client rfl _
    intro socket room member kind
    have joined : turn.writes = [.join client.id (trim typed)] := performs.writes
    rw [joined] at member
    cases List.mem_singleton.mp member
    exact ⟨client, typed, rfl, rfl, granted kind⟩

/-- Every request enters rooms only so. -/
theorem Request.enters (request : Request) :
    request.proc.Commits (.turns supplied thread (Enters request)) := by
  have quiet : ∀ history turn, Quiet turn.writes → Enters request history turn := enters_of_quiet
  cases request with
  | initiate dto actor =>
      apply initiateCallSession_commits quiet dto actor
      · exact fun _ _ row made _ _ => enters_of_single made fun _ _ => nofun
      · exact fun _ _ sessionId made => enters_of_single made fun _ _ => nofun
  | timeout sessionId =>
      exact handlePendingTimeout_commits quiet sessionId fun _ _ _ => enters_of_updateMany
  | respond sessionId action actor =>
      exact respondToCallSession_commits quiet sessionId action actor fun _ _ _ _ =>
        enters_of_updateMany
  | hangUp sessionId actor =>
      exact endCallSession_commits quiet sessionId actor fun _ _ _ => enters_of_finish
  | connect client =>
      apply Proc.Commits.map
      exact handleConnection_commits quiet client fun _ _ reenters made =>
        enters_of_single made fun _ _ => nofun
  | disconnect socketId => exact (remove_commits quiet socketId).map _
  | joinRoom client typed => exact (handleJoinRoom_enters client typed).map _
  | leaveRoom client room => exact (handleLeaveRoom_commits quiet client room).map _
  | respondOverSocket client sessionId action =>
      apply Proc.Commits.map
      apply handleWebrtcCallRespond_commits quiet client sessionId action
      · exact fun _ _ _ _ => enters_of_updateMany
      · -- the room of a session is no delivery's
        intro _ turn made socket room member kind
        rw [made] at member
        cases List.mem_singleton.mp member
        rw [category_sessionRoom] at kind
        exact absurd kind (by decide)
  | signal kind client dto =>
      rw [Request.proc_signal]
      apply Proc.Commits.map
      apply handleWebrtcSignal_commits quiet kind client dto
      · intro _ _ performs
        obtain idle | ⟨_, made⟩ := claimNonce_writes performs
        · exact enters_of_idle idle
        · exact enters_of_single made fun _ _ => nofun
      · intro _ _ _ performs
        obtain idle | ⟨_, made⟩ := advanceSequence_writes performs
        · exact enters_of_idle idle
        · exact enters_of_single made fun _ _ => nofun
      · exact fun _ _ _ _ performs => enters_of_single performs.writes fun _ _ => nofun
  | hangUpOverSocket client sessionId =>
      apply Proc.Commits.map
      exact handleWebrtcCallHangup_commits quiet client sessionId fun _ _ _ => enters_of_finish
  | pass elapsed =>
      apply Proc.Commits.map
      exact Proc.Commits.performs fun _ _ performs =>
        enters_of_single performs.writes fun _ _ => nofun

end Contract

/-! ## Runs -/

section Runs

omit [UuidSpelling] in
/-- A room that a socket is in after a write. -/
theorem mem_rooms_apply {write : Write} {db : Db} {socket : SocketId} {room : String}
    (member : room ∈ (write.apply db).rooms socket) :
    room ∈ db.rooms socket ∨ room = socket.text ∨ write = .join socket room := by
  cases write with
  | registerSocket client reenters =>
      simp only [Write.apply, Db.register] at member
      split at member
      · rename_i same
        subst same
        exact .inr (.inl (List.mem_singleton.mp member))
      · split at member
        · cases member
        · exact .inl member
  | join id joined =>
      change room ∈ if socket = id then joined :: db.rooms id else db.rooms socket at member
      split at member
      · rename_i same
        subst same
        rcases List.mem_cons.mp member with rfl | old
        · exact .inr (.inr rfl)
        · exact .inl old
      · exact .inl member
  | _ => exact .inl (Write.rooms_subset rfl db socket member)

omit [UuidSpelling] in
/-- A socket's rooms after a list of writes. -/
theorem mem_rooms_applyAll {writes : List Write} {db : Db} {socket : SocketId} {room : String}
    (member : room ∈ (communication.applyAll writes db).rooms socket) :
    room ∈ db.rooms socket ∨ room = socket.text ∨ .join socket room ∈ writes := by
  induction writes generalizing db with
  | nil => exact .inl member
  | cons write writes inductionHypothesis =>
      rcases inductionHypothesis member with before | own | joined
      · rcases mem_rooms_apply before with before | own | rfl
        · exact .inl before
        · exact .inr (.inl own)
        · exact .inr (.inr List.mem_cons_self)
      · exact .inr (.inl own)
      · exact .inr (.inr (List.mem_cons_of_mem _ joined))

omit [UuidSpelling] in
/-- The realtime service leaves the deliveries. -/
theorem deliveries_applyAll (writes : List Write) (db : Db) :
    (communication.applyAll writes db).deliveries = db.deliveries := by
  induction writes generalizing db with
  | nil => rfl
  | cons write writes inductionHypothesis =>
      refine (inductionHypothesis (write.apply db)).trans ?_
      cases write <;> rfl

/-- The room of a socket itself is no delivery's. -/
theorem not_denotes_own (socket : SocketId) (deliveryId : Uuid) : ¬Denotes socket.text deliveryId := by
  rintro ⟨_, parsed⟩
  have nothing : resourceId socket.text = "" := by
    have whole : socket.text.toList.dropWhile (· ≠ ':') = [] := by
      rw [List.dropWhile_eq_nil_iff]
      intro char member
      have different : char ≠ ':' := by
        rintro rfl
        exact socket.plain member
      exact decide_eq_true different
    rw [resourceId, whole]
    rfl
  rw [nothing, UuidSpelling.parse_empty] at parsed
  cases parsed

variable {handshakes : Handshakes} {start final : Db}
  {trace : List (Concurrency.Turn communication)}
  {arrived : List (Request × Proc communication (Option RealtimeSession))}

/-- The driver of a socket that has been let in was that of the delivery. -/
theorem driver?_of_granted {data : AuthenticatedSocketData} {room : String} {deliveryId : Uuid}
    {history : List (Concurrency.Turn communication)} (granted : Granted data room history)
    (denotes : Denotes room deliveryId) (isDriver : data.role = "DRIVER") :
    ∃ lookup ∈ history, lookup.Performs (Prisma.Delivery.findUnique (resourceId room)) ∧
      ∃ driverId, data.driverId = some driverId ∧
        driver? lookup.before deliveryId = some (some driverId) := by
  obtain ⟨lookup, member, row, returned, allowed⟩ := granted
  obtain ⟨_, _, id, parsed, found⟩ := lookup_succeeds.mp returned.succeeds
  obtain rfl := Option.some.inj (denotes.2.symm.trans parsed)
  have drives : WsRoomAuthorizerService.drives data row.driverId = true := by
    simpa [roomAllowed, WsRoomAuthorizerService.isAdmin, isDriver] using allowed
  obtain ⟨present, same⟩ := (Bool.and_eq_true _ _).mp drives
  obtain ⟨driverId, own⟩ := Option.isSome_iff_exists.mp present
  refine ⟨lookup, member, returned.1, driverId, own, ?_⟩
  rw [driver?, ← found, Option.map_some, of_decide_eq_true same, own]

/-- A turn that keeps to its contract and comes in time leaves the rooms right. -/
theorem follows_turn {request : Request} {first : List (Concurrency.Turn communication)}
    {turn : Concurrency.Turn communication}
    (admitted : ∀ client room, request = .joinRoom client room → client.data = handshakes client.id)
    (enters : Enters request (Pool.own first turn.thread) turn)
    (prompt : Prompt handshakes first turn) (follows : Follows handshakes turn.before) :
      Follows handshakes turn.after := by
  intro deliveryId socket inside
  have same : driver? turn.after deliveryId = driver? turn.before deliveryId := by
    rw [driver?, driver?, Concurrency.Turn.after, deliveries_applyAll]
  rw [same]
  obtain ⟨isDriver, room, member, denotes⟩ := inside
  rcases mem_rooms_applyAll member with before | rfl | joined
  · exact follows deliveryId socket ⟨isDriver, room, before, denotes⟩
  · exact absurd denotes (not_denotes_own socket deliveryId)
  · obtain ⟨client, typed, rfl, rfl, granted⟩ := enters socket room joined denotes.1
    have data := admitted client typed rfl
    obtain ⟨lookup, past, looked, driverId, own, assigned⟩ :=
      driver?_of_granted granted denotes (data ▸ isDriver)
    refine ⟨driverId, data ▸ own, ?_⟩
    rw [prompt _ room deliveryId joined isDriver denotes lookup past looked, assigned]

/-- In every run whose writes leave no driver behind and whose `join_room`s come in time, every
driver in the room of a delivery is the one that it is assigned to. -/
theorem rooms_follow (unconnected : ∀ socket, start.rooms socket = [])
    (runs : (service handshakes (Careful handshakes)).Runs start trace final arrived)
    (prompt : ∀ first turn rest, trace = first ++ turn :: rest → Prompt handshakes first turn) :
    Follows handshakes final := by
  refine runs.along (fun _ db => Follows handshakes db) ?_ ?_ ?_
  · rintro deliveryId socket ⟨_, room, member, _⟩
    rw [unconnected socket] at member
    cases member
  · rintro _ before after ⟨write, careful, rewritten⟩ follows
    exact (follows_rewritten rewritten follows).mpr careful
  · intro past turn rest split follows
    obtain ⟨request, made, enters⟩ :=
      runs.own (fun _ request _ _ => Request.enters request []) past turn rest split
    obtain ⟨_, admitted⟩ := runs.onwards (fun _ => trivial) (fun _ _ => trivial) (fun _ => trivial)
      fun _ _ => trivial
    obtain ⟨_, admitted, _⟩ := admitted request (List.mem_of_getElem? made)
    exact follows_turn admitted enters (prompt past turn rest split) follows

end Runs

end Rooms

/-! ### A delivery that is assigned anew -/

namespace Reassigned

local instance : UuidSpelling := letterSpelling

/-- A delivery of driver 2. -/
def db : Db where
  deliveries := Table.empty.insert ⟨5, some 2, 1, none⟩

/-- The socket of the driver that the delivery is given to. -/
def successor : Client where
  id := ⟨"t", by decide, by decide⟩
  data := { driverClient.data with driverId := some 9 }

def handshakes : Handshakes := fun id =>
  if id = successor.id then successor.data else driverClient.data

/-- The driver connects, joins the room of the delivery and leaves it; the other one follows. -/
def requests : List Request :=
  [.connect driverClient, .joinRoom driverClient "delivery:aaaaaa",
   .leaveRoom driverClient "delivery:aaaaaa", .connect successor,
   .joinRoom successor "delivery:aaaaaa"]

/-- The update of `assignDelivery` for driver 9. -/
def write : Armada.Write :=
  .updateDelivery 5 { driverId := some 9, vehicleId := some 4, status := some .assigned }

/-- The delivery is assigned anew. -/
def reassign (db : Db) : Db := { db with deliveries := reselect write db.deliveries }

/-- The turns until the driver has joined. -/
def joined : List (Concurrency.Turn communication) × Pool communication (Option RealtimeSession) :=
  (Communication.requests requests db).perform (inOrder (0 :: List.replicate 4 1))

/-- The turns until the driver has left. -/
def left : List (Concurrency.Turn communication) × Pool communication (Option RealtimeSession) :=
  (Communication.requests requests db).perform
    (inOrder (0 :: List.replicate 4 1 ++ List.replicate 2 2))

/-- The turns of the other driver, once the delivery is its own. -/
def followed : List (Concurrency.Turn communication) × Pool communication (Option RealtimeSession) :=
  Pool.perform (inOrder (3 :: List.replicate 4 4)) ⟨reassign left.2.state, left.2.procs⟩

/-- The service admits the example's requests. -/
theorem admitted {allows : Db → Armada.Write → Prop} (request : Request)
    (member : request ∈ requests) : (service handshakes allows).admits db request := by
  rintro client room rfl
  simp only [requests, List.mem_cons, reduceCtorEq, List.not_mem_nil, or_false, false_or,
    Request.joinRoom.injEq] at member
  rcases member with ⟨rfl, _⟩ | ⟨rfl, _⟩ <;> decide

/-- The example is a run of the service. -/
theorem runs (allows : Db → Armada.Write → Prop)
    {turns : List (Concurrency.Turn communication)}
    {pool : Pool communication (Option RealtimeSession)}
    (performed : (Communication.requests requests db).Turns turns pool) :
    ∃ arrived, (service handshakes allows).Runs db turns pool.state arrived ∧
      arrived.map Prod.snd = pool.procs := by
  have arrivals : (service handshakes allows).Runs db [] db _ :=
    Service.Runs.arrivals requests admitted
  obtain ⟨later, runs, _, procs⟩ := arrivals.turns
    (show (⟨db, _⟩ : Pool communication (Option RealtimeSession)).Turns turns pool by
      rw [List.map_map]
      exact performed)
  exact ⟨later, runs, procs⟩

/-- The former driver is in no room of the delivery when it is assigned anew. -/
theorem careful : Careful handshakes left.2.state write := by
  rintro driverId ⟨⟩ socket ⟨_, room, member, denotes⟩
  have joins : ∀ turn ∈ left.1, ∀ write ∈ turn.writes, (match write with
      | .join id _ => decide (id = driverClient.id)
      | _ => true) = true := by
    decide
  have turns : (Communication.requests requests db).Turns left.1 left.2 := Pool.perform_turns _ _
  have away : ∀ other, other ≠ driverClient.id → ∀ room ∈ left.2.state.rooms other,
      room = other.text := by
    refine (turns.along (fun _ (now : Db) => ∀ other, other ≠ driverClient.id →
      ∀ room ∈ now.rooms other, room = other.text) ?_ ?_).1
    · exact fun _ _ _ none => absurd none List.not_mem_nil
    · intro first turn rest split apart other different room member
      rcases mem_rooms_applyAll member with before | own | joined
      · exact apart other different room before
      · exact own
      · have inRun : turn ∈ left.1 := split ▸ List.mem_append_right _ List.mem_cons_self
        exact absurd (of_decide_eq_true (joins turn inRun _ joined)) different
  by_cases former : socket = driverClient.id
  · have only : ∀ room ∈ left.2.state.rooms driverClient.id, room = driverClient.id.text := by decide
    subst former
    exact absurd (only room member ▸ denotes) (not_denotes_own _ _)
  · exact absurd (away socket former room member ▸ denotes) (not_denotes_own _ _)

/-- The deliveries change only where the store reassigns. -/
theorem same_deliveries : ∀ turn ∈ left.1 ++ followed.1, turn.before.deliveries.rows =
    if turn.thread < 3 then db.deliveries.rows else (reassign db).deliveries.rows := by
  decide

/-- Every driver's join comes before the reassignment. -/
theorem prompt : ∀ first turn rest, left.1 ++ followed.1 = first ++ turn :: rest →
    Prompt handshakes first turn := by
  intro first turn rest split socket room deliveryId _ _ _ lookup past _
  obtain ⟨member, own⟩ := Pool.mem_own.mp past
  have earlier := same_deliveries lookup (split ▸ List.mem_append_left _ member)
  have here := same_deliveries turn (split ▸ List.mem_append_right _ List.mem_cons_self)
  rw [own] at earlier
  rw [driver?, driver?, Table.ext (here.trans earlier.symm)]

/-- The driver has left before the delivery is assigned anew, and the other one has joined. -/
theorem rooms_follow_joined : Inside handshakes followed.2.state 5 successor.id ∧
    Follows handshakes followed.2.state := by
  refine ⟨⟨by decide, "delivery:aaaaaa", by decide, by decide, by decide⟩, ?_⟩
  obtain ⟨arrived, ran, procs⟩ := runs (Careful handshakes) (Pool.perform_turns _ _)
  obtain ⟨later, whole, _⟩ := Service.Runs.turns (ran.change ⟨write, careful, rfl⟩)
    (show (⟨reassign left.2.state, _⟩ : Pool communication (Option RealtimeSession)).Turns
      followed.1 followed.2 by
        rw [procs]
        exact Pool.perform_turns _ _)
  exact rooms_follow (fun _ => rfl) whole prompt

/-- The driver stays in the room of the delivery that he has lost. -/
theorem not_follows :
    ¬∀ (handshakes : Handshakes) (start final : Db) (trace : List (Concurrency.Turn communication))
      (arrived : List (Request × Proc communication (Option RealtimeSession))),
      (∀ socket, start.rooms socket = []) →
        (service handshakes fun _ _ => True).Runs start trace final arrived →
          Follows handshakes final := by
  intro always
  obtain ⟨arrived, ran, _⟩ := runs (fun _ _ => True)
    (Pool.perform_turns (inOrder (0 :: List.replicate 4 1)) (Communication.requests requests db))
  have changed : (service handshakes fun _ _ => True).Runs db joined.1 (reassign joined.2.state)
      arrived := ran.change ⟨write, trivial, rfl⟩
  have inside : Inside handshakes (reassign joined.2.state) 5 driverClient.id :=
    ⟨by decide, "delivery:aaaaaa", by decide, by decide, by decide⟩
  obtain ⟨driverId, own, assigned⟩ :=
    always handshakes db (reassign joined.2.state) joined.1 arrived (fun _ => rfl) changed 5 _ inside
  have former : (handshakes driverClient.id).driverId = some 2 := by decide
  have latter : driver? (reassign joined.2.state) 5 = some (some 9) := by decide
  rw [latter] at assigned
  rw [former] at own
  cases own
  cases assigned

end Reassigned

end Armada.Communication.DeliveryRooms
