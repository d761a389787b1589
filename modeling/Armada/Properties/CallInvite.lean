import Armada.Communication.Handlers

/-!
# Invites to calls

The invite of a call goes to the room `driver:<driverId>`. No socket is ever in such a room: a
socket starts in a room of its own, and the authorizer knows no room of that name.
-/

namespace Armada.Communication

open Relational Concurrency Realtime
open Auth (UuidSpelling spelled)

/-! ## The rooms of the sockets -/

/-- Every room of a socket is its own or has a name that the authorizer knows. -/
def RoomsKnown (db : Db) : Prop :=
  ∀ socket, ∀ room ∈ db.rooms socket, room = socket.text ∨ category room ∈ joinable

/-- A write after which every socket is in rooms that it was in before. -/
def Write.admitsNone : Write → Bool
  | .registerSocket _ _ => false
  | .join _ _ => false
  | _ => true

/-- A write that admits nobody leaves every socket in the rooms it was in, or fewer. -/
theorem Write.rooms_subset {write : Write} (admitsNone : write.admitsNone = true) (db : Db)
    (socket : SocketId) : (write.apply db).rooms socket ⊆ db.rooms socket := by
  cases write with
  | registerSocket client reenters => cases admitsNone
  | join id room => cases admitsNone
  | removeSocket id =>
      intro room member
      change room ∈ if socket = id then [] else db.rooms socket at member
      split at member
      · cases member
      · exact member
  | leave id left =>
      intro room member
      change room ∈ if socket = id then (db.rooms id).filter (· ≠ left) else db.rooms socket
        at member
      split at member
      · rename_i same
        exact same ▸ List.mem_of_mem_filter member
      · exact member
  | _ => exact List.Subset.refl _

/-- A quiet write admits nobody. -/
theorem Write.admitsNone_of_quiet {write : Write} (quiet : write.quiet = true) :
    write.admitsNone = true := by
  cases write with
  | registerSocket client reenters => cases quiet
  | join id room => cases quiet
  | _ => rfl

/-- Such writes keep the rooms known. -/
theorem RoomsKnown.applyAll {writes : List Write}
    (admitNone : ∀ write ∈ writes, write.admitsNone = true) {db : Db} (known : RoomsKnown db) :
    RoomsKnown (communication.applyAll writes db) := by
  induction writes generalizing db with
  | nil => exact known
  | cons write writes inductionHypothesis =>
      obtain ⟨first, others⟩ := List.forall_mem_cons.mp admitNone
      apply inductionHypothesis others
      intro socket room member
      exact known socket room (Write.rooms_subset first db socket member)

/-- A join of a joinable room keeps them known. -/
theorem RoomsKnown.join {db : Db} (known : RoomsKnown db) (id : SocketId) {room : String}
    (joinableRoom : category room ∈ joinable) : RoomsKnown (Write.apply (.join id room) db) := by
  intro socket other member
  change other ∈ if socket = id then room :: db.rooms id else db.rooms socket at member
  split at member
  · rename_i same
    rcases List.mem_cons.mp member with rfl | before
    · exact .inr joinableRoom
    · exact same ▸ known id other before
  · exact known socket other member

/-- A socket that connects is in its own room, and others may lose theirs. -/
theorem RoomsKnown.register {db : Db} (known : RoomsKnown db) (client : Client)
    (reenters : SocketId → Bool) :
    RoomsKnown (Write.apply (.registerSocket client reenters) db) := by
  intro socket room member
  simp only [Write.apply, Db.register] at member
  split at member
  · rename_i same
    subst same
    exact .inl (List.mem_singleton.mp member)
  · split at member
    · cases member
    · exact known socket room member

/-! ## The steps of the requests -/

section Runs

variable [UuidSpelling] {request : Request} {history : List (Turn communication)}
  {turn : Turn communication}

/-- Every turn of a run keeps them known. -/
theorem RoomsKnown.step (allowed : Allowed request history turn)
    (known : RoomsKnown turn.before) : RoomsKnown turn.after := by
  obtain quiet | ⟨write, made, due⟩ := allowed.written
  · exact known.applyAll fun write member => Write.admitsNone_of_quiet (quiet write member)
  · rw [Turn.after, made]
    cases write with
    | registerSocket client reenters => exact known.register client reenters
    | join id room => exact known.join id due
    | _ => exact known.applyAll (List.forall_mem_singleton.mpr rfl)

omit [UuidSpelling] in
/-- The category of a driver's room name. -/
theorem category_driver (driverId : String) : category s!"driver:{driverId}" = "driver" := by
  apply @category_eq _ _ driverId.toList
  · decide
  · simp [String.toList_append, ToString.toString]

/-- The room of an invite is nobody's. -/
theorem Allowed.unheard (allowed : Allowed request history turn) (known : RoomsKnown turn.before)
    {room driverId : String} {sessionId : Uuid} {type : RealtimeSessionType} {actor : UserActor}
    (sent : .emit ⟨room, .callInvite sessionId type driverId, actor⟩ ∈ turn.writes)
    (socket : SocketId) : room ∉ turn.before.rooms socket := by
  obtain quiet | ⟨write, made, due⟩ := allowed.written
  · cases quiet _ sent
  rw [made] at sent
  obtain rfl := List.mem_singleton.mp sent
  obtain ⟨_, _, id, _, same⟩ | ⟨kind, client, dto, _, _, _, _, ⟨⟩⟩ := due
  obtain rfl : room = s!"driver:{id}" := congrArg Emission.room same
  intro member
  obtain own | isKnown := known socket _ member
  · apply socket.plain
    rw [← own]
    simp [String.toList_append, ToString.toString]
  · rw [category_driver] at isKnown
    simp [joinable] at isKnown

/-- The invite of a session is emitted to a room that a socket is in. -/
def Invited (trace : List (Turn communication)) (sessionId : Uuid) (socket : SocketId) : Prop :=
  ∃ turn ∈ trace, ∃ room type driverId actor,
    .emit ⟨room, .callInvite sessionId type driverId, actor⟩ ∈ turn.writes ∧
      room ∈ turn.before.rooms socket

/-- In every run from a start without sockets, no invite is emitted to a room that any socket is
in, so it reaches no driver, connected or not. -/
theorem invite_reaches_nobody {all : List Request} {db : Db}
    (unconnected : ∀ socket, db.rooms socket = []) {trace : List (Turn communication)}
    {final : Pool communication (Option RealtimeSession)}
    (turns : (requests all db).Turns trace final) (sessionId : Uuid) (socket : SocketId) :
    ¬Invited trace sessionId socket := by
  have initially : RoomsKnown db := by
    intro socket room member
    rw [unconnected socket] at member
    cases member
  have known := turns.steps.invariant RoomsKnown initially fun commit member before => by
    obtain ⟨turn, inTrace, rfl⟩ := List.mem_map.mp member
    obtain ⟨history, request, _, allowed⟩ := lawful_of_mem turns inTrace
    exact RoomsKnown.step allowed before
  rintro ⟨turn, inTrace, room, type, driverId, actor, sent, member⟩
  obtain ⟨history, request, _, allowed⟩ := lawful_of_mem turns inTrace
  exact allowed.unheard (known.2 turn.commit (List.mem_map_of_mem inTrace)) sent socket member

end Runs

/-! ### A driver that is connected -/

namespace ConnectedDriver

local instance : UuidSpelling := letterSpelling

def withDriver : Db where
  drivers := Table.empty.insert { id := 2, userId := 3 }

/-- The driver connects; then owner 1 calls. -/
def calledConnected : List Request :=
  [.connect driverClient,
    .initiate { driverId := "aaa", type := .video } ⟨spelled 1, "OWNER", none⟩]

def connectedRun : List (Turn communication) × Pool communication (Option RealtimeSession) :=
  (requests calledConnected withDriver).perform (inOrder (0 :: List.replicate 6 1))

/-- What the owner gets. -/
def calledSession : RealtimeSession where
  id := 0
  type := .video
  ownerId := 1
  driverId := 2
  deliveryId := none
  status := .pending
  createdAt := 0
  expiresAt := 30000

/-- The connected driver is not invited. -/
theorem invite_reaches_nobody_connected : ¬Invited connectedRun.1 0 driverClient.id :=
  invite_reaches_nobody (fun _ => rfl) (Pool.perform_turns _ _) 0 driverClient.id

/-- The room of an invite. -/
def inviteRoom? : Write → Option String
  | .emit ⟨room, .callInvite _ _ _, _⟩ => some room
  | _ => none

/-- The invite goes to rooms the driver's socket is not in. -/
theorem invited_elsewhere : ∀ turn ∈ connectedRun.1, ∀ write ∈ turn.writes,
    ∀ room ∈ inviteRoom? write, room ∉ turn.before.rooms driverClient.id := by
  decide +kernel

/-- The invite misses a driver that is connected. -/
theorem invite_missed :
    ¬∀ (all : List Request) (db : Db) (trace : List (Turn communication))
        (final : Pool communication (Option RealtimeSession)) (thread : Nat)
        (dto : InitiateCallDto) (actor : UserActor) (session : RealtimeSession) (client : Client)
        (driverId : Uuid),
      (∀ socket, db.rooms socket = []) → (requests all db).Turns trace final →
        all[thread]? = some (.initiate dto actor) →
          final.procs[thread]?.bind Proc.finished = some (.ok (some session)) →
            UuidText.parse dto.driverId = some driverId → client.data.driverId = some driverId →
              client.data.role = "DRIVER" →
                final.state.connections.sockets.lookup client.id =
                  some ⟨client.id, some client.data⟩ →
                  (∀ room, Request.leaveRoom client room ∉ all) →
                    Invited trace session.id client.id := by
  intro claimed
  obtain ⟨turn, inTrace, room, _, _, _, sent, member⟩ := claimed calledConnected withDriver
    connectedRun.1 connectedRun.2 1 _ _ calledSession driverClient 2 (fun _ => rfl)
    (Pool.perform_turns _ _) rfl rfl (by decide) rfl rfl (by decide +kernel)
    (by simp [calledConnected])
  exact invited_elsewhere turn inTrace _ sent room rfl member

end ConnectedDriver

end Armada.Communication
