import Armada.Realtime.WsConnectionManagerService
import Mathlib.Data.List.Induction

/-!
# The socket index is consistent

Whatever is called on the connection manager, and whether or not a disconnected socket
re-enters it, each index files exactly the registered sockets by their keys, a driver has
one socket at most, and a revocation leaves none of the sockets it is about.
-/

namespace Armada.Realtime

open Collections Auth

/-- The sockets there can be: an id has one handshake. -/
structure Handshakes where
  data : SocketId → Option AuthenticatedSocketData

/-- The same where only sockets of the role DRIVER have a driver id. -/
structure Population extends Handshakes where
  drivers : ∀ id found, data id = some found → found.driverId ≠ none → found.role = "DRIVER"

instance : Coe Population Handshakes := ⟨Population.toHandshakes⟩

namespace Handshakes

/-- The socket of an id, with its handshake. -/
def socket (handshakes : Handshakes) (id : SocketId) : Socket := ⟨id, handshakes.data id⟩

/-- The data of a socket have a key in a field; a falsy value is no key. -/
def Carries (handshakes : Handshakes) (field : AuthenticatedSocketData → JsValue) (key : JsValue)
    (id : SocketId) : Prop :=
  ∃ data, handshakes.data id = some data ∧ field data = key ∧ key.truthy = true

/-- The handshake of the socket is that of the driver. -/
def DrivenBy (handshakes : Handshakes) (driver : Uuid) (id : SocketId) : Prop :=
  ∃ data, handshakes.data id = some data ∧ data.driverId = some driver

end Handshakes

/-- A call on the manager. For each socket that it disconnects the environment says whether
`removeSocket` is re-entered. -/
inductive Call where
  | registerSocket (socketId : SocketId) (reenters : SocketId → Bool)
  | removeSocket (socketId : SocketId)
  | disconnectSession (sessionId : JsValue) (reenters : SocketId → Bool)
  | disconnectDevice (deviceId : JsValue) (reenters : SocketId → Bool)
  | disconnectUser (userId : JsValue) (reenters : SocketId → Bool)

/-- What a call makes of the service. -/
def Call.apply (handshakes : Handshakes) (service : WsConnectionManagerService) :
    Call → WsConnectionManagerService
  | .registerSocket socketId reenters =>
      service.registerSocket reenters (handshakes.socket socketId)
  | .removeSocket socketId => service.removeSocket socketId
  | .disconnectSession sessionId reenters => (service.disconnectSession reenters sessionId).2
  | .disconnectDevice deviceId reenters => (service.disconnectDevice reenters deviceId).2
  | .disconnectUser userId reenters => (service.disconnectUser reenters userId).2

/-- The manager after a sequence of calls, from the empty one. -/
def Call.run (handshakes : Handshakes) (calls : List Call) : WsConnectionManagerService :=
  calls.foldl (Call.apply handshakes) {}

namespace WsConnectionManagerService

/-- The socket is in the map of sockets. -/
def Registered (service : WsConnectionManagerService) (id : SocketId) : Prop :=
  id ∈ service.sockets

/-- The registered sockets by a key of theirs. -/
def Files (service : WsConnectionManagerService) (handshakes : Handshakes)
    (field : AuthenticatedSocketData → JsValue) (key : JsValue) (id : SocketId) : Prop :=
  service.Registered id ∧ handshakes.Carries field key id

/-- The three indexes of sets agree with the registered sockets. -/
structure Indexed (handshakes : Handshakes) (service : WsConnectionManagerService) : Prop where
  sockets : ∀ id socket, service.sockets.lookup id = some socket → socket = handshakes.socket id
  known : ∀ id, service.Registered id → ∃ data, handshakes.data id = some data
  users : service.userSockets.Tracks
    (service.Files handshakes AuthenticatedSocketData.userId)
  sessions : service.sessionSockets.Tracks
    (service.Files handshakes AuthenticatedSocketData.sessionId)
  devices : service.deviceSockets.Tracks
    (service.Files handshakes AuthenticatedSocketData.deviceId)

/-- All four indexes agree with the registered sockets. -/
structure Consistent (population : Population) (service : WsConnectionManagerService) : Prop extends
    Indexed population service where
  drivers : ∀ driver id, service.driverSockets.lookup driver = some id ↔
    service.Registered id ∧ population.DrivenBy driver id

variable {handshakes : Handshakes} {population : Population}
  {service : WsConnectionManagerService} {socketId : SocketId}

/-- The empty service is indexed. -/
theorem Indexed.initial : Indexed handshakes {} where
  sockets _ _ found := by simp at found
  known _ registered := by simp [Registered] at registered
  users := KeyIndex.Tracks.empty.congr fun _ _ => by simp [Files, Registered]
  sessions := KeyIndex.Tracks.empty.congr fun _ _ => by simp [Files, Registered]
  devices := KeyIndex.Tracks.empty.congr fun _ _ => by simp [Files, Registered]

/-- It is consistent. -/
theorem Consistent.initial : Consistent population {} where
  toIndexed := .initial
  drivers _ _ := by simp [Registered]

/-- A registered socket is found under its id. -/
theorem Indexed.lookup_of_registered (indexed : service.Indexed handshakes)
    (registered : service.Registered socketId) :
    service.sockets.lookup socketId = some (handshakes.socket socketId) := by
  obtain ⟨socket, found⟩ := Option.isSome_iff_exists.mp (AList.lookup_isSome.mpr registered)
  rw [found, indexed.sockets socketId socket found]

/-! ## Removal -/

/-- The removal of an absent socket does nothing. -/
theorem removeSocket_of_absent (absent : ¬service.Registered socketId) :
    service.removeSocket socketId = service := by
  rw [removeSocket, AList.lookup_eq_none.mpr absent]

/-- A registered socket has data, so it is taken out of the indexes. -/
theorem Indexed.removeSocket_eq (indexed : service.Indexed handshakes)
    (registered : service.Registered socketId) {data : AuthenticatedSocketData}
    (known : handshakes.data socketId = some data) :
    service.removeSocket socketId = (service.unindex socketId data).delete socketId := by
  rw [WsConnectionManagerService.removeSocket, indexed.lookup_of_registered registered,
    Handshakes.socket, known]

/-- Who is registered after a deletion. -/
theorem registered_delete {id : SocketId} :
    (service.delete socketId).Registered id ↔ service.Registered id ∧ id ≠ socketId := by
  rw [Registered, delete, AList.mem_erase, and_comm]
  rfl

/-- Who is registered after a removal. -/
theorem registered_removeSocket {id : SocketId} :
    (service.removeSocket socketId).Registered id ↔ service.Registered id ∧ id ≠ socketId := by
  rw [removeSocket]
  split
  · rename_i absent
    have missing : ¬service.Registered socketId := AList.lookup_eq_none.mp absent
    exact ⟨fun present => ⟨present, fun same => missing (same ▸ present)⟩, And.left⟩
  · exact registered_delete
  · exact registered_delete

/-- What an index files after a removal, if it filed the registered sockets before. -/
theorem tracks_removeSocketFromIndex {index : KeyIndex JsValue SocketId}
    {data : AuthenticatedSocketData} {field : AuthenticatedSocketData → JsValue}
    (tracks : index.Tracks (service.Files handshakes field))
    (known : handshakes.data socketId = some data) :
    (removeSocketFromIndex index (field data) socketId).Tracks fun key id =>
      (service.Registered id ∧ id ≠ socketId) ∧ handshakes.Carries field key id := by
  rw [removeSocketFromIndex]
  split
  · refine (tracks.remove (field data) socketId).congr fun key id => ?_
    constructor
    · rintro ⟨⟨registered, carries⟩, other⟩
      refine ⟨⟨registered, ?_⟩, carries⟩
      rintro rfl
      obtain ⟨own, found, rfl, _⟩ := carries
      cases known.symm.trans found
      exact other ⟨rfl, rfl⟩
    · rintro ⟨⟨registered, different⟩, carries⟩
      exact ⟨⟨registered, carries⟩, fun same => different same.2⟩
  · rename_i falsy
    refine tracks.congr fun key id => ?_
    constructor
    · rintro ⟨registered, carries⟩
      refine ⟨⟨registered, ?_⟩, carries⟩
      rintro rfl
      obtain ⟨own, found, rfl, truthy⟩ := carries
      cases known.symm.trans found
      exact falsy truthy
    · rintro ⟨⟨registered, _⟩, carries⟩
      exact ⟨registered, carries⟩

/-- What a driver's entry is after its deletion. -/
theorem lookup_deleteDriver {drivers : AList fun _ : Uuid => SocketId} {driverId : Option Uuid}
    {driver : Uuid} {id : SocketId} (owns : ∀ other, drivers.lookup other = some socketId →
      driverId = some other) :
    (deleteDriver drivers driverId socketId).lookup driver = some id ↔
      drivers.lookup driver = some id ∧ id ≠ socketId := by
  have spared : drivers.lookup driver = some id → driverId ≠ some driver →
      drivers.lookup driver = some id ∧ id ≠ socketId := by
    intro found foreign
    refine ⟨found, ?_⟩
    rintro rfl
    exact foreign (owns driver found)
  cases driverId with
  | none => exact ⟨fun found => spared found nofun, And.left⟩
  | some own =>
      simp only [deleteDriver]
      split
      · rename_i pointed
        by_cases same : driver = own
        · subst same
          rw [AList.lookup_erase, pointed]
          simp [eq_comm]
        · rw [AList.lookup_erase_ne same]
          exact ⟨fun found => spared found fun equal => same (Option.some.inj equal).symm, And.left⟩
      · rename_i elsewhere
        refine ⟨fun found => ⟨found, ?_⟩, And.left⟩
        rintro rfl
        exact elsewhere (Option.some.inj (owns driver found) ▸ found)

/-- A removal keeps the indexes. -/
theorem Indexed.removeSocket (indexed : service.Indexed handshakes) (socketId : SocketId) :
    (service.removeSocket socketId).Indexed handshakes := by
  by_cases registered : service.Registered socketId
  · obtain ⟨data, known⟩ := indexed.known socketId registered
    rw [indexed.removeSocket_eq registered known]
    have files : ∀ (field : AuthenticatedSocketData → JsValue) key id,
        (service.Registered id ∧ id ≠ socketId) ∧ handshakes.Carries field key id ↔
          ((service.unindex socketId data).delete socketId).Files handshakes field key id :=
      fun field key id => and_congr_left fun _ => registered_delete.symm
    constructor
    · intro id socket found
      by_cases same : id = socketId
      · subst same
        rw [delete, AList.lookup_erase] at found
        cases found
      · rw [delete, AList.lookup_erase_ne same] at found
        exact indexed.sockets id socket found
    · intro id present
      exact indexed.known id (registered_delete.mp present).1
    · exact (tracks_removeSocketFromIndex indexed.users known).congr (files _)
    · exact (tracks_removeSocketFromIndex indexed.sessions known).congr (files _)
    · exact (tracks_removeSocketFromIndex indexed.devices known).congr (files _)
  · rwa [removeSocket_of_absent registered]

/-- It keeps one socket for each driver. -/
theorem Consistent.removeSocket (consistent : service.Consistent population)
    (socketId : SocketId) : (service.removeSocket socketId).Consistent population := by
  by_cases registered : service.Registered socketId
  · refine ⟨consistent.toIndexed.removeSocket socketId, fun driver id => ?_⟩
    obtain ⟨data, known⟩ := consistent.known socketId registered
    rw [consistent.removeSocket_eq registered known]
    have owns : ∀ other, service.driverSockets.lookup other = some socketId →
        data.driverId = some other := by
      intro other pointed
      obtain ⟨_, own, present, driven⟩ := (consistent.drivers other socketId).mp pointed
      cases known.symm.trans present
      exact driven
    refine (lookup_deleteDriver owns).trans ?_
    rw [consistent.drivers, registered_delete, and_right_comm]
    rfl
  · rwa [removeSocket_of_absent registered]

variable {reenters : SocketId → Bool}

/-- Re-entered or not, the socket is removed once. -/
theorem registered_evict {id : SocketId} :
    (service.evict reenters socketId).Registered id ↔ service.Registered id ∧ id ≠ socketId := by
  rw [evict_eq, registered_removeSocket]

/-- What `removeSocket` keeps an eviction keeps. -/
theorem evict_keeps {holds : WsConnectionManagerService → Prop}
    (removes : ∀ service socketId, holds service →
      holds (WsConnectionManagerService.removeSocket service socketId))
    (initially : holds service) (reenters : SocketId → Bool) (socketId : SocketId) :
    holds (service.evict reenters socketId) := by
  rw [evict_eq]
  exact removes _ _ initially

/-- What a removal keeps is kept by evictions. -/
theorem evictAll_keeps {holds : WsConnectionManagerService → Prop}
    (removes : ∀ service socketId, holds service →
      holds (WsConnectionManagerService.removeSocket service socketId))
    (initially : holds service) (reenters : SocketId → Bool) (sockets : List Socket) :
    holds (service.evictAll reenters sockets) := by
  induction sockets generalizing service with
  | nil => exact initially
  | cons socket sockets inductionHypothesis =>
      exact inductionHypothesis (evict_keeps removes initially reenters socket.id)

/-- So it is by a superseding. -/
theorem supersede_keeps {holds : WsConnectionManagerService → Prop}
    (removes : ∀ service socketId, holds service →
      holds (WsConnectionManagerService.removeSocket service socketId))
    (initially : holds service) (reenters : SocketId → Bool) (socketId : SocketId)
    (data : AuthenticatedSocketData) : holds (service.supersede reenters socketId data) := by
  rw [supersede]
  repeat' split
  case h_2 => exact evict_keeps removes initially reenters _
  all_goals exact initially

/-- Who is registered after the evictions. -/
theorem registered_evictAll {sockets : List Socket} {id : SocketId} :
    (service.evictAll reenters sockets).Registered id ↔
      service.Registered id ∧ ∀ socket ∈ sockets, socket.id ≠ id := by
  induction sockets generalizing service with
  | nil => simp [evictAll]
  | cons socket sockets inductionHypothesis =>
      refine inductionHypothesis.trans ?_
      rw [registered_evict, List.forall_mem_cons, and_assoc, ne_comm]

/-! ## Registration -/

/-- After a driver's older socket is superseded, no other socket of the driver is left. -/
theorem Consistent.superseded (consistent : service.Consistent population)
    {data : AuthenticatedSocketData} {driver : Uuid} (isDriver : data.role = "DRIVER")
    (driven : data.driverId = some driver) {id : SocketId}
    (left : (service.supersede reenters socketId data).Registered id)
    (same : population.DrivenBy driver id) : id = socketId := by
  by_contra different
  have pointed : service.Registered id → service.driverSockets.lookup driver = some id :=
    fun registered => (consistent.drivers driver id).mpr ⟨registered, same⟩
  simp only [WsConnectionManagerService.supersede, driven, isDriver, if_true] at left
  cases found : service.driverSockets.lookup driver with
  | none =>
      rw [found] at left
      cases (pointed left).symm.trans found
  | some existing =>
      obtain ⟨present, _⟩ := (consistent.drivers driver existing).mp found
      simp only [found, consistent.lookup_of_registered present] at left
      split at left
      · rename_i own
        cases (pointed left).symm.trans found
        exact different own
      · obtain ⟨registered, other⟩ := registered_evict.mp left
        cases (pointed registered).symm.trans found
        exact other rfl

/-- What an index files after a registration, if it filed the registered sockets before. -/
theorem tracks_addSocketToIndex {index : KeyIndex JsValue SocketId}
    {data : AuthenticatedSocketData} {field : AuthenticatedSocketData → JsValue}
    (tracks : index.Tracks (service.Files handshakes field))
    (known : handshakes.data socketId = some data) :
    (addSocketToIndex index (field data) socketId).Tracks fun key id =>
      (id = socketId ∨ service.Registered id) ∧ handshakes.Carries field key id := by
  rw [addSocketToIndex]
  split
  · rename_i truthy
    refine (tracks.add (field data) socketId).congr fun key id => ?_
    constructor
    · rintro (⟨registered, carries⟩ | ⟨rfl, rfl⟩)
      · exact ⟨.inr registered, carries⟩
      · exact ⟨.inl rfl, data, known, rfl, truthy⟩
    · rintro ⟨rfl | registered, carries⟩
      · obtain ⟨own, found, rfl, _⟩ := carries
        cases known.symm.trans found
        exact .inr ⟨rfl, rfl⟩
      · exact .inl ⟨registered, carries⟩
  · rename_i falsy
    refine tracks.congr fun key id => and_congr_left fun carries => ?_
    refine ⟨.inr, fun either => either.resolve_left ?_⟩
    rintro rfl
    obtain ⟨own, found, rfl, truthy⟩ := carries
    cases known.symm.trans found
    exact falsy truthy

/-- A registration keeps the indexes. -/
theorem Indexed.registerSocket (indexed : service.Indexed handshakes)
    (reenters : SocketId → Bool) (socketId : SocketId) :
    (service.registerSocket reenters (handshakes.socket socketId)).Indexed handshakes := by
  rw [WsConnectionManagerService.registerSocket]
  split
  · exact indexed
  rename_i data known
  split
  swap
  · exact indexed
  rename_i truthy
  have known : handshakes.data socketId = some data := known
  have before := supersede_keeps (fun _ id kept => kept.removeSocket id) indexed reenters socketId data
  have users := tracks_addSocketToIndex before.users known
  rw [addSocketToIndex, if_pos truthy] at users
  constructor
  · intro id socket found
    by_cases same : id = socketId
    · subst same
      exact (Option.some.inj ((AList.lookup_insert _).symm.trans found)).symm
    · exact before.sockets id socket ((AList.lookup_insert_ne same).symm.trans found)
  · intro id registered
    rcases (AList.mem_insert _).mp registered with rfl | old
    · exact ⟨data, known⟩
    · exact before.known id old
  · exact users.congr fun key id => and_congr_left fun _ => (AList.mem_insert _).symm
  · exact (tracks_addSocketToIndex before.sessions known).congr fun key id =>
      and_congr_left fun _ => (AList.mem_insert _).symm
  · exact (tracks_addSocketToIndex before.devices known).congr fun key id =>
      and_congr_left fun _ => (AList.mem_insert _).symm

/-- It keeps one socket for each driver. -/
theorem Consistent.registerSocket (consistent : service.Consistent population)
    (reenters : SocketId → Bool) (socketId : SocketId) :
    (service.registerSocket reenters (population.socket socketId)).Consistent population := by
  refine ⟨consistent.toIndexed.registerSocket reenters socketId, ?_⟩
  rw [WsConnectionManagerService.registerSocket]
  split
  · exact consistent.drivers
  rename_i data known
  split
  swap
  · exact consistent.drivers
  have known : population.data socketId = some data := known
  have before := supersede_keeps (fun _ id kept => kept.removeSocket id) consistent reenters
    socketId data
  have alone : ∀ {driver id}, data.driverId = some driver →
      (service.supersede reenters socketId data).Registered id →
        population.DrivenBy driver id → id = socketId := fun driven =>
    consistent.superseded (population.drivers socketId data known (by simp [driven])) driven
  intro driver id
  refine Iff.trans ?_ (and_congr_left fun _ => (AList.mem_insert _).symm)
  cases driven : data.driverId with
  | none =>
      refine (before.drivers driver id).trans (and_congr_left ?_)
      rintro ⟨own, found, isDriven⟩
      refine ⟨.inr, fun either => either.resolve_left ?_⟩
      rintro rfl
      cases known.symm.trans found
      cases driven.symm.trans isDriven
  | some own =>
      by_cases same : driver = own
      · subst same
        refine Iff.trans (by simp only [setDriver, AList.lookup_insert]; rfl) ?_
        constructor
        · rintro ⟨⟩
          exact ⟨.inl rfl, data, known, driven⟩
        · rintro ⟨rfl | registered, isDriven⟩
          · rfl
          · rw [alone driven registered isDriven]
            rfl
      · refine Iff.trans (by simp only [setDriver, AList.lookup_insert_ne same]; rfl) ?_
        refine (before.drivers driver id).trans (and_congr_left ?_)
        rintro ⟨other, found, isDriven⟩
        refine ⟨.inr, fun either => either.resolve_left ?_⟩
        rintro rfl
        cases known.symm.trans found
        exact same (Option.some.inj (isDriven.symm.trans driven))

/-! ## Runs -/

/-- What registrations and removals keep every call keeps. -/
theorem apply_keeps {holds : WsConnectionManagerService → Prop}
    (registers : ∀ service reenters socketId, holds service →
      holds (WsConnectionManagerService.registerSocket service reenters (handshakes.socket socketId)))
    (removes : ∀ service socketId, holds service →
      holds (WsConnectionManagerService.removeSocket service socketId))
    (initially : holds service) (call : Call) : holds (call.apply handshakes service) := by
  cases call with
  | registerSocket socketId reenters => exact registers _ reenters socketId initially
  | removeSocket socketId => exact removes _ socketId initially
  | disconnectSession sessionId reenters => exact evictAll_keeps removes initially reenters _
  | disconnectDevice deviceId reenters => exact evictAll_keeps removes initially reenters _
  | disconnectUser userId reenters => exact evictAll_keeps removes initially reenters _

/-- What a registration and a removal keep holds after every sequence of calls. -/
theorem run_keeps {holds : WsConnectionManagerService → Prop}
    (registers : ∀ service reenters socketId, holds service →
      holds (WsConnectionManagerService.registerSocket service reenters (handshakes.socket socketId)))
    (removes : ∀ service socketId, holds service →
      holds (WsConnectionManagerService.removeSocket service socketId))
    (initially : holds {}) (calls : List Call) : holds (Call.run handshakes calls) := by
  induction calls using List.reverseRecOn with
  | nil => exact initially
  | append_singleton calls call inductionHypothesis =>
      rw [Call.run, List.foldl_append]
      exact apply_keeps registers removes inductionHypothesis call

/-- After every sequence of calls the service is indexed. -/
theorem indexed_run (handshakes : Handshakes) (calls : List Call) :
    (Call.run handshakes calls).Indexed handshakes :=
  run_keeps (fun _ reenters id kept => kept.registerSocket reenters id)
    (fun _ id kept => kept.removeSocket id) .initial calls

/-- After every sequence of calls it is consistent. -/
theorem consistent_run (population : Population) (calls : List Call) :
    (Call.run population calls).Consistent population :=
  run_keeps (fun _ reenters id kept => kept.registerSocket reenters id)
    (fun _ id kept => kept.removeSocket id) .initial calls

/-- All sockets of a key are found for its revocation, so none of them stays. -/
theorem Indexed.not_files_evictAll (indexed : service.Indexed handshakes)
    {index : KeyIndex JsValue SocketId} {field : AuthenticatedSocketData → JsValue}
    (tracks : index.Tracks (service.Files handshakes field)) {key : JsValue} {id : SocketId} :
    ¬(service.evictAll reenters (service.getSocketsFromIndex index key)).Files handshakes field
      key id := by
  rintro ⟨left, carries⟩
  obtain ⟨registered, others⟩ := registered_evictAll.mp left
  refine others (handshakes.socket id) (List.mem_filterMap.mpr ⟨id, ?_, ?_⟩) rfl
  · exact (tracks.mem_members key id).mpr ⟨registered, carries⟩
  · exact indexed.lookup_of_registered registered

end WsConnectionManagerService

/-- After any sequence of calls the indexes agree with the registered sockets and keep no
empty set, a driver has one socket at most, to which `driverSockets` points, and after a
revocation no socket that carries its key is registered. -/
theorem sockets_indexed (population : Population) (calls : List Call) :
    let service := Call.run population calls
    service.Consistent population ∧
      (∀ driver first second, service.Registered first → service.Registered second →
        population.DrivenBy driver first → population.DrivenBy driver second → first = second) ∧
      (∀ reenters key id, ¬(service.disconnectSession reenters key).2.Files population
        AuthenticatedSocketData.sessionId key id) ∧
      (∀ reenters key id, ¬(service.disconnectDevice reenters key).2.Files population
        AuthenticatedSocketData.deviceId key id) ∧
      ∀ reenters key id, ¬(service.disconnectUser reenters key).2.Files population
        AuthenticatedSocketData.userId key id := by
  intro service
  have consistent := WsConnectionManagerService.consistent_run population calls
  refine ⟨consistent, fun driver first second atFirst atSecond byFirst bySecond => ?_, ?_, ?_, ?_⟩
  · have pointed := (consistent.drivers driver first).mpr ⟨atFirst, byFirst⟩
    exact Option.some.inj
      (pointed.symm.trans ((consistent.drivers driver second).mpr ⟨atSecond, bySecond⟩))
  · exact fun reenters key id => consistent.not_files_evictAll consistent.sessions
  · exact fun reenters key id => consistent.not_files_evictAll consistent.devices
  · exact fun reenters key id => consistent.not_files_evictAll consistent.users

end Armada.Realtime
