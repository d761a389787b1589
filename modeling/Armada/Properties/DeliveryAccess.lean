import Armada.Communication.RealtimeGateway
import Armada.Deliveries.DeliveriesController
import Armada.Properties.ValidatorAgreement

/-!
# The four checks of access to a delivery

Reading a delivery, joining its room, its routes and skipping one of its stops each check the
user against the delivery in their own words. They agree for all users but two kinds: an owner
whose organization has a delivery that somebody else has created, and a driver without a
profile.
-/

namespace Armada.DeliveryAccess

open Concurrency
open Auth (AuthenticatedSocketData UuidSpelling spelled)

section Checks

/-! ## Verdicts -/

variable {α β : Type} {check : Proc store α} {db : Db}

/-- The check lets the user pass. -/
def Allows (check : Proc store α) (db : Db) : Prop :=
  ∃ value after, check.Returns (fun _ => True) db value after

/-- The check answers with the status 403. -/
def Forbids (check : Proc store α) (db : Db) : Prop :=
  ∃ exception after, check.Throws (fun _ => True) db (.http exception) after ∧
    exception.status = .forbidden

/-- One of two answers is given, by a policy. -/
structure Decides (allows forbids allowed : Prop) : Prop where
  allows_iff : allows ↔ allowed
  forbids_iff : forbids ↔ ¬allowed

/-- The check follows a policy. -/
abbrev Follows (check : Proc store α) (db : Db) (allowed : Prop) : Prop :=
  Decides (Allows check db) (Forbids check db) allowed

/-- What answers at once lets everybody pass. -/
theorem follows_pure (value : α) : Follows (pure value) db True where
  allows_iff := iff_of_true ⟨value, db, Proc.returns_pure.mpr ⟨rfl, rfl⟩⟩ trivial
  forbids_iff := by
    refine iff_of_false ?_ (not_not_intro trivial)
    rintro ⟨exception, after, thrown, _⟩
    exact Proc.throws_pure thrown

/-- A rejection with the status 403 narrows the policy of what comes after it. -/
theorem follows_rejectIf {condition : Prop} [Decidable condition] {exception : HttpException}
    {next : Unit → Proc store α} {allowed : Prop} (forbidden : exception.status = .forbidden)
    (follows : Follows (next ()) db allowed) :
    Follows (Proc.rejectIf condition (.http exception) >>= next) db (¬condition ∧ allowed) := by
  rw [Proc.rejectIf]
  by_cases holds : condition
  · rw [if_pos holds]
    constructor
    · refine iff_of_false ?_ fun both => both.1 holds
      rintro ⟨value, after, returned⟩
      exact Proc.returns_throw returned
    · exact iff_of_true ⟨exception, db, Proc.throws_throw.mpr ⟨rfl, rfl⟩, forbidden⟩
        fun both => both.1 holds
  · rw [if_neg holds]
    simp only [holds, not_false_eq_true, true_and]
    exact follows

/-- A look at the store goes on with what it finds; if it fails, it does so without a verdict. -/
theorem follows_select {body : Db → Except PrismaError β} {found : β}
    {next : β → Proc store α} {allowed : Prop} (reads : body db = .ok found)
    (follows : Follows (next found) db allowed) :
    Follows ((liftM (select body) : Proc store β) >>= next) db allowed := by
  have executed : ∀ input : Input, input.fault = none →
      (select body).exec input db = .ok (found, []) := by
    intro input calm
    simp [select, query, calm, reads, Except.map]
  have failed : ∀ input error, (select body).exec input db = .error error →
      ∃ fault, error = .prisma fault := by
    intro input error thrown
    cases fault : input.fault with
    | none =>
        rw [executed input fault] at thrown
        cases thrown
    | some error' =>
        simp only [select, query, fault, Except.error.injEq] at thrown
        exact ⟨error', thrown.symm⟩
  have quiet : ∀ {value : β} {middle : Db},
      (liftM (select body) : Proc store β).Returns (fun _ => True) db value middle ↔
        value = found ∧ middle = db := by
    intro value middle
    rw [Proc.returns_lift]
    constructor
    · rintro ⟨input, writes, _, succeeded, rfl⟩
      cases fault : input.fault with
      | none =>
          obtain ⟨rfl, rfl⟩ := Prod.mk.inj
            (Except.ok.inj ((executed input fault).symm.trans succeeded))
          exact ⟨rfl, rfl⟩
      | some error =>
          simp [Statement.Succeeds, select, query, fault] at succeeded
    · rintro ⟨rfl, rfl⟩
      exact ⟨{}, [], trivial, executed {} rfl, rfl⟩
  constructor
  · rw [← follows.allows_iff]
    simp only [Allows, Proc.returns_bind_of_quiet quiet, exists_eq_left]
  · rw [← follows.forbids_iff]
    simp only [Forbids, Proc.throws_bind, quiet, Proc.throws_lift]
    constructor
    · rintro ⟨exception, after, (⟨input, _, thrown, _⟩ | ⟨_, _, ⟨rfl, rfl⟩, thrown⟩), forbidden⟩
      · obtain ⟨fault, impossible⟩ := failed input _ thrown
        cases impossible
      · exact ⟨exception, after, thrown, forbidden⟩
    · rintro ⟨exception, after, thrown, forbidden⟩
      exact ⟨exception, after, .inr ⟨found, db, ⟨rfl, rfl⟩, thrown⟩, forbidden⟩

/-! ## Policies -/

/-- No two roles share a name. -/
theorem name_injective {left right : Role} (same : left.name = right.name) : left = right := by
  revert same
  cases left <;> cases right <;> decide

/-- What a policy asks of drivers and of owners; it asks nothing of administrators, and lets
nobody else pass. -/
def Permits (user : Auth.AuthUser) (driver owner : Prop) : Prop :=
  ∃ role : Role, role.name = user.role ∧ (role = .driver → driver) ∧ (role = .owner → owner)

/-- The delivery is assigned to the driver profile of the user. -/
def Assigned (user : Auth.AuthUser) (delivery : Delivery) : Prop :=
  user.driverId ≠ none ∧ delivery.driverId = user.driverId

/-- The user has created the delivery. -/
def Created (user : Auth.AuthUser) (delivery : Delivery) : Prop :=
  delivery.createdBy = user.id

/-- The delivery belongs to the organization of the user. -/
def SameOrganization (user : Auth.AuthUser) (delivery : Delivery) : Prop :=
  user.organizationId ≠ none ∧ delivery.organizationId = user.organizationId

variable {user : Auth.AuthUser} {delivery : Delivery}

/-- For a user with one of the four roles only the clause of its own role counts. -/
theorem permits_iff {role : Role} {driver owner : Prop} (name : role.name = user.role) :
    Permits user driver owner ↔ (role = .driver → driver) ∧ (role = .owner → owner) := by
  constructor
  · rintro ⟨other, sameName, permits⟩
    rwa [name_injective (name.trans sameName.symm)]
  · exact fun permits => ⟨role, name, permits⟩

/-- A user with another role is let through by no policy. -/
theorem not_permits {driver owner : Prop} (nameless : ∀ role : Role, role.name ≠ user.role) :
    ¬Permits user driver owner :=
  fun ⟨role, name, _⟩ => nameless role name

/-- The guard hands on the role of the user, if it is one of the four. -/
theorem follows_activate {next : Role → Proc store α} {driver owner : Prop}
    (follows : ∀ role : Role, role.name = user.role →
      Follows (next role) db ((role = .driver → driver) ∧ (role = .owner → owner))) :
    Follows (RolesGuard.activate operators user >>= next) db (Permits user driver owner) := by
  by_cases named : ∃ role : Role, role.name = user.role
  · obtain ⟨role, name⟩ := named
    have full : user.role ≠ "" := by
      rw [← name]
      cases role <;> decide
    have admitted : RolesGuard.activate operators user = pure role := by
      have first : operators.find? (fun other => other.name = user.role) = some role := by
        rw [← name]
        cases role <;> decide
      rw [RolesGuard.activate, Proc.rejectIf, if_neg full, first]
      rfl
    rw [admitted, permits_iff name]
    exact follows role name
  · have nameless : ∀ role : Role, role.name ≠ user.role := fun role name => named ⟨role, name⟩
    have refused : ∃ exception : HttpException, exception.status = .forbidden ∧
        RolesGuard.activate operators user = throw (.http exception) := by
      rw [RolesGuard.activate, Proc.rejectIf]
      by_cases empty : user.role = ""
      · rw [if_pos empty]
        exact ⟨_, rfl, rfl⟩
      · have none : operators.find? (fun other => other.name = user.role) = none := by
          simpa using fun role _ => nameless role
        rw [if_neg empty, none]
        exact ⟨_, rfl, rfl⟩
    obtain ⟨exception, forbidden, thrown⟩ := refused
    rw [thrown]
    constructor
    · refine iff_of_false ?_ (not_permits nameless)
      rintro ⟨value, after, returned⟩
      exact Proc.returns_throw returned
    · exact iff_of_true ⟨exception, db, Proc.throws_throw.mpr ⟨rfl, rfl⟩, forbidden⟩
        (not_permits nameless)

/-! ## The checks over REST -/

/-- A policy may be put in other words. -/
theorem Decides.congr {allows forbids allowed other : Prop}
    (decides : Decides allows forbids allowed) (same : allowed ↔ other) : Decides allows forbids other :=
  ⟨decides.allows_iff.trans same, decides.forbids_iff.trans (not_congr same)⟩

/-- What is there is handed on. -/
theorem follows_require {value : β} {error : Exception} {next : β → Proc store α}
    {allowed : Prop} (follows : Follows (next value) db allowed) :
    Follows (Proc.require (some value) error >>= next) db allowed :=
  follows

/-- Reading a delivery is for its driver and its creator, however its id is spelled. -/
theorem getDelivery_follows {spelling : Spelling}
    (found : db.delivery? delivery.id = some delivery) :
    Follows (DeliveriesController.getDelivery ⟨delivery.id, spelling⟩ user) db
      (Permits user (Assigned user delivery) (Created user delivery)) := by
  refine follows_activate fun role _ => ?_
  rw [DeliveriesService.getDeliveryById]
  apply follows_select
  · exact congrArg Except.ok found
  refine follows_require (Decides.congr
    (follows_rejectIf rfl (follows_rejectIf rfl (follows_pure delivery))) ?_)
  cases role <;> simp [DeliveriesController.extractActor, Assigned, Created]

/-- Its routes are for the same users. -/
theorem verifyDeliveryAccess_follows {spelling : Spelling}
    (found : db.delivery? delivery.id = some delivery) :
    Follows (RoutesController.verifyDeliveryAccess ⟨delivery.id, spelling⟩ user) db
      (Permits user (Assigned user delivery) (Created user delivery)) := by
  refine follows_activate fun role _ => ?_
  rw [RoutesDomainService.verifyDeliveryAccess]
  simp only [Proc.seq_assoc]
  apply follows_select
  · exact congrArg (fun row => Except.ok (Option.map _ row)) found
  refine follows_require (Decides.congr
    (follows_rejectIf rfl (follows_rejectIf rfl (follows_pure _))) ?_)
  cases role <;> simp [RoutesController.extractActor, Assigned, Created]

/-- Skipping a stop is also open to a driver without a profile. -/
theorem verifyOwnership_follows {stop : DeliveryStop}
    (found : db.delivery? delivery.id = some delivery)
    (stopFound : db.stop? stop.id = some stop) (ofDelivery : stop.deliveryId = delivery.id) :
    Follows (StopsController.verifyOwnership stop.id user) db
      (Permits user (user.driverId = none ∨ Assigned user delivery) (Created user delivery)) := by
  refine follows_activate fun role _ => ?_
  simp only [DeliveryStopsService.verifyOwnership, DeliveryStopsService.getStopAndVerifyDriver,
    Proc.seq_assoc]
  apply follows_select
  · simp only [stopFound, ofDelivery, found]
    rfl
  refine follows_require (Decides.congr
    (follows_rejectIf rfl (follows_rejectIf rfl (follows_pure _))) ?_)
  cases role with
  | driver =>
      simp only [StopsController.skipActor, DeliveryStopsService.verifiedDriver, Assigned]
      by_cases unprofiled : user.driverId = none <;> simp [unprofiled]
  | _ => simp [StopsController.skipActor, Created, DeliveryStopsService.verifiedDriver]

/-! ## How the endpoints begin -/

/-- The endpoint does nothing before the check. -/
def Begins (check : Proc store α) (endpoint : Proc store β) : Prop :=
  ∃ rest, endpoint = check >>= rest

/-- Whom the check forbids, the endpoint forbids. -/
theorem Begins.forbids {endpoint : Proc store β} (begins : Begins check endpoint)
    (forbids : Forbids check db) : Forbids endpoint db := by
  obtain ⟨rest, rfl⟩ := begins
  obtain ⟨exception, after, thrown, forbidden⟩ := forbids
  exact ⟨exception, after, Proc.throws_bind.mpr (.inl thrown), forbidden⟩

/-- The guard and the ownership check are two steps; the endpoint goes on with what both found. -/
theorem begins_bind {γ δ : Type} {first : Proc store γ} {next : γ → Proc store δ}
    {rest : γ → δ → Proc store β} :
    Begins (first >>= fun value => next value >>= fun found => pure (value, found))
      (first >>= fun value => next value >>= rest value) := by
  refine ⟨fun both => rest both.1 both.2, ?_⟩
  simp only [Proc.seq_assoc]
  rfl

/-- The selection of a route begins with the check. -/
theorem selectRoute_begins (deliveryId : IdText) (dto : SelectRouteDto) :
    Begins (RoutesController.verifyDeliveryAccess deliveryId user)
      (RoutesController.selectRoute deliveryId dto user) :=
  begins_bind

/-- So does a manual reorder. -/
theorem reorderStops_begins (deliveryId : IdText) (dto : ManualReorderDto) :
    Begins (RoutesController.verifyDeliveryAccess deliveryId user)
      (RoutesController.reorderStops deliveryId dto user) :=
  begins_bind

/-- So does a skip. -/
theorem skip_begins (stopId : Uuid) (dto : StopReasonDto) :
    Begins (StopsController.verifyOwnership stopId user)
      (StopsController.skip stopId dto user) := by
  simp only [StopsController.skip, DeliveryStopsService.skipStop_eq]
  exact begins_bind

/-- So a route is neither selected nor reordered, nor a stop skipped, against its check. -/
theorem forbids_mutations (deliveryId : IdText) (stopId : Uuid) :
    (Forbids (RoutesController.verifyDeliveryAccess deliveryId user) db →
      (∀ dto, Forbids (RoutesController.selectRoute deliveryId dto user) db) ∧
        ∀ dto, Forbids (RoutesController.reorderStops deliveryId dto user) db) ∧
    (Forbids (StopsController.verifyOwnership stopId user) db →
      ∀ dto, Forbids (StopsController.skip stopId dto user) db) := by
  refine ⟨fun forbidden => ⟨fun dto => ?_, fun dto => ?_⟩, fun forbidden dto => ?_⟩
  · exact (selectRoute_begins deliveryId dto).forbids forbidden
  · exact (reorderStops_begins deliveryId dto).forbids forbidden
  · exact (skip_begins stopId dto).forbids forbidden

/-! ## The check of a room -/

section Room

variable [UuidSpelling] {comm : Communication.Db} {data : AuthenticatedSocketData} {room : String}

/-- A delivery as the room authorizer selects it. -/
def selected (delivery : Delivery) : Communication.Delivery :=
  ⟨delivery.id, delivery.driverId, delivery.createdBy, delivery.organizationId⟩

/-- The authorizer may give this answer. -/
def Answers (comm : Communication.Db) (data : AuthenticatedSocketData) (room : String)
    (authorized : Bool) : Prop :=
  ∃ result after, (Communication.WsRoomAuthorizerService.authorizeRoomJoin data room).Returns
    (fun _ => True) comm result after ∧ result.authorized = authorized

/-- The name of the room is that of a delivery. -/
structure RoomOf (room : String) (id : Uuid) : Prop where
  category : Communication.category (Communication.trim room) = "delivery"
  resource : UuidText.parse (Communication.resourceId (Communication.trim room)) = some id

open Communication Communication.WsRoomAuthorizerService in
/-- What the authorizer computes of the row. -/
def roomAllowed (data : AuthenticatedSocketData) (row : Communication.Delivery) : Bool :=
  if isAdmin data.role then true
  else if data.role = "OWNER" then
    decide (spelled row.createdBy = data.userId) ||
      (data.organizationId.isSome && decide (row.organizationId = data.organizationId))
  else data.role = "DRIVER" && drives data row.driverId

open Communication Communication.WsRoomAuthorizerService in
/-- The authorizer grants or denies by the row alone, and writes nothing. -/
theorem authorizeRoomJoin_returns (identity : data.userId.truthy = true)
    (roomOf : RoomOf room delivery.id)
    (found : comm.deliveries.find? delivery.id = some (selected delivery))
    {result : RoomAuthorizationResult} {after : Communication.Db} :
    (authorizeRoomJoin data room).Returns (fun _ => True) comm result after ↔
      result = (if roomAllowed data (selected delivery) then .granted (trim room)
        else .denied "ROOM_ACCESS_DENIED") ∧ after = comm := by
  obtain ⟨category, resource⟩ := roomOf
  have present : trim room ≠ "" := by
    intro empty
    rw [empty] at category
    revert category
    decide
  have named : resourceId (trim room) ≠ "" := by
    intro empty
    rw [empty, UuidSpelling.parse_empty] at resource
    cases resource
  have quiet : ∀ {row : Option Communication.Delivery} {middle : Communication.Db},
      (liftM (Communication.Prisma.Delivery.findUnique (resourceId (trim room))) :
        Proc communication _).Returns (fun _ => True) comm row middle ↔
          row = some (selected delivery) ∧ middle = comm := by
    intro row middle
    simp only [Proc.returns_lift, Communication.Prisma.Delivery.findUnique, lookup_succeeds, resource,
      Option.some.injEq, exists_eq_left', found]
    constructor
    · rintro ⟨input, writes, _, ⟨_, rfl, rfl⟩, rfl⟩
      exact ⟨rfl, rfl⟩
    · rintro ⟨rfl, rfl⟩
      exact ⟨{}, [], trivial, ⟨rfl, rfl, rfl⟩, rfl⟩
  rw [authorizeRoomJoin]
  simp only [identity, present, category, Bool.true_eq_false, if_false, if_true]
  rw [authorizeDeliveryRoom, if_neg named, Proc.returns_bind_of_quiet quiet]
  simp only [exists_eq_left, Proc.returns_pure]
  rfl

/-- Its computation is a policy as well, with one more clause for owners. -/
theorem roomAllowed_iff (identity : Auth.SameIdentity user data) :
    roomAllowed data (selected delivery) = true ↔
      Permits user (Assigned user delivery)
        (Created user delivery ∨ SameOrganization user delivery) := by
  rw [roomAllowed, Communication.WsRoomAuthorizerService.isAdmin,
    Communication.WsRoomAuthorizerService.drives, selected, ← identity.role, ← identity.userId,
    ← identity.organizationId, ← identity.driverId]
  by_cases named : ∃ role : Role, role.name = user.role
  · obtain ⟨role, name⟩ := named
    rw [permits_iff name, ← name]
    cases role <;>
      simp [Role.name, Assigned, Created, SameOrganization, Option.isSome_iff_ne_none]
  · have nameless : ∀ role : Role, user.role ≠ role.name := fun role name => named ⟨role, name.symm⟩
    refine iff_of_false ?_ (not_permits fun role name => nameless role name.symm)
    have admin := nameless .admin
    have superAdmin := nameless .superAdmin
    have owner := nameless .owner
    have driver := nameless .driver
    simp only [Role.name] at admin superAdmin owner driver
    simp [admin, superAdmin, owner, driver]

/-- Joining the room is for the driver, the creator and the organization of the delivery. -/
theorem room_follows (identity : Auth.SameIdentity user data) (roomOf : RoomOf room delivery.id)
    (found : comm.deliveries.find? delivery.id = some (selected delivery)) :
    Decides (Answers comm data room true) (Answers comm data room false)
      (Permits user (Assigned user delivery)
        (Created user delivery ∨ SameOrganization user delivery)) := by
  have named : data.userId.truthy = true := by
    rw [← identity.userId]
    exact Auth.truthy_spelled user.id
  have answers : ∀ authorized, Answers comm data room authorized ↔
      roomAllowed data (selected delivery) = authorized := by
    intro authorized
    simp only [Answers, authorizeRoomJoin_returns named roomOf found]
    cases roomAllowed data (selected delivery) <;> simp [Communication.RoomAuthorizationResult.denied,
      Communication.RoomAuthorizationResult.granted]
  rw [← roomAllowed_iff identity]
  exact ⟨answers true, (answers false).trans (Bool.not_eq_true _).symm.to_iff⟩

end Room

end Checks

/-! ## Agreement -/

section Agreement

variable [UuidSpelling]

/-- The four checks all let the user pass, or all forbid it. -/
def AllAgree (db : Db) (comm : Communication.Db) (user : Auth.AuthUser)
    (data : AuthenticatedSocketData) (deliveryId : IdText) (stopId : Uuid) (room : String) : Prop :=
  (Allows (DeliveriesController.getDelivery deliveryId user) db ∧ Answers comm data room true ∧
    Allows (RoutesController.verifyDeliveryAccess deliveryId user) db ∧
    Allows (StopsController.verifyOwnership stopId user) db) ∨
  (Forbids (DeliveriesController.getDelivery deliveryId user) db ∧ Answers comm data room false ∧
    Forbids (RoutesController.verifyDeliveryAccess deliveryId user) db ∧
    Forbids (StopsController.verifyOwnership stopId user) db)

/-- The user is an owner whom only its organization connects to the delivery. -/
def OfOrganizationOnly (user : Auth.AuthUser) (delivery : Delivery) : Prop :=
  user.role = "OWNER" ∧ ¬Created user delivery ∧ SameOrganization user delivery

/-- A driver's account that has no row among the drivers, as registration leaves it. -/
def DriverWithoutProfile (user : Auth.AuthUser) : Prop := user.role = "DRIVER" ∧ user.driverId = none

variable [Auth.JsonWebToken] {db : Db} {comm : Communication.Db} {user : Auth.AuthUser}
  {data : AuthenticatedSocketData} {delivery : Delivery} {stop : DeliveryStop} {room : String}
  {config : Auth.JwtConfig} {accounts : Auth.Accounts} {request connect : Auth.Input}
  {token : String} {handshake : Auth.Handshake} {spelling : Spelling}

/-- For the user of a token and every delivery the four checks agree, unless the user is an
owner by organization only or a driver without a profile. The id of the delivery may be spelled
in any way. -/
theorem all_agree_iff (carries : Auth.WsJwtAuthGuard.extractToken handshake = some token)
    (http : Auth.Accepts (Auth.JwtStrategy.authenticate config token) request accounts user)
    (socket : Auth.Accepts (Auth.WsJwtAuthGuard.validateHandshake config handshake) connect accounts
      data)
    (found : db.delivery? delivery.id = some delivery) (stopFound : db.stop? stop.id = some stop)
    (ofDelivery : stop.deliveryId = delivery.id)
    (selects : comm.deliveries.find? delivery.id = some (selected delivery))
    (roomOf : RoomOf room delivery.id) :
    AllAgree db comm user data ⟨delivery.id, spelling⟩ stop.id room ↔
      ¬OfOrganizationOnly user delivery ∧ ¬DriverWithoutProfile user := by
  have identity := Auth.sameIdentity_of_accepts carries http socket
  have get : Follows (DeliveriesController.getDelivery ⟨delivery.id, spelling⟩ user) db _ :=
    getDelivery_follows found
  have join := room_follows identity roomOf selects
  have routes : Follows (RoutesController.verifyDeliveryAccess ⟨delivery.id, spelling⟩ user) db _ :=
    verifyDeliveryAccess_follows found
  have skip : Follows (StopsController.verifyOwnership stop.id user) db _ :=
    verifyOwnership_follows found stopFound ofDelivery
  rw [AllAgree, get.allows_iff, get.forbids_iff, join.allows_iff, join.forbids_iff, routes.allows_iff,
    routes.forbids_iff, skip.allows_iff, skip.forbids_iff, OfOrganizationOnly, DriverWithoutProfile]
  by_cases named : ∃ role : Role, role.name = user.role
  · obtain ⟨role, name⟩ := named
    simp only [permits_iff name, ← name]
    cases role with
    | driver =>
        by_cases unprofiled : user.driverId = none <;>
          by_cases assigned : delivery.driverId = user.driverId <;>
            simp [Role.name, Assigned, unprofiled, assigned]
    | owner =>
        by_cases created : Created user delivery <;>
          by_cases same : SameOrganization user delivery <;> simp [Role.name, created, same]
    | admin => simp [Role.name]
    | superAdmin => simp [Role.name]
  · have nameless : ∀ role : Role, role.name ≠ user.role := fun role name => named ⟨role, name⟩
    refine iff_of_true (.inr ⟨not_permits nameless, not_permits nameless, not_permits nameless,
      not_permits nameless⟩) ⟨?_, ?_⟩
    · rintro ⟨owner, _⟩
      exact nameless .owner owner.symm
    · rintro ⟨driver, _⟩
      exact nameless .driver driver.symm

end Agreement

/-! ## A driver without a profile skips a stop -/

namespace Unprofiled

open Auth Auth.LoggedIn

local instance : UuidSpelling := unarySpelling

local instance : JsonWebToken := tableTokens
  [{ text := "t", secret := "default_long_secret_key_32_characters!", issuer := token.issuer,
     audience := token.audience, payload := token.payload }]

def handshake : Handshake where
  authToken := .string "Bearer t"

def user : Auth.AuthUser where
  id := 1
  username := "d"
  role := "DRIVER"
  organizationId := none
  permissions := []
  deviceId := .string "111"
  sessionId := .string "1111"
  driverId := none

def data : AuthenticatedSocketData where
  userId := .string "11"
  username := "d"
  role := "DRIVER"
  organizationId := none
  permissions := []
  deviceId := .string "111"
  sessionId := .string "1111"
  accessTokenExp := 900
  driverId := none
  connectedAt := 0

/-- A delivery of another driver. -/
def delivery : Delivery where
  id := 2
  deliveryCode := "D"
  driverId := some 6
  createdBy := 5

def stop : DeliveryStop where
  id := 7
  deliveryId := 2
  sequence := 1

def store : Db where
  deliveries := Relational.Table.empty.insert delivery
  deliveryStops := Relational.Table.empty.insert stop

def comm : Communication.Db where
  deliveries := Relational.Table.empty.insert (selected delivery)

/-- The room's name is that of the delivery. -/
theorem roomOf : RoomOf "delivery:111" delivery.id where
  category := by decide
  resource := by decide

/-- The HTTP request of the user is accepted. -/
theorem http : Accepts (JwtStrategy.authenticate {} "t") {} LoggedIn.db user := by
  decide

/-- So is the handshake of the user's socket. -/
theorem socket : Accepts (WsJwtAuthGuard.validateHandshake {} handshake) {} LoggedIn.db data := by
  decide

/-- The equivalence for a driver without a profile. -/
theorem all_agree_iff_unprofiled :
    AllAgree store comm user data delivery.id.text stop.id "delivery:111" ↔
      ¬OfOrganizationOnly user delivery ∧ ¬DriverWithoutProfile user :=
  all_agree_iff (by decide) http socket (by decide) (by decide) rfl (by decide) roomOf

/-- He may not read the delivery, but may skip its stop. -/
theorem not_all_agree :
    ¬∀ (config : JwtConfig) (accounts : Accounts) (request connect : Auth.Input) (token : String)
      (handshake : Handshake) (user : Auth.AuthUser) (data : AuthenticatedSocketData)
      (db : Db) (comm : Communication.Db) (delivery : Delivery) (stop : DeliveryStop) (room : String),
      WsJwtAuthGuard.extractToken handshake = some token →
      Accepts (JwtStrategy.authenticate config token) request accounts user →
      Accepts (WsJwtAuthGuard.validateHandshake config handshake) connect accounts data →
      db.delivery? delivery.id = some delivery → db.stop? stop.id = some stop →
      stop.deliveryId = delivery.id →
      comm.deliveries.find? delivery.id = some (selected delivery) → RoomOf room delivery.id →
        AllAgree db comm user data delivery.id.text stop.id room := by
  intro always
  have agree : AllAgree store comm user data delivery.id.text stop.id "delivery:111" :=
    always {} LoggedIn.db {} {} "t" handshake user data store comm delivery stop "delivery:111"
      (by decide) http socket (by decide) (by decide) rfl (by decide) roomOf
  have found : store.delivery? delivery.id = some delivery := by decide
  have get : Follows (DeliveriesController.getDelivery delivery.id.text user) store _ :=
    getDelivery_follows found
  have skip : Follows (StopsController.verifyOwnership stop.id user) store _ :=
    verifyOwnership_follows found (by decide) rfl
  have name : Role.driver.name = user.role := rfl
  rcases agree with ⟨allowed, _⟩ | ⟨_, _, _, forbidden⟩
  · rw [get.allows_iff, permits_iff name] at allowed
    exact (allowed.1 rfl).1 rfl
  · rw [skip.forbids_iff, permits_iff name] at forbidden
    refine forbidden ⟨fun _ => .inl rfl, ?_⟩
    rintro ⟨⟩

end Unprofiled

end Armada.DeliveryAccess
