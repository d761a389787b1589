import Armada.Auth.Entitlement

/-!
# What the logout routes do

`CsrfGuard` is the only guard of `POST /auth/logout` and `POST /auth/logout-all`, and sets
no user. The handlers so pass on no ids, the services find nothing to do, and the routes
answer that the client is logged out while its session goes on.
-/

namespace Armada.Auth

open Relational Concurrency

section LogoutRoutes

variable [UuidSpelling] [JsonWebToken] [UrlOrigin] [BearerHeader]

/-- A request on its way to the guards: it carries an access token that is valid now, and
`CsrfGuard` is going to let it pass. -/
structure Authorized (config : ServerConfig) (input : Input) (db : Accounts)
    (request : HttpRequest) (user : AuthUser) : Prop where
  anonymous : request.user = none
  accepted : Accepts (JwtStrategy.authenticate config.jwt (bearerToken request)) input db user
  passed : CsrfGuard.canActivate config.allowedOrigins request = .ok ()

/-- When the route has answered, every session of a kind is revoked that was there when
the request began. -/
def EndsSessions (route : Route Unit) (config : ServerConfig) (db : Accounts) (request : HttpRequest)
    (covered : Session → Prop) : Prop :=
  ∀ inputs after, (route.serve config request).run inputs db = (.ok (), after) →
    ∀ row, db.session? row.id = some row → covered row → after.Revoked row.id

/-- Both routes end what a logout is to end: the session that the token names, or all of
its user. -/
def LogoutTakesEffect (config : ServerConfig) (db : Accounts) (request : HttpRequest)
    (user : AuthUser) : Prop :=
  EndsSessions AuthController.logout config db request (fun row => user.sessionId.toUuid = .ok row.id) ∧
    EndsSessions AuthController.logoutAll config db request fun row => row.userId = user.id

variable {config : ServerConfig} {input : Input} {db : Accounts} {request : HttpRequest}
  {user : AuthUser}

/-- A route with the guard of the logout routes goes on to its handler, with the request
as it was. -/
theorem serve_of_passed {α : Type} {handler : HttpRequest → Proc accounts α}
    (passed : CsrfGuard.canActivate config.allowedOrigins request = .ok ()) :
    Route.serve config ⟨[.csrf], handler⟩ request = handler request := by
  have activated : activate config [.csrf] request = pure request := by
    rw [activate, RouteGuard.canActivate, passed]
    rfl
  rw [Route.serve, activated]
  rfl

/-- The logout of an authorized request ends without a statement. -/
theorem serve_logout (authorized : Authorized config input db request user) :
    AuthController.logout.serve config request = pure () := by
  rw [AuthController.logout, serve_of_passed authorized.passed, HttpRequest.userSessionId,
    authorized.anonymous]
  rfl

/-- So does the logout of all sessions. -/
theorem serve_logoutAll (authorized : Authorized config input db request user) :
    AuthController.logoutAll.serve config request = pure () := by
  rw [AuthController.logoutAll, serve_of_passed authorized.passed, HttpRequest.userId,
    authorized.anonymous]
  rfl

/-- A route that does nothing leaves a session as it is. -/
theorem not_endsSessions {route : Route Unit} {covered : Session → Prop} {row : Session}
    (input : Input) (idle : route.serve config request = pure ()) (found : db.session? row.id = some row)
    (isCovered : covered row) (unrevoked : row.isRevoked = false) :
    ¬EndsSessions route config db request covered := by
  intro effective
  have answered : (route.serve config request).run (fun _ _ => input) db = (.ok (), db) := by
    rw [idle]
    rfl
  exact (effective _ _ answered row found isCovered).not_active ⟨row, found, unrevoked⟩

/-- What a valid token names is a session that is not revoked, of the token's user. -/
theorem session_of_authorized (authorized : Authorized config input db request user) :
    ∃ row, db.session? row.id = some row ∧ user.sessionId.toUuid = .ok row.id ∧
      row.userId = user.id ∧ row.isRevoked = false := by
  obtain ⟨_, payload, _, accepts⟩ := JwtStrategy.accepts_authenticate.mp authorized.accepted
  obtain ⟨_, _, _, _, record, entitled, rfl⟩ := JwtStrategy.accepts_validate.mp accepts
  obtain ⟨session, device, admits, sameUser, _⟩ := entitled.admitted
  exact ⟨session, admits.foundSession, admits.named, sameUser, admits.unrevoked⟩

/-- Neither route has any effect, whoever logs out. -/
theorem logout_without_effect (authorized : Authorized config input db request user) :
    ¬EndsSessions AuthController.logout config db request
        (fun row => user.sessionId.toUuid = .ok row.id) ∧
      ¬EndsSessions AuthController.logoutAll config db request (fun row => row.userId = user.id) := by
  obtain ⟨row, found, named, sameUser, unrevoked⟩ := session_of_authorized authorized
  exact ⟨not_endsSessions input (serve_logout authorized) found named unrevoked,
    not_endsSessions input (serve_logoutAll authorized) found sameUser unrevoked⟩

end LogoutRoutes

/-! ## A driver who logs out -/

namespace LoggedIn

local instance : UuidSpelling := unarySpelling

local instance : JsonWebToken := tableTokens
  [{ text := "t", secret := "default_long_secret_key_32_characters!", issuer := token.issuer,
     audience := token.audience, payload := token.payload }]

local instance : UrlOrigin := ⟨fun text => some text⟩

local instance : BearerHeader := ⟨fun header => some (String.ofList (header.toList.drop 7))⟩

def request : HttpRequest where
  authorization := some "Bearer t"

def user : AuthUser where
  id := 1
  username := "d"
  role := "DRIVER"
  organizationId := none
  permissions := []
  deviceId := .string "111"
  sessionId := .string "1111"
  driverId := none

/-- The example's request carries a valid token. -/
theorem authorized : Authorized {} {} db request user where
  anonymous := rfl
  accepted := by decide
  passed := by decide

/-- Neither route ends the driver's session. -/
theorem logout_without_effect_of_driver :
    ¬EndsSessions AuthController.logout {} db request (fun row => user.sessionId.toUuid = .ok row.id) ∧
      ¬EndsSessions AuthController.logoutAll {} db request (fun row => row.userId = user.id) :=
  logout_without_effect authorized

/-- The driver is told that it is logged out, and its session is not revoked. -/
theorem logout_not_effective :
    ¬∀ (config : ServerConfig) (input : Input) (db : Accounts) (request : HttpRequest)
      (user : AuthUser), Authorized config input db request user →
        LogoutTakesEffect config db request user := by
  intro always
  obtain ⟨effective, _⟩ := always {} {} db request user authorized
  have found : db.session? session.id = some session := by decide
  have named : user.sessionId.toUuid = .ok session.id := by decide
  have answered : (AuthController.logout.serve {} request).run (fun _ _ => {}) db = (.ok (), db) := by
    rw [serve_logout authorized]
    rfl
  exact (effective _ db answered session found named).not_active ⟨session, found, rfl⟩

end LoggedIn

end Armada.Auth
