import Armada.Auth.JwtStrategy

/-!
# AuthController

The logout routes of `src/modules/auth/auth.controller.ts`, with the guard that runs on
them, `src/common/guards/csrf.guard.ts`. A request has a user only after a guard has set
one.
-/

namespace Armada.Auth

open Concurrency

/-- `new URL(text).origin.toLowerCase()`; the constructor may throw. -/
class UrlOrigin where
  origin : (text : String) → Option String

/-- `ExtractJwt.fromAuthHeaderAsBearerToken` of `passport-jwt`, on the header. -/
class BearerHeader where
  token : (header : String) → Option String

/-- What the endpoints read of a request. -/
structure HttpRequest where
  authorization : Option String := none
  clientType : Option String := none
  origin : Option String := none
  referer : Option String := none
  csrfToken : Option String := none
  refreshCookie : Option String := none
  csrfCookie : Option String := none
  /-- `req.user`. -/
  user : Option AuthUser := none

/-- A header or cookie that is there and not empty. -/
def present (value : Option String) : Option String := value.filter fun text => text ≠ ""

namespace CsrfGuard

/-- The request carries a bearer token. -/
def bearer (request : HttpRequest) : Bool :=
  request.authorization.any fun header => "Bearer ".toList.isPrefixOf header.toList

/-- Thrown by the guards. -/
def denied (message : String) : Exception := .http .forbidden none message

/-- `allowedOrigins` are those of the configuration, trimmed and in lower case. -/
def canActivate [UrlOrigin] (allowedOrigins : List String) (request : HttpRequest) :
    Except Exception Unit :=
  if bearer request then .ok ()
  else if (present request.refreshCookie).isSome ∨ request.clientType = some "WEB" then
    match (present request.origin).or (present request.referer) with
    | none => .error (denied "CSRF_ORIGIN_REQUIRED: Missing Origin or Referer header")
    | some targetHeader =>
        match UrlOrigin.origin targetHeader with
        | none => .error .typeError
        | some parsedOrigin =>
            if parsedOrigin ∉ allowedOrigins then
              .error (denied s!"CSRF_ORIGIN_DENIED: Untrusted origin {parsedOrigin}")
            else if present request.csrfToken = none ∨ present request.csrfCookie = none ∨
                request.csrfToken ≠ request.csrfCookie then
              .error (denied "CSRF_TOKEN_MISMATCH: Invalid or missing CSRF token")
            else .ok ()
  else .ok ()

end CsrfGuard

/-- The guards that routes name in `@UseGuards`. -/
inductive RouteGuard where
  | csrf
  | jwt
  deriving DecidableEq

/-- An endpoint of authentication: its guards and its handler. -/
structure Route (α : Type) where
  guards : List RouteGuard
  handler : HttpRequest → Proc accounts α

/-- What a deployment configures. -/
structure ServerConfig where
  jwt : JwtConfig := {}
  allowedOrigins : List String := []

section Guards

variable [UuidSpelling] [JsonWebToken] [UrlOrigin] [BearerHeader]

/-- The bearer token of a request, or the empty string. -/
def bearerToken (request : HttpRequest) : String :=
  (request.authorization.bind BearerHeader.token).getD ""

/-- A guard lets the request pass, and that of `passport` sets its user. -/
def RouteGuard.canActivate (config : ServerConfig) (request : HttpRequest) :
    RouteGuard → Proc accounts HttpRequest
  | .csrf => do
      Proc.ofExcept (CsrfGuard.canActivate config.allowedOrigins request)
      return request
  | .jwt => do
      let user ← JwtStrategy.authenticate config.jwt (bearerToken request)
      return { request with user := some user }

/-- The guards run one after the other. -/
def activate (config : ServerConfig) : List RouteGuard → HttpRequest → Proc accounts HttpRequest
  | [], request => pure request
  | guard :: guards, request => do
      let request ← guard.canActivate config request
      activate config guards request

/-- The guards in their order, then the handler. -/
def Route.serve {α : Type} (config : ServerConfig) (route : Route α) (request : HttpRequest) :
    Proc accounts α := do
  let request ← activate config route.guards request
  route.handler request

end Guards

/-- `req.user?.sessionId`. -/
def HttpRequest.userSessionId (request : HttpRequest) : JsValue :=
  match request.user with
  | some user => user.sessionId
  | none => .undefined

/-- `req.user?.id`. -/
def HttpRequest.userId [UuidSpelling] (request : HttpRequest) : JsValue :=
  match request.user with
  | some user => spelled user.id
  | none => .undefined

namespace AuthController

variable [UuidSpelling]

/-- `POST /auth/logout`. -/
def logout : Route Unit where
  guards := [.csrf]
  handler request := AuthService.logout request.userSessionId request.userId

/-- `POST /auth/logout-all`. -/
def logoutAll : Route Unit where
  guards := [.csrf]
  handler request := AuthService.logoutAll request.userId

end AuthController

end Armada.Auth
