import Armada.Auth.Footprint
import Armada.Redis.RateLimit

/-!
# Logins with their rate limits

`login` of `src/modules/auth/auth.service.ts` on the accounts and the counters in Redis
together, one call after the other. The parts of a call are those of `AuthService` and of
`Redis.RedisService`; for the accounts it is a run of `AuthService.login` in which the rate
counts are those of Redis.
-/

namespace Armada.Auth

open Collections Concurrency

/-! ## The two parts of `authenticate` -/

namespace AuthService

variable [UuidSpelling] [Argon2]

/-- A row that an identifier names. -/
def names (identifier : String) (row : User) : Bool :=
  row.username = identifier || row.email = some identifier || row.phone = identifier

/-- The user that a login names, once its status has been checked. -/
def lookUp (dto : LoginDto) (clientIp userAgent : String) : Proc accounts Prisma.UserRecord := do
  let found ← Prisma.User.findFirst (names dto.username)
  match found with
  | none => do
      Prisma.AuditLog.create
        { actorUserId := none, action := "LOGIN_FAILURE", entityType := "AUTH",
          entityId := .string dto.username, result := "FAILED", ipAddress := some clientIp,
          userAgent := some userAgent, detail := some (.reason "USER_NOT_FOUND") }
      throw invalidCredentials
  | some found => do
      Proc.rejectIf (found.user.status ≠ .active)
        (unauthorized s!"ACCOUNT_{found.user.status.name}"
          s!"Account is {found.user.status.lowerCase}")
      return found

/-- The call of `verifyPassword`. -/
def checkPassword (dto : LoginDto) (clientIp userAgent : String) (found : Prisma.UserRecord) :
    Proc accounts Prisma.UserRecord := do
  if ¬verifyPassword found.user.passwordHash dto.password then
    Prisma.AuditLog.create
      { actorUserId := some found.user.id, action := "LOGIN_FAILURE", entityType := "USER",
        entityId := spelled found.user.id, result := "FAILED", ipAddress := some clientIp,
        userAgent := some userAgent, detail := some (.reason "PASSWORD_MISMATCH") }
    throw invalidCredentials
  return found

/-- Authenticating is looking up the user, then checking the password. -/
theorem authenticate_eq (dto : LoginDto) (clientIp userAgent : String) :
    authenticate dto clientIp userAgent =
      lookUp dto clientIp userAgent >>= checkPassword dto clientIp userAgent := by
  rw [authenticate, lookUp, Proc.seq_assoc]
  refine congrArg _ (funext fun found => ?_)
  cases found with
  | none =>
      dsimp only
      rw [Proc.seq_assoc]
      rfl
  | some found =>
      dsimp only
      rw [Proc.seq_assoc]
      rfl

end AuthService

/-! ## Accounts and Redis -/

/-- The accounts and the counters that a login works on. -/
structure Limited where
  db : Accounts
  counters : Counters String

/-- What is done on both, and may throw. -/
abbrev LimitedM := ExceptT Exception (StateM Limited)

/-- The inputs of the calls on the accounts. -/
abbrev AccountsInputs := Nat → Nat → accounts.whole.Input

/-- The inputs of the commands of Redis. -/
abbrev RedisInputs := Nat → Nat → Redis.redis.Input

/-- A part on the accounts, run to its end; what is durable stays. -/
def onAccounts {α : Type} (inputs : AccountsInputs) (process : Proc accounts α) : LimitedM α :=
  ExceptT.mk fun state =>
    let ran := (process.whole Write.durable).run inputs state.db
    (ran.1, { state with db := ran.2 })

/-- A part on Redis. The calls of the service never throw. -/
def onRedis {α : Type} (inputs : RedisInputs) (process : Proc Redis.redis α) : LimitedM α :=
  ExceptT.mk fun state =>
    let ran := process.run inputs state.counters
    (ran.1.mapError fun _ => .typeError, { state with counters := ran.2 })

/-- What the environment supplies to the parts of a login. -/
structure Environment where
  address : RedisInputs
  account : RedisInputs
  lookUp : AccountsInputs
  password : AccountsInputs
  reset : RedisInputs
  opening : AccountsInputs

/-- A call of `login`. -/
structure LoginCall where
  dto : LoginDto
  clientIp : String
  userAgent : String
  environment : Environment

/-- The counter of an address. -/
def addressKey (clientIp : String) : String := "throttle:login:ip:" ++ clientIp

/-- The counter of an identifier. -/
def accountKey (username : String) : String := "throttle:login:user:" ++ username

namespace LoginCall

open AuthService (loginRateLimited lookUp checkPassword openSession)

/-- One more attempt under a key, refused when there are too many. -/
def attempt (inputs : RedisInputs) (key : String) (limit : Nat) (refusal : Exception) :
    LimitedM Unit := do
  let attempts ← onRedis inputs (Redis.RedisService.incrRateLimit key 300)
  if attempts > limit then throw refusal

/-- The refusal of an address. -/
def tooManyFromAddress : Exception :=
  loginRateLimited
    "Too many login attempts from this IP address. Please try again in 5 minutes."

/-- The refusal of an identifier. -/
def tooManyForAccount : Exception :=
  loginRateLimited
    "Too many failed login attempts for this account. Please try again in 5 minutes."

/-- The two rate limits at the start of a login. -/
def throttle (call : LoginCall) : LimitedM Unit := do
  attempt call.environment.address (addressKey call.clientIp) 30 tooManyFromAddress
  attempt call.environment.account (accountKey call.dto.username) 5 tooManyForAccount

variable [UuidSpelling] [Argon2]

/-- All that comes before `verifyPassword`. -/
def findUser (call : LoginCall) : LimitedM Prisma.UserRecord := do
  call.throttle
  onAccounts call.environment.lookUp (lookUp call.dto call.clientIp call.userAgent)

/-- The password of an account is compared in the call. -/
def reaches (call : LoginCall) (account : Uuid) (state : Limited) : Bool :=
  match (call.findUser state).1 with
  | .ok found => found.user.id = account
  | .error _ => false

variable [TokenHash]

/-- `verifyPassword`, and all that comes after it. -/
def proceed (config : JwtConfig) (call : LoginCall) (found : Prisma.UserRecord) :
    LimitedM LoginResult := do
  let found ← onAccounts call.environment.password
    (checkPassword call.dto call.clientIp call.userAgent found)
  onRedis call.environment.reset (Redis.RedisService.resetRateLimit (accountKey call.dto.username))
  onAccounts call.environment.opening
    (openSession config call.dto call.clientIp call.userAgent found)

/-- `login`, with the limiter that counts in Redis. -/
def login (config : JwtConfig) (call : LoginCall) : LimitedM LoginResult := do
  let found ← call.findUser
  call.proceed config found

/-- What a call leaves. -/
def after (config : JwtConfig) (call : LoginCall) (state : Limited) : Limited :=
  (call.login config state).2

/-- The calls of a sequence that reach the password of an account. -/
def reaching (config : JwtConfig) (account : Uuid) : List LoginCall → Limited → List LoginCall
  | [], _ => []
  | call :: calls, state =>
      let rest := reaching config account calls (call.after config state)
      if call.reaches account state then call :: rest else rest

end LoginCall

end Armada.Auth
