import Armada.Collections.InsertionMap
import Armada.Schema

/-!
# Uncertain revocations

`isRevoked` and `setRevocation` of `src/common/redis/redis.service.ts`. A key whose
revocation may not have reached Redis is remembered in the process for a while, so that the
database is asked about it. What Redis answers comes from outside.
-/

namespace Armada.Redis

open Collections

/-- The keys whose revocation is uncertain, with the time until which they count. -/
structure RedisService where
  uncertainRevocationKeys : InsertionMap String Instant := .empty

/-- The connection during a call: `this.client && this.isConnected`, and what the client
answers to the command of the call, `none` if it throws. -/
structure Connection where
  connected : Bool
  answer : Option Int
  deriving DecidableEq

namespace RedisService

/-- How many of them are kept. -/
def maxUncertainRevocationKeys : Nat := 10000

/-- How long each counts. -/
def uncertainRevocationTtlMs : Nat := 15 * 60 * 1000

/-- Drop those that count no more. -/
def pruneUncertainRevocationKeys (service : RedisService) (now : Instant) : RedisService :=
  { service with
    uncertainRevocationKeys := service.uncertainRevocationKeys.filter fun expiresAt =>
      now < expiresAt }

/-- The oldest key makes room for another one. The empty string counts as no key. -/
def evictOldest (service : RedisService) : RedisService :=
  match service.uncertainRevocationKeys.oldest? with
  | some oldestKey =>
      if oldestKey ≠ "" then
        { service with
          uncertainRevocationKeys := service.uncertainRevocationKeys.delete oldestKey }
      else service
  | none => service

/-- A key that is not there finds no room. -/
def Crowded (service : RedisService) (key : String) : Prop :=
  service.uncertainRevocationKeys.has key = false ∧
    maxUncertainRevocationKeys ≤ service.uncertainRevocationKeys.size

instance (service : RedisService) (key : String) : Decidable (service.Crowded key) :=
  inferInstanceAs (Decidable (_ ∧ _))

/-- Remember that a revocation may not have reached Redis. -/
def markRevocationUncertain (service : RedisService) (key : String) (now : Instant) :
    RedisService :=
  let pruned := service.pruneUncertainRevocationKeys now
  let spacious := if pruned.Crowded key then pruned.evictOldest else pruned
  { spacious with
    uncertainRevocationKeys :=
      spacious.uncertainRevocationKeys.set key (now + uncertainRevocationTtlMs) }

/-- `none` is null. -/
def isRevoked (service : RedisService) (key : String) (now : Instant) (redis : Connection) :
    Option Bool × RedisService :=
  let pruned := service.pruneUncertainRevocationKeys now
  if pruned.uncertainRevocationKeys.has key ∨ ¬redis.connected then (none, pruned)
  else
    match redis.answer with
    | some exist => (some (exist = 1), pruned)
    | none => (none, pruned.markRevocationUncertain key now)

/-- `setRevocation`, as far as the uncertain keys see it. -/
def setRevocation (service : RedisService) (key : String) (now : Instant) (redis : Connection) :
    RedisService :=
  let pruned := service.pruneUncertainRevocationKeys now
  if ¬redis.connected then pruned.markRevocationUncertain key now
  else
    match redis.answer with
    | some _ =>
        { pruned with uncertainRevocationKeys := pruned.uncertainRevocationKeys.delete key }
    | none => pruned.markRevocationUncertain key now

end RedisService

/-! ## Histories -/

/-- The operations that touch the uncertain keys. -/
inductive Operation where
  | isRevoked
  | setRevocation
  deriving DecidableEq

/-- A call of one of the two operations, at one instant. -/
structure Call where
  operation : Operation
  key : String
  now : Instant
  redis : Connection
  deriving DecidableEq

namespace Call

/-- One of them, at its time. -/
def run (call : Call) (service : RedisService) : RedisService :=
  match call.operation with
  | .isRevoked => (service.isRevoked call.key call.now call.redis).2
  | .setRevocation => service.setRevocation call.key call.now call.redis

/-- The call failed: Redis threw, or a revocation found it disconnected. A key that is
uncertain is not asked for. -/
def Failed (call : Call) (service : RedisService) : Prop :=
  call.operation = .isRevoked ∧
      (service.pruneUncertainRevocationKeys call.now).uncertainRevocationKeys.has call.key = false ∧
      call.redis.connected = true ∧ call.redis.answer = none ∨
    call.operation = .setRevocation ∧ (call.redis.connected = true → call.redis.answer = none)

/-- A revocation reached Redis. -/
def Succeeded (call : Call) : Prop :=
  call.operation = .setRevocation ∧ call.redis.connected = true ∧ call.redis.answer.isSome

instance (call : Call) (service : RedisService) : Decidable (call.Failed service) :=
  inferInstanceAs (Decidable (_ ∨ _))

end Call

/-- The service after a history of calls. -/
def after (history : List Call) : RedisService :=
  history.foldl (fun service call => call.run service) {}

/-- The calls of a history that failed, beginning with a service. -/
def failures (service : RedisService) : List Call → List Call
  | [] => []
  | call :: calls =>
      if call.Failed service then call :: failures (call.run service) calls
      else failures (call.run service) calls

end Armada.Redis
