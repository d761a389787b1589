import Armada.Collections.ExpiringCounters
import Armada.Concurrency.Turns
import Armada.Schema

/-!
# Rate limits

`incrRateLimit` and `resetRateLimit` of `src/common/redis/redis.service.ts`. Redis carries out
one command at a time; a call sends up to two. A command may fail before Redis carries it out,
or its answer may be lost on the way back, and a process that stops sends no further command.
-/

namespace Armada.Redis

open Collections Concurrency

/-! ## Redis -/

/-- The commands of the rate limiter. -/
inductive Command where
  | incr (key : String)
  | expire (key : String) (seconds : Nat)
  | del (key : String)
  deriving DecidableEq

/-- A command that Redis has carried out, at an instant. -/
structure Executed where
  command : Command
  now : Instant
  deriving DecidableEq

namespace Executed

/-- What an executed command makes of the counters. -/
def apply : Executed → Counters String → Counters String
  | ⟨.incr key, now⟩, counters => counters.increment now key
  | ⟨.expire key seconds, now⟩, counters => counters.expire now key (now + seconds * 1000)
  | ⟨.del key, _⟩, counters => counters.remove key

/-- What Redis answers: the value of the counter, or the number of keys that it has found. -/
def answer : Executed → Counters String → Nat
  | ⟨.incr key, now⟩, counters => ((counters.live now key).map Counter.value).getD 0 + 1
  | ⟨.expire key _, now⟩, counters => if (counters.live now key).isSome then 1 else 0
  | ⟨.del key, now⟩, counters => if (counters.live now key).isSome then 1 else 0

end Executed

/-- What becomes of a command. -/
inductive Outcome where
  | answered
  /-- It fails without having been carried out. -/
  | refused
  /-- It is carried out, but the client gets an error. -/
  | lost
  deriving DecidableEq

/-- What a call finds: the clock, the connection, and how its command ends. -/
structure Input where
  now : Instant := 0
  /-- `this.client && this.isConnected`. -/
  connected : Bool := true
  outcome : Outcome := .answered

/-- The error of a command. -/
inductive CommandError where
  | failed
  deriving DecidableEq

/-- Redis as the limiter uses it. -/
abbrev redis : Signature where
  State := Counters String
  Write := Executed
  Input := Input
  Lock := Empty
  Error := CommandError
  apply := Executed.apply
  clash _ _ := False
  fault _ := none

/-- A command as the client sees it. -/
def exchange (command : Command) : Statement redis (Except CommandError Nat) where
  locks _ _ := []
  exec input counters :=
    let executed : Executed := ⟨command, input.now⟩
    match input.outcome with
    | .answered => .ok (.ok (executed.answer counters), [executed])
    | .refused => .ok (.error .failed, [])
    | .lost => .ok (.error .failed, [executed])

/-- Send a command; without an answer it throws. -/
def send (command : Command) : Proc redis Nat := do
  let answer ← exchange command
  Proc.ofExcept answer

/-- Whether there is a connection. -/
def isConnected : Statement redis Bool where
  locks _ _ := []
  exec input _ := .ok (input.connected, [])

namespace RedisService

/-- `incrRateLimit`: INCR, and EXPIRE after the first; every error counts as 1. -/
def incrRateLimit (key : String) (windowSeconds : Nat) : Proc redis Nat := do
  let connected ← Redis.isConnected
  if ¬connected then return 1
  tryCatch (do
    let count ← send (.incr key)
    if count = 1 then
      let _ ← send (.expire key windowSeconds)
    return count) fun _ => return 1

/-- `resetRateLimit`: DEL, whose errors are swallowed. -/
def resetRateLimit (key : String) : Proc redis Unit := do
  let connected ← Redis.isConnected
  if ¬connected then return ()
  tryCatch (do
    let _ ← send (.del key)
    return ()) fun _ => return ()

end RedisService

/-! ## Runs -/

/-- A call of one of the services; it answers with a count or with nothing. -/
inductive RateLimitCall where
  | incrRateLimit (key : String) (windowSeconds : Nat)
  | resetRateLimit (key : String)

/-- The call as a process. -/
def RateLimitCall.proc : RateLimitCall → Proc redis (Option Nat)
  | .incrRateLimit key windowSeconds => some <$> RedisService.incrRateLimit key windowSeconds
  | .resetRateLimit key => (fun _ => none) <$> RedisService.resetRateLimit key

/-- The calls of any number of processes. One that stops takes no further turn. -/
def RateLimitCall.pool (counters : Counters String) (calls : List RateLimitCall) :
    Pool redis (Option Nat) :=
  ⟨counters, calls.map RateLimitCall.proc⟩

end Armada.Redis
