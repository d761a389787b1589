import Armada.Concurrency.Semaphore
import Armada.Pod.ImageNormalizerService

/-!
# The image limiter loses no slot and no waiter

The limiter implements a semaphore with two permits: the counter is the number of permits
that are out, the queue is that of the waiters, and the promises are settled as permits are
granted and waits given up. What the semaphore says of its roles is then said of the calls.
-/

namespace Armada

open Concurrency

namespace ImageNormalizerService

namespace Limiter

variable {limiter : Limiter} {semaphore : Semaphore Nat maxConcurrency}

/-- A granted call is put at the end of the granted ones. -/
@[simp] theorem granted_settle_granted (call : Nat) :
    (limiter.settle call .granted).granted = limiter.granted ++ [call] := by
  simp [granted, settle]

/-- A rejection grants nothing. -/
@[simp] theorem granted_settle_rejected (call : Nat) (failure : Failure) :
    (limiter.settle call (.rejected failure)).granted = limiter.granted := by
  simp [granted, settle]

/-- A grant rejects nothing. -/
@[simp] theorem rejected_settle_granted (call : Nat) :
    (limiter.settle call .granted).rejected = limiter.rejected := by
  simp [rejected, settle]

/-- A rejected call is put at the end of the rejected ones. -/
@[simp] theorem rejected_settle_rejected (call : Nat) (failure : Failure) :
    (limiter.settle call (.rejected failure)).rejected = limiter.rejected ++ [call] := by
  simp [rejected, settle]

/-- The calls that are over. -/
def finished (limiter : Limiter) : List Nat := limiter.results.map Prod.fst

/-- A recorded result finishes its call. -/
@[simp] theorem finished_record (call : Nat) (result : Except Failure NormalizedResult) :
    (limiter.record call result).finished = limiter.finished ++ [call] := by
  simp [finished, record]

/-- Without a waiter a release frees its slot. -/
theorem release_of_idle {call : Nat} (idle : limiter.queue = []) :
    limiter.release call = { limiter with
      currentActive := limiter.currentActive - 1, released := limiter.released ++ [call] } := by
  rw [release, releaseConcurrencySlot, idle]

/-- With a waiter the slot passes to the first one. -/
theorem release_of_waiter {call next : Nat} {queue : List Nat}
    (first : limiter.queue = next :: queue) :
    limiter.release call = { limiter with
      queue, timers := limiter.timers.erase next, released := limiter.released ++ [call]
      settlements := limiter.settlements ++ [(next, .granted)] } := by
  rw [release, releaseConcurrencySlot, first]
  rfl

/-- The semaphore that a limiter implements. Every waiter has a timer, and a call is over
when it has returned its slot or was rejected. -/
structure Implements (limiter : Limiter) (semaphore : Semaphore Nat maxConcurrency) : Prop where
  arrivals : semaphore.arrivals = List.range limiter.requests.length
  granted : semaphore.granted = limiter.granted
  waiting : semaphore.waiting = limiter.queue
  cancelled : semaphore.cancelled = limiter.rejected
  released : semaphore.released = limiter.released
  counter : limiter.currentActive + limiter.released.length = limiter.granted.length
  timers : limiter.timers = limiter.queue
  finished : limiter.finished.Perm (limiter.released ++ limiter.rejected)

/-- The semaphore has a free permit where the limiter has a free slot. -/
theorem Implements.vacant_iff (implements : limiter.Implements semaphore) :
    semaphore.Vacant ↔ limiter.currentActive < maxConcurrency := by
  have counter := implements.counter
  rw [Semaphore.Vacant, implements.granted, implements.released]
  omega

/-- The fresh limiter implements the idle semaphore. -/
theorem implements_initial : ({} : Limiter).Implements (Semaphore.idle Nat maxConcurrency) :=
  ⟨rfl, rfl, rfl, rfl, rfl, rfl, rfl, .refl _⟩

/-- A call is a step of the semaphore. -/
theorem Implements.call (implements : limiter.Implements semaphore) (request : Request) :
    ∃ next, (limiter.apply (.call request)).Implements next := by
  have fresh : limiter.requests.length ∉ semaphore.arrivals := by
    rw [implements.arrivals]
    exact List.not_mem_range_self
  have arrivals : semaphore.arrivals ++ [limiter.requests.length] =
      List.range (limiter.requests ++ [request]).length := by
    rw [implements.arrivals, List.length_append, List.length_singleton, List.range_succ]
  by_cases room : limiter.currentActive < maxConcurrency
  · have vacant := implements.vacant_iff.mpr room
    refine ⟨semaphore.grant _ fresh vacant, ?_⟩
    have idle : limiter.queue = [] := implements.waiting ▸ vacant.waiting_eq
    simp only [apply, acquireConcurrencySlot, room, if_true]
    constructor
    case arrivals => exact arrivals
    case granted =>
      rw [granted_settle_granted]
      exact congrArg (· ++ _) implements.granted
    case waiting => exact idle.symm
    case cancelled =>
      rw [rejected_settle_granted]
      exact implements.cancelled
    case released => exact implements.released
    case counter =>
      have counter := implements.counter
      rw [granted_settle_granted, List.length_append, List.length_singleton]
      change limiter.currentActive + 1 + limiter.released.length = limiter.granted.length + 1
      omega
    case timers => exact implements.timers
    case finished =>
      rw [rejected_settle_granted]
      exact implements.finished
  · refine ⟨semaphore.enqueue _ fresh (room ∘ implements.vacant_iff.mp), ?_⟩
    simp only [apply, acquireConcurrencySlot, room, if_false]
    exact
      { arrivals
        granted := implements.granted
        waiting := congrArg (· ++ _) implements.waiting
        cancelled := implements.cancelled
        released := implements.released
        counter := implements.counter
        timers := congrArg (· ++ _) implements.timers
        finished := implements.finished }

/-- A timer that fires is that of a waiter. -/
theorem Implements.timeout (implements : limiter.Implements semaphore) {call : Nat}
    (armed : call ∈ limiter.timers) : ∃ next, (limiter.apply (.timeout call)).Implements next := by
  have waits : call ∈ semaphore.waiting := by
    rwa [implements.waiting, ← implements.timers]
  refine ⟨semaphore.cancel call waits, ?_⟩
  rw [apply, Limiter.timeout]
  constructor
  case arrivals => exact implements.arrivals
  case granted => exact implements.granted.trans (granted_settle_rejected call _).symm
  case waiting => exact congrArg (List.erase · call) implements.waiting
  case cancelled =>
    exact (congrArg (· ++ [call]) implements.cancelled).trans (rejected_settle_rejected call _).symm
  case released => exact implements.released
  case counter =>
    exact implements.counter.trans (congrArg List.length (granted_settle_rejected call _).symm)
  case timers => exact congrArg (List.erase · call) implements.timers
  case finished =>
    rw [finished_record]
    refine ((implements.finished.append_right [call]).trans (.of_eq ?_))
    rw [List.append_assoc]
    exact congrArg (limiter.released ++ ·) (rejected_settle_rejected call _).symm

/-- So is the end of a call. -/
theorem Implements.finish (implements : limiter.Implements semaphore) {call : Nat} (sharp : Sharp)
    (granted : call ∈ limiter.granted) (unreleased : call ∉ limiter.released) :
    ∃ next, (limiter.apply (.finish call sharp)).Implements next := by
  have holds : semaphore.Holds call := by
    rw [Semaphore.Holds, implements.granted, implements.released]
    exact ⟨granted, unreleased⟩
  have known : call < limiter.requests.length := by
    have arrived := (semaphore.accounted.mem_iff).mp
      (List.mem_append_left _ (List.mem_append_left _ holds.1))
    rwa [implements.arrivals, List.mem_range] at arrived
  have ended : (limiter.finished ++ [call]).Perm (limiter.released ++ [call] ++ limiter.rejected) :=
    (implements.finished.append_right _).trans (perm_append_newcomer call (.refl _)).symm
  have released : semaphore.released ++ [call] = limiter.released ++ [call] :=
    congrArg (· ++ [call]) implements.released
  have counter := implements.counter
  simp only [apply, List.getElem?_eq_getElem known]
  cases waiters : limiter.queue with
  | nil =>
      have idle := implements.waiting.trans waiters
      refine ⟨semaphore.vacate call holds idle, ?_⟩
      rw [release_of_idle waiters]
      constructor
      case arrivals => exact implements.arrivals
      case granted => exact implements.granted
      case waiting => exact waiters.symm
      case cancelled => exact implements.cancelled
      case released => exact released
      case counter =>
        -- the counter is not at zero
        have out := holds.length_lt
        rw [implements.released, implements.granted] at out
        change limiter.currentActive - 1 + (limiter.released ++ [call]).length =
          limiter.granted.length
        rw [List.length_append, List.length_singleton]
        omega
      case timers => exact implements.timers
      case finished =>
        rw [finished_record]
        exact ended
  | cons next queue =>
      have first := implements.waiting.trans waiters
      refine ⟨semaphore.handOver call next queue holds first, ?_⟩
      have granted : (limiter.settle next .granted).granted = limiter.granted ++ [next] :=
        granted_settle_granted next
      have rejected : (limiter.settle next .granted).rejected = limiter.rejected :=
        rejected_settle_granted next
      rw [release_of_waiter waiters]
      constructor
      case arrivals => exact implements.arrivals
      case granted => exact (congrArg (· ++ [next]) implements.granted).trans granted.symm
      case waiting => rfl
      case cancelled => exact implements.cancelled.trans rejected.symm
      case released => exact released
      case counter =>
        have length := congrArg List.length granted
        change limiter.currentActive + (limiter.released ++ [call]).length =
          (limiter.settle next .granted).granted.length
        rw [granted, List.length_append, List.length_append, List.length_singleton,
          List.length_singleton]
        omega
      case timers =>
        change limiter.timers.erase next = queue
        rw [implements.timers, waiters, List.erase_cons_head]
      case finished =>
        rw [finished_record]
        refine ended.trans (.of_eq ?_)
        exact congrArg (limiter.released ++ [call] ++ ·) rejected.symm

/-- Every reachable limiter implements a semaphore. -/
theorem Reachable.implements (reachable : Reachable limiter) :
    ∃ semaphore, limiter.Implements semaphore := by
  induction reachable with
  | initial => exact ⟨_, implements_initial⟩
  | turn event _ allowed inductionHypothesis =>
      obtain ⟨semaphore, implements⟩ := inductionHypothesis
      cases event with
      | call request => exact implements.call request
      | timeout call => exact implements.timeout allowed
      | finish call sharp => exact implements.finish sharp allowed.1 allowed.2

/-- The granted slots that have not been released. -/
def unreleased (limiter : Limiter) : List Nat :=
  limiter.granted.filter (· ∉ limiter.released)

/-- A promise is settled in one of two ways. -/
theorem settlements_perm (limiter : Limiter) :
    (limiter.settlements.map Prod.fst).Perm (limiter.granted ++ limiter.rejected) := by
  rw [granted, rejected]
  induction limiter.settlements with
  | nil => rfl
  | cons settlement settlements inductionHypothesis =>
      obtain ⟨call, settlement⟩ := settlement
      cases settlement with
      | granted => simpa using inductionHypothesis
      | rejected failure => simpa using (inductionHypothesis.cons call).trans List.perm_middle.symm

/-- No slot and no waiter is lost. -/
structure Orderly (limiter : Limiter) : Prop where
  slots : limiter.unreleased.length = limiter.currentActive
  bounded : limiter.currentActive ≤ maxConcurrency
  busy : limiter.queue ≠ [] → limiter.currentActive = maxConcurrency
  /-- A call waits or has had its promise settled, once. -/
  settled : ∀ call < limiter.requests.length,
    (limiter.settlements.map Prod.fst).count call + limiter.queue.count call = 1
  /-- The timers that are set are those of the waiters. -/
  timed : limiter.timers = limiter.queue
  /-- Slots have been granted in the order of the calls, and who waits comes after. -/
  inOrder : (limiter.granted ++ limiter.queue).Pairwise (· < ·)
  releasedOnce : limiter.released.Nodup
  drained : (∀ call < limiter.requests.length, call ∈ limiter.finished) →
    limiter.currentActive = 0 ∧ limiter.queue = []

/-- What implements a semaphore is orderly. -/
theorem Implements.orderly (implements : limiter.Implements semaphore) : limiter.Orderly where
  slots := by
    have holders := semaphore.length_holders
    have counter := implements.counter
    rw [implements.granted, implements.released] at holders
    rw [unreleased]
    omega
  bounded := by
    have bounded := semaphore.bounded
    have counter := implements.counter
    rw [implements.granted, implements.released] at bounded
    omega
  busy waits := by
    have full := semaphore.full (implements.waiting ▸ waits)
    have counter := implements.counter
    rw [implements.granted, implements.released] at full
    omega
  settled call known := by
    have arrived : call ∈ semaphore.arrivals := by
      rw [implements.arrivals]
      exact List.mem_range.mpr known
    have roles := semaphore.count_roles arrived
    rw [implements.granted, implements.waiting, implements.cancelled] at roles
    rw [limiter.settlements_perm.count_eq, List.count_append]
    omega
  timed := implements.timers
  inOrder := by
    have ordered := semaphore.ordered
    rw [implements.granted, implements.waiting, implements.arrivals] at ordered
    exact List.pairwise_lt_range.sublist ordered
  releasedOnce := implements.released ▸ semaphore.once
  drained done := by
    obtain ⟨idle, back⟩ := semaphore.drained fun call arrived => by
      rw [implements.arrivals, List.mem_range] at arrived
      rw [implements.released, implements.cancelled, ← List.mem_append]
      exact implements.finished.mem_iff.mp (done call arrived)
    have counter := implements.counter
    rw [implements.granted, implements.released] at back
    exact ⟨by omega, implements.waiting ▸ idle⟩

end Limiter

/-- After every sequence of calls, timeouts and ends of pipelines, by a result or by an
exception, that the event loop allows, no slot and no waiter has been lost. -/
theorem limiter_orderly {limiter : Limiter} (reachable : limiter.Reachable) : limiter.Orderly := by
  obtain ⟨semaphore, implements⟩ := reachable.implements
  exact implements.orderly

namespace Crowded

def request : Request := .podPhoto [] "image/jpeg"

/-- An image that cannot be decoded. -/
def broken : Sharp where
  construct _ := .ok ()
  metadata _ := .error "unsupported image format"
  toBuffer _ := .error "unsupported image format"

/-- Two calls run and two wait; the first to wait times out, and the second gets the slot of
a pipeline that has thrown. -/
def limiter : Limiter :=
  ((((({} : Limiter).apply (.call request)).apply (.call request)).apply (.call request)).apply
    (.call request)).apply (.timeout 2) |>.apply (.finish 0 broken)

/-- The example's limiter is reachable. -/
theorem reachable : limiter.Reachable := by
  have called : ∀ {limiter : Limiter}, limiter.Reachable →
      (limiter.apply (.call request)).Reachable := fun reached => .turn _ reached trivial
  have waiting := called (called (called (called .initial)))
  have timedOut := waiting.turn (.timeout 2) (by rw [Limiter.Allowed]; decide)
  exact timedOut.turn (.finish 0 broken) ⟨by decide, by decide⟩

/-- The slot of the finished call goes to call 3, since call 2 has timed out. -/
theorem limiter_orderly_here : limiter.currentActive = 2 ∧ limiter.granted = [0, 1, 3] ∧
    limiter.queue = [] ∧ limiter.Orderly :=
  ⟨by decide, by decide, by decide, limiter_orderly reachable⟩

end Crowded

end ImageNormalizerService

end Armada
