import Armada.Collections.FixedWindow
import Armada.Concurrency.Sequential
import Armada.Redis.RateLimit

/-!
# Rate limits while Redis is available

When every command is answered, `incrRateLimit` counts one event of a fixed window and
returns its count.
-/

namespace Armada.Redis

open Collections Concurrency

/-- Redis is connected and answers every command. -/
def Available (inputs : Nat → Nat → redis.Input) : Prop :=
  ∀ step part, (inputs step part).connected = true ∧ (inputs step part).outcome = .answered

/-- What a call counts: it looks at the connection, counts, and may set the expiry. -/
def counted (inputs : Nat → Nat → redis.Input) (key : String) (windowSeconds : Nat) :
    Event String where
  key := key
  now := (inputs 1 0).now
  closes := (inputs 2 0).now + windowSeconds * 1000

variable {inputs : Nat → Nat → redis.Input} {counters : Counters String}

/-- A command that is answered has been executed. -/
theorem exchange_answered {input : Input} (answered : input.outcome = .answered)
    (command : Command) : (exchange command).Succeeds input counters
      (.ok (Executed.answer ⟨command, input.now⟩ counters)) [⟨command, input.now⟩] := by
  rw [Statement.Succeeds, exchange]
  simp only [answered]

/-- Asking whether Redis is connected changes nothing. -/
theorem isConnected_succeeds (input : Input) :
    isConnected.Succeeds input counters input.connected [] := rfl

/-- Every command ends in some way. -/
theorem exists_exchange (command : Command) (input : Input) (counters : Counters String) :
    ∃ answer writes, (exchange command).Succeeds input counters answer writes := by
  simp only [Statement.Succeeds, exchange]
  cases input.outcome <;> exact ⟨_, _, rfl⟩

/-- The counter of a first event gets its expiry. -/
theorem expire_increment {now closes : Instant} {key : String} (later : Instant)
    (absent : counters.live now key = none) :
    (counters.increment now key).expire later key closes = counters.hit ⟨key, now, closes⟩ := by
  have counted : counters.increment now key key = some .first := by
    rw [Counters.increment_self, absent]
    rfl
  have live : (counters.increment now key).live later key = some .first :=
    Counters.live_eq_some.mpr ⟨counted, Counter.first.alive_of_lasting rfl later⟩
  funext other
  by_cases same : other = key
  · subst same
    rw [Counters.expire_self live]
    refine (Counters.hit_self counters ⟨other, now, closes⟩).symm ▸ ?_
    rw [absent]
  · rw [Counters.expire_of_ne same, Counters.increment_of_ne same]
    exact (Counters.hit_of_ne ⟨key, now, closes⟩ same).symm

/-- Another event is only counted. -/
theorem increment_eq_hit {now closes : Instant} {key : String} {counter : Counter}
    (found : counters.live now key = some counter) :
    counters.increment now key = counters.hit ⟨key, now, closes⟩ := by
  rw [Counters.increment, Counters.hit, found]
  rfl

/-- Where Redis answers, a hit counts and the first of a window sets its end. -/
theorem incrRateLimit_run (available : Available inputs) (key : String) (windowSeconds : Nat) :
    (RedisService.incrRateLimit key windowSeconds).run inputs counters =
      (.ok (counters.count (inputs 1 0).now key),
        counters.hit (counted inputs key windowSeconds)) := by
  rw [RedisService.incrRateLimit, Proc.run_lift_bind (isConnected_succeeds _),
    (available 0 0).1, if_neg (by simp), send, Proc.seq_assoc, Signature.applyAll_nil]
  refine (Proc.run_tryCatch_lift_bind (exchange_answered (available 1 0).2 _)).trans ?_
  cases found : counters.live (inputs 1 0).now key with
  | none =>
      have one : Executed.answer ⟨.incr key, (inputs 1 0).now⟩ counters = 1 := by
        rw [Executed.answer, found]
        rfl
      rw [one, Counters.count, found, counted]
      refine Eq.trans ?_ (congrArg (Prod.mk _) (expire_increment (inputs 2 0).now found))
      change (Proc.tryCatch (if 1 = 1 then send (.expire key windowSeconds) >>= fun _ => pure 1
        else pure 1) fun _ => pure 1).run _ (counters.increment (inputs 1 0).now key) = _
      rw [if_pos rfl, send, Proc.seq_assoc]
      let rest : Nat → Nat → redis.Input := fun step => inputs (step + 2)
      have sent : (exchange (.expire key windowSeconds)).Succeeds (rest 0 0)
          (counters.increment (inputs 1 0).now key) _ _ :=
        exchange_answered (available 2 0).2 _
      exact Proc.run_tryCatch_lift_bind sent
  | some counter =>
      have more : Executed.answer ⟨.incr key, (inputs 1 0).now⟩ counters = counter.value + 1 := by
        rw [Executed.answer, found]
        rfl
      have different : counter.value + 1 ≠ 1 := by
        have positive := counter.positive
        omega
      rw [more, Counters.count, found, counted]
      refine Eq.trans ?_ (congrArg (Prod.mk _) (increment_eq_hit found))
      change (Proc.tryCatch (if counter.value + 1 = 1 then
        send (.expire key windowSeconds) >>= fun _ => pure (counter.value + 1)
          else pure (counter.value + 1)) fun _ => pure 1).run _ _ = _
      rw [if_neg different]
      rfl

/-- A reset never fails. -/
theorem resetRateLimit_run (inputs : Nat → Nat → redis.Input) (key : String)
    (counters : Counters String) :
    ((RedisService.resetRateLimit key).run inputs counters).1 = .ok () := by
  rw [RedisService.resetRateLimit, Proc.run_lift_bind (isConnected_succeeds _)]
  cases (inputs 0 0).connected with
  | false => rfl
  | true =>
      let rest : Nat → Nat → redis.Input := fun step => inputs (step + 1)
      obtain ⟨answer, writes, executed⟩ := exists_exchange (.del key) (rest 0 0) counters
      rw [if_neg (by simp), send, Proc.seq_assoc, Signature.applyAll_nil]
      refine (congrArg Prod.fst (Proc.run_tryCatch_lift_bind executed)).trans ?_
      cases answer <;> rfl

end Armada.Redis
