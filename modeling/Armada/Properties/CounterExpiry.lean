import Armada.Redis.RateLimit

/-!
# The expiry of rate limits

A counter gets its time to live from a second command, which only the call sends that has
counted to one. In every run of any calls, a counter stays without one exactly if the INCR
that made it has not been followed by an EXPIRE or a DEL: because one of the two commands
failed, because an answer was lost, because the process stopped between the two, or for the
moment between them. When every command is answered and every call has ended, all expire.
-/

namespace Armada.Redis

open Collections Concurrency

/-- Every counter has a time to live, so nothing is refused for ever. -/
def Expiring (counters : Counters String) : Prop :=
  ∀ key counter, counters key = some counter → counter.expiresAt ≠ none

/-- Every counter expires when no key is lasting. -/
theorem expiring_iff {counters : Counters String} :
    Expiring counters ↔ ∀ key, ¬counters.Lasting key := by
  constructor
  · rintro expiring key ⟨counter, found, forever⟩
    exact expiring key counter found forever
  · intro none key counter found forever
    exact none key ⟨counter, found, forever⟩

/-- Redis when nothing has been counted. -/
def untouched : Counters String := fun _ => none

/-- The untouched counters expire. -/
theorem expiring_untouched : Expiring untouched := by
  rintro key counter ⟨⟩

/-! ## Commands that make and settle a counter -/

/-- An INCR that finds no counter makes one, without a time to live. -/
def Creates (turn : Concurrency.Turn redis) (key : String) : Prop :=
  ∃ now, turn.writes = [⟨.incr key, now⟩] ∧ Counters.live turn.before now key = none

/-- An EXPIRE or a DEL of the key. -/
def Settles (turn : Concurrency.Turn redis) (key : String) : Prop :=
  ∃ now, (∃ seconds, turn.writes = [⟨.expire key seconds, now⟩]) ∨ turn.writes = [⟨.del key, now⟩]

/-- Every INCR that has made a counter has been followed by a command that settles it. -/
def Settled (trace : List (Concurrency.Turn redis)) : Prop :=
  ∀ first turn rest key, trace = first ++ turn :: rest → Creates turn key →
    ∃ later ∈ rest, Settles later key

/-- The last of the commands on a key that matter has made the counter. -/
def Unsettled (trace : List (Concurrency.Turn redis)) (key : String) : Prop :=
  ∃ first turn rest, trace = first ++ turn :: rest ∧ Creates turn key ∧
    ∀ later ∈ rest, ¬Settles later key

/-- A trace is settled when it leaves no key unsettled. -/
theorem settled_iff {trace : List (Concurrency.Turn redis)} :
    Settled trace ↔ ∀ key, ¬Unsettled trace key := by
  constructor
  · rintro settled key ⟨first, turn, rest, split, creates, never⟩
    obtain ⟨later, member, settles⟩ := settled first turn rest key split creates
    exact never later member settles
  · intro none first turn rest key split creates
    by_contra never
    exact none key ⟨first, turn, rest, split, creates, fun later member settles =>
      never ⟨later, member, settles⟩⟩

/-- A turn makes a key unsettled by creating it, and leaves it so unless it settles it. -/
theorem unsettled_append {trace : List (Concurrency.Turn redis)} {turn : Concurrency.Turn redis}
    {key : String} :
    Unsettled (trace ++ [turn]) key ↔
      Creates turn key ∨ Unsettled trace key ∧ ¬Settles turn key := by
  constructor
  · rintro ⟨first, maker, rest, split, creates, never⟩
    induction rest using List.reverseRecOn with
    | nil =>
        obtain ⟨_, same⟩ := List.append_inj' split rfl
        cases same
        exact .inl creates
    | append_singleton rest last _ =>
        rw [← List.cons_append, ← List.append_assoc] at split
        obtain ⟨rfl, same⟩ := List.append_inj' split rfl
        cases same
        refine .inr ⟨⟨first, maker, rest, rfl, creates, fun later member => ?_⟩, never _ (by simp)⟩
        exact never later (List.mem_append_left _ member)
  · rintro (creates | ⟨⟨first, maker, rest, rfl, creates, never⟩, unsettling⟩)
    · exact ⟨trace, turn, [], rfl, creates, nofun⟩
    · refine ⟨first, maker, rest ++ [turn], by simp, creates, fun later member => ?_⟩
      rcases List.mem_append.mp member with inside | isLast
      · exact never later inside
      · exact List.mem_singleton.mp isLast ▸ unsettling

/-! ## One turn -/

/-- Redis carries out one command in a turn, or none. -/
def AtMostOne (writes : List Executed) : Prop :=
  writes = [] ∨ ∃ executed, writes = [executed]

/-- What a turn does to the counter of a key. -/
theorem lasting_after {turn : Concurrency.Turn redis} (atMostOne : AtMostOne turn.writes)
    (key : String) :
    Counters.Lasting turn.after key ↔
      Creates turn key ∨ Counters.Lasting turn.before key ∧ ¬Settles turn key := by
  rw [Concurrency.Turn.after]
  rcases atMostOne with idle | ⟨⟨command, now⟩, one⟩
  · have creates : ¬Creates turn key := by simp [Creates, idle]
    have settles : ¬Settles turn key := by simp [Settles, idle]
    rw [or_iff_right creates, and_iff_left settles, idle]
    rfl
  · rw [one]
    change Counters.Lasting (Executed.apply ⟨command, now⟩ turn.before) key ↔ _
    cases command with
    | incr other =>
        have settles : ¬Settles turn key := by simp [Settles, one]
        by_cases same : key = other
        · subst same
          have creates : Creates turn key ↔ Counters.live turn.before now key = none := by
            simp [Creates, one]
          rw [creates, and_iff_left settles]
          exact Counters.lasting_increment
        · have creates : ¬Creates turn key := by simp [Creates, one, Ne.symm same]
          rw [or_iff_right creates, and_iff_left settles]
          exact Counters.lasting_congr (Counters.increment_of_ne same)
    | expire other seconds =>
        have creates : ¬Creates turn key := by simp [Creates, one]
        rw [or_iff_right creates]
        by_cases same : key = other
        · subst same
          have settles : Settles turn key := ⟨now, .inl ⟨seconds, one⟩⟩
          exact iff_of_false Counters.not_lasting_expire fun both => both.2 settles
        · have settles : ¬Settles turn key := by simp [Settles, one, Ne.symm same]
          rw [and_iff_left settles]
          exact Counters.lasting_congr (Counters.expire_of_ne same)
    | del other =>
        have creates : ¬Creates turn key := by simp [Creates, one]
        rw [or_iff_right creates]
        by_cases same : key = other
        · subst same
          have settles : Settles turn key := ⟨now, .inr one⟩
          exact iff_of_false Counters.not_lasting_remove fun both => both.2 settles
        · have settles : ¬Settles turn key := by simp [Settles, one, Ne.symm same]
          rw [and_iff_left settles]
          exact Counters.lasting_congr (Counters.remove_of_ne same)

/-! ## The calls -/

section Calls

open Proc

variable {supplied : Concurrency.Turn redis → Prop} {thread : Nat}
  {guar : List (Concurrency.Turn redis) → Concurrency.Turn redis → Prop}
  {history : List (Concurrency.Turn redis)}

/-- Redis is asked nothing. -/
theorem isConnected_meets {α : Type} {next : Bool → Proc redis α}
    {post : Except CommandError α → List (Concurrency.Turn redis) → Prop}
    (allowed : ∀ turn, turn.writes = [] → guar history turn)
    (continued : ∀ connected turn, turn.writes = [] →
      (next connected).Meets (.turns supplied thread guar) post (history ++ [turn])) :
    (liftM isConnected >>= next).Meets (.turns supplied thread guar) post history := by
  rw [meets_bind, meets_lift]
  exact fun inputs before _ => ⟨allowed _ rfl, continued _ _ rfl⟩

/-- A command is carried out and answered, or the call gets an error: the command has failed,
or its answer is lost. -/
theorem exchange_succeeds {command : Command} {input : Input} {before : Counters String}
    {answer : Except CommandError Nat} {writes : List Executed}
    (executed : (exchange command).Succeeds input before answer writes) :
    answer = .ok (Executed.answer ⟨command, input.now⟩ before) ∧ writes = [⟨command, input.now⟩] ∨
      input.outcome = .refused ∧ answer = .error .failed ∧ writes = [] ∨
        input.outcome = .lost ∧ answer = .error .failed ∧ writes = [⟨command, input.now⟩] := by
  rw [Statement.Succeeds, exchange] at executed
  cases outcome : input.outcome with
  | answered =>
      simp only [outcome] at executed
      cases executed
      exact .inl ⟨rfl, rfl⟩
  | refused =>
      simp only [outcome] at executed
      cases executed
      exact .inr (.inl ⟨rfl, rfl, rfl⟩)
  | lost =>
      simp only [outcome] at executed
      cases executed
      exact .inr (.inr ⟨rfl, rfl, rfl⟩)

/-- A command is sent: it is answered, refused, or carried out without an answer. -/
theorem send_meets {command : Command} {post : Except CommandError Nat →
    List (Concurrency.Turn redis) → Prop}
    (allowed : ∀ turn, turn.Performs (exchange command) → AtMostOne turn.writes →
      guar history turn)
    (answered : ∀ turn now, turn.writes = [⟨command, now⟩] →
      post (.ok (Executed.answer ⟨command, now⟩ turn.before)) (history ++ [turn]))
    (refused : ∀ turn, supplied turn → turn.Performs (exchange command) →
      (turn.inputs 0).outcome = .refused → turn.writes = [] →
        post (.error .failed) (history ++ [turn]))
    (lost : ∀ turn now, supplied turn → turn.Performs (exchange command) →
      (turn.inputs 0).outcome = .lost → turn.writes = [⟨command, now⟩] →
        post (.error .failed) (history ++ [turn])) :
    (send command).Meets (.turns supplied thread guar) post history := by
  refine Meets.next (fun inputs before error _ failure => ?_) fun inputs before answer writes given
    executed => ?_
  · rw [exchange] at failure
    cases outcome : (inputs 0).outcome <;> simp only [outcome] at failure <;> cases failure
  · have wrote := Concurrency.Turn.writes_of_succeeds thread executed
    rcases exchange_succeeds executed with ⟨rfl, rfl⟩ | ⟨outcome, rfl, rfl⟩ | ⟨outcome, rfl, rfl⟩
    · exact ⟨allowed _ rfl (.inr ⟨_, wrote⟩), answered _ _ wrote⟩
    · exact ⟨allowed _ rfl (.inl wrote), refused _ given rfl outcome wrote⟩
    · exact ⟨allowed _ rfl (.inr ⟨_, wrote⟩), lost _ _ given rfl outcome wrote⟩

/-- An increment sends at most one command a turn. -/
theorem incrRateLimit_commits (key : String) (windowSeconds : Nat) :
    (RedisService.incrRateLimit key windowSeconds).Commits
      (.turns supplied thread fun _ turn => AtMostOne turn.writes) := by
  have sends : ∀ command, (send command).Commits
      (.turns supplied thread fun _ turn => AtMostOne turn.writes) :=
    fun command _ => send_meets (fun _ _ one => one) (fun _ _ _ => trivial)
      (fun _ _ _ _ _ => trivial) fun _ _ _ _ _ _ => trivial
  intro history
  refine isConnected_meets (fun _ idle => .inl idle) fun connected turn _ => ?_
  refine Commits.ite (.pure _) (.tryCatch ?_ fun _ => .pure _) _
  refine .bind (sends _) fun count => .ite ?_ (.pure _)
  exact .bind (sends _) fun _ => .pure _

/-- So does a reset. -/
theorem resetRateLimit_commits (key : String) :
    (RedisService.resetRateLimit key).Commits
      (.turns supplied thread fun _ turn => AtMostOne turn.writes) := by
  have sends : ∀ command, (send command).Commits
      (.turns supplied thread fun _ turn => AtMostOne turn.writes) :=
    fun command _ => send_meets (fun _ _ one => one) (fun _ _ _ => trivial)
      (fun _ _ _ _ _ => trivial) fun _ _ _ _ _ _ => trivial
  intro history
  refine isConnected_meets (fun _ idle => .inl idle) fun connected turn _ => ?_
  exact Commits.ite (.pure _) (.tryCatch (.bind (sends _) fun _ => .pure _) fun _ => .pure _) _

/-- So does every call. -/
theorem proc_commits (call : RateLimitCall) :
    call.proc.Commits (.turns supplied thread fun _ turn => AtMostOne turn.writes) := by
  cases call with
  | incrRateLimit key windowSeconds => exact (incrRateLimit_commits key windowSeconds).map _
  | resetRateLimit key => exact (resetRateLimit_commits key).map _

end Calls

/-! ## Runs -/

section Runs

variable {counters : Counters String} {calls : List RateLimitCall}
    {trace : List (Concurrency.Turn redis)}
  {final : Pool redis (Option Nat)}

/-- Every turn of a run writes at most one command. -/
theorem atMostOne_of_turns (turns : (RateLimitCall.pool counters calls).Turns trace final) :
    ∀ turn ∈ trace, AtMostOne turn.writes := by
  have meets : ∀ (thread : Nat) process,
      (RateLimitCall.pool counters calls).procs[thread]? = some process →
        process.Meets (.turns (fun _ => True) thread fun _ turn => AtMostOne turn.writes)
          (fun _ _ => True) [] := by
    intro thread process found
    rw [RateLimitCall.pool, List.getElem?_map, Option.map_eq_some_iff] at found
    obtain ⟨call, _, rfl⟩ := found
    exact proc_commits call []
  intro turn member
  obtain ⟨first, rest, split⟩ := List.append_of_mem member
  exact (turns.own (fun _ _ => trivial) meets).1 first turn rest split

/-- In every run, whatever fails and whoever stops, every counter has a time to live exactly
if each INCR that has made one has been followed by an EXPIRE or a DEL of its key. -/
theorem expiring_iff_settled (expiring : Expiring counters)
    (turns : (RateLimitCall.pool counters calls).Turns trace final) :
    Expiring final.state ↔ Settled trace := by
  have along := turns.along (fun history state =>
      ∀ key, Counters.Lasting state key ↔ Unsettled history key) ?_ ?_
  · rw [expiring_iff, settled_iff]
    exact forall_congr' fun key => not_congr (along.1 key)
  · refine fun key => iff_of_false (expiring_iff.mp expiring key) ?_
    rintro ⟨first, turn, rest, split, _⟩
    simp at split
  · intro first turn rest split same key
    have member : turn ∈ trace := split ▸ List.mem_append_right _ List.mem_cons_self
    rw [lasting_after (atMostOne_of_turns turns turn member), unsettled_append, same key]

/-! ### Faults and stops -/

/-- The client gets the answer of an INCR that Redis has carried out, and Redis carries out
every EXPIRE. -/
def Served (turn : Concurrency.Turn redis) : Prop :=
  (∀ key, turn.Performs (exchange (.incr key)) → (turn.inputs 0).outcome ≠ .lost) ∧
    ∀ key seconds, turn.Performs (exchange (.expire key seconds)) →
      (turn.inputs 0).outcome ≠ .refused

/-- A command that is answered is served. -/
theorem served_of_answered {turn : Concurrency.Turn redis}
    (answered : (turn.inputs 0).outcome = .answered) :
    Served turn := by
  simp [Served, answered]

/-- An EXPIRE that Redis carries out is served, even if its answer is lost. -/
theorem served_of_expires {turn : Concurrency.Turn redis} {key : String} {seconds : Nat}
    {now : Instant}
    (one : turn.writes = [⟨.expire key seconds, now⟩]) : Served turn := by
  constructor
  · intro other performs lost
    rw [performs.writes, Statement.writes, exchange] at one
    simp [lost] at one
  · intro other window performs refused
    rw [performs.writes, Statement.writes, exchange] at one
    simp [refused] at one

/-- The process stands between an INCR and its EXPIRE. -/
def OwesExpire {α : Type} (process : Proc redis α) : Prop :=
  ∃ key seconds, process.act = some (.call (exchange (.expire key seconds)))

/-- A call takes a turn with its own counters settled, or the turn is its EXPIRE. -/
def Orderly (history : List (Concurrency.Turn redis)) (turn : Concurrency.Turn redis) : Prop :=
  (∀ key, ¬Unsettled history key) ∨
    ∃ key seconds, turn.Performs (exchange (.expire key seconds))

/-- Before the first turn no key is unsettled. -/
theorem unsettled_nil {key : String} : ¬Unsettled [] key := by
  rintro ⟨first, turn, rest, split, _⟩
  simp at split

/-- An idle turn leaves a settled key settled. -/
theorem not_unsettled_of_idle {history : List (Concurrency.Turn redis)}
    {turn : Concurrency.Turn redis} {key : String}
    (idle : turn.writes = []) (settled : ¬Unsettled history key) :
    ¬Unsettled (history ++ [turn]) key := by
  rw [unsettled_append]
  rintro (⟨now, one, _⟩ | ⟨before, _⟩)
  · cases idle.symm.trans one
  · exact settled before

/-- An INCR that makes a counter answers one. -/
theorem answer_of_creates {turn : Concurrency.Turn redis} {key other : String} {now : Instant}
    (one : turn.writes = [⟨.incr key, now⟩]) (creates : Creates turn other) :
    other = key ∧ Executed.answer ⟨.incr key, now⟩ turn.before = 1 := by
  obtain ⟨at_, same, absent⟩ := creates
  obtain ⟨rfl, rfl⟩ : key = other ∧ now = at_ := by simpa using one.symm.trans same
  exact ⟨rfl, by rw [Executed.answer, absent]; rfl⟩

/-- After its first command a call owes an EXPIRE if that has made a counter. -/
theorem unsettled_of_incr {history : List (Concurrency.Turn redis)} {turn : Concurrency.Turn redis}
    {key other : String}
    {now : Instant} (one : turn.writes = [⟨.incr key, now⟩])
    (settled : ∀ key, ¬Unsettled history key) (owes : Unsettled (history ++ [turn]) other) :
    other = key ∧ Executed.answer ⟨.incr key, now⟩ turn.before = 1 := by
  rcases unsettled_append.mp owes with creates | ⟨before, _⟩
  · exact answer_of_creates one creates
  · exact absurd before (settled other)

open Proc

/-- A call of `incrRateLimit` that is served settles what it has made, and owes an EXPIRE at
most between its two commands. -/
theorem incrRateLimit_settles (thread : Nat) (key : String) (windowSeconds : Nat) :
    (RedisService.incrRateLimit key windowSeconds).Meets (.turns Served thread Orderly)
      (fun _ history => ∀ other, ¬Unsettled history other) [] := by
  refine isConnected_meets (fun _ _ => .inl fun _ => unsettled_nil) fun connected asked idle => ?_
  have start : ∀ other, ¬Unsettled ([] ++ [asked]) other :=
    fun other => not_unsettled_of_idle idle unsettled_nil
  refine Meets.ite (fun _ => start) fun _ => ?_
  refine Meets.tryCatch (Q := fun _ history => ∀ other, ¬Unsettled history other) ?_
    (fun _ _ settled => settled) fun _ _ settled => settled
  rw [meets_bind]
  refine send_meets (fun _ _ _ => .inl start) (fun turn now one => ?_)
    (fun turn _ _ _ idle other => not_unsettled_of_idle idle (start other))
    fun turn now served performs lost => absurd lost (served.1 key performs)
  refine Meets.ite (fun isOne => ?_) fun more other owes => ?_
  · -- the call has made the counter, and sends the EXPIRE that settles it
    have settles : ∀ last later, last.writes = [⟨.expire key windowSeconds, later⟩] →
        ∀ other, ¬Unsettled (([] ++ [asked]) ++ [turn] ++ [last]) other := by
      intro last later sent other owes
      rcases unsettled_append.mp owes with ⟨_, same, _⟩ | ⟨before, unsettling⟩
      · cases sent.symm.trans same
      · obtain ⟨rfl, _⟩ := unsettled_of_incr one start before
        exact unsettling ⟨later, .inl ⟨_, sent⟩⟩
    rw [meets_bind]
    exact send_meets (fun _ performs _ => .inr ⟨_, _, performs⟩) settles
      (fun last served performs refused => absurd refused (served.2 _ _ performs))
      fun last later _ _ _ sent => settles last later sent
  · exact more (unsettled_of_incr one start owes).2

/-- A call of `resetRateLimit` makes no counter. -/
theorem resetRateLimit_settles (thread : Nat) (key : String) :
    (RedisService.resetRateLimit key).Meets (.turns Served thread Orderly)
      (fun _ history => ∀ other, ¬Unsettled history other) [] := by
  refine isConnected_meets (fun _ _ => .inl fun _ => unsettled_nil) fun connected asked idle => ?_
  have start : ∀ other, ¬Unsettled ([] ++ [asked]) other :=
    fun other => not_unsettled_of_idle idle unsettled_nil
  have keeps : ∀ turn now, turn.writes = [⟨.del key, now⟩] →
      ∀ other, ¬Unsettled (([] ++ [asked]) ++ [turn]) other := by
    intro turn now one other owes
    rcases unsettled_append.mp owes with ⟨_, same, _⟩ | ⟨before, _⟩
    · cases one.symm.trans same
    · exact start other before
  refine Meets.ite (fun _ => start) fun _ => ?_
  refine Meets.tryCatch (Q := fun _ history => ∀ other, ¬Unsettled history other) ?_
    (fun _ _ settled => settled) fun _ _ settled => settled
  rw [meets_bind]
  exact send_meets (fun _ _ _ => .inl start) keeps
    (fun turn _ _ _ idle other => not_unsettled_of_idle idle (start other))
    fun turn now _ _ _ sent => keeps turn now sent

/-- A call that runs to its end settles what it created. -/
theorem proc_settles (thread : Nat) (call : RateLimitCall) :
    call.proc.Meets (.turns Served thread Orderly)
      (fun _ history => ∀ key, ¬Unsettled history key) [] := by
  cases call with
  | incrRateLimit key windowSeconds =>
      exact (incrRateLimit_settles thread key windowSeconds).bind (fun _ _ settled => settled)
        fun _ _ settled => settled
  | resetRateLimit key =>
      exact (resetRateLimit_settles thread key).bind (fun _ _ settled => settled)
        fun _ _ settled => settled

/-- A counter that is settled among the own turns of the call that has made it is settled. -/
theorem not_unsettled_of_own {key : String}
    (own : ∀ turn ∈ trace, ¬Unsettled (Pool.own trace turn.thread) key) : ¬Unsettled trace key := by
  rintro ⟨first, turn, rest, rfl, creates, never⟩
  refine own turn (by simp) ⟨Pool.own first turn.thread, turn, Pool.own rest turn.thread, ?_,
    creates, fun later member => never later (Pool.mem_own.mp member).1⟩
  simp [Pool.own]

/-- A process within its contract that does not owe an EXPIRE has settled what it has made. -/
theorem settled_of_meets {process : Proc redis (Option Nat)} {thread : Nat}
    {history : List (Concurrency.Turn redis)} (owesNone : ¬OwesExpire process)
    (meets : process.Meets (.turns Served thread Orderly)
      (fun _ history => ∀ key, ¬Unsettled history key) history) : ∀ key,
        ¬Unsettled history key := by
  cases performed : process.act with
  | none =>
      cases process with
      | done value => exact meets
      | fail error => exact meets
      | call statement resume => cases performed
      | transaction body resume => cases performed
  | some act =>
      have answered : Served ⟨thread, act, fun _ => {}, untouched⟩ := served_of_answered rfl
      rcases meets.permits performed answered with settled | ⟨key, seconds, performs⟩
      · exact settled
      · exact absurd ⟨key, seconds, performed.trans (congrArg some performs)⟩ owesNone

/-- In every run in which no answer of an INCR is lost and no EXPIRE fails, all counters have a
time to live whenever no call stands between its two commands. -/
theorem expiring_of_completed (expiring : Expiring counters)
    (turns : (RateLimitCall.pool counters calls).Turns trace final)
    (served : ∀ turn ∈ trace, Served turn)
    (completed : ∀ process ∈ final.procs, ¬OwesExpire process) :
    Expiring final.state := by
  have meets : ∀ (thread : Nat) process,
      (RateLimitCall.pool counters calls).procs[thread]? = some process →
        process.Meets (.turns Served thread Orderly)
          (fun _ history => ∀ key, ¬Unsettled history key) [] := by
    intro thread process found
    rw [RateLimitCall.pool, List.getElem?_map, Option.map_eq_some_iff] at found
    obtain ⟨call, _, rfl⟩ := found
    exact proc_settles thread call
  rw [expiring_iff_settled expiring turns, settled_iff]
  refine fun key => not_unsettled_of_own fun turn member => ?_
  obtain ⟨process, found⟩ := turns.present turn member
  have within := (turns.own served meets).2 turn.thread process found
  exact settled_of_meets (completed process (List.mem_of_getElem? found)) within key

end Runs

/-! ## An EXPIRE that fails -/

namespace Refused

def calls : List RateLimitCall := [.incrRateLimit "throttle:login:user:d" 300]

/-- The call finds a connection, counts to one, and its second command fails. -/
def schedule : List (Nat × (Nat → redis.Input)) :=
  [(0, fun _ => {}), (0, fun _ => {}), (0, fun _ => { outcome := .refused })]

def run : List (Concurrency.Turn redis) × Pool redis (Option Nat) :=
  (RateLimitCall.pool untouched calls).perform schedule

/-- The counter of the failed EXPIRE lasts. -/
theorem lasting : Counters.Lasting run.2.state "throttle:login:user:d" :=
  ⟨_, rfl, rfl⟩

/-- Not every counter that a run makes has a time to live. -/
theorem expiring_violated :
    ¬∀ (calls : List RateLimitCall) (trace : List (Concurrency.Turn redis))
      (final : Pool redis (Option Nat)),
      (RateLimitCall.pool untouched calls).Turns trace final → Expiring final.state := by
  intro always
  exact expiring_iff.mp (always calls _ _ (Pool.perform_turns schedule _)) _ lasting

end Refused

/-! ## Calls that are served -/

namespace AnswerLost

def calls : List RateLimitCall :=
  [.incrRateLimit "throttle:login:user:d" 300, .incrRateLimit "throttle:login:user:d" 300]

/-- The first call makes the counter and waits; the INCR of the second, which only counts, is
answered, and then the first sends its EXPIRE, whose answer is lost. -/
def schedule : List (Nat × (Nat → redis.Input)) :=
  [(0, fun _ => {}), (0, fun _ => {}), (1, fun _ => {}), (1, fun _ => {}),
    (0, fun _ => { outcome := .lost })]

def run : List (Concurrency.Turn redis) × Pool redis (Option Nat) :=
  (RateLimitCall.pool untouched calls).perform schedule

/-- The first four turns, all of them answered. -/
def answered : List (Concurrency.Turn redis) × Pool redis (Option Nat) :=
  (RateLimitCall.pool untouched calls).perform (schedule.take 4)

/-- Every command of the run is answered. -/
theorem served_run : ∀ turn ∈ run.1, Served turn := by
  have split : ∃ last now, run.1 = answered.1 ++ [last] ∧
      last.writes = [⟨.expire "throttle:login:user:d" 300, now⟩] := ⟨_, _, rfl, rfl⟩
  obtain ⟨last, now, split, expires⟩ := split
  intro turn member
  rw [split, List.mem_append, List.mem_singleton] at member
  rcases member with early | rfl
  · have given := Pool.mem_perform early
    simp only [schedule, List.take_succ_cons, List.take_zero, List.mem_cons, Prod.mk.injEq,
      List.not_mem_nil, or_false] at given
    refine served_of_answered ?_
    rcases given with ⟨_, given⟩ | ⟨_, given⟩ | ⟨_, given⟩ | ⟨_, given⟩ <;> rw [given]
  · exact served_of_expires expires

/-- Nobody owes an EXPIRE at its end. -/
theorem owesNone_run : ∀ process ∈ run.2.procs, ¬OwesExpire process := by
  have ended : run.2.procs = [.done (some 1), .done (some 2)] := rfl
  rw [ended]
  rintro process member ⟨key, seconds, performs⟩
  rcases List.mem_pair.mp member with rfl | rfl <;> cases performs

/-- Every counter of the run expires. -/
theorem expiring_of_completed_here : Expiring run.2.state :=
  expiring_of_completed expiring_untouched (Pool.perform_turns schedule _) served_run owesNone_run

end AnswerLost

end Armada.Redis
