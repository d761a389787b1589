import Armada.Concurrency.Pool
import Armada.Concurrency.RelyGuarantee

/-!
# Runs that record what each step performs

A trace of `Concurrency.Pool` tells what was written. Here a run also tells which call or
transaction each step performed and what the environment supplied to it, so a property may
speak of reads and of the order of the steps of one process. Under the discipline `turns` a
contract speaks of the turns a process has taken itself; `Turns.own` gives it for every run.
-/

namespace Armada.Concurrency

variable {S : Signature} {α β : Type}

/-- What a process does in one step. -/
inductive Act (S : Signature) : Type 1 where
  | call {β : Type} (statement : Statement S β)
  | transaction {β : Type} (body : Txn S β)

/-- What an act writes. -/
def Act.writes : Act S → (Nat → S.Input) → S.State → List S.Write
  | .call statement, inputs, state => statement.writes (inputs 0) state
  | .transaction body, inputs, state => body.writes inputs state

/-- What a process does next, unless it has ended. -/
def Proc.act : Proc S α → Option (Act S)
  | .done _ => none
  | .fail _ => none
  | .call statement _ => some (.call statement)
  | .transaction body _ => some (.transaction body)

/-- One step of a run. -/
structure Turn (S : Signature) : Type 1 where
  thread : Nat
  act : Act S
  inputs : Nat → S.Input
  before : S.State

namespace Turn

/-- What a turn writes. -/
def writes (turn : Turn S) : List S.Write := turn.act.writes turn.inputs turn.before

/-- The state a turn leaves. -/
def after (turn : Turn S) : S.State := S.applyAll turn.writes turn.before

/-- The turn executes this statement, outside a transaction. -/
def Performs (turn : Turn S) (statement : Statement S β) : Prop := turn.act = .call statement

/-- The turn is a call with this answer. -/
def Returned (turn : Turn S) (statement : Statement S β) (value : β) : Prop :=
  turn.Performs statement ∧ statement.result (turn.inputs 0) turn.before = .ok value

/-- The turn as the store saw it. -/
def commit (turn : Turn S) : Commit S := ⟨turn.thread, turn.before, turn.writes⟩

variable {statement : Statement S β} {inputs : Nat → S.Input} {before : S.State}

/-- A call that fails writes nothing. -/
theorem writes_of_error {thread : Nat} {error : S.Error}
    (failed : statement.exec (inputs 0) before = .error error) :
    (⟨thread, .call statement, inputs, before⟩ : Turn S).writes = [] := by
  simp [writes, Act.writes, Statement.writes, failed]

/-- A statement that succeeds is a turn that writes its writes. -/
theorem writes_of_succeeds (thread : Nat) {value : β} {made : List S.Write}
    (succeeded : statement.Succeeds (inputs 0) before value made) :
    (⟨thread, .call statement, inputs, before⟩ : Turn S).writes = made := by
  simp [writes, Act.writes, Statement.writes, show statement.exec (inputs 0) before = _ from succeeded]

/-- A turn writes what its statement writes. -/
theorem Performs.writes {turn : Turn S} (performs : turn.Performs statement) :
    turn.writes = statement.writes (turn.inputs 0) turn.before := by
  rw [Turn.writes, show turn.act = _ from performs, Act.writes]

/-- In particular where the statement is known to succeed. -/
theorem Performs.writes_of_succeeds {turn : Turn S} {value : β} {made : List S.Write}
    (performs : turn.Performs statement)
    (succeeded : statement.Succeeds (turn.inputs 0) turn.before value made) :
    turn.writes = made := by
  rw [performs.writes, Statement.writes, show statement.exec _ _ = _ from succeeded]

/-- A call has failed without effect, or it has succeeded. -/
theorem Performs.ends {turn : Turn S} (performs : turn.Performs statement) :
    turn.writes = [] ∨
      ∃ value, statement.Succeeds (turn.inputs 0) turn.before value turn.writes := by
  rw [performs.writes]
  rcases statement.ends (turn.inputs 0) turn.before with ⟨_, _, idle⟩ | ⟨value, _, succeeded⟩
  · exact .inl idle
  · exact .inr ⟨value, succeeded⟩

/-- A call that only reads. -/
theorem Performs.idle {turn : Turn S} (performs : turn.Performs statement)
    (reads : ∀ input before value writes, statement.Succeeds input before value writes →
      writes = []) : turn.writes = [] := by
  rcases performs.ends with idle | ⟨value, executed⟩
  · exact idle
  · exact reads _ _ _ _ executed

/-- A statement that has answered has succeeded. -/
theorem Returned.succeeds {turn : Turn S} {value : β} (returned : turn.Returned statement value) :
    statement.Succeeds (turn.inputs 0) turn.before value turn.writes := by
  rw [returned.1.writes]
  rcases statement.ends (turn.inputs 0) turn.before with ⟨error, failed, _⟩ | ⟨other, got, ended⟩
  · cases returned.2.symm.trans failed
  · obtain rfl := Except.ok.inj (returned.2.symm.trans got)
    exact ended

/-- And a statement that succeeds is a turn that has answered. -/
theorem returned_of_succeeds {thread : Nat} {value : β} {made : List S.Write}
    (succeeded : statement.Succeeds (inputs 0) before value made) :
    (⟨thread, .call statement, inputs, before⟩ : Turn S).Returned statement value := by
  refine ⟨rfl, ?_⟩
  change (statement.exec (inputs 0) before).map Prod.fst = _
  rw [show statement.exec (inputs 0) before = _ from succeeded]
  rfl

/-- An idle turn leaves the state as it found it. -/
theorem after_of_idle {turn : Turn S} (idle : turn.writes = []) : turn.after = turn.before := by
  rw [after, idle, S.applyAll_nil]

end Turn

/-! ## Contracts about the own turns -/

/-- A process whose turns are as `guar` allows after those it has taken before, as long as
the environment supplies what is assumed. -/
def Discipline.turns (supplied : Turn S → Prop) (thread : Nat)
    (guar : List (Turn S) → Turn S → Prop) : Discipline S (List (Turn S)) where
  statement call post history := ∀ inputs before, supplied ⟨thread, .call call, inputs, before⟩ →
    guar history ⟨thread, .call call, inputs, before⟩ ∧
      post (call.result (inputs 0) before) (history ++ [⟨thread, .call call, inputs, before⟩])
  transaction body post history := ∀ inputs before,
    supplied ⟨thread, .transaction body, inputs, before⟩ →
      guar history ⟨thread, .transaction body, inputs, before⟩ ∧
        post (body.result inputs before)
          (history ++ [⟨thread, .transaction body, inputs, before⟩])
  statement_mono weaker met inputs before given :=
    ⟨(met inputs before given).1, weaker _ _ (met inputs before given).2⟩
  transaction_mono weaker met inputs before given :=
    ⟨(met inputs before given).1, weaker _ _ (met inputs before given).2⟩

namespace Proc

variable {supplied : Turn S → Prop} {thread : Nat} {guar : List (Turn S) → Turn S → Prop}
  {post : Except S.Error α → List (Turn S) → Prop} {history : List (Turn S)}

/-- One step of a process that meets its contract. -/
theorem Meets.turn {process next : Proc S α} {act : Act S} {inputs : Nat → S.Input}
    {state : S.State} {writes : List S.Write}
    (meets : process.Meets (.turns supplied thread guar) post history)
    (performed : process.act = some act)
    (advanced : process.advance inputs state = some (writes, next))
    (given : supplied ⟨thread, act, inputs, state⟩) :
    guar history ⟨thread, act, inputs, state⟩ ∧ writes = act.writes inputs state ∧
      next.Meets (.turns supplied thread guar) post (history ++ [⟨thread, act, inputs, state⟩]) := by
  cases process with
  | done value => cases performed
  | fail error => cases performed
  | call statement resume =>
      cases performed
      cases advanced
      exact ⟨(meets inputs state given).1, rfl, (meets inputs state given).2⟩
  | transaction body resume =>
      cases performed
      cases advanced
      exact ⟨(meets inputs state given).1, rfl, (meets inputs state given).2⟩

/-- What a process does next is as allowed. -/
theorem Meets.permits {process : Proc S α} {act : Act S} {inputs : Nat → S.Input}
    {state : S.State} (meets : process.Meets (.turns supplied thread guar) post history)
    (performed : process.act = some act) (given : supplied ⟨thread, act, inputs, state⟩) :
    guar history ⟨thread, act, inputs, state⟩ := by
  cases process with
  | done value => cases performed
  | fail error => cases performed
  | call statement resume =>
      cases performed
      exact (meets inputs state given).1
  | transaction body resume =>
      cases performed
      exact (meets inputs state given).1

/-- A process does not undo what it has done. -/
theorem Meets.grows {process : Proc S α} (met : process.Meets (.turns supplied thread guar) post
      history) : process.Meets (.turns supplied thread guar)
        (fun result current => history <+: current ∧ post result current) history := by
  suffices ∀ current, history <+: current →
      process.Meets (.turns supplied thread guar) post current →
        process.Meets (.turns supplied thread guar)
          (fun result final => history <+: final ∧ post result final) current from
    this history (List.prefix_refl history) met
  clear met
  intro current extended met
  induction process generalizing current with
  | done value => exact ⟨extended, met⟩
  | fail error => exact ⟨extended, met⟩
  | call statement resume inductionHypothesis =>
      intro inputs before given
      obtain ⟨allowed, continued⟩ := met inputs before given
      exact ⟨allowed,
        inductionHypothesis _ _ (extended.trans (List.prefix_append _ _)) continued⟩
  | transaction body resume inductionHypothesis =>
      intro inputs before given
      obtain ⟨allowed, continued⟩ := met inputs before given
      exact ⟨allowed,
        inductionHypothesis _ _ (extended.trans (List.prefix_append _ _)) continued⟩

/-- A contract may allow more. -/
theorem Meets.allow {guar' : List (Turn S) → Turn S → Prop} {process : Proc S α}
    (met : process.Meets (.turns supplied thread guar) post history)
    (wider : ∀ history turn, guar history turn → guar' history turn) :
    process.Meets (.turns supplied thread guar') post history := by
  induction process generalizing history with
  | done value => exact met
  | fail error => exact met
  | call statement resume inductionHypothesis =>
      intro inputs before given
      obtain ⟨allowed, continued⟩ := met inputs before given
      exact ⟨wider _ _ allowed, inductionHypothesis _ continued⟩
  | transaction body resume inductionHypothesis =>
      intro inputs before given
      obtain ⟨allowed, continued⟩ := met inputs before given
      exact ⟨wider _ _ allowed, inductionHypothesis _ continued⟩

/-- A part whose turns are all of a kind follows turns of that kind, and leaves only such. -/
theorem Commits.keeps {kind : Turn S → Prop} {process : Proc S α}
    (committed : process.Commits (.turns supplied thread fun _ turn => kind turn))
    (sofar : ∀ turn ∈ history, kind turn) :
    process.Meets (.turns supplied thread fun past _ => ∀ earlier ∈ past, kind earlier)
      (fun _ current => ∀ turn ∈ current, kind turn) history := by
  have met := committed history
  clear committed
  induction process generalizing history with
  | done value => exact sofar
  | fail error => exact sofar
  | call statement resume inductionHypothesis =>
      intro inputs before given
      obtain ⟨isKind, continued⟩ := met inputs before given
      exact ⟨sofar, inductionHypothesis _ (List.forall_mem_append.mpr
        ⟨sofar, List.forall_mem_singleton.mpr isKind⟩) continued⟩
  | transaction body resume inductionHypothesis =>
      intro inputs before given
      obtain ⟨isKind, continued⟩ := met inputs before given
      exact ⟨sofar, inductionHypothesis _ (List.forall_mem_append.mpr
        ⟨sofar, List.forall_mem_singleton.mpr isKind⟩) continued⟩

/-- A process of which only its turns are known, and what follows it. -/
theorem Commits.next {first : Proc S β} {resume : β → Proc S α}
    (committed : first.Commits (.turns supplied thread guar))
    (failed : ∀ error current, post (.error error) current)
    (continued : ∀ value current, history <+: current →
      (resume value).Meets (.turns supplied thread guar) post current) :
    (first >>= resume).Meets (.turns supplied thread guar) post history :=
  (committed history).grows.bind (fun error current _ => failed error current)
    fun value current extended => continued value current extended.1

/-- A part whose turns are of a kind that is always allowed, and what follows it: all turns so
far are of that kind. -/
theorem Commits.nextly {kind : Turn S → Prop} {first : Proc S β} {resume : β → Proc S α}
    (committed : first.Commits (.turns supplied thread fun _ turn => kind turn))
    (allowed : ∀ history turn, kind turn → guar history turn)
    (failed : ∀ error current, post (.error error) current)
    (continued : ∀ value current, history <+: current → (∀ turn ∈ current, kind turn) →
      (resume value).Meets (.turns supplied thread guar) post current)
    (sofar : ∀ turn ∈ history, kind turn) :
    (first >>= resume).Meets (.turns supplied thread guar) post history := by
  have met := committed history
  clear committed
  suffices ∀ current, history <+: current → (∀ turn ∈ current, kind turn) →
      first.Meets (.turns supplied thread fun _ turn => kind turn) (fun _ _ => True) current →
        (first >>= resume).Meets (.turns supplied thread guar) post current from
    this history (List.prefix_refl history) sofar met
  clear met
  intro current extended sofar met
  rw [meets_bind]
  induction first generalizing current with
  | done value => exact continued value current extended sofar
  | fail error => exact failed error current
  | call statement following inductionHypothesis =>
      intro inputs before given
      obtain ⟨isKind, next⟩ := met inputs before given
      refine ⟨allowed _ _ isKind, inductionHypothesis _ _
        (extended.trans (List.prefix_append _ _)) (List.forall_mem_append.mpr
          ⟨sofar, List.forall_mem_singleton.mpr isKind⟩) next⟩
  | transaction body following inductionHypothesis =>
      intro inputs before given
      obtain ⟨isKind, next⟩ := met inputs before given
      refine ⟨allowed _ _ isKind, inductionHypothesis _ _
        (extended.trans (List.prefix_append _ _)) (List.forall_mem_append.mpr
          ⟨sofar, List.forall_mem_singleton.mpr isKind⟩) next⟩

/-- Where a turn with harmless writes is always allowed, so is a call that makes no other. -/
theorem Commits.harmless {statement : Statement S β} (harmless : List S.Write → Prop)
    (allowed : ∀ history turn, harmless turn.writes → guar history turn) (none : harmless [])
    (each : ∀ input before value writes, statement.Succeeds input before value writes →
      harmless writes) :
    (liftM statement : Proc S β).Commits (.turns supplied thread guar) := by
  intro history
  rw [meets_lift]
  intro inputs before _
  refine ⟨allowed _ _ ?_, trivial⟩
  change harmless (statement.writes (inputs 0) before)
  rcases statement.ends (inputs 0) before with ⟨_, _, idle⟩ | ⟨value, _, executed⟩
  · exact idle ▸ none
  · exact each _ _ _ _ executed

/-- Where a turn that writes nothing is always allowed, so is a call that only reads. -/
theorem Commits.reads {statement : Statement S β}
    (quiet : ∀ history turn, turn.writes = [] → guar history turn)
    (reads : ∀ input before value writes, statement.Succeeds input before value writes →
      writes = []) :
    (liftM statement : Proc S β).Commits (.turns supplied thread guar) :=
  Commits.harmless (· = []) quiet rfl reads

/-- A call whose turn is allowed whatever it finds. -/
theorem Meets.performs {statement : Statement S β}
    (allowed : ∀ turn, turn.Performs statement → guar history turn) :
    (liftM statement : Proc S β).Meets (.turns supplied thread guar) (fun _ _ => True) history := by
  rw [meets_lift]
  intro inputs before _
  exact ⟨allowed _ rfl, trivial⟩

/-- A process of one statement makes one kind of turn. -/
theorem Commits.performs {statement : Statement S β}
    (allowed : ∀ history turn, turn.Performs statement → guar history turn) :
    (liftM statement : Proc S β).Commits (.turns supplied thread guar) :=
  fun history => Meets.performs (allowed history)

/-- Where every turn is allowed, every process is. -/
theorem Commits.free (process : Proc S α) (allowed : ∀ history turn, guar history turn) :
    process.Commits (.turns supplied thread guar) := by
  induction process with
  | done value => exact fun _ => trivial
  | fail error => exact fun _ => trivial
  | call statement resume inductionHypothesis =>
      exact fun _ inputs before _ => ⟨allowed _ _, inductionHypothesis _ _⟩
  | transaction body resume inductionHypothesis =>
      exact fun _ inputs before _ => ⟨allowed _ _, inductionHypothesis _ _⟩

/-- A call, by its result. -/
theorem Meets.call {statement : Statement S α}
    (failed : ∀ inputs before error, supplied ⟨thread, .call statement, inputs, before⟩ →
      statement.exec (inputs 0) before = .error error →
        guar history ⟨thread, .call statement, inputs, before⟩ ∧
          post (.error error) (history ++ [⟨thread, .call statement, inputs, before⟩]))
    (succeeded : ∀ inputs before value writes,
      supplied ⟨thread, .call statement, inputs, before⟩ →
        statement.Succeeds (inputs 0) before value writes →
          guar history ⟨thread, .call statement, inputs, before⟩ ∧
            post (.ok value) (history ++ [⟨thread, .call statement, inputs, before⟩])) :
    (liftM statement : Proc S α).Meets (.turns supplied thread guar) post history := by
  rw [meets_lift]
  intro inputs before given
  rw [Statement.result]
  cases executed : statement.exec (inputs 0) before with
  | error error => exact failed inputs before error given executed
  | ok outcome => exact succeeded inputs before _ _ given executed

/-- A call and what follows it. -/
theorem Meets.next {statement : Statement S β} {resume : β → Proc S α}
    (failed : ∀ inputs before error, supplied ⟨thread, .call statement, inputs, before⟩ →
      statement.exec (inputs 0) before = .error error →
        guar history ⟨thread, .call statement, inputs, before⟩ ∧
          post (.error error) (history ++ [⟨thread, .call statement, inputs, before⟩]))
    (continued : ∀ inputs before value writes,
      supplied ⟨thread, .call statement, inputs, before⟩ →
        statement.Succeeds (inputs 0) before value writes →
          guar history ⟨thread, .call statement, inputs, before⟩ ∧
            (resume value).Meets (.turns supplied thread guar) post
              (history ++ [⟨thread, .call statement, inputs, before⟩])) :
    (liftM statement >>= resume).Meets (.turns supplied thread guar) post history := by
  rw [meets_bind]
  exact Meets.call failed continued

/-- A call whose turn is allowed whatever it finds, and what follows once it has answered. -/
theorem Meets.told {statement : Statement S β} {resume : β → Proc S α}
    (allowed : ∀ turn, turn.Performs statement → guar history turn)
    (failed : ∀ error current, post (.error error) current)
    (continued : ∀ value turn, turn.Returned statement value →
      (resume value).Meets (.turns supplied thread guar) post (history ++ [turn])) :
    (liftM statement >>= resume).Meets (.turns supplied thread guar) post history := by
  apply Meets.next
  · intro inputs before error _ _
    exact ⟨allowed _ rfl, failed error _⟩
  · intro inputs before value writes _ executed
    exact ⟨allowed _ rfl, continued value _ (Turn.returned_of_succeeds executed)⟩

/-- A transaction: it is rolled back without effect, or commits what its body yields. -/
theorem Meets.commits {body : Txn S α}
    (aborted : ∀ turn : Turn S, turn.thread = thread → turn.act = .transaction body →
      supplied turn → turn.writes = [] →
        guar history turn ∧ ∀ error, post (.error error) (history ++ [turn]))
    (committed : ∀ before, body.Yields (fun value writes => ∀ turn : Turn S,
      turn.thread = thread → turn.act = .transaction body → supplied turn →
        turn.before = before → turn.writes = writes →
          guar history turn ∧ post (.ok value) (history ++ [turn])) before []) :
    (transact body).Meets (.turns supplied thread guar) post history := by
  rw [meets_transact]
  intro inputs before given
  rcases (committed before).ends inputs with ⟨error, failure, none⟩ | ⟨value, success, made⟩
  · obtain ⟨allowed, failed⟩ := aborted ⟨thread, .transaction body, inputs, before⟩ rfl rfl given none
    exact ⟨allowed, failure ▸ failed error⟩
  · obtain ⟨allowed, returned⟩ := made ⟨thread, .transaction body, inputs, before⟩ rfl rfl given rfl rfl
    exact ⟨allowed, success ▸ returned⟩

end Proc

namespace Pool

/-- Zero or more turns of any processes in any order. -/
inductive Turns (start : Pool S α) : List (Turn S) → Pool S α → Prop where
  | refl : Turns start [] start
  | step {trace : List (Turn S)} {pool : Pool S α} {thread : Nat} {act : Act S}
      {inputs : Nat → S.Input} {process next : Proc S α} {writes : List S.Write}
      (prior : Turns start trace pool)
      (enabled : pool.procs[thread]? = some process)
      (performed : process.act = some act)
      (advanced : process.advance inputs pool.state = some (writes, next)) :
      Turns start (trace ++ [⟨thread, act, inputs, pool.state⟩])
        ⟨S.applyAll writes pool.state, pool.procs.set thread next⟩

/-- The turns of a thread. -/
def own (trace : List (Turn S)) (thread : Nat) : List (Turn S) :=
  trace.filter fun turn => turn.thread = thread

/-- The turns of a thread are those in which the trace names it. -/
@[simp] theorem mem_own {trace : List (Turn S)} {thread : Nat} {turn : Turn S} :
    turn ∈ own trace thread ↔ turn ∈ trace ∧ turn.thread = thread := by
  simp [own]

/-- A split of the own turns is one of the run. -/
theorem split_of_own {trace early later : List (Turn S)} {thread : Nat} {turn : Turn S}
    (same : own trace thread = early ++ turn :: later) :
    ∃ first rest, trace = first ++ turn :: rest ∧ turn.thread = thread ∧ own rest thread = later := by
  obtain ⟨first, others, rfl, rfl, following⟩ := List.filter_eq_append_iff.mp same
  obtain ⟨skipped, rest, rfl, _, isOwn, rfl⟩ := List.filter_eq_cons_iff.mp following
  exact ⟨first ++ skipped, rest, by simp, by simpa using isOwn, rfl⟩

variable {start final : Pool S α} {trace : List (Turn S)}

/-- An act that is performed writes what the process is said to have written. -/
theorem advance_writes {process next : Proc S α} {act : Act S} {inputs : Nat → S.Input}
    {state : S.State} {writes : List S.Write} (performed : process.act = some act)
    (advanced : process.advance inputs state = some (writes, next)) :
    act.writes inputs state = writes := by
  cases process with
  | done value => cases performed
  | fail error => cases performed
  | call statement resume =>
      cases performed
      cases advanced
      rfl
  | transaction body resume =>
      cases performed
      cases advanced
      rfl

/-- The run as the store saw it. -/
theorem Turns.steps (turns : start.Turns trace final) :
    start.Steps (trace.map Turn.commit) final := by
  induction turns with
  | refl => exact .refl
  | @step trace pool thread act inputs process next writes _ enabled performed advanced
      inductionHypothesis =>
      have same : act.writes inputs pool.state = writes := advance_writes performed advanced
      have extended := inductionHypothesis.step enabled advanced
      simpa [Turn.commit, Turn.writes, same] using extended

/-- The run before a turn, and the run after it. -/
theorem Turns.split (turns : start.Turns trace final) {first rest : List (Turn S)} {turn : Turn S}
    (split : trace = first ++ turn :: rest) :
    Linked start.state (first.map Turn.commit) turn.before ∧
      Linked turn.after (rest.map Turn.commit) final.state := by
  have linked := turns.steps.linked
  rw [split, List.map_append, List.map_cons] at linked
  obtain ⟨middle, before, rfl, after⟩ := linked.split
  exact ⟨before, after⟩

/-- A statement about the turns so far and the store, kept by every turn of a run, holds
before every turn and at the end. -/
theorem Turns.along (turns : start.Turns trace final)
    (holds : List (Turn S) → S.State → Prop) (initially : holds [] start.state)
    (kept : ∀ first turn rest, trace = first ++ turn :: rest → holds first turn.before →
      holds (first ++ [turn]) turn.after) :
    holds trace final.state ∧
      ∀ first turn rest, trace = first ++ turn :: rest → holds first turn.before := by
  induction turns with
  | refl => exact ⟨initially, fun first turn rest split => by simp at split⟩
  | @step trace pool thread act inputs process next writes _ _ performed advanced
      inductionHypothesis =>
      obtain ⟨current, earlier⟩ := inductionHypothesis fun first turn rest split =>
        kept first turn (rest ++ [⟨thread, act, inputs, pool.state⟩]) (by simp [split])
      have after : (⟨thread, act, inputs, pool.state⟩ : Turn S).after =
          S.applyAll writes pool.state := by
        rw [Turn.after, Turn.writes, advance_writes performed advanced]
      refine ⟨after ▸ kept trace ⟨thread, act, inputs, pool.state⟩ [] rfl current,
        fun first turn rest split => ?_⟩
      induction rest using List.reverseRecOn with
      | nil =>
          obtain ⟨rfl, same⟩ := List.append_inj' split rfl
          cases same
          exact current
      | append_singleton rest last _ =>
          rw [← List.cons_append, ← List.append_assoc] at split
          exact earlier first turn rest (List.append_inj' split rfl).1

/-- What holds after a turn and is kept by those between it and a later one holds before the
later one. -/
theorem Turns.reaches (turns : start.Turns trace final) (holds : S.State → Prop)
    {first between rest : List (Turn S)} {turn later : Turn S}
    (split : trace = first ++ turn :: (between ++ later :: rest)) (initially : holds turn.after)
    (kept : ∀ other ∈ between, holds other.before → holds other.after) : holds later.before := by
  obtain ⟨_, linked⟩ := turns.split split
  rw [List.map_append, List.map_cons] at linked
  obtain ⟨middle, until_, rfl, _⟩ := linked.split
  have each : ∀ commit ∈ between.map Turn.commit, holds commit.before → holds commit.after := by
    intro commit inBetween
    obtain ⟨other, among, rfl⟩ := List.mem_map.mp inBetween
    exact kept other among
  exact (@Linked.onwards S _ _ _ until_ (fun before after => holds before → holds after)
    (fun _ now => now) (fun before after now => after (before now)) each).1 initially

/-- What holds after a turn and is kept by those that follow holds before each of them. -/
theorem Turns.lasting (turns : start.Turns trace final) {holds : S.State → Prop}
    {first rest : List (Turn S)} {turn : Turn S} (split : trace = first ++ turn :: rest)
    (initially : holds turn.after)
    (kept : ∀ later ∈ rest, holds later.before → holds later.after) :
    ∀ later ∈ rest, holds later.before := by
  intro later member
  obtain ⟨between, others, rfl⟩ := List.append_of_mem member
  exact turns.reaches holds split initially fun other among =>
    kept other (List.mem_append_left _ among)

/-- It holds at the end as well. -/
theorem Turns.remains (turns : start.Turns trace final) {holds : S.State → Prop}
    {first rest : List (Turn S)} {turn : Turn S} (split : trace = first ++ turn :: rest)
    (initially : holds turn.after)
    (kept : ∀ later ∈ rest, holds later.before → holds later.after) : holds final.state := by
  obtain ⟨_, linked⟩ := turns.split split
  have each : ∀ commit ∈ rest.map Turn.commit, holds commit.before → holds commit.after := by
    intro commit member
    obtain ⟨later, among, rfl⟩ := List.mem_map.mp member
    exact kept later among
  exact (@Linked.onwards S _ _ _ linked (fun before after => holds before → holds after)
    (fun _ now => now) (fun before after now => after (before now)) each).1 initially

/-- The process of a turn is one of the pool. -/
theorem Turns.present (turns : start.Turns trace final) :
    ∀ turn ∈ trace, ∃ process, final.procs[turn.thread]? = some process := by
  intro turn member
  have bounded := turns.steps.thread_lt turn.commit (List.mem_map_of_mem member)
  rw [← turns.steps.length] at bounded
  exact ⟨_, List.getElem?_eq_getElem bounded⟩

/-- In every run of processes that meet their contracts each turn is as allowed after the
own turns before it, and each process is within its contract after its own turns. -/
theorem Turns.own (turns : start.Turns trace final) {supplied : Turn S → Prop}
    {guar : Nat → List (Turn S) → Turn S → Prop}
    {post : Nat → Except S.Error α → List (Turn S) → Prop}
    (given : ∀ turn ∈ trace, supplied turn)
    (meets : ∀ (thread : Nat) process, start.procs[thread]? = some process →
      process.Meets (.turns supplied thread (guar thread)) (post thread) []) :
    (∀ first turn rest, trace = first ++ turn :: rest →
      guar turn.thread (Pool.own first turn.thread) turn) ∧
      ∀ (thread : Nat) process, final.procs[thread]? = some process →
        process.Meets (.turns supplied thread (guar thread)) (post thread)
          (Pool.own trace thread) := by
  induction turns with
  | refl => exact ⟨fun first turn rest split => by simp at split, meets⟩
  | @step trace pool thread act inputs process next writes _ enabled performed advanced
      inductionHypothesis =>
      obtain ⟨allowed, within⟩ := inductionHypothesis fun turn member =>
        given turn (List.mem_append_left _ member)
      obtain ⟨permitted, _, continued⟩ := (within thread process enabled).turn performed advanced
        (given _ (List.mem_append_right _ (List.mem_singleton.mpr rfl)))
      refine ⟨fun first turn rest split => ?_, fun other current found => ?_⟩
      · induction rest using List.reverseRecOn with
        | nil =>
            obtain ⟨rfl, same⟩ := List.append_inj' split rfl
            cases same
            exact permitted
        | append_singleton rest last _ =>
            rw [← List.cons_append, ← List.append_assoc] at split
            exact allowed first turn rest (List.append_inj' split rfl).1
      · rcases eq_or_of_set enabled found with ⟨rfl, rfl⟩ | ⟨different, old⟩
        · simpa [Pool.own] using continued
        · simpa [Pool.own, Ne.symm different] using within other current old

/-- What a process that has ended returned, in terms of its own turns. -/
theorem Turns.own_of_finished (turns : start.Turns trace final) {supplied : Turn S → Prop}
    {guar : Nat → List (Turn S) → Turn S → Prop}
    {post : Nat → Except S.Error α → List (Turn S) → Prop}
    (given : ∀ turn ∈ trace, supplied turn)
    (meets : ∀ (thread : Nat) process, start.procs[thread]? = some process →
      process.Meets (.turns supplied thread (guar thread)) (post thread) [])
    {thread : Nat} {process : Proc S α} {result : Except S.Error α}
    (found : final.procs[thread]? = some process) (ended : process.finished = some result) :
    post thread result (Pool.own trace thread) :=
  ((turns.own given meets).2 thread process found).post_of_finished ended

/-- The same of one process, whatever the others do. -/
theorem Turns.own_of_thread (turns : start.Turns trace final) {thread : Nat}
    {original : Proc S α} (started : start.procs[thread]? = some original)
    {post : Except S.Error α → List (Turn S) → Prop}
    (met : original.Meets (.turns (fun _ => True) thread fun _ _ => True) post [])
    {process : Proc S α} {result : Except S.Error α}
    (found : final.procs[thread]? = some process) (ended : process.finished = some result) :
    post result (Pool.own trace thread) := by
  have meets : ∀ (other : Nat) current, start.procs[other]? = some current →
      current.Meets (.turns (fun _ => True) other fun _ _ => True)
        (fun answer history => other = thread → post answer history) [] := by
    intro other current enabled
    by_cases same : other = thread
    · subst same
      obtain rfl : original = current := Option.some.inj (started.symm.trans enabled)
      exact met.weaken fun _ _ reached _ => reached
    · exact (Proc.Commits.free current (fun _ _ => trivial) []).weaken fun _ _ _ isSame =>
        absurd isSame same
  exact turns.own_of_finished (fun _ _ => trivial) meets found ended rfl

/-- Run a schedule and record its turns; a turn of a process that cannot move is skipped. -/
def perform : List (Nat × (Nat → S.Input)) → Pool S α → List (Turn S) × Pool S α
  | [], pool => ([], pool)
  | (thread, inputs) :: schedule, pool =>
      match pool.procs[thread]? with
      | none => perform schedule pool
      | some process =>
          match process.act, process.advance inputs pool.state with
          | some act, some (writes, next) =>
              let rest := perform schedule
                ⟨S.applyAll writes pool.state, pool.procs.set thread next⟩
              (⟨thread, act, inputs, pool.state⟩ :: rest.1, rest.2)
          | _, _ => perform schedule pool

/-- Two runs that meet are one run, whose trace is the two traces in order. -/
theorem Turns.trans {middle : Pool S α} {first second : List (Turn S)}
    (prior : start.Turns first middle) (suffix : middle.Turns second final) :
    start.Turns (first ++ second) final := by
  induction suffix with
  | refl => simpa using prior
  | step _ enabled performed advanced inductionHypothesis =>
      simpa using Turns.step inductionHypothesis enabled performed advanced

/-- What `perform` computes is a run. -/
theorem perform_turns (schedule : List (Nat × (Nat → S.Input))) (pool : Pool S α) :
    pool.Turns (pool.perform schedule).1 (pool.perform schedule).2 := by
  induction schedule generalizing pool with
  | nil => exact .refl
  | cons turn schedule inductionHypothesis =>
      obtain ⟨thread, inputs⟩ := turn
      rw [perform]
      split
      · exact inductionHypothesis pool
      · rename_i process enabled
        split
        · rename_i act writes next performed advanced
          have none : pool.Turns [] pool := .refl
          have one := none.step enabled performed advanced
          simpa using one.trans (inductionHypothesis _)
        · exact inductionHypothesis pool

/-- A turn that is performed is supplied by the schedule. -/
theorem mem_perform {schedule : List (Nat × (Nat → S.Input))} {pool : Pool S α} {turn : Turn S}
    (member : turn ∈ (pool.perform schedule).1) : (turn.thread, turn.inputs) ∈ schedule := by
  induction schedule generalizing pool with
  | nil => cases member
  | cons entry schedule inductionHypothesis =>
      obtain ⟨thread, inputs⟩ := entry
      rw [perform] at member
      split at member
      · exact List.mem_cons_of_mem _ (inductionHypothesis member)
      · split at member
        · rcases List.mem_cons.mp member with rfl | later
          · exact List.mem_cons_self
          · exact List.mem_cons_of_mem _ (inductionHypothesis later)
        · exact List.mem_cons_of_mem _ (inductionHypothesis member)

end Pool

end Armada.Concurrency
