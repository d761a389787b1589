import Armada.Concurrency.RelyGuarantee

/-!
# What a process has done so far

Transactions are one step each, as in `Concurrency.Pool`, but some writes go to a system
that knows nothing of transactions, a cache or a broker: what a body has written there
stays when it is rolled back. `Proc.whole` turns a process into one whose steps commit
just that. Under the discipline `past`, a contract speaks of the steps that the process
itself has taken, whatever the others did in between, and `Pool.Steps.past` gives it for
every run.
-/

namespace Armada.Concurrency

variable {S : Signature} {α β : Type}

/-! ## Writes that are not rolled back -/

namespace Txn

/-- What a body that does not commit has written to where nothing is rolled back. -/
def left (durable : S.Write → Bool) : Txn S β → (Nat → S.Input) → S.State → List S.Write
  | .done _, _, _ => []
  | .fail _, _, _ => []
  | .step statement resume, inputs, state =>
      match statement.exec (inputs 0) state with
      | .error _ => []
      | .ok (value, writes) =>
          writes.filter durable ++
            (resume value).left durable (fun index => inputs (index + 1)) (S.applyAll writes state)

/-- What a transaction leaves: all its writes, or those that are not rolled back. -/
def effects (durable : S.Write → Bool) (body : Txn S β) (inputs : Nat → S.Input)
    (state : S.State) : List S.Write :=
  match body.run inputs state with
  | .ok (_, writes) => writes
  | .error _ => body.left durable inputs state

variable {durable : S.Write → Bool}

/-- Only writes that no rollback takes back are left. -/
theorem durable_of_mem_left {body : Txn S β} {inputs : Nat → S.Input} {state : S.State}
    {write : S.Write} (member : write ∈ body.left durable inputs state) : durable write = true := by
  induction body generalizing inputs state with
  | done value => cases member
  | fail error => cases member
  | step statement resume inductionHypothesis =>
      rw [left] at member
      split at member
      · cases member
      · rcases List.mem_append.mp member with own | later
        · exact (List.mem_filter.mp own).2
        · exact inductionHypothesis _ later

/-- An executed statement leaves its durable writes, and the rest of the body leaves its own. -/
theorem left_of_executed {γ : Type} {statement : Statement S γ} {resume : γ → Txn S β}
    {inputs : Nat → S.Input} {state : S.State} {value : γ} {writes : List S.Write}
    (executed : statement.Succeeds (inputs 0) state value writes) :
    (step statement resume).left durable inputs state = writes.filter durable ++
      (resume value).left durable (fun index => inputs (index + 1)) (S.applyAll writes state) := by
  rw [left, executed]

/-- A body that fails at once leaves nothing. -/
theorem left_of_failed {γ : Type} {statement : Statement S γ} {resume : γ → Txn S β}
    {inputs : Nat → S.Input} {state : S.State} {error : S.Error}
    (failed : statement.exec (inputs 0) state = .error error) :
    (step statement resume).left durable inputs state = [] := by
  rw [left, failed]

/-- All that a failed body has done is what it left. -/
theorem effects_of_failed {body : Txn S β} {inputs : Nat → S.Input} {state : S.State}
    {error : S.Error} (failed : body.result inputs state = .error error) :
    body.effects durable inputs state = body.left durable inputs state := by
  rw [result] at failed
  rw [effects]
  cases ran : body.run inputs state with
  | error thrown => rfl
  | ok outcome =>
      rw [ran] at failed
      cases failed

/-- A transaction is rolled back, but for durable writes, or it commits what its body
yields. -/
theorem Yields.leaves {body : Txn S β} {base : S.State} {post : β → List S.Write → Prop}
    (yields : body.Yields post base []) (durable : S.Write → Bool) (inputs : Nat → S.Input) :
    (∃ error, body.result inputs base = .error error ∧
      ∀ write ∈ body.effects durable inputs base, durable write = true) ∨
      ∃ value, body.result inputs base = .ok value ∧
        post value (body.effects durable inputs base) := by
  rw [result, effects]
  cases ran : body.run inputs base with
  | error error => exact .inl ⟨error, rfl, fun _ => durable_of_mem_left⟩
  | ok outcome => exact .inr ⟨outcome.1, rfl, yields.of_run ran⟩

end Txn

/-- The store as it is for processes whose transactions are single calls. The inputs of a
call are those of all its parts. -/
abbrev Signature.whole (S : Signature) : Signature where
  State := S.State
  Write := S.Write
  Input := Nat → S.Input
  Lock := S.Lock
  Error := S.Error
  apply := S.apply
  clash := S.clash
  fault _ := none

/-- The writes of whole transactions change the state as they always do. -/
@[simp] theorem Signature.applyAll_whole (S : Signature) (writes : List S.Write) (state : S.State) :
    S.whole.applyAll writes state = S.applyAll writes state := by
  induction writes generalizing state with
  | nil => rfl
  | cons write writes inductionHypothesis => exact inductionHypothesis (S.apply write state)

/-- The statement, where inputs come for a whole transaction. -/
def Statement.whole (statement : Statement S β) : Statement S.whole β where
  locks inputs := statement.locks (inputs 0)
  exec inputs := statement.exec (inputs 0)

/-- It writes what it writes with the first of the inputs. -/
theorem Statement.writes_whole (statement : Statement S β) (inputs : Nat → S.Input) (state : S.State) :
    statement.whole.writes inputs state = statement.writes (inputs 0) state := by
  simp only [writes, whole]
  cases statement.exec (inputs 0) state <;> rfl

/-- It answers what it answers with the first of the inputs. -/
theorem Statement.result_whole (statement : Statement S β) (inputs : Nat → S.Input)
    (state : S.State) : statement.whole.result inputs state = statement.result (inputs 0) state := rfl

/-- A transaction as one call. Its value is the outcome of the transaction. -/
def Txn.whole (durable : S.Write → Bool) (body : Txn S β) :
    Statement S.whole (Except S.Error β) where
  locks _ _ := []
  exec inputs state := .ok (body.result inputs state, (body.effects durable inputs state :))

/-- The outcome of a call that has an outcome for its value. -/
def joined {E : Type} : Except E (Except E β) → Except E β
  | .ok outcome => outcome
  | .error error => .error error

/-- The process in which every transaction is one statement. -/
def Proc.whole (durable : S.Write → Bool) : Proc S α → Proc S.whole α
  | .done value => .done value
  | .fail error => .fail error
  | .call statement resume => .call statement.whole fun result => (resume result).whole durable
  | .transaction body resume =>
      .call (body.whole durable) fun result => (resume (joined result)).whole durable

/-- It is finished when the process is. -/
theorem Proc.finished_whole (durable : S.Write → Bool) (process : Proc S α) :
    (process.whole durable).finished = process.finished := by
  cases process <;> rfl

/-- A sequence is whole part by part. -/
theorem Proc.whole_bind (durable : S.Write → Bool) (first : Proc S β) (next : β → Proc S α) :
    (first >>= next).whole durable =
      first.whole durable >>= fun value => (next value).whole durable := by
  change (first.bind next).whole durable = (first.whole durable).bind _
  induction first with
  | done value => rfl
  | fail error => rfl
  | call statement resume inductionHypothesis =>
      exact congrArg (call statement.whole) (funext inductionHypothesis)
  | transaction body resume inductionHypothesis =>
      exact congrArg (call (body.whole durable))
        (funext fun result => inductionHypothesis (joined result))

/-- A statement first, and the rest if it succeeds. -/
theorem Proc.run_whole_lift_bind (durable : S.Write → Bool) (statement : Statement S β)
    (next : β → Proc S α) (inputs : Nat → Nat → S.whole.Input) (state : S.State) :
    ((liftM statement >>= next).whole durable).run inputs state =
      match statement.exec (inputs 0 0 0) state with
      | .ok (value, writes) => ((next value).whole durable).run (fun step => inputs (step + 1))
          (S.applyAll writes state)
      | .error error => (.error error, state) := by
  change (((ofExcept (statement.result (inputs 0 0 0) state)).bind next).whole durable).run _
    (S.whole.applyAll (statement.whole.writes (inputs 0 0) state) state) = _
  rw [statement.writes_whole, S.applyAll_whole, Statement.result, Statement.writes]
  cases statement.exec (inputs 0 0 0) state <;> rfl

/-- A check of a whole process decides how its run goes on. -/
theorem Proc.run_whole_rejectIf_bind (durable : S.Write → Bool) (condition : Prop)
    [Decidable condition] (error : S.Error) (next : Unit → Proc S α)
    (inputs : Nat → Nat → S.whole.Input) (state : S.State) :
    ((Proc.rejectIf condition error >>= next).whole durable).run inputs state =
      if condition then (.error error, state) else ((next ()).whole durable).run inputs state := by
  rw [Proc.rejectIf]
  split <;> rfl

/-- What a discipline for processes of single calls asks of a process with transactions. -/
def Discipline.ofWhole {H : Type*} (durable : S.Write → Bool) (discipline : Discipline S.whole H) :
    Discipline S H where
  statement call post := discipline.statement call.whole post
  transaction body post :=
    discipline.statement (body.whole durable) fun outcome => post (joined outcome)
  statement_mono weaker := discipline.statement_mono weaker
  transaction_mono weaker := discipline.statement_mono fun outcome => weaker (joined outcome)

/-- A process meets a contract in single calls exactly if it does with its transactions. -/
theorem Proc.meets_whole {H : Type*} {durable : S.Write → Bool} {discipline : Discipline S.whole H}
    {post : Except S.Error α → H → Prop} {process : Proc S α} {history : H} :
    (process.whole durable).Meets discipline post history ↔
      process.Meets (discipline.ofWhole durable) post history := by
  induction process generalizing history with
  | done value => rfl
  | fail error => rfl
  | call statement resume inductionHypothesis =>
      exact iff_of_eq (congrArg (discipline.statement statement.whole · history)
        (funext fun result => funext fun current => propext (inductionHypothesis result)))
  | transaction body resume inductionHypothesis =>
      exact iff_of_eq (congrArg (discipline.statement (body.whole durable) · history)
        (funext fun result => funext fun current => propext (inductionHypothesis (joined result))))

/-! ## Contracts about the own past -/

/-- One step of a process: the state it was taken in and what was written. -/
abbrev Deed (S : Signature) := Commit S.whole

/-- A process that may only commit what `guar` allows; what is known of it is what it has
done. -/
def Discipline.past (durable : S.Write → Bool) (thread : Nat)
    (guar : List S.Write → S.State → Prop) : Discipline S (List (Deed S)) where
  statement call post deeds := ∀ before input,
    guar (call.writes input before) before ∧
      post (call.result input before) (deeds ++ [⟨thread, before, call.writes input before⟩])
  transaction body post deeds := ∀ before inputs,
    guar (body.effects durable inputs before) before ∧
      post (body.result inputs before)
        (deeds ++ [⟨thread, before, (body.effects durable inputs before :)⟩])
  statement_mono weaker met before input :=
    ⟨(met before input).1, weaker _ _ (met before input).2⟩
  transaction_mono weaker met before inputs :=
    ⟨(met before inputs).1, weaker _ _ (met before inputs).2⟩

namespace Proc

variable {durable : S.Write → Bool} {thread : Nat} {guar : List S.Write → S.State → Prop}
  {post : Except S.Error α → List (Deed S) → Prop} {deeds : List (Deed S)}

/-- One step of a process that meets its contract. -/
theorem Meets.proceed {process : Proc S α} {next : Proc S.whole α} {inputs : Nat → S.whole.Input}
    {state : S.State} {writes : List S.Write}
    (meets : process.Meets (.past durable thread guar) post deeds)
    (advanced : (process.whole durable).advance inputs state = some (writes, next)) :
    guar writes state ∧ ∃ rest : Proc S α, next = rest.whole durable ∧
      rest.Meets (.past durable thread guar) post (deeds ++ [⟨thread, state, writes⟩]) := by
  cases process with
  | done value => cases advanced
  | fail error => cases advanced
  | call statement resume =>
      cases advanced
      obtain ⟨allowed, continued⟩ := meets state (inputs 0 0)
      rw [statement.writes_whole, statement.result_whole]
      exact ⟨allowed, _, rfl, continued⟩
  | transaction body resume =>
      cases advanced
      obtain ⟨allowed, continued⟩ := meets state (inputs 0)
      exact ⟨allowed, _, rfl, continued⟩

/-- A statement meets a contract if its successful executions do, and its failures, which
have no effect. -/
theorem Meets.did {statement : Statement S α}
    (failed : ∀ before input error, statement.exec input before = .error error →
      guar [] before ∧ post (.error error) (deeds ++ [⟨thread, before, []⟩]))
    (succeeded : ∀ before input value writes, statement.Succeeds input before value writes →
      guar writes before ∧ post (.ok value) (deeds ++ [⟨thread, before, writes⟩])) :
    (liftM statement : Proc S α).Meets (.past durable thread guar) post deeds := by
  rw [meets_lift]
  intro before input
  rw [Statement.writes, Statement.result]
  cases executed : statement.exec input before with
  | error error => exact failed before input error executed
  | ok outcome => exact succeeded before input _ _ executed

/-- A transaction meets a contract if all it can commit does, and the durable writes of one
that is rolled back. -/
theorem Meets.transacted {body : Txn S α}
    (aborted : ∀ before error writes, (∀ write ∈ writes, durable write = true) →
      guar writes before ∧ post (.error error) (deeds ++ [⟨thread, before, writes⟩]))
    (committed : ∀ before, body.Yields (fun value writes => guar writes before ∧
      post (.ok value) (deeds ++ [⟨thread, before, writes⟩])) before []) :
    (transact body).Meets (.past durable thread guar) post deeds := by
  rw [meets_transact]
  intro before inputs
  rcases (committed before).leaves durable inputs with
    ⟨error, failure, kept⟩ | ⟨value, success, made⟩
  · rw [failure]
    exact aborted before error _ kept
  · rw [success]
    exact made

/-! ### Contracts that allow everything -/

/-- A statement and what follows it, where anything may be committed. -/
theorem Meets.first {statement : Statement S β} {next : β → Proc S α}
    (failed : ∀ before input error, statement.exec input before = .error error →
      post (.error error) (deeds ++ [⟨thread, before, []⟩]))
    (continued : ∀ before input value writes, statement.Succeeds input before value writes →
      (next value).Meets (.past durable thread fun _ _ => True) post
        (deeds ++ [⟨thread, before, writes⟩])) :
    (liftM statement >>= next).Meets (.past durable thread fun _ _ => True) post deeds := by
  rw [meets_bind]
  exact Meets.did (fun before input error failure => ⟨trivial, failed before input error failure⟩)
    fun before input value writes executed => ⟨trivial, continued before input value writes executed⟩

/-- A transaction and what follows it. -/
theorem Meets.firstly {body : Txn S β} {next : β → Proc S α}
    (aborted : ∀ before error writes, (∀ write ∈ writes, durable write = true) →
      post (.error error) (deeds ++ [⟨thread, before, writes⟩]))
    (committed : ∀ before, body.Yields (fun value writes =>
      (next value).Meets (.past durable thread fun _ _ => True) post
        (deeds ++ [⟨thread, before, writes⟩])) before []) :
    (transact body >>= next).Meets (.past durable thread fun _ _ => True) post deeds := by
  rw [meets_bind]
  exact Meets.transacted (fun before error writes kept => ⟨trivial, aborted before error writes kept⟩)
    fun before => (committed before).mono fun value writes met => ⟨trivial, met⟩

/-- What has been done is not undone by the rest of a process. -/
theorem Meets.settled {process : Proc S α} {fact : List (Deed S) → Prop}
    (grows : ∀ first second, fact first → fact (first ++ second)) (holds : fact deeds) :
    process.Meets (.past durable thread fun _ _ => True) (fun _ history => fact history) deeds := by
  induction process generalizing deeds with
  | done value => exact holds
  | fail error => exact holds
  | call statement resume inductionHypothesis =>
      exact fun before input => ⟨trivial, inductionHypothesis _ (grows deeds _ holds)⟩
  | transaction body resume inductionHypothesis =>
      exact fun before inputs => ⟨trivial, inductionHypothesis _ (grows deeds _ holds)⟩

/-- Nothing needs proof where nothing is asked of the past. -/
theorem Meets.always {process : Proc S α} (all : ∀ result history, post result history) :
    process.Meets (.past durable thread fun _ _ => True) post deeds :=
  (Meets.settled (fun _ _ _ => trivial) trivial : process.Meets _ (fun _ _ => True) deeds).weaken
    fun result history _ => all result history

/-- A process of which nothing is known, and what follows it. -/
theorem Meets.skip {first : Proc S β} {next : β → Proc S α}
    (failed : ∀ error history, post (.error error) history)
    (continued : ∀ value history,
      (next value).Meets (.past durable thread fun _ _ => True) post history) :
    (first >>= next).Meets (.past durable thread fun _ _ => True) post deeds := by
  have ended : first.Meets (.past durable thread fun _ _ => True) (fun _ _ => True) deeds :=
    Meets.always fun _ _ => trivial
  exact ended.bind (fun error history _ => failed error history) fun value history _ =>
    continued value history

end Proc

namespace Pool

/-- Processes whose transactions are one step each start together. -/
def whole (durable : S.Write → Bool) (state : S.State) (procs : List (Proc S α)) :
    Pool S.whole α where
  state := state
  procs := procs.map (Proc.whole durable)

/-- The steps of a thread. -/
def deeds (trace : List (Deed S)) (thread : Nat) : List (Deed S) :=
  trace.filter fun deed => deed.thread = thread

/-- The deeds of a thread are those in which the trace names it. -/
@[simp] theorem mem_deeds {trace : List (Deed S)} {thread : Nat} {deed : Deed S} :
    deed ∈ deeds trace thread ↔ deed ∈ trace ∧ deed.thread = thread := by
  simp [deeds]

/-- In every run of processes that meet their contracts, all that is committed is allowed,
and each process is within its contract after what it has done. -/
theorem Steps.past {durable : S.Write → Bool} {state : S.State} {procs : List (Proc S α)}
    {trace : List (Deed S)} {final : Pool S.whole α}
    (steps : (Pool.whole durable state procs).Steps trace final)
    {guar : Nat → List S.Write → S.State → Prop}
    {post : Nat → Except S.Error α → List (Deed S) → Prop}
    (meets : ∀ (thread : Nat) process, procs[thread]? = some process →
      process.Meets (.past durable thread (guar thread)) (post thread) []) :
    (∀ commit ∈ trace, guar commit.thread commit.writes commit.before) ∧
      ∀ (thread : Nat) next, final.procs[thread]? = some next → ∃ rest : Proc S α,
        next = rest.whole durable ∧
          rest.Meets (.past durable thread (guar thread)) (post thread) (deeds trace thread) := by
  induction steps with
  | refl =>
      refine ⟨nofun, fun thread next found => ?_⟩
      simp only [whole, List.getElem?_map, Option.map_eq_some_iff] at found
      obtain ⟨process, enabled, rfl⟩ := found
      exact ⟨process, rfl, meets thread process enabled⟩
  | @step trace pool thread inputs process next writes prior enabled advanced inductionHypothesis =>
      obtain ⟨allowed, within⟩ := inductionHypothesis
      obtain ⟨current, rfl, met⟩ := within thread process enabled
      obtain ⟨permitted, rest, rfl, continued⟩ := met.proceed advanced
      refine ⟨fun commit member => ?_, fun other following found => ?_⟩
      · rcases List.mem_append.mp member with earlier | last
        · exact allowed commit earlier
        · exact List.mem_singleton.mp last ▸ permitted
      · rcases eq_or_of_set enabled found with ⟨rfl, rfl⟩ | ⟨different, old⟩
        · refine ⟨rest, rfl, ?_⟩
          simpa [deeds] using continued
        · obtain ⟨later, same, still⟩ := within other following old
          refine ⟨later, same, ?_⟩
          simpa [deeds, Ne.symm different] using still

/-- What a process that has ended returned, in terms of what it has done. -/
theorem Steps.past_of_finished {durable : S.Write → Bool} {state : S.State}
    {procs : List (Proc S α)} {trace : List (Deed S)} {final : Pool S.whole α}
    (steps : (Pool.whole durable state procs).Steps trace final)
    {guar : Nat → List S.Write → S.State → Prop}
    {post : Nat → Except S.Error α → List (Deed S) → Prop}
    (meets : ∀ (thread : Nat) process, procs[thread]? = some process →
      process.Meets (.past durable thread (guar thread)) (post thread) [])
    {thread : Nat} {process : Proc S.whole α} {result : Except S.Error α}
    (found : final.procs[thread]? = some process) (ended : process.finished = some result) :
    post thread result (deeds trace thread) := by
  obtain ⟨rest, rfl, met⟩ := (steps.past meets).2 thread process found
  rw [Proc.finished_whole] at ended
  exact met.post_of_finished ended

/-- The same of one process, whatever the others do. -/
theorem Steps.past_of_thread {durable : S.Write → Bool} {state : S.State}
    {procs : List (Proc S α)} {trace : List (Deed S)} {final : Pool S.whole α}
    (steps : (Pool.whole durable state procs).Steps trace final) {thread : Nat}
    {original : Proc S α} (started : procs[thread]? = some original)
    {post : Except S.Error α → List (Deed S) → Prop}
    (met : original.Meets (.past durable thread fun _ _ => True) post [])
    {process : Proc S.whole α} {result : Except S.Error α}
    (found : final.procs[thread]? = some process) (ended : process.finished = some result) :
    post result (deeds trace thread) := by
  have meets : ∀ (other : Nat) current, procs[other]? = some current →
      current.Meets (.past durable other fun _ _ => True)
        (fun answer history => other = thread → post answer history) [] := by
    intro other current enabled
    by_cases same : other = thread
    · subst same
      obtain rfl : original = current := Option.some.inj (started.symm.trans enabled)
      exact met.weaken fun _ _ reached _ => reached
    · exact Proc.Meets.always fun _ _ isSame => absurd isSame same
  exact steps.past_of_finished meets found ended rfl

end Pool

end Armada.Concurrency
