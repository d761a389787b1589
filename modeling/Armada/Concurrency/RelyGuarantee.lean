import Armada.Concurrency.Contracts
import Armada.Concurrency.Pool

/-!
# Rely-guarantee reasoning about processes

Contracts of processes among processes whose steps stay within `rely`: they commit
only writes that `guar` allows in the state they are committed in. The rules below
are those of one call and of one transaction; `Pool.Steps.sound` turns the contracts
of all processes of a pool into a statement about each of its runs.
-/

namespace Armada.Concurrency

variable {S : Signature} {α β : Type}

namespace Txn

/-- Whatever the inputs, a body that started on `base`, has made the writes
`written` and goes on to commit does so with a value and writes as in `post`. -/
def Yields (post : β → List S.Write → Prop) (base : S.State) :
    Txn S β → List S.Write → Prop
  | .done value, written => post value written
  | .fail _, _ => True
  | .step statement resume, written => ∀ input value writes,
      statement.Succeeds input (S.applyAll written base) value writes →
        Yields post base (resume value) (written ++ writes)

variable {post : β → List S.Write → Prop} {base : S.State}

/-- A body that ends at once has written what it had. -/
@[simp] theorem yields_pure (value : β) (written : List S.Write) :
    (pure value : Txn S β).Yields post base written ↔ post value written := Iff.rfl

/-- A body that fails yields nothing. -/
@[simp] theorem yields_fail (error : S.Error) (written : List S.Write) :
    (fail error : Txn S β).Yields post base written := trivial

/-- A statement adds its writes, made on top of the earlier ones. -/
@[simp] theorem yields_lift (statement : Statement S β) (written : List S.Write) :
    (liftM statement : Txn S β).Yields post base written ↔ ∀ input value writes,
      statement.Succeeds input (S.applyAll written base) value writes →
        post value (written ++ writes) := Iff.rfl

/-- After a check that rejects, its condition is known to fail. -/
@[simp] theorem yields_rejectIf {condition : Prop} [Decidable condition] {error : S.Error}
    {post : Unit → List S.Write → Prop} (written : List S.Write) :
    (rejectIf condition error).Yields post base written ↔ (¬condition → post () written) := by
  rw [rejectIf]
  split
  · rename_i rejected
    simp [rejected]
  · rename_i accepted
    simp only [accepted, not_false_iff, forall_const]
    rfl

/-- A sequence yields what its second part yields after the first. -/
@[simp] theorem yields_bind (first : Txn S α) (next : α → Txn S β) (written : List S.Write) :
    (first >>= next).Yields post base written ↔
      first.Yields (fun value made => (next value).Yields post base made) base written := by
  change (first.bind next).Yields post base written ↔ _
  induction first generalizing written with
  | done value => rfl
  | fail error => rfl
  | step statement resume inductionHypothesis =>
      simp only [bind, Yields, inductionHypothesis]

/-- A postcondition may be weakened. -/
theorem Yields.mono {post' : β → List S.Write → Prop} {body : Txn S β}
    {written : List S.Write} (yields : body.Yields post base written)
    (weaker : ∀ value made, post value made → post' value made) :
    body.Yields post' base written := by
  induction body generalizing written with
  | done value => exact weaker _ _ yields
  | fail error => trivial
  | step statement resume inductionHypothesis =>
      intro input value writes executed
      exact inductionHypothesis _ (yields input value writes executed)

/-- Nothing needs proof where everything is allowed. -/
theorem Yields.of_forall {body : Txn S β} {written : List S.Write}
    (all : ∀ value made, post value made) : body.Yields post base written := by
  induction body generalizing written with
  | done value => exact all value written
  | fail error => trivial
  | step statement resume inductionHypothesis => exact fun _ value _ _ => inductionHypothesis value

/-- Two facts about a body are one. -/
theorem Yields.and {post' : β → List S.Write → Prop} {body : Txn S β} {written : List S.Write}
    (left : body.Yields post base written) (right : body.Yields post' base written) :
    body.Yields (fun value made => post value made ∧ post' value made) base written := by
  induction body generalizing written with
  | done value => exact ⟨left, right⟩
  | fail error => trivial
  | step statement resume inductionHypothesis =>
      intro input value writes executed
      exact inductionHypothesis _ (left input value writes executed) (right input value writes executed)

/-- What is yielded holds of every run. -/
theorem Yields.of_run {body : Txn S β} {written writes : List S.Write}
    {inputs : Nat → S.Input} {value : β} (yields : body.Yields post base written)
    (ran : body.run inputs (S.applyAll written base) = .ok (value, writes)) :
    post value (written ++ writes) := by
  induction body generalizing written writes inputs with
  | done result =>
      rw [run] at ran
      split at ran
      · cases ran
      · cases ran
        rw [List.append_nil]
        exact yields
  | fail error => cases ran
  | step statement resume inductionHypothesis =>
      rw [run] at ran
      split at ran
      · cases ran
      · rename_i first made executed
        rw [← S.applyAll_append] at ran
        split at ran
        · cases ran
        · rename_i result rest restRan
          cases ran
          rw [← List.append_assoc]
          exact inductionHypothesis _ (yields _ _ _ executed) restRan

/-- A transaction is rolled back without effect, or it commits what its body yields. -/
theorem Yields.ends {body : Txn S β} (yields : body.Yields post base [])
    (inputs : Nat → S.Input) :
    (∃ error, body.result inputs base = .error error ∧ body.writes inputs base = []) ∨
      ∃ value, body.result inputs base = .ok value ∧ post value (body.writes inputs base) := by
  rw [result, writes]
  cases ran : body.run inputs base with
  | error error => exact .inl ⟨error, rfl, rfl⟩
  | ok outcome => exact .inr ⟨outcome.1, rfl, yields.of_run ran⟩

end Txn

/-- Each call and each transaction is one step. Before it the others may have taken
steps within `rely`, and what it commits has to be allowed by `guar` in the state it
is committed in. -/
def Discipline.atomic (rely : S.State → S.State → Prop) (guar : List S.Write → S.State → Prop) :
    Discipline S S.State where
  statement call post state := ∀ next, rely state next → ∀ input,
    guar (call.writes input next) next ∧
      post (call.result input next) (S.applyAll (call.writes input next) next)
  transaction body post state := ∀ next, rely state next → ∀ inputs,
    guar (body.writes inputs next) next ∧
      post (body.result inputs next) (S.applyAll (body.writes inputs next) next)
  statement_mono weaker met next within input :=
    ⟨(met next within input).1, weaker _ _ (met next within input).2⟩
  transaction_mono weaker met next within inputs :=
    ⟨(met next within inputs).1, weaker _ _ (met next within inputs).2⟩

namespace Proc

variable {rely : S.State → S.State → Prop} {guar : List S.Write → S.State → Prop}
  {post : Except S.Error α → S.State → Prop}

/-- A contract may be weakened: fewer interfering steps, more allowed writes,
a weaker postcondition. -/
theorem Meets.mono {rely' : S.State → S.State → Prop} {guar' : List S.Write → S.State → Prop}
    {post' : Except S.Error α → S.State → Prop} {process : Proc S α} {state : S.State}
    (meets : process.Meets (.atomic rely guar) post state)
    (fewer : ∀ before after, rely' before after → rely before after)
    (more : ∀ writes state, guar writes state → guar' writes state)
    (weaker : ∀ result state, post result state → post' result state) :
    process.Meets (.atomic rely' guar') post' state := by
  induction process generalizing state with
  | done value => exact weaker _ _ meets
  | fail error => exact weaker _ _ meets
  | call statement resume inductionHypothesis =>
      intro next within input
      obtain ⟨allowed, rest⟩ := meets next (fewer _ _ within) input
      exact ⟨more _ _ allowed, inductionHypothesis _ rest⟩
  | transaction body resume inductionHypothesis =>
      intro next within inputs
      obtain ⟨allowed, rest⟩ := meets next (fewer _ _ within) inputs
      exact ⟨more _ _ allowed, inductionHypothesis _ rest⟩

/-- A statement meets a contract if its successful executions do and the contract
allows it to fail without effect. -/
theorem Meets.statement {statement : Statement S α} {state : S.State}
    (failed : ∀ next error, rely state next → guar [] next ∧ post (.error error) next)
    (succeeded : ∀ next input value writes, rely state next →
      statement.Succeeds input next value writes →
        guar writes next ∧ post (.ok value) (S.applyAll writes next)) :
    (liftM statement : Proc S α).Meets (.atomic rely guar) post state := by
  rw [meets_lift]
  intro next within input
  rcases statement.ends input next with ⟨error, failure, none⟩ | ⟨value, success, executed⟩
  · rw [failure, none]
    exact failed next error within
  · rw [success]
    exact succeeded next input _ _ within executed

/-- A transaction meets a contract if all it can commit does and the contract
allows it to be rolled back. -/
theorem Meets.transaction {body : Txn S α} {state : S.State}
    (aborted : ∀ next error, rely state next → guar [] next ∧ post (.error error) next)
    (committed : ∀ next, rely state next → body.Yields (fun value writes =>
      guar writes next ∧ post (.ok value) (S.applyAll writes next)) next []) :
    (transact body).Meets (.atomic rely guar) post state := by
  rw [meets_transact]
  intro next within inputs
  rcases (committed next within).ends inputs with ⟨error, failure, none⟩ | ⟨value, success, made⟩
  · rw [failure, none]
    exact aborted next error within
  · rw [success]
    exact made

/-- Where what a process may commit is itself relied on, the final state is one
that the others may have reached from any state before. -/
theorem Meets.remember {process : Proc S α} {origin state : S.State}
    (met : process.Meets (.atomic rely guar) post state)
    (trans : ∀ {first second third}, rely first second → rely second third → rely first third)
    (own : ∀ writes state, guar writes state → rely state (S.applyAll writes state))
    (since : rely origin state) :
    process.Meets (.atomic rely guar)
      (fun result current => rely origin current ∧ post result current) state := by
  induction process generalizing state with
  | done value => exact ⟨since, met⟩
  | fail error => exact ⟨since, met⟩
  | call statement resume inductionHypothesis =>
      intro next within input
      obtain ⟨allowed, rest⟩ := met next within input
      exact ⟨allowed, inductionHypothesis _ rest (trans (trans since within) (own _ _ allowed))⟩
  | transaction body resume inductionHypothesis =>
      intro next within inputs
      obtain ⟨allowed, rest⟩ := met next within inputs
      exact ⟨allowed, inductionHypothesis _ rest (trans (trans since within) (own _ _ allowed))⟩

/-- A statement outside transactions commits what it writes. -/
theorem Commits.statement {statement : Statement S α} (quiet : ∀ state, guar [] state)
    (allowed : ∀ state input value writes, statement.Succeeds input state value writes →
      guar writes state) :
    (liftM statement : Proc S α).Commits (.atomic rely guar) := fun _ =>
  Meets.statement (fun next _ _ => ⟨quiet next, trivial⟩)
    fun next input value writes _ executed => ⟨allowed next input value writes executed, trivial⟩

/-- A transaction commits what its body yields. -/
theorem Commits.transaction {body : Txn S α} (quiet : ∀ state, guar [] state)
    (allowed : ∀ state, body.Yields (fun _ writes => guar writes state) state []) :
    (transact body).Commits (.atomic rely guar) := fun _ =>
  Meets.transaction (fun next _ _ => ⟨quiet next, trivial⟩) fun next _ =>
    (allowed next).mono fun _ _ made => ⟨made, trivial⟩

/-- One step of a process that meets its contract: the writes are allowed and
the remaining process meets the contract from the new state. -/
theorem Meets.advance {process next : Proc S α} {state current : S.State}
    {inputs : Nat → S.Input} {writes : List S.Write}
    (meets : process.Meets (.atomic rely guar) post state) (within : rely state current)
    (advanced : process.advance inputs current = some (writes, next)) :
    guar writes current ∧ next.Meets (.atomic rely guar) post (S.applyAll writes current) := by
  cases process with
  | done value => simp [Proc.advance] at advanced
  | fail error => simp [Proc.advance] at advanced
  | call statement resume =>
      simp only [Proc.advance, Option.some.injEq, Prod.mk.injEq] at advanced
      obtain ⟨rfl, rfl⟩ := advanced
      exact meets current within (inputs 0)
  | transaction body resume =>
      simp only [Proc.advance, Option.some.injEq, Prod.mk.injEq] at advanced
      obtain ⟨rfl, rfl⟩ := advanced
      exact meets current within inputs

end Proc

namespace Pool

/-- The contracts of the processes of a pool: `guar` and `post` by thread, one
`rely` for all, and an invariant of the store. -/
structure Contract (S : Signature) (α : Type) where
  inv : S.State → Prop
  rely : S.State → S.State → Prop
  guar : Nat → List S.Write → S.State → Prop
  post : Nat → Except S.Error α → S.State → Prop
  relyRefl : ∀ state, inv state → rely state state
  relyTrans : ∀ {first second third}, rely first second → rely second third → rely first third
  /-- What one process is allowed to commit keeps the invariant and is what the
  others rely on. -/
  compatible : ∀ thread writes state, inv state → guar thread writes state →
    inv (S.applyAll writes state) ∧ rely state (S.applyAll writes state)

/-- Every process met its contract from some state since which only relied-on
steps were taken. -/
def Contract.Upheld (contract : Contract S α) (pool : Pool S α) : Prop :=
  ∀ (thread : Nat) process, pool.procs[thread]? = some process → ∃ since,
    contract.rely since pool.state ∧
      process.Meets (.atomic contract.rely (contract.guar thread)) (contract.post thread) since

/-- Soundness: if every process meets its contract at the start then every run
keeps the invariant, commits only what the contracts allow, and leaves every
process within its contract. -/
theorem Steps.sound {contract : Contract S α} {start final : Pool S α}
    {trace : List (Commit S)} (steps : start.Steps trace final)
    (holds : contract.inv start.state)
    (meets : ∀ (thread : Nat) process, start.procs[thread]? = some process →
      process.Meets (.atomic contract.rely (contract.guar thread)) (contract.post thread) start.state) :
    contract.inv final.state ∧ contract.Upheld final ∧
      ∀ commit ∈ trace, contract.inv commit.before ∧
        contract.guar commit.thread commit.writes commit.before := by
  induction steps with
  | refl =>
      refine ⟨holds, fun thread process found => ?_, by simp⟩
      exact ⟨start.state, contract.relyRefl _ holds, meets thread process found⟩
  | @step trace pool thread inputs process next writes prior enabled advanced ih =>
      obtain ⟨inv, upheld, committed⟩ := ih
      obtain ⟨since, within, contractMet⟩ := upheld thread process enabled
      obtain ⟨allowed, rest⟩ := contractMet.advance within advanced
      obtain ⟨invNext, stepRelied⟩ := contract.compatible thread writes pool.state inv allowed
      refine ⟨invNext, fun other current found => ?_, fun commit member => ?_⟩
      · rcases eq_or_of_set enabled found with ⟨rfl, rfl⟩ | ⟨_, old⟩
        · exact ⟨_, contract.relyRefl _ invNext, rest⟩
        · obtain ⟨earlier, reached, met⟩ := upheld other current old
          exact ⟨earlier, contract.relyTrans reached stepRelied, met⟩
      · rcases List.mem_append.mp member with earlier | last
        · exact committed commit earlier
        · rw [List.mem_singleton.mp last]
          exact ⟨inv, allowed⟩

/-- What a process that has ended returned, in terms of the present state. -/
theorem Contract.Upheld.post_of_finished {contract : Contract S α} {pool : Pool S α}
    (upheld : contract.Upheld pool) {thread : Nat} {process : Proc S α}
    {result : Except S.Error α} (found : pool.procs[thread]? = some process)
    (ended : process.finished = some result) :
    ∃ since, contract.rely since pool.state ∧ contract.post thread result since := by
  obtain ⟨since, within, met⟩ := upheld thread process found
  exact ⟨since, within, met.post_of_finished ended⟩

/-- What a process may commit can depend on its first step: if from then on it keeps to what
that step allows, whatever the others do, so does every run. -/
theorem Steps.since_first {start final : Pool S α} {trace : List (Commit S)}
    (steps : start.Steps trace final) {thread : Nat} {process : Proc S α}
    (found : start.procs[thread]? = some process) (guar : Commit S → List S.Write → S.State → Prop)
    (first : ∀ moment inputs writes next, process.advance inputs moment = some (writes, next) →
      guar ⟨thread, moment, writes⟩ writes moment ∧
        next.Meets (.atomic (fun _ _ => True) (guar ⟨thread, moment, writes⟩))
          (fun _ _ => True) (S.applyAll writes moment)) :
    ∀ commit ∈ trace, commit.thread = thread → ∃ check,
      trace.find? (fun other => other.thread = thread) = some check ∧
        guar check commit.writes commit.before := by
  -- the thread has not moved, or it keeps to what its first step allows
  have along : (trace.find? (fun other => other.thread = thread) = none ∧
      final.procs[thread]? = some process) ∨ ∃ check rest since,
        trace.find? (fun other => other.thread = thread) = some check ∧
          final.procs[thread]? = some rest ∧
          rest.Meets (.atomic (fun _ _ => True) (guar check)) (fun _ _ => True) since ∧
          ∀ commit ∈ trace, commit.thread = thread → guar check commit.writes commit.before := by
    induction steps with
    | refl => exact .inl ⟨rfl, found⟩
    | @step trace pool mover inputs current next writes prior enabled advanced ih =>
        obtain ⟨bounded, _⟩ := List.getElem?_eq_some_iff.mp enabled
        by_cases own : mover = thread
        · subst own
          have nextAt : (pool.procs.set mover next)[mover]? = some next := by simp [bounded]
          rcases ih with ⟨idle, same⟩ | ⟨check, rest, since, isFirst, same, met, kept⟩
          · obtain rfl : current = process := Option.some.inj (enabled.symm.trans same)
            obtain ⟨allowed, continued⟩ := first _ _ _ _ advanced
            refine .inr ⟨⟨mover, pool.state, writes⟩, next, _, by simp [idle], nextAt, continued,
              fun commit member moved => ?_⟩
            rcases List.mem_append.mp member with earlier | last
            · exact absurd moved (by simpa using List.find?_eq_none.mp idle commit earlier)
            · rw [List.mem_singleton.mp last]
              exact allowed
          · obtain rfl : current = rest := Option.some.inj (enabled.symm.trans same)
            obtain ⟨allowed, continued⟩ := met.advance trivial advanced
            refine .inr ⟨check, next, _, by simp [isFirst], nextAt, continued,
              fun commit member moved => ?_⟩
            rcases List.mem_append.mp member with earlier | last
            · exact kept commit earlier moved
            · rw [List.mem_singleton.mp last]
              exact allowed
        · have sameAt : (pool.procs.set mover next)[thread]? = pool.procs[thread]? :=
            List.getElem?_set_ne own
          rcases ih with ⟨idle, same⟩ | ⟨check, rest, since, isFirst, same, met, kept⟩
          · exact .inl ⟨by simp [idle, own], sameAt.trans same⟩
          · refine .inr ⟨check, rest, since, by simp [isFirst], sameAt.trans same, met,
              fun commit member moved => ?_⟩
            rcases List.mem_append.mp member with earlier | last
            · exact kept commit earlier moved
            · rw [List.mem_singleton.mp last] at moved
              exact absurd moved own
  intro commit member own
  rcases along with ⟨idle, _⟩ | ⟨check, _, _, isFirst, _, _, kept⟩
  · exact absurd own (by simpa using List.find?_eq_none.mp idle commit member)
  · exact ⟨check, isFirst, kept commit member own⟩

end Pool

end Armada.Concurrency
