import Armada.Concurrency.Process

/-!
# Contracts of processes

`Proc.Meets discipline post process state` says that the process, continuing from
`state`, returns only results that satisfy `post` together with the state at that
moment. The discipline says what may happen around and inside one call and one
transaction, and what the process may do there; the rules below hold for any
discipline. The two of this development are transactions that are one step each
(`Concurrency.RelyGuarantee`) and interleaved transactions with locks
(`Concurrency.ReadCommitted`).
-/

namespace Armada.Concurrency

universe u

variable {S : Signature} {H : Type u} {α β : Type}

/-- What is required before a call or a transaction, for what is required after it, of a
history: the present state, or what has been written so far. -/
structure Discipline (S : Signature) (H : Type u) where
  statement : {β : Type} → Statement S β → (Except S.Error β → H → Prop) → H → Prop
  transaction : {β : Type} → Txn S β → (Except S.Error β → H → Prop) → H → Prop
  statement_mono : ∀ {β : Type} {call : Statement S β}
    {post post' : Except S.Error β → H → Prop} {state : H},
    (∀ result next, post result next → post' result next) → statement call post state →
      statement call post' state
  transaction_mono : ∀ {β : Type} {body : Txn S β}
    {post post' : Except S.Error β → H → Prop} {state : H},
    (∀ result next, post result next → post' result next) → transaction body post state →
      transaction body post' state

/-- A postcondition given separately for values and for errors. -/
def OnResult (value : α → H → Prop) (error : S.Error → H → Prop) :
    Except S.Error α → H → Prop
  | .ok result, state => value result state
  | .error reason, state => error reason state

/-- The postcondition of a value. -/
@[simp] theorem onResult_ok (value : α → H → Prop) (error : S.Error → H → Prop)
    (result : α) (state : H) :
    OnResult value error (.ok result) state ↔ value result state := Iff.rfl

/-- The postcondition of an error. -/
@[simp] theorem onResult_error (value : α → H → Prop) (error : S.Error → H → Prop)
    (reason : S.Error) (state : H) :
    OnResult value error (.error reason) state ↔ error reason state := Iff.rfl

namespace Proc

/-- See the head of this module. -/
def Meets (discipline : Discipline S H) (post : Except S.Error α → H → Prop) :
    Proc S α → H → Prop
  | .done value, state => post (.ok value) state
  | .fail error, state => post (.error error) state
  | .call statement resume, state =>
      discipline.statement statement (fun result => (resume result).Meets discipline post) state
  | .transaction body resume, state =>
      discipline.transaction body (fun result => (resume result).Meets discipline post) state

variable {discipline : Discipline S H} {post : Except S.Error α → H → Prop}

/-- Returning establishes what holds of the value already. -/
@[simp] theorem meets_pure (value : α) (state : H) :
    (pure value : Proc S α).Meets discipline post state ↔ post (.ok value) state := Iff.rfl

/-- Throwing establishes what holds of the error already. -/
@[simp] theorem meets_throw (error : S.Error) (state : H) :
    (throw error : Proc S α).Meets discipline post state ↔ post (.error error) state := Iff.rfl

/-- Both at once, for an answer that is given. -/
@[simp] theorem meets_ofExcept (result : Except S.Error α) (state : H) :
    (ofExcept result).Meets discipline post state ↔ post result state := by
  cases result <;> rfl

/-- A statement meets what the discipline says of statements. -/
@[simp] theorem meets_lift (statement : Statement S α) (state : H) :
    (liftM statement : Proc S α).Meets discipline post state ↔
      discipline.statement statement post state := by
  change discipline.statement statement (fun result => (ofExcept result).Meets discipline post)
    state ↔ _
  exact iff_of_eq (congrArg (discipline.statement statement · state)
    (funext fun result => funext fun next => propext (meets_ofExcept result next)))

/-- A transaction meets what the discipline says of transactions. -/
@[simp] theorem meets_transact (body : Txn S α) (state : H) :
    (transact body).Meets discipline post state ↔ discipline.transaction body post state := by
  change discipline.transaction body (fun result => (ofExcept result).Meets discipline post)
    state ↔ _
  exact iff_of_eq (congrArg (discipline.transaction body · state)
    (funext fun result => funext fun next => propext (meets_ofExcept result next)))

/-- A check either rejects or goes on. -/
@[simp] theorem meets_rejectIf {condition : Prop} [Decidable condition] {error : S.Error}
    {post : Except S.Error Unit → H → Prop} (state : H) :
    (rejectIf condition error).Meets discipline post state ↔
      (condition → post (.error error) state) ∧ (¬condition → post (.ok ()) state) := by
  rw [rejectIf]
  split
  · rename_i rejected
    simp [rejected, Meets]
  · rename_i accepted
    simp [accepted, Meets]

/-- The contract of a sequence is that of its first part, with the contract of
the second part as its postcondition. -/
@[simp] theorem meets_bind (first : Proc S β) (next : β → Proc S α) (state : H) :
    (first >>= next).Meets discipline post state ↔
      first.Meets discipline
        (OnResult (fun value => (next value).Meets discipline post)
          (fun error => post (.error error))) state := by
  change (first.bind next).Meets discipline post state ↔ _
  induction first generalizing state with
  | done value => rfl
  | fail error => rfl
  | call statement resume inductionHypothesis =>
      exact iff_of_eq (congrArg (discipline.statement statement · state)
        (funext fun result => funext fun current => propext (inductionHypothesis result current)))
  | transaction body resume inductionHypothesis =>
      exact iff_of_eq (congrArg (discipline.transaction body · state)
        (funext fun result => funext fun current => propext (inductionHypothesis result current)))

/-- What is made of the answer is part of the postcondition. -/
@[simp] theorem meets_map (process : Proc S β) (function : β → α) (state : H) :
    (function <$> process).Meets discipline post state ↔
      process.Meets discipline (OnResult (fun value => post (.ok (function value)))
        fun error => post (.error error)) state :=
  meets_bind process (fun value => pure (function value)) state

/-- An error of the protected part continues with the handler. -/
@[simp] theorem meets_tryCatch (protectedPart : Proc S α) (handler : S.Error → Proc S α)
    (state : H) :
    (tryCatch protectedPart handler).Meets discipline post state ↔
      protectedPart.Meets discipline
        (OnResult (fun value => post (.ok value))
          (fun error => (handler error).Meets discipline post)) state := by
  induction protectedPart generalizing state with
  | done value => rfl
  | fail error => rfl
  | call statement resume inductionHypothesis =>
      exact iff_of_eq (congrArg (discipline.statement statement · state)
        (funext fun result => funext fun current => propext (inductionHypothesis result current)))
  | transaction body resume inductionHypothesis =>
      exact iff_of_eq (congrArg (discipline.transaction body · state)
        (funext fun result => funext fun current => propext (inductionHypothesis result current)))

/-- A postcondition may be weakened. -/
theorem Meets.weaken {post' : Except S.Error α → H → Prop} {process : Proc S α}
    {state : H} (meets : process.Meets discipline post state)
    (weaker : ∀ result state, post result state → post' result state) :
    process.Meets discipline post' state := by
  induction process generalizing state with
  | done value => exact weaker _ _ meets
  | fail error => exact weaker _ _ meets
  | call statement resume inductionHypothesis =>
      exact discipline.statement_mono (fun result _ met => inductionHypothesis result met) meets
  | transaction body resume inductionHypothesis =>
      exact discipline.transaction_mono (fun result _ met => inductionHypothesis result met) meets

/-- The rule of a sequence: the first part meets a condition from which either its error or the
rest meets the postcondition. -/
theorem Meets.bind {first : Proc S β} {next : β → Proc S α} {state : H}
    {Q : Except S.Error β → H → Prop} (met : first.Meets discipline Q state)
    (failed : ∀ error current, Q (.error error) current → post (.error error) current)
    (continued : ∀ value current, Q (.ok value) current →
      (next value).Meets discipline post current) :
    (first >>= next).Meets discipline post state := by
  rw [meets_bind]
  refine met.weaken fun result current reached => ?_
  cases result with
  | error error => exact failed error current reached
  | ok value => exact continued value current reached

/-- The rule of a handler: it is the errors that go on. -/
theorem Meets.tryCatch {process : Proc S α} {handler : S.Error → Proc S α} {state : H}
    {Q : Except S.Error α → H → Prop} (met : process.Meets discipline Q state)
    (returned : ∀ value current, Q (.ok value) current → post (.ok value) current)
    (handled : ∀ error current, Q (.error error) current →
      (handler error).Meets discipline post current) :
    (Proc.tryCatch process handler).Meets discipline post state := by
  rw [meets_tryCatch]
  refine met.weaken fun result current reached => ?_
  cases result with
  | error error => exact handled error current reached
  | ok value => exact returned value current reached

/-- The rule of a check and of what comes after it. -/
theorem Meets.rejectIf {condition : Prop} [Decidable condition] {error : S.Error}
    {next : Unit → Proc S α} {state : H} (rejected : condition → post (.error error) state)
    (continued : ¬condition → (next ()).Meets discipline post state) :
    (Proc.rejectIf condition error >>= next).Meets discipline post state := by
  rw [Proc.rejectIf]
  split
  · rename_i holds
    exact rejected holds
  · rename_i fails
    exact continued fails

/-- The rule of a value that is asked for and of what comes after it. -/
theorem Meets.require {value : Option β} {error : S.Error} {next : β → Proc S α}
    {state : H} (missing : value = none → post (.error error) state)
    (continued : ∀ found, value = some found → (next found).Meets discipline post state) :
    (Proc.require value error >>= next).Meets discipline post state := by
  cases value with
  | none => exact missing rfl
  | some found => exact continued found rfl

/-- The rule of a branch. -/
theorem Meets.ite {condition : Prop} [Decidable condition] {first second : Proc S α} {state : H}
    (positive : condition → first.Meets discipline post state)
    (negative : ¬condition → second.Meets discipline post state) :
    (if condition then first else second).Meets discipline post state := by
  split
  · rename_i holds
    exact positive holds
  · rename_i fails
    exact negative fails

/-- A process that has ended satisfies its postcondition. -/
theorem Meets.post_of_finished {process : Proc S α} {history : H}
    (meets : process.Meets discipline post history) {result : Except S.Error α}
    (finished : process.finished = some result) : post result history := by
  cases process with
  | done value =>
      simp only [Proc.finished, Option.some.injEq] at finished
      exact finished ▸ meets
  | fail error =>
      simp only [Proc.finished, Option.some.injEq] at finished
      exact finished ▸ meets
  | call statement resume => cases finished
  | transaction body resume => cases finished

/-- The process does only what the discipline allows, whatever it reads and returns. -/
def Commits (discipline : Discipline S H) (process : Proc S α) : Prop :=
  ∀ state, process.Meets discipline (fun _ _ => True) state

namespace Commits

/-- Who returns commits nothing. -/
theorem pure (value : α) : Commits discipline (Pure.pure value : Proc S α) :=
  fun _ => trivial

/-- Who throws commits nothing. -/
theorem throw (error : S.Error) : Commits discipline (MonadExcept.throw error : Proc S α) :=
  fun _ => trivial

/-- A sequence commits what its parts commit. -/
theorem bind {first : Proc S β} {next : β → Proc S α} (committed : first.Commits discipline)
    (continued : ∀ value, (next value).Commits discipline) :
    (first >>= next).Commits discipline := fun state =>
  (committed state).bind (fun _ _ _ => trivial) fun value current _ => continued value current

/-- What is made of the answer does not matter. -/
theorem map {process : Proc S β} (function : β → α) (committed : process.Commits discipline) :
    (function <$> process).Commits discipline :=
  committed.bind fun value => Commits.pure (function value)

/-- A handler commits as well. -/
theorem tryCatch {process : Proc S α} {handler : S.Error → Proc S α}
    (committed : process.Commits discipline) (handled : ∀ error, (handler error).Commits discipline) :
    (Proc.tryCatch process handler).Commits discipline := fun state =>
  (committed state).tryCatch (fun _ _ _ => trivial) fun error current _ => handled error current

/-- A check commits nothing. -/
theorem rejectIf (condition : Prop) [Decidable condition] (error : S.Error) :
    (Proc.rejectIf condition error).Commits discipline := by
  intro state
  rw [Proc.rejectIf]
  split <;> trivial

/-- Asking for a value commits nothing. -/
theorem require (value : Option α) (error : S.Error) :
    (Proc.require value error).Commits discipline := by
  intro state
  cases value <;> trivial

/-- Either branch commits. -/
theorem ite {condition : Prop} [Decidable condition] {first second : Proc S α}
    (positive : first.Commits discipline) (negative : second.Commits discipline) :
    (if condition then first else second).Commits discipline := by
  split
  · exact positive
  · exact negative

/-- A loop commits what its rounds commit. -/
theorem forM {γ : Type} {items : List γ} {body : γ → Proc S PUnit}
    (each : ∀ item ∈ items, (body item).Commits discipline) : (items.forM body).Commits discipline := by
  induction items with
  | nil => exact fun _ => trivial
  | cons item items inductionHypothesis =>
      rw [List.forM]
      exact (each item List.mem_cons_self).bind fun _ =>
        inductionHypothesis fun other member => each other (List.mem_cons_of_mem _ member)

end Commits

end Proc

end Armada.Concurrency
