/-!
# Processes over a shared store

A process is a request as the scheduler sees it: a sequence of statements on a
store it shares with other processes, with everything between two statements
private to the process. A statement reads the store and returns the writes it
makes as data, so the same program runs with each transaction as one step
(`Concurrency.Pool`) and with the statements of open transactions interleaved
(`Concurrency.ReadCommitted`).
-/

namespace Armada.Concurrency

section Except

variable {ε α β : Type}

/-- Two steps succeed if the first does and the second does with what the first gives. -/
theorem except_bind_ok {first : Except ε α} {next : α → Except ε β} {result : β} :
    (first >>= next) = .ok result ↔ ∃ value, first = .ok value ∧ next value = .ok result := by
  cases first with
  | error error => simp [bind, Except.bind]
  | ok value => simp [bind, Except.bind]

/-- An image is there if what it is the image of is. -/
theorem except_map_ok {first : Except ε α} {function : α → β} {result : β} :
    first.map function = .ok result ↔ ∃ value, first = .ok value ∧ function value = result := by
  cases first with
  | error error => simp [Except.map]
  | ok value => simp [Except.map]

end Except

/-- What a store offers its processes. `Input` is what the environment supplies
to one statement: the clock, a generated identifier, the answer of a service. -/
structure Signature where
  State : Type
  Write : Type
  Input : Type
  Lock : Type
  Error : Type
  apply : Write → State → State
  /-- Two locks that cannot be held by different transactions at a time. -/
  clash : Lock → Lock → Prop
  /-- The failure with which the environment refuses a commit, if it does. -/
  fault : Input → Option Error

/-- The effect of a list of writes, first write first. -/
def Signature.applyAll (S : Signature) : List S.Write → S.State → S.State
  | [], state => state
  | write :: writes, state => S.applyAll writes (S.apply write state)

/-- No writes, no change. -/
@[simp] theorem Signature.applyAll_nil (S : Signature) (state : S.State) :
    S.applyAll [] state = state := rfl

/-- Writes are applied from the first to the last. -/
@[simp] theorem Signature.applyAll_cons (S : Signature) (write : S.Write)
    (writes : List S.Write) (state : S.State) :
    S.applyAll (write :: writes) state = S.applyAll writes (S.apply write state) := rfl

/-- Writes of two parts are applied part by part. -/
@[simp] theorem Signature.applyAll_append (S : Signature) (first second : List S.Write)
    (state : S.State) :
    S.applyAll (first ++ second) state = S.applyAll second (S.applyAll first state) := by
  induction first generalizing state with
  | nil => rfl
  | cons write first ih => exact ih (S.apply write state)

/-- One database call. `locks` are the locks it has to obtain before it runs. -/
structure Statement (S : Signature) (β : Type) where
  locks : S.Input → S.State → List S.Lock
  exec : S.Input → S.State → Except S.Error (β × List S.Write)

/-- A statement succeeds with a value and writes. -/
def Statement.Succeeds {S : Signature} {β : Type} (statement : Statement S β)
    (input : S.Input) (state : S.State) (value : β) (writes : List S.Write) : Prop :=
  statement.exec input state = .ok (value, writes)

/-- What the caller of a statement receives. -/
def Statement.result {S : Signature} {β : Type} (statement : Statement S β)
    (input : S.Input) (state : S.State) : Except S.Error β :=
  (statement.exec input state).map Prod.fst

/-- What a statement writes; a failed statement writes nothing. -/
def Statement.writes {S : Signature} {β : Type} (statement : Statement S β)
    (input : S.Input) (state : S.State) : List S.Write :=
  match statement.exec input state with
  | .ok (_, writes) => writes
  | .error _ => []

/-- A statement fails without effect, or it succeeds. -/
theorem Statement.ends {S : Signature} {β : Type} (statement : Statement S β) (input : S.Input)
    (state : S.State) :
    (∃ error, statement.result input state = .error error ∧ statement.writes input state = []) ∨
      ∃ value, statement.result input state = .ok value ∧
        statement.Succeeds input state value (statement.writes input state) := by
  rw [result, writes]
  cases executed : statement.exec input state with
  | error error => exact .inl ⟨error, rfl, rfl⟩
  | ok outcome => exact .inr ⟨outcome.1, rfl, executed⟩

/-- The body of a transaction. A failed statement aborts the body. -/
inductive Txn (S : Signature) (β : Type) : Type 1 where
  | done (value : β)
  | fail (error : S.Error)
  | step {γ : Type} (statement : Statement S γ) (resume : γ → Txn S β)

namespace Txn

variable {S : Signature} {β γ : Type}

/-- A transaction that goes on with what the first part answers. -/
def bind : Txn S β → (β → Txn S γ) → Txn S γ
  | .done value, next => next value
  | .fail error, _ => .fail error
  | .step statement resume, next => .step statement fun value => (resume value).bind next

instance : Monad (Txn S) where
  pure := .done
  bind := bind

instance : MonadLift (Statement S) (Txn S) where
  monadLift statement := .step statement .done

/-- Abort if a condition holds. -/
def rejectIf (condition : Prop) [Decidable condition] (error : S.Error) : Txn S Unit :=
  if condition then .fail error else .done ()

/-- Run a whole body on one state: the value and all writes, or the error that
aborts it. `inputs` are the inputs of its statements, then that of the commit. -/
def run : Txn S β → (Nat → S.Input) → S.State → Except S.Error (β × List S.Write)
  | .done value, inputs, _ =>
      match S.fault (inputs 0) with
      | some error => .error error
      | none => .ok (value, [])
  | .fail error, _, _ => .error error
  | .step statement resume, inputs, state =>
      match statement.exec (inputs 0) state with
      | .error error => .error error
      | .ok (value, writes) =>
          match (resume value).run (fun index => inputs (index + 1))
              (S.applyAll writes state) with
          | .error error => .error error
          | .ok (result, rest) => .ok (result, writes ++ rest)

/-- A transaction as a single statement. Its inputs are those of its parts. -/
def result (body : Txn S β) (inputs : Nat → S.Input) (state : S.State) :
    Except S.Error β :=
  (body.run inputs state).map Prod.fst

/-- What the body writes when it is run; nothing if it fails. -/
def writes (body : Txn S β) (inputs : Nat → S.Input) (state : S.State) : List S.Write :=
  match body.run inputs state with
  | .ok (_, writes) => writes
  | .error _ => []

end Txn

/-- A request: statements on their own, transactions, and a result. -/
inductive Proc (S : Signature) (α : Type) : Type 1 where
  | done (value : α)
  | fail (error : S.Error)
  | call {β : Type} (statement : Statement S β) (resume : Except S.Error β → Proc S α)
  | transaction {β : Type} (body : Txn S β) (resume : Except S.Error β → Proc S α)

namespace Proc

variable {S : Signature} {α β : Type}

/-- The process that continues with a value or fails with an error. -/
def ofExcept : Except S.Error α → Proc S α
  | .ok value => .done value
  | .error error => .fail error

/-- A process that goes on with what the first part answers. -/
def bind : Proc S α → (α → Proc S β) → Proc S β
  | .done value, next => next value
  | .fail error, _ => .fail error
  | .call statement resume, next => .call statement fun result => (resume result).bind next
  | .transaction body resume, next =>
      .transaction body fun result => (resume result).bind next

/-- The errors of a process go to a handler, outside its transactions. -/
def tryCatch : Proc S α → (S.Error → Proc S α) → Proc S α
  | .done value, _ => .done value
  | .fail error, handler => handler error
  | .call statement resume, handler =>
      .call statement fun result => (resume result).tryCatch handler
  | .transaction body resume, handler =>
      .transaction body fun result => (resume result).tryCatch handler

/-- Sequences may be regrouped. -/
theorem bind_assoc {γ : Type} (process : Proc S α) (next : α → Proc S β) (last : β → Proc S γ) :
    (process.bind next).bind last = process.bind fun value => (next value).bind last := by
  induction process with
  | done value => rfl
  | fail error => rfl
  | call statement resume inductionHypothesis =>
      exact congrArg (call statement) (funext inductionHypothesis)
  | transaction body resume inductionHypothesis =>
      exact congrArg (transaction body) (funext inductionHypothesis)

instance : Monad (Proc S) where
  pure := .done
  bind := bind

/-- The same in the notation of `do`. -/
theorem seq_assoc {γ : Type} (first : Proc S α) (next : α → Proc S β) (last : β → Proc S γ) :
    first >>= next >>= last = first >>= fun value => next value >>= last :=
  bind_assoc first next last

instance : MonadExceptOf S.Error (Proc S) where
  throw := .fail
  tryCatch := tryCatch

instance : MonadLift (Statement S) (Proc S) where
  monadLift statement := .call statement ofExcept

/-- Fail if a condition holds. -/
def rejectIf (condition : Prop) [Decidable condition] (error : S.Error) : Proc S Unit :=
  if condition then .fail error else .done ()

/-- The value of an option, or a failure. -/
def require (value : Option α) (error : S.Error) : Proc S α :=
  match value with
  | some value => .done value
  | none => .fail error

/-- Run a body as one transaction of the process. -/
def transact (body : Txn S β) : Proc S β :=
  .transaction body ofExcept

/-- A process that has returned a value or failed. -/
def finished : Proc S α → Option (Except S.Error α)
  | .done value => some (.ok value)
  | .fail error => some (.error error)
  | .call _ _ => none
  | .transaction _ _ => none

/-- Run a process alone on a state, one block of inputs for each of its steps. -/
def run : Proc S α → (Nat → Nat → S.Input) → S.State → Except S.Error α × S.State
  | .done value, _, state => (.ok value, state)
  | .fail error, _, state => (.error error, state)
  | .call statement resume, inputs, state =>
      (resume (statement.result (inputs 0 0) state)).run (fun index => inputs (index + 1))
        (S.applyAll (statement.writes (inputs 0 0) state) state)
  | .transaction body resume, inputs, state =>
      (resume (body.result (inputs 0) state)).run (fun index => inputs (index + 1))
        (S.applyAll (body.writes (inputs 0) state) state)

end Proc

end Armada.Concurrency
