import Armada.Concurrency.RelyGuarantee

/-!
# Processes that run alone

`Proc.Runs supplied process before result after` says that the process, run to its end
with nobody else on the store and with inputs that satisfy `supplied`, may return the
result and leave the store so. The rules follow the constructors of a process, and
invert a run into those of its parts; a contract met among other processes is met by a
process alone.
-/

namespace Armada.Concurrency

variable {S : Signature} {α β : Type}

/-- All inputs of a transaction are as supplied. -/
def Each (supplied : S.Input → Prop) (inputs : Nat → S.Input) : Prop :=
  ∀ index, supplied (inputs index)

namespace Txn

variable {supplied : S.Input → Prop} {post : S.Error → Prop}

/-- Returning what a body answers adds nothing to it. -/
theorem bind_pure (body : Txn S β) : body >>= pure = body := by
  change body.bind done = body
  induction body with
  | done value => rfl
  | fail error => rfl
  | step statement resume inductionHypothesis =>
      exact congrArg (step statement) (funext inductionHypothesis)

/-- A body whose first statement succeeds goes on in the state that the statement leaves. -/
theorem run_step {γ : Type} {statement : Statement S γ} {resume : γ → Txn S β}
    {inputs : Nat → S.Input} {state : S.State} {value : γ} {writes : List S.Write}
    (succeeded : statement.Succeeds (inputs 0) state value writes) :
    (step statement resume).run inputs state =
      ((resume value).run (fun index => inputs (index + 1)) (S.applyAll writes state)).map
        fun outcome => (outcome.1, writes ++ outcome.2) := by
  rw [run, succeeded]
  dsimp only
  cases (resume value).run (fun index => inputs (index + 1)) (S.applyAll writes state) <;> rfl

/-- A body that has made the writes `written` ends, if it does not commit, in an error as
in `post`. -/
def Aborts (supplied : S.Input → Prop) (post : S.Error → Prop) (base : S.State) :
    Txn S β → List S.Write → Prop
  | .done _, _ => ∀ input error, supplied input → S.fault input = some error → post error
  | .fail error, _ => post error
  | .step statement resume, written => ∀ input, supplied input →
      (∀ error, statement.exec input (S.applyAll written base) = .error error → post error) ∧
      ∀ value writes, statement.Succeeds input (S.applyAll written base) value writes →
        Aborts supplied post base (resume value) (written ++ writes)

variable {base : S.State} {written : List S.Write}

/-- A body that returns aborts by a fault at its end only. -/
@[simp] theorem aborts_pure (value : β) :
    (pure value : Txn S β).Aborts supplied post base written ↔
      ∀ input error, supplied input → S.fault input = some error → post error := Iff.rfl

/-- A body that fails aborts with its error. -/
@[simp] theorem aborts_fail (error : S.Error) :
    (fail error : Txn S β).Aborts supplied post base written ↔ post error := Iff.rfl

/-- A sequence aborts in its first part, or in its second after what the first has written. -/
theorem Aborts.bind {first : Txn S α} {next : α → Txn S β} {wrote : α → List S.Write → Prop}
    (aborts : first.Aborts supplied post base written)
    (yields : first.Yields wrote base written)
    (rest : ∀ value made, wrote value made → (next value).Aborts supplied post base made) :
    (first >>= next).Aborts supplied post base written := by
  change (first.bind next).Aborts supplied post base written
  induction first generalizing written with
  | done value => exact rest value written yields
  | fail error => exact aborts
  | step statement resume inductionHypothesis =>
      exact fun input given => ⟨(aborts input given).1, fun value writes executed =>
        inductionHypothesis _ ((aborts input given).2 value writes executed)
          (yields input value writes executed)⟩

/-- The first statement of a body fails, or the body goes on with its value. -/
theorem Aborts.step {statement : Statement S α} {next : α → Txn S β}
    (failed : ∀ input error, supplied input →
      statement.exec input (S.applyAll written base) = .error error → post error)
    (rest : ∀ input value writes, supplied input →
      statement.Succeeds input (S.applyAll written base) value writes →
        (next value).Aborts supplied post base (written ++ writes)) :
    (liftM statement >>= next).Aborts supplied post base written := fun input given =>
  ⟨fun error => failed input error given, fun value writes => rest input value writes given⟩

/-- A check that rejects aborts with its error; the rest has its condition fail. -/
theorem Aborts.rejectIf {condition : Prop} [Decidable condition] {error : S.Error}
    {next : Unit → Txn S β} (rejected : condition → post error)
    (rest : ¬condition → (next ()).Aborts supplied post base written) :
    (Txn.rejectIf condition error >>= next).Aborts supplied post base written := by
  rw [Txn.rejectIf]
  split
  · rename_i holds
    exact rejected holds
  · rename_i fails
    exact rest fails

/-- What is said of the aborts holds of every run that ends so. -/
theorem Aborts.of_run {body : Txn S β} {inputs : Nat → S.Input} {error : S.Error}
    (aborts : body.Aborts supplied post base written) (given : Each supplied inputs)
    (ran : body.run inputs (S.applyAll written base) = .error error) : post error := by
  induction body generalizing written inputs with
  | done result =>
      rw [run] at ran
      split at ran
      · rename_i refused
        cases ran
        exact aborts (inputs 0) _ (given 0) refused
      · cases ran
  | fail thrown =>
      cases ran
      exact aborts
  | step statement resume inductionHypothesis =>
      have step := aborts (inputs 0) (given 0)
      rw [run] at ran
      split at ran
      · rename_i thrown failed
        cases ran
        exact step.1 _ failed
      · rename_i value made executed
        rw [← S.applyAll_append] at ran
        split at ran
        · rename_i thrown restRan
          cases ran
          exact inductionHypothesis _ (step.2 _ _ executed) (fun index => given (index + 1)) restRan
        · cases ran

end Txn

namespace Proc

/-- See the head of this module. -/
def Runs (supplied : S.Input → Prop) : Proc S α → S.State → Except S.Error α → S.State → Prop
  | .done value, before, result, after => result = .ok value ∧ after = before
  | .fail error, before, result, after => result = .error error ∧ after = before
  | .call statement resume, before, result, after => ∃ input, supplied input ∧
      Runs supplied (resume (statement.result input before))
        (S.applyAll (statement.writes input before) before) result after
  | .transaction body resume, before, result, after => ∃ inputs, Each supplied inputs ∧
      Runs supplied (resume (body.result inputs before))
        (S.applyAll (body.writes inputs before) before) result after

variable {supplied : S.Input → Prop}

/-- A run is one of any environment that may supply more. -/
theorem Runs.mono {supplied' : S.Input → Prop} (more : ∀ input, supplied input → supplied' input)
    {process : Proc S α} {before after : S.State} {result : Except S.Error α}
    (runs : process.Runs supplied before result after) : process.Runs supplied' before result after := by
  induction process generalizing before with
  | done value => exact runs
  | fail error => exact runs
  | call statement resume inductionHypothesis =>
      obtain ⟨input, given, rest⟩ := runs
      exact ⟨input, more input given, inductionHypothesis _ rest⟩
  | transaction body resume inductionHypothesis =>
      obtain ⟨inputs, given, rest⟩ := runs
      exact ⟨inputs, fun index => more _ (given index), inductionHypothesis _ rest⟩

/-- A statement that succeeds, and what is run after it. -/
theorem run_lift_bind {statement : Statement S β} {next : β → Proc S α}
    {inputs : Nat → Nat → S.Input} {before : S.State} {value : β} {writes : List S.Write}
    (executed : statement.Succeeds (inputs 0 0) before value writes) :
    (liftM statement >>= next).run inputs before =
      (next value).run (fun step => inputs (step + 1)) (S.applyAll writes before) := by
  change ((ofExcept (statement.result (inputs 0 0) before)).bind next).run _
    (S.applyAll (statement.writes (inputs 0 0) before) before) = _
  rw [Statement.result, Statement.writes, executed]
  rfl

/-- The same in a process that handles its errors. -/
theorem run_tryCatch_lift_bind {statement : Statement S β} {next : β → Proc S α}
    {handler : S.Error → Proc S α} {inputs : Nat → Nat → S.Input} {before : S.State} {value : β}
    {writes : List S.Write} (executed : statement.Succeeds (inputs 0 0) before value writes) :
    (tryCatch (liftM statement >>= next) handler).run inputs before =
      (tryCatch (next value) handler).run (fun step => inputs (step + 1))
        (S.applyAll writes before) := by
  change (tryCatch ((ofExcept (statement.result (inputs 0 0) before)).bind next) handler).run _
    (S.applyAll (statement.writes (inputs 0 0) before) before) = _
  rw [Statement.result, Statement.writes, executed]
  rfl

/-- What `run` computes is a run. -/
theorem runs_run (process : Proc S α) (inputs : Nat → Nat → S.Input)
    (given : ∀ step, Each supplied (inputs step)) (before : S.State) :
    process.Runs supplied before (process.run inputs before).1 (process.run inputs before).2 := by
  induction process generalizing inputs before with
  | done value => exact ⟨rfl, rfl⟩
  | fail error => exact ⟨rfl, rfl⟩
  | call statement resume inductionHypothesis =>
      exact ⟨inputs 0 0, given 0 0, inductionHypothesis _ _ (fun step => given (step + 1)) _⟩
  | transaction body resume inductionHypothesis =>
      exact ⟨inputs 0, given 0, inductionHypothesis _ _ (fun step => given (step + 1)) _⟩

/-- Every run is computed, from inputs of its own. -/
theorem Runs.exists_run [Inhabited S.Input] {process : Proc S α} {before after : S.State}
    {result : Except S.Error α} (runs : process.Runs supplied before result after) :
    ∃ inputs, process.run inputs before = (result, after) := by
  induction process generalizing before with
  | done value =>
      obtain ⟨rfl, rfl⟩ := runs
      exact ⟨fun _ _ => default, rfl⟩
  | fail error =>
      obtain ⟨rfl, rfl⟩ := runs
      exact ⟨fun _ _ => default, rfl⟩
  | call statement resume inductionHypothesis =>
      obtain ⟨input, _, rest⟩ := runs
      obtain ⟨inputs, ran⟩ := inductionHypothesis _ rest
      let first : Nat → Nat → S.Input
        | 0, _ => input
        | step + 1, part => inputs step part
      exact ⟨first, ran⟩
  | transaction body resume inductionHypothesis =>
      obtain ⟨own, _, rest⟩ := runs
      obtain ⟨inputs, ran⟩ := inductionHypothesis _ rest
      let first : Nat → Nat → S.Input
        | 0, part => own part
        | step + 1, part => inputs step part
      exact ⟨first, ran⟩

variable {before after : S.State}

/-- Returning runs without a step. -/
@[simp] theorem runs_pure {value : α} {result : Except S.Error α} :
    (pure value : Proc S α).Runs supplied before result after ↔
      result = .ok value ∧ after = before :=
  Iff.rfl

/-- So does throwing. -/
@[simp] theorem runs_throw {error : S.Error} {result : Except S.Error α} :
    (throw error : Proc S α).Runs supplied before result after ↔
      result = .error error ∧ after = before :=
  Iff.rfl

/-- An answer that is given already is the outcome. -/
@[simp] theorem runs_ofExcept {outcome result : Except S.Error α} :
    (ofExcept outcome).Runs supplied before result after ↔ result = outcome ∧ after = before := by
  cases outcome <;> rfl

/-- A statement succeeds, or fails without effect. -/
theorem runs_lift {statement : Statement S α} {result : Except S.Error α} :
    (liftM statement : Proc S α).Runs supplied before result after ↔
      (∃ input value writes, supplied input ∧ statement.Succeeds input before value writes ∧
        result = .ok value ∧ after = S.applyAll writes before) ∨
      ∃ input error, supplied input ∧ statement.exec input before = .error error ∧
        result = .error error ∧ after = before := by
  change (∃ input, supplied input ∧ (ofExcept (statement.result input before)).Runs supplied
    (S.applyAll (statement.writes input before) before) result after) ↔ _
  simp only [runs_ofExcept, Statement.result, Statement.writes, Statement.Succeeds]
  constructor
  · rintro ⟨input, given, rfl, rfl⟩
    cases executed : statement.exec input before with
    | ok outcome => exact .inl ⟨input, outcome.1, outcome.2, given, executed, rfl, rfl⟩
    | error error => exact .inr ⟨input, error, given, executed, rfl, rfl⟩
  · rintro (⟨input, value, writes, given, executed, rfl, rfl⟩ |
      ⟨input, error, given, executed, rfl, rfl⟩)
    · exact ⟨input, given, by simp [executed, Except.map]⟩
    · exact ⟨input, given, by simp [executed, Except.map]⟩

/-- A transaction commits as a whole, or is rolled back. -/
theorem runs_transact {body : Txn S α} {result : Except S.Error α} :
    (transact body).Runs supplied before result after ↔
      (∃ inputs value writes, Each supplied inputs ∧
        body.run inputs before = .ok (value, writes) ∧ result = .ok value ∧
        after = S.applyAll writes before) ∨
      ∃ inputs error, Each supplied inputs ∧
        body.run inputs before = .error error ∧ result = .error error ∧ after = before := by
  change (∃ inputs, Each supplied inputs ∧
    (ofExcept (body.result inputs before)).Runs supplied _ result after) ↔ _
  simp only [runs_ofExcept, Txn.result, Txn.writes]
  constructor
  · rintro ⟨inputs, given, rfl, rfl⟩
    cases ran : body.run inputs before with
    | ok outcome => exact .inl ⟨inputs, outcome.1, outcome.2, given, ran, rfl, rfl⟩
    | error error => exact .inr ⟨inputs, error, given, ran, rfl, rfl⟩
  · rintro (⟨inputs, value, writes, given, ran, rfl, rfl⟩ | ⟨inputs, error, given, ran, rfl, rfl⟩)
    · exact ⟨inputs, given, by rw [ran]; exact ⟨rfl, rfl⟩⟩
    · exact ⟨inputs, given, by rw [ran]; exact ⟨rfl, rfl⟩⟩

/-- A sequence runs its first part, and the second part if that returns. -/
theorem runs_bind {first : Proc S β} {next : β → Proc S α} {result : Except S.Error α} :
    (first >>= next).Runs supplied before result after ↔
      (∃ value middle, first.Runs supplied before (.ok value) middle ∧
        (next value).Runs supplied middle result after) ∨
      ∃ error, first.Runs supplied before (.error error) after ∧ result = .error error := by
  change (first.bind next).Runs supplied before result after ↔ _
  induction first generalizing before with
  | done value => simp [bind, Runs]
  | fail error => simp [bind, Runs, and_comm]
  | call statement resume inductionHypothesis =>
      simp only [bind, Runs, inductionHypothesis]
      grind
  | transaction body resume inductionHypothesis =>
      simp only [bind, Runs, inductionHypothesis]
      grind

/-- A statement that reads the same value whatever it is supplied with. -/
theorem runs_lift_of_reads {statement : Statement S α} {value : α} {result : Except S.Error α}
    (given : ∃ input, supplied input)
    (reads : ∀ input, supplied input → statement.Succeeds input before value []) :
    (liftM statement : Proc S α).Runs supplied before result after ↔
      result = .ok value ∧ after = before := by
  rw [runs_lift]
  constructor
  · rintro (⟨input, other, writes, suits, succeeds, rfl, rfl⟩ | ⟨input, error, suits, fails, _⟩)
    · cases (reads input suits).symm.trans succeeds
      exact ⟨rfl, rfl⟩
    · cases (reads input suits).symm.trans fails
  · rintro ⟨rfl, rfl⟩
    obtain ⟨input, suits⟩ := given
    exact .inl ⟨input, value, [], suits, reads input suits, rfl, rfl⟩

/-- After a first part that has one end, the second part goes on from there. -/
theorem runs_bind_of_only {first : Proc S β} {next : β → Proc S α} {value : β} {middle : S.State}
    {result : Except S.Error α}
    (only : ∀ {outcome : Except S.Error β} {left : S.State},
      first.Runs supplied before outcome left ↔ outcome = .ok value ∧ left = middle) :
    (first >>= next).Runs supplied before result after ↔
      (next value).Runs supplied middle result after := by
  rw [runs_bind]
  constructor
  · rintro (⟨inner, left, ran, rest⟩ | ⟨error, failed, _⟩)
    · obtain ⟨same, rfl⟩ := only.mp ran
      exact Except.ok.inj same ▸ rest
    · cases (only.mp failed).1
  · intro rest
    exact .inl ⟨value, middle, only.mpr ⟨rfl, rfl⟩, rest⟩

/-- The handler runs on what the protected part has left. -/
theorem runs_tryCatch {process : Proc S α} {handler : S.Error → Proc S α}
    {result : Except S.Error α} :
    (tryCatch process handler).Runs supplied before result after ↔
      (∃ value, process.Runs supplied before (.ok value) after ∧ result = .ok value) ∨
      ∃ error middle, process.Runs supplied before (.error error) middle ∧
        (handler error).Runs supplied middle result after := by
  induction process generalizing before with
  | done value => simp [tryCatch, Runs, and_comm]
  | fail error => simp [tryCatch, Runs]
  | call statement resume inductionHypothesis =>
      simp only [tryCatch, Runs, inductionHypothesis]
      grind
  | transaction body resume inductionHypothesis =>
      simp only [tryCatch, Runs, inductionHypothesis]
      grind

/-! ## Runs that return -/

/-- The process, run alone, may return the value and leave the store so. -/
def Returns (supplied : S.Input → Prop) (process : Proc S α) (before : S.State) (value : α)
    (after : S.State) : Prop :=
  process.Runs supplied before (.ok value) after

/-- Returning returns its value and leaves the state. -/
@[simp] theorem returns_pure {value result : α} :
    (pure value : Proc S α).Returns supplied before result after ↔
      result = value ∧ after = before := by
  rw [Returns, runs_pure, Except.ok.injEq]

/-- What throws does not return. -/
@[simp] theorem returns_throw {error : S.Error} {result : α} :
    ¬(throw error : Proc S α).Returns supplied before result after := by
  rw [Returns, runs_throw]
  rintro ⟨impossible, _⟩
  cases impossible

/-- An answer that is given returns if it is a value. -/
@[simp] theorem returns_ofExcept {outcome : Except S.Error α} {value : α} :
    (ofExcept outcome).Returns supplied before value after ↔
      outcome = .ok value ∧ after = before := by
  rw [Returns, runs_ofExcept, eq_comm]

/-- A run that returns a value has returned one from its first part. -/
theorem returns_bind {first : Proc S β} {next : β → Proc S α} {value : α} :
    (first >>= next).Returns supplied before value after ↔
      ∃ inner middle, first.Returns supplied before inner middle ∧
        (next inner).Returns supplied middle value after := by
  simp [Returns, runs_bind]

/-- An image is returned if what it is the image of is. -/
theorem returns_map {process : Proc S β} {function : β → α} {value : α} :
    (function <$> process).Returns supplied before value after ↔
      ∃ inner, process.Returns supplied before inner after ∧ value = function inner := by
  change (process >>= fun inner => pure (function inner)).Returns supplied before value after ↔ _
  simp only [returns_bind, returns_pure]
  constructor
  · rintro ⟨inner, middle, ran, rfl, rfl⟩
    exact ⟨inner, ran, rfl⟩
  · rintro ⟨inner, ran, rfl⟩
    exact ⟨inner, after, ran, rfl, rfl⟩

/-- A statement returns if it succeeds with some input that is supplied. -/
theorem returns_lift {statement : Statement S α} {value : α} :
    (liftM statement : Proc S α).Returns supplied before value after ↔
      ∃ input writes, supplied input ∧ statement.Succeeds input before value writes ∧
        after = S.applyAll writes before := by
  simp [Returns, runs_lift]

/-- A transaction returns if its body does with some inputs that are supplied. -/
theorem returns_transact {body : Txn S α} {value : α} :
    (transact body).Returns supplied before value after ↔ ∃ inputs writes,
      Each supplied inputs ∧ body.run inputs before = .ok (value, writes) ∧
        after = S.applyAll writes before := by
  simp [Returns, runs_transact]

/-- A check returns exactly if its condition fails. -/
theorem returns_rejectIf {condition : Prop} [Decidable condition] {error : S.Error}
    {answer : Unit} :
    (rejectIf condition error).Returns supplied before answer after ↔
      ¬condition ∧ after = before := by
  rw [Returns, rejectIf]
  split
  · rename_i holds
    simp [Runs, holds]
  · rename_i fails
    simp [Runs, fails]

/-- Asking for a value returns the one that is there. -/
theorem returns_require {found : Option α} {error : S.Error} {value : α} :
    (require found error).Returns supplied before value after ↔
      found = some value ∧ after = before := by
  cases found with
  | none => simp [Returns, require, Runs]
  | some other => simp [Returns, require, Runs, eq_comm]

/-- A first part that leaves the store hands on its value only. -/
theorem returns_bind_of_quiet {first : Proc S β} {next : β → Proc S α} {value : α}
    {Answers : β → Prop}
    (quiet : ∀ {inner middle}, first.Returns supplied before inner middle ↔
      Answers inner ∧ middle = before) :
    (first >>= next).Returns supplied before value after ↔
      ∃ inner, Answers inner ∧ (next inner).Returns supplied before value after := by
  rw [returns_bind]
  constructor
  · rintro ⟨inner, _, ran, rest⟩
    obtain ⟨answers, rfl⟩ := quiet.mp ran
    exact ⟨inner, answers, rest⟩
  · rintro ⟨inner, answers, rest⟩
    exact ⟨inner, before, quiet.mpr ⟨answers, rfl⟩, rest⟩

/-- After a check the rest runs, if the condition fails. -/
theorem returns_rejectIf_bind {condition : Prop} [Decidable condition] {error : S.Error}
    {next : Unit → Proc S α} {value : α} :
    (rejectIf condition error >>= next).Returns supplied before value after ↔
      ¬condition ∧ (next ()).Returns supplied before value after := by
  rw [returns_bind_of_quiet returns_rejectIf]
  exact ⟨fun ⟨_, passed⟩ => passed, fun passed => ⟨(), passed⟩⟩

/-- After a value was asked for, the rest runs with it. -/
theorem returns_require_bind {found : Option β} {error : S.Error} {next : β → Proc S α}
    {value : α} :
    (require found error >>= next).Returns supplied before value after ↔
      ∃ record, found = some record ∧ (next record).Returns supplied before value after :=
  returns_bind_of_quiet returns_require

/-- With one input for every call there is one run. -/
theorem runs_iff_run {process : Proc S α} {input : S.Input} {result : Except S.Error α} :
    process.Runs (· = input) before result after ↔
      process.run (fun _ _ => input) before = (result, after) := by
  induction process generalizing before with
  | done value => simp [Runs, run, eq_comm]
  | fail error => simp [Runs, run, eq_comm]
  | call statement resume inductionHypothesis =>
      simp only [Runs, exists_eq_left, inductionHypothesis, run]
  | transaction body resume inductionHypothesis =>
      have same : ∀ inputs : Nat → S.Input, Each (· = input) inputs ↔ inputs = fun _ => input :=
        fun inputs => funext_iff.symm
      simp only [Runs, same, exists_eq_left, inductionHypothesis, run]

/-! ## Runs that throw -/

/-- The process, run alone, may throw the error and leave the store so. -/
def Throws (supplied : S.Input → Prop) (process : Proc S α) (before : S.State) (error : S.Error)
    (after : S.State) : Prop :=
  process.Runs supplied before (.error error) after

variable {error : S.Error}

/-- What returns does not throw. -/
@[simp] theorem throws_pure {value : α} :
    ¬(pure value : Proc S α).Throws supplied before error after := by
  rw [Throws, runs_pure]
  rintro ⟨impossible, _⟩
  cases impossible

/-- What throws leaves the state. -/
@[simp] theorem throws_throw {thrown : S.Error} :
    (throw thrown : Proc S α).Throws supplied before error after ↔
      error = thrown ∧ after = before := by
  rw [Throws, runs_throw, Except.error.injEq]

/-- A sequence throws what its first part throws, or its second part after that. -/
theorem throws_bind {first : Proc S β} {next : β → Proc S α} :
    (first >>= next).Throws supplied before error after ↔
      first.Throws supplied before error after ∨ ∃ inner middle,
        first.Returns supplied before inner middle ∧
          (next inner).Throws supplied middle error after := by
  simp [Throws, Returns, runs_bind, or_comm]

/-- An image throws what it is the image of throws. -/
theorem throws_map {process : Proc S β} {function : β → α} :
    (function <$> process).Throws supplied before error after ↔
      process.Throws supplied before error after := by
  change (process >>= fun inner => pure (function inner)).Throws supplied before error after ↔ _
  simp [throws_bind]

/-- A statement throws what it throws with some input that is supplied, and writes nothing. -/
theorem throws_lift {statement : Statement S α} :
    (liftM statement : Proc S α).Throws supplied before error after ↔
      ∃ input, supplied input ∧ statement.exec input before = .error error ∧ after = before := by
  simp [Throws, runs_lift]

/-- A transaction that throws leaves no write behind. -/
theorem throws_transact {body : Txn S α} :
    (transact body).Throws supplied before error after ↔ ∃ inputs, Each supplied inputs ∧
      body.run inputs before = .error error ∧ after = before := by
  simp [Throws, runs_transact]

/-- A check throws exactly if its condition holds. -/
theorem throws_rejectIf {condition : Prop} [Decidable condition] {thrown : S.Error} :
    (rejectIf condition thrown).Throws supplied before error after ↔
      condition ∧ error = thrown ∧ after = before := by
  rw [Throws, rejectIf]
  split
  · rename_i holds
    simp [Runs, holds]
  · rename_i fails
    simp [Runs, fails]

/-- Asking for a value throws exactly if there is none. -/
theorem throws_require {found : Option α} {thrown : S.Error} :
    (require found thrown).Throws supplied before error after ↔
      found = none ∧ error = thrown ∧ after = before := by
  cases found with
  | none => simp [Throws, require, Runs]
  | some other => simp [Throws, require, Runs]

/-- A handled process returns what it returns itself, or what the handler returns. -/
theorem returns_tryCatch {process : Proc S α} {handler : S.Error → Proc S α} {value : α} :
    (tryCatch process handler).Returns supplied before value after ↔
      process.Returns supplied before value after ∨ ∃ error middle,
        process.Throws supplied before error middle ∧
          (handler error).Returns supplied middle value after := by
  simp [Returns, Throws, runs_tryCatch]

/-- A handled process throws only what the handler throws. -/
theorem throws_tryCatch {process : Proc S α} {handler : S.Error → Proc S α} :
    (tryCatch process handler).Throws supplied before error after ↔ ∃ thrown middle,
      process.Throws supplied before thrown middle ∧
        (handler thrown).Throws supplied middle error after := by
  simp [Throws, runs_tryCatch]

/-- A process comes to an end. -/
theorem runs_total (process : Proc S α) (given : ∃ input, supplied input) (before : S.State) :
    ∃ result after, process.Runs supplied before result after := by
  obtain ⟨input, suited⟩ := given
  exact ⟨_, _, process.runs_run (fun _ _ => input) (fun _ _ => suited) before⟩

/-- What no write undoes, no run undoes. -/
theorem Runs.keeps {process : Proc S α} {result : Except S.Error α} (holds : S.State → Prop)
    (kept : ∀ write state, holds state → holds (S.apply write state))
    (runs : process.Runs supplied before result after) (initially : holds before) : holds after := by
  have all : ∀ (writes : List S.Write) state, holds state → holds (S.applyAll writes state) := by
    intro writes
    induction writes with
    | nil => exact fun _ holdsNow => holdsNow
    | cons write writes inductionHypothesis =>
        exact fun state holdsNow => inductionHypothesis _ (kept write state holdsNow)
  induction process generalizing before with
  | done value =>
      obtain ⟨_, rfl⟩ := runs
      exact initially
  | fail error =>
      obtain ⟨_, rfl⟩ := runs
      exact initially
  | call statement resume inductionHypothesis =>
      obtain ⟨input, _, rest⟩ := runs
      exact inductionHypothesis _ rest (all _ _ initially)
  | transaction body resume inductionHypothesis =>
      obtain ⟨inputs, _, rest⟩ := runs
      exact inductionHypothesis _ rest (all _ _ initially)

/-- A run of a process is a run of the pool that it makes up by itself. -/
theorem Runs.steps {process : Proc S α} {result : Except S.Error α}
    (runs : process.Runs supplied before result after) :
    ∃ trace ended, (⟨before, [process]⟩ : Pool S α).Steps trace ⟨after, [ended]⟩ := by
  induction process generalizing before with
  | done value =>
      obtain ⟨_, rfl⟩ := runs
      exact ⟨[], _, .refl⟩
  | fail error =>
      obtain ⟨_, rfl⟩ := runs
      exact ⟨[], _, .refl⟩
  | call statement resume inductionHypothesis =>
      obtain ⟨input, _, rest⟩ := runs
      obtain ⟨trace, ended, steps⟩ := inductionHypothesis _ rest
      have start : (⟨before, [call statement resume]⟩ : Pool S α).Steps [] _ := .refl
      have first := start.step (show [call statement resume][0]? = some _ from rfl)
        (show (call statement resume).advance (fun _ => input) before = some _ from rfl)
      exact ⟨_, ended, first.trans steps⟩
  | transaction body resume inductionHypothesis =>
      obtain ⟨inputs, _, rest⟩ := runs
      obtain ⟨trace, ended, steps⟩ := inductionHypothesis _ rest
      have start : (⟨before, [transaction body resume]⟩ : Pool S α).Steps [] _ := .refl
      have first := start.step (show [transaction body resume][0]? = some _ from rfl)
        (show (transaction body resume).advance inputs before = some _ from rfl)
      exact ⟨_, ended, first.trans steps⟩

/-! ## Contracts of processes that run alone -/

variable {rely : S.State → S.State → Prop} {guar : List S.Write → S.State → Prop}
  {post : Except S.Error α → S.State → Prop}

/-- A process alone meets the contracts that it meets among others. -/
theorem Meets.of_runs {process : Proc S α} {result : Except S.Error α}
    (met : process.Meets (.atomic rely guar) post before) (idle : ∀ state, rely state state)
    (runs : process.Runs supplied before result after) : post result after := by
  induction process generalizing before with
  | done value =>
      obtain ⟨rfl, rfl⟩ := runs
      exact met
  | fail error =>
      obtain ⟨rfl, rfl⟩ := runs
      exact met
  | call statement resume inductionHypothesis =>
      obtain ⟨input, _, rest⟩ := runs
      exact inductionHypothesis _ (met before (idle before) input).2 rest
  | transaction body resume inductionHypothesis =>
      obtain ⟨inputs, _, rest⟩ := runs
      exact inductionHypothesis _ (met before (idle before) inputs).2 rest

/-- What all runs of a process alone end in is a postcondition of its contracts. -/
theorem Meets.of_all_runs {process : Proc S α}
    (met : process.Meets (.atomic Eq guar) (fun _ _ => True) before)
    (all : ∀ result after, process.Runs (fun _ => True) before result after → post result after) :
    process.Meets (.atomic Eq guar) post before := by
  induction process generalizing before with
  | done value => exact all _ _ ⟨rfl, rfl⟩
  | fail error => exact all _ _ ⟨rfl, rfl⟩
  | call statement resume inductionHypothesis =>
      rintro next rfl input
      obtain ⟨allowed, rest⟩ := met before rfl input
      exact ⟨allowed, inductionHypothesis _ rest fun result after runs =>
        all result after ⟨input, trivial, runs⟩⟩
  | transaction body resume inductionHypothesis =>
      rintro next rfl inputs
      obtain ⟨allowed, rest⟩ := met before rfl inputs
      exact ⟨allowed, inductionHypothesis _ rest fun result after runs =>
        all result after ⟨inputs, fun _ => trivial, runs⟩⟩

/-- A predicate of the store that every allowed commit keeps is kept by a run. -/
theorem Commits.of_runs {process : Proc S α} {result : Except S.Error α}
    (commits : process.Commits (.atomic rely guar)) (idle : ∀ state, rely state state)
    (holds : S.State → Prop)
    (kept : ∀ writes state, guar writes state → holds state → holds (S.applyAll writes state))
    (runs : process.Runs supplied before result after) (initially : holds before) :
    holds after := by
  have met := commits before
  clear commits
  induction process generalizing before with
  | done value =>
      obtain ⟨_, rfl⟩ := runs
      exact initially
  | fail error =>
      obtain ⟨_, rfl⟩ := runs
      exact initially
  | call statement resume inductionHypothesis =>
      obtain ⟨input, _, rest⟩ := runs
      obtain ⟨allowed, continued⟩ := met before (idle before) input
      exact inductionHypothesis _ rest (kept _ _ allowed initially) continued
  | transaction body resume inductionHypothesis =>
      obtain ⟨inputs, _, rest⟩ := runs
      obtain ⟨allowed, continued⟩ := met before (idle before) inputs
      exact inductionHypothesis _ rest (kept _ _ allowed initially) continued

end Proc

/-- In a pool of one process every commit is as the process's contract allows. -/
theorem Pool.Steps.alone {process : Proc S α} {start : S.State} {trace : List (Commit S)}
    {final : Pool S α} {guar : List S.Write → S.State → Prop}
    {post : Except S.Error α → S.State → Prop}
    (steps : (⟨start, [process]⟩ : Pool S α).Steps trace final)
    (met : process.Meets (.atomic Eq guar) post start) :
    (∃ rest, final.procs = [rest] ∧ rest.Meets (.atomic Eq guar) post final.state) ∧
      ∀ commit ∈ trace, guar commit.writes commit.before := by
  induction steps with
  | refl => exact ⟨⟨process, rfl, met⟩, by simp⟩
  | @step trace pool thread inputs current next writes prior enabled advanced ih =>
      obtain ⟨⟨rest, only, metNow⟩, earlier⟩ := ih
      rw [only] at enabled
      obtain ⟨rfl, rfl⟩ : thread = 0 ∧ current = rest := by
        cases thread with
        | zero => exact ⟨rfl, (Option.some.inj enabled).symm⟩
        | succ thread => cases enabled
      obtain ⟨allowed, metNext⟩ := metNow.advance rfl advanced
      refine ⟨⟨next, by rw [only]; rfl, metNext⟩, fun commit member => ?_⟩
      rcases List.mem_append.mp member with before | last
      · exact earlier commit before
      · rw [List.mem_singleton.mp last]
        exact allowed

end Armada.Concurrency
