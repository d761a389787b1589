import Armada.Concurrency.Sequential

/-!
# Results among other processes

`Proc.MayEnd process result` says that the process may end with the result if each of its
steps may find any store. So it holds of the result of a process in every run of a pool,
whatever the other processes commit between its steps, and of the result of a process that
runs alone.
-/

namespace Armada.Concurrency

variable {S : Signature} {α β : Type}

namespace Proc

/-- See the head of this module. -/
def MayEnd : Proc S α → Except S.Error α → Prop
  | .done value, result => result = .ok value
  | .fail error, result => result = .error error
  | .call statement resume, result =>
      ∃ input state, MayEnd (resume (statement.result input state)) result
  | .transaction body resume, result =>
      ∃ inputs state, MayEnd (resume (body.result inputs state)) result

variable {result : Except S.Error α} {value : α} {error : S.Error}

/-- A process that returns ends with its value alone. -/
@[simp] theorem mayEnd_pure : (pure value : Proc S α).MayEnd result ↔ result = .ok value := Iff.rfl

/-- A process that throws ends with its error alone. -/
@[simp] theorem mayEnd_throw : (throw error : Proc S α).MayEnd result ↔ result = .error error :=
  Iff.rfl

/-- A sequence ends as its second part may, or with an error of its first. -/
theorem mayEnd_bind {first : Proc S β} {next : β → Proc S α} :
    (first >>= next).MayEnd result ↔
      (∃ inner, first.MayEnd (.ok inner) ∧ (next inner).MayEnd result) ∨
        ∃ thrown, first.MayEnd (.error thrown) ∧ result = .error thrown := by
  change (first.bind next).MayEnd result ↔ _
  induction first with
  | done inner => simp [bind, MayEnd]
  | fail thrown => simp [bind, MayEnd]
  | call statement resume inductionHypothesis =>
      simp only [bind, MayEnd, inductionHypothesis]
      grind
  | transaction body resume inductionHypothesis =>
      simp only [bind, MayEnd, inductionHypothesis]
      grind

/-- A sequence returns what its second part returns, after a first part that returns. -/
theorem mayEnd_bind_ok {first : Proc S β} {next : β → Proc S α} :
    (first >>= next).MayEnd (.ok value) ↔
      ∃ inner, first.MayEnd (.ok inner) ∧ (next inner).MayEnd (.ok value) := by
  simp [mayEnd_bind]

/-- A statement ends with what some input and some state make of it. -/
theorem mayEnd_lift {statement : Statement S α} :
    (liftM statement : Proc S α).MayEnd result ↔
      ∃ input state, statement.result input state = result := by
  change (∃ input state, (ofExcept (statement.result input state)).MayEnd result) ↔ _
  refine exists_congr fun input => exists_congr fun state => ?_
  cases statement.result input state with
  | ok answer => exact eq_comm
  | error thrown => exact eq_comm

/-- A check passes exactly if its condition fails. -/
theorem mayEnd_rejectIf_ok {condition : Prop} [Decidable condition] {answer : Unit} :
    (rejectIf condition error).MayEnd (.ok answer) ↔ ¬condition := by
  rw [rejectIf]
  split
  · rename_i holds
    simp [MayEnd, holds]
  · rename_i fails
    simp [MayEnd, fails]

/-- Asking for a value yields the one that is there. -/
theorem mayEnd_require_ok {found : Option α} :
    (require found error).MayEnd (.ok value) ↔ found = some value := by
  cases found with
  | none => simp [require, MayEnd]
  | some other => simp [require, MayEnd, eq_comm]

/-- An error that is caught is a value. -/
theorem mayEnd_attempt {process : Proc S α} {outcome : Except S.Error α} :
    (tryCatch (Except.ok <$> process) fun thrown => return .error thrown : Proc S _).MayEnd
      (.ok outcome) ↔ process.MayEnd outcome := by
  change ((process.bind fun inner => pure (Except.ok inner)).tryCatch fun thrown =>
    pure (Except.error thrown)).MayEnd (.ok outcome) ↔ _
  induction process with
  | done inner => simp [bind, tryCatch, pure, MayEnd]
  | fail thrown => simp [bind, tryCatch, pure, MayEnd]
  | call statement resume inductionHypothesis =>
      simp only [bind, tryCatch, MayEnd, inductionHypothesis]
  | transaction body resume inductionHypothesis =>
      simp only [bind, tryCatch, MayEnd, inductionHypothesis]

/-- A process may end as it does when it runs alone. -/
theorem Runs.mayEnd {supplied : S.Input → Prop} {process : Proc S α} {before after : S.State}
    (runs : process.Runs supplied before result after) : process.MayEnd result := by
  induction process generalizing before with
  | done inner => exact runs.1
  | fail thrown => exact runs.1
  | call statement resume inductionHypothesis =>
      obtain ⟨input, _, rest⟩ := runs
      exact ⟨input, before, inductionHypothesis _ rest⟩
  | transaction body resume inductionHypothesis =>
      obtain ⟨inputs, _, rest⟩ := runs
      exact ⟨inputs, before, inductionHypothesis _ rest⟩

/-- A process may end as what remains of it after a step. -/
theorem mayEnd_of_advance {process next : Proc S α} {inputs : Nat → S.Input} {state : S.State}
    {writes : List S.Write} (advanced : process.advance inputs state = some (writes, next))
    (ends : next.MayEnd result) : process.MayEnd result := by
  cases process with
  | done inner => cases advanced
  | fail thrown => cases advanced
  | call statement resume =>
      cases advanced
      exact ⟨inputs 0, state, ends⟩
  | transaction body resume =>
      cases advanced
      exact ⟨inputs, state, ends⟩

end Proc

/-- A process may end as it does in a run of a pool. -/
theorem Pool.Steps.mayEnd {start final : Pool S α} {trace : List (Commit S)}
    (steps : start.Steps trace final) {thread : Nat} {current : Proc S α}
    (found : final.procs[thread]? = some current) {result : Except S.Error α}
    (ends : current.MayEnd result) :
    ∃ process, start.procs[thread]? = some process ∧ process.MayEnd result := by
  induction steps generalizing current with
  | refl => exact ⟨current, found, ends⟩
  | step prior enabled advanced inductionHypothesis =>
      rcases eq_or_of_set enabled found with ⟨rfl, rfl⟩ | ⟨_, earlier⟩
      · exact inductionHypothesis enabled (Proc.mayEnd_of_advance advanced ends)
      · exact inductionHypothesis earlier ends

end Armada.Concurrency
