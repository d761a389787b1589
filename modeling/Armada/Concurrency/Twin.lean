import Armada.Concurrency.Process

/-!
# Two runs of one process

`Proc.Twin post process left right` says that the process, continuing from two states with
the same inputs, gets the same answer from every call, so that both runs take the same path
and end with one result. The postcondition is about that result and the two states at the
end. This is how noninterference of a request is shown: the states differ only in what the
request must not depend on.
-/

namespace Armada.Concurrency

variable {S : Signature} {α β : Type}

namespace Proc

/-- See the head of this module. -/
def Twin (post : Except S.Error α → S.State → S.State → Prop) :
    Proc S α → S.State → S.State → Prop
  | .done value, left, right => post (.ok value) left right
  | .fail error, left, right => post (.error error) left right
  | .call statement resume, left, right => ∀ input,
      statement.result input left = statement.result input right ∧
        (resume (statement.result input left)).Twin post
          (S.applyAll (statement.writes input left) left)
          (S.applyAll (statement.writes input right) right)
  | .transaction body resume, left, right => ∀ inputs,
      body.result inputs left = body.result inputs right ∧
        (resume (body.result inputs left)).Twin post
          (S.applyAll (body.writes inputs left) left)
          (S.applyAll (body.writes inputs right) right)

variable {post : Except S.Error α → S.State → S.State → Prop} {left right : S.State}

/-- The two runs have one result, which meets the postcondition. -/
theorem Twin.run {process : Proc S α} (twin : process.Twin post left right)
    (inputs : Nat → Nat → S.Input) :
    (process.run inputs left).1 = (process.run inputs right).1 ∧
      post (process.run inputs left).1 (process.run inputs left).2
        (process.run inputs right).2 := by
  induction process generalizing left right inputs with
  | done value => exact ⟨rfl, twin⟩
  | fail error => exact ⟨rfl, twin⟩
  | call statement resume inductionHypothesis =>
      obtain ⟨same, onwards⟩ := twin (inputs 0 0)
      simp only [Proc.run]
      rw [← same]
      exact inductionHypothesis _ onwards _
  | transaction body resume inductionHypothesis =>
      obtain ⟨same, onwards⟩ := twin (inputs 0)
      simp only [Proc.run]
      rw [← same]
      exact inductionHypothesis _ onwards _

/-- Returning ends the same in both states. -/
@[simp] theorem twin_pure (value : α) :
    (pure value : Proc S α).Twin post left right ↔ post (.ok value) left right := Iff.rfl

/-- So does an answer that is given. -/
@[simp] theorem twin_ofExcept (result : Except S.Error α) :
    (ofExcept result).Twin post left right ↔ post result left right := by
  cases result <;> rfl

/-- A check decides the same in both states. -/
@[simp] theorem twin_rejectIf {condition : Prop} [Decidable condition] {error : S.Error}
    {post : Except S.Error Unit → S.State → S.State → Prop} :
    (rejectIf condition error).Twin post left right ↔
      (condition → post (.error error) left right) ∧
        (¬condition → post (.ok ()) left right) := by
  rw [rejectIf]
  by_cases holds : condition
  · simp [holds, Twin]
  · simp [holds, Twin]

/-- So does asking for a value that is given. -/
@[simp] theorem twin_require {value : Option α} {error : S.Error} :
    (require value error).Twin post left right ↔
      (value = none → post (.error error) left right) ∧
        ∀ found, value = some found → post (.ok found) left right := by
  cases value with
  | none => simp [require, Twin]
  | some value => simp [require, Twin]

/-- A sequence is related by what its second part requires of the first. -/
@[simp] theorem twin_bind (first : Proc S β) (next : β → Proc S α) :
    (first >>= next).Twin post left right ↔
      first.Twin (fun result left right =>
        match result with
        | .ok value => (next value).Twin post left right
        | .error error => post (.error error) left right) left right := by
  change (first.bind next).Twin post left right ↔ _
  induction first generalizing left right with
  | done value => rfl
  | fail error => rfl
  | call statement resume inductionHypothesis =>
      exact forall_congr' fun input => and_congr_right fun _ => inductionHypothesis _
  | transaction body resume inductionHypothesis =>
      exact forall_congr' fun inputs => and_congr_right fun _ => inductionHypothesis _

/-- A postcondition may be weakened. -/
theorem Twin.weaken {post' : Except S.Error α → S.State → S.State → Prop} {process : Proc S α}
    (twin : process.Twin post left right)
    (implies : ∀ result left right, post result left right → post' result left right) :
    process.Twin post' left right := by
  induction process generalizing left right with
  | done value => exact implies _ _ _ twin
  | fail error => exact implies _ _ _ twin
  | call statement resume inductionHypothesis =>
      exact fun input => ⟨(twin input).1, inductionHypothesis _ (twin input).2⟩
  | transaction body resume inductionHypothesis =>
      exact fun inputs => ⟨(twin inputs).1, inductionHypothesis _ (twin inputs).2⟩

/-- A statement has to answer the same in both states. -/
@[simp] theorem twin_lift (statement : Statement S α) :
    (liftM statement : Proc S α).Twin post left right ↔ ∀ input,
      statement.result input left = statement.result input right ∧
        post (statement.result input left)
          (S.applyAll (statement.writes input left) left)
          (S.applyAll (statement.writes input right) right) := by
  change (∀ input, _ ∧ (ofExcept (statement.result input left)).Twin post _ _) ↔ _
  exact forall_congr' fun input => and_congr_right fun _ => twin_ofExcept _

/-! ## Processes that only read -/

/-- The process reads the same from two states, which it does not change, and what it returns
is as stated. -/
def Alike (known : α → Prop) (left right : S.State) (process : Proc S α) : Prop :=
  process.Twin (fun result left' right' =>
    left' = left ∧ right' = right ∧ ∀ value, result = .ok value → known value) left right

namespace Alike

variable {known : α → Prop}

/-- Processes that run alike give the same answer. -/
theorem run {process : Proc S α} (alike : process.Alike known left right)
    (inputs : Nat → Nat → S.Input) :
    (process.run inputs left).1 = (process.run inputs right).1 :=
  (Twin.run alike inputs).1

/-- Returning is alike. -/
theorem pure {value : α} (holds : known value) :
    (Pure.pure value : Proc S α).Alike known left right :=
  ⟨rfl, rfl, fun _ same => Except.ok.inj same ▸ holds⟩

/-- A sequence is alike if its parts are, with answers that are known. -/
theorem bind {held : β → Prop} {first : Proc S β} {next : β → Proc S α}
    (alike : first.Alike held left right)
    (others : ∀ value, held value → (next value).Alike known left right) :
    (first >>= next).Alike known left right := by
  refine (twin_bind first next).mpr (alike.weaken fun result left' right' ends => ?_)
  obtain ⟨rfl, rfl, holds⟩ := ends
  cases result with
  | ok value => exact others value (holds value rfl)
  | error error => exact ⟨rfl, rfl, nofun⟩

/-- An image is alike if what it is the image of is. -/
theorem map {held : β → Prop} {process : Proc S β} {function : β → α}
    (alike : process.Alike held left right) (holds : ∀ value, held value → known (function value)) :
    (function <$> process).Alike known left right :=
  alike.bind fun value here => pure (holds value here)

/-- A check is alike, and its condition is known to fail. -/
theorem rejectIf (condition : Prop) [Decidable condition] (error : S.Error) :
    (Proc.rejectIf condition error).Alike (fun _ => ¬condition) left right :=
  twin_rejectIf.mpr ⟨fun _ => ⟨rfl, rfl, nofun⟩, fun passed => ⟨rfl, rfl, fun _ _ => passed⟩⟩

/-- A value that is asked for is alike, and known. -/
theorem require (value : Option α) (error : S.Error) :
    (Proc.require value error).Alike (fun found => value = some found) left right := by
  refine twin_require.mpr ⟨fun _ => ⟨rfl, rfl, nofun⟩, fun found some => ⟨rfl, rfl, ?_⟩⟩
  intro value same
  rw [some, Except.ok.inj same]

/-- A call that reads the same from both states and writes nothing. -/
theorem statement {statement : Statement S α}
    (same : ∀ input, statement.exec input left = statement.exec input right)
    (reads : ∀ input value writes, statement.Succeeds input left value writes →
      writes = [] ∧ known value) : (liftM statement : Proc S α).Alike known left right := by
  refine (twin_lift statement).mpr fun input => ?_
  have results : statement.result input right = statement.result input left := by
    rw [Statement.result, Statement.result, same]
  have writes : statement.writes input right = statement.writes input left := by
    rw [Statement.writes, Statement.writes, same]
  rw [results, writes]
  rcases statement.ends input left with ⟨error, failed, nothing⟩ | ⟨value, returned, succeeds⟩
  · rw [failed, nothing]
    refine ⟨rfl, rfl, rfl, fun value same => ?_⟩
    cases same
  · obtain ⟨nothing, holds⟩ := reads input value _ succeeds
    rw [returned, nothing]
    exact ⟨rfl, rfl, rfl, fun _ same => Except.ok.inj same ▸ holds⟩

end Alike

end Proc

end Armada.Concurrency
