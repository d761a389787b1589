import Armada.Concurrency.ReadCommitted

/-!
# Who is in charge of a bad state

A state may be bad for a while, as long as some request is still going to mend it. Who
makes the state bad is in charge of it, and stays so until it is good again; a process
that never ends in charge leaves no bad state behind. The discipline below follows one
process through any interleaving, and `System.Steps.mended` puts the processes together.
-/

namespace Armada.Concurrency

variable {S : Signature} {α β : Type}

/-- What is bad, which commits are considered, what others may do to the store in the
meantime, and what the environment supplies. -/
structure Watch (S : Signature) where
  bad : S.State → Prop
  orderly : List S.Write → S.State → Prop
  rely : S.State → S.State → Prop
  supplied : S.Input → Prop
  refl : ∀ state, rely state state
  trans : ∀ {first second third}, rely first second → rely second third → rely first third
  commits : ∀ writes state, rely state (S.applyAll writes state)

/-- The state that a process has seen last, and whether it is in charge. -/
structure Charge (S : Signature) where
  since : S.State
  owing : Prop

namespace Watch

variable (watch : Watch S)

/-- The charge after a step: of a bad state that the step has made, or left. -/
def next (owing : Prop) (before after : S.State) : Charge S :=
  ⟨after, watch.bad after ∧ (owing ∨ ¬watch.bad before)⟩

/-- No orderly commit of the writes makes a good state bad. -/
def Harmless (writes : List S.Write) : Prop :=
  ∀ state, watch.orderly writes state → watch.bad (S.applyAll writes state) → watch.bad state

variable {watch} {owing : Prop} {state : S.State}

/-- A step that changes nothing lifts no duty. -/
theorem owing_of_idle (next : (watch.next owing state state).owing) : owing :=
  next.2.resolve_right fun good => good next.1

/-- Writes that can do no harm leave a duty only where there was one before. -/
theorem owing_of_harmless {writes : List S.Write} (harmless : watch.Harmless writes)
    (orderly : watch.orderly writes state)
    (next : (watch.next owing state (S.applyAll writes state)).owing) : owing :=
  next.2.resolve_right fun good => good (harmless state orderly next.1)

end Watch

/-- The rest of a transaction under a charge: its statements see what has been committed
when they run, and its writes are committed at the end. -/
def Txn.Minds (watch : Watch S) (post : Except S.Error β → Charge S → Prop) :
    Txn S β → List S.Write → Charge S → Prop
  | .done value, written, charge => ∀ state, watch.rely charge.since state →
      (watch.orderly written state →
        post (.ok value) (watch.next charge.owing state (S.applyAll written state))) ∧
      ∀ input error, watch.supplied input → S.fault input = some error →
        post (.error error) (watch.next charge.owing state state)
  | .fail error, _, charge => ∀ state, watch.rely charge.since state →
      post (.error error) (watch.next charge.owing state state)
  | .step statement resume, written, charge => ∀ state, watch.rely charge.since state →
      ∀ input, watch.supplied input →
        (∀ error, statement.exec input (S.applyAll written state) = .error error →
          post (.error error) (watch.next charge.owing state state)) ∧
        ∀ value writes, statement.Succeeds input (S.applyAll written state) value writes →
          (resume value).Minds watch post (written ++ writes)
            (watch.next charge.owing state state)

/-- A postcondition may be weakened. -/
theorem Txn.Minds.mono {watch : Watch S} {post post' : Except S.Error β → Charge S → Prop}
    {body : Txn S β} {written : List S.Write} {charge : Charge S}
    (minds : body.Minds watch post written charge)
    (weaker : ∀ result next, post result next → post' result next) :
    body.Minds watch post' written charge := by
  induction body generalizing written charge with
  | done value =>
      exact fun state within => ⟨fun orderly => weaker _ _ ((minds state within).1 orderly),
        fun input error given fault => weaker _ _ ((minds state within).2 input error given fault)⟩
  | fail error => exact fun state within => weaker _ _ (minds state within)
  | step statement resume inductionHypothesis =>
      intro state within input given
      obtain ⟨failed, succeeded⟩ := minds state within input given
      exact ⟨fun error failure => weaker _ _ (failed error failure),
        fun value writes executed => inductionHypothesis _ (succeeded value writes executed)⟩

/-- A process under a charge. -/
def Discipline.charged (watch : Watch S) : Discipline S (Charge S) where
  statement call post charge := ∀ state, watch.rely charge.since state →
    ∀ input, watch.supplied input →
      (∀ error, call.exec input state = .error error →
        post (.error error) (watch.next charge.owing state state)) ∧
      ∀ value writes, call.Succeeds input state value writes → watch.orderly writes state →
        post (.ok value) (watch.next charge.owing state (S.applyAll writes state))
  transaction body post charge := ∀ state, watch.rely charge.since state →
    body.Minds watch post [] (watch.next charge.owing state state)
  statement_mono weaker met state within input given :=
    ⟨fun error failed => weaker _ _ ((met state within input given).1 error failed),
      fun value writes executed orderly =>
        weaker _ _ ((met state within input given).2 value writes executed orderly)⟩
  transaction_mono weaker met state within := (met state within).mono weaker

/-! ## Runs -/

/-- What is left to do of a thread ends without a charge. -/
def Thread.Charged (watch : Watch S) (charge : Charge S) : Thread S α → Prop
  | .outside process => process.Meets (.charged watch) (fun _ last => ¬last.owing) charge
  | .within body resume written _ => body.Minds watch (fun result next =>
      (resume result).Meets (.charged watch) (fun _ last => ¬last.owing) next) written charge

/-- One step of a thread. -/
theorem Thread.Charged.advance {watch : Watch S} {charge : Charge S} {found next : Thread S α}
    {state : S.State} {free : List S.Lock → Prop} {writes : List S.Write}
    (charged : found.Charged watch charge) (within : watch.rely charge.since state)
    (moves : found.Moves watch.supplied state free writes next)
    (orderly : watch.orderly writes state) :
    next.Charged watch (watch.next charge.owing state (S.applyAll writes state)) := by
  cases moves with
  | call given executed unlocked => exact (charged state within _ given).2 _ _ executed orderly
  | callFailed given failed => exact (charged state within _ given).1 _ failed
  | begin => exact charged state within
  | statement given executed unlocked => exact (charged state within _ given).2 _ _ executed
  | statementFailed given failed => exact (charged state within _ given).1 _ failed
  | aborted => exact charged state within
  | commit given accepted => exact (charged state within).1 orderly
  | refused given fault => exact (charged state within).2 _ _ given fault

/-- Every thread ends without a charge, and one of them is in charge if the state is bad. -/
def System.Attended (watch : Watch S) (system : System S α) : Prop :=
  ∃ owing : Nat → Prop,
    (∀ (thread : Nat) found, system.threads[thread]? = some found →
      ∃ since, watch.rely since system.state ∧ found.Charged watch ⟨since, owing thread⟩) ∧
    (watch.bad system.state → ∃ (thread : Nat) (found : Thread S α),
      system.threads[thread]? = some found ∧ owing thread)

/-- A step of one thread, if it is orderly, keeps every thread's charge. -/
theorem System.Attended.step {watch : Watch S} {system : System S α} {thread : Nat}
    {found next : Thread S α} {free : List S.Lock → Prop} {writes : List S.Write}
    (attended : system.Attended watch) (enabled : system.threads[thread]? = some found)
    (moves : found.Moves watch.supplied system.state free writes next)
    (orderly : watch.orderly writes system.state) :
    (⟨S.applyAll writes system.state, system.threads.set thread next⟩ : System S α).Attended
      watch := by
  obtain ⟨owing, charged, inCharge⟩ := attended
  have bounded : thread < system.threads.length := (List.getElem?_eq_some_iff.mp enabled).1
  let moved : Charge S :=
    watch.next (owing thread) system.state (S.applyAll writes system.state)
  refine ⟨Function.update owing thread moved.owing, fun other rest atOther => ?_, fun bad => ?_⟩
  · have atOther : (system.threads.set thread next)[other]? = some rest := atOther
    rw [List.getElem?_set] at atOther
    by_cases same : thread = other
    · subst same
      simp only [bounded, if_true, Option.some.injEq] at atOther
      obtain ⟨since, within, own⟩ := charged thread found enabled
      rw [Function.update_self, ← atOther]
      exact ⟨_, watch.refl _, own.advance within moves orderly⟩
    · rw [if_neg same] at atOther
      obtain ⟨since, within, own⟩ := charged other rest atOther
      rw [Function.update_of_ne (Ne.symm same)]
      exact ⟨since, watch.trans within (watch.commits writes _), own⟩
  · have nextAt : (system.threads.set thread next)[thread]? = some next := by simp [bounded]
    by_cases before : watch.bad system.state
    · obtain ⟨other, rest, atOther, owes⟩ := inCharge before
      by_cases same : thread = other
      · subst same
        exact ⟨thread, next, nextAt, by rw [Function.update_self]; exact ⟨bad, .inl owes⟩⟩
      · refine ⟨other, rest, ?_, by rwa [Function.update_of_ne (Ne.symm same)]⟩
        exact (List.getElem?_set_ne same).trans atOther
    · exact ⟨thread, next, nextAt, by rw [Function.update_self]; exact ⟨bad, .inr before⟩⟩

/-- A thread that has come to its end. -/
def Thread.Ended : Thread S α → Prop
  | .outside process => process.finished ≠ none
  | .within .. => False

instance : DecidablePred (Thread.Ended : Thread S α → Prop)
  | .outside process => inferInstanceAs (Decidable (process.finished ≠ none))
  | .within .. => inferInstanceAs (Decidable False)

/-- No request is in flight. -/
def System.Quiescent (system : System S α) : Prop :=
  ∀ found ∈ system.threads, found.Ended

instance (system : System S α) : Decidable system.Quiescent :=
  inferInstanceAs (Decidable (∀ found ∈ system.threads, found.Ended))

/-- If no process ends in charge, no run leaves a bad state behind. -/
theorem System.Steps.mended {watch : Watch S} {pool : Pool S α} {trace : List (Commit S)}
    {final : System S α} (steps : (System.ofPool pool).Steps watch.supplied trace final)
    (good : ¬watch.bad pool.state)
    (minds : ∀ process ∈ pool.procs, process.Meets (.charged watch)
      (fun _ last => ¬last.owing) ⟨pool.state, False⟩)
    (orderly : ∀ commit ∈ trace, watch.orderly commit.writes commit.before)
    (quiescent : final.Quiescent) : ¬watch.bad final.state := by
  have attended : final.Attended watch := by
    clear quiescent
    induction steps with
    | refl =>
        refine ⟨fun _ => False, fun thread found atThread => ?_, fun bad => absurd bad good⟩
        simp only [System.ofPool, List.getElem?_map, Option.map_eq_some_iff] at atThread
        obtain ⟨process, enabled, rfl⟩ := atThread
        exact ⟨pool.state, watch.refl _, minds process (List.mem_of_getElem? enabled)⟩
    | @step trace system thread found next writes prior enabled moves inductionHypothesis =>
        refine (inductionHypothesis fun commit member => ?_).step enabled moves ?_
        · exact orderly commit (List.mem_append_left _ member)
        · exact orderly ⟨thread, system.state, writes⟩ (List.mem_append_right _ (by simp))
  intro bad
  obtain ⟨owing, charged, inCharge⟩ := attended
  obtain ⟨thread, found, atThread, owes⟩ := inCharge bad
  obtain ⟨since, _, own⟩ := charged thread found atThread
  have ended := quiescent found (List.mem_of_getElem? atThread)
  -- an ended process is not in charge
  cases found with
  | within body resume written held => exact ended
  | outside process =>
      cases process with
      | done value => exact own owes
      | fail error => exact own owes
      | call statement resume => exact ended rfl
      | transaction body resume => exact ended rfl

/-! ## Rules -/

variable {watch : Watch S}

/-- A statement of a transaction either fails, or goes on with its writes added to the pending
ones. -/
theorem Txn.Minds.step {γ : Type} {statement : Statement S γ} {next : γ → Txn S β}
    {post : Except S.Error β → Charge S → Prop} {written : List S.Write} {charge : Charge S}
    (failed : ∀ state, watch.rely charge.since state → ∀ input error, watch.supplied input →
      statement.exec input (S.applyAll written state) = .error error →
        post (.error error) (watch.next charge.owing state state))
    (succeeded : ∀ state, watch.rely charge.since state →
      ∀ input value writes, watch.supplied input →
      statement.Succeeds input (S.applyAll written state) value writes →
        (next value).Minds watch post (written ++ writes) (watch.next charge.owing state state)) :
    (liftM statement >>= next).Minds watch post written charge :=
  fun state within input given =>
    ⟨fun error => failed state within input error given,
      fun value writes => succeeded state within input value writes given⟩

/-- A fact that the others respect may be carried along to the end of a transaction. -/
theorem Txn.Minds.carry {body : Txn S β} {post : Except S.Error β → Charge S → Prop}
    {written : List S.Write} {charge : Charge S} {fact : S.State → Prop}
    (minds : body.Minds watch post written charge)
    (lasts : ∀ before after, watch.rely before after → fact before → fact after)
    (initially : fact charge.since) :
    body.Minds watch (fun result last => post result last ∧ fact last.since) written charge := by
  induction body generalizing written charge with
  | done value =>
      intro state within
      have now := lasts _ _ within initially
      exact ⟨fun orderly => ⟨(minds state within).1 orderly, lasts _ _ (watch.commits _ _) now⟩,
        fun input error given fault => ⟨(minds state within).2 input error given fault, now⟩⟩
  | fail error => exact fun state within => ⟨minds state within, lasts _ _ within initially⟩
  | step statement resume inductionHypothesis =>
      intro state within input given
      obtain ⟨failed, succeeded⟩ := minds state within input given
      have now := lasts _ _ within initially
      exact ⟨fun error failure => ⟨failed error failure, now⟩,
        fun value writes executed => inductionHypothesis _ (succeeded value writes executed) now⟩

/-- A transaction that aborts leaves a charge as it was; what it commits is known by what
its statements write, whatever they see. -/
theorem Txn.Minds.of_holds {body : Txn S β} {charge : Charge S}
    {post : Except S.Error β → Charge S → Prop} {wrote : β → List S.Write → Prop}
    (holds : ∀ state, body.Holds (fun _ _ _ => True) (fun value _ made _ => wrote value made) [] []
      state)
    (aborted : ∀ error last, watch.rely charge.since last.since → (last.owing → charge.owing) →
      post (.error error) last)
    (committed : ∀ value made state owing, wrote value made → watch.rely charge.since state →
      (owing → charge.owing) → watch.orderly made state →
        post (.ok value) (watch.next owing state (S.applyAll made state))) :
    body.Minds watch post [] charge := by
  -- along the body the process has seen later states, and is in charge only if it was before
  suffices along : ∀ (rest : Txn S β) held written (last : Charge S),
      rest.Holds (fun _ _ _ => True) (fun value _ made _ =>
        wrote value made) held written last.since →
      watch.rely charge.since last.since → (last.owing → charge.owing) →
        rest.Minds watch post written last from
    along body [] [] charge (holds charge.since) (watch.refl _) id
  intro rest
  induction rest with
  | done value =>
      intro held written last made since owes state within
      refine ⟨fun orderly => committed value written state last.owing made (watch.trans since within)
        owes orderly, fun input error _ _ => aborted error _ (watch.trans since within) ?_⟩
      exact fun next => owes (Watch.owing_of_idle next)
  | fail error =>
      intro held written last _ since owes state within
      exact aborted error _ (watch.trans since within) fun next => owes (Watch.owing_of_idle next)
  | step statement resume inductionHypothesis =>
      intro held written last made since owes state within input given
      have later := watch.trans since within
      refine ⟨fun error _ => aborted error _ later fun next => owes (Watch.owing_of_idle next),
        fun value writes executed => ?_⟩
      exact inductionHypothesis value _ _ _ (made state trivial input value writes executed) later
        fun next => owes (Watch.owing_of_idle next)

/-- All writes of a body are of one kind, whatever it reads. -/
def Txn.Only (kind : S.Write → Prop) (body : Txn S β) : Prop :=
  ∀ held written state, (∀ write ∈ written, kind write) →
    body.Holds (fun _ _ _ => True) (fun _ _ made _ => ∀ write ∈ made, kind write) held written state

namespace Txn.Only

variable {kind : S.Write → Prop}

/-- A body without writes. -/
theorem pure (value : β) : Txn.Only kind (Pure.pure value : Txn S β) := fun _ _ _ all => all

/-- A body that only fails writes nothing. -/
theorem fail (error : S.Error) : Txn.Only kind (.fail error : Txn S β) := fun _ _ _ _ => trivial

/-- The writes of a sequence are those of its parts. -/
theorem bind {first : Txn S α} {next : α → Txn S β} (only : first.Only kind)
    (rest : ∀ value, (next value).Only kind) : (first >>= next).Only kind := by
  intro held written state all
  rw [Txn.holds_bind]
  exact (only held written state all).mono fun value held made current =>
    rest value held made current

/-- A statement adds its own writes. -/
theorem statement {statement : Statement S β}
    (writes : ∀ input state value made, statement.Succeeds input state value made →
      ∀ write ∈ made, kind write) : Txn.Only kind (liftM statement : Txn S β) := by
  intro held written state all
  rw [Txn.holds_lift]
  intro next _ input value made executed write member
  rcases List.mem_append.mp member with earlier | last
  · exact all write earlier
  · exact writes _ _ _ _ executed write last

/-- A check writes nothing. -/
theorem rejectIf (condition : Prop) [Decidable condition] (error : S.Error) :
    (Txn.rejectIf condition error).Only kind := by
  intro held written state all
  rw [Txn.holds_rejectIf]
  exact fun _ => all

end Txn.Only

namespace Proc

/-- What no commit undoes is still so at the end. -/
theorem Meets.carry {process : Proc S α} {post : Except S.Error α → Charge S → Prop}
    {charge : Charge S} {fact : S.State → Prop}
    (met : process.Meets (.charged watch) post charge)
    (lasts : ∀ before after, watch.rely before after → fact before → fact after)
    (initially : fact charge.since) :
    process.Meets (.charged watch) (fun result last => post result last ∧ fact last.since)
      charge := by
  induction process generalizing charge with
  | done value => exact ⟨met, initially⟩
  | fail error => exact ⟨met, initially⟩
  | call statement resume inductionHypothesis =>
      intro state within input given
      obtain ⟨failed, succeeded⟩ := met state within input given
      have now := lasts _ _ within initially
      exact ⟨fun error failure => inductionHypothesis _ (failed error failure) now,
        fun value writes executed orderly => inductionHypothesis _
          (succeeded value writes executed orderly) (lasts _ _ (watch.commits writes state) now)⟩
  | transaction body resume inductionHypothesis =>
      intro state within
      have now := lasts _ _ within initially
      exact ((met state within).carry lasts now).mono fun result last both =>
        inductionHypothesis result both.1 both.2

/-- A process that comes to no charge of its own. -/
def Dutiful (watch : Watch S) (process : Proc S α) : Prop :=
  ∀ charge : Charge S, ¬charge.owing →
    process.Meets (.charged watch) (fun _ last => ¬last.owing) charge

namespace Dutiful

/-- Who does nothing owes nothing. -/
theorem pure (value : α) : Dutiful watch (Pure.pure value : Proc S α) := fun _ free => free

/-- Nor does who only throws. -/
theorem throw (error : S.Error) : Dutiful watch (MonadExcept.throw error : Proc S α) :=
  fun _ free => free

/-- A sequence of dutiful processes is dutiful. -/
theorem bind {first : Proc S β} {next : β → Proc S α} (dutiful : first.Dutiful watch)
    (continued : ∀ value, (next value).Dutiful watch) : (first >>= next).Dutiful watch :=
  fun charge free => (dutiful charge free).bind (fun _ _ still => still) fun value last still =>
    continued value last still

/-- What is made of the answer does not matter. -/
theorem map {process : Proc S β} (function : β → α) (dutiful : process.Dutiful watch) :
    (function <$> process).Dutiful watch :=
  dutiful.bind fun value => Dutiful.pure (function value)

/-- A handler has to be dutiful after every error. -/
theorem tryCatch {process : Proc S α} {handler : S.Error → Proc S α}
    (dutiful : process.Dutiful watch) (handled : ∀ error, (handler error).Dutiful watch) :
    (Proc.tryCatch process handler).Dutiful watch :=
  fun charge free => (dutiful charge free).tryCatch (fun _ _ still => still) fun error last still =>
    handled error last still

/-- A check touches nothing. -/
theorem rejectIf (condition : Prop) [Decidable condition] (error : S.Error) :
    (Proc.rejectIf condition error).Dutiful watch := by
  intro charge free
  rw [Proc.rejectIf]
  split <;> exact free

/-- Asking for a value touches nothing. -/
theorem require (value : Option α) (error : S.Error) :
    (Proc.require value error).Dutiful watch := by
  intro charge free
  cases value <;> exact free

/-- A statement that brings about no duty. -/
theorem statement {statement : Statement S α}
    (harmless : ∀ input state value writes, statement.Succeeds input state value writes →
      watch.orderly writes state → watch.bad (S.applyAll writes state) → watch.bad state) :
    (liftM statement : Proc S α).Dutiful watch := by
  intro charge free
  rw [meets_lift]
  intro state _ input _
  refine ⟨fun _ _ next => free (Watch.owing_of_idle next),
    fun value writes executed orderly next => ?_⟩
  exact free (next.2.resolve_right fun good => good (harmless input state value writes executed orderly
    next.1))

/-- A transaction whose writes can do no harm. -/
theorem transaction {body : Txn S α}
    (harmless : ∀ state, body.Holds (fun _ _ _ => True) (fun _ _ made _ => watch.Harmless made) [] []
      state) : (transact body).Dutiful watch := by
  intro charge free
  rw [meets_transact]
  intro state _
  refine Txn.Minds.of_holds harmless (fun _ _ _ owes next => free (Watch.owing_of_idle (owes next)))
    fun _ made later owing quiet _ owes orderly next => ?_
  exact free (Watch.owing_of_idle (owes (Watch.owing_of_harmless quiet orderly next)))

end Dutiful

end Proc

end Armada.Concurrency
