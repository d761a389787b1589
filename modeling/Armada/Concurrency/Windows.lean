import Armada.Concurrency.RelyGuarantee

/-!
# Windows between a check and the step that relies on it

A process checks the store in its first step and writes in a later one that does not test
the store again. What the check has found is still right at the write if nothing that breaks
it is committed in between. Processes that run one after the other leave no such window.
-/

namespace Armada.Concurrency

variable {S : Signature} {α : Type}

/-- Nothing that `breaks` is committed between a step of a process and a later step of it that
is of a `kind`. -/
def Unbroken (kind breaks : Commit S → Prop) (trace : List (Commit S)) : Prop :=
  ∀ early check between step rest, trace = early ++ check :: (between ++ step :: rest) →
    check.thread = step.thread → kind step → ∀ other ∈ between, ¬breaks other

/-- The processes run one after the other: between two steps of one no other takes a step. -/
def Serial (trace : List (Commit S)) : Prop :=
  ∀ early check between step rest, trace = early ++ check :: (between ++ step :: rest) →
    check.thread = step.thread → ∀ other ∈ between, other.thread = step.thread

variable {kind breaks : Commit S → Prop} {trace : List (Commit S)} {start final : Pool S α}

/-- Processes that take their steps in the order of their numbers run one after the other. -/
theorem serial_of_sorted (sorted : (trace.map Commit.thread).Pairwise (· ≤ ·)) : Serial trace := by
  rintro early check between step rest rfl same other member
  rw [List.pairwise_map] at sorted
  obtain ⟨above, onwards⟩ := List.pairwise_cons.mp (List.pairwise_append.mp sorted).2.1
  have below := (List.pairwise_append.mp onwards).2.2 other member step List.mem_cons_self
  have least := above other (List.mem_append_left _ member)
  omega

/-- In processes that run one after the other, a window holds steps of its process only. -/
theorem Serial.unbroken (serial : Serial trace) (thread : Nat) :
    Unbroken (fun step => step.thread = thread) (fun other => other.thread ≠ thread) trace := by
  intro early check between step rest split same own other member different
  exact different ((serial early check between step rest split same other member).trans own)

/-- What holds before a check, and is kept by every step that does not break it, holds before
the step that relies on the check. -/
theorem Unbroken.holds (unbroken : Unbroken kind breaks trace)
    (steps : start.Steps trace final) (holds : List (Commit S) → S.State → Prop)
    (kept : ∀ first other rest, trace = first ++ other :: rest → ¬breaks other →
      holds first other.before → holds (first ++ [other]) other.after)
    {early between rest : List (Commit S)} {check step : Commit S}
    (split : trace = early ++ check :: (between ++ step :: rest))
    (same : check.thread = step.thread) (isKind : kind step) (harmless : ¬breaks check)
    (checked : holds early check.before) :
    holds (early ++ check :: between) step.before := by
  have unharmed := unbroken early check between step rest split same isKind
  have linked := steps.linked
  rw [split] at linked
  obtain ⟨middle, _, rfl, onwards⟩ := linked.split
  -- along the window, from the state that the check leaves
  have along : ∀ (passed ahead : List (Commit S)) (state : S.State), between = passed ++ ahead →
      Linked state (ahead ++ step :: rest) final.state →
        holds (early ++ check :: passed) state → holds (early ++ check :: between) step.before := by
    intro passed ahead
    induction ahead generalizing passed with
    | nil =>
        rintro state same ⟨rfl, _⟩ holding
        rw [same, List.append_nil]
        exact holding
    | cons other ahead inductionHypothesis =>
        rintro state same ⟨rfl, later⟩ holding
        refine inductionHypothesis (passed ++ [other]) other.after (by simp [same]) later ?_
        have member : other ∈ between := by simp [same]
        have next := kept (early ++ check :: passed) other (ahead ++ step :: rest)
          (by simp [split, same]) (unharmed other member) holding
        simpa using next
  have next := kept early check (between ++ step :: rest) split harmless checked
  exact along [] between check.after rfl onwards (by simpa using next)

/-! ## What a process has checked -/

/-- Where everything may be committed, a process may do anything. -/
theorem Proc.meets_of_allowed {rely : S.State → S.State → Prop}
    {guar : List S.Write → S.State → Prop} (allowed : ∀ writes state, guar writes state)
    (process : Proc S α) (state : S.State) :
    process.Meets (.atomic rely guar) (fun _ _ => True) state := by
  induction process generalizing state with
  | done value => trivial
  | fail error => trivial
  | call statement resume inductionHypothesis =>
      exact fun next _ input => ⟨allowed _ _, inductionHypothesis _ _⟩
  | transaction body resume inductionHypothesis =>
      exact fun next _ inputs => ⟨allowed _ _, inductionHypothesis _ _⟩

/-- The first step of a process writes nothing, and the process ends there unless a fact holds. -/
def Proc.Checks (process : Proc S α) (fact : S.State → Prop) : Prop :=
  ∀ moment inputs writes next, process.advance inputs moment = some (writes, next) →
    writes = [] ∧ (next.finished = none → fact moment)

/-- What a process checks held when it took its first step, before any step that writes. -/
theorem Pool.Steps.checked (steps : start.Steps trace final) {thread : Nat} {process : Proc S α}
    (found : start.procs[thread]? = some process) {fact : S.State → Prop}
    (checks : process.Checks fact)
    {first rest : List (Commit S)} {commit : Commit S} (split : trace = first ++ commit :: rest)
    (own : commit.thread = thread) (wrote : commit.writes ≠ []) :
    ∃ early check between, first = early ++ check :: between ∧ check.thread = thread ∧
      check.writes = [] ∧ fact check.before := by
  obtain ⟨check, isFirst, idle, holds⟩ := steps.since_first found
    (fun check writes _ => check.writes = [] ∧ (writes ≠ [] → fact check.before))
    (fun moment inputs writes next advanced => by
      obtain ⟨rfl, continues⟩ := checks moment inputs writes next advanced
      refine ⟨⟨rfl, fun some => absurd rfl some⟩, ?_⟩
      cases ended : next.finished with
      | none => exact Proc.meets_of_allowed (fun _ _ => ⟨rfl, fun _ => continues ended⟩) next _
      | some result =>
          cases next with
          | done value => trivial
          | fail error => trivial
          | call statement resume => cases ended
          | transaction body resume => cases ended)
    commit (by simp [split]) own
  have fact := holds wrote
  rw [split, List.find?_append] at isFirst
  cases earlier : first.find? fun other => other.thread = thread with
  | some other =>
      rw [earlier, Option.some_or] at isFirst
      obtain rfl := Option.some.inj isFirst
      obtain ⟨early, between, rfl⟩ := List.append_of_mem (List.mem_of_find?_eq_some earlier)
      exact ⟨early, other, between, rfl, by simpa using List.find?_some earlier, idle, fact⟩
  | none =>
      -- the first step of the process writes nothing
      rw [earlier, Option.none_or, List.find?_cons_of_pos (by simpa using own)] at isFirst
      obtain rfl := Option.some.inj isFirst
      exact absurd idle wrote

/-! ### Processes that begin by reading -/

section Reads

variable {β : Type}

/-- An image is a sequence that ends at once. -/
theorem Proc.map_eq_bind (function : β → α) (process : Proc S β) :
    function <$> process = process >>= fun value => pure (function value) := rfl

/-- A process that goes on after a rejection was not rejected. -/
theorem Proc.unfinished_rejectIf {condition : Prop} [Decidable condition] {error : S.Error}
    {next : Unit → Proc S α}
    (unfinished : (Proc.rejectIf condition error >>= next).finished = none) :
    ¬condition ∧ (next ()).finished = none := by
  by_cases rejected : condition
  · rw [Proc.rejectIf, if_pos rejected] at unfinished
    cases unfinished
  · rw [Proc.rejectIf, if_neg rejected] at unfinished
    exact ⟨rejected, unfinished⟩

/-- A process that goes on after it has asked for a value has got one. -/
theorem Proc.unfinished_require {value : Option β} {error : S.Error} {next : β → Proc S α}
    (unfinished : (Proc.require value error >>= next).finished = none) :
    ∃ found, value = some found ∧ (next found).finished = none := by
  cases value with
  | none => cases unfinished
  | some found => exact ⟨found, rfl, unfinished⟩

/-- A process that begins by reading goes on only where what it has read lets it. -/
theorem Proc.checks_of_read {statement : Statement S β} {next : β → Proc S α}
    {fact : S.State → Prop}
    (reads : ∀ input moment value writes, statement.Succeeds input moment value writes →
      writes = [] ∧ ((next value).finished = none → fact moment)) :
    (liftM statement >>= next).Checks fact := by
  intro moment inputs writes following advanced
  have step : (liftM statement >>= next).advance inputs moment =
      some (statement.writes (inputs 0) moment,
        (Proc.ofExcept (statement.result (inputs 0) moment)).bind next) := rfl
  obtain ⟨rfl, rfl⟩ := Prod.mk.inj (Option.some.inj (step.symm.trans advanced))
  rcases statement.ends (inputs 0) moment with ⟨error, failed, idle⟩ | ⟨value, answered, executed⟩
  · refine ⟨idle, fun unfinished => ?_⟩
    rw [failed] at unfinished
    cases unfinished
  · obtain ⟨idle, continues⟩ := reads _ _ _ _ executed
    refine ⟨idle, fun unfinished => continues ?_⟩
    rw [answered] at unfinished
    exact unfinished

end Reads

end Armada.Concurrency
