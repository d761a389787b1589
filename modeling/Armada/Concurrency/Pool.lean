import Mathlib.Data.List.Induction
import Armada.Concurrency.Process

/-!
# Interleaved execution with atomic transactions

A pool is a store and the processes that run on it. Each step picks one process
and performs its next call, or its next transaction as a whole. The trace keeps
for every step the state it ran on and the writes it committed, so a statement
about a run is a statement about its trace.
-/

namespace Armada.Concurrency

variable {S : Signature} {α : Type}

/-- The next step of a process: the writes it commits and what remains to do. -/
def Proc.advance : Proc S α → (Nat → S.Input) → S.State → Option (List S.Write × Proc S α)
  | .done _, _, _ => none
  | .fail _, _, _ => none
  | .call statement resume, inputs, state =>
      some (statement.writes (inputs 0) state, resume (statement.result (inputs 0) state))
  | .transaction body resume, inputs, state =>
      some (body.writes inputs state, resume (body.result inputs state))

/-- A state and the processes that share it. -/
structure Pool (S : Signature) (α : Type) where
  state : S.State
  procs : List (Proc S α)

/-- One step of a run, as the store saw it. -/
structure Commit (S : Signature) where
  thread : Nat
  before : S.State
  writes : List S.Write

/-- The state a commit leaves. -/
def Commit.after (commit : Commit S) : S.State :=
  S.applyAll commit.writes commit.before

/-- The commits lead from one state to another, each from where the last has ended. -/
def Linked (start : S.State) : List (Commit S) → S.State → Prop
  | [], final => final = start
  | commit :: rest, final => commit.before = start ∧ Linked commit.after rest final

/-- Links of two traces that meet. -/
theorem Linked.append {start middle final : S.State} {first second : List (Commit S)}
    (prior : Linked start first middle) (suffix : Linked middle second final) :
    Linked start (first ++ second) final := by
  induction first generalizing start with
  | nil => exact prior ▸ suffix
  | cons commit first inductionHypothesis => exact ⟨prior.1, inductionHypothesis prior.2⟩

/-- Where every commit stays within a relation, so does the rest of the run. -/
theorem Linked.onwards {start final : S.State} {trace : List (Commit S)}
    (linked : Linked start trace final) {within : S.State → S.State → Prop}
    (refl : ∀ state, within state state)
    (trans : ∀ {first second third}, within first second → within second third →
      within first third)
    (each : ∀ commit ∈ trace, within commit.before commit.after) :
    within start final ∧ ∀ commit ∈ trace, within commit.before final := by
  induction trace generalizing start with
  | nil =>
      obtain rfl : final = start := linked
      exact ⟨refl final, nofun⟩
  | cons commit rest inductionHypothesis =>
      obtain ⟨rfl, linked⟩ := linked
      obtain ⟨later, others⟩ := inductionHypothesis linked fun other member =>
        each other (List.mem_cons_of_mem _ member)
      have now := trans (each commit List.mem_cons_self) later
      refine ⟨now, fun other member => ?_⟩
      rcases List.mem_cons.mp member with rfl | member
      · exact now
      · exact others other member

/-- Linked traces can be cut anywhere. -/
theorem Linked.split {start final : S.State} {first second : List (Commit S)}
    (linked : Linked start (first ++ second) final) :
    ∃ middle, Linked start first middle ∧ Linked middle second final := by
  induction first generalizing start with
  | nil => exact ⟨start, rfl, linked⟩
  | cons commit first inductionHypothesis =>
      obtain ⟨rfl, linked⟩ := linked
      obtain ⟨middle, before, after⟩ := inductionHypothesis linked
      exact ⟨middle, ⟨rfl, before⟩, after⟩

/-- What holds at the end and not at the start was made true by a commit, after which it
has been true ever since. -/
theorem Linked.since {start final : S.State} {trace : List (Commit S)}
    (linked : Linked start trace final) {holds : S.State → Prop} (before : ¬holds start)
    (now : holds final) :
    ∃ first commit rest, trace = first ++ commit :: rest ∧ ¬holds commit.before ∧
      holds commit.after ∧ ∀ other ∈ rest, holds other.before := by
  induction trace using List.reverseRecOn generalizing final with
  | nil => exact absurd (linked ▸ now) before
  | append_singleton trace last inductionHypothesis =>
      obtain ⟨middle, earlier, same, ended⟩ := linked.split
      obtain rfl : last.before = middle := same
      obtain rfl : final = last.after := ended
      by_cases turned : holds last.before
      · obtain ⟨first, commit, rest, rfl, absent, present, lasting⟩ :=
          inductionHypothesis earlier turned
        refine ⟨first, commit, rest ++ [last], by simp, absent, present, fun other member => ?_⟩
        rcases List.mem_append.mp member with inside | isLast
        · exact lasting other inside
        · exact List.mem_singleton.mp isLast ▸ turned
      · exact ⟨trace, last, [], rfl, turned, now, nofun⟩

/-- The state after a commit is the final one, or one before another commit. -/
theorem Linked.after_eq {start final : S.State} {trace : List (Commit S)}
    (linked : Linked start trace final) {commit : Commit S} (member : commit ∈ trace) :
    commit.after = final ∨ ∃ next ∈ trace, next.before = commit.after := by
  induction trace generalizing start with
  | nil => cases member
  | cons first rest inductionHypothesis =>
      obtain ⟨rfl, linked⟩ := linked
      rcases List.mem_cons.mp member with rfl | later
      · cases rest with
        | nil => exact .inl linked.symm
        | cons next rest =>
            exact .inr ⟨next, List.mem_cons_of_mem _ List.mem_cons_self, linked.1⟩
      · refine (inductionHypothesis linked later).imp_right ?_
        rintro ⟨next, inRest, follows⟩
        exact ⟨next, List.mem_cons_of_mem _ inRest, follows⟩

/-- The commits that have written something. -/
def active (trace : List (Commit S)) : List (Commit S) :=
  trace.filter fun commit => !commit.writes.isEmpty

/-- The active commits are those that write. -/
theorem mem_active {trace : List (Commit S)} {commit : Commit S} :
    commit ∈ active trace ↔ commit ∈ trace ∧ commit.writes ≠ [] := by
  simp [active]

/-- They are taken from each part of a trace. -/
theorem active_append (first second : List (Commit S)) :
    active (first ++ second) = active first ++ active second :=
  List.filter_append first second

/-- The commits that have written nothing can be left out. -/
theorem Linked.active {start final : S.State} {trace : List (Commit S)}
    (linked : Linked start trace final) : Linked start (active trace) final := by
  induction trace generalizing start with
  | nil => exact linked
  | cons commit rest inductionHypothesis =>
      obtain ⟨rfl, linked⟩ := linked
      rw [Concurrency.active, List.filter_cons]
      split
      · exact ⟨rfl, inductionHypothesis linked⟩
      · rename_i idle
        have same : commit.after = commit.before := by
          rw [Commit.after, show commit.writes = [] by simpa using idle, S.applyAll_nil]
        exact inductionHypothesis (same ▸ linked)

namespace Pool

/-- The process of the thread has returned a value. -/
def Succeeded (pool : Pool S α) (thread : Nat) : Prop :=
  ∃ process answer, pool.procs[thread]? = some process ∧ process.finished = some (.ok answer)

/-- After a step of one thread, a process is what the step has left or an old one. -/
theorem eq_or_of_set {pool : Pool S α} {thread other : Nat} {process next current : Proc S α}
    (enabled : pool.procs[thread]? = some process)
    (found : (pool.procs.set thread next)[other]? = some current) :
    (other = thread ∧ current = next) ∨ (other ≠ thread ∧ pool.procs[other]? = some current) := by
  obtain ⟨bounded, _⟩ := List.getElem?_eq_some_iff.mp enabled
  rw [List.getElem?_set] at found
  by_cases same : thread = other
  · subst same
    simp only [bounded, if_true, Option.some.injEq] at found
    exact .inl ⟨rfl, found.symm⟩
  · rw [if_neg same] at found
    exact .inr ⟨Ne.symm same, found⟩

/-- A process that moves has not returned. -/
theorem not_succeeded_of_advance {pool : Pool S α} {thread : Nat} {process next : Proc S α}
    {inputs : Nat → S.Input} {writes : List S.Write} (enabled : pool.procs[thread]? = some process)
    (advanced : process.advance inputs pool.state = some (writes, next)) :
    ¬pool.Succeeded thread := by
  rintro ⟨same, answer, found, finished⟩
  obtain rfl : process = same := Option.some.inj (enabled.symm.trans found)
  cases process with
  | done value => cases advanced
  | fail error => cases advanced
  | call statement resume => simp [Proc.finished] at finished
  | transaction body resume => simp [Proc.finished] at finished

/-- Who has succeeded after a step of a thread: that thread if it ends well, and
who had before. -/
theorem succeeded_set {pool : Pool S α} {state : S.State} {thread other : Nat}
    {process next : Proc S α} (enabled : pool.procs[thread]? = some process) :
    (⟨state, pool.procs.set thread next⟩ : Pool S α).Succeeded other ↔
      (other = thread ∧ ∃ answer, next.finished = some (.ok answer)) ∨
        (other ≠ thread ∧ pool.Succeeded other) := by
  obtain ⟨bounded, _⟩ := List.getElem?_eq_some_iff.mp enabled
  by_cases here : other = thread
  · subst here
    simp [Succeeded, bounded]
  · simp [Succeeded, here, List.getElem?_set_ne (Ne.symm here)]

/-- Zero or more steps of any processes in any order, with the trace they leave. -/
inductive Steps (start : Pool S α) : List (Commit S) → Pool S α → Prop where
  | refl : Steps start [] start
  | step {trace : List (Commit S)} {pool : Pool S α} {thread : Nat} {inputs : Nat → S.Input}
      {process next : Proc S α} {writes : List S.Write}
      (prior : Steps start trace pool)
      (enabled : pool.procs[thread]? = some process)
      (advanced : process.advance inputs pool.state = some (writes, next)) :
      Steps start (trace ++ [⟨thread, pool.state, writes⟩])
        ⟨S.applyAll writes pool.state, pool.procs.set thread next⟩

/-- Two runs that meet are one run, whose trace is the two traces in order. -/
theorem Steps.trans {start middle final : Pool S α} {first second : List (Commit S)}
    (prior : start.Steps first middle) (suffix : middle.Steps second final) :
    start.Steps (first ++ second) final := by
  induction suffix with
  | refl => simpa using prior
  | step _ enabled advanced inductionHypothesis =>
      simpa using Steps.step inductionHypothesis enabled advanced

/-- No process appears or disappears in a run. -/
theorem Steps.length {start final : Pool S α} {trace : List (Commit S)}
    (steps : start.Steps trace final) : final.procs.length = start.procs.length := by
  induction steps with
  | refl => rfl
  | step _ _ _ inductionHypothesis => rw [List.length_set, inductionHypothesis]

/-- Only threads of the pool take steps. -/
theorem Steps.thread_lt {start final : Pool S α} {trace : List (Commit S)}
    (steps : start.Steps trace final) : ∀ commit ∈ trace, commit.thread < start.procs.length := by
  induction steps with
  | refl => exact nofun
  | step prior enabled _ inductionHypothesis =>
      intro commit member
      rcases List.mem_append.mp member with earlier | last
      · exact inductionHypothesis commit earlier
      · rw [List.mem_singleton.mp last, ← prior.length]
        exact (List.getElem?_eq_some_iff.mp enabled).1

/-- The commits of a run follow one another. -/
theorem Steps.linked {start final : Pool S α} {trace : List (Commit S)}
    (steps : start.Steps trace final) : Linked start.state trace final.state := by
  induction steps with
  | refl => rfl
  | step _ _ _ inductionHypothesis => exact inductionHypothesis.append ⟨rfl, rfl⟩

/-- A statement about the trace so far and the store, kept by every commit of a
run, holds before every commit and at the end. -/
theorem Steps.along {start final : Pool S α} {trace : List (Commit S)}
    (steps : start.Steps trace final) (holds : List (Commit S) → S.State → Prop)
    (initially : holds [] start.state)
    (kept : ∀ first commit rest, trace = first ++ commit :: rest → holds first commit.before →
      holds (first ++ [commit]) commit.after) :
    holds trace final.state ∧
      ∀ first commit rest, trace = first ++ commit :: rest → holds first commit.before := by
  induction steps with
  | refl => exact ⟨initially, fun first commit rest split => by simp at split⟩
  | @step trace pool thread inputs process next writes prior enabled advanced ih =>
      obtain ⟨current, earlier⟩ := ih fun first commit rest split =>
        kept first commit (rest ++ [⟨thread, pool.state, writes⟩]) (by simp [split])
      refine ⟨kept trace ⟨thread, pool.state, writes⟩ [] rfl current, ?_⟩
      intro first commit rest split
      induction rest using List.reverseRecOn with
      | nil =>
          obtain ⟨rfl, same⟩ := List.append_inj' split rfl
          cases same
          exact current
      | append_singleton rest last _ =>
          rw [← List.cons_append, ← List.append_assoc] at split
          exact earlier first commit rest (List.append_inj' split rfl).1

/-- A predicate of the store that every commit of a run keeps holds on every
state of the run. -/
theorem Steps.invariant {start final : Pool S α} {trace : List (Commit S)}
    (steps : start.Steps trace final) (holds : S.State → Prop) (initially : holds start.state)
    (kept : ∀ commit ∈ trace, holds commit.before → holds commit.after) :
    holds final.state ∧ ∀ commit ∈ trace, holds commit.before := by
  obtain ⟨last, earlier⟩ := steps.along (fun _ state => holds state) initially
    fun first commit rest split => kept commit (by simp [split])
  refine ⟨last, fun commit member => ?_⟩
  obtain ⟨first, rest, split⟩ := List.append_of_mem member
  exact earlier first commit rest split

/-- Run a schedule; a turn of a process that cannot move is skipped. -/
def play : List (Nat × (Nat → S.Input)) → Pool S α → List (Commit S) × Pool S α
  | [], pool => ([], pool)
  | (thread, inputs) :: schedule, pool =>
      match pool.procs[thread]? with
      | none => play schedule pool
      | some process =>
          match process.advance inputs pool.state with
          | none => play schedule pool
          | some (writes, next) =>
              let rest := play schedule
                ⟨S.applyAll writes pool.state, pool.procs.set thread next⟩
              (⟨thread, pool.state, writes⟩ :: rest.1, rest.2)

/-- What `play` computes is a run. -/
theorem play_steps (schedule : List (Nat × (Nat → S.Input))) (pool : Pool S α) :
    pool.Steps (pool.play schedule).1 (pool.play schedule).2 := by
  induction schedule generalizing pool with
  | nil => exact .refl
  | cons turn schedule inductionHypothesis =>
      obtain ⟨thread, inputs⟩ := turn
      rw [play]
      split
      · exact inductionHypothesis pool
      · rename_i process enabled
        split
        · exact inductionHypothesis pool
        · rename_i writes next advanced
          have none : pool.Steps [] pool := .refl
          have one := none.step enabled advanced
          simpa using one.trans (inductionHypothesis _)

end Pool

end Armada.Concurrency
