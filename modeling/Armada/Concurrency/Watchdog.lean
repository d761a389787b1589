import Mathlib.Data.List.Basic

/-!
# Watchdogs

A peer is probed at intervals, and each probe sets a deadline for the answer; an answer takes
the deadline away, and the next probe sets it anew. A peer whose deadline passes is given up.
Who takes the timers may be late, so a bound holds as far as the lateness is bounded.
-/

namespace Armada.Concurrency

/-- How often a peer is probed, and how long it has to answer. -/
structure Watchdog where
  every : Nat
  patience : Nat

namespace Watchdog

/-- A peer is not watched, or there is a time of its next probe and maybe a deadline. -/
inductive Phase where
  | off
  | on (probe : Nat) (deadline : Option Nat)
  deriving DecidableEq

/-- What may happen to a watchdog. -/
inductive Move where
  | idle
  | start
  | probe
  | answer
  | expire
  | stop
  deriving DecidableEq

/-- What a move may do at a time. An answer of a peer that is not watched is ignored. -/
inductive Step (dog : Watchdog) (now : Nat) : Phase → Move → Phase → Prop where
  | idle (phase : Phase) : Step dog now phase .idle phase
  | start : Step dog now .off .start (.on (now + dog.every) none)
  | probe {due : Nat} {deadline : Option Nat} (ripe : due ≤ now) :
      Step dog now (.on due deadline) .probe (.on (now + dog.every) (some (now + dog.patience)))
  | answer {due : Nat} {deadline : Option Nat} :
      Step dog now (.on due deadline) .answer (.on due none)
  | ignored : Step dog now .off .answer .off
  | expire {due deadline : Nat} (passed : deadline ≤ now) :
      Step dog now (.on due (some deadline)) .expire .off
  | stop {due : Nat} {deadline : Option Nat} : Step dog now (.on due deadline) .stop .off

/-- No timer of the phase is overdue by more than the slack. -/
def Punctual (slack now : Nat) : Phase → Prop
  | .off => True
  | .on due deadline => now ≤ due + slack ∧ ∀ last ∈ deadline, now ≤ last + slack

/-- Moves at times that do not go back; the phase and the time before each are as allowed. -/
inductive Runs (dog : Watchdog) (allowed : Nat → Phase → Prop) (begun : Nat) (first : Phase) :
    List (Nat × Move) → Nat → Phase → Prop where
  | refl : Runs dog allowed begun first [] begun first
  | step {moves : List (Nat × Move)} {now next : Nat} {phase after : Phase} {move : Move}
      (prior : Runs dog allowed begun first moves now phase) (later : now ≤ next)
      (permitted : allowed next phase) (stepped : dog.Step next phase move after) :
      Runs dog allowed begun first (moves ++ [(next, move)]) next after

variable {dog : Watchdog} {allowed : Nat → Phase → Prop} {begun now slack : Nat}
  {first phase : Phase} {moves : List (Nat × Move)}

/-- A watchdog that has expired is off. -/
theorem Step.off_of_expire {after : Phase} (step : dog.Step now phase .expire after) :
    after = .off := by
  cases step
  rfl

/-! ## Who is given up -/

/-- A deadline is that of the last probe, and nothing has happened since. -/
theorem Runs.probed (runs : dog.Runs allowed begun .off moves now phase) {due deadline : Nat}
    (waiting : phase = .on due (some deadline)) :
    ∃ earlier rest asked, moves = earlier ++ (asked, .probe) :: rest ∧
      deadline = asked + dog.patience ∧ ∀ step ∈ rest, step.2 = .idle := by
  induction runs with
  | refl => cases waiting
  | @step moves now next before after move prior later permitted stepped inductionHypothesis =>
      cases stepped with
      | idle =>
          obtain ⟨earlier, rest, asked, rfl, limit, idle⟩ := inductionHypothesis waiting
          refine ⟨earlier, rest ++ [(next, .idle)], asked, by simp, limit, fun step member => ?_⟩
          rcases List.mem_append.mp member with old | new
          · exact idle step old
          · rw [List.mem_singleton.mp new]
      | probe ripe =>
          cases waiting
          exact ⟨moves, [], next, rfl, rfl, nofun⟩
      | start => cases waiting
      | answer => cases waiting
      | ignored => cases waiting
      | expire passed => cases waiting
      | stop => cases waiting

/-- A run up to one of its moves. -/
theorem Runs.upto (runs : dog.Runs allowed begun first moves now phase) {index time : Nat}
    {move : Move} (taken : moves[index]? = some (time, move)) :
    ∃ last before after, dog.Runs allowed begun first (moves.take index) last before ∧
      last ≤ time ∧ allowed time before ∧ dog.Step time before move after := by
  induction runs with
  | refl => cases taken
  | @step moves now next before after own prior later permitted stepped inductionHypothesis =>
      by_cases inside : index < moves.length
      · rw [List.getElem?_append_left inside] at taken
        rw [List.take_append_of_le_length (Nat.le_of_lt inside)]
        exact inductionHypothesis taken
      · rw [List.getElem?_append_right (Nat.le_of_not_lt inside)] at taken
        have atEnd : index = moves.length := by
          have bounded := (List.getElem?_eq_some_iff.mp taken).1
          simp only [List.length_singleton] at bounded
          omega
        subst atEnd
        simp only [Nat.sub_self, List.getElem?_cons_zero, Option.some.injEq, Prod.mk.injEq] at taken
        obtain ⟨rfl, rfl⟩ := taken
        rw [List.take_left' rfl]
        exact ⟨now, before, after, prior, later, permitted, stepped⟩

/-- Who is given up has been probed, and has not answered for all the time it had. -/
theorem Runs.silent (runs : dog.Runs allowed begun .off moves now phase) {index time : Nat}
    (expired : moves[index]? = some (time, .expire)) :
    ∃ probe asked, probe < index ∧ moves[probe]? = some (asked, .probe) ∧
      asked + dog.patience ≤ time ∧
      ∀ between step, probe < between → between < index → moves[between]? = some step →
        step.2 = .idle := by
  obtain ⟨last, before, after, prior, _, _, stepped⟩ := runs.upto expired
  have bounded : index < moves.length := (List.getElem?_eq_some_iff.mp expired).1
  cases stepped with
  | expire passed =>
      obtain ⟨earlier, rest, asked, split, rfl, idle⟩ := prior.probed rfl
      have counted : earlier.length + (rest.length + 1) = index := by
        have counted := congrArg List.length split
        simp only [List.length_take, List.length_append, List.length_cons] at counted
        omega
      have same : ∀ between, between < index →
          moves[between]? = (earlier ++ (asked, .probe) :: rest)[between]? := by
        intro between inside
        rw [← split, List.getElem?_take_of_lt inside]
      refine ⟨earlier.length, asked, by omega, ?_, passed, ?_⟩
      · rw [same _ (by omega)]
        simp
      · intro between step later inside found
        rw [same between inside, List.getElem?_append_right (Nat.le_of_lt later)] at found
        obtain ⟨offset, shifted⟩ := Nat.exists_eq_add_of_lt later
        rw [show between - earlier.length = offset + 1 by omega, List.getElem?_cons_succ] at found
        exact idle step (List.mem_of_getElem? found)

/-! ## How long it takes -/

/-- The next probe is never further away than one interval. -/
theorem Runs.due_le (runs : dog.Runs allowed begun .off moves now phase) {due : Nat}
    {deadline : Option Nat} (watched : phase = .on due deadline) : due ≤ now + dog.every := by
  induction runs generalizing deadline with
  | refl => cases watched
  | @step moves now next before after move prior later permitted stepped inductionHypothesis =>
      cases stepped with
      | idle =>
          have soon := inductionHypothesis watched
          omega
      | answer =>
          cases watched
          have soon := inductionHypothesis rfl
          omega
      | start => cases watched; exact Nat.le_refl _
      | probe ripe => cases watched; exact Nat.le_refl _
      | ignored => cases watched
      | expire passed => cases watched
      | stop => cases watched

/-- A peer that has been silent since a time: either its next probe is near, or it has been
probed, and its deadline passes before it is probed again. -/
def Doomed (dog : Watchdog) (slack since now : Nat) : Phase → Prop
  | .off => True
  | .on due deadline =>
      due ≤ since + dog.every ∧ now ≤ since + dog.every + slack ∨
        ∃ last ∈ deadline, last ≤ since + dog.every + slack + dog.patience ∧ last + slack < due ∧
          now ≤ since + dog.every + dog.patience + 2 * slack

/-- A doomed dog stays doomed while it is neither answered nor started anew. -/
theorem Doomed.step {since next : Nat} {after : Phase} {move : Move}
    (prompt : dog.patience + slack < dog.every) (doomed : dog.Doomed slack since now phase)
    (punctual : Punctual slack next phase) (stepped : dog.Step next phase move after)
    (unanswered : move ≠ .answer) (unstarted : move ≠ .start) :
    dog.Doomed slack since next after := by
  cases stepped with
  | idle =>
      cases phase with
      | off => trivial
      | on due deadline =>
          rcases doomed with ⟨soon, _⟩ | ⟨last, waiting, bounded, first, _⟩
          · exact .inl ⟨soon, by have := punctual.1; omega⟩
          · exact .inr ⟨last, waiting, bounded, first, by have := punctual.2 last waiting; omega⟩
  | probe ripe =>
      refine .inr ⟨_, rfl, ?_⟩
      rcases doomed with ⟨soon, _⟩ | ⟨last, waiting, bounded, first, _⟩
      · have prompted := punctual.1
        omega
      · -- the deadline passes first
        have overdue := punctual.2 last waiting
        omega
  | start => exact absurd rfl unstarted
  | answer => exact absurd rfl unanswered
  | ignored => exact absurd rfl unanswered
  | expire passed => trivial
  | stop => trivial

/-- If probes leave enough time for an answer, who does not answer is given up in time. -/
theorem Runs.given_up (prompt : dog.patience + slack < dog.every)
    (runs : dog.Runs (Punctual slack) begun first moves now phase)
    (soon : ∀ due deadline, first = .on due deadline → due ≤ begun + dog.every)
    (unanswered : ∀ step ∈ moves, step.2 ≠ .answer) (unstarted : ∀ step ∈ moves, step.2 ≠ .start)
    (late : begun + dog.every + dog.patience + 2 * slack < now) : phase = .off := by
  have doomed : dog.Doomed slack begun now phase := by
    clear late
    induction runs with
    | refl =>
        cases first with
        | off => trivial
        | on due deadline => exact .inl ⟨soon due deadline rfl, by omega⟩
    | @step moves now next before after move prior later permitted stepped inductionHypothesis =>
        have last : (next, move) ∈ moves ++ [(next, move)] := by simp
        refine (inductionHypothesis ?_ ?_).step prompt permitted stepped (unanswered _ last)
          (unstarted _ last)
        · exact fun step member => unanswered step (List.mem_append_left _ member)
        · exact fun step member => unstarted step (List.mem_append_left _ member)
  cases phase with
  | off => rfl
  | on due deadline =>
      rcases doomed with ⟨_, early⟩ | ⟨_, _, _, _, early⟩
      · omega
      · omega

/-- If probes follow each other faster than the deadlines pass, a deadline is always later
than the next probe. -/
theorem Runs.outrun (hasty : dog.every + slack < dog.patience)
    (runs : dog.Runs allowed begun .off moves now phase) {due deadline : Nat}
    (waiting : phase = .on due (some deadline)) : due + slack < deadline := by
  induction runs with
  | refl => cases waiting
  | step prior later permitted stepped inductionHypothesis =>
      cases stepped with
      | idle => exact inductionHypothesis waiting
      | probe ripe => cases waiting; omega
      | start => cases waiting
      | answer => cases waiting
      | ignored => cases waiting
      | expire passed => cases waiting
      | stop => cases waiting

/-- Then nobody is ever given up. -/
theorem Runs.never_expires (hasty : dog.every + slack < dog.patience)
    (runs : dog.Runs (Punctual slack) begun .off moves now phase) {index time : Nat} :
    moves[index]? ≠ some (time, .expire) := by
  intro expired
  obtain ⟨last, before, after, prior, _, punctual, stepped⟩ := runs.upto expired
  cases stepped with
  | @expire due deadline passed =>
      have probed := punctual.1
      have outrun := prior.outrun hasty rfl
      omega

end Watchdog

end Armada.Concurrency
