import Armada.Concurrency.Contracts
import Armada.Concurrency.RelyGuarantee

/-!
# Interleaved transactions with locks

The store under READ COMMITTED. A statement of an open transaction sees what has
been committed when it runs, and the transaction's own writes; it waits for its
locks, which the transaction keeps to its end, when its writes are committed as a
whole or dropped. What a transaction may rely on therefore depends on the locks it
holds, and `System.Steps.sound` turns contracts in these terms into a statement
about each run.
-/

namespace Armada.Concurrency

variable {S : Signature} {α β : Type}

/-! ## Execution -/

/-- A request between two statements: outside of any transaction, or in one that has
made some writes and holds some locks. -/
inductive Thread (S : Signature) (α : Type) : Type 1 where
  | outside (process : Proc S α)
  | within {β : Type} (body : Txn S β) (resume : Except S.Error β → Proc S α)
      (written : List S.Write) (held : List S.Lock)

/-- The locks a thread holds: none outside a transaction. -/
def Thread.held : Thread S α → List S.Lock
  | .outside _ => []
  | .within _ _ _ held => held

/-- No lock of one list clashes with one of the other. -/
def Compatible (left right : List S.Lock) : Prop :=
  ∀ mine ∈ left, ∀ yours ∈ right, ¬S.clash mine yours ∧ ¬S.clash yours mine

/-- Two sets of locks clash or not whichever is named first. -/
theorem Compatible.symm {left right : List S.Lock} (compatible : Compatible left right) :
    Compatible right left := fun mine member yours other =>
  (compatible yours other mine member).symm

/-- Who holds no lock clashes with nobody. -/
theorem Compatible.nil (left : List S.Lock) : Compatible left ([] : List S.Lock) :=
  fun _ _ _ member => by cases member

/-- Locks that are taken in turn clash with no lock that neither part clashes with. -/
theorem Compatible.append {first second right : List S.Lock} (left : Compatible first right)
    (rest : Compatible second right) : Compatible (first ++ second) right := by
  intro mine member
  rcases List.mem_append.mp member with early | late
  · exact left mine early
  · exact rest mine late

/-- One step of a thread, given what the environment may supply and which locks are free:
what it commits, if anything, and how it goes on. -/
inductive Thread.Moves (supplied : S.Input → Prop) (state : S.State)
    (free : List S.Lock → Prop) : Thread S α → List S.Write → Thread S α → Prop where
  | call {β : Type} {statement : Statement S β} {resume : Except S.Error β → Proc S α}
      {input : S.Input} {value : β} {writes : List S.Write} (given : supplied input)
      (executed : statement.Succeeds input state value writes)
      (unlocked : free (statement.locks input state)) :
      Moves supplied state free (.outside (.call statement resume)) writes
        (.outside (resume (.ok value)))
  | callFailed {β : Type} {statement : Statement S β} {resume : Except S.Error β → Proc S α}
      {input : S.Input} {error : S.Error} (given : supplied input)
      (failed : statement.exec input state = .error error) :
      Moves supplied state free (.outside (.call statement resume)) []
        (.outside (resume (.error error)))
  | begin {β : Type} {body : Txn S β} {resume : Except S.Error β → Proc S α} :
      Moves supplied state free (.outside (.transaction body resume)) [] (.within body resume [] [])
  | statement {β γ : Type} {statement : Statement S γ} {next : γ → Txn S β}
      {resume : Except S.Error β → Proc S α} {written writes : List S.Write} {held : List S.Lock}
      {input : S.Input} {value : γ} (given : supplied input)
      (executed : statement.Succeeds input (S.applyAll written state) value writes)
      (unlocked : free (statement.locks input (S.applyAll written state))) :
      Moves supplied state free (.within (.step statement next) resume written held) []
        (.within (next value) resume (written ++ writes)
          (statement.locks input (S.applyAll written state) ++ held))
  | statementFailed {β γ : Type} {statement : Statement S γ} {next : γ → Txn S β}
      {resume : Except S.Error β → Proc S α} {written : List S.Write} {held : List S.Lock}
      {input : S.Input} {error : S.Error} (given : supplied input)
      (failed : statement.exec input (S.applyAll written state) = .error error) :
      Moves supplied state free (.within (.step statement next) resume written held) []
        (.outside (resume (.error error)))
  | aborted {β : Type} {resume : Except S.Error β → Proc S α} {written : List S.Write}
      {held : List S.Lock} {error : S.Error} :
      Moves supplied state free (.within (.fail error) resume written held) []
        (.outside (resume (.error error)))
  | commit {β : Type} {resume : Except S.Error β → Proc S α} {written : List S.Write}
      {held : List S.Lock} {input : S.Input} {value : β} (given : supplied input)
      (accepted : S.fault input = none) :
      Moves supplied state free (.within (.done value) resume written held) written
        (.outside (resume (.ok value)))
  | refused {β : Type} {resume : Except S.Error β → Proc S α} {written : List S.Write}
      {held : List S.Lock} {input : S.Input} {value : β} {error : S.Error}
      (given : supplied input) (fault : S.fault input = some error) :
      Moves supplied state free (.within (.done value) resume written held) []
        (.outside (resume (.error error)))

/-- A state and the threads that share it. -/
structure System (S : Signature) (α : Type) where
  state : S.State
  threads : List (Thread S α)

/-- The locks are compatible with those that the other threads hold. -/
def System.Free (system : System S α) (thread : Nat) (locks : List S.Lock) : Prop :=
  ∀ (other : Nat) found, other ≠ thread → system.threads[other]? = some found →
    Compatible locks found.held

/-- Zero or more steps of any threads in any order, with what each of them commits. -/
inductive System.Steps (supplied : S.Input → Prop) (start : System S α) :
    List (Commit S) → System S α → Prop where
  | refl : Steps supplied start [] start
  | step {trace : List (Commit S)} {system : System S α} {thread : Nat} {found next : Thread S α}
      {writes : List S.Write} (prior : Steps supplied start trace system)
      (enabled : system.threads[thread]? = some found)
      (moves : found.Moves supplied system.state (system.Free thread) writes next) :
      Steps supplied start (trace ++ [⟨thread, system.state, writes⟩])
        ⟨S.applyAll writes system.state, system.threads.set thread next⟩

/-- The process of the thread has ended with a result. -/
def System.Ended (system : System S α) (thread : Nat) (result : Except S.Error α) : Prop :=
  ∃ process, system.threads[thread]? = some (.outside process) ∧ process.finished = some result

/-- Requests that start together. -/
def System.ofPool (pool : Pool S α) : System S α where
  state := pool.state
  threads := pool.procs.map .outside

/-! ## Schedules -/

/-- What a thread does next, with what it commits, unless it has ended or a lock that it
needs is not free. -/
def Thread.advance (free : List S.Lock → Bool) (input : S.Input) (state : S.State) :
    Thread S α → Option (List S.Write × Thread S α)
  | .outside (.done _) => none
  | .outside (.fail _) => none
  | .outside (.call statement resume) =>
      match statement.exec input state with
      | .error error => some ([], .outside (resume (.error error)))
      | .ok (value, writes) =>
          if free (statement.locks input state) then some (writes, .outside (resume (.ok value)))
          else none
  | .outside (.transaction body resume) => some ([], .within body resume [] [])
  | .within (.done value) resume written _ =>
      match S.fault input with
      | some error => some ([], .outside (resume (.error error)))
      | none => some (written, .outside (resume (.ok value)))
  | .within (.fail error) resume _ _ => some ([], .outside (resume (.error error)))
  | .within (.step statement next) resume written held =>
      match statement.exec input (S.applyAll written state) with
      | .error error => some ([], .outside (resume (.error error)))
      | .ok (value, writes) =>
          if free (statement.locks input (S.applyAll written state)) then
            some ([], .within (next value) resume (written ++ writes)
              (statement.locks input (S.applyAll written state) ++ held))
          else none

/-- An executed step is a step of the relation. -/
theorem Thread.moves_of_advance {supplied : S.Input → Prop} {free : List S.Lock → Bool}
    {unlocked : List S.Lock → Prop} (isFree : ∀ locks, free locks = true → unlocked locks)
    {input : S.Input} (given : supplied input) {state : S.State} {thread next : Thread S α}
    {writes : List S.Write} (advanced : thread.advance free input state = some (writes, next)) :
    thread.Moves supplied state unlocked writes next := by
  cases thread with
  | outside process =>
      cases process with
      | done value => cases advanced
      | fail error => cases advanced
      | transaction body resume =>
          cases advanced
          exact .begin
      | call statement resume =>
          rw [advance] at advanced
          split at advanced
          · rename_i error failed
            cases advanced
            exact .callFailed given failed
          · rename_i value made executed
            split at advanced
            · rename_i available
              cases advanced
              exact .call given executed (isFree _ available)
            · cases advanced
  | within body resume written held =>
      cases body with
      | fail error =>
          cases advanced
          exact .aborted
      | done value =>
          rw [advance] at advanced
          split at advanced
          · rename_i error fault
            cases advanced
            exact .refused given fault
          · rename_i accepted
            cases advanced
            exact .commit given accepted
      | step statement next =>
          rw [advance] at advanced
          split at advanced
          · rename_i error failed
            cases advanced
            exact .statementFailed given failed
          · rename_i value made executed
            split at advanced
            · rename_i available
              cases advanced
              exact .statement given executed (isFree _ available)
            · cases advanced

namespace System

section Play

variable [DecidableRel S.clash]

/-- The locks are compatible with those that the other threads hold, as a test. -/
def isFree (system : System S α) (thread : Nat) (locks : List S.Lock) : Bool :=
  (List.range system.threads.length).all fun other => other = thread ||
    system.threads[other]?.all fun found =>
      locks.all fun mine => found.held.all fun yours => !S.clash mine yours && !S.clash yours mine

/-- The check of the other threads' locks is sound. -/
theorem free_of_isFree {system : System S α} {thread : Nat} {locks : List S.Lock}
    (isFree : system.isFree thread locks = true) : system.Free thread locks := by
  intro other found different atOther mine member yours isHeld
  have bounded : other < system.threads.length := (List.getElem?_eq_some_iff.mp atOther).1
  have tested := List.all_eq_true.mp isFree other (List.mem_range.mpr bounded)
  simp only [different, decide_false, Bool.false_or, atOther, Option.all_some, List.all_eq_true] at tested
  simpa using tested mine member yours isHeld

/-- Run a schedule; a turn of a thread that cannot move is skipped. -/
def play : List (Nat × S.Input) → System S α → List (Commit S) × System S α
  | [], system => ([], system)
  | (thread, input) :: schedule, system =>
      match system.threads[thread]? with
      | none => play schedule system
      | some found =>
          match found.advance (system.isFree thread) input system.state with
          | none => play schedule system
          | some (writes, next) =>
              let rest := play schedule
                ⟨S.applyAll writes system.state, system.threads.set thread next⟩
              (⟨thread, system.state, writes⟩ :: rest.1, rest.2)

end Play

/-- Two runs that meet are one run, whose trace is the two traces in order. -/
theorem Steps.trans {supplied : S.Input → Prop} {start middle final : System S α}
    {first second : List (Commit S)} (prior : start.Steps supplied first middle)
    (suffix : middle.Steps supplied second final) : start.Steps supplied (first ++ second) final := by
  induction suffix with
  | refl => simpa using prior
  | step _ enabled moves inductionHypothesis =>
      simpa using Steps.step inductionHypothesis enabled moves

/-- What `play` computes is a run on the inputs of the schedule. -/
theorem play_steps_of [DecidableRel S.clash] {supplied : S.Input → Prop}
    (schedule : List (Nat × S.Input)) (given : ∀ turn ∈ schedule, supplied turn.2)
    (system : System S α) :
    system.Steps supplied (system.play schedule).1 (system.play schedule).2 := by
  induction schedule generalizing system with
  | nil => exact .refl
  | cons turn schedule inductionHypothesis =>
      obtain ⟨thread, input⟩ := turn
      have later : ∀ turn ∈ schedule, supplied turn.2 :=
        fun turn member => given turn (List.mem_cons_of_mem _ member)
      rw [play]
      split
      · exact inductionHypothesis later system
      · rename_i found enabled
        split
        · exact inductionHypothesis later system
        · rename_i writes next advanced
          have none : system.Steps supplied [] system := .refl
          have one := none.step enabled (Thread.moves_of_advance (fun _ => free_of_isFree)
            (given _ List.mem_cons_self) advanced)
          simpa using one.trans (inductionHypothesis later _)

/-- What the scheduler plays is a run. -/
theorem play_steps [DecidableRel S.clash] (schedule : List (Nat × S.Input)) (system : System S α) :
    system.Steps (fun _ => True) (system.play schedule).1 (system.play schedule).2 :=
  play_steps_of schedule (fun _ _ => trivial) system

end System

/-! ## Contracts -/

namespace Txn

/-- The body, holding locks and having made writes, goes on to its end with a value,
locks and writes as in `post`, if the others stay within `rely` of the locks held. -/
def Holds (rely : List S.Lock → S.State → S.State → Prop)
    (post : β → List S.Lock → List S.Write → S.State → Prop) :
    Txn S β → List S.Lock → List S.Write → S.State → Prop
  | .done value, held, written, state => post value held written state
  | .fail _, _, _, _ => True
  | .step statement resume, held, written, state => ∀ next, rely held state next →
      ∀ input value writes, statement.Succeeds input (S.applyAll written next) value writes →
        Holds rely post (resume value) (statement.locks input (S.applyAll written next) ++ held)
          (written ++ writes) next

variable {rely : List S.Lock → S.State → S.State → Prop}
  {post : β → List S.Lock → List S.Write → S.State → Prop}
  {held : List S.Lock} {written : List S.Write} {state : S.State}

/-- A body that ends at once has what its postcondition says of the start. -/
@[simp] theorem holds_pure (value : β) :
    (pure value : Txn S β).Holds rely post held written state ↔ post value held written state :=
  Iff.rfl

/-- A body that fails promises nothing. -/
@[simp] theorem holds_fail (error : S.Error) :
    (fail error : Txn S β).Holds rely post held written state := trivial

/-- A statement runs in some state that the others may have left, on top of the
body's own writes. -/
@[simp] theorem holds_lift (statement : Statement S β) :
    (liftM statement : Txn S β).Holds rely post held written state ↔
      ∀ next, rely held state next → ∀ input value writes,
        statement.Succeeds input (S.applyAll written next) value writes →
          post value (statement.locks input (S.applyAll written next) ++ held)
            (written ++ writes) next := Iff.rfl

/-- After a check that rejects, its condition is known to fail. -/
@[simp] theorem holds_rejectIf {condition : Prop} [Decidable condition] {error : S.Error}
    {post : Unit → List S.Lock → List S.Write → S.State → Prop} :
    (rejectIf condition error).Holds rely post held written state ↔
      (¬condition → post () held written state) := by
  rw [rejectIf]
  split
  · rename_i rejected
    simp [rejected]
  · rename_i accepted
    simp only [accepted, not_false_iff, forall_const]
    rfl

/-- A sequence holds if the first part establishes what the second one needs. -/
@[simp] theorem holds_bind (first : Txn S α) (next : α → Txn S β) :
    (first >>= next).Holds rely post held written state ↔
      first.Holds rely (fun value held written state =>
        (next value).Holds rely post held written state) held written state := by
  change (first.bind next).Holds rely post held written state ↔ _
  induction first generalizing held written state with
  | done value => rfl
  | fail error => rfl
  | step statement resume inductionHypothesis =>
      simp only [bind, Holds, inductionHypothesis]

/-- A postcondition may be weakened. -/
theorem Holds.mono {post' : β → List S.Lock → List S.Write → S.State → Prop} {body : Txn S β}
    (holds : body.Holds rely post held written state)
    (weaker : ∀ value held written state, post value held written state →
      post' value held written state) : body.Holds rely post' held written state := by
  induction body generalizing held written state with
  | done value => exact weaker _ _ _ _ holds
  | fail error => trivial
  | step statement resume inductionHypothesis =>
      intro next within input value writes executed
      exact inductionHypothesis _ (holds next within input value writes executed)

/-- The body, holding locks and having made writes, ends, if it does not commit, with an
error as in `raised`, if the others stay within `rely` of the locks held. -/
def Raises (rely : List S.Lock → S.State → S.State → Prop) (raised : S.Error → S.State → Prop) :
    Txn S β → List S.Lock → List S.Write → S.State → Prop
  | .done _, held, _, state => ∀ last, rely held state last → ∀ input error,
      S.fault input = some error → raised error last
  | .fail error, held, _, state => ∀ last, rely held state last → raised error last
  | .step statement resume, held, written, state => ∀ next, rely held state next → ∀ input,
      (∀ error, statement.exec input (S.applyAll written next) = .error error → raised error next) ∧
      ∀ value writes, statement.Succeeds input (S.applyAll written next) value writes →
        Raises rely raised (resume value) (statement.locks input (S.applyAll written next) ++ held)
          (written ++ writes) next

/-- A body that begins with a statement raises what that raises, or what comes after it does. -/
theorem raises_first {raised : S.Error → S.State → Prop} {statement : Statement S α} {next : α → Txn S β} :
    (liftM statement >>= next).Raises rely raised held written state ↔ ∀ last, rely held state last →
      ∀ input, (∀ error, statement.exec input (S.applyAll written last) = .error error →
        raised error last) ∧ ∀ value writes,
          statement.Succeeds input (S.applyAll written last) value writes →
            (next value).Raises rely raised (statement.locks input (S.applyAll written last) ++ held)
              (written ++ writes) last := Iff.rfl

/-- What is said of the errors may be weakened. -/
theorem Raises.mono {raised raised' : S.Error → S.State → Prop} {body : Txn S β}
    (raises : body.Raises rely raised held written state)
    (weaker : ∀ error state, raised error state → raised' error state) :
    body.Raises rely raised' held written state := by
  induction body generalizing held written state with
  | done value =>
      exact fun last later input error fault => weaker _ _ (raises last later input error fault)
  | fail error => exact fun last later => weaker _ _ (raises last later)
  | step statement resume inductionHypothesis =>
      exact fun next within input => ⟨fun error failed =>
        weaker _ _ ((raises next within input).1 error failed),
        fun value writes executed =>
          inductionHypothesis _ ((raises next within input).2 value writes executed)⟩

/-- Nothing needs proof of a body whose errors are all allowed. -/
theorem Raises.always {raised : S.Error → S.State → Prop} (all : ∀ error state, raised error state)
    (body : Txn S β) (held : List S.Lock) (written : List S.Write) (state : S.State) :
    body.Raises rely raised held written state := by
  induction body generalizing held written state with
  | done value => exact fun last _ _ error _ => all error last
  | fail error => exact fun last _ => all error last
  | step statement resume inductionHypothesis =>
      exact fun next _ input => ⟨fun error _ => all error next,
        fun value writes _ => inductionHypothesis value _ _ next⟩

/-- The errors of a body, whatever it reads, are of a kind. -/
def Throws (kind : S.Error → Prop) : Txn S β → Prop
  | .done _ => ∀ input error, S.fault input = some error → kind error
  | .fail error => kind error
  | .step statement resume => (∀ input state error, statement.exec input state = .error error →
      kind error) ∧ ∀ value, Throws kind (resume value)

namespace Throws

variable {kind : S.Error → Prop}

/-- A sequence throws what its parts throw. -/
theorem bind {first : Txn S α} {next : α → Txn S β} (throws : first.Throws kind)
    (continued : ∀ value, (next value).Throws kind) : (first >>= next).Throws kind := by
  change (first.bind next).Throws kind
  induction first with
  | done value => exact continued value
  | fail error => exact throws
  | step statement resume inductionHypothesis =>
      exact ⟨throws.1, fun value => inductionHypothesis value (throws.2 value)⟩

/-- A check throws its own error, besides the faults of the database. -/
theorem rejectIf {condition : Prop} [Decidable condition] {error : S.Error} (faults : ∀ input error,
    S.fault input = some error → kind error) (allowed : kind error) :
    (Txn.rejectIf condition error).Throws kind := by
  rw [Txn.rejectIf]
  split
  · exact allowed
  · exact faults

/-- A statement throws what it throws alone. -/
theorem statement {statement : Statement S β} (faults : ∀ input error, S.fault input = some error →
    kind error) (allowed : ∀ input state error, statement.exec input state = .error error →
    kind error) : (liftM statement : Txn S β).Throws kind :=
  ⟨allowed, fun _ => faults⟩

end Throws

/-- A fact that the others keep while the locks are held, and that no further lock
undoes. -/
structure Lasting (rely : List S.Lock → S.State → S.State → Prop)
    (fact : List S.Lock → S.State → Prop) : Prop where
  stable : ∀ {held state next}, fact held state → rely held state next → fact held next
  grows : ∀ {held state} more, fact held state → fact (more ++ held) state

/-- Two assertions that the others respect are one that they respect. -/
theorem Lasting.and {first second : List S.Lock → S.State → Prop} (left : Lasting rely first)
    (right : Lasting rely second) :
    Lasting rely fun held state => first held state ∧ second held state where
  stable both within := ⟨left.stable both.1 within, right.stable both.2 within⟩
  grows more both := ⟨left.grows more both.1, right.grows more both.2⟩

/-- A lock that is held stays held, whatever the others do. -/
theorem Lasting.locked (lock : S.Lock) : Lasting rely fun held _ => lock ∈ held where
  stable member _ := member
  grows more member := List.mem_append_right more member

/-- A lasting fact still holds at the end. -/
theorem Holds.carry {body : Txn S β} {fact : List S.Lock → S.State → Prop}
    (holds : body.Holds rely post held written state) (lasting : Lasting rely fact)
    (initially : fact held state) :
    body.Holds rely (fun value held written state => post value held written state ∧
      fact held state) held written state := by
  induction body generalizing held written state with
  | done value => exact ⟨holds, initially⟩
  | fail error => trivial
  | step statement resume inductionHypothesis =>
      intro next within input value writes executed
      exact inductionHypothesis _ (holds next within input value writes executed)
        (lasting.grows _ (lasting.stable initially within))

/-- The errors of a body are of a kind, and a lasting fact still holds when one is raised. -/
theorem Throws.raises {kind : S.Error → Prop} {raised : S.Error → S.State → Prop}
    {fact : List S.Lock → S.State → Prop} {body : Txn S β} (throws : body.Throws kind)
    (lasting : Lasting rely fact) (initially : fact held state)
    (covered : ∀ error held last, kind error → fact held last → raised error last) :
    body.Raises rely raised held written state := by
  induction body generalizing held written state with
  | done value =>
      exact fun last later input error fault =>
        covered error held last (throws input error fault) (lasting.stable initially later)
  | fail error => exact fun last later => covered error held last throws (lasting.stable initially later)
  | step statement resume inductionHypothesis =>
      intro next within input
      have still := lasting.stable initially within
      exact ⟨fun error failed => covered error held next (throws.1 _ _ _ failed) still,
        fun value writes _ => inductionHypothesis value (throws.2 value) (lasting.grows _ still)⟩

/-- What holds of every result holds of every body. -/
theorem Holds.always (all : ∀ value held written state, post value held written state) (body : Txn S β)
    (held : List S.Lock) (written : List S.Write) (state : S.State) :
    body.Holds rely post held written state := by
  induction body generalizing held written state with
  | done value => exact all _ _ _ _
  | fail error => trivial
  | step statement resume inductionHypothesis =>
      exact fun next _ input value writes _ => inductionHypothesis value _ _ next

/-- No write is taken back. -/
theorem Holds.grows {body : Txn S β} (holds : body.Holds rely post held written state) :
    body.Holds rely (fun value held made state => post value held made state ∧ written <+: made)
      held written state := by
  induction body generalizing held written state with
  | done value => exact ⟨holds, List.prefix_rfl⟩
  | fail error => trivial
  | step statement resume inductionHypothesis =>
      intro next within input value writes executed
      have later := inductionHypothesis _ (holds next within input value writes executed)
      refine later.mono fun _ _ _ _ both => ⟨both.1, ?_⟩
      exact (List.prefix_append written writes).trans both.2

/-- What holds among others holds of a body that runs as one step. -/
theorem Holds.yields {body : Txn S β} (holds : body.Holds rely post held written state)
    (idle : ∀ held, rely held state state) :
    body.Yields (fun value made => ∃ locks, post value locks made state) state written := by
  induction body generalizing held written with
  | done value => exact ⟨held, holds⟩
  | fail error => trivial
  | step statement resume inductionHypothesis =>
      intro input value writes executed
      exact inductionHypothesis _ (holds state (idle held) input value writes executed)

end Txn

/-- Statements interleave. `rely` is what the others may do while locks are held, and
`guar` what may be committed under locks that have been held to that moment. Only what
follows orderly commits is considered. -/
def Discipline.readCommitted (rely : List S.Lock → S.State → S.State → Prop)
    (guar : List S.Lock → List S.Write → S.State → Prop)
    (orderly : List S.Write → S.State → Prop) : Discipline S S.State where
  statement call post state := ∀ next, rely [] state next →
    (∀ input value writes, call.Succeeds input next value writes →
      guar (call.locks input next) writes next ∧
        (orderly writes next → post (.ok value) (S.applyAll writes next))) ∧
    ∀ error, post (.error error) next
  transaction body post state := ∀ next, rely [] state next →
    (body.Holds rely (fun value held written current => ∀ last, rely held current last →
      guar held written last ∧
        (orderly written last → post (.ok value) (S.applyAll written last))) [] [] next) ∧
    body.Raises rely (fun error last => post (.error error) last) [] [] next
  statement_mono weaker met next within :=
    ⟨fun input value writes executed => ⟨((met next within).1 input value writes executed).1,
      fun ordered => weaker _ _ (((met next within).1 input value writes executed).2 ordered)⟩,
      fun error => weaker _ _ ((met next within).2 error)⟩
  transaction_mono weaker met next within :=
    ⟨(met next within).1.mono fun _ _ _ _ committed last later =>
      ⟨(committed last later).1, fun ordered => weaker _ _ ((committed last later).2 ordered)⟩,
      (met next within).2.mono fun error => weaker (.error error)⟩

namespace Proc

variable {rely : List S.Lock → S.State → S.State → Prop}
  {guar : List S.Lock → List S.Write → S.State → Prop} {orderly : List S.Write → S.State → Prop}

/-- A call on its own does only what is allowed under the locks that it takes. -/
theorem Commits.locking {statement : Statement S α}
    (allowed : ∀ state input value writes, statement.Succeeds input state value writes →
      guar (statement.locks input state) writes state) :
    (liftM statement : Proc S α).Commits (.readCommitted rely guar orderly) := by
  intro state
  rw [meets_lift]
  exact fun next _ => ⟨fun input value writes executed =>
    ⟨allowed next input value writes executed, fun _ => trivial⟩, fun _ => trivial⟩

/-- A transaction does only what is allowed under the locks that it has come to hold. -/
theorem Commits.holding {body : Txn S α}
    (allowed : ∀ state, body.Holds rely (fun _ held written current => ∀ last,
      rely held current last → guar held written last) [] [] state) :
    (transact body).Commits (.readCommitted rely guar orderly) := by
  intro state
  rw [meets_transact]
  exact fun next _ => ⟨(allowed next).mono fun _ _ _ _ committed last later =>
    ⟨committed last later, fun _ => trivial⟩, .always (fun _ _ => trivial) body [] [] next⟩

end Proc

namespace System

/-- The contracts of the threads of a system. -/
structure Contract (S : Signature) (α : Type) where
  inv : S.State → Prop
  rely : List S.Lock → S.State → S.State → Prop
  guar : Nat → List S.Lock → List S.Write → S.State → Prop
  post : Nat → Except S.Error α → S.State → Prop
  /-- The commits that are considered. -/
  orderly : List S.Write → S.State → Prop
  relyRefl : ∀ held state, inv state → rely held state state
  relyTrans : ∀ {held first second third}, rely held first second → rely held second third →
    rely held first third
  /-- A commit keeps the invariant, and is what those rely on who hold none of its locks. -/
  compatible : ∀ thread held writes state, inv state → guar thread held writes state →
    orderly writes state → inv (S.applyAll writes state) ∧
      ∀ others, Compatible held others → rely others state (S.applyAll writes state)

/-- The discipline of a thread. -/
abbrev Contract.discipline (contract : Contract S α) (thread : Nat) : Discipline S S.State :=
  .readCommitted contract.rely (contract.guar thread) contract.orderly

/-- What is left to do of a thread meets its contract. -/
def Contract.Within (contract : Contract S α) (thread : Nat) (state : S.State) :
    Thread S α → Prop
  | .outside process => ∃ since, contract.rely [] since state ∧
      process.Meets (contract.discipline thread) (contract.post thread) since
  | .within body resume written held => ∃ since, contract.rely held since state ∧
      body.Holds contract.rely (fun value held written current =>
        ∀ last, contract.rely held current last → contract.guar thread held written last ∧
          (contract.orderly written last → (resume (.ok value)).Meets (contract.discipline thread)
            (contract.post thread) (S.applyAll written last))) held written since ∧
      body.Raises contract.rely (fun error last => (resume (.error error)).Meets
        (contract.discipline thread) (contract.post thread) last) held written since

/-- Every thread of the system is where the contract says it may be. -/
def Contract.Upheld (contract : Contract S α) (system : System S α) : Prop :=
  ∀ (thread : Nat) found, system.threads[thread]? = some found →
    contract.Within thread system.state found

/-- No two threads hold locks that clash. -/
def Exclusive (system : System S α) : Prop :=
  ∀ (thread other : Nat) found rest, thread ≠ other → system.threads[thread]? = some found →
    system.threads[other]? = some rest → Compatible found.held rest.held

variable {supplied : S.Input → Prop} {contract : Contract S α} {system : System S α} {thread : Nat}
  {found next : Thread S α} {writes : List S.Write}

/-- The locks of a thread after its step are its old ones and free ones. -/
theorem held_of_moves {free : List S.Lock → Prop} {state : S.State}
    (moves : found.Moves supplied state free writes next) :
    next.held = [] ∨ ∃ locks, free locks ∧ next.held = locks ++ found.held := by
  cases moves with
  | statement given executed unlocked => exact .inr ⟨_, unlocked, rfl⟩
  | _ => exact .inl rfl

/-- A thread that moves takes only locks that are free, so the others' stay apart from its own. -/
theorem Exclusive.set (exclusive : system.Exclusive) {state : S.State}
    (enabled : system.threads[thread]? = some found)
    (moves : found.Moves supplied system.state (system.Free thread) writes next) :
    (⟨state, system.threads.set thread next⟩ : System S α).Exclusive := by
  have bounded : thread < system.threads.length := (List.getElem?_eq_some_iff.mp enabled).1
  -- what the moved thread holds is compatible with what each other thread holds
  have alone : ∀ (other : Nat) rest, other ≠ thread → system.threads[other]? = some rest →
      Compatible next.held rest.held := by
    intro other rest different atOther
    rcases held_of_moves moves with none | ⟨locks, unlocked, same⟩
    · rw [none]
      exact (Compatible.nil rest.held).symm
    · rw [same]
      exact (unlocked other rest different atOther).append
        (exclusive thread other found rest (Ne.symm different) enabled atOther)
  intro left right first second different atLeft atRight
  simp only [List.getElem?_set] at atLeft atRight
  by_cases leftMoved : thread = left
  · subst leftMoved
    simp only [bounded, if_true, Option.some.injEq] at atLeft
    rw [if_neg different] at atRight
    subst atLeft
    exact alone right second (Ne.symm different) atRight
  · rw [if_neg leftMoved] at atLeft
    by_cases rightMoved : thread = right
    · subst rightMoved
      simp only [bounded, if_true, Option.some.injEq] at atRight
      subst atRight
      exact (alone left first different atLeft).symm
    · rw [if_neg rightMoved] at atRight
      exact exclusive left right first second different atLeft atRight

/-- One step of a thread within its contract: what it commits, if anything, is allowed
under locks that it holds or that are free, and it stays within its contract. -/
theorem Contract.Within.advance {free : List S.Lock → Prop} {state : S.State}
    (within : contract.Within thread state found) (holds : contract.inv state)
    (moves : found.Moves supplied state free writes next) (ordered : contract.orderly writes state) :
    (writes = [] ∨ ∃ locks, (free locks ∨ locks = found.held) ∧
      contract.guar thread locks writes state) ∧
    contract.Within thread (S.applyAll writes state) next := by
  have still : ∀ held, contract.rely held state state := fun held =>
    contract.relyRefl held state holds
  cases moves with
  | call given executed unlocked =>
      obtain ⟨since, relied, met⟩ := within
      obtain ⟨allowed, continued⟩ := (met state relied).1 _ _ _ executed
      have after := (contract.compatible _ _ _ _ holds allowed ordered).1
      exact ⟨.inr ⟨_, .inl unlocked, allowed⟩, _, contract.relyRefl _ _ after, continued ordered⟩
  | callFailed given failed =>
      obtain ⟨since, relied, met⟩ := within
      exact ⟨.inl rfl, state, still [], (met state relied).2 _⟩
  | begin =>
      obtain ⟨since, relied, met⟩ := within
      exact ⟨.inl rfl, state, still [], met state relied⟩
  | statement given executed unlocked =>
      obtain ⟨since, relied, body, aborts⟩ := within
      exact ⟨.inl rfl, state, still _, body state relied _ _ _ executed,
        (aborts state relied _).2 _ _ executed⟩
  | statementFailed given failed =>
      obtain ⟨since, relied, _, aborts⟩ := within
      exact ⟨.inl rfl, state, still [], (aborts state relied _).1 _ failed⟩
  | aborted =>
      obtain ⟨since, relied, _, aborts⟩ := within
      exact ⟨.inl rfl, state, still [], aborts state relied⟩
  | commit given accepted =>
      obtain ⟨since, relied, body, _⟩ := within
      obtain ⟨allowed, continued⟩ := body state relied
      have after := (contract.compatible _ _ _ _ holds allowed ordered).1
      exact ⟨.inr ⟨_, .inr rfl, allowed⟩, _, contract.relyRefl _ _ after, continued ordered⟩
  | refused given fault =>
      obtain ⟨since, relied, _, aborts⟩ := within
      exact ⟨.inl rfl, state, still [], aborts state relied _ _ fault⟩

/-- A thread at rest stays within its contract when others commit what it relies on. -/
theorem Contract.Within.rely {state later : S.State} (within : contract.Within thread state found)
    (relied : contract.rely found.held state later) : contract.Within thread later found := by
  cases found with
  | outside process =>
      obtain ⟨since, before, met⟩ := within
      exact ⟨since, contract.relyTrans before relied, met⟩
  | within body resume written held =>
      obtain ⟨since, before, met⟩ := within
      exact ⟨since, contract.relyTrans before relied, met⟩

/-- Soundness: if every thread meets its contract at the start then every orderly run
keeps the invariant, commits only what the contracts allow, and leaves every thread within
its contract. -/
theorem Steps.sound {start final : System S α} {trace : List (Commit S)}
    (steps : start.Steps supplied trace final) (holds : contract.inv start.state)
    (exclusive : start.Exclusive) (upheld : contract.Upheld start)
    (ordered : ∀ commit ∈ trace, contract.orderly commit.writes commit.before) :
    contract.inv final.state ∧ contract.Upheld final ∧ ∀ commit ∈ trace,
      contract.inv commit.before ∧ (commit.writes = [] ∨ ∃ locks,
        contract.guar commit.thread locks commit.writes commit.before) := by
  suffices whole : final.Exclusive ∧ contract.inv final.state ∧ contract.Upheld final ∧
      ∀ commit ∈ trace, contract.inv commit.before ∧ (commit.writes = [] ∨ ∃ locks,
        contract.guar commit.thread locks commit.writes commit.before) from whole.2
  induction steps with
  | refl => exact ⟨exclusive, holds, upheld, by simp⟩
  | @step trace system thread found next writes prior enabled moves inductionHypothesis =>
      obtain ⟨alone, inv, within, committed⟩ := inductionHypothesis fun commit member =>
        ordered commit (List.mem_append_left _ member)
      have orderedStep : contract.orderly writes system.state :=
        ordered ⟨thread, system.state, writes⟩ (List.mem_append_right _ (List.mem_singleton_self _))
      obtain ⟨commits, moved⟩ := (within thread found enabled).advance inv moves orderedStep
      -- what is committed is compatible with every lock held elsewhere
      have effect : contract.inv (S.applyAll writes system.state) ∧
          ∀ (other : Nat) (rest : Thread S α), other ≠ thread → system.threads[other]? = some rest →
            contract.rely rest.held system.state (S.applyAll writes system.state) := by
        rcases commits with rfl | ⟨locks, source, allowed⟩
        · exact ⟨inv, fun _ rest _ _ => contract.relyRefl rest.held _ inv⟩
        · obtain ⟨after, relied⟩ := contract.compatible _ _ _ _ inv allowed orderedStep
          refine ⟨after, fun other rest different atOther => relied rest.held ?_⟩
          rcases source with unlocked | rfl
          · exact unlocked other rest different atOther
          · exact alone thread other found rest (Ne.symm different) enabled atOther
      refine ⟨alone.set enabled moves, effect.1, fun other rest atOther => ?_, fun commit member => ?_⟩
      · have atOther : (system.threads.set thread next)[other]? = some rest := atOther
        rw [List.getElem?_set] at atOther
        by_cases same : thread = other
        · subst same
          have bounded : thread < system.threads.length := (List.getElem?_eq_some_iff.mp enabled).1
          simp only [bounded, if_true, Option.some.injEq] at atOther
          exact atOther ▸ moved
        · rw [if_neg same] at atOther
          exact (within other rest atOther).rely (effect.2 other rest (Ne.symm same) atOther)
      · rcases List.mem_append.mp member with earlier | last
        · exact committed commit earlier
        · rw [List.mem_singleton.mp last]
          refine ⟨inv, ?_⟩
          rcases commits with none | ⟨locks, _, allowed⟩
          · exact .inl none
          · exact .inr ⟨locks, allowed⟩

/-- What a thread that has ended returned, in terms of the present state. -/
theorem Contract.Upheld.post_of_ended (upheld : contract.Upheld system) {result : Except S.Error α}
    (ended : system.Ended thread result) :
    ∃ since, contract.rely [] since system.state ∧ contract.post thread result since := by
  obtain ⟨process, atThread, finished⟩ := ended
  obtain ⟨since, relied, met⟩ := upheld thread _ atThread
  exact ⟨since, relied, met.post_of_finished finished⟩

/-- Requests that start together meet their contracts if each process does. -/
theorem Contract.upheld_ofPool {pool : Pool S α} (holds : contract.inv pool.state)
    (meets : ∀ (thread : Nat) process, pool.procs[thread]? = some process →
      process.Meets (contract.discipline thread) (contract.post thread) pool.state) : contract.Upheld (ofPool pool) := by
  intro thread found atThread
  simp only [ofPool, List.getElem?_map, Option.map_eq_some_iff] at atThread
  obtain ⟨process, enabled, rfl⟩ := atThread
  exact ⟨pool.state, contract.relyRefl [] _ holds, meets thread process enabled⟩

/-- Threads that have not begun hold no locks. -/
theorem exclusive_ofPool (pool : Pool S α) : (ofPool pool).Exclusive := by
  intro thread other found rest _ atThread _
  simp only [ofPool, List.getElem?_map, Option.map_eq_some_iff] at atThread
  obtain ⟨process, _, rfl⟩ := atThread
  exact (Compatible.nil rest.held).symm

/-! ## What a thread has committed itself -/

/-- Each commit starts where the one before it has ended. -/
theorem Steps.linked {start final : System S α} {trace : List (Commit S)}
    (steps : start.Steps supplied trace final) : Linked start.state trace final.state := by
  induction steps with
  | refl => rfl
  | step _ _ _ inductionHypothesis => exact inductionHypothesis.append ⟨rfl, rfl⟩

/-- What a thread has written by the commits of a trace, in their order. -/
def committed (trace : List (Commit S)) (thread : Nat) : List S.Write :=
  (trace.filter fun commit => commit.thread = thread).flatMap Commit.writes

/-- Every write of a thread stands in one of its commits. -/
theorem mem_committed {trace : List (Commit S)} {write : S.Write} :
    write ∈ committed trace thread ↔ ∃ commit ∈ trace, commit.thread = thread ∧ write ∈ commit.writes := by
  simp [committed, and_assoc]

/-- A commit adds to what its own thread has written and to nobody else's. -/
theorem committed_append {trace : List (Commit S)} {commit : Commit S} :
    committed (trace ++ [commit]) thread =
      if commit.thread = thread then committed trace thread ++ commit.writes else committed trace thread := by
  by_cases same : commit.thread = thread <;> simp [committed, same]

end System

/-- All that is known of a process is what it has committed. -/
def Discipline.own : Discipline S (List S.Write) where
  statement call post written := (∀ state input value writes,
    call.Succeeds input state value writes → post (.ok value) (written ++ writes)) ∧
    ∀ error, post (.error error) written
  transaction body post written := (∀ state, body.Holds (fun _ _ _ => True)
    (fun value _ made _ => post (.ok value) (written ++ made)) [] [] state) ∧
    ∀ error, post (.error error) written
  statement_mono weaker met := ⟨fun state input value writes executed =>
    weaker _ _ (met.1 state input value writes executed), fun error => weaker _ _ (met.2 error)⟩
  transaction_mono weaker met := ⟨fun state => (met.1 state).mono fun _ _ _ _ => weaker _ _,
    fun error => weaker _ _ (met.2 error)⟩

/-- Nothing needs proof where nothing is asked of the writes. -/
theorem Proc.Meets.own_trivial (process : Proc S α) (written : List S.Write) :
    process.Meets .own (fun _ _ => True) written := by
  induction process generalizing written with
  | done value => trivial
  | fail error => trivial
  | call statement resume inductionHypothesis =>
      exact ⟨fun _ _ _ _ _ => inductionHypothesis _ _, fun _ => inductionHypothesis _ _⟩
  | transaction body resume inductionHypothesis =>
      exact ⟨fun state => .always (fun _ _ _ _ => inductionHypothesis _ _) body [] [] state,
        fun _ => inductionHypothesis _ _⟩

/-- What is left to do of a thread that has committed some writes. -/
def Thread.Owns (post : Except S.Error α → List S.Write → Prop) (written : List S.Write) :
    Thread S α → Prop
  | .outside process => process.Meets .own post written
  | .within body resume made held => (∃ state, body.Holds (fun _ _ _ => True)
      (fun value _ made _ => (resume (.ok value)).Meets .own post (written ++ made)) held made state) ∧
      ∀ error, (resume (.error error)).Meets .own post written

/-- A step of the thread adds its writes to the thread's own. -/
theorem Thread.Owns.advance {post : Except S.Error α → List S.Write → Prop} {written writes : List S.Write}
    {thread next : Thread S α} {supplied : S.Input → Prop} {state : S.State}
    {free : List S.Lock → Prop} (owns : thread.Owns post written)
    (moves : thread.Moves supplied state free writes next) : next.Owns post (written ++ writes) := by
  cases moves with
  | call given executed unlocked => exact owns.1 _ _ _ _ executed
  | callFailed given failed =>
      rw [List.append_nil]
      exact owns.2 _
  | begin =>
      rw [List.append_nil]
      exact ⟨⟨state, owns.1 state⟩, owns.2⟩
  | statement given executed unlocked =>
      rw [List.append_nil]
      obtain ⟨⟨since, holds⟩, aborts⟩ := owns
      exact ⟨⟨state, holds state trivial _ _ _ executed⟩, aborts⟩
  | statementFailed given failed =>
      rw [List.append_nil]
      exact owns.2 _
  | aborted =>
      rw [List.append_nil]
      exact owns.2 _
  | commit given accepted =>
      obtain ⟨⟨since, holds⟩, _⟩ := owns
      exact holds
  | refused given fault =>
      rw [List.append_nil]
      exact owns.2 _

/-- In every run each process is within its contract after what it has committed. -/
theorem System.Steps.own {supplied : S.Input → Prop} {state : S.State} {procs : List (Proc S α)}
    {trace : List (Commit S)} {final : System S α}
    (steps : (System.ofPool ⟨state, procs⟩).Steps supplied trace final)
    {post : Nat → Except S.Error α → List S.Write → Prop}
    (meets : ∀ (thread : Nat) process, procs[thread]? = some process →
      process.Meets .own (post thread) []) :
    ∀ (thread : Nat) found, final.threads[thread]? = some found →
      found.Owns (post thread) (committed trace thread) := by
  induction steps with
  | refl =>
      intro thread found atThread
      simp only [ofPool, List.getElem?_map, Option.map_eq_some_iff] at atThread
      obtain ⟨process, enabled, rfl⟩ := atThread
      exact meets thread process enabled
  | @step trace system thread found next writes prior enabled moves inductionHypothesis =>
      intro other rest atOther
      have atOther : (system.threads.set thread next)[other]? = some rest := atOther
      rw [committed_append]
      rw [List.getElem?_set] at atOther
      by_cases same : thread = other
      · subst same
        have bounded : thread < system.threads.length := (List.getElem?_eq_some_iff.mp enabled).1
        simp only [bounded, if_true, Option.some.injEq] at atOther
        subst atOther
        rw [if_pos rfl]
        exact (inductionHypothesis thread found enabled).advance moves
      · rw [if_neg same] at atOther
        rw [if_neg same]
        exact inductionHypothesis other rest atOther

end Armada.Concurrency
