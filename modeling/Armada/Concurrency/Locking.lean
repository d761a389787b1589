import Armada.Concurrency.ReadCommitted

/-!
# Locks on what is written

`Every kind` says that all statements of a program are of a kind, whatever it reads. Where each
statement locks what it writes and a lock clashes with itself, no two open transactions have
written the same row, and none has written what another commits.
-/

namespace Armada.Concurrency

variable {S : Signature} {α β : Type} {kind : {γ : Type} → Statement S γ → Prop}

/-! ## All statements of a program -/

/-- All statements of a transaction are of one kind. -/
def Txn.Every (kind : {γ : Type} → Statement S γ → Prop) : Txn S β → Prop
  | .done _ => True
  | .fail _ => True
  | .step statement resume => kind statement ∧ ∀ value, (resume value).Every kind

namespace Txn.Every

/-- A body without statements. -/
theorem pure (value : β) : Txn.Every kind (Pure.pure value : Txn S β) := trivial

/-- A body that only fails. -/
theorem fail (error : S.Error) : Txn.Every kind (.fail error : Txn S β) := trivial

/-- A sequence of two such bodies is one. -/
theorem bind {first : Txn S α} {next : α → Txn S β} (every : first.Every kind)
    (continued : ∀ value, (next value).Every kind) : (first >>= next).Every kind := by
  change (first.bind next).Every kind
  induction first with
  | done value => exact continued value
  | fail error => trivial
  | step statement resume inductionHypothesis =>
      exact ⟨every.1, fun value => inductionHypothesis value (every.2 value)⟩

/-- A body of one statement. -/
theorem statement {statement : Statement S β} (own : kind statement) :
    Txn.Every kind (liftM statement : Txn S β) := ⟨own, fun _ => trivial⟩

/-- A check runs no statement. -/
theorem rejectIf (condition : Prop) [Decidable condition] (error : S.Error) :
    (Txn.rejectIf condition error).Every kind := by
  rw [Txn.rejectIf]
  split <;> trivial

/-- Both branches count. -/
theorem ite {condition : Prop} [Decidable condition] {first second : Txn S β}
    (positive : first.Every kind) (negative : second.Every kind) :
    (if condition then first else second).Every kind := by
  split
  · exact positive
  · exact negative

/-- The kind may be widened. -/
theorem mono {wider : {γ : Type} → Statement S γ → Prop} {body : Txn S β} (every : body.Every kind)
    (more : ∀ {γ : Type} (statement : Statement S γ), kind statement → wider statement) :
    body.Every wider := by
  induction body with
  | done value => trivial
  | fail error => trivial
  | step statement resume inductionHypothesis =>
      exact ⟨more statement every.1, fun value => inductionHypothesis value (every.2 value)⟩

end Txn.Every

/-- All statements of a process are of one kind, inside its transactions and outside. -/
def Proc.Every (kind : {γ : Type} → Statement S γ → Prop) : Proc S α → Prop
  | .done _ => True
  | .fail _ => True
  | .call statement resume => kind statement ∧ ∀ result, (resume result).Every kind
  | .transaction body resume => body.Every kind ∧ ∀ result, (resume result).Every kind

namespace Proc.Every

/-- A process without statements. -/
theorem pure (value : α) : Proc.Every kind (Pure.pure value : Proc S α) := trivial

/-- A process that only throws. -/
theorem throw (error : S.Error) : Proc.Every kind (MonadExcept.throw error : Proc S α) := trivial

/-- An answer that is given already takes no statement. -/
theorem ofExcept (result : Except S.Error α) : (Proc.ofExcept result).Every kind := by
  cases result <;> trivial

/-- A sequence of two such processes is one. -/
theorem bind {first : Proc S β} {next : β → Proc S α} (every : first.Every kind)
    (continued : ∀ value, (next value).Every kind) : (first >>= next).Every kind := by
  change (first.bind next).Every kind
  induction first with
  | done value => exact continued value
  | fail error => trivial
  | call statement resume inductionHypothesis =>
      exact ⟨every.1, fun result => inductionHypothesis result (every.2 result)⟩
  | transaction body resume inductionHypothesis =>
      exact ⟨every.1, fun result => inductionHypothesis result (every.2 result)⟩

/-- What is made of the answer does not matter. -/
theorem map {process : Proc S β} (function : β → α) (every : process.Every kind) :
    (function <$> process).Every kind :=
  every.bind fun _ => trivial

/-- A process and the handler of its errors. -/
theorem tryCatch {process : Proc S α} {handler : S.Error → Proc S α} (every : process.Every kind)
    (handled : ∀ error, (handler error).Every kind) :
    (Proc.tryCatch process handler).Every kind := by
  induction process with
  | done value => trivial
  | fail error => exact handled error
  | call statement resume inductionHypothesis =>
      exact ⟨every.1, fun result => inductionHypothesis result (every.2 result)⟩
  | transaction body resume inductionHypothesis =>
      exact ⟨every.1, fun result => inductionHypothesis result (every.2 result)⟩

/-- A statement outside transactions. -/
theorem statement {statement : Statement S β} (own : kind statement) :
    Proc.Every kind (liftM statement : Proc S β) := ⟨own, ofExcept⟩

/-- A transaction whose body is of the kind. -/
theorem transact {body : Txn S β} (every : body.Every kind) : (Proc.transact body).Every kind :=
  ⟨every, ofExcept⟩

/-- A check runs no statement. -/
theorem rejectIf (condition : Prop) [Decidable condition] (error : S.Error) :
    (Proc.rejectIf condition error).Every kind := by
  rw [Proc.rejectIf]
  split <;> trivial

/-- Asking for a value runs no statement. -/
theorem require (value : Option α) (error : S.Error) : (Proc.require value error).Every kind := by
  cases value <;> trivial

/-- Both branches count. -/
theorem ite {condition : Prop} [Decidable condition] {first second : Proc S α}
    (positive : first.Every kind) (negative : second.Every kind) :
    (if condition then first else second).Every kind := by
  split
  · exact positive
  · exact negative

/-- The kind may be widened. -/
theorem mono {wider : {γ : Type} → Statement S γ → Prop} {process : Proc S α}
    (every : process.Every kind)
    (more : ∀ {γ : Type} (statement : Statement S γ), kind statement → wider statement) :
    process.Every wider := by
  induction process with
  | done value => trivial
  | fail error => trivial
  | call statement resume inductionHypothesis =>
      exact ⟨more statement every.1, fun result => inductionHypothesis result (every.2 result)⟩
  | transaction body resume inductionHypothesis =>
      exact ⟨every.1.mono more, fun result => inductionHypothesis result (every.2 result)⟩

/-- The statements of a process are those of its image. -/
theorem of_map {process : Proc S β} {function : β → α} (every : (function <$> process).Every kind) :
    process.Every kind := by
  induction process with
  | done value => trivial
  | fail error => trivial
  | call statement resume inductionHypothesis =>
      exact ⟨every.1, fun result => inductionHypothesis result (every.2 result)⟩
  | transaction body resume inductionHypothesis =>
      exact ⟨every.1, fun result => inductionHypothesis result (every.2 result)⟩

end Proc.Every

/-! ## Locks -/

variable {lock : S.Write → Option S.Lock} {held : List S.Lock} {writes : List S.Write}

/-- What is written is locked, as far as it has a lock. -/
def Covered (lock : S.Write → Option S.Lock) (held : List S.Lock) (writes : List S.Write) : Prop :=
  ∀ write ∈ writes, ∀ own ∈ lock write, own ∈ held

/-- Who has written nothing needs no lock. -/
theorem Covered.nil (held : List S.Lock) : Covered lock held [] := nofun

/-- Writes stay covered as more locks and more writes follow. -/
theorem Covered.append {more : List S.Lock} {further : List S.Write}
    (covered : Covered lock held writes)
    (rest : Covered lock more further) : Covered lock (more ++ held) (writes ++ further) := by
  intro write member own locks
  rcases List.mem_append.mp member with early | late
  · exact List.mem_append_right more (covered write early own locks)
  · exact List.mem_append_left held (rest write late own locks)

/-- The statement locks what it writes. -/
def Statement.Locking (lock : S.Write → Option S.Lock) (statement : Statement S β) : Prop :=
  ∀ input state value writes, statement.Succeeds input state value writes →
    Covered lock (statement.locks input state) writes

/-- What an open transaction has written. -/
def Thread.written : Thread S α → List S.Write
  | .outside _ => []
  | .within _ _ written _ => written

/-- The rest of the thread locks what it writes, and what it has written is locked. -/
structure Thread.Locking (lock : S.Write → Option S.Lock) (thread : Thread S α) : Prop where
  rest : match thread with
    | .outside process => process.Every (Statement.Locking lock)
    | .within body resume _ _ => body.Every (Statement.Locking lock) ∧
        ∀ result, (resume result).Every (Statement.Locking lock)
  covered : Covered lock thread.held thread.written

variable {supplied : S.Input → Prop} {state : S.State} {found next : Thread S α}

/-- Each step of a thread keeps its writes covered by its locks. -/
theorem Thread.Locking.advance {free : List S.Lock → Prop} (locking : found.Locking lock)
    (moves : found.Moves supplied state free writes next) : next.Locking lock := by
  obtain ⟨rest, covered⟩ := locking
  cases moves with
  | call given executed unlocked => exact ⟨rest.2 _, .nil _⟩
  | callFailed given failed => exact ⟨rest.2 _, .nil _⟩
  | begin => exact ⟨rest, .nil _⟩
  | statement given executed unlocked =>
      exact ⟨⟨rest.1.2 _, rest.2⟩, covered.append (rest.1.1 _ _ _ _ executed)⟩
  | statementFailed given failed => exact ⟨rest.2 _, .nil _⟩
  | aborted => exact ⟨rest.2 _, .nil _⟩
  | commit given accepted => exact ⟨rest.2 _, .nil _⟩
  | refused given fault => exact ⟨rest.2 _, .nil _⟩

/-- What a thread commits is covered by locks that are free or its own. -/
theorem Thread.Locking.commits {free : List S.Lock → Prop} (locking : found.Locking lock)
    (moves : found.Moves supplied state free writes next) :
    writes = [] ∨ ∃ locks, (free locks ∨ locks = found.held) ∧ Covered lock locks writes := by
  cases moves with
  | call given executed unlocked =>
      exact .inr ⟨_, .inl unlocked, locking.rest.1 _ _ _ _ executed⟩
  | commit given accepted => exact .inr ⟨_, .inr rfl, locking.covered⟩
  | _ => exact .inl rfl

/-- The two lists write no row in common. -/
def Unshared (lock : S.Write → Option S.Lock) (mine theirs : List S.Write) : Prop :=
  ∀ write ∈ mine, ∀ other ∈ theirs, ∀ own ∈ lock write, lock other ≠ some own

/-- Covered writes of threads with compatible locks touch no row together. -/
theorem Covered.unshared {mine theirs : List S.Lock} {other : List S.Write}
    (reflexive : ∀ lock, S.clash lock lock) (compatible : Compatible mine theirs)
    (covered : Covered lock mine writes) (covers : Covered lock theirs other) :
    Unshared lock writes other := by
  intro write member rival present own locks same
  exact (compatible own (covered write member own locks) own (covers rival present own same)).1
    (reflexive own)

/-- What is written under locks is not what others have locked. -/
theorem Covered.avoids {others : List S.Lock} {own : S.Lock} (covered : Covered lock held writes)
    (reflexive : ∀ lock, S.clash lock lock) (compatible : Compatible held others)
    (locked : own ∈ others) : ∀ write ∈ writes, lock write ≠ some own :=
  fun write member same =>
    (compatible own (covered write member own same) own locked).1 (reflexive own)

namespace System

variable {start system : System S α} {trace : List (Commit S)}

/-- In a run of threads that lock what they write, every thread keeps its writes covered. -/
theorem Steps.locking (steps : start.Steps supplied trace system)
    (initially : ∀ found ∈ start.threads, found.Locking lock) :
    ∀ found ∈ system.threads, found.Locking lock := by
  induction steps with
  | refl => exact initially
  | step prior enabled moves inductionHypothesis =>
      intro found member
      rcases List.mem_or_eq_of_mem_set member with old | rfl
      · exact inductionHypothesis found old
      · exact (inductionHypothesis _ (List.mem_of_getElem? enabled)).advance moves

/-- Requests that start together, each of which locks what it writes. -/
theorem locking_ofPool {pool : Pool S α}
    (every : ∀ process ∈ pool.procs, process.Every (Statement.Locking lock)) :
    ∀ found ∈ (ofPool pool).threads, found.Locking lock := by
  intro found member
  obtain ⟨process, present, rfl⟩ := List.mem_map.mp member
  exact ⟨every process present, .nil _⟩

/-- No two threads ever hold clashing locks. -/
theorem Steps.exclusive (steps : start.Steps supplied trace system) (exclusive : start.Exclusive) :
    system.Exclusive := by
  induction steps with
  | refl => exact exclusive
  | step prior enabled moves inductionHypothesis => exact inductionHypothesis.set enabled moves

variable {thread other : Nat} {rest : Thread S α}

/-- Two open transactions have written no row in common. -/
theorem Steps.unshared (steps : start.Steps supplied trace system)
    (initially : ∀ found ∈ start.threads, found.Locking lock) (exclusive : start.Exclusive)
    (reflexive : ∀ lock, S.clash lock lock) (different : other ≠ thread)
    (enabled : system.threads[thread]? = some found)
    (waiting : system.threads[other]? = some rest) : Unshared lock found.written rest.written := by
  have locking := steps.locking initially
  have mine := locking found (List.mem_of_getElem? enabled)
  have theirs := locking rest (List.mem_of_getElem? waiting)
  have apart := steps.exclusive exclusive thread other found rest different.symm enabled waiting
  exact mine.covered.unshared reflexive apart theirs.covered

/-- No step commits a row that another open transaction has written. -/
theorem Steps.commits_unshared (steps : start.Steps supplied trace system)
    (initially : ∀ found ∈ start.threads, found.Locking lock) (exclusive : start.Exclusive)
    (reflexive : ∀ lock, S.clash lock lock) (different : other ≠ thread)
    (enabled : system.threads[thread]? = some found)
    (waiting : system.threads[other]? = some rest)
    (moves : found.Moves supplied system.state (system.Free thread) writes next) :
    Unshared lock writes rest.written := by
  have locking := steps.locking initially
  have theirs := locking rest (List.mem_of_getElem? waiting)
  rcases (locking found (List.mem_of_getElem? enabled)).commits moves with rfl | ⟨locks, source,
    covered⟩
  · exact nofun
  · rcases source with free | rfl
    · exact covered.unshared reflexive (free other rest different waiting) theirs.covered
    · have apart := steps.exclusive exclusive thread other found rest different.symm enabled waiting
      exact covered.unshared reflexive apart theirs.covered

end System

/-! ## Contracts -/

variable {rely : List S.Lock → S.State → S.State → Prop}
  {guar : List S.Lock → List S.Write → S.State → Prop} {orderly : List S.Write → S.State → Prop}

/-- What a body that locks what it writes commits is locked. -/
theorem Txn.Holds.covered {post : β → List S.Lock → List S.Write → S.State → Prop} {body : Txn S β}
    {written : List S.Write} (holds : body.Holds rely post held written state)
    (every : body.Every (Statement.Locking lock)) (covered : Covered lock held written) :
    body.Holds rely (fun value held written state => post value held written state ∧
      Covered lock held written) held written state := by
  induction body generalizing held written state with
  | done value => exact ⟨holds, covered⟩
  | fail error => trivial
  | step statement resume inductionHypothesis =>
      intro current within input value made executed
      exact inductionHypothesis value (holds current within input value made executed)
        (every.2 value) (covered.append (every.1 _ _ _ _ executed))

/-- A process that locks what it writes commits only what is locked. -/
theorem Proc.Meets.covered {post : Except S.Error α → S.State → Prop} {process : Proc S α}
    (met : process.Meets (.readCommitted rely guar orderly) post state)
    (every : process.Every (Statement.Locking lock)) :
    process.Meets (.readCommitted rely (fun held writes state => guar held writes state ∧
      Covered lock held writes) orderly) post state := by
  induction process generalizing state with
  | done value => exact met
  | fail error => exact met
  | call statement resume inductionHypothesis =>
      intro current within
      obtain ⟨executes, fails⟩ := met current within
      refine ⟨fun input value made executed => ?_, fun error =>
        inductionHypothesis _ (fails error) (every.2 _)⟩
      obtain ⟨allowed, continued⟩ := executes input value made executed
      exact ⟨⟨allowed, every.1 _ _ _ _ executed⟩, fun ordered =>
        inductionHypothesis _ (continued ordered) (every.2 _)⟩
  | transaction body resume inductionHypothesis =>
      intro current within
      obtain ⟨holds, raises⟩ := met current within
      refine ⟨(holds.covered every.1 (.nil _)).mono fun value held written since both last later => ?_,
        raises.mono fun error last fails => inductionHypothesis _ fails (every.2 _)⟩
      obtain ⟨allowed, continued⟩ := both.1 last later
      exact ⟨⟨allowed, both.2⟩, fun ordered => inductionHypothesis _ (continued ordered) (every.2 _)⟩

/-- Where a body fails, a lasting fact still holds. -/
theorem Txn.Raises.carry {raised : S.Error → S.State → Prop} {fact : List S.Lock → S.State → Prop}
    {body : Txn S β} {written : List S.Write} {state : S.State}
    (raises : body.Raises rely raised held written state) (lasting : Txn.Lasting rely fact)
    (initially : fact held state) :
    body.Raises rely (fun error last => raised error last ∧ ∃ locks, fact locks last) held written
      state := by
  induction body generalizing held written state with
  | done value => exact fun last later input error fault =>
      ⟨raises last later input error fault, _, lasting.stable initially later⟩
  | fail error => exact fun last later => ⟨raises last later, _, lasting.stable initially later⟩
  | step statement resume inductionHypothesis =>
      intro next within input
      have still := lasting.stable initially within
      exact ⟨fun error failed => ⟨(raises next within input).1 error failed, _, still⟩,
        fun value writes executed => inductionHypothesis value
          ((raises next within input).2 value writes executed) (lasting.grows _ still)⟩

/-- A fact of the store that neither the others nor the process itself undo holds to its end. -/
theorem Proc.Meets.keep {post : Except S.Error α → S.State → Prop} {fact : S.State → Prop}
    {process : Proc S α} {state : S.State}
    (met : process.Meets (.readCommitted rely guar orderly) post state)
    (stable : ∀ {held before after}, fact before → rely held before after → fact after)
    (own : ∀ {held writes state}, fact state → guar held writes state →
      fact (S.applyAll writes state))
    (initially : fact state) :
    process.Meets (.readCommitted rely guar orderly) (fun result state =>
      post result state ∧ fact state)
      state := by
  have lasting : Txn.Lasting rely fun _ state => fact state := ⟨stable, fun _ same => same⟩
  induction process generalizing state with
  | done value => exact ⟨met, initially⟩
  | fail error => exact ⟨met, initially⟩
  | call statement resume inductionHypothesis =>
      intro next within
      obtain ⟨executes, fails⟩ := met next within
      have still := stable initially within
      refine ⟨fun input value made executed => ?_, fun error =>
        inductionHypothesis _ (fails error) still⟩
      obtain ⟨allowed, continued⟩ := executes input value made executed
      exact ⟨allowed, fun ordered => inductionHypothesis _ (continued ordered) (own still allowed)⟩
  | transaction body resume inductionHypothesis =>
      intro next within
      obtain ⟨holds, raises⟩ := met next within
      have still := stable initially within
      refine ⟨(holds.carry lasting still).mono fun value held written since both last later => ?_,
        (raises.carry lasting still).mono fun error last ⟨fails, _, kept⟩ =>
          inductionHypothesis _ fails kept⟩
      obtain ⟨allowed, continued⟩ := both.1 last later
      exact ⟨allowed, fun ordered =>
        inductionHypothesis _ (continued ordered) (own (stable both.2 later) allowed)⟩

/-- A call that writes nothing: what it returns is true of the state it is made in. -/
theorem Proc.Meets.reading {statement : Statement S β} {post : Except S.Error β → S.State → Prop}
    {state : S.State} (silent : ∀ input state value writes,
      statement.Succeeds input state value writes → writes = [])
    (quiet : ∀ held state, guar held [] state)
    (read : ∀ next, rely [] state next → (∀ input value, statement.Succeeds input next value [] →
      post (.ok value) next) ∧ ∀ error, post (.error error) next) :
    (liftM statement : Proc S β).Meets (.readCommitted rely guar orderly) post state := by
  rw [Proc.meets_lift]
  intro next within
  refine ⟨fun input value writes executed => ?_, (read next within).2⟩
  obtain rfl := silent _ _ _ _ executed
  exact ⟨quiet _ _, fun _ => (read next within).1 input value executed⟩

/-- Statements each of which does only what is allowed under its own locks, where what is allowed
holds of all that a transaction writes if it holds write by write. -/
theorem Txn.Every.holds {allowed : S.Write → Prop} {body : Txn S β} {written : List S.Write}
    {held : List S.Lock} {state : S.State}
    (every : body.Every fun statement => ∀ input state value writes,
      statement.Succeeds input state value writes → ∀ write ∈ writes, allowed write)
    (initially : ∀ write ∈ written, allowed write) :
    body.Holds rely (fun _ _ made _ => ∀ write ∈ made, allowed write) held written state := by
  induction body generalizing held written state with
  | done value => exact initially
  | fail error => trivial
  | step statement resume inductionHypothesis =>
      intro current within input value made executed
      refine inductionHypothesis value (every.2 value) fun write member => ?_
      rcases List.mem_append.mp member with early | late
      · exact initially write early
      · exact every.1 _ _ _ _ executed write late

/-- A process whose statements all write what is allowed commits nothing else. -/
theorem Proc.Every.commits {allowed : S.Write → Prop} {process : Proc S α}
    (every : process.Every fun statement => ∀ input state value writes,
      statement.Succeeds input state value writes → ∀ write ∈ writes, allowed write)
    (permits : ∀ held writes state, (∀ write ∈ writes, allowed write) → guar held writes state) :
    process.Commits (.readCommitted rely guar orderly) := by
  induction process with
  | done value => exact fun _ => trivial
  | fail error => exact fun _ => trivial
  | call statement resume inductionHypothesis =>
      exact fun state current within => ⟨fun input value writes executed =>
        ⟨permits _ _ _ (every.1 _ _ _ _ executed), fun _ => inductionHypothesis _ (every.2 _) _⟩,
        fun error => inductionHypothesis _ (every.2 _) _⟩
  | transaction body resume inductionHypothesis =>
      refine fun state current within => ⟨?_, ?_⟩
      · refine (every.1.holds (List.forall_mem_nil _)).mono
          fun value held written since all last later => ?_
        exact ⟨permits _ _ _ all, fun _ => inductionHypothesis _ (every.2 _) _⟩
      · exact .always (fun error last => inductionHypothesis _ (every.2 _) last) body [] [] current

end Armada.Concurrency
