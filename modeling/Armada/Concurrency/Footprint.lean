import Armada.Concurrency.Ledger
import Armada.Concurrency.Past
import Armada.Concurrency.ReadCommitted
import Armada.Concurrency.Sequential
import Armada.Concurrency.Turns

/-!
# What a process can write at all

`Proc.Confined kind process` says that the process writes only what is of a kind, whatever
it reads and whatever the store is. It is checked along the program, and holds of every
step of every run.
-/

namespace Armada.Concurrency

variable {S : Signature} {α β : Type} {kind : S.Write → Prop}

/-- Whatever it finds, the statement makes writes of this kind only. -/
def Statement.Confined (kind : S.Write → Prop) (statement : Statement S β) : Prop :=
  ∀ input state value writes, statement.Succeeds input state value writes →
    ∀ write ∈ writes, kind write

/-- So do the writes it leaves in a state. -/
theorem Statement.Confined.writes {statement : Statement S β} (confined : statement.Confined kind)
    (input : S.Input) (state : S.State) : ∀ write ∈ statement.writes input state, kind write := by
  rcases statement.ends input state with ⟨_, _, none⟩ | ⟨_, _, executed⟩
  · rw [none]
    exact nofun
  · exact confined input state _ _ executed

/-- The kind may be widened. -/
theorem Statement.Confined.mono {wider : S.Write → Prop} {statement : Statement S β}
    (confined : statement.Confined kind) (more : ∀ write, kind write → wider write) :
    statement.Confined wider :=
  fun input state value writes executed write member =>
    more write (confined input state value writes executed write member)

/-- Every statement of a transaction is confined to the kind. -/
def Txn.Confined (kind : S.Write → Prop) : Txn S β → Prop
  | .done _ => True
  | .fail _ => True
  | .step statement resume => statement.Confined kind ∧ ∀ value, (resume value).Confined kind

namespace Txn.Confined

/-- A body without statements. -/
theorem pure (value : β) : Txn.Confined kind (Pure.pure value : Txn S β) := trivial

/-- A body that only fails. -/
theorem fail (error : S.Error) : Txn.Confined kind (.fail error : Txn S β) := trivial

/-- A sequence of two confined bodies is confined. -/
theorem bind {first : Txn S α} {next : α → Txn S β} (confined : first.Confined kind)
    (continued : ∀ value, (next value).Confined kind) : (first >>= next).Confined kind := by
  change (first.bind next).Confined kind
  induction first with
  | done value => exact continued value
  | fail error => trivial
  | step statement resume inductionHypothesis =>
      exact ⟨confined.1, fun value => inductionHypothesis value (confined.2 value)⟩

/-- A body of one statement. -/
theorem statement {statement : Statement S β} (confined : statement.Confined kind) :
    Txn.Confined kind (liftM statement : Txn S β) :=
  ⟨confined, fun _ => trivial⟩

/-- A check makes no writes. -/
theorem rejectIf (condition : Prop) [Decidable condition] (error : S.Error) :
    (Txn.rejectIf condition error).Confined kind := by
  rw [Txn.rejectIf]
  split <;> trivial

/-- A loop is confined by its rounds. -/
theorem forM {γ : Type} {items : List γ} {body : γ → Txn S PUnit}
    (each : ∀ item, (body item).Confined kind) : (items.forM body).Confined kind := by
  induction items with
  | nil => trivial
  | cons item items inductionHypothesis =>
      rw [List.forM]
      exact (each item).bind fun _ => inductionHypothesis

/-- The kind may be widened. -/
theorem mono {wider : S.Write → Prop} {body : Txn S β} (confined : body.Confined kind)
    (more : ∀ write, kind write → wider write) : body.Confined wider := by
  induction body with
  | done value => trivial
  | fail error => trivial
  | step statement resume inductionHypothesis =>
      exact ⟨confined.1.mono more, fun value => inductionHypothesis value (confined.2 value)⟩

/-- What a body commits. -/
theorem committed {body : Txn S β} (confined : body.Confined kind) {inputs : Nat → S.Input}
    {state : S.State} {value : β} {writes : List S.Write}
    (ran : body.run inputs state = .ok (value, writes)) : ∀ write ∈ writes, kind write := by
  induction body generalizing inputs state value writes with
  | done value =>
      rw [Txn.run] at ran
      split at ran
      · cases ran
      · cases ran
        exact List.forall_mem_nil _
  | fail error => cases ran
  | step statement resume inductionHypothesis =>
      intro write member
      rw [Txn.run] at ran
      split at ran
      · cases ran
      rename_i value made executed
      split at ran
      · cases ran
      rename_i answer rest restRan
      cases ran
      rcases List.mem_append.mp member with own | later
      · exact confined.1 _ _ _ _ executed write own
      · exact inductionHypothesis value (confined.2 value) restRan write later

/-- What a body commits when it runs on its own. -/
theorem writes {body : Txn S β} (confined : body.Confined kind) (inputs : Nat → S.Input)
    (state : S.State) : ∀ write ∈ body.writes inputs state, kind write := by
  rw [Txn.writes]
  cases ran : body.run inputs state with
  | error error => exact List.forall_mem_nil _
  | ok outcome => exact confined.committed ran

/-- What a body leaves that is rolled back. -/
theorem left {body : Txn S β} (confined : body.Confined kind) (durable : S.Write → Bool)
    (inputs : Nat → S.Input) (state : S.State) :
    ∀ write ∈ body.left durable inputs state, kind write := by
  induction body generalizing inputs state with
  | done value => exact List.forall_mem_nil _
  | fail error => exact List.forall_mem_nil _
  | step statement resume inductionHypothesis =>
      intro write member
      rw [Txn.left] at member
      split at member
      · cases member
      rename_i value made executed
      rcases List.mem_append.mp member with own | later
      · exact confined.1 _ _ _ _ executed write (List.mem_filter.mp own).1
      · exact inductionHypothesis value (confined.2 value) _ _ write later

/-- A body without durable writes leaves nothing. -/
theorem leaves_nothing {durable : S.Write → Bool} {body : Txn S β}
    (confined : body.Confined fun write => durable write = false) (inputs : Nat → S.Input)
    (state : S.State) : body.left durable inputs state = [] := by
  refine List.eq_nil_iff_forall_not_mem.mpr fun write member => ?_
  have kept := Txn.durable_of_mem_left member
  rw [confined.left durable inputs state write member] at kept
  cases kept

/-- What a body commits, and what it leaves when it is rolled back. -/
theorem effects {body : Txn S β} (confined : body.Confined kind) (durable : S.Write → Bool)
    (inputs : Nat → S.Input) (state : S.State) :
    ∀ write ∈ body.effects durable inputs state, kind write := by
  rw [Txn.effects]
  cases ran : body.run inputs state with
  | error error => exact confined.left durable inputs state
  | ok outcome => exact confined.committed ran

/-- Among the statements of others, too, a body adds writes of the kind, and gives up no
lock. -/
theorem holds {rely : List S.Lock → S.State → S.State → Prop} {body : Txn S β}
    (confined : body.Confined kind) {held : List S.Lock} {written : List S.Write} {state : S.State} :
    body.Holds rely (fun _ locks made _ => (∃ more, made = written ++ more ∧ ∀ write ∈ more, kind write) ∧
      ∀ lock ∈ held, lock ∈ locks) held written state := by
  induction body generalizing held written state with
  | done value => exact ⟨⟨[], (List.append_nil written).symm, nofun⟩, fun _ member => member⟩
  | fail error => trivial
  | step statement resume inductionHypothesis =>
      intro next within input value writes executed
      refine (inductionHypothesis value (confined.2 value)).mono ?_
      rintro _ locks _ _ ⟨⟨more, rfl, all⟩, kept⟩
      refine ⟨⟨writes ++ more, List.append_assoc _ _ _, fun write member => ?_⟩,
        fun lock member => kept lock (List.mem_append_right _ member)⟩
      rcases List.mem_append.mp member with own | later
      · exact confined.1 _ _ _ _ executed write own
      · exact all write later

end Txn.Confined

/-- Every statement of a process is confined to the kind, inside its transactions and outside. -/
def Proc.Confined (kind : S.Write → Prop) : Proc S α → Prop
  | .done _ => True
  | .fail _ => True
  | .call statement resume => statement.Confined kind ∧ ∀ result, (resume result).Confined kind
  | .transaction body resume => body.Confined kind ∧ ∀ result, (resume result).Confined kind

namespace Proc.Confined

/-- A process without statements. -/
theorem pure (value : α) : Proc.Confined kind (Pure.pure value : Proc S α) := trivial

/-- A process that only throws. -/
theorem throw (error : S.Error) : Proc.Confined kind (MonadExcept.throw error : Proc S α) := trivial

/-- An answer that is given already takes no statement. -/
theorem ofExcept (result : Except S.Error α) : (Proc.ofExcept result).Confined kind := by
  cases result <;> trivial

/-- A sequence of two confined processes is confined. -/
theorem bind {first : Proc S β} {next : β → Proc S α} (confined : first.Confined kind)
    (continued : ∀ value, (next value).Confined kind) : (first >>= next).Confined kind := by
  change (first.bind next).Confined kind
  induction first with
  | done value => exact continued value
  | fail error => trivial
  | call statement resume inductionHypothesis =>
      exact ⟨confined.1, fun result => inductionHypothesis result (confined.2 result)⟩
  | transaction body resume inductionHypothesis =>
      exact ⟨confined.1, fun result => inductionHypothesis result (confined.2 result)⟩

/-- What is made of the answer does not matter. -/
theorem map {process : Proc S β} (function : β → α) (confined : process.Confined kind) :
    (function <$> process).Confined kind :=
  confined.bind fun _ => trivial

/-- A handler has to be confined too. -/
theorem tryCatch {process : Proc S α} {handler : S.Error → Proc S α} (confined : process.Confined kind)
    (handled : ∀ error, (handler error).Confined kind) :
    (Proc.tryCatch process handler).Confined kind := by
  induction process with
  | done value => trivial
  | fail error => exact handled error
  | call statement resume inductionHypothesis =>
      exact ⟨confined.1, fun result => inductionHypothesis result (confined.2 result)⟩
  | transaction body resume inductionHypothesis =>
      exact ⟨confined.1, fun result => inductionHypothesis result (confined.2 result)⟩

/-- A statement outside transactions. -/
theorem statement {statement : Statement S β} (confined : statement.Confined kind) :
    Proc.Confined kind (liftM statement : Proc S β) :=
  ⟨confined, ofExcept⟩

/-- A transaction of a confined body. -/
theorem transact {body : Txn S β} (confined : body.Confined kind) :
    (Proc.transact body).Confined kind :=
  ⟨confined, ofExcept⟩

/-- A check makes no writes. -/
theorem rejectIf (condition : Prop) [Decidable condition] (error : S.Error) :
    (Proc.rejectIf condition error).Confined kind := by
  rw [Proc.rejectIf]
  split <;> trivial

/-- Asking for a value makes no writes. -/
theorem require (value : Option α) (error : S.Error) : (Proc.require value error).Confined kind := by
  cases value <;> trivial

/-- Both branches count. -/
theorem ite {condition : Prop} [Decidable condition] {first second : Proc S α}
    (positive : first.Confined kind) (negative : second.Confined kind) :
    (if condition then first else second).Confined kind := by
  split
  · exact positive
  · exact negative

/-- A loop is confined by its rounds. -/
theorem forM {γ : Type} {items : List γ} {body : γ → Proc S PUnit}
    (each : ∀ item, (body item).Confined kind) : (items.forM body).Confined kind := by
  induction items with
  | nil => trivial
  | cons item items inductionHypothesis =>
      rw [List.forM]
      exact (each item).bind fun _ => inductionHypothesis

/-- The kind may be widened. -/
theorem mono {wider : S.Write → Prop} {process : Proc S α} (confined : process.Confined kind)
    (more : ∀ write, kind write → wider write) : process.Confined wider := by
  induction process with
  | done value => trivial
  | fail error => trivial
  | call statement resume inductionHypothesis =>
      exact ⟨confined.1.mono more, fun result => inductionHypothesis result (confined.2 result)⟩
  | transaction body resume inductionHypothesis =>
      exact ⟨confined.1.mono more, fun result => inductionHypothesis result (confined.2 result)⟩

/-- A confined process meets a contract that allows what is of the kind. -/
theorem commits {durable : S.Write → Bool} {thread : Nat} {guar : List S.Write → S.State → Prop}
    {process : Proc S α} (confined : process.Confined kind)
    (allowed : ∀ writes state, (∀ write ∈ writes, kind write) → guar writes state) :
    process.Commits (.past durable thread guar) := by
  intro deeds
  induction process generalizing deeds with
  | done value => trivial
  | fail error => trivial
  | call statement resume inductionHypothesis =>
      exact fun before input => ⟨allowed _ _ (confined.1.writes input before),
        inductionHypothesis _ (confined.2 _) _⟩
  | transaction body resume inductionHypothesis =>
      exact fun before inputs => ⟨allowed _ _ (confined.1.effects durable inputs before),
        inductionHypothesis _ (confined.2 _) _⟩

/-- The same of a contract about turns. -/
theorem turns {supplied : Turn S → Prop} {thread : Nat} {guar : List (Turn S) → Turn S → Prop}
    {process : Proc S α} (confined : process.Confined kind)
    (allowed : ∀ history turn, (∀ write ∈ turn.writes, kind write) → guar history turn) :
    process.Commits (.turns supplied thread guar) := by
  induction process with
  | done value => exact fun _ => trivial
  | fail error => exact fun _ => trivial
  | call statement resume inductionHypothesis =>
      intro history inputs before _
      exact ⟨allowed _ _ (confined.1.writes (inputs 0) before),
        inductionHypothesis _ (confined.2 _) _⟩
  | transaction body resume inductionHypothesis =>
      intro history inputs before _
      exact ⟨allowed _ _ (confined.1.writes inputs before), inductionHypothesis _ (confined.2 _) _⟩

/-- The same of all that it writes. -/
theorem ledger {supplied : S.Input → Prop} {base : S.State} {process : Proc S α}
    (confined : process.Confined kind) (written : List S.Write) :
    process.Meets (.ledger supplied base)
      (fun _ later => ∃ more, later = written ++ more ∧ ∀ write ∈ more, kind write) written := by
  suffices within : ∀ more, (∀ write ∈ more, kind write) → process.Meets (.ledger supplied base)
      (fun _ later => ∃ more, later = written ++ more ∧ ∀ write ∈ more, kind write)
      (written ++ more) by
    simpa using within [] (List.forall_mem_nil _)
  intro more sofar
  induction process generalizing more with
  | done value => exact ⟨more, rfl, sofar⟩
  | fail error => exact ⟨more, rfl, sofar⟩
  | call statement resume inductionHypothesis =>
      intro input _
      rw [List.append_assoc]
      exact inductionHypothesis _ (confined.2 _) _
        (List.forall_mem_append.mpr ⟨sofar, confined.1.writes input _⟩)
  | transaction body resume inductionHypothesis =>
      intro inputs _
      rw [List.append_assoc]
      exact inductionHypothesis _ (confined.2 _) _
        (List.forall_mem_append.mpr ⟨sofar, confined.1.writes inputs _⟩)

/-- A run of a confined process alone, in which a transaction is one step. -/
theorem runs {durable : S.Write → Bool} {process : Proc S α} (confined : process.Confined kind)
    {supplied : S.whole.Input → Prop} {before after : S.State} {result : Except S.Error α}
    (ran : (process.whole durable).Runs supplied before result after) :
    ∃ writes : List S.Write, (∀ write ∈ writes, kind write) ∧ after = S.applyAll writes before := by
  induction process generalizing before with
  | done value => exact ⟨[], List.forall_mem_nil _, ran.2⟩
  | fail error => exact ⟨[], List.forall_mem_nil _, ran.2⟩
  | call statement resume inductionHypothesis =>
      obtain ⟨inputs, _, rest⟩ := ran
      rw [statement.writes_whole, S.applyAll_whole] at rest
      obtain ⟨writes, all, rfl⟩ := inductionHypothesis _ (confined.2 _) rest
      exact ⟨_, List.forall_mem_append.mpr ⟨confined.1.writes (inputs 0) before, all⟩,
        (S.applyAll_append _ _ _).symm⟩
  | transaction body resume inductionHypothesis =>
      obtain ⟨inputs, _, rest⟩ := ran
      obtain ⟨writes, all, rfl⟩ := inductionHypothesis _ (confined.2 _) rest
      refine ⟨_, List.forall_mem_append.mpr ⟨confined.1.effects durable inputs before, all⟩, ?_⟩
      rw [S.applyAll_append, ← S.applyAll_whole (body.effects durable inputs before)]
      rfl

/-- Where every turn that only writes what is of the kind is allowed, so is a confined process. -/
theorem wholly {durable : S.Write → Bool} {supplied : Turn S.whole → Prop} {thread : Nat}
    {guar : List (Turn S.whole) → Turn S.whole → Prop} {process : Proc S α}
    (confined : process.Confined kind)
    (allowed : ∀ history turn, (∀ write ∈ turn.writes, kind write) → guar history turn) :
    process.Commits ((Discipline.turns supplied thread guar).ofWhole durable) := by
  intro history
  induction process generalizing history with
  | done value => trivial
  | fail error => trivial
  | call statement resume inductionHypothesis =>
      refine fun inputs before _ => ⟨allowed _ _ ?_, inductionHypothesis _ (confined.2 _) _⟩
      change ∀ write ∈ statement.whole.writes (inputs 0) before, kind write
      rw [statement.writes_whole]
      exact confined.1.writes (inputs 0 0) before
  | transaction body resume inductionHypothesis =>
      exact fun inputs before _ => ⟨allowed _ _ (confined.1.effects durable (inputs 0) before),
        inductionHypothesis _ (confined.2 _) _⟩

end Proc.Confined

/-- A statement of a process with transactions, by its turn. -/
theorem Proc.meets_asked {durable : S.Write → Bool} {supplied : Turn S.whole → Prop} {thread : Nat}
    {guar : List (Turn S.whole) → Turn S.whole → Prop} {statement : Statement S α}
    {post : Except S.Error α → List (Turn S.whole) → Prop} {history : List (Turn S.whole)}
    (failed : ∀ turn error, turn.Performs statement.whole → turn.writes = [] →
      guar history turn ∧ post (.error error) (history ++ [turn]))
    (succeeded : ∀ turn value, turn.Performs statement.whole →
      statement.Succeeds (turn.inputs 0 0) turn.before value turn.writes →
        guar history turn ∧ post (.ok value) (history ++ [turn])) :
    (liftM statement : Proc S α).Meets ((Discipline.turns supplied thread guar).ofWhole durable)
      post history := by
  rw [Proc.meets_lift]
  intro inputs before _
  rw [statement.result_whole, Statement.result]
  cases executed : statement.exec (inputs 0 0) before with
  | error error => exact failed _ error rfl (Turn.writes_of_error executed)
  | ok outcome =>
      refine succeeded _ _ rfl ?_
      have succeeds : statement.whole.Succeeds (inputs 0) before outcome.1 outcome.2 := executed
      rw [Turn.writes_of_succeeds thread succeeds]
      exact executed

/-- In every run of processes that are confined to kinds, so is every step. -/
theorem Pool.Steps.confined {durable : S.Write → Bool} {state : S.State} {procs : List (Proc S α)}
    {trace : List (Deed S)} {final : Pool S.whole α}
    (steps : (Pool.whole durable state procs).Steps trace final) {kinds : Nat → S.Write → Prop}
    (confined : ∀ (thread : Nat) process, procs[thread]? = some process →
      process.Confined (kinds thread)) :
    ∀ deed ∈ trace, ∀ write ∈ deed.writes, kinds deed.thread write := by
  have meets : ∀ (thread : Nat) process, procs[thread]? = some process → process.Meets
      (.past durable thread fun writes _ => ∀ write ∈ writes, kinds thread write)
      (fun _ _ => True) [] :=
    fun thread process found => (confined thread process found).commits (fun _ _ all => all) []
  exact (steps.past meets).1

end Armada.Concurrency
