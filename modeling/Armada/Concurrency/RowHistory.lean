import Armada.Concurrency.Locking

/-!
# The history of a row

A part of the state that each write changes by itself, and that is written under one lock only. If
every call changes it as a thread is allowed to, seen from what the call has read, then so does
every commit of every run under READ COMMITTED, also that of a long transaction. A bound that no
change falls below again is therefore passed once.
-/

namespace Armada.Concurrency

variable {S : Signature} {α β V : Type}

/-- A part of the state, and its lock. What a write changes of it depends on it alone. -/
structure Row (S : Signature) (V : Type) where
  read : S.State → V
  change : S.Write → V → V
  own : S.Lock
  read_apply : ∀ write state, read (S.apply write state) = change write (read state)

namespace Row

variable (row : Row S V)

/-- What writes make of the value of the row. -/
def after (writes : List S.Write) (value : V) : V :=
  writes.foldl (fun value write => row.change write value) value

/-- Without writes it stays as it is. -/
@[simp] theorem after_nil (value : V) : row.after [] value = value := rfl

/-- The first of the writes comes first. -/
@[simp] theorem after_cons (write : S.Write) (writes : List S.Write) (value : V) :
    row.after (write :: writes) value = row.after writes (row.change write value) := rfl

/-- The value read after writes is what they make of the value before. -/
theorem read_applyAll (writes : List S.Write) (state : S.State) :
    row.read (S.applyAll writes state) = row.after writes (row.read state) := by
  induction writes generalizing state with
  | nil => rfl
  | cons write writes inductionHypothesis =>
      rw [Signature.applyAll_cons, inductionHypothesis, row.read_apply, after_cons]

/-- Each write in turn is allowed. -/
def Path (allowed : S.Write → V → Prop) : List S.Write → V → Prop
  | [], _ => True
  | write :: writes, value => allowed write value ∧ Path allowed writes (row.change write value)

/-- Who does not hold the lock of the row leaves it as it is, and may do so. -/
structure Guarded (lock : S.Write → Option S.Lock) (allowed : S.Write → V → Prop) : Prop where
  reflexive : ∀ lock, S.clash lock lock
  idle : ∀ write value, lock write ≠ some row.own → row.change write value = value
  free : ∀ write value, lock write ≠ some row.own → allowed write value

/-- A call that locks what it writes, and changes the row as it is allowed to. -/
structure Follows (lock : S.Write → Option S.Lock) (allowed : S.Write → V → Prop)
    {γ : Type} (statement : Statement S γ) : Prop where
  locking : statement.Locking lock
  path : ∀ input state value writes, statement.Succeeds input state value writes →
    row.Path allowed writes (row.read state)

variable {row} {allowed : S.Write → V → Prop} {lock : S.Write → Option S.Lock}
  {held : List S.Lock} {writes : List S.Write} {value : V}

/-- A path may be cut into two. -/
theorem path_append {first second : List S.Write} :
    row.Path allowed (first ++ second) value ↔
      row.Path allowed first value ∧ row.Path allowed second (row.after first value) := by
  induction first generalizing value with
  | nil => simp [Path]
  | cons write first inductionHypothesis =>
      simp only [List.cons_append, Path, inductionHypothesis, after_cons, and_assoc]

/-- Writes that leave the row alone are allowed whatever it is. -/
theorem Guarded.path_of_apart (guarded : row.Guarded lock allowed)
    (apart : ∀ write ∈ writes, lock write ≠ some row.own) : row.Path allowed writes value := by
  induction writes generalizing value with
  | nil => trivial
  | cons write writes inductionHypothesis =>
      obtain ⟨here, rest⟩ := List.forall_mem_cons.mp apart
      exact ⟨guarded.free write value here, inductionHypothesis rest⟩

/-- Writes to other rows leave the value alone. -/
theorem Guarded.after_of_apart (guarded : row.Guarded lock allowed)
    (apart : ∀ write ∈ writes, lock write ≠ some row.own) : row.after writes value = value := by
  induction writes generalizing value with
  | nil => rfl
  | cons write writes inductionHypothesis =>
      obtain ⟨here, rest⟩ := List.forall_mem_cons.mp apart
      rw [after_cons, guarded.idle write value here, inductionHypothesis rest]

/-! ## Runs -/

/-- Who holds the lock of the row finds it as it was. -/
def Kept (row : Row S V) (held : List S.Lock) (before after : S.State) : Prop :=
  row.own ∈ held → row.read after = row.read before

/-- What is written under locks stays allowed as long as they are held. -/
theorem Guarded.path_kept (guarded : row.Guarded lock allowed) {before after : S.State}
    (covered : Covered lock held writes) (path : row.Path allowed writes (row.read before))
    (kept : row.Kept held before after) : row.Path allowed writes (row.read after) := by
  by_cases locked : row.own ∈ held
  · rw [kept locked]
    exact path
  · exact guarded.path_of_apart fun write member same => locked (covered write member _ same)

/-- The commits of a thread change the row as the thread is allowed to. -/
def contract (row : Row S V) (lock : S.Write → Option S.Lock) (allowed : Nat → S.Write → V → Prop)
    (guarded : ∀ thread, row.Guarded lock (allowed thread)) : System.Contract S α where
  inv _ := True
  rely := row.Kept
  guar thread held writes state := row.Path (allowed thread) writes (row.read state) ∧
    Covered lock held writes
  post _ _ _ := True
  orderly _ _ := True
  relyRefl _ _ _ _ := rfl
  relyTrans left right locked := (right locked).trans (left locked)
  compatible thread held writes state _ made _ := by
    refine ⟨trivial, fun others compatible locked => ?_⟩
    have apart := made.2.avoids (guarded thread).reflexive compatible locked
    rw [read_applyAll, (guarded thread).after_of_apart apart]

/-- A body that locks the row and follows the rules leads on from the value it holds. -/
theorem Guarded.holds (guarded : row.Guarded lock allowed) {body : Txn S β} {state : S.State}
    (every : body.Every (row.Follows lock allowed)) (covered : Covered lock held writes)
    (path : row.Path allowed writes (row.read state)) :
    body.Holds row.Kept (fun _ held made current => ∀ last, row.Kept held current last →
      row.Path allowed made (row.read last) ∧ Covered lock held made) held writes state := by
  induction body generalizing held writes state with
  | done value => exact fun last kept => ⟨guarded.path_kept covered path kept, covered⟩
  | fail error => trivial
  | step statement resume inductionHypothesis =>
      intro next kept input value made executed
      refine inductionHypothesis value (every.2 value)
        (covered.append (every.1.locking _ _ _ _ executed)) ?_
      have before := guarded.path_kept covered path kept
      have further := every.1.path _ _ _ _ executed
      rw [read_applyAll] at further
      exact path_append.mpr ⟨before, further⟩

/-- So every transaction of such a process commits a path. -/
theorem Guarded.commits {orderly : List S.Write → S.State → Prop}
    (guarded : row.Guarded lock allowed) {process : Proc S α}
    (every : process.Every (row.Follows lock allowed)) :
    process.Commits (.readCommitted row.Kept (fun held writes state =>
      row.Path allowed writes (row.read state) ∧ Covered lock held writes) orderly) := by
  induction process with
  | done value => exact fun _ => trivial
  | fail error => exact fun _ => trivial
  | call statement resume inductionHypothesis =>
      exact fun state next _ => ⟨fun input value made executed =>
        ⟨⟨every.1.path _ _ _ _ executed, every.1.locking _ _ _ _ executed⟩,
          fun _ => inductionHypothesis _ (every.2 _) _⟩, fun _ =>
            inductionHypothesis _ (every.2 _) _⟩
  | transaction body resume inductionHypothesis =>
      refine fun state next _ => ⟨?_, .always (fun _ last => inductionHypothesis _ (every.2 _) last) body [] [] next⟩
      refine (guarded.holds every.1 (.nil _) trivial).mono
        fun value held made current committed last kept => ?_
      exact ⟨committed last kept, fun _ => inductionHypothesis _ (every.2 _) _⟩

end Row

variable {row : Row S V} {lock : S.Write → Option S.Lock} {allowed : Nat → S.Write → V → Prop}
  {supplied : S.Input → Prop} {trace : List (Commit S)}

/-- In every run each commit changes the row as its thread is allowed to. -/
theorem System.Steps.path {pool : Pool S α} {system : System S α}
    (steps : (System.ofPool pool).Steps supplied trace system)
    (guarded : ∀ thread, row.Guarded lock (allowed thread))
    (every : ∀ (thread : Nat) process, pool.procs[thread]? = some process →
      process.Every (row.Follows lock (allowed thread))) :
    ∀ commit ∈ trace, row.Path (allowed commit.thread) commit.writes (row.read commit.before) := by
  have upheld : (row.contract lock allowed guarded).Upheld (System.ofPool pool) :=
    System.Contract.upheld_ofPool trivial fun thread process found =>
      (guarded thread).commits (every thread process found) pool.state
  intro commit member
  obtain ⟨_, _, committed⟩ := steps.sound trivial (System.exclusive_ofPool _) upheld
    fun _ _ => trivial
  rcases (committed commit member).2 with none | ⟨locks, made, _⟩
  · rw [none]
    trivial
  · exact made

/-! ## What a thread has written -/

/-- What has been committed is not taken back. -/
theorem Proc.Meets.accumulates (process : Proc S α) (written : List S.Write) :
    process.Meets .own (fun _ later => written <+: later) written := by
  induction process generalizing written with
  | done value => exact List.prefix_rfl
  | fail error => exact List.prefix_rfl
  | call statement resume inductionHypothesis =>
      refine ⟨fun state input value writes _ => ?_, fun _ => inductionHypothesis _ _⟩
      exact (inductionHypothesis _ _).weaken fun _ _ => (List.prefix_append written writes).trans
  | transaction body resume inductionHypothesis =>
      refine ⟨fun state => ?_, fun _ => inductionHypothesis _ _⟩
      refine .always (fun value held made state => ?_) body [] [] state
      exact (inductionHypothesis _ _).weaken fun _ _ => (List.prefix_append written made).trans

/-! ## Bounds that are passed once -/

/-- A bound of a row, below which no allowed change falls. -/
structure Row.Bound (row : Row S V) (allowed : Nat → S.Write → V → Prop) where
  passed : V → Prop
  kept : ∀ {thread write value}, allowed thread write value → passed value →
    passed (row.change write value)

namespace Row.Bound

variable (bound : row.Bound allowed) {thread : Nat} {writes : List S.Write} {value : V}

/-- A bound that has been passed stays passed along a path. -/
theorem after (path : row.Path (allowed thread) writes value) (passed : bound.passed value) :
    bound.passed (row.after writes value) := by
  induction writes generalizing value with
  | nil => exact passed
  | cons write writes inductionHypothesis =>
      exact inductionHypothesis path.2 (bound.kept path.1 passed)

/-- A write that passes the bound. -/
def Passes (thread : Nat) (write : S.Write) : Prop :=
  ∀ value, allowed thread write value → ¬bound.passed value ∧ bound.passed (row.change write value)

/-- Who makes such a write passes the bound in the commit. -/
theorem passes (path : row.Path (allowed thread) writes value) {write : S.Write}
    (member : write ∈ writes) (passes : bound.Passes thread write) :
    ¬bound.passed value ∧ bound.passed (row.after writes value) := by
  induction writes generalizing value with
  | nil => cases member
  | cons first writes inductionHypothesis =>
      rcases List.mem_cons.mp member with rfl | later
      · obtain ⟨short, beyond⟩ := passes value path.1
        rw [row.after_cons]
        exact ⟨short, bound.after path.2 beyond⟩
      · obtain ⟨short, beyond⟩ := inductionHypothesis path.2 later
        exact ⟨fun passed => short (bound.kept path.1 passed), beyond⟩

end Row.Bound

/-- What no commit undoes is true before every later commit. -/
theorem Linked.lasting {start final : S.State} (linked : Linked start trace final)
    {holds : S.State → Prop} (kept : ∀ commit ∈ trace, holds commit.before → holds commit.after)
    (initially : holds start) : ∀ commit ∈ trace, holds commit.before := by
  induction trace generalizing start with
  | nil => nofun
  | cons first rest inductionHypothesis =>
      obtain ⟨rfl, linked⟩ := linked
      refine List.forall_mem_cons.mpr ⟨initially, ?_⟩
      exact inductionHypothesis linked (fun commit member =>
        kept commit (List.mem_cons_of_mem _ member))
        (kept first List.mem_cons_self initially)

/-- What no commit undoes is made true by one commit. -/
theorem Linked.made_once {start final : S.State} (linked : Linked start trace final)
    (holds : S.State → Prop) (kept : ∀ commit ∈ trace, holds commit.before → holds commit.after)
    {one other : Commit S} (first : one ∈ trace) (second : other ∈ trace)
    (made : ¬holds one.before ∧ holds one.after) (makes : ¬holds other.before ∧ holds other.after) :
    one = other := by
  induction trace generalizing start with
  | nil => cases first
  | cons commit rest inductionHypothesis =>
      obtain ⟨rfl, linked⟩ := linked
      have later : ∀ other ∈ rest, holds other.before → holds other.after := fun other member =>
        kept other (List.mem_cons_of_mem _ member)
      rcases List.mem_cons.mp first with rfl | firstLater <;>
        rcases List.mem_cons.mp second with rfl | secondLater
      · rfl
      · exact absurd (linked.lasting later made.2 other secondLater) makes.1
      · exact absurd (linked.lasting later makes.2 one firstLater) made.1
      · exact inductionHypothesis linked later firstLater secondLater

/-- Of all threads of a run one passes the bound. -/
theorem System.Steps.passed_once {pool : Pool S α} {system : System S α}
    (steps : (System.ofPool pool).Steps supplied trace system) (bound : row.Bound allowed)
    (paths : ∀ commit ∈ trace, row.Path (allowed commit.thread) commit.writes (row.read commit.before))
    {first second : Nat} {mine theirs : S.Write} (made : mine ∈ committed trace first)
    (makes : theirs ∈ committed trace second) (passes : bound.Passes first mine)
    (passesToo : bound.Passes second theirs) : first = second := by
  have kept : ∀ commit ∈ trace, bound.passed (row.read commit.before) →
      bound.passed (row.read commit.after) := by
    intro commit member passed
    rw [Commit.after, row.read_applyAll]
    exact bound.after (paths commit member) passed
  have crossing : ∀ (thread : Nat) write, write ∈ committed trace thread →
    bound.Passes thread write →
      ∃ commit ∈ trace, commit.thread = thread ∧ ¬bound.passed (row.read commit.before) ∧
        bound.passed (row.read commit.after) := by
    intro thread write written passes
    obtain ⟨commit, member, rfl, own⟩ := mem_committed.mp written
    refine ⟨commit, member, rfl, ?_⟩
    rw [Commit.after, row.read_applyAll]
    exact bound.passes (paths commit member) own passes
  obtain ⟨one, memberOne, rfl, crossed⟩ := crossing first mine made passes
  obtain ⟨other, memberOther, rfl, crosses⟩ := crossing second theirs makes passesToo
  rw [steps.linked.made_once (fun state => bound.passed (row.read state)) kept memberOne memberOther
    crossed crosses]

end Armada.Concurrency
