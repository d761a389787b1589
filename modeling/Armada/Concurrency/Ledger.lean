import Armada.Concurrency.Sequential

/-!
# What a process writes in all

`Proc.Wrote supplied process before result writes` says that the process, run alone to
its end, may return the result, having made just these writes. The ledger is the
discipline under which a contract speaks of all writes so far, and `Session` strings
such runs together.
-/

namespace Armada.Concurrency

variable {S : Signature} {α β : Type} {supplied : S.Input → Prop}

/-- See the head of this module. -/
def Proc.Wrote (supplied : S.Input → Prop) :
    Proc S α → S.State → Except S.Error α → List S.Write → Prop
  | .done value, _, result, writes => result = .ok value ∧ writes = []
  | .fail error, _, result, writes => result = .error error ∧ writes = []
  | .call statement resume, before, result, writes => ∃ input rest, supplied input ∧
      (resume (statement.result input before)).Wrote supplied
        (S.applyAll (statement.writes input before) before) result rest ∧
      writes = statement.writes input before ++ rest
  | .transaction body resume, before, result, writes => ∃ inputs rest, Each supplied inputs ∧
      (resume (body.result inputs before)).Wrote supplied
        (S.applyAll (body.writes inputs before) before) result rest ∧
      writes = body.writes inputs before ++ rest

/-- A process that has written these writes has run, and left what they leave. -/
theorem Proc.Wrote.runs {process : Proc S α} {before : S.State} {result : Except S.Error α}
    {writes : List S.Write} (wrote : process.Wrote supplied before result writes) :
    process.Runs supplied before result (S.applyAll writes before) := by
  induction process generalizing before writes with
  | done value =>
      obtain ⟨rfl, rfl⟩ := wrote
      exact ⟨rfl, rfl⟩
  | fail error =>
      obtain ⟨rfl, rfl⟩ := wrote
      exact ⟨rfl, rfl⟩
  | call statement resume inductionHypothesis =>
      obtain ⟨input, rest, given, restWrote, rfl⟩ := wrote
      rw [S.applyAll_append]
      exact ⟨input, given, inductionHypothesis _ restWrote⟩
  | transaction body resume inductionHypothesis =>
      obtain ⟨inputs, rest, given, restWrote, rfl⟩ := wrote
      rw [S.applyAll_append]
      exact ⟨inputs, given, inductionHypothesis _ restWrote⟩

/-- Every run has its writes. -/
theorem Proc.Runs.wrote {process : Proc S α} {before after : S.State} {result : Except S.Error α}
    (runs : process.Runs supplied before result after) :
    ∃ writes, process.Wrote supplied before result writes ∧ after = S.applyAll writes before := by
  induction process generalizing before with
  | done value =>
      obtain ⟨rfl, rfl⟩ := runs
      exact ⟨[], ⟨rfl, rfl⟩, rfl⟩
  | fail error =>
      obtain ⟨rfl, rfl⟩ := runs
      exact ⟨[], ⟨rfl, rfl⟩, rfl⟩
  | call statement resume inductionHypothesis =>
      obtain ⟨input, given, rest⟩ := runs
      obtain ⟨writes, wrote, rfl⟩ := inductionHypothesis _ rest
      exact ⟨_, ⟨input, writes, given, wrote, rfl⟩, (S.applyAll_append _ _ _).symm⟩
  | transaction body resume inductionHypothesis =>
      obtain ⟨inputs, given, rest⟩ := runs
      obtain ⟨writes, wrote, rfl⟩ := inductionHypothesis _ rest
      exact ⟨_, ⟨inputs, writes, given, wrote, rfl⟩, (S.applyAll_append _ _ _).symm⟩

/-- Run a process alone on a state, for its writes. -/
def Proc.tally : Proc S α → (Nat → Nat → S.Input) → S.State → Except S.Error α × List S.Write
  | .done value, _, _ => (.ok value, [])
  | .fail error, _, _ => (.error error, [])
  | .call statement resume, inputs, before =>
      let writes := statement.writes (inputs 0 0) before
      let rest := (resume (statement.result (inputs 0 0) before)).tally
        (fun index => inputs (index + 1)) (S.applyAll writes before)
      (rest.1, writes ++ rest.2)
  | .transaction body resume, inputs, before =>
      let writes := body.writes (inputs 0) before
      let rest := (resume (body.result (inputs 0) before)).tally
        (fun index => inputs (index + 1)) (S.applyAll writes before)
      (rest.1, writes ++ rest.2)

/-- What `tally` computes is what the process writes. -/
theorem Proc.wrote_tally (process : Proc S α) (inputs : Nat → Nat → S.Input)
    (given : ∀ index, Each supplied (inputs index)) (before : S.State) :
    process.Wrote supplied before (process.tally inputs before).1 (process.tally inputs before).2 := by
  induction process generalizing inputs before with
  | done value => exact ⟨rfl, rfl⟩
  | fail error => exact ⟨rfl, rfl⟩
  | call statement resume inductionHypothesis =>
      exact ⟨inputs 0 0, _, given 0 0, inductionHypothesis _ _ (fun index => given (index + 1)) _, rfl⟩
  | transaction body resume inductionHypothesis =>
      exact ⟨inputs 0, _, given 0, inductionHypothesis _ _ (fun index => given (index + 1)) _, rfl⟩

/-- A process that started on `base` and runs alone; what is known of it is what it has
written so far. -/
def Discipline.ledger (supplied : S.Input → Prop) (base : S.State) :
    Discipline S (List S.Write) where
  statement call post written := ∀ input, supplied input →
    post (call.result input (S.applyAll written base))
      (written ++ call.writes input (S.applyAll written base))
  transaction body post written := ∀ inputs, Each supplied inputs →
    post (body.result inputs (S.applyAll written base))
      (written ++ body.writes inputs (S.applyAll written base))
  statement_mono weaker met input given := weaker _ _ (met input given)
  transaction_mono weaker met inputs given := weaker _ _ (met inputs given)

namespace Ledger

open Proc

variable {base : S.State} {written : List S.Write} {post : Except S.Error α → List S.Write → Prop}

/-- A contract of the ledger is met by the writes of every run. -/
theorem of_wrote {process : Proc S α} {result : Except S.Error α} {writes : List S.Write}
    (met : process.Meets (.ledger supplied base) post written)
    (wrote : process.Wrote supplied (S.applyAll written base) result writes) :
    post result (written ++ writes) := by
  induction process generalizing written writes with
  | done value =>
      obtain ⟨rfl, rfl⟩ := wrote
      rw [List.append_nil]
      exact met
  | fail error =>
      obtain ⟨rfl, rfl⟩ := wrote
      rw [List.append_nil]
      exact met
  | call statement resume inductionHypothesis =>
      obtain ⟨input, rest, given, restWrote, rfl⟩ := wrote
      rw [← List.append_assoc]
      rw [← S.applyAll_append] at restWrote
      exact inductionHypothesis _ (met input given) restWrote
  | transaction body resume inductionHypothesis =>
      obtain ⟨inputs, rest, given, restWrote, rfl⟩ := wrote
      rw [← List.append_assoc]
      rw [← S.applyAll_append] at restWrote
      exact inductionHypothesis _ (met inputs given) restWrote

/-- A statement meets a contract if its successful executions do, and its failures
without effect. -/
theorem statement {statement : Statement S α}
    (failed : ∀ input error, supplied input →
      statement.exec input (S.applyAll written base) = .error error → post (.error error) written)
    (succeeded : ∀ input value writes, supplied input →
      statement.Succeeds input (S.applyAll written base) value writes →
        post (.ok value) (written ++ writes)) :
    (liftM statement : Proc S α).Meets (.ledger supplied base) post written := by
  rw [meets_lift]
  intro input given
  rw [Statement.result, Statement.writes]
  cases executed : statement.exec input (S.applyAll written base) with
  | error error =>
      rw [List.append_nil]
      exact failed input error given executed
  | ok outcome => exact succeeded input _ _ given executed

/-- A statement and what follows it. -/
theorem next {statement : Statement S β} {rest : β → Proc S α}
    (failed : ∀ input error, supplied input →
      statement.exec input (S.applyAll written base) = .error error → post (.error error) written)
    (continued : ∀ input value writes, supplied input →
      statement.Succeeds input (S.applyAll written base) value writes →
        (rest value).Meets (.ledger supplied base) post (written ++ writes)) :
    (liftM statement >>= rest).Meets (.ledger supplied base) post written := by
  rw [Proc.meets_bind]
  exact Ledger.statement failed continued

/-- A transaction meets a contract if what it commits does, and its rolling back without
effect. -/
theorem transaction {body : Txn S α}
    (aborted : ∀ inputs error, Each supplied inputs →
      body.run inputs (S.applyAll written base) = .error error → post (.error error) written)
    (committed : body.Yields (fun value writes => post (.ok value) (written ++ writes))
      (S.applyAll written base) []) :
    (transact body).Meets (.ledger supplied base) post written := by
  rw [meets_transact]
  intro inputs given
  rw [Txn.result, Txn.writes]
  cases ran : body.run inputs (S.applyAll written base) with
  | error error =>
      rw [List.append_nil]
      exact aborted inputs error given ran
  | ok outcome => exact committed.of_run ran

/-- The writes so far may be made part of the state to start on. -/
theorem rebase {process : Proc S α} {more : List S.Write}
    (met : process.Meets (.ledger supplied (S.applyAll written base))
      (fun result writes => post result (written ++ writes)) more) :
    process.Meets (.ledger supplied base) post (written ++ more) := by
  induction process generalizing more with
  | done value => exact met
  | fail error => exact met
  | call statement resume inductionHypothesis =>
      intro input given
      have rest := met input given
      rw [← S.applyAll_append] at rest
      rw [List.append_assoc]
      exact inductionHypothesis _ rest
  | transaction body resume inductionHypothesis =>
      intro inputs given
      have rest := met inputs given
      rw [← S.applyAll_append] at rest
      rw [List.append_assoc]
      exact inductionHypothesis _ rest

/-- What follows is contracted as if it started on what has been left. -/
theorem onwards {process : Proc S α}
    (met : process.Meets (.ledger supplied (S.applyAll written base))
      (fun result writes => post result (written ++ writes)) []) :
    process.Meets (.ledger supplied base) post written :=
  written.append_nil ▸ rebase met

/-- What all commits of a process are like, a run is like, if it goes through lists. -/
theorem of_commits {process : Proc S α} {result : Except S.Error α} {writes : List S.Write}
    {rely : S.State → S.State → Prop} {guar : List S.Write → S.State → Prop}
    (commits : process.Commits (.atomic rely guar)) (idle : ∀ state, rely state state)
    (all : List S.Write → Prop) (nil : all [])
    (append : ∀ first second, all first → all second → all (first ++ second))
    (each : ∀ writes state, guar writes state → all writes)
    (wrote : process.Wrote supplied base result writes) : all writes := by
  have met := commits base
  clear commits
  induction process generalizing base writes with
  | done value =>
      obtain ⟨_, rfl⟩ := wrote
      exact nil
  | fail error =>
      obtain ⟨_, rfl⟩ := wrote
      exact nil
  | call statement resume inductionHypothesis =>
      obtain ⟨input, rest, _, restWrote, rfl⟩ := wrote
      obtain ⟨allowed, continued⟩ := met base (idle base) input
      exact append _ _ (each _ _ allowed) (inductionHypothesis _ restWrote continued)
  | transaction body resume inductionHypothesis =>
      obtain ⟨inputs, rest, _, restWrote, rfl⟩ := wrote
      obtain ⟨allowed, continued⟩ := met base (idle base) inputs
      exact append _ _ (each _ _ allowed) (inductionHypothesis _ restWrote continued)

end Ledger

/-! ## Runs one after another -/

/-- What was run, and what it returned and wrote. -/
structure Entry (ι α : Type) (S : Signature) where
  call : ι
  result : Except S.Error α
  writes : List S.Write

/-- All that a list of runs has written. -/
def journal {ι : Type} (entries : List (Entry ι α S)) : List S.Write :=
  entries.flatMap Entry.writes

/-- Nobody has written yet. -/
@[simp] theorem journal_nil {ι : Type} : journal ([] : List (Entry ι α S)) = [] := rfl

/-- The journal of two traces is theirs one after the other. -/
@[simp] theorem journal_append {ι : Type} (first second : List (Entry ι α S)) :
    journal (first ++ second) = journal first ++ journal second :=
  List.flatMap_append

/-- A single entry's journal is what it wrote. -/
@[simp] theorem journal_singleton {ι : Type} (entry : Entry ι α S) :
    journal [entry] = entry.writes := by
  simp [journal]

/-- Processes that run one after another, each to its end. -/
inductive Session {ι : Type} (supplied : S.Input → Prop) (proc : ι → Proc S α) (start : S.State) :
    List (Entry ι α S) → Prop where
  | nil : Session supplied proc start []
  | snoc {entries : List (Entry ι α S)} {entry : Entry ι α S}
      (prior : Session supplied proc start entries)
      (wrote : (proc entry.call).Wrote supplied (S.applyAll (journal entries) start) entry.result
        entry.writes) :
      Session supplied proc start (entries ++ [entry])

/-- Make the calls one after another. -/
def conduct {ι : Type} (proc : ι → Proc S α) (inputs : Nat → Nat → S.Input) (start : S.State)
    (calls : List ι) : List (Entry ι α S) :=
  calls.foldl (fun entries call =>
    let made := (proc call).tally inputs (S.applyAll (journal entries) start)
    entries ++ [⟨call, made.1, made.2⟩]) []

/-- What `conduct` computes is a session. -/
theorem session_conduct {ι : Type} (proc : ι → Proc S α) (inputs : Nat → Nat → S.Input)
    (given : ∀ index, Each supplied (inputs index)) (start : S.State) (calls : List ι) :
    Session supplied proc start (conduct proc inputs start calls) := by
  induction calls using List.reverseRecOn with
  | nil => exact .nil
  | append_singleton calls call inductionHypothesis =>
      rw [conduct, List.foldl_append]
      exact .snoc inductionHypothesis ((proc call).wrote_tally inputs given _)

/-- What every run of a session keeps holds before and after each of them. -/
theorem Session.along {ι : Type} {proc : ι → Proc S α} {start : S.State}
    {entries : List (Entry ι α S)} (session : Session supplied proc start entries)
    (holds : List (Entry ι α S) → Prop) (initially : holds [])
    (kept : ∀ first entry rest, entries = first ++ entry :: rest →
      (proc entry.call).Wrote supplied (S.applyAll (journal first) start) entry.result
        entry.writes → holds first → holds (first ++ [entry])) :
    ∀ first rest, entries = first ++ rest → holds first := by
  induction session with
  | nil =>
      intro first rest split
      obtain ⟨rfl, _⟩ := List.append_eq_nil_iff.mp split.symm
      exact initially
  | @snoc entries entry prior wrote inductionHypothesis =>
      have earlier := inductionHypothesis fun first other rest split =>
        kept first other (rest ++ [entry]) (by simp [split])
      intro first rest split
      induction rest using List.reverseRecOn with
      | nil =>
          obtain rfl : first = entries ++ [entry] := by simpa using split.symm
          exact kept entries entry [] rfl wrote (earlier entries [] (by simp))
      | append_singleton rest last _ =>
          rw [← List.append_assoc] at split
          exact earlier first rest (List.append_inj' split rfl).1

/-- Each run of a session started on what the runs before it had left. -/
theorem Session.wrote {ι : Type} {proc : ι → Proc S α} {start : S.State}
    {entries : List (Entry ι α S)} (session : Session supplied proc start entries)
    {first rest : List (Entry ι α S)} {entry : Entry ι α S}
    (split : entries = first ++ entry :: rest) :
    (proc entry.call).Wrote supplied (S.applyAll (journal first) start) entry.result
      entry.writes := by
  induction session generalizing rest with
  | nil => simp at split
  | @snoc entries last prior wrote inductionHypothesis =>
      induction rest using List.reverseRecOn with
      | nil =>
          obtain ⟨rfl, same⟩ := List.append_inj' split rfl
          obtain rfl := (List.cons.inj same).1
          exact wrote
      | append_singleton rest final _ =>
          rw [← List.cons_append, ← List.append_assoc] at split
          exact inductionHypothesis (List.append_inj' split rfl).1

end Armada.Concurrency
