import Armada.Concurrency.Turns

/-!
# Work that is recorded afterwards

To do some work once, a process looks for a record of it, does the work if there is none,
and saves the record in a step of its own. Nothing holds the three steps together: the work
is done once exactly if no other process does it between the lookup of a process and its
work, and what was done before that lookup could be found by it. Processes that wait for each
other keep to that.
-/

namespace Armada.Concurrency

variable {S : Signature} {works looks found : Turn S → Prop} {trace : List (Turn S)}

/-- At most one turn of a run does the work. -/
def Once (works : Turn S → Prop) (trace : List (Turn S)) : Prop :=
  trace.Pairwise fun first second => ¬(works first ∧ works second)

/-- Two turns that do the work are one. -/
theorem Once.eq_of_works {turns : List (Turn S)} (once : Once works turns) {first second : Nat}
    {work again : Turn S} (atFirst : turns[first]? = some work)
    (atSecond : turns[second]? = some again)
    (worked : works work) (workedAgain : works again) : first = second := by
  obtain ⟨_, rfl⟩ := List.getElem?_eq_some_iff.mp atFirst
  obtain ⟨_, rfl⟩ := List.getElem?_eq_some_iff.mp atSecond
  have apart := List.pairwise_iff_getElem.mp once
  rcases Nat.lt_trichotomy first second with earlier | same | later
  · exact absurd ⟨worked, workedAgain⟩ (apart _ _ _ _ earlier)
  · exact same
  · exact absurd ⟨workedAgain, worked⟩ (apart _ _ _ _ later)

/-- The same for a test of the writes, which a computed run can be put to. -/
theorem Once.eq_of_writes {turns : List (Turn S)} (once : Once works turns)
    {test : List S.Write → Bool} (sound : ∀ turn : Turn S, test turn.writes = true → works turn)
    {first second : Nat}
    (atFirst : (turns.map fun turn => test turn.writes)[first]? = some true)
    (atSecond : (turns.map fun turn => test turn.writes)[second]? = some true) :
    first = second := by
  simp only [List.getElem?_map, Option.map_eq_some_iff] at atFirst atSecond
  obtain ⟨work, foundFirst, worked⟩ := atFirst
  obtain ⟨again, foundSecond, workedAgain⟩ := atSecond
  exact once.eq_of_works foundFirst foundSecond (sound work worked) (sound again workedAgain)

/-- Work that bars itself from then on is done at most once. -/
theorem Once.of_barred {α : Type} {start final : Pool S α} (turns : start.Turns trace final)
    {barred : S.State → Prop}
    (bars : ∀ turn ∈ trace, works turn → ¬barred turn.before ∧ barred turn.after)
    (kept : ∀ turn ∈ trace, barred turn.before → barred turn.after) : Once works trace := by
  have apart : ∀ first turn rest, trace = first ++ turn :: rest → works turn →
      ∀ later ∈ rest, ¬works later := by
    intro first turn rest split worked later member again
    have inTrace : ∀ other ∈ turn :: rest, other ∈ trace := fun other among =>
      split ▸ List.mem_append_right _ among
    have barring := turns.lasting split (bars turn (inTrace _ List.mem_cons_self) worked).2
      fun other among => kept other (inTrace _ (List.mem_cons_of_mem _ among))
    exact (bars later (inTrace _ (List.mem_cons_of_mem _ member)) again).1 (barring later member)
  clear turns bars kept
  induction trace with
  | nil => exact List.Pairwise.nil
  | cons turn rest inductionHypothesis =>
      apply List.Pairwise.cons
      · rintro later member ⟨worked, again⟩
        exact apart [] turn rest rfl worked later member again
      · apply inductionHypothesis
        intro first other others split
        exact apart (turn :: first) other others (by rw [split, List.cons_append])

/-- For each turn that does the work and each lookup of the same process before it: in
between the work is not done, and if it was done earlier then the lookup finds a record. -/
def Shielded (works looks found : Turn S → Prop) (trace : List (Turn S)) : Prop :=
  ∀ early lookup between work rest, trace = early ++ lookup :: (between ++ work :: rest) →
    lookup.thread = work.thread → looks lookup → works work →
      (∀ other ∈ between, ¬works other) ∧ ((∃ other ∈ early, works other) → found lookup)

/-- What shields a run shields its beginning. -/
theorem Shielded.of_append {prior suffix : List (Turn S)}
    (shielded : Shielded works looks found (prior ++ suffix)) :
    Shielded works looks found prior := by
  intro early lookup between work rest split
  exact shielded early lookup between work (rest ++ suffix) (by simp [split])

/-- Work that is done once is shielded. -/
theorem Once.shielded (once : Once works trace) : Shielded works looks found trace := by
  rintro early lookup between work rest rfl same looked worked
  obtain ⟨_, onwards, across⟩ := List.pairwise_append.mp once
  have inside := (List.pairwise_cons.mp onwards).2
  have workMember : work ∈ between ++ work :: rest :=
    List.mem_append_right _ List.mem_cons_self
  constructor
  · intro other member done
    exact (List.pairwise_append.mp inside).2.2 other member work List.mem_cons_self ⟨done, worked⟩
  · rintro ⟨other, member, done⟩
    exact absurd ⟨done, worked⟩ (across other member work (List.mem_cons_of_mem _ workMember))

/-- Where a process does the work only after a lookup of its own that found nothing. -/
theorem once_iff_shielded
    (guarded : ∀ first turn rest, trace = first ++ turn :: rest → works turn →
      ∃ lookup ∈ Pool.own first turn.thread, looks lookup ∧ ¬found lookup ∧ ¬works lookup) :
    Once works trace ↔ Shielded works looks found trace := by
  refine ⟨Once.shielded, fun shielded => ?_⟩
  induction trace using List.reverseRecOn with
  | nil => exact List.Pairwise.nil
  | append_singleton prior last inductionHypothesis =>
      have before : Once works prior :=
        inductionHypothesis (fun first turn rest split =>
          guarded first turn (rest ++ [last]) (by simp [split])) shielded.of_append
      refine List.pairwise_append.mpr ⟨before, List.pairwise_singleton _ _, ?_⟩
      intro other member again sameAgain
      obtain rfl : again = last := List.mem_singleton.mp sameAgain
      rintro ⟨done, worked⟩
      obtain ⟨lookup, owned, looked, missed, idle⟩ := guarded prior again [] rfl worked
      obtain ⟨inPrior, same⟩ := Pool.mem_own.mp owned
      obtain ⟨early, between, rfl⟩ := List.append_of_mem inPrior
      obtain ⟨none, recorded⟩ :=
        shielded early lookup between again [] (by simp) same looked worked
      rcases List.mem_append.mp member with inEarly | later
      · exact missed (recorded ⟨other, inEarly, done⟩)
      · rcases List.mem_cons.mp later with rfl | inBetween
        · exact idle done
        · exact none other inBetween done

/-! ## Processes that wait for each other -/

/-- When a process looks, every other that has looked before has done its work by then, if it
does any, and has saved it. -/
def Awaited (works looks saves : Turn S → Prop) (trace : List (Turn S)) : Prop :=
  ∀ early lookup rest, trace = early ++ lookup :: rest → looks lookup →
    ∀ earlier ∈ early, looks earlier → earlier.thread ≠ lookup.thread →
      (∀ work ∈ rest, work.thread = earlier.thread → ¬works work) ∧
        ∀ work ∈ early, work.thread = earlier.thread → works work →
          ∃ save ∈ early, save.thread = earlier.thread ∧ saves save

/-- Where a process works once and only after a lookup, and what has been saved is on record
and found, no process works behind the lookup of another that waits for it. -/
theorem Awaited.shielded {α : Type} {start final : Pool S α} {saves : Turn S → Prop}
    {recorded : S.State → Prop} (turns : start.Turns trace final)
    (awaited : Awaited works looks saves trace)
    (guarded : ∀ first turn rest, trace = first ++ turn :: rest → works turn →
      (∀ earlier ∈ Pool.own first turn.thread, ¬works earlier) ∧
        ∃ lookup ∈ Pool.own first turn.thread, looks lookup)
    (saved : ∀ turn ∈ trace, saves turn → recorded turn.after)
    (kept : ∀ turn ∈ trace, recorded turn.before → recorded turn.after)
    (finds : ∀ turn ∈ trace, looks turn → recorded turn.before → found turn) :
    Shielded works looks found trace := by
  intro early lookup between work rest split same looked worked
  have alone := (guarded (early ++ lookup :: between) work rest (by simp [split]) worked).1
  have onlyOnce : ∀ other ∈ early ++ lookup :: between, works other →
      other.thread ≠ lookup.thread := fun other member done here =>
    alone other (Pool.mem_own.mpr ⟨member, here.trans same⟩) done
  constructor
  · intro other member done
    obtain ⟨prior, later, rfl⟩ := List.append_of_mem member
    have different := onlyOnce other (by simp) done
    have atOther : trace = (early ++ lookup :: prior) ++ other :: (later ++ work :: rest) := by
      simp [split]
    obtain ⟨earlier, owned, lookedToo⟩ := (guarded _ other _ atOther done).2
    obtain ⟨before, ofOther⟩ := Pool.mem_own.mp owned
    rcases List.mem_append.mp before with inEarly | since
    · -- the other looked first, and should have worked before this lookup
      exact (awaited early lookup _ split looked earlier inEarly lookedToo
        (ofOther ▸ different)).1 other (by simp) ofOther.symm done
    · rcases List.mem_cons.mp since with rfl | inPrior
      · exact different ofOther.symm
      · -- this process looked first, and works after the other has looked
        obtain ⟨passed, ahead, rfl⟩ := List.append_of_mem inPrior
        have atEarlier : trace = (early ++ lookup :: passed) ++
            earlier :: (ahead ++ other :: (later ++ work :: rest)) := by simp [split]
        exact (awaited _ earlier _ atEarlier lookedToo lookup (by simp) looked
          (ofOther ▸ different.symm)).1 work (by simp) same.symm worked
  · rintro ⟨other, inEarly, done⟩
    have different := onlyOnce other (List.mem_append_left _ inEarly) done
    obtain ⟨prior, later, rfl⟩ := List.append_of_mem inEarly
    have atOther : trace = prior ++ other :: (later ++ lookup :: (between ++ work :: rest)) := by
      simp [split]
    obtain ⟨earlier, owned, lookedToo⟩ := (guarded _ other _ atOther done).2
    obtain ⟨before, ofOther⟩ := Pool.mem_own.mp owned
    obtain ⟨save, member, _, stored⟩ := (awaited _ lookup _ split looked earlier
      (List.mem_append_left _ before) lookedToo (ofOther ▸ different)).2 other (by simp)
        ofOther.symm done
    obtain ⟨passed, ahead, whole⟩ := List.append_of_mem member
    have inTrace : ∀ turn ∈ save :: ahead, turn ∈ trace := by
      intro turn among
      rw [split, whole]
      exact List.mem_append_left _ (List.mem_append_right _ among)
    have atSave : trace = passed ++ save :: (ahead ++ lookup :: (between ++ work :: rest)) := by
      rw [split, whole]
      simp
    refine finds lookup (split ▸ by simp) looked (turns.reaches recorded atSave
      (saved save (inTrace save List.mem_cons_self) stored) fun turn among =>
        kept turn (inTrace turn (List.mem_cons_of_mem _ among)))

/-- A process alone has nobody to wait for. -/
theorem awaited_of_thread {saves : Turn S → Prop} {thread : Nat}
    (alone : ∀ turn ∈ trace, turn.thread = thread) : Awaited works looks saves trace := by
  rintro early lookup rest rfl _ earlier member _ different
  have same := (alone earlier (by simp [member])).trans (alone lookup (by simp)).symm
  exact absurd same different

/-- Processes that run after others, which have saved what they have done, wait for them. -/
theorem Awaited.append {saves : Turn S → Prop} {first second : List (Turn S)}
    (before : Awaited works looks saves first) (after : Awaited works looks saves second)
    (apart : ∀ turn ∈ first, ∀ later ∈ second, later.thread ≠ turn.thread)
    (saved : ∀ work ∈ first, works work → ∃ save ∈ first, save.thread = work.thread ∧ saves save) :
    Awaited works looks saves (first ++ second) := by
  intro early lookup rest split looked earlier member lookedToo different
  rcases List.append_eq_append_iff.mp split with ⟨since, rfl, there⟩ | ⟨since, rfl, there⟩
  · -- the lookup is one of the second part
    have ahead : ∀ turn ∈ since ++ lookup :: rest, turn ∈ second := fun turn among => there ▸ among
    rcases List.mem_append.mp member with inFirst | inSecond
    · refine ⟨fun work among same => ?_, fun work among same worked => ?_⟩
      · exact absurd same (apart earlier inFirst work (ahead work (by simp [among])))
      · rcases List.mem_append.mp among with atFirst | atSecond
        · obtain ⟨save, savedBefore, own, saves⟩ := saved work atFirst worked
          exact ⟨save, List.mem_append_left _ savedBefore, own.trans same, saves⟩
        · exact absurd same (apart earlier inFirst work (ahead work (by simp [atSecond])))
    · obtain ⟨never, done⟩ := after since lookup rest there looked earlier inSecond lookedToo
        different
      refine ⟨never, fun work among same worked => ?_⟩
      rcases List.mem_append.mp among with atFirst | atSecond
      · exact absurd same.symm (apart work atFirst earlier (ahead earlier (by simp [inSecond])))
      · obtain ⟨save, savedSince, own, saves⟩ := done work atSecond same worked
        exact ⟨save, List.mem_append_right _ savedSince, own, saves⟩
  · -- the lookup is one of the first part, or the first of the second
    cases since with
    | nil =>
        rw [List.append_nil] at saved apart
        obtain rfl : second = lookup :: rest := there.symm
        refine ⟨fun work among same => ?_, fun work among same worked => ?_⟩
        · exact absurd same (apart earlier member work (List.mem_cons_of_mem _ among))
        · obtain ⟨save, savedBefore, own, saves⟩ := saved work among worked
          exact ⟨save, savedBefore, own.trans same, saves⟩
    | cons head since =>
        rw [List.cons_append, List.cons.injEq] at there
        obtain ⟨rfl, rfl⟩ := there
        obtain ⟨never, done⟩ := before early lookup since rfl looked earlier member lookedToo
          different
        refine ⟨fun work among same => ?_, done⟩
        rcases List.mem_append.mp among with atFirst | atSecond
        · exact never work atFirst same
        · exact absurd same (apart earlier (by simp [member]) work atSecond)

/-! ## Processes that record their work -/

/-- How a store and its processes work and record: the result of the work of a turn, the
turns that look for a record, those of them that find one, the turns that save one, whether
there is one, and the results on record. -/
structure LateRecord (S : Signature) (R : Type) where
  works : Turn S → R → Prop
  looks : Turn S → Prop
  found : Turn S → Prop
  saves : Turn S → Prop
  recorded : S.State → Prop
  stored : S.State → R → Prop

namespace LateRecord

variable {R α : Type} (record : LateRecord S R)

/-- The turn does the work, with some result. -/
def Works (turn : Turn S) : Prop := ∃ result, record.works turn result

/-- A process works once and only after a lookup that found nothing, and puts on record what
it has done, and nothing else. -/
structure Guards (history : List (Turn S)) (turn : Turn S) : Prop where
  works : record.Works turn → (∀ earlier ∈ history, ¬record.Works earlier) ∧
    ∃ lookup ∈ history, record.looks lookup ∧ ¬record.found lookup
  saves : record.saves turn → record.recorded turn.after
  stores : ∀ result, record.stored turn.after result →
    record.stored turn.before result ∨ ∃ work ∈ history, record.works work result

/-- An answer that carries the result of a turn of its own process, or one on record. -/
def Accounts (carries : α → R → Prop) (answer : α) (history : List (Turn S)) : Prop :=
  ∃ result, carries answer result ∧
    ((∃ work ∈ history, record.works work result) ∨
      ∃ lookup ∈ history, record.stored lookup.before result)

/-- The contract of a process that records its work. -/
def Post (carries : α → R → Prop) : Except S.Error α → List (Turn S) → Prop :=
  OnResult (record.Accounts carries) fun _ _ => True

/-- Every answer carries the result of a turn of the run. -/
def Answered (carries : α → R → Prop) (trace : List (Turn S)) (final : Pool S α) : Prop :=
  ∀ (thread : Nat) process answer, final.procs[thread]? = some process →
    process.finished = some (.ok answer) →
      ∃ turn ∈ trace, ∃ result, record.works turn result ∧ carries answer result

variable {record} {start final : Pool S α}

/-- A turn that writes nothing guards what it need not. -/
theorem Guards.of_idle {history : List (Turn S)} {turn : Turn S} (idle : turn.writes = [])
    (works : ∀ result, record.works turn result → turn.writes ≠ [])
    (saves : record.saves turn → turn.writes ≠ []) : record.Guards history turn where
  works worked := by
    obtain ⟨result, worked⟩ := worked
    exact absurd idle (works result worked)
  saves saved := absurd idle (saves saved)
  stores result stored := .inl (Turn.after_of_idle idle ▸ stored)

/-- The results on record are those of turns of the run. -/
theorem stored_of_turns (turns : start.Turns trace final)
    (initially : ∀ result, ¬record.stored start.state result)
    (stores : ∀ first turn rest, trace = first ++ turn :: rest → ∀ result,
      record.stored turn.after result → record.stored turn.before result ∨
        ∃ work ∈ first, record.works work result) :
    ∀ first turn rest, trace = first ++ turn :: rest → ∀ result,
      record.stored turn.before result → ∃ work ∈ first, record.works work result := by
  have along := turns.along
    (fun first state => ∀ result, record.stored state result →
      ∃ work ∈ first, record.works work result)
    (fun result stored => absurd stored (initially result)) ?_
  · exact along.2
  intro first turn rest split before result stored
  rcases stores first turn rest split result stored with earlier | ⟨work, member, worked⟩
  · obtain ⟨work, member, worked⟩ := before result earlier
    exact ⟨work, List.mem_append_left _ member, worked⟩
  · exact ⟨work, List.mem_append_left _ member, worked⟩

/-- Processes that record their work afterwards do it once, and all answer with its result,
exactly if no work is done behind the lookup of a process that works. -/
theorem once_answered_iff {carries : α → R → Prop} {supplied : Turn S → Prop}
    (turns : start.Turns trace final) (given : ∀ turn ∈ trace, supplied turn)
    (initially : ∀ result, ¬record.stored start.state result)
    (meets : ∀ (thread : Nat) process, start.procs[thread]? = some process →
      process.Meets (.turns supplied thread record.Guards) (record.Post carries) []) :
    (Once record.Works trace ∧ record.Answered carries trace final) ↔
      Shielded record.Works record.looks record.found trace := by
  obtain ⟨guarded, within⟩ := turns.own given meets
  have once : Once record.Works trace ↔ Shielded record.Works record.looks record.found trace :=
    once_iff_shielded fun first turn rest split worked => by
      obtain ⟨none, lookup, owned, looked, missed⟩ := (guarded first turn rest split).works worked
      exact ⟨lookup, owned, looked, missed, none lookup owned⟩
  have recorded := stored_of_turns turns initially fun first turn rest split result stored => by
    refine ((guarded first turn rest split).stores result stored).imp_right ?_
    rintro ⟨work, owned, worked⟩
    exact ⟨work, (Pool.mem_own.mp owned).1, worked⟩
  rw [once]
  refine and_iff_left fun thread process answer found ended => ?_
  have accounts : record.Accounts carries answer (Pool.own trace thread) :=
    (within thread process found).post_of_finished ended
  obtain ⟨result, carried, ⟨work, owned, worked⟩ | ⟨lookup, owned, stored⟩⟩ := accounts
  · exact ⟨work, (Pool.mem_own.mp owned).1, result, worked, carried⟩
  · obtain ⟨first, rest, split⟩ := List.append_of_mem (Pool.mem_own.mp owned).1
    obtain ⟨work, member, worked⟩ := recorded first lookup rest split result stored
    exact ⟨work, split ▸ List.mem_append_left _ member, result, worked, carried⟩

/-- Processes of which each waits for those that have looked before it do their work once, and
all answer with its result. -/
theorem once_answered_of_awaited (record : LateRecord S R) {carries : α → R → Prop}
    {supplied : Turn S → Prop}
    (turns : start.Turns trace final) (given : ∀ turn ∈ trace, supplied turn)
    (initially : ∀ result, ¬record.stored start.state result)
    (meets : ∀ (thread : Nat) process, start.procs[thread]? = some process →
      process.Meets (.turns supplied thread record.Guards) (record.Post carries) [])
    (kept : ∀ turn ∈ trace, record.recorded turn.before → record.recorded turn.after)
    (finds : ∀ turn ∈ trace, record.looks turn → record.recorded turn.before → record.found turn)
    (awaited : Awaited record.Works record.looks record.saves trace) :
    Once record.Works trace ∧ record.Answered carries trace final := by
  have guarded := (turns.own given meets).1
  have saved : ∀ turn ∈ trace, record.saves turn → record.recorded turn.after := by
    intro turn member saves
    obtain ⟨first, rest, split⟩ := List.append_of_mem member
    exact (guarded first turn rest split).saves saves
  rw [once_answered_iff turns given initially meets]
  refine awaited.shielded turns (fun first turn rest split worked => ?_) saved kept finds
  obtain ⟨none, lookup, owned, looked, _⟩ := (guarded first turn rest split).works worked
  exact ⟨none, lookup, owned, looked⟩

end LateRecord

end Armada.Concurrency
