import Armada.Concurrency.Outcomes
import Armada.Tracking.TrackingService

/-!
# The hint of a batch

A batch collects the results of its accepted points, which leaves the rejected ones out, and
then takes the n-th result for that of the n-th point. So the hint is the newest of the points
that stand before the valid ones by as many places as there are rejected points in between.
-/

namespace Armada.Tracking

open Collections Concurrency Relational

/-- What becomes of a point of a batch. -/
abbrev PointOutcome := Except Failure TelemetryIngestionResult

namespace PointOutcome

/-- The point was stored as VALID. -/
def isValid : PointOutcome → Bool
  | .ok result => result.validationStatus = .valid
  | .error _ => false

/-- The point was refused. -/
def isRejected : PointOutcome → Bool
  | .ok _ => false
  | .error _ => true

/-- The results of the accepted points. -/
def accepted (outcomes : List PointOutcome) : List TelemetryIngestionResult :=
  outcomes.filterMap Except.toOption

/-- The points that are accepted as valid. -/
def validPoints : List LocationIngestionDto → List PointOutcome → List LocationIngestionDto
  | dto :: points, outcome :: outcomes =>
      if outcome.isValid then dto :: validPoints points outcomes else validPoints points outcomes
  | _, _ => []

/-- For each valid point, the one that stands before it by the number of rejected points
between the start of the batch and the valid point. -/
def shiftedPoints (points : List LocationIngestionDto) (outcomes : List PointOutcome) :
    List LocationIngestionDto :=
  (List.range outcomes.length).filterMap fun place =>
    if outcomes[place]?.any isValid then
      points[place - (outcomes.take place).countP isRejected]?
    else none

/-- The errors of the rejected points, which are numbered from an index on. -/
def errors : Nat → List LocationIngestionDto → List PointOutcome → List BatchError
  | index, dto :: points, .error failure :: outcomes =>
      ⟨index, TrackingService.rejectionCode failure, dto.recordedAt⟩ ::
        errors (index + 1) points outcomes
  | index, _ :: points, .ok _ :: outcomes => errors (index + 1) points outcomes
  | _, _, _ => []

variable {points : List LocationIngestionDto} {outcomes : List PointOutcome}

/-- An accepted point adds its result. -/
@[simp] theorem accepted_cons_ok {result : TelemetryIngestionResult} :
    accepted (.ok result :: outcomes) = result :: accepted outcomes := rfl

/-- A refused point adds none. -/
@[simp] theorem accepted_cons_error {failure : Failure} :
    accepted (.error failure :: outcomes) = accepted outcomes := rfl

/-- The results of two batches, one after the other. -/
theorem accepted_append {others : List PointOutcome} :
    accepted (outcomes ++ others) = accepted outcomes ++ accepted others :=
  List.filterMap_append

/-- A result is no refusal. -/
@[simp] theorem isRejected_ok {result : TelemetryIngestionResult} :
    isRejected (.ok result) = false := rfl

/-- A failure is one. -/
@[simp] theorem isRejected_error {failure : Failure} : isRejected (.error failure) = true := rfl

/-- A failure is not VALID. -/
@[simp] theorem isValid_error {failure : Failure} : isValid (.error failure) = false := rfl

/-- A result is VALID where it says so. -/
@[simp] theorem isValid_ok {result : TelemetryIngestionResult} :
    isValid (.ok result) = decide (result.validationStatus = .valid) := rfl

/-- The refusals are the failures. -/
theorem isRejected_iff {outcome : PointOutcome} :
    outcome.isRejected = true ↔ ∃ failure, outcome = .error failure := by
  cases outcome with
  | ok result => simp
  | error failure => simp

/-! ### Counts and errors -/

/-- Each outcome is accepted or refused. -/
theorem length_accepted (outcomes : List PointOutcome) :
    (accepted outcomes).length + outcomes.countP isRejected = outcomes.length := by
  induction outcomes with
  | nil => rfl
  | cons outcome outcomes inductionHypothesis =>
      cases outcome with
      | ok result =>
          simp
          omega
      | error failure =>
          simp [List.countP_cons]
          omega

/-- The indices that are reported are those of the rejected points. -/
theorem map_index_errors {index : Nat} (same : outcomes.length = points.length) :
    (errors index points outcomes).map BatchError.index =
      ((outcomes.zipIdx index).filter fun entry => entry.1.isRejected).map Prod.snd := by
  induction points generalizing index outcomes with
  | nil =>
      obtain rfl : outcomes = [] := by simpa using same
      rfl
  | cons dto points inductionHypothesis =>
      cases outcomes with
      | nil => simp at same
      | cons outcome outcomes =>
          have rest := @inductionHypothesis outcomes (index + 1) (Nat.succ.inj same)
          cases outcome with
          | ok result => simpa [errors, List.filter_cons] using rest
          | error failure => simpa [errors, List.filter_cons] using rest

/-- The indexes that the answer lists are those of the refused points. -/
theorem mem_errors (same : outcomes.length = points.length) {index : Nat} :
    index ∈ (errors 0 points outcomes).map BatchError.index ↔
      ∃ failure, outcomes[index]? = some (.error failure) := by
  rw [map_index_errors same]
  simp only [List.mem_map, List.mem_filter, Prod.exists, exists_eq_right,
    List.mem_zipIdx_iff_getElem?, isRejected_iff]
  constructor
  · rintro ⟨outcome, found, failure, rfl⟩
    exact ⟨failure, found⟩
  · rintro ⟨failure, found⟩
    exact ⟨.error failure, found, failure, rfl⟩

/-- No index is listed twice. -/
theorem nodup_errors (same : outcomes.length = points.length) :
    ((errors 0 points outcomes).map BatchError.index).Nodup := by
  rw [map_index_errors same]
  have numbers : (outcomes.zipIdx.map Prod.snd).Nodup := by
    rw [List.zipIdx_map_snd]
    exact List.nodup_range'
  exact numbers.sublist (List.filter_sublist.map Prod.snd)

/-- As many errors are listed as points are refused. -/
theorem length_errors {index : Nat} (same : outcomes.length = points.length) :
    (errors index points outcomes).length = outcomes.countP isRejected := by
  induction points generalizing index outcomes with
  | nil =>
      obtain rfl : outcomes = [] := by simpa using same
      rfl
  | cons dto points inductionHypothesis =>
      cases outcomes with
      | nil => simp at same
      | cons outcome outcomes =>
          have rest := @inductionHypothesis outcomes (index + 1) (Nat.succ.inj same)
          cases outcome with
          | ok result => simpa [errors, List.countP_cons] using rest
          | error failure => simpa [errors, List.countP_cons] using rest

/-! ### Points that are matched with results -/

/-- The points that the code matches with results that are valid. -/
def matchedPoints (points : List LocationIngestionDto) (results : List TelemetryIngestionResult) :
    List LocationIngestionDto :=
  ((points.zip results).filter fun pair => pair.2.validationStatus = .valid).map Prod.fst

/-- A zip whose second list grows at its end. -/
theorem zip_concat {α β : Type} (first : List α) (second : List β) (last : β) :
    first.zip (second ++ [last]) =
      first.zip second ++ (first[second.length]?.map fun item => (item, last)).toList := by
  induction first generalizing second with
  | nil => simp
  | cons item first inductionHypothesis =>
      cases second with
      | nil => simp
      | cons other second => simp [inductionHypothesis]

/-- The shifted points grow by the point at the place of the outcomes so far. -/
theorem shiftedPoints_concat (points : List LocationIngestionDto) (outcomes : List PointOutcome)
    (outcome : PointOutcome) :
    shiftedPoints points (outcomes ++ [outcome]) = shiftedPoints points outcomes ++
      (if outcome.isValid then points[(accepted outcomes).length]? else none).toList := by
  have last : (accepted outcomes).length = outcomes.length - outcomes.countP isRejected := by
    have counted := length_accepted outcomes
    omega
  have earlier : ∀ place ∈ List.range outcomes.length,
      (outcomes ++ [outcome])[place]? = outcomes[place]? ∧
        (outcomes ++ [outcome]).take place = outcomes.take place := by
    intro place member
    have bounded := List.mem_range.mp member
    exact ⟨List.getElem?_append_left bounded, List.take_append_of_le_length bounded.le⟩
  rw [shiftedPoints, List.length_append, List.length_singleton, List.range_succ,
    List.filterMap_append, last]
  congr 1
  · refine List.filterMap_congr fun place member => ?_
    rw [(earlier place member).1, (earlier place member).2]
  · cases taken : (if outcome.isValid then
        points[outcomes.length - outcomes.countP isRejected]? else none) <;> simp [taken]

/-- The code matches each valid result with the shifted point. -/
theorem matchedPoints_accepted (points : List LocationIngestionDto) (outcomes : List PointOutcome) :
    matchedPoints points (accepted outcomes) = shiftedPoints points outcomes := by
  induction outcomes using List.reverseRecOn with
  | nil => simp [matchedPoints, shiftedPoints, accepted]
  | append_singleton outcomes outcome inductionHypothesis =>
      rw [shiftedPoints_concat, ← inductionHypothesis, accepted_append]
      cases outcome with
      | ok result =>
          change matchedPoints points (accepted outcomes ++ [result]) = _
          rw [matchedPoints, zip_concat, List.filter_append, List.map_append]
          cases points[(accepted outcomes).length]? with
          | none => simp [matchedPoints]
          | some point =>
              by_cases valid : result.validationStatus = .valid <;> simp [matchedPoints, valid]
      | error failure =>
          change matchedPoints points (accepted outcomes ++ []) = _
          simp

/-! ### Numbers of points -/

/-- There are as many VALID points as VALID outcomes. -/
theorem length_validPoints (same : outcomes.length = points.length) :
    (validPoints points outcomes).length = outcomes.countP isValid := by
  induction points generalizing outcomes with
  | nil =>
      obtain rfl : outcomes = [] := by simpa using same
      rfl
  | cons dto points inductionHypothesis =>
      cases outcomes with
      | nil => simp at same
      | cons outcome outcomes =>
          have rest := inductionHypothesis (Nat.succ.inj same)
          rw [validPoints, List.countP_cons]
          split
          · simp [rest]
          · simp [rest]

/-- There is a shifted point for every valid one. -/
theorem length_shiftedPoints (enough : outcomes.length ≤ points.length) :
    (shiftedPoints points outcomes).length = outcomes.countP isValid := by
  induction outcomes using List.reverseRecOn with
  | nil => rfl
  | append_singleton outcomes outcome inductionHypothesis =>
      rw [List.length_append, List.length_singleton] at enough
      have counted := length_accepted outcomes
      have inside : (accepted outcomes).length < points.length := by omega
      rw [shiftedPoints_concat, List.length_append, inductionHypothesis (by omega),
        List.countP_append, List.getElem?_eq_getElem inside]
      by_cases valid : outcome.isValid <;> simp [valid]

/-- No shifted points are left exactly when no point is VALID. -/
theorem shiftedPoints_eq_nil (same : outcomes.length = points.length) :
    shiftedPoints points outcomes = [] ↔ validPoints points outcomes = [] := by
  rw [← List.length_eq_zero_iff, ← List.length_eq_zero_iff, length_shiftedPoints same.le,
    length_validPoints same]

end PointOutcome

/-! ## Runs of a batch -/

namespace TrackingService

variable [DateText] {K : Type} [Field K] [LinearOrder K] [Geodesy K]

/-- A call of the loop. -/
def processPoint (driverId : Uuid) (userRole : Role) (receivedAt : Int)
    (dto : LocationIngestionDto) : Proc tracking TelemetryIngestionResult :=
  processTelemetry dto (some driverId) userRole receivedAt "/v1/me/location/batch" true

variable {driverId : Uuid} {userRole : Role} {receivedAt : Int}
  {points : List LocationIngestionDto}

/-- The loop collects the outcomes of the points. -/
theorem processPoints_mayEnd {index : Nat}
    {collected : List TelemetryIngestionResult × List BatchError} :
    (processPoints driverId userRole receivedAt index points).MayEnd (.ok collected) ↔
      ∃ outcomes, List.Forall₂ (fun dto => (processPoint driverId userRole receivedAt dto).MayEnd)
          points outcomes ∧
        collected =
          (PointOutcome.accepted outcomes, PointOutcome.errors index points outcomes) := by
  induction points generalizing index collected with
  | nil =>
      simp only [processPoints, Proc.mayEnd_pure, Except.ok.injEq, List.forall₂_nil_left_iff,
        exists_eq_left]
      rfl
  | cons dto points inductionHypothesis =>
      rw [processPoints, Proc.mayEnd_bind_ok]
      constructor
      · rintro ⟨outcome, attempt, ends⟩
        obtain ⟨_, others, returned⟩ := Proc.mayEnd_bind_ok.mp ends
        obtain ⟨outcomes, rest, rfl⟩ := inductionHypothesis.mp others
        refine ⟨outcome :: outcomes, .cons (Proc.mayEnd_attempt.mp attempt) rest, ?_⟩
        cases outcome with
        | ok result => exact Except.ok.inj returned
        | error failure => exact Except.ok.inj returned
      · rintro ⟨_, processed, rfl⟩
        obtain ⟨outcome, outcomes, first, rest, rfl⟩ := List.forall₂_cons_left_iff.mp processed
        refine ⟨outcome, Proc.mayEnd_attempt.mpr first, Proc.mayEnd_bind_ok.mpr
          ⟨_, inductionHypothesis.mpr ⟨outcomes, rest, rfl⟩, ?_⟩⟩
        cases outcome with
        | ok result => rfl
        | error failure => rfl

end TrackingService

/-! ## The hint -/

section Hint

variable [DateText]

/-- A point of some points than which none is recorded later. -/
def Newest (points : List LocationIngestionDto) (point : LocationIngestionDto) : Prop :=
  point ∈ points ∧ ∀ other ∈ points, ∀ time ∈ DateText.getTime point.recordedAt,
    ∀ otherTime ∈ DateText.getTime other.recordedAt, otherTime ≤ time

/-- A point with which the sort of some points may begin: the first of the newest ones if the
comparator is consistent on them, and else any. -/
def MayLead (points : List LocationIngestionDto) (picked : LocationIngestionDto) : Prop :=
  picked ∈ points ∧ (Consistent TrackingService.newestFirst points →
    firstLeast TrackingService.newestFirst points = some picked)

/-- Whichever of the shifted points may come first, it has the position and the time of a newest
valid point. -/
def Aligned (points : List LocationIngestionDto) (outcomes : List PointOutcome) : Prop :=
  ∀ picked, MayLead (PointOutcome.shiftedPoints points outcomes) picked →
    ∃ point, Newest (PointOutcome.validPoints points outcomes) point ∧
      TrackingService.hintOf picked = TrackingService.hintOf point

/-- What the answer to a batch says is so. -/
structure Truthful (points : List LocationIngestionDto) (outcomes : List PointOutcome)
    (result : BatchIngestionResult) : Prop where
  counted : result.accepted + result.rejected = points.length
  errors_nodup : (result.errors.map BatchError.index).Nodup
  errors_index : ∀ index, index ∈ result.errors.map BatchError.index ↔
    ∃ failure, outcomes[index]? = some (.error failure)
  hint : ∀ hint ∈ result.latestBroadcast, ∃ point,
    Newest (PointOutcome.validPoints points outcomes) point ∧ hint = TrackingService.hintOf point
  hint_none : result.latestBroadcast = none ↔ PointOutcome.validPoints points outcomes = []

variable {points : List LocationIngestionDto} {outcomes : List PointOutcome}

/-- A point may lead when some runtime's sort puts it first. -/
theorem mayLead_iff {picked : LocationIngestionDto} :
    MayLead points picked ↔ ∃ runtime : ArraySort,
      picked ∈ (runtime.sort TrackingService.newestFirst points).head? := by
  constructor
  · rintro ⟨member, leads⟩
    by_cases consistent : Consistent TrackingService.newestFirst points
    · exact ⟨insertionRuntime, (head_insertionSort consistent).trans (leads consistent)⟩
    · exact exists_sort_head consistent member
  · rintro ⟨runtime, head⟩
    exact ⟨mem_of_head_sort head, fun consistent => (head_sort consistent).symm.trans head⟩

variable [ArraySort]

/-- The hint is the first of the shifted points. -/
theorem latestBroadcast_accepted :
    TrackingService.latestBroadcast points (PointOutcome.accepted outcomes) =
      (ArraySort.sort TrackingService.newestFirst
        (PointOutcome.shiftedPoints points outcomes)).head?.map TrackingService.hintOf := by
  rw [← PointOutcome.matchedPoints_accepted]
  rfl

variable {K : Type} [Field K] [LinearOrder K] [Geodesy K]

/-- A driver's batch may have these outcomes. -/
def BatchOutcomes (points : List LocationIngestionDto) (driverId : Option Uuid) (userRole : Role)
    (receivedAt : Int) (outcomes : List PointOutcome) : Prop :=
  userRole = .driver ∧ ∃ id, driverId = some id ∧
    List.Forall₂ (fun dto => (TrackingService.processPoint id userRole receivedAt dto).MayEnd)
      points outcomes

/-- A batch has these outcomes and this answer. -/
def BatchRun (points : List LocationIngestionDto) (driverId : Option Uuid) (userRole : Role)
    (receivedAt : Int) (outcomes : List PointOutcome) (result : BatchIngestionResult) : Prop :=
  BatchOutcomes points driverId userRole receivedAt outcomes ∧
    result = ⟨(PointOutcome.accepted outcomes).length,
      (PointOutcome.errors 0 points outcomes).length, PointOutcome.errors 0 points outcomes,
      TrackingService.latestBroadcast points (PointOutcome.accepted outcomes)⟩

variable {driverId : Option Uuid} {userRole : Role} {receivedAt : Int}

omit [ArraySort] in
/-- There is one outcome for each point. -/
theorem BatchOutcomes.length_eq
    (outcome : BatchOutcomes points driverId userRole receivedAt outcomes) :
    outcomes.length = points.length := by
  obtain ⟨_, _, _, processed⟩ := outcome
  exact processed.length_eq.symm

/-- The answers to a batch are those of its runs. -/
theorem processBatch_mayEnd {result : BatchIngestionResult} :
    (TrackingService.processBatch points driverId userRole receivedAt).MayEnd (.ok result) ↔
      ∃ outcomes, BatchRun points driverId userRole receivedAt outcomes result := by
  rw [TrackingService.processBatch, Proc.mayEnd_bind_ok]
  constructor
  · rintro ⟨_, isDriver, ends⟩
    obtain ⟨id, found, ends⟩ := Proc.mayEnd_bind_ok.mp ends
    obtain ⟨_, _, ends⟩ := Proc.mayEnd_bind_ok.mp ends
    obtain ⟨_, _, ends⟩ := Proc.mayEnd_bind_ok.mp ends
    obtain ⟨_, collects, returned⟩ := Proc.mayEnd_bind_ok.mp ends
    obtain ⟨outcomes, processed, rfl⟩ := TrackingService.processPoints_mayEnd.mp collects
    exact ⟨outcomes, ⟨not_not.mp (Proc.mayEnd_rejectIf_ok.mp isDriver), id,
      Proc.mayEnd_require_ok.mp found, processed⟩, Except.ok.inj returned⟩
  · rintro ⟨outcomes, ⟨isDriver, id, found, processed⟩, rfl⟩
    have counted : ∃ input state, (RedisService.incrRateLimit
        s!"throttle:location:batch:driver:{id}" 60).result input state = .ok 1 :=
      ⟨{}, {}, rfl⟩
    refine ⟨(), Proc.mayEnd_rejectIf_ok.mpr (not_not.mpr isDriver), Proc.mayEnd_bind_ok.mpr
      ⟨id, Proc.mayEnd_require_ok.mpr found, Proc.mayEnd_bind_ok.mpr
        ⟨1, Proc.mayEnd_lift.mpr counted, Proc.mayEnd_bind_ok.mpr
          ⟨(), Proc.mayEnd_rejectIf_ok.mpr (by decide), Proc.mayEnd_bind_ok.mpr
            ⟨_, TrackingService.processPoints_mayEnd.mpr ⟨outcomes, processed, rfl⟩, rfl⟩⟩⟩⟩⟩

/-- Apart from the hint, the answer of every run is right. -/
theorem truthful_iff_hint {result : BatchIngestionResult}
    (run : BatchRun points driverId userRole receivedAt outcomes result) :
    Truthful points outcomes result ↔ ∀ hint ∈ result.latestBroadcast, ∃ point,
      Newest (PointOutcome.validPoints points outcomes) point ∧
        hint = TrackingService.hintOf point := by
  obtain ⟨processed, rfl⟩ := run
  have same := processed.length_eq
  refine ⟨Truthful.hint, fun hint => ⟨?_, PointOutcome.nodup_errors same,
    fun index => PointOutcome.mem_errors same, hint, ?_⟩⟩
  · rw [PointOutcome.length_errors same, ← same]
    exact PointOutcome.length_accepted outcomes
  · rw [latestBroadcast_accepted, Option.map_eq_none_iff, head_sort_eq_none,
      PointOutcome.shiftedPoints_eq_nil same]

end Hint

/-! ## Batches whose rejected points come last -/

section Unbroken

/-- No rejected point stands before a valid one. -/
def Unbroken (outcomes : List PointOutcome) : Prop :=
  outcomes.Pairwise fun earlier later => earlier.isRejected = true → later.isValid = false

instance (outcomes : List PointOutcome) : Decidable (Unbroken outcomes) :=
  inferInstanceAs (Decidable (outcomes.Pairwise _))

variable {points : List LocationIngestionDto} {outcomes : List PointOutcome}

/-- Where no refusal stands before a VALID outcome, the shifted points are the VALID ones. -/
theorem shiftedPoints_of_unbroken (same : outcomes.length = points.length)
    (unbroken : Unbroken outcomes) :
    PointOutcome.shiftedPoints points outcomes = PointOutcome.validPoints points outcomes := by
  rw [← PointOutcome.matchedPoints_accepted]
  induction points generalizing outcomes with
  | nil =>
      obtain rfl : outcomes = [] := by simpa using same
      rfl
  | cons dto points inductionHypothesis =>
      cases outcomes with
      | nil => simp at same
      | cons outcome outcomes =>
          have rest := inductionHypothesis (Nat.succ.inj same) unbroken.tail
          cases outcome with
          | ok result =>
              rw [PointOutcome.accepted_cons_ok, PointOutcome.validPoints, ← rest]
              by_cases valid : result.validationStatus = .valid <;>
                simp [PointOutcome.matchedPoints, valid]
          | error failure =>
              -- after a rejected point there are no valid ones
              have none : (Except.error failure :: outcomes : List PointOutcome).countP
                  PointOutcome.isValid = 0 := by
                rw [List.countP_eq_zero]
                intro other member
                rcases List.mem_cons.mp member with rfl | later
                · simp
                · simp [List.rel_of_pairwise_cons unbroken later rfl]
              rw [PointOutcome.matchedPoints_accepted, List.length_eq_zero_iff.mp
                ((PointOutcome.length_shiftedPoints same.le).trans none), List.length_eq_zero_iff.mp
                ((PointOutcome.length_validPoints same).trans none)]

variable [DateText]

/-- The comparator is consistent when every time is readable. -/
theorem newestFirst_consistent
    (readable : ∀ point ∈ points, ∃ time, DateText.getTime point.recordedAt = some time) :
    Consistent TrackingService.newestFirst points where
  antisymm first member second other := by
    obtain ⟨firstTime, firstRead⟩ := readable first member
    obtain ⟨secondTime, secondRead⟩ := readable second other
    simp only [TrackingService.newestFirst, firstRead, secondRead]
    omega
  trans first firstMember second secondMember third thirdMember := by
    obtain ⟨firstTime, firstRead⟩ := readable first firstMember
    obtain ⟨secondTime, secondRead⟩ := readable second secondMember
    obtain ⟨thirdTime, thirdRead⟩ := readable third thirdMember
    simp only [TrackingService.newestFirst, firstRead, secondRead, thirdRead]
    omega

/-- The first of the sorted points is a newest one. -/
theorem newest_of_firstLeast {picked : LocationIngestionDto}
    (leads : firstLeast TrackingService.newestFirst points = some picked) :
    Newest points picked := by
  obtain ⟨member, least⟩ := firstLeast_eq_some leads
  refine ⟨member, fun other otherMember time read otherTime otherRead => ?_⟩
  have before := least other otherMember
  rw [TrackingService.newestFirst, Option.mem_def.mp read, Option.mem_def.mp otherRead] at before
  dsimp only at before
  omega

/-- A batch is aligned if its rejected points come last and its valid times can be read. -/
theorem aligned_of_unbroken (same : outcomes.length = points.length) (unbroken : Unbroken outcomes)
    (readable : ∀ point ∈ PointOutcome.validPoints points outcomes,
      ∃ time, DateText.getTime point.recordedAt = some time) : Aligned points outcomes := by
  intro picked leads
  rw [shiftedPoints_of_unbroken same unbroken] at leads
  exact ⟨picked, newest_of_firstLeast (leads.2 (newestFirst_consistent readable)), rfl⟩

end Unbroken

section Results

variable [DateText] {K : Type} [Field K] [LinearOrder K] [Geodesy K]

/-- Of a batch with given outcomes every answer is truthful, whatever a runtime makes of an
inconsistent comparator, exactly if the points are aligned with the outcomes. -/
theorem batch_hint_iff (points : List LocationIngestionDto) (driverId : Option Uuid)
    (userRole : Role) (receivedAt : Int) :
    (∀ [ArraySort] (result : BatchIngestionResult),
      (TrackingService.processBatch points driverId userRole receivedAt).MayEnd (.ok result) ↔
        ∃ outcomes, BatchRun points driverId userRole receivedAt outcomes result) ∧
      ∀ outcomes, BatchOutcomes points driverId userRole receivedAt outcomes →
        ((∀ [ArraySort] (result : BatchIngestionResult),
          BatchRun points driverId userRole receivedAt outcomes result →
            Truthful points outcomes result) ↔ Aligned points outcomes) := by
  refine ⟨fun result => processBatch_mayEnd, fun outcomes processed => ⟨fun truthful => ?_,
    fun aligned _ result run => ?_⟩⟩
  · intro picked leads
    obtain ⟨runtime, head⟩ := mayLead_iff.mp leads
    have hint := (truthful _ ⟨processed, rfl⟩).hint (TrackingService.hintOf picked) (by
      rw [latestBroadcast_accepted]
      exact Option.mem_map_of_mem _ head)
    exact hint
  · rw [truthful_iff_hint run]
    obtain ⟨_, rfl⟩ := run
    intro hint shown
    rw [latestBroadcast_accepted] at shown
    obtain ⟨picked, head, rfl⟩ := Option.mem_map.mp shown
    exact aligned picked (mayLead_iff.mpr ⟨_, head⟩)

/-- The answers of a batch are those of the runs with some outcomes of its points. If its
rejected points come after the valid ones, whose times can be read, every answer is truthful,
whatever sort a runtime has. -/
theorem batch_hint_of_unbroken (points : List LocationIngestionDto) (driverId : Option Uuid)
    (userRole : Role) (receivedAt : Int) :
    (∀ [ArraySort] (result : BatchIngestionResult),
      (TrackingService.processBatch points driverId userRole receivedAt).MayEnd (.ok result) ↔
        ∃ outcomes, BatchRun points driverId userRole receivedAt outcomes result) ∧
      ∀ [ArraySort] (outcomes : List PointOutcome) (result : BatchIngestionResult),
        Unbroken outcomes →
          (∀ point ∈ PointOutcome.validPoints points outcomes,
            ∃ time, DateText.getTime point.recordedAt = some time) →
          BatchRun points driverId userRole receivedAt outcomes result →
            Truthful points outcomes result := by
  obtain ⟨answers, exact⟩ := batch_hint_iff points driverId userRole receivedAt
  refine ⟨answers, fun outcomes result unbroken readable run => ?_⟩
  have aligned := aligned_of_unbroken run.1.length_eq unbroken readable
  exact (exact outcomes run.1).mpr aligned result run

end Results

section Stale

local instance : DateText := tableDates [("2026-09-02T06:00:00.000Z", 1788328800000),
  ("2026-09-02T08:00:00.000Z", 1788336000000)]

local instance : Geodesy ℚ := onePlace

def stalePoint : LocationIngestionDto where
  latitude := -62 / 10
  longitude := 1068 / 10
  accuracyM := 10
  recordedAt := "2026-09-02T06:00:00.000Z"

def freshPoint : LocationIngestionDto where
  latitude := -63 / 10
  longitude := 1069 / 10
  accuracyM := 10
  recordedAt := "2026-09-02T08:00:00.000Z"

def staleResult : PointOutcome := .error (.http ⟨.unprocessableEntity, "TIMESTAMP_STALE",
  "GPS telemetry rejected: TIMESTAMP_STALE", none⟩)

def freshResult : PointOutcome :=
  .ok { locationId := 30, validationStatus := .valid, receivedAt := 1788336001000 }

def batchDriver : Db where
  drivers := Table.empty.insert { id := 1, userId := 2, operationalStatus := .available }

/-- The stale point is refused. -/
theorem processPoint_stale :
    (TrackingService.processPoint 1 .driver 1788336001000 stalePoint).MayEnd staleResult := by
  have runs : ((TrackingService.processPoint 1 .driver 1788336001000 stalePoint).run
      (fun _ _ => { uuid := 30 }) batchDriver).1 = staleResult := by decide +kernel
  exact (Proc.runs_iff_run.mpr (Prod.ext runs rfl)).mayEnd

/-- The fresh point is stored as VALID. -/
theorem processPoint_fresh :
    (TrackingService.processPoint 1 .driver 1788336001000 freshPoint).MayEnd freshResult := by
  have runs : ((TrackingService.processPoint 1 .driver 1788336001000 freshPoint).run
      (fun _ _ => { uuid := 30 }) batchDriver).1 = freshResult := by decide +kernel
  exact (Proc.runs_iff_run.mpr (Prod.ext runs rfl)).mayEnd

local instance : ArraySort := insertionRuntime

/-- A batch whose last point is stale. -/
theorem batch_hint_of_unbroken_staleLast : ∃ result,
    BatchRun [freshPoint, stalePoint] (some 1) .driver 1788336001000
      [freshResult, staleResult] result ∧
      Truthful [freshPoint, stalePoint] [freshResult, staleResult] result := by
  have run : BatchRun [freshPoint, stalePoint] (some 1) .driver 1788336001000
      [freshResult, staleResult] _ :=
    ⟨⟨rfl, 1, rfl, .cons processPoint_fresh (.cons processPoint_stale .nil)⟩, rfl⟩
  refine ⟨_, run, (batch_hint_of_unbroken [freshPoint, stalePoint] (some 1) .driver
    1788336001000).2 _ _ (by decide +kernel) (fun point member => ?_) run⟩
  obtain rfl : point = freshPoint := List.mem_singleton.mp member
  exact ⟨1788336000000, by decide +kernel⟩

/-- The hint of a batch whose first point is stale is that point. -/
theorem hint_is_rejected :
    ¬∀ [ArraySort] (points : List LocationIngestionDto) (driverId : Option Uuid) (userRole : Role)
      (receivedAt : Int) (outcomes : List PointOutcome) (result : BatchIngestionResult),
      BatchRun points driverId userRole receivedAt outcomes result →
        Truthful points outcomes result := by
  intro claimed
  have truthful := claimed [stalePoint, freshPoint] (some 1) .driver 1788336001000
    [staleResult, freshResult] _
    ⟨⟨rfl, 1, rfl, .cons processPoint_stale (.cons processPoint_fresh .nil)⟩, rfl⟩
  have shown : TrackingService.latestBroadcast [stalePoint, freshPoint]
      (PointOutcome.accepted [staleResult, freshResult]) =
        some (TrackingService.hintOf stalePoint) := by decide +kernel
  obtain ⟨point, ⟨member, _⟩, same⟩ := truthful.hint _ shown
  obtain rfl : point = freshPoint := List.mem_singleton.mp member
  revert same
  decide +kernel

end Stale

end Armada.Tracking
