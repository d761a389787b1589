import Mathlib.Data.Finset.Card
import Mathlib.Data.List.Infix
import Armada.Redis.RedisService

/-!
# Uncertain revocations force the database check

Every entry of the set comes from a call that failed less than a quarter of an hour ago. As
long as no more keys than the set has room for fail in such a time, nothing is evicted and a
key stays until its time is over. Without the bound the oldest key makes room, unless it is
the empty string.
-/

namespace Armada.Redis

open Collections Armada.Redis.RedisService

/-! ## One call -/

section Service

variable {service : RedisService} {key : String} {now : Instant} {call : Call}

/-- What is left after the pruning. -/
@[simp] theorem mem_prune {expiresAt : Instant} :
    (key, expiresAt) ∈
        (service.pruneUncertainRevocationKeys now).uncertainRevocationKeys.entries ↔
      (key, expiresAt) ∈ service.uncertainRevocationKeys.entries ∧ now < expiresAt := by
  simp [pruneUncertainRevocationKeys]

/-- Pruning twice is pruning once. -/
@[simp] theorem prune_prune :
    (service.pruneUncertainRevocationKeys now).pruneUncertainRevocationKeys now =
      service.pruneUncertainRevocationKeys now := by
  simp [pruneUncertainRevocationKeys, InsertionMap.filter]

/-- The service that a call finds, once the keys whose time is over are gone. -/
def Call.finds (call : Call) (service : RedisService) : RedisService :=
  service.pruneUncertainRevocationKeys call.now

/-- What a call does: it fails and marks its key, or clears it, or leaves the set alone. -/
inductive Call.Does (call : Call) (service : RedisService) : RedisService → Prop where
  | marks (failed : call.Failed service) :
      Does call service ((call.finds service).markRevocationUncertain call.key call.now)
  | clears (unfailed : ¬call.Failed service) (succeeded : call.Succeeded) :
      Does call service ⟨(call.finds service).uncertainRevocationKeys.delete call.key⟩
  | leaves (unfailed : ¬call.Failed service) : Does call service (call.finds service)

/-- A call does what its outcome says. -/
theorem Call.does (call : Call) (service : RedisService) : call.Does service (call.run service) := by
  obtain ⟨operation, key, now, connected, answer⟩ := call
  cases operation with
  | isRevoked =>
      simp only [Call.run, RedisService.isRevoked]
      split
      · rename_i unasked
        refine .leaves ?_
        rintro (⟨_, absent, online, _⟩ | ⟨impossible, _⟩)
        · rcases unasked with there | offline
          · cases absent.symm.trans there
          · exact offline online
        · cases impossible
      · rename_i asked
        rw [not_or, not_not, Bool.not_eq_true] at asked
        cases answer with
        | some exist =>
            refine .leaves ?_
            rintro (⟨_, _, _, impossible⟩ | ⟨impossible, _⟩) <;> cases impossible
        | none => exact .marks (.inl ⟨rfl, asked.1, asked.2, rfl⟩)
  | setRevocation =>
      simp only [Call.run, RedisService.setRevocation]
      split
      · rename_i offline
        exact .marks (.inr ⟨rfl, fun online => absurd online offline⟩)
      · rename_i online
        rw [not_not] at online
        cases answer with
        | some reply =>
            refine .clears ?_ ⟨rfl, online, rfl⟩
            rintro (⟨impossible, _⟩ | ⟨_, thrown⟩)
            · cases impossible
            · cases thrown online
        | none => exact .marks (.inr ⟨rfl, fun _ => rfl⟩)

/-- The key of a call that marks it has a new deadline; an entry of another key is gone only
if its time is over or the set had no room. -/
theorem mem_mark {other : String} {expiresAt : Instant}
    (roomy : ¬(call.finds service).Crowded call.key) :
    (other, expiresAt) ∈ ((call.finds service).markRevocationUncertain call.key
        call.now).uncertainRevocationKeys.entries ↔
      other = call.key ∧ expiresAt = call.now + uncertainRevocationTtlMs ∨
        other ≠ call.key ∧ (other, expiresAt) ∈ service.uncertainRevocationKeys.entries ∧
          call.now < expiresAt := by
  rw [Call.finds] at roomy ⊢
  simp only [markRevocationUncertain, prune_prune, roomy, if_false, InsertionMap.mem_set, mem_prune]

/-- Whatever makes room, every entry was there before or is that of the call. -/
theorem mem_of_mem_mark {other : String} {expiresAt : Instant}
    (member : (other, expiresAt) ∈ ((call.finds service).markRevocationUncertain call.key
      call.now).uncertainRevocationKeys.entries) :
    other = call.key ∧ expiresAt = call.now + uncertainRevocationTtlMs ∨
      (other, expiresAt) ∈ service.uncertainRevocationKeys.entries := by
  rw [Call.finds, markRevocationUncertain, prune_prune] at member
  rcases InsertionMap.mem_set.mp member with own | ⟨_, member⟩
  · exact .inl own
  · refine .inr (mem_prune.mp (?_ : (other, expiresAt) ∈
      (service.pruneUncertainRevocationKeys call.now).uncertainRevocationKeys.entries)).1
    split at member
    · rw [evictOldest] at member
      split at member
      · split at member
        · exact (InsertionMap.mem_delete.mp member).1
        · exact member
      · exact member
    · exact member

/-! ## The size -/

/-- The number of uncertain keys. -/
abbrev RedisService.size (service : RedisService) : Nat := service.uncertainRevocationKeys.size

/-- A call has no room for its key, and the oldest key counts as none. -/
def Call.Overflows (call : Call) (service : RedisService) : Prop :=
  call.Failed service ∧ (call.finds service).Crowded call.key ∧
    (call.finds service).uncertainRevocationKeys.oldest? = some ""

/-- Pruning does not grow the map. -/
theorem size_finds_le : (call.finds service).size ≤ service.size :=
  InsertionMap.size_filter_le _ _

/-- A mark in a roomy map keeps the bound. -/
theorem size_mark_of_roomy (roomy : ¬(call.finds service).Crowded call.key)
    (bounded : (call.finds service).size ≤ maxUncertainRevocationKeys) :
    ((call.finds service).markRevocationUncertain call.key call.now).size ≤
      maxUncertainRevocationKeys := by
  rw [Call.finds] at roomy bounded ⊢
  simp only [RedisService.size, markRevocationUncertain, prune_prune, roomy, if_false]
  cases there : (service.pruneUncertainRevocationKeys call.now).uncertainRevocationKeys.has
      call.key with
  | true => rwa [InsertionMap.size_set_of_has there]
  | false =>
      rw [InsertionMap.size_set_of_not_has there]
      exact Nat.lt_of_not_le fun full => roomy ⟨there, full⟩

/-- Without room a new key takes the place of the oldest one, or none is made. -/
theorem size_mark_of_crowded (crowded : (call.finds service).Crowded call.key) :
    ((call.finds service).markRevocationUncertain call.key call.now).size =
      if (call.finds service).uncertainRevocationKeys.oldest? = some "" then
        (call.finds service).size + 1
      else (call.finds service).size := by
  have twice : (call.finds service).pruneUncertainRevocationKeys call.now = call.finds service :=
    prune_prune
  simp only [RedisService.size, markRevocationUncertain, twice, crowded, if_true, evictOldest]
  cases first : (call.finds service).uncertainRevocationKeys.oldest? with
  | none =>
      have full := crowded.2
      rw [InsertionMap.oldest?, List.head?_eq_none_iff, InsertionMap.keys,
        List.map_eq_nil_iff] at first
      rw [InsertionMap.size, first] at full
      cases full
  | some oldestKey =>
      by_cases empty : oldestKey = ""
      · subst empty
        exact InsertionMap.size_set_of_not_has crowded.1
      · simp only [ne_eq, empty, not_false_eq_true, if_true, Option.some.injEq, if_false]
        rw [InsertionMap.size_set_of_not_has (InsertionMap.not_has_delete crowded.1),
          InsertionMap.size_delete_oldest first]

/-- A set that is within its bound stays so, unless the call overflows it. -/
theorem size_run_le_iff (bounded : service.size ≤ maxUncertainRevocationKeys) :
    (call.run service).size ≤ maxUncertainRevocationKeys ↔ ¬call.Overflows service := by
  have pruned : (call.finds service).size ≤ maxUncertainRevocationKeys :=
    size_finds_le.trans bounded
  have does := call.does service
  generalize call.run service = next at does ⊢
  cases does with
  | marks failed =>
      by_cases crowded : (call.finds service).Crowded call.key
      · have full : maxUncertainRevocationKeys ≤ (call.finds service).size := crowded.2
        rw [size_mark_of_crowded crowded, Call.Overflows]
        by_cases empty : (call.finds service).uncertainRevocationKeys.oldest? = some ""
        · simp only [failed, crowded, empty, if_true, and_self, not_true, iff_false]
          omega
        · simp [pruned, empty]
      · simp [size_mark_of_roomy crowded pruned, Call.Overflows, crowded]
  | clears unfailed succeeded =>
      refine iff_of_true ?_ fun overflows => unfailed overflows.1
      exact (List.length_filter_le _ _).trans pruned
  | leaves unfailed => exact iff_of_true pruned fun overflows => unfailed overflows.1

/-! ## What protects a key -/

/-- A key is uncertain until an instant, at least. -/
def Guarded (service : RedisService) (key : String) (expiry : Instant) : Prop :=
  ∃ expiresAt, expiry ≤ expiresAt ∧
    (key, expiresAt) ∈ service.uncertainRevocationKeys.entries

/-- A key that is guarded is not asked for. -/
theorem Guarded.isRevoked {expiry : Instant} (guarded : Guarded service key expiry)
    (early : now < expiry) (redis : Connection) : (service.isRevoked key now redis).1 = none := by
  obtain ⟨expiresAt, late, member⟩ := guarded
  have there : (service.pruneUncertainRevocationKeys now).uncertainRevocationKeys.has key = true :=
    InsertionMap.has_iff.mpr ⟨expiresAt, mem_prune.mpr ⟨member, early.trans_le late⟩⟩
  simp only [RedisService.isRevoked, there, true_or, if_true]

/-- A failed call in a roomy map guards its key. -/
theorem guarded_of_failed (failed : call.Failed service)
    (roomy : ¬(call.finds service).Crowded call.key) :
    Guarded (call.run service) call.key (call.now + uncertainRevocationTtlMs) := by
  have does := call.does service
  generalize call.run service = next at does ⊢
  cases does with
  | marks _ => exact ⟨_, le_rfl, (mem_mark roomy).mpr (.inl ⟨rfl, rfl⟩)⟩
  | clears unfailed _ => exact absurd failed unfailed
  | leaves unfailed => exact absurd failed unfailed

/-- A call before the time is over keeps a key guarded, if it has room for its own key and
does not carry through the revocation. -/
theorem Guarded.run {expiry : Instant} (guarded : Guarded service key expiry)
    (early : call.now < expiry) (later : expiry ≤ call.now + uncertainRevocationTtlMs)
    (roomy : call.Failed service → ¬(call.finds service).Crowded call.key)
    (unsettled : call.key = key → ¬call.Succeeded) : Guarded (call.run service) key expiry := by
  obtain ⟨expiresAt, late, member⟩ := guarded
  have does := call.does service
  generalize call.run service = next at does ⊢
  cases does with
  | marks failed =>
      by_cases same : key = call.key
      · exact ⟨_, later, (mem_mark (roomy failed)).mpr (.inl ⟨same, rfl⟩)⟩
      · exact ⟨expiresAt, late,
          (mem_mark (roomy failed)).mpr (.inr ⟨same, member, early.trans_le late⟩)⟩
  | clears _ succeeded =>
      have different : key ≠ call.key := fun same => unsettled same.symm succeeded
      exact ⟨expiresAt, late, InsertionMap.mem_delete.mpr
        ⟨mem_prune.mpr ⟨member, early.trans_le late⟩, different⟩⟩
  | leaves _ => exact ⟨expiresAt, late, mem_prune.mpr ⟨member, early.trans_le late⟩⟩

/-- Every uncertain key is that of a failed call, whose time is not over. -/
def Tracked (failed : List Call) (service : RedisService) : Prop :=
  ∀ key expiresAt, (key, expiresAt) ∈ service.uncertainRevocationKeys.entries →
    ∃ call ∈ failed, call.key = key ∧ call.now + uncertainRevocationTtlMs = expiresAt

/-- A call tracks its failure. -/
theorem Tracked.run {failed : List Call} (tracked : Tracked failed service) (call : Call) :
    Tracked (failed ++ if call.Failed service then [call] else []) (call.run service) := by
  have does := call.does service
  generalize call.run service = next at does ⊢
  intro key expiresAt member
  have earlier : (key, expiresAt) ∈ service.uncertainRevocationKeys.entries →
      ∃ other ∈ failed ++ if call.Failed service then [call] else [],
        other.key = key ∧ other.now + uncertainRevocationTtlMs = expiresAt := by
    intro there
    obtain ⟨other, isFailed, known⟩ := tracked key expiresAt there
    exact ⟨other, List.mem_append_left _ isFailed, known⟩
  cases does with
  | marks isFailed =>
      rcases mem_of_mem_mark member with ⟨rfl, rfl⟩ | there
      · rw [if_pos isFailed]
        exact ⟨call, List.mem_append_right _ (List.mem_singleton_self call), rfl, rfl⟩
      · exact earlier there
  | clears _ _ => exact earlier (mem_prune.mp (InsertionMap.mem_delete.mp member).1).1
  | leaves _ => exact earlier (mem_prune.mp member).1

end Service

/-! ## Histories -/

section History

variable {history : List Call}

/-- The service after one more call. -/
theorem after_append_singleton (history : List Call) (call : Call) :
    after (history ++ [call]) = call.run (after history) := by
  rw [after, List.foldl_append]
  rfl

/-- The failures of one more call. -/
theorem failures_append (service : RedisService) (history : List Call) (call : Call) :
    failures service (history ++ [call]) = failures service history ++
      if call.Failed (history.foldl (fun service call => call.run service) service) then [call]
      else [] := by
  induction history generalizing service with
  | nil => by_cases failed : call.Failed service <;> simp [failures, failed]
  | cons first history inductionHypothesis =>
      rw [List.cons_append, failures, failures, inductionHypothesis]
      split <;> rfl

/-- The failures are some of the calls. -/
theorem failures_sublist (service : RedisService) (history : List Call) :
    (failures service history).Sublist history := by
  induction history generalizing service with
  | nil => exact .slnil
  | cons call history inductionHypothesis =>
      rw [failures]
      split
      · exact (inductionHypothesis _).cons_cons call
      · exact (inductionHypothesis _).cons call

/-- After every history the service is tracked. -/
theorem tracked_after (history : List Call) : Tracked (failures {} history) (after history) := by
  induction history using List.reverseRecOn with
  | nil => exact fun key expiresAt member => by cases member
  | append_singleton history call inductionHypothesis =>
      rw [failures_append, after_append_singleton]
      exact inductionHypothesis.run call

/-- The keys of the calls that failed in the quarter of an hour that ends at an instant. -/
def failedKeys (history : List Call) (now : Instant) : Finset String :=
  (((failures {} history).filter fun call =>
    now < call.now + uncertainRevocationTtlMs ∧ call.now ≤ now).map Call.key).toFinset

/-- No more keys fail in a quarter of an hour than the set has room for. -/
def Bounded (history : List Call) : Prop :=
  ∀ now, (failedKeys history now).card ≤ maxUncertainRevocationKeys

/-- The clock does not go back. -/
def Monotone (history : List Call) : Prop :=
  history.Pairwise fun earlier later => earlier.now ≤ later.now

/-- Under the bound a call that fails has room for its key. -/
theorem Bounded.roomy {call : Call} (bounded : Bounded (history ++ [call]))
    (monotone : Monotone (history ++ [call])) (failed : call.Failed (after history)) :
    ¬(call.finds (after history)).Crowded call.key := by
  rintro ⟨absent, full⟩
  have uncertain : (call.finds (after history)).uncertainRevocationKeys.keys.Nodup :=
    (call.finds (after history)).uncertainRevocationKeys.nodup
  have recent : insert call.key
      (call.finds (after history)).uncertainRevocationKeys.keys.toFinset ⊆
        failedKeys (history ++ [call]) call.now := by
    have failures := failures_append {} history call
    rw [← after, if_pos failed] at failures
    refine Finset.insert_subset ?_ fun key there => ?_
    · simp [failedKeys, failures, uncertainRevocationTtlMs]
    · rw [List.mem_toFinset] at there
      obtain ⟨expiresAt, member⟩ := InsertionMap.has_iff.mp (decide_eq_true there)
      obtain ⟨member, alive⟩ := mem_prune.mp member
      obtain ⟨other, isFailed, rfl, rfl⟩ := tracked_after history key expiresAt member
      have earlier : other.now ≤ call.now := by
        refine (List.pairwise_append.mp monotone).2.2 other ?_ call (List.mem_singleton_self call)
        exact (failures_sublist {} history).subset isFailed
      rw [failedKeys, List.mem_toFinset, failures]
      refine List.mem_map_of_mem (List.mem_filter.mpr ⟨List.mem_append_left _ isFailed, ?_⟩)
      exact decide_eq_true ⟨alive, earlier⟩
  have fits := (Finset.card_le_card recent).trans (bounded call.now)
  rw [Finset.card_insert_of_notMem, List.toFinset_card_of_nodup uncertain, InsertionMap.keys,
    List.length_map] at fits
  · exact absurd full (Nat.not_le_of_lt fits)
  · rw [List.mem_toFinset]
    exact of_decide_eq_false absent

/-- The failures of a beginning are the beginning of the failures. -/
theorem extends_failures {earlier : List Call} (begins : earlier <+: history) :
    failures {} earlier <+: failures {} history := by
  obtain ⟨rest, rfl⟩ := begins
  induction rest using List.reverseRecOn with
  | nil => simp
  | append_singleton rest call inductionHypothesis =>
      rw [← List.append_assoc, failures_append]
      exact inductionHypothesis.trans (List.prefix_append _ _)

/-- A beginning of a bounded history is bounded. -/
theorem Bounded.of_begins {earlier : List Call} (bounded : Bounded history)
    (begins : earlier <+: history) : Bounded earlier := by
  intro now
  refine (Finset.card_le_card fun key member => ?_).trans (bounded now)
  rw [failedKeys, List.mem_toFinset] at member ⊢
  have kept := ((extends_failures begins).sublist.filter fun call =>
    decide (now < call.now + uncertainRevocationTtlMs ∧ call.now ≤ now)).map Call.key
  exact kept.subset member

/-- A key whose revocation has failed is guarded for a quarter of an hour, through every
later call that does not carry the revocation through. -/
theorem guarded_after {before between : List Call} {mark : Call}
    (bounded : Bounded (before ++ mark :: between))
    (monotone : Monotone (before ++ mark :: between)) (failed : mark.Failed (after before))
    (early : ∀ call ∈ between, call.now < mark.now + uncertainRevocationTtlMs)
    (unsettled : ∀ call ∈ between, call.key = mark.key → ¬call.Succeeded) :
    Guarded (after (before ++ mark :: between)) mark.key
      (mark.now + uncertainRevocationTtlMs) := by
  induction between using List.reverseRecOn with
  | nil =>
      rw [after_append_singleton]
      exact guarded_of_failed failed (bounded.roomy monotone failed)
  | append_singleton between call inductionHypothesis =>
      have whole : before ++ mark :: (between ++ [call]) = before ++ mark :: between ++ [call] := by
        simp
      rw [whole] at bounded monotone ⊢
      have guarded := inductionHypothesis (bounded.of_begins (List.prefix_append _ _))
        (monotone.sublist (List.sublist_append_left _ _))
        (fun other member => early other (List.mem_append_left _ member))
        (fun other member => unsettled other (List.mem_append_left _ member))
      have last := List.mem_append_right between (List.mem_singleton_self call)
      have later : mark.now ≤ call.now := by
        refine (List.pairwise_append.mp monotone).2.2 mark ?_ call (List.mem_singleton_self call)
        exact List.mem_append_right _ List.mem_cons_self
      rw [after_append_singleton]
      exact guarded.run (early call last) (Nat.add_le_add_right later _)
        (fun alsoFailed => bounded.roomy monotone alsoFailed) (unsettled call last)

/-- A history in which no call overflows the set. -/
def Fits (history : List Call) : Prop :=
  ∀ before call rest, history = before ++ call :: rest → ¬call.Overflows (after before)

/-- The set is within its bound all the time exactly if no call overflows it. -/
theorem size_after_le_iff (history : List Call) :
    (∀ earlier, earlier <+: history → (after earlier).size ≤ maxUncertainRevocationKeys) ↔
      Fits history := by
  constructor
  · rintro bounded before call rest rfl overflows
    have now := bounded before (List.prefix_append _ _)
    have next := bounded (before ++ [call]) ⟨rest, by simp⟩
    rw [after_append_singleton] at next
    exact (size_run_le_iff now).mp next overflows
  · rintro fits earlier ⟨rest, rfl⟩
    induction earlier using List.reverseRecOn generalizing rest with
    | nil => exact Nat.zero_le _
    | append_singleton before call inductionHypothesis =>
        rw [List.append_assoc, List.singleton_append] at fits
        rw [after_append_singleton]
        exact (size_run_le_iff (inductionHypothesis _ fits)).mpr (fits before call rest rfl)

/-- Where no key is the empty string, no call overflows the set. -/
theorem fits_of_nonempty (nonempty : ∀ call ∈ history, call.key ≠ "") : Fits history := by
  rintro before call rest rfl ⟨_, _, first⟩
  have there : "" ∈ (call.finds (after before)).uncertainRevocationKeys.keys :=
    List.mem_of_head? first
  obtain ⟨expiresAt, member⟩ := InsertionMap.has_iff.mp (decide_eq_true there)
  obtain ⟨other, isFailed, empty, _⟩ := tracked_after before "" expiresAt (mem_prune.mp member).1
  refine nonempty other (List.mem_append_left _ ?_) empty
  exact (failures_sublist {} before).subset isFailed

end History

/-- For every history of calls with a clock that does not go back: as long as at most 10000
keys see a failed call within 15 minutes, a key whose revocation failed, or found Redis
disconnected, is answered with null until 15 minutes have passed, unless a later revocation
of it succeeds; and without that bound the set is never larger than 10000 exactly if no call
fails for a new key while the set is full and its oldest key is the empty string. It is
never larger if no key is empty. -/
theorem uncertain_until_settled (history : List Call) (monotone : Monotone history) :
    (Bounded history → ∀ before mark between, history = before ++ mark :: between →
      mark.operation = .setRevocation → mark.Failed (after before) →
        (∀ call ∈ between, call.key = mark.key → ¬call.Succeeded) →
          ∀ now redis, (∀ call ∈ history, call.now ≤ now) →
            now < mark.now + uncertainRevocationTtlMs →
              ((after history).isRevoked mark.key now redis).1 = none) ∧
    ((∀ earlier, earlier <+: history → (after earlier).size ≤ maxUncertainRevocationKeys) ↔
      Fits history) ∧
    ((∀ call ∈ history, call.key ≠ "") → Fits history) := by
  refine ⟨?_, size_after_le_iff history, fits_of_nonempty⟩
  rintro bounded before mark between rfl _ failed unsettled now redis past early
  refine (guarded_after bounded monotone failed (fun call member => ?_) unsettled).isRevoked early
    redis
  refine (past call ?_).trans_lt early
  exact List.mem_append_right _ (List.mem_cons_of_mem _ member)

/-! ## A revocation that fails -/

namespace Offline

def mark (key : String) : Call := ⟨.setRevocation, key, 0, ⟨false, none⟩⟩

/-- The marks come in order. -/
theorem monotone (keys : List String) : Monotone (keys.map mark) :=
  List.pairwise_map.mpr (List.pairwise_of_forall fun _ _ => le_rfl)

/-- Few marks are bounded. -/
theorem bounded {history : List Call} (few : history.length ≤ maxUncertainRevocationKeys) :
    Bounded history := by
  intro now
  refine (List.toFinset_card_le _).trans ?_
  rw [List.length_map]
  exact ((List.length_filter_le _ _).trans (failures_sublist {} history).length_le).trans few

/-- Redis is back, but it has not got the revocation. -/
theorem uncertain_until_settled_here :
    ((after [mark "revoked:user:1"]).isRevoked "revoked:user:1" 1000 ⟨true, some 0⟩).1 = none := by
  obtain ⟨guarded, _⟩ := uncertain_until_settled [mark "revoked:user:1"] (monotone [_])
  exact guarded (bounded (by decide)) [] (mark "revoked:user:1") [] rfl rfl (by decide)
    (by simp) 1000 ⟨true, some 0⟩ (by simp [mark]) (by decide)

end Offline

/-! ## An empty key -/

namespace EmptyKey

open Offline

/-- With the empty key at its head the set lets nothing go. -/
theorem entries_mark {service : RedisService} {names : List String} {name : String}
    (found : service.uncertainRevocationKeys.entries =
      ("" :: names).map fun name => (name, uncertainRevocationTtlMs))
    (absent : name ∉ "" :: names) :
    ((mark name).run service).uncertainRevocationKeys.entries =
      service.uncertainRevocationKeys.entries ++ [(name, uncertainRevocationTtlMs)] := by
  have alive : service.pruneUncertainRevocationKeys 0 = service := by
    obtain ⟨⟨entries, nodup⟩⟩ := service
    dsimp only at found
    subst found
    simp [pruneUncertainRevocationKeys, InsertionMap.filter, uncertainRevocationTtlMs]
  have kept : service.evictOldest = service := by
    have first : service.uncertainRevocationKeys.oldest? = some "" := by
      rw [InsertionMap.oldest?, InsertionMap.keys, found]
      rfl
    rw [evictOldest, first]
    exact if_neg (not_not.mpr rfl)
  have new : service.uncertainRevocationKeys.has name = false := by
    rw [InsertionMap.has, InsertionMap.keys, found, List.map_map]
    refine decide_eq_false ?_
    simpa [Function.comp_def] using absent
  have run : (mark name).run service = (service.pruneUncertainRevocationKeys
      0).markRevocationUncertain name 0 := rfl
  rw [run, alive, markRevocationUncertain, alive, kept]
  simp only [ite_self, InsertionMap.set, new, Bool.false_eq_true, if_false]
  rw [Nat.zero_add]

/-- What comes after the empty key stays with it. -/
theorem entries_after {names : List String} (distinct : ("" :: names).Nodup) :
    (after (("" :: names).map mark)).uncertainRevocationKeys.entries =
      ("" :: names).map fun name => (name, uncertainRevocationTtlMs) := by
  induction names using List.reverseRecOn with
  | nil => rfl
  | append_singleton names name inductionHypothesis =>
      rw [← List.cons_append, List.nodup_append'] at distinct
      have found := inductionHypothesis distinct.1
      rw [← List.cons_append, List.map_append, List.map_append, List.map_singleton,
        after_append_singleton, entries_mark found, found]
      · rfl
      · exact fun there => distinct.2.2 there (List.mem_singleton_self name)

def names : List String :=
  (List.range maxUncertainRevocationKeys).map fun n => String.ofList (List.replicate (n + 1) 'k')

/-- The names are distinct. -/
theorem distinct : ("" :: names).Nodup := by
  refine List.nodup_cons.mpr ⟨?_, ?_⟩
  · intro empty
    obtain ⟨n, _, spelled⟩ := List.mem_map.mp empty
    simpa using congrArg String.length spelled
  · refine List.Nodup.map (fun left right same => ?_) List.nodup_range
    simpa using congrArg String.length same

/-- While Redis is away the empty key is marked, and then one key more than there is room for
beside it. -/
theorem uncertain_set_overflows :
    ∃ history, Monotone history ∧ (after history).size = maxUncertainRevocationKeys + 1 := by
  refine ⟨_, monotone ("" :: names), ?_⟩
  rw [RedisService.size, InsertionMap.size, entries_after distinct]
  simp [names]

end EmptyKey

end Armada.Redis
