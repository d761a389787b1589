import Armada.Concurrency.Footprint
import Armada.Concurrency.Turns

/-!
# A service whose requests arrive over time

A pool starts all its processes together. In a service a request arrives when the store
admits it, the rest of the system changes the store between the turns of the requests, and
any request in progress may take the next turn. What a request meets as a process, it meets
in every such run.
-/

namespace Armada.Concurrency

variable {S : Signature} {R α : Type}

/-- What requests may arrive at a store, what each does, and what else may write to it. -/
structure Service (S : Signature) (R α : Type) where
  proc : R → Proc S α
  /-- A request may arrive on a store. -/
  admits : S.State → R → Prop
  /-- What changes the store beside the requests. -/
  changes : S.State → S.State → Prop

namespace Service

/-- A run: the turns taken, the store they have led to, and the requests that have arrived
with what remains to do of each. -/
inductive Runs (service : Service S R α) (start : S.State) :
    List (Turn S) → S.State → List (R × Proc S α) → Prop where
  | start : Runs service start [] start []
  | arrive {trace : List (Turn S)} {state : S.State} {arrived : List (R × Proc S α)} {request : R}
      (prior : Runs service start trace state arrived)
      (admitted : service.admits state request) :
      Runs service start trace state (arrived ++ [(request, service.proc request)])
  | change {trace : List (Turn S)} {state next : S.State} {arrived : List (R × Proc S α)}
      (prior : Runs service start trace state arrived)
      (changed : service.changes state next) :
      Runs service start trace next arrived
  | turn {trace : List (Turn S)} {state : S.State} {arrived : List (R × Proc S α)}
      {thread : Nat} {act : Act S} {inputs : Nat → S.Input} {request : R}
      {process next : Proc S α} {writes : List S.Write}
      (prior : Runs service start trace state arrived)
      (enabled : arrived[thread]? = some (request, process))
      (performed : process.act = some act)
      (advanced : process.advance inputs state = some (writes, next)) :
      Runs service start (trace ++ [⟨thread, act, inputs, state⟩]) (S.applyAll writes state)
        (arrived.set thread (request, next))

variable {service : Service S R α} {start final : S.State} {trace : List (Turn S)}
  {arrived : List (R × Proc S α)}

/-- A turn was one of this request. -/
def MadeBy (arrived : List (R × Proc S α)) (turn : Turn S) (request : R) : Prop :=
  (arrived.map Prod.fst)[turn.thread]? = some request

/-- A turn is made by one request. -/
theorem MadeBy.unique {turn : Turn S} {request other : R} (made : MadeBy arrived turn request)
    (madeToo : MadeBy arrived turn other) : request = other :=
  Option.some.inj (made.symm.trans madeToo)

/-- What a turn leaves is what the run continues from. -/
theorem after_eq {thread : Nat} {act : Act S} {inputs : Nat → S.Input} {state : S.State}
    {process next : Proc S α} {writes : List S.Write} (performed : process.act = some act)
    (advanced : process.advance inputs state = some (writes, next)) :
    (⟨thread, act, inputs, state⟩ : Turn S).after = S.applyAll writes state := by
  rw [Turn.after, Turn.writes, Pool.advance_writes performed advanced]

/-- A turn leaves the requests that have arrived. -/
theorem requests_set {thread : Nat} {request : R} {process : Proc S α}
    (enabled : arrived[thread]? = some (request, process)) (next : Proc S α) :
    (arrived.set thread (request, next)).map Prod.fst = arrived.map Prod.fst := by
  obtain ⟨bounded, here⟩ := List.getElem?_eq_some_iff.mp enabled
  apply List.ext_getElem?
  intro index
  rw [List.map_set, List.getElem?_set]
  split
  · rename_i same
    simp [← same, bounded, here]
  · rfl

namespace Runs

/-- A statement about the turns so far and the store that every change and every turn keeps
holds at the end. -/
theorem along (runs : service.Runs start trace final arrived)
    (holds : List (Turn S) → S.State → Prop) (initially : holds [] start)
    (changes : ∀ past before after, service.changes before after → holds past before →
      holds past after)
    (turns : ∀ past turn rest, trace = past ++ turn :: rest → holds past turn.before →
      holds (past ++ [turn]) turn.after) :
    holds trace final := by
  induction runs with
  | start => exact initially
  | arrive _ _ inductionHypothesis => exact inductionHypothesis turns
  | change _ changed inductionHypothesis =>
      exact changes _ _ _ changed (inductionHypothesis turns)
  | @turn trace state arrived thread act inputs request process next writes _ _ performed advanced
      inductionHypothesis =>
      rw [← after_eq performed advanced]
      refine turns trace _ [] rfl (inductionHypothesis fun past turn rest split => ?_)
      exact turns past turn (rest ++ [⟨thread, act, inputs, state⟩]) (by simp [split])

/-- Where every change and every turn stays within a preorder, so does the run from each of
its stages on. -/
theorem onwards (runs : service.Runs start trace final arrived)
    {within : S.State → S.State → Prop} (refl : ∀ state, within state state)
    (trans : ∀ {first second third}, within first second → within second third →
      within first third)
    (changes : ∀ {before after}, service.changes before after → within before after)
    (turns : ∀ turn ∈ trace, within turn.before turn.after) :
    (∀ turn ∈ trace, within turn.after final) ∧
      ∀ request ∈ arrived.map Prod.fst, ∃ state, service.admits state request ∧ within state final := by
  induction runs with
  | start => simp
  | @arrive trace state arrived request _ admitted inductionHypothesis =>
      obtain ⟨later, admissions⟩ := inductionHypothesis turns
      refine ⟨later, fun other member => ?_⟩
      rw [List.map_append, List.mem_append] at member
      rcases member with earlier | last
      · exact admissions other earlier
      · obtain rfl : other = request := by simpa using last
        exact ⟨state, admitted, refl state⟩
  | change _ changed inductionHypothesis =>
      obtain ⟨later, admissions⟩ := inductionHypothesis turns
      refine ⟨fun turn member => trans (later turn member) (changes changed), fun request member => ?_⟩
      obtain ⟨state, admitted, reached⟩ := admissions request member
      exact ⟨state, admitted, trans reached (changes changed)⟩
  | @turn trace state arrived thread act inputs request process next writes _ enabled performed
      advanced inductionHypothesis =>
      obtain ⟨later, admissions⟩ := inductionHypothesis fun turn member =>
        turns turn (List.mem_append_left _ member)
      have step : within state (S.applyAll writes state) := by
        rw [← after_eq performed advanced]
        exact turns ⟨thread, act, inputs, state⟩ (List.mem_append_right _ List.mem_cons_self)
      constructor
      · intro turn member
        rcases List.mem_append.mp member with earlier | last
        · exact trans (later turn earlier) step
        · obtain rfl := List.mem_singleton.mp last
          rw [after_eq performed advanced]
          exact refl _
      · intro other member
        rw [requests_set enabled] at member
        obtain ⟨origin, admitted, reached⟩ := admissions other member
        exact ⟨origin, admitted, trans reached step⟩

/-- The whole run stays within such a preorder as well. -/
theorem within (runs : service.Runs start trace final arrived) {within : S.State → S.State → Prop}
    (refl : ∀ state, within state state)
    (trans : ∀ {first second third}, within first second → within second third →
      within first third)
    (changes : ∀ {before after}, service.changes before after → within before after)
    (turns : ∀ turn ∈ trace, within turn.before turn.after) : within start final := by
  refine runs.along (fun _ state => within start state) (refl start)
    (fun _ before after changed reached => trans reached (changes changed))
    fun past turn rest split reached => ?_
  apply trans reached (turns turn _)
  rw [split]
  exact List.mem_append_right _ List.mem_cons_self

/-- What ran before a turn is a run too. -/
theorem before (runs : service.Runs start trace final arrived) :
    ∀ first turn rest, trace = first ++ turn :: rest →
      ∃ earlier, service.Runs start first turn.before earlier := by
  induction runs with
  | start => exact fun first turn rest split => by simp at split
  | arrive _ _ inductionHypothesis => exact inductionHypothesis
  | change _ _ inductionHypothesis => exact inductionHypothesis
  | @turn trace state arrived thread act inputs request process next writes prior _ _ _
      inductionHypothesis =>
      intro first turn rest split
      induction rest using List.reverseRecOn with
      | nil =>
          obtain ⟨rfl, same⟩ := List.append_inj' split rfl
          cases same
          exact ⟨arrived, prior⟩
      | append_singleton rest last _ =>
          rw [← List.cons_append, ← List.append_assoc] at split
          exact inductionHypothesis first turn rest (List.append_inj' split rfl).1

/-- Only requests that have arrived take turns. -/
theorem thread_lt (runs : service.Runs start trace final arrived) :
    ∀ turn ∈ trace, turn.thread < arrived.length := by
  induction runs with
  | start => exact List.forall_mem_nil _
  | arrive _ _ inductionHypothesis =>
      intro turn member
      rw [List.length_append]
      exact Nat.lt_add_right _ (inductionHypothesis turn member)
  | change _ _ inductionHypothesis => exact inductionHypothesis
  | turn _ enabled _ _ inductionHypothesis =>
      intro turn member
      rw [List.length_set]
      rcases List.mem_append.mp member with earlier | last
      · exact inductionHypothesis turn earlier
      · obtain rfl := List.mem_singleton.mp last
        exact (List.getElem?_eq_some_iff.mp enabled).1

/-- In every run of requests that meet their contracts each turn is as allowed to its request
after the own turns before it. -/
theorem own (runs : service.Runs start trace final arrived)
    {guar : R → List (Turn S) → Turn S → Prop}
    (meets : ∀ state request thread, service.admits state request →
      (service.proc request).Meets (.turns (fun _ => True) thread (guar request))
        (fun _ _ => True) []) :
    ∀ first turn rest, trace = first ++ turn :: rest →
      ∃ request, MadeBy arrived turn request ∧
        guar request (Pool.own first turn.thread) turn := by
  suffices both : (∀ first turn rest, trace = first ++ turn :: rest →
      ∃ request, MadeBy arrived turn request ∧ guar request (Pool.own first turn.thread) turn) ∧
      ∀ (thread : Nat) request process, arrived[thread]? = some (request, process) →
        process.Meets (.turns (fun _ => True) thread (guar request)) (fun _ _ => True)
          (Pool.own trace thread) from both.1
  induction runs with
  | start =>
      exact ⟨fun first turn rest split => by simp at split, fun thread _ _ found => by simp at found⟩
  | @arrive trace state arrived request prior admitted inductionHypothesis =>
      obtain ⟨allowed, within⟩ := inductionHypothesis
      refine ⟨fun first turn rest split => ?_, fun thread other process found => ?_⟩
      · obtain ⟨maker, made, guaranteed⟩ := allowed first turn rest split
        refine ⟨maker, ?_, guaranteed⟩
        have bounded := (List.getElem?_eq_some_iff.mp made).1
        rw [MadeBy, List.map_append, List.getElem?_append_left bounded]
        exact made
      · rcases Nat.lt_or_ge thread arrived.length with old | new
        · rw [List.getElem?_append_left old] at found
          exact within thread other process found
        · have unused : Pool.own trace thread = [] := by
            rw [Pool.own, List.filter_eq_nil_iff]
            intro turn member
            have bounded := prior.thread_lt turn member
            simp only [decide_eq_true_eq]
            omega
          rw [List.getElem?_append_right new] at found
          obtain ⟨rfl, rfl⟩ : other = request ∧ process = service.proc request := by
            simpa using List.mem_of_getElem? found
          rw [unused]
          exact meets state _ thread admitted
  | change _ _ inductionHypothesis => exact inductionHypothesis
  | @turn trace state arrived thread act inputs request process next writes _ enabled performed
      advanced inductionHypothesis =>
      obtain ⟨allowed, within⟩ := inductionHypothesis
      obtain ⟨permitted, _, continued⟩ :=
        (within thread request process enabled).turn performed advanced trivial
      refine ⟨fun first turn rest split => ?_, fun other entry current found => ?_⟩
      · simp only [MadeBy, requests_set enabled]
        induction rest using List.reverseRecOn with
        | nil =>
            obtain ⟨rfl, same⟩ := List.append_inj' split rfl
            cases same
            exact ⟨request, by simp [enabled], permitted⟩
        | append_singleton rest last _ =>
            rw [← List.cons_append, ← List.append_assoc] at split
            exact allowed first turn rest (List.append_inj' split rfl).1
      · by_cases same : thread = other
        · subst same
          rw [List.getElem?_set_self (List.getElem?_eq_some_iff.mp enabled).1] at found
          cases found
          simpa [Pool.own] using continued
        · rw [List.getElem?_set_ne same] at found
          simpa [Pool.own, same] using within other entry current found

/-- Requests may all arrive before the first turn. -/
theorem arrivals (requests : List R)
    (admitted : ∀ request ∈ requests, service.admits start request) :
    service.Runs start [] start (requests.map fun request => (request, service.proc request)) := by
  induction requests using List.reverseRecOn with
  | nil => exact .start
  | append_singleton requests request inductionHypothesis =>
      rw [List.map_append]
      exact (inductionHypothesis fun other member =>
        admitted other (List.mem_append_left _ member)).arrive
          (admitted request (List.mem_append_right _ (List.mem_singleton_self request)))

/-- Whatever the requests that have arrived do as a pool, they may do in the service. -/
theorem turns (runs : service.Runs start trace final arrived) {more : List (Turn S)}
    {pool : Pool S α} (turns : (⟨final, arrived.map Prod.snd⟩ : Pool S α).Turns more pool) :
    ∃ later, service.Runs start (trace ++ more) pool.state later ∧
      later.map Prod.fst = arrived.map Prod.fst ∧ later.map Prod.snd = pool.procs := by
  induction turns with
  | refl => exact ⟨arrived, by simpa using runs, rfl, rfl⟩
  | @step more pool thread act inputs process next writes _ enabled performed advanced
      inductionHypothesis =>
      obtain ⟨later, prior, requests, procs⟩ := inductionHypothesis
      rw [← procs, List.getElem?_map, Option.map_eq_some_iff] at enabled
      obtain ⟨⟨request, _⟩, found, rfl⟩ := enabled
      refine ⟨later.set thread (request, next), ?_, ?_, ?_⟩
      · rw [← List.append_assoc]
        exact prior.turn found performed advanced
      · rw [requests_set found, requests]
      · rw [List.map_set, procs]

end Runs

end Service

end Armada.Concurrency
