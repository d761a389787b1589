import Mathlib.Order.MinMax
import Armada.Concurrency.Turns

/-!
# Registers that are compared and then written

A register is meant to keep the greatest value it is offered: a process reads it, gives up if
its own value is not greater, and writes it otherwise. The read and the write are separate
steps, so the register goes back exactly if a greater value is written in between.
-/

namespace Armada.Concurrency

variable {S : Signature} {T α : Type} [LinearOrder T]

/-- A register of a store, and the turns that write it. -/
structure Register (S : Signature) (T : Type) where
  value : S.State → Option T
  sets : Turn S → T → Prop

namespace Register

variable (register : Register S T)

/-- The register has not gone back between two states. -/
def Within (before after : S.State) : Prop :=
  ∀ value, register.value before = some value →
    ∃ later, register.value after = some later ∧ value ≤ later

/-- No turn of a run sets the register back. -/
def Monotone (trace : List (Turn S)) : Prop :=
  ∀ turn ∈ trace, register.Within turn.before turn.after

/-- Between two turns of a process of which the second writes, nothing greater is written. -/
def Unovertaken (trace : List (Turn S)) : Prop :=
  ∀ early read between write rest value,
    trace = early ++ read :: (between ++ write :: rest) → read.thread = write.thread →
      register.sets write value → ∀ other ∈ between, ∀ newer, register.sets other newer →
        newer ≤ value

/-- A turn that writes, writes a greater value than a turn of the process has read before,
and a turn that does not write leaves the register as it is. -/
structure Guards (submitted : T → Prop) (history : List (Turn S)) (turn : Turn S) : Prop where
  sets : ∀ value, register.sets turn value →
    register.value turn.after = some value ∧ submitted value ∧
      ∃ read ∈ history, (∀ other, ¬register.sets read other) ∧
        ∀ old, register.value read.before = some old → old < value
  keeps : (∀ value, ¬register.sets turn value) →
    register.value turn.after = register.value turn.before

/-- A process that has offered a value has written it, or found one that is not smaller. -/
def Offered (value : T) (history : List (Turn S)) : Prop :=
  (∃ turn ∈ history, register.sets turn value) ∨
    ∃ turn ∈ history, ∃ found, register.value turn.before = some found ∧ value ≤ found

variable {register}

/-- A state has come from itself. -/
theorem Within.refl (state : S.State) : register.Within state state :=
  fun value found => ⟨value, found, le_refl value⟩

/-- What has come from a state that has come from a third has come from that. -/
theorem Within.trans {first second third : S.State} (before : register.Within first second)
    (after : register.Within second third) : register.Within first third := by
  intro value found
  obtain ⟨middle, there, below⟩ := before value found
  obtain ⟨last, here, above⟩ := after middle there
  exact ⟨last, here, le_trans below above⟩

/-- In a monotone part of a run the register does not go back from any of its states. -/
theorem Monotone.onwards {start final : S.State} {trace : List (Turn S)}
    (monotone : register.Monotone trace) (linked : Linked start (trace.map Turn.commit) final) :
    register.Within start final ∧ ∀ turn ∈ trace, register.Within turn.before final := by
  have stays : ∀ commit ∈ trace.map Turn.commit, register.Within commit.before commit.after := by
    intro commit member
    obtain ⟨turn, inTrace, rfl⟩ := List.mem_map.mp member
    exact monotone turn inTrace
  obtain ⟨whole, each⟩ := linked.onwards Within.refl Within.trans stays
  exact ⟨whole, fun turn member => each turn.commit (List.mem_map_of_mem member)⟩

variable {submitted : Nat → T → Prop} {trace : List (Turn S)}

/-- The value at the end of a part of a run is the one at its start, or was written in it. -/
theorem value_of_linked {start final : S.State}
    (linked : Linked start (trace.map Turn.commit) final)
    (guarded : ∀ turn ∈ trace, ∃ history, register.Guards (submitted turn.thread) history turn) :
    register.value final = register.value start ∨
      ∃ turn ∈ trace, ∃ value, register.sets turn value ∧ register.value final = some value := by
  induction trace using List.reverseRecOn generalizing final with
  | nil => exact .inl (congrArg register.value linked)
  | append_singleton prior last inductionHypothesis =>
      rw [List.map_append] at linked
      obtain ⟨middle, earlier, same, ended⟩ := linked.split
      obtain rfl : last.before = middle := same
      obtain rfl : final = last.after := ended
      obtain ⟨history, guards⟩ :=
        guarded last (List.mem_append_right _ (List.mem_singleton.mpr rfl))
      by_cases writes : ∃ value, register.sets last value
      · obtain ⟨value, set⟩ := writes
        exact .inr ⟨last, List.mem_append_right _ (List.mem_singleton.mpr rfl), value, set,
          (guards.sets value set).1⟩
      · rw [guards.keeps fun value set => writes ⟨value, set⟩]
        refine (inductionHypothesis earlier fun turn member =>
          guarded turn (List.mem_append_left _ member)).imp_right ?_
        rintro ⟨turn, member, rest⟩
        exact ⟨turn, List.mem_append_left _ member, rest⟩

variable {start final : Pool S α}

/-- If the register never falls, no write is overtaken by a greater one. -/
theorem Monotone.unovertaken (turns : start.Turns trace final)
    (guarded : ∀ first turn rest, trace = first ++ turn :: rest →
      register.Guards (submitted turn.thread) (Pool.own first turn.thread) turn)
    (monotone : register.Monotone trace) : register.Unovertaken trace := by
  rintro early read between write rest value split _ set other member newer setOther
  obtain ⟨prior, later, rfl⟩ := List.append_of_mem member
  have atOther : trace = (early ++ read :: prior) ++ other :: (later ++ write :: rest) := by
    simp [split]
  have atWrite : trace = (early ++ read :: (prior ++ other :: later)) ++ write :: rest := by
    simp [split]
  have written := ((guarded _ other _ atOther).sets newer setOther).1
  have wrote := ((guarded _ write _ atWrite).sets value set).1
  -- from the greater value on nothing goes back, the write included
  have onwards : register.Within other.after write.after := by
    obtain ⟨_, linked⟩ := turns.split atOther
    rw [List.map_append, List.map_cons] at linked
    obtain ⟨middle, before, rfl, _⟩ := linked.split
    have along : register.Monotone later := fun turn inLater =>
      monotone turn (atOther ▸ by simp [inLater])
    exact (along.onwards before).1.trans (monotone write (atWrite ▸ by simp))
  obtain ⟨last, here, above⟩ := onwards newer written
  obtain rfl : value = last := Option.some.inj (wrote.symm.trans here)
  exact above

/-- The register never goes back exactly if no write is overtaken by a greater one. -/
theorem monotone_iff_unovertaken (turns : start.Turns trace final)
    (guarded : ∀ first turn rest, trace = first ++ turn :: rest →
      register.Guards (submitted turn.thread) (Pool.own first turn.thread) turn) :
    register.Monotone trace ↔ register.Unovertaken trace := by
  refine ⟨Monotone.unovertaken turns guarded, fun unovertaken turn member => ?_⟩
  obtain ⟨first, rest, split⟩ := List.append_of_mem member
  have guards := guarded first turn rest split
  by_cases writes : ∃ value, register.sets turn value
  · obtain ⟨value, set⟩ := writes
    obtain ⟨wrote, _, read, owned, idle, greater⟩ := guards.sets value set
    obtain ⟨inFirst, same⟩ := Pool.mem_own.mp owned
    obtain ⟨early, between, rfl⟩ := List.append_of_mem inFirst
    have atRead : trace = early ++ read :: (between ++ turn :: rest) := by simp [split]
    -- what the register holds was read, or written since
    obtain ⟨_, linked⟩ := turns.split atRead
    rw [List.map_append, List.map_cons] at linked
    obtain ⟨middle, since, rfl, _⟩ := linked.split
    have each : ∀ other ∈ between, ∃ history,
        register.Guards (submitted other.thread) history other := by
      intro other inBetween
      obtain ⟨prior, later, rfl⟩ := List.append_of_mem inBetween
      exact ⟨_, guarded (early ++ read :: prior) other (later ++ turn :: rest) (by simp [split])⟩
    have kept := (guarded early read _ atRead).keeps idle
    intro old found
    refine ⟨value, wrote, ?_⟩
    rcases value_of_linked since each with unchanged | ⟨other, inBetween, newer, setOther, now⟩
    · exact le_of_lt (greater old (by rw [← kept, ← unchanged, ← found]; rfl))
    · obtain rfl : old = newer := Option.some.inj (found.symm.trans now)
      exact unovertaken early read between turn rest value atRead same set other inBetween old
        setOther
  · intro old found
    exact ⟨old, (guards.keeps fun value set => writes ⟨value, set⟩).trans found, le_refl old⟩

/-- What was offered in a monotone run does not exceed what the register holds at its end. -/
theorem Monotone.holds_offered (turns : start.Turns trace final)
    (guarded : ∀ first turn rest, trace = first ++ turn :: rest →
      register.Guards (submitted turn.thread) (Pool.own first turn.thread) turn)
    (monotone : register.Monotone trace) {thread : Nat} {value : T}
    (offered : register.Offered value (Pool.own trace thread)) :
    ∃ last, register.value final.state = some last ∧ value ≤ last := by
  rcases offered with ⟨turn, owned, set⟩ | ⟨turn, owned, found, read, below⟩
  · obtain ⟨first, rest, split⟩ := List.append_of_mem (Pool.mem_own.mp owned).1
    obtain ⟨_, linked⟩ := turns.split split
    have later : register.Monotone rest := fun other member =>
      monotone other (split ▸ by simp [member])
    exact (later.onwards linked).1 value ((guarded first turn rest split).sets value set).1
  · obtain ⟨last, here, above⟩ := (monotone.onwards turns.steps.linked).2 turn
      (Pool.mem_own.mp owned).1 found read
    exact ⟨last, here, le_trans below above⟩

/-- The register holds at the end what it held at the start, or what some thread submitted. -/
theorem value_submitted (turns : start.Turns trace final)
    (guarded : ∀ first turn rest, trace = first ++ turn :: rest →
      register.Guards (submitted turn.thread) (Pool.own first turn.thread) turn) :
    register.value final.state = register.value start.state ∨
      ∃ turn ∈ trace, ∃ value, submitted turn.thread value ∧
        register.value final.state = some value := by
  have each : ∀ turn ∈ trace, ∃ history, register.Guards (submitted turn.thread) history turn := by
    intro turn member
    obtain ⟨first, rest, split⟩ := List.append_of_mem member
    exact ⟨_, guarded first turn rest split⟩
  refine (value_of_linked turns.steps.linked each).imp_right ?_
  · rintro ⟨turn, member, value, set, now⟩
    obtain ⟨first, rest, split⟩ := List.append_of_mem member
    exact ⟨turn, member, value, ((guarded first turn rest split).sets value set).2.1, now⟩

/-- A monotone run leaves the greatest of all values that the register starts with or that a
process has offered. -/
theorem Monotone.value_eq_max? (turns : start.Turns trace final)
    (guarded : ∀ first turn rest, trace = first ++ turn :: rest →
      register.Guards (submitted turn.thread) (Pool.own first turn.thread) turn)
    (monotone : register.Monotone trace) {offers : List T}
    (all : ∀ value ∈ offers, register.value start.state = some value ∨
      ∃ thread, register.Offered value (Pool.own trace thread))
    (initial : ∀ value, register.value start.state = some value → value ∈ offers)
    (later : ∀ thread value, submitted thread value → value ∈ offers) :
    register.value final.state = offers.max? := by
  have bounded : ∀ value ∈ offers,
      ∃ last, register.value final.state = some last ∧ value ≤ last := by
    intro value offer
    rcases all value offer with held | ⟨thread, offered⟩
    · exact (monotone.onwards turns.steps.linked).1 value held
    · exact monotone.holds_offered turns guarded offered
  cases now : register.value final.state with
  | none =>
      refine (List.max?_eq_none_iff.mpr (List.eq_nil_iff_forall_not_mem.mpr ?_)).symm
      intro value offer
      obtain ⟨last, held, _⟩ := bounded value offer
      cases now.symm.trans held
  | some last =>
      refine (List.max?_eq_some_iff.mpr ⟨?_, fun value offer => ?_⟩).symm
      · rcases value_submitted turns guarded with unchanged | ⟨turn, _, value, own, held⟩
        · exact initial last (unchanged.symm.trans now)
        · obtain rfl : value = last := Option.some.inj (held.symm.trans now)
          exact later turn.thread value own
      · obtain ⟨other, held, below⟩ := bounded value offer
        obtain rfl : other = last := Option.some.inj (held.symm.trans now)
        exact below

end Register

end Armada.Concurrency
