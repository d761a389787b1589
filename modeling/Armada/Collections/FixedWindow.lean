import Mathlib.Algebra.BigOperators.Group.Finset.Basic
import Mathlib.Data.List.Induction
import Armada.Collections.ExpiringCounters

/-!
# Fixed windows

A counter that closes its window by expiring: the first event of a window sets the time at
which it closes, the others are counted. Over a time in which no window that opens also
closes, the count of an event is its place among the events of its key since a counter that
was there before has expired, and of each key the first few are let through.
-/

namespace Armada.Collections

/-- Something is counted under a key. If it opens a window, that closes at `closes`. -/
structure Event (K : Type) where
  key : K
  now : Nat
  closes : Nat

/-- A counter with some events more. -/
def Counter.add (counter : Counter) (more : Nat) : Counter :=
  { counter with value := counter.value + more, positive := Nat.add_pos_left counter.positive more }

namespace Counters

variable {K : Type} [DecidableEq K]

/-- A counter's hit as the limiter makes it: the first of a window sets its end. -/
def hit (counters : Counters K) (event : Event K) : Counters K :=
  Function.update counters event.key <| some <|
    match counters.live event.now event.key with
    | some counter => counter.increment
    | none => { Counter.first with expiresAt := some event.closes }

/-- What an event is counted as. -/
def count (counters : Counters K) (now : Nat) (key : K) : Nat :=
  ((counters.live now key).map Counter.value).getD 0 + 1

/-- The counters after a list of events, in their order. -/
def after (counters : Counters K) (events : List (Event K)) : Counters K :=
  events.foldl hit counters

/-- The times of the events of a key. -/
def times (key : K) (events : List (Event K)) : List Nat :=
  (events.filter fun event => event.key = key).map Event.now

/-! ## The count of an event -/

/-- The counter that was there at the start still counts. -/
def isOpen (start : Option Counter) (now : Nat) : Bool :=
  start.any fun counter => counter.alive now

/-- The place of an event in its window, after earlier ones of its key. -/
def rank (start : Option Counter) (earlier : List Nat) (now : Nat) : Nat :=
  let later := (earlier ++ [now]).dropWhile (isOpen start)
  if later = [] then (start.map Counter.value).getD 0 + earlier.length + 1 else later.length

variable {counters : Counters K} {event : Event K} {events : List (Event K)} {key : K}
  {now bound : Nat}

/-- A hit is on one key. -/
theorem hit_of_ne (event : Event K) (different : key ≠ event.key) :
    counters.hit event key = counters key :=
  Function.update_of_ne different _ _

/-- A hit on its own key: a live counter counts on, else a window opens. -/
theorem hit_self (counters : Counters K) (event : Event K) : counters.hit event event.key = some
    (match counters.live event.now event.key with
      | some counter => counter.increment
      | none => { Counter.first with expiresAt := some event.closes }) :=
  Function.update_self event.key _ _

/-- It depends on its own key alone. -/
theorem hit_congr {left right : Counters K} (same : left key = right key) (event : Event K) :
    left.hit event key = right.hit event key := by
  by_cases here : key = event.key
  · subst here
    rw [hit_self, hit_self, live, live, same]
  · rw [hit_of_ne event here, hit_of_ne event here, same]

omit [DecidableEq K] in
/-- So does a count. -/
theorem count_congr {left right : Counters K} (same : left key = right key) (now : Nat) :
    left.count now key = right.count now key := by
  rw [count, count, live, live, same]

/-- The last event comes last. -/
theorem after_concat (counters : Counters K) (events : List (Event K)) (event : Event K) :
    counters.after (events ++ [event]) = (counters.after events).hit event :=
  List.foldl_append

/-- Every event comes before the end of any window that opens. -/
def Within (bound : Nat) (events : List (Event K)) : Prop :=
  ∀ event ∈ events, event.now < bound ∧ bound ≤ event.closes

/-- The counter of a key in the course of events: that of the start, or one whose window
remains open. -/
def Counted (bound : Nat) (start : Option Counter) (hits : List Nat) (current : Option Counter) :
    Prop :=
  (hits.dropWhile (isOpen start) = [] ∧ current = start.map (Counter.add · hits.length)) ∨
    (hits.dropWhile (isOpen start) ≠ [] ∧ ∃ counter closes, current = some counter ∧
      counter.value = (hits.dropWhile (isOpen start)).length ∧
      counter.expiresAt = some closes ∧ bound ≤ closes)

/-- The times of a key are those of each part. -/
theorem times_append (key : K) (first second : List (Event K)) :
    times key (first ++ second) = times key first ++ times key second := by
  simp [times]

section Counted

variable {start : Option Counter} {hits : List Nat}

/-- One hit more extends the open window, or opens a new one. -/
theorem dropWhile_hits (now : Nat) : (hits ++ [now]).dropWhile (isOpen start) =
    if hits.dropWhile (isOpen start) = [] then if isOpen start now then [] else [now]
    else hits.dropWhile (isOpen start) ++ [now] := by
  rw [List.dropWhile_append]
  cases hits.dropWhile (isOpen start) with
  | nil => simp [List.dropWhile_cons]
  | cons first rest => simp

/-- The three places of an event: in the window of the start, as the first of a window, or
later in that. -/
theorem rank_eq (now : Nat) : rank start hits now =
    if hits.dropWhile (isOpen start) = [] then
      if isOpen start now then (start.map Counter.value).getD 0 + hits.length + 1 else 1
    else (hits.dropWhile (isOpen start)).length + 1 := by
  rw [rank, dropWhile_hits]
  by_cases all : hits.dropWhile (isOpen start) = []
  · rw [if_pos all, if_pos all]
    by_cases opened : isOpen start now = true
    · simp [opened]
    · simp [opened]
  · rw [if_neg all, if_neg all]
    simp

omit [DecidableEq K] in
/-- What is found of a counter. -/
theorem Counted.live (counted : Counted bound start hits (counters key)) (early : now < bound) :
    counters.live now key =
      if hits.dropWhile (isOpen start) = [] then
        if isOpen start now then start.map (Counter.add · hits.length) else none
      else counters key := by
  rw [Counters.live]
  rcases counted with ⟨all, same⟩ | ⟨later, counter, closes, same, _, expires, late⟩
  · rw [if_pos all, same]
    cases start with
    | none => rfl
    | some counter =>
        rw [Option.map_some, Option.filter_some]
        rfl
  · rw [if_neg later, same]
    have alive : counter.alive now = true := by
      simp [Counter.alive, expires, Nat.lt_of_lt_of_le early late]
    simp [alive]

omit [DecidableEq K] in
/-- The count of an event is its place. -/
theorem Counted.count (counted : Counted bound start hits (counters key)) (early : now < bound) :
    counters.count now key = rank start hits now := by
  rw [Counters.count, counted.live early, rank_eq]
  rcases counted with ⟨all, same⟩ | ⟨later, counter, closes, same, value, _, _⟩
  · rw [if_pos all, if_pos all]
    cases start with
    | none => rfl
    | some counter =>
        by_cases opened : isOpen (some counter) now = true <;> simp [opened, Counter.add]
  · rw [if_neg later, if_neg later, same]
    simp [value]

/-- An event more. -/
theorem Counted.hit (counted : Counted bound start hits (counters event.key))
    (early : event.now < bound) (late : bound ≤ event.closes) :
    Counted bound start (hits ++ [event.now]) (counters.hit event event.key) := by
  rw [Counted, dropWhile_hits, hit_self, counted.live early]
  by_cases all : hits.dropWhile (isOpen start) = []
  · rw [if_pos all, if_pos all]
    by_cases opened : isOpen start event.now = true
    · rw [if_pos opened, if_pos opened]
      cases start with
      | none => cases opened
      | some counter =>
          refine .inl ⟨rfl, ?_⟩
          simp [Counter.add, Counter.increment, Nat.add_assoc]
    · rw [if_neg opened, if_neg opened]
      exact .inr ⟨by simp, _, event.closes, rfl, rfl, rfl, late⟩
  · rw [if_neg all, if_neg all]
    rcases counted with ⟨none, _⟩ | ⟨_, counter, closes, same, value, expires, open_⟩
    · exact absurd none all
    · rw [same]
      exact .inr ⟨by simp, counter.increment, closes, rfl, by simp [value], expires, open_⟩

/-- Nothing is counted at the start. -/
theorem counted_start (bound : Nat) (start : Option Counter) : Counted bound start [] start := by
  refine .inl ⟨rfl, ?_⟩
  cases start <;> rfl

end Counted

/-- After any events each counter is as its own have made it. -/
theorem counted_after (within : Within bound events) (key : K) :
    Counted bound (counters key) (times key events) (counters.after events key) := by
  induction events using List.reverseRecOn with
  | nil => exact counted_start bound _
  | append_singleton events event inductionHypothesis =>
      obtain ⟨earlier, last⟩ := List.forall_mem_append.mp within
      obtain ⟨early, late⟩ := List.forall_mem_singleton.mp last
      have counted := inductionHypothesis earlier
      rw [after_concat, times_append]
      by_cases same : event.key = key
      · subst same
        have own : times event.key [event] = [event.now] := by simp [times]
        rw [own]
        exact counted.hit early late
      · have own : times key [event] = [] := by simp [times, same]
        rw [own, List.append_nil, hit_of_ne event (Ne.symm same)]
        exact counted

/-- The count of an event, as its place among those of its key. -/
theorem count_after (within : Within bound events) (early : now < bound) (key : K) :
    (counters.after events).count now key = rank (counters key) (times key events) now :=
  (counted_after within key).count early

/-! ## The events that are let through -/

section LetThrough

variable {ι : Type} (limit : Nat) (start : Counters K) (toEvent : ι → Event K)

/-- The items whose place, after earlier events, is within a limit. -/
def letThrough (earlier : List (Event K)) : List ι → List ι
  | [] => []
  | item :: items =>
      let event := toEvent item
      let rest := letThrough (earlier ++ [event]) items
      if rank (start event.key) (times event.key earlier) event.now ≤ limit then item :: rest
      else rest

/-- Of items with one key, those that a counter lets through which was there before, and the
first of the window that is opened after that. -/
def firstOf (counter : Option Counter) (items : List ι) : List ι :=
  (items.takeWhile fun item => isOpen counter (toEvent item).now).take
      (limit - (counter.map Counter.value).getD 0) ++
    (items.dropWhile fun item => isOpen counter (toEvent item).now).take limit

/-- The same after earlier events. -/
def nextOf (counter : Option Counter) (earlier : List Nat) (items : List ι) : List ι :=
  if earlier.dropWhile (isOpen counter) = [] then
    (items.takeWhile fun item => isOpen counter (toEvent item).now).take
        (limit - ((counter.map Counter.value).getD 0 + earlier.length)) ++
      (items.dropWhile fun item => isOpen counter (toEvent item).now).take limit
  else items.take (limit - (earlier.dropWhile (isOpen counter)).length)

omit [DecidableEq K] in
/-- With no hit yet, the first of a window are let through. -/
theorem nextOf_nil (counter : Option Counter) (items : List ι) :
    nextOf limit toEvent counter [] items = firstOf limit toEvent counter items := by
  simp [nextOf, firstOf]

variable {limit start toEvent}

omit [DecidableEq K] in
/-- Up to the limit, one place less is one item less. -/
theorem take_cons_sub (limit place : Nat) (item : ι) (items : List ι) :
    (item :: items).take (limit - place) =
      if place + 1 ≤ limit then item :: items.take (limit - (place + 1))
      else items.take (limit - (place + 1)) := by
  by_cases room : place + 1 ≤ limit
  · obtain ⟨more, rfl⟩ := Nat.exists_eq_add_of_le room
    have left : place + 1 + more - place = more + 1 := by omega
    have rest : place + 1 + more - (place + 1) = more := by omega
    rw [if_pos room, left, rest, List.take_succ_cons]
  · have full : limit - place = 0 := by omega
    have fuller : limit - (place + 1) = 0 := by omega
    rw [if_neg room, full, fuller, List.take_zero, List.take_zero]

omit [DecidableEq K] in
/-- The next item is let through exactly if its rank is within the limit. -/
theorem nextOf_cons (counter : Option Counter) (earlier : List Nat) (item : ι) (items : List ι) :
    nextOf limit toEvent counter earlier (item :: items) =
      if rank counter earlier (toEvent item).now ≤ limit then
        item :: nextOf limit toEvent counter (earlier ++ [(toEvent item).now]) items
      else nextOf limit toEvent counter (earlier ++ [(toEvent item).now]) items := by
  rw [nextOf, nextOf, rank_eq, dropWhile_hits]
  by_cases all : earlier.dropWhile (isOpen counter) = []
  · by_cases opened : isOpen counter (toEvent item).now = true
    · simp only [all, opened, if_true, List.takeWhile_cons, List.dropWhile_cons, take_cons_sub,
        List.length_append, List.length_singleton, Nat.add_assoc]
      split <;> rfl
    · have first := take_cons_sub limit 0 item items
      simp only [Nat.sub_zero, Nat.zero_add] at first
      simp [all, opened, first]
  · simp [all, take_cons_sub]

/-- Of each key the first few are let through. -/
theorem filter_letThrough (earlier : List (Event K)) (items : List ι) (key : K) :
    (letThrough limit start toEvent earlier items).filter (fun item => (toEvent item).key = key) =
      nextOf limit toEvent (start key) (times key earlier)
        (items.filter fun item => (toEvent item).key = key) := by
  induction items generalizing earlier with
  | nil => simp [letThrough, nextOf]
  | cons item items inductionHypothesis =>
      have rest := inductionHypothesis (earlier ++ [toEvent item])
      rw [letThrough]
      by_cases same : (toEvent item).key = key
      · subst same
        have own : times (toEvent item).key [toEvent item] = [(toEvent item).now] := by simp [times]
        rw [times_append, own] at rest
        rw [List.filter_cons_of_pos (by simp), nextOf_cons, ← rest]
        split
        · exact List.filter_cons_of_pos (by simp)
        · rfl
      · have own : times key [toEvent item] = [] := by simp [times, same]
        rw [times_append, own, List.append_nil] at rest
        rw [List.filter_cons_of_neg (by simpa using same), ← rest]
        split
        · exact List.filter_cons_of_neg (by simpa using same)
        · rfl

/-- The same at the start. -/
theorem filter_letThrough_nil (items : List ι) (key : K) :
    (letThrough limit start toEvent [] items).filter (fun item => (toEvent item).key = key) =
      firstOf limit toEvent (start key) (items.filter fun item => (toEvent item).key = key) := by
  rw [filter_letThrough]
  exact nextOf_nil limit toEvent _ _

end LetThrough

end Counters

/-- Items fall apart by their keys. -/
theorem length_eq_sum_filter {ι K : Type} [DecidableEq K] {keys : Finset K} (key : ι → K)
    {items : List ι} (covered : ∀ item ∈ items, key item ∈ keys) :
    items.length = ∑ label ∈ keys, (items.filter fun item => key item = label).length := by
  have members : ∀ label ∈ (items.map key : Multiset K), label ∈ keys := by
    intro label member
    obtain ⟨item, listed, rfl⟩ := List.mem_map.mp (Multiset.mem_coe.mp member)
    exact covered item listed
  have total := Multiset.sum_count_eq_card members
  rw [Multiset.coe_card, List.length_map] at total
  rw [← total]
  refine Finset.sum_congr rfl fun label _ => ?_
  rw [Multiset.coe_count, List.count_eq_countP, List.countP_map, List.countP_eq_length_filter]
  rfl

end Armada.Collections
