import Armada.Common.LogSanitizer

/-!
# Redaction of log data

A position is exposed if no sensitive key leads to it. Sanitized data has the same heads as the
data at the exposed positions, and below a sensitive key nothing but the mark of a redaction. So
it is determined by what the data shows at exposed positions.
-/

namespace Armada.Common

open Collections

section

variable [LetterCase] {Number : Type}

/-! ## Exposed positions -/

/-- A step to the value of a sensitive key. -/
def SensitiveStep : DataTree.Step String → Prop
  | .key name => isSensitive name = true
  | .index _ => False

/-- No sensitive key is on the path. -/
def Exposed (path : List (DataTree.Step String)) : Prop := ∀ step ∈ path, ¬SensitiveStep step

/-- Two pieces of data differ only below sensitive keys. -/
def SameExposed (left right : LogData Number) : Prop :=
  ∀ path, Exposed path →
    (left.get? path).map DataTree.head = (right.get? path).map DataTree.head

/-- The result is the data with exactly the values under sensitive keys replaced. -/
structure Redacts (data result : LogData Number) : Prop where
  /-- Every exposed position holds the same primitive value, an array of the same length or an
  object with the same keys. -/
  exposed : SameExposed result data
  /-- Under a sensitive key, at any depth, there is nothing else than the mark. -/
  hidden : ∀ path key value, isSensitive key = true →
    result.get? (path ++ [.key key]) = some value → value = redacted

variable {data left right : LogData Number} {path : List (DataTree.Step String)}
  {step : DataTree.Step String}

/-- A path is exposed when no step of it is sensitive. -/
theorem exposed_cons : Exposed (step :: path) ↔ ¬SensitiveStep step ∧ Exposed path :=
  List.forall_mem_cons

/-- Sanitizing keeps the shape at the top. -/
theorem head_sanitizeLogData (plain : Plain data) :
    (sanitizeLogData data).head = data.head := by
  cases data with
  | leaf value => rw [sanitizeLogData_leaf]
  | array items => simp [DataTree.head]
  | object entries => simp [sanitizeLogData_object plain, DataTree.head]

/-- A step by a key that is not sensitive leads to the sanitized value. -/
theorem child_sanitizeLogData (plain : Plain data) (exposed : ¬SensitiveStep step) :
    (sanitizeLogData data).child step = (data.child step).map sanitizeLogData := by
  cases data with
  | leaf value => simp [DataTree.child]
  | array items =>
      rw [sanitizeLogData_array]
      cases step with
      | key name => rfl
      | index place => exact List.getElem?_map
  | object entries =>
      rw [sanitizeLogData_object plain]
      cases step with
      | key name =>
          rw [DataTree.child, DataTree.lookup_map, DataTree.child]
          refine Option.map_congr fun value _ => ?_
          exact if_neg exposed
      | index place => rfl

/-- A step by a sensitive key leads to the mark of a redaction. -/
theorem child_sensitive (plain : Plain data) {key : String} (sensitive : isSensitive key = true)
    {value : LogData Number} (found : (sanitizeLogData data).child (.key key) = some value) :
    value = redacted := by
  cases data with
  | leaf value => simp [DataTree.child] at found
  | array items => simp [DataTree.child] at found
  | object entries =>
      rw [sanitizeLogData_object plain, DataTree.child, DataTree.lookup_map] at found
      obtain ⟨original, _, rfl⟩ := Option.map_eq_some_iff.mp found
      exact if_pos sensitive

/-- What stands at an exposed path is what stood there, sanitized. -/
theorem get?_sanitizeLogData (plain : Plain data) (exposed : Exposed path) :
    (sanitizeLogData data).get? path = (data.get? path).map sanitizeLogData := by
  induction path generalizing data with
  | nil => rfl
  | cons step path inductionHypothesis =>
      obtain ⟨first, rest⟩ := exposed_cons.mp exposed
      rw [DataTree.get?_cons, DataTree.get?_cons, child_sanitizeLogData plain first]
      cases found : data.child step with
      | none => rfl
      | some below => exact inductionHypothesis (plain.child step found) rest

omit [LetterCase] in
/-- Below the mark of a redaction there is nothing. -/
theorem get?_redacted {below : LogData Number}
    (found : (redacted : LogData Number).get? path = some below) : path = [] := by
  cases path with
  | nil => rfl
  | cons step path => cases found

/-- Data and its sanitized form agree on the exposed paths. -/
theorem sanitizeLogData_sameExposed (plain : Plain data) :
    SameExposed (sanitizeLogData data) data := by
  intro path exposed
  rw [get?_sanitizeLogData plain exposed, Option.map_map]
  cases found : data.get? path with
  | none => rfl
  | some below => exact congrArg some (head_sanitizeLogData (plain.get? found))

/-- Wherever a sensitive key stands in the sanitized data, its value is the mark. -/
theorem sanitizeLogData_hidden (plain : Plain data) {key : String}
    (sensitive : isSensitive key = true) {value : LogData Number}
    (found : (sanitizeLogData data).get? (path ++ [.key key]) = some value) : value = redacted := by
  induction path generalizing data with
  | nil =>
      obtain ⟨below, stepped, reached⟩ := Option.bind_eq_some_iff.mp found
      obtain rfl := Option.some.inj reached
      exact child_sensitive plain sensitive stepped
  | cons step path inductionHypothesis =>
      obtain ⟨below, stepped, reached⟩ := Option.bind_eq_some_iff.mp found
      by_cases hides : SensitiveStep step
      · -- no path goes on below a sensitive key
        cases step with
        | key name =>
            obtain rfl := child_sensitive plain hides stepped
            exact absurd (get?_redacted reached) (by simp)
        | index place => exact hides.elim
      · rw [child_sanitizeLogData plain hides] at stepped
        obtain ⟨original, before, rfl⟩ := Option.map_eq_some_iff.mp stepped
        exact inductionHypothesis (plain.child step before) reached

/-- The sanitized data redacts the data. -/
theorem sanitizeLogData_redacts (plain : Plain data) : Redacts data (sanitizeLogData data) where
  exposed := sanitizeLogData_sameExposed plain
  hidden _ _ _ sensitive := sanitizeLogData_hidden plain sensitive

/-! ## Two pieces of data -/

/-- Data that agrees on exposed paths has the same shape at the top. -/
theorem SameExposed.head (same : SameExposed left right) : left.head = right.head :=
  Option.some.inj (same [] nofun)

/-- It agrees below an exposed step. -/
theorem SameExposed.child (same : SameExposed left right) (step : DataTree.Step String)
    (exposed : ¬SensitiveStep step) {first second : LogData Number}
    (leftChild : left.child step = some first) (rightChild : right.child step = some second) :
    SameExposed first second := by
  intro path rest
  have agree := same (step :: path) (exposed_cons.mpr ⟨exposed, rest⟩)
  rwa [DataTree.get?_cons, DataTree.get?_cons, leftChild, rightChild] at agree

/-- Values that agree where the key is not sensitive are logged alike. -/
theorem sanitizeValue_eq {key : String} {value other : LogData Number}
    (same : ¬SensitiveStep (.key key) → sanitizeLogData value = sanitizeLogData other) :
    sanitizeValue key value = sanitizeValue key other := by
  rw [sanitizeValue, sanitizeValue]
  split
  · rfl
  · rename_i exposed
    exact same exposed

/-- What is below sensitive keys leaves no trace. -/
theorem sanitizeLogData_eq (leftPlain : Plain left) (rightPlain : Plain right)
    (same : SameExposed left right) : sanitizeLogData left = sanitizeLogData right := by
  induction left using DataTree.recOnMembers generalizing right with
  | leaf value =>
      cases right with
      | leaf other => rw [DataTree.Head.leaf.inj same.head]
      | array others => cases same.head
      | object others => cases same.head
  | array items inductionHypothesis =>
      cases right with
      | leaf other => cases same.head
      | array others =>
          have length : items.length = others.length := DataTree.Head.array.inj same.head
          rw [sanitizeLogData_array, sanitizeLogData_array]
          refine congrArg DataTree.array (List.ext_getElem (by simp [length]) ?_)
          intro place below above
          rw [List.length_map] at below above
          rw [List.getElem_map, List.getElem_map]
          have leftChild := List.getElem?_eq_getElem below
          have rightChild := List.getElem?_eq_getElem above
          exact inductionHypothesis _ (List.getElem_mem below)
            (leftPlain.child (.index place) leftChild) (rightPlain.child (.index place) rightChild)
            (same.child (.index place) id leftChild rightChild)
      | object others => cases same.head
  | object entries inductionHypothesis =>
      cases right with
      | leaf other => cases same.head
      | array others => cases same.head
      | object others =>
          have keys : entries.map Prod.fst = others.map Prod.fst :=
            DataTree.Head.object.inj same.head
          have length : entries.length = others.length := by
            simpa using congrArg List.length keys
          rw [sanitizeLogData_object leftPlain, sanitizeLogData_object rightPlain]
          refine congrArg DataTree.object (List.ext_getElem (by simp [length]) ?_)
          intro place below above
          rw [List.length_map] at below above
          have sameKey : entries[place].1 = others[place].1 := by
            have agree := congrArg (fun keys => keys[place]?) keys
            simpa [below, above] using agree
          rw [List.getElem_map, List.getElem_map, ← sameKey]
          refine congrArg _ (sanitizeValue_eq fun exposed => ?_)
          have leftMember := List.getElem_mem below
          have leftChild : (DataTree.object entries).child (.key entries[place].1) =
              some entries[place].2 :=
            DataTree.lookup_of_mem (DataTree.keyed_object.mp leftPlain).1.1 leftMember
          have rightChild : (DataTree.object others).child (.key entries[place].1) =
              some others[place].2 := by
            rw [sameKey]
            exact DataTree.lookup_of_mem (DataTree.keyed_object.mp rightPlain).1.1
              (List.getElem_mem above)
          exact inductionHypothesis _ leftMember (leftPlain.child _ leftChild)
            (rightPlain.child _ rightChild) (same.child _ exposed leftChild rightChild)

/-- Redaction is complete and minimal, its result depends on nothing below sensitive keys, and
a second redaction changes nothing. -/
theorem log_redaction :
    (∀ data : LogData Number, Plain data → Redacts data (sanitizeLogData data)) ∧
      (∀ left right : LogData Number, Plain left → Plain right → SameExposed left right →
        sanitizeLogData left = sanitizeLogData right) ∧
      ∀ data : LogData Number, Plain data →
        sanitizeLogData (sanitizeLogData data) = sanitizeLogData data := by
  refine ⟨fun data => sanitizeLogData_redacts, fun left right => sanitizeLogData_eq,
    fun data plain => ?_⟩
  exact sanitizeLogData_eq plain.sanitizeLogData plain (sanitizeLogData_sameExposed plain)

end

section Request

local instance : LetterCase := asciiLetters

/-- A request with a password and a list of tokens. -/
def request : LogData Nat :=
  .object [("user", .object [("id", .leaf (.number 7)), ("Password", .leaf (.string "s3cret"))]),
    ("sessions", .array [.object [("accessToken", .leaf (.string "abc"))]])]

/-- The request is plain data. -/
theorem request_plain : Plain request := by
  simp [Plain, request, DataTree.keyed_object, DataTree.keyed_array, DataTree.keyed_leaf]

/-- The logged request is redacted, and logging it again changes nothing. -/
theorem log_redaction_request :
    Redacts request (sanitizeLogData request) ∧
      sanitizeLogData (sanitizeLogData request) = sanitizeLogData request :=
  ⟨log_redaction.1 request request_plain, log_redaction.2.2 request request_plain⟩

example : isSensitive "Password" = true ∧ isSensitive "accessToken" = true ∧
    isSensitive "sessions" = false := by decide +kernel

end Request

end Armada.Common
