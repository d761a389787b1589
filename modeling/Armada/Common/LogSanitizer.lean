import Armada.Collections.DataTree
import Armada.Common.Text

/-!
# log-sanitizer

`src/common/utils/log-sanitizer.util.ts`: the data of a log entry is copied, and the value
under a sensitive key is replaced.
-/

namespace Armada.Common

open Collections

/-- Data that is neither an array nor an object, over any numbers. -/
inductive Primitive (Number : Type) where
  | undefined
  | null
  | boolean (value : Bool)
  | number (value : Number)
  | string (text : String)
  deriving DecidableEq

/-- A value as it reaches the logger. -/
abbrev LogData (Number : Type) := DataTree String (Primitive Number)

/-- The keys whose values are never logged. -/
def SENSITIVE_KEYS : List String :=
  ["password", "passwordhash", "authorization", "token", "accesstoken", "refreshtoken", "secret",
    "key", "privatekey", "cookie", "databaseurl", "postgres_password", "jwt_secret_or_key"]

variable {Number : Type}

/-- `'[REDACTED]'`. -/
def redacted : LogData Number := .leaf (.string "[REDACTED]")

/-- `typeof value === 'object' && value !== null`. -/
def isObject : LogData Number → Bool
  | .leaf _ => false
  | .array _ => true
  | .object _ => true

/-- `sanitizedObj[key] = value`, which keeps the place of a key that is there already. The key
`__proto__` sets the prototype and no entry. -/
def assign (key : String) (value : LogData Number)
    (sanitizedObj : List (String × LogData Number)) : List (String × LogData Number) :=
  if key = "__proto__" then sanitizedObj
  else if key ∈ sanitizedObj.map Prod.fst then
    sanitizedObj.map fun entry => if entry.1 = key then (key, value) else entry
  else sanitizedObj ++ [(key, value)]

variable [LetterCase]

/-- Whether a key is one of them, in any letter case. -/
def isSensitive (key : String) : Bool := SENSITIVE_KEYS.contains (LetterCase.toLowerCase key)

mutual

/-- The value with the values of the sensitive keys replaced, at every depth. -/
def sanitizeLogData : LogData Number → LogData Number
  | .leaf value => .leaf value
  | .array items => .array (sanitizeItems items)
  | .object entries => .object (sanitizeEntries [] entries)

/-- `data.map`. -/
def sanitizeItems : List (LogData Number) → List (LogData Number)
  | [] => []
  | item :: items => sanitizeLogData item :: sanitizeItems items

/-- The loop over `Object.entries`. -/
def sanitizeEntries (sanitizedObj : List (String × LogData Number)) :
    List (String × LogData Number) → List (String × LogData Number)
  | [] => sanitizedObj
  | (key, value) :: entries =>
      let sanitized :=
        if isSensitive key then redacted
        else if isObject value then sanitizeLogData value
        else value
      sanitizeEntries (assign key sanitized sanitizedObj) entries

end

/-! ## What is computed -/

/-- What is stored under a key for a value. -/
def sanitizeValue (key : String) (value : LogData Number) : LogData Number :=
  if isSensitive key then redacted else sanitizeLogData value

/-- The keys of the data are distinct, and none is `__proto__`. -/
def Plain (data : LogData Number) : Prop := data.Keyed (· ≠ "__proto__")

variable {items : List (LogData Number)} {sanitizedObj entries : List (String × LogData Number)}

/-- A leaf is logged as it is. -/
@[simp] theorem sanitizeLogData_leaf {value : Primitive Number} :
    sanitizeLogData (.leaf value) = .leaf value := by
  rw [sanitizeLogData]

/-- The items of an array are sanitized one by one. -/
theorem sanitizeItems_eq : sanitizeItems items = items.map sanitizeLogData := by
  induction items with
  | nil => rw [sanitizeItems, List.map_nil]
  | cons item items inductionHypothesis =>
      rw [sanitizeItems, inductionHypothesis, List.map_cons]

/-- An array is logged item by item. -/
@[simp] theorem sanitizeLogData_array :
    sanitizeLogData (.array items) = .array (items.map sanitizeLogData) := by
  rw [sanitizeLogData, sanitizeItems_eq]

omit [LetterCase] in
/-- A new key comes last. -/
theorem assign_new {key : String} {value : LogData Number} (proper : key ≠ "__proto__")
    (fresh : key ∉ sanitizedObj.map Prod.fst) :
    assign key value sanitizedObj = sanitizedObj ++ [(key, value)] := by
  rw [assign, if_neg proper, if_neg fresh]

/-- Data that is not an object is stored as `sanitizeLogData` would return it. -/
theorem sanitized_eq (key : String) (value : LogData Number) :
    (if isSensitive key then redacted
      else if isObject value then sanitizeLogData value else value) = sanitizeValue key value := by
  cases value with
  | leaf value => simp [sanitizeValue, isObject]
  | array items => simp [sanitizeValue, isObject]
  | object entries => simp [sanitizeValue, isObject]

/-- The entries of an object are sanitized one by one when its keys are distinct and none is
`__proto__`. -/
theorem sanitizeEntries_eq (nodup : ((sanitizedObj ++ entries).map Prod.fst).Nodup)
    (proper : ∀ key ∈ entries.map Prod.fst, key ≠ "__proto__") :
    sanitizeEntries sanitizedObj entries =
      sanitizedObj ++ entries.map fun entry => (entry.1, sanitizeValue entry.1 entry.2) := by
  induction entries generalizing sanitizedObj with
  | nil => rw [sanitizeEntries, List.map_nil, List.append_nil]
  | cons entry entries inductionHypothesis =>
      obtain ⟨key, value⟩ := entry
      obtain ⟨first, rest⟩ := List.forall_mem_cons.mp proper
      have fresh : key ∉ sanitizedObj.map Prod.fst := by
        rw [List.map_append, List.map_cons] at nodup
        exact fun member => (List.nodup_append.mp nodup).2.2 key member key (by simp) rfl
      rw [sanitizeEntries, sanitized_eq, assign_new first fresh, inductionHypothesis ?_ rest]
      · simp
      · simpa using nodup

/-- A plain object is logged entry by entry. -/
theorem sanitizeLogData_object (plain : Plain (.object entries)) :
    sanitizeLogData (.object entries) =
      .object (entries.map fun entry => (entry.1, sanitizeValue entry.1 entry.2)) := by
  obtain ⟨⟨nodup, proper⟩, _⟩ := DataTree.keyed_object.mp plain
  rw [sanitizeLogData, sanitizeEntries_eq nodup proper, List.nil_append]

/-- Sanitized data is as well formed as the data. -/
theorem Plain.sanitizeLogData {data : LogData Number} (plain : Plain data) :
    Plain (sanitizeLogData data) := by
  induction data using DataTree.recOnMembers with
  | leaf value =>
      rw [sanitizeLogData_leaf]
      exact plain
  | array items inductionHypothesis =>
      have each := DataTree.keyed_array.mp plain
      rw [sanitizeLogData_array]
      refine DataTree.keyed_array.mpr (List.forall_mem_map.mpr fun item member => ?_)
      exact inductionHypothesis item member (each item member)
  | object entries inductionHypothesis =>
      have parts := DataTree.keyed_object.mp plain
      rw [sanitizeLogData_object plain]
      refine DataTree.keyed_object.mpr ⟨?_, List.forall_mem_map.mpr fun entry member => ?_⟩
      · simpa [Function.comp_def] using parts.1
      · dsimp only [sanitizeValue]
        split
        · exact DataTree.keyed_leaf
        · exact inductionHypothesis entry member (parts.2 entry member)

end Armada.Common
