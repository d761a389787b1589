import Mathlib.Algebra.BigOperators.Group.List.Basic
import Mathlib.Data.Rat.Floor
import Armada.Schema

/-!
# RoutingProvider

`src/modules/routes/interfaces/routing-provider.interface.ts`: what the two providers
are asked and what they answer, and the few operations on JavaScript numbers and
strings that the optimisers apply to it. The matrices are the provider's JSON, passed
through unchecked.
-/

namespace Armada

/-- A place to be visited. -/
structure Waypoint where
  id : String
  latitude : Rat
  longitude : Rat
  deriving DecidableEq

/-- An entry of a matrix. OSRM answers null for a pair without a route. -/
inductive MatrixEntry where
  | number (value : Rat)
  | null
  deriving DecidableEq

/-- What an entry counts as under `+` and `<`. -/
def MatrixEntry.toNumber : MatrixEntry → Rat
  | .number value => value
  | .null => 0

/-- A number is read as itself. -/
@[simp] theorem MatrixEntry.toNumber_number (value : Rat) :
    (number value).toNumber = value := rfl

/-- A missing entry is read as zero. -/
@[simp] theorem MatrixEntry.toNumber_null : null.toNumber = 0 := rfl

/-- The rows and columns of a `number[][]`, by their indices. -/
abbrev EntryMatrix := Nat → Nat → MatrixEntry

/-- The providers, as an answer names them. -/
inductive ProviderName where
  | osrm
  | haversineFallback
  deriving DecidableEq

/-- The matrix that a provider answers. -/
structure DistanceMatrixResult where
  distancesMeters : EntryMatrix
  durationsSeconds : EntryMatrix
  provider : ProviderName

/-- The geometry that a provider answers. -/
structure RouteGeometryResult where
  totalDistanceM : Rat
  estimatedDurationS : Rat
  polylineGeojson : JsValue
  provider : ProviderName
  deriving DecidableEq

/-- The UTF-16 code units of a string, in whose order `<` compares strings. -/
def codeUnits (text : String) : List Nat :=
  text.toList.flatMap fun char =>
    let code := char.toNat
    if code < 0x10000 then [code]
    else [0xD800 + (code - 0x10000) / 0x400, 0xDC00 + (code - 0x10000) % 0x400]

/-- `Math.round`: halves go up. -/
def mathRound (value : Rat) : Rat := ⌊value + 1 / 2⌋

/-- Zero is rounded to zero. -/
@[simp] theorem mathRound_zero : mathRound 0 = 0 := by
  norm_num [mathRound]

end Armada
