import Armada.Tracking.Prisma

/-!
# LocationValidationService

`src/modules/tracking/utils/gps-validator.util.ts` and
`src/modules/tracking/services/location-validation.service.ts`. The haversine distance is a
parameter, with values in an ordered field.
-/

namespace Armada.Tracking

open Concurrency

/-- One position as the client sends it. -/
structure LocationIngestionDto where
  latitude : ℚ
  longitude : ℚ
  accuracyM : ℚ
  recordedAt : String
  speedMps : Option ℚ := none
  headingDeg : Option ℚ := none
  deliveryId : Option IdText := none
  idempotencyKey : Option Uuid := none
  deriving DecidableEq

/-- The distance of two points that are given by latitude and longitude, in metres. -/
class Geodesy (K : outParam Type) where
  haversineDistanceMeters : ℚ → ℚ → ℚ → ℚ → K

/-- Distances where all points are one. -/
@[reducible] def onePlace : Geodesy ℚ := ⟨fun _ _ _ _ => 0⟩

/-! ## gps-validator -/

/-- Whether the coordinates lie on the globe. -/
def validateCoordinateBounds (lat lng : ℚ) : Bool :=
  -90 ≤ lat && lat ≤ 90 && -180 ≤ lng && lng ≤ 180

/-- Whether the accuracy is positive and within the threshold. -/
def validateAccuracyThreshold (accuracyM threshold : ℚ) : Bool :=
  0 < accuracyM && accuracyM ≤ threshold

/-- Why a timestamp is refused. -/
inductive ClockSkewReason where
  | timestampFuture
  | timestampStale
  | timestampInvalid
  deriving DecidableEq

/-- The text of the reason. -/
def ClockSkewReason.text : ClockSkewReason → String
  | .timestampFuture => "TIMESTAMP_FUTURE"
  | .timestampStale => "TIMESTAMP_STALE"
  | .timestampInvalid => "TIMESTAMP_INVALID"

section Dates

variable [DateText]

/-- The reason for which a time of recording is refused, if it is. -/
def validateClockSkew (recordedAt : String) (receivedAt : Int) (futureMarginMs : Int := 300000)
    (staleMs : Int := 3600000) : Option ClockSkewReason :=
  match DateText.getTime recordedAt with
  | none => some .timestampInvalid
  | some recTime =>
      if receivedAt + futureMarginMs < recTime then some .timestampFuture
      else if recTime < receivedAt - staleMs then some .timestampStale
      else none

variable {K : Type} [Field K] [LinearOrder K] [Geodesy K]

/-- The speed that two positions and their times imply, in metres for each second. -/
def calculateImpliedSpeedMps (prevLat prevLng : ℚ) (prevTime : DateString) (newLat newLng : ℚ)
    (newTime : String) : K :=
  match prevTime.getTime, DateText.getTime newTime with
  | some tPrev, some tNew =>
      let timeDiffSec : K := ((tNew - tPrev : Int) : K) / 1000
      if timeDiffSec ≤ 0 then 0
      else Geodesy.haversineDistanceMeters prevLat prevLng newLat newLng / timeDiffSec
  | _, _ => 0

/-- Whether a speed is above the threshold. -/
def isVelocityAnomaly (speedMps threshold : K) : Bool := threshold < speedMps

/-! ## validateSinglePoint -/

/-- What the validation of one point answers. -/
structure LocationValidationResult (K : Type) where
  valid : Bool
  status : ValidationStatus
  reason : Option String := none
  calculatedSpeedMps : Option K := none

/-- 150 km/h. -/
def plausibleLimitMps : K := 4167 / 100

/-- The velocity check against the cached location. A text that does not parse is caught. -/
def evaluateVelocity (dto : LocationIngestionDto) :
    Option CachedText → LocationValidationResult K
  | some (.json prevLocation) =>
      match prevLocation.recordedAt.getTime, DateText.getTime dto.recordedAt with
      | some tPrev, some tNew =>
          -- a point that is not strictly newer is not compared
          if tPrev < tNew then
            let speed := calculateImpliedSpeedMps prevLocation.latitude prevLocation.longitude
              prevLocation.recordedAt dto.latitude dto.longitude dto.recordedAt
            if isVelocityAnomaly speed plausibleLimitMps then
              { valid := true, status := .anomalyVelocity,
                reason := some "VELOCITY_EXCEEDS_PLAUSIBLE_LIMIT",
                calculatedSpeedMps := some speed }
            else { valid := true, status := .valid, calculatedSpeedMps := some speed }
          else { valid := true, status := .valid }
      | _, _ => { valid := true, status := .valid }
  | some .malformed => { valid := true, status := .valid }
  | none => { valid := true, status := .valid }

/-- A point that is strictly newer than the cached one is valid if the speed that both imply is
plausible. -/
theorem evaluateVelocity_valid_iff [IsStrictOrderedRing K] {dto : LocationIngestionDto}
    {location : CachedLocationData} {tPrev tNew : Int}
    (cachedTime : location.recordedAt.getTime = some tPrev)
    (newTime : DateText.getTime dto.recordedAt = some tNew) (newer : tPrev < tNew) :
    (evaluateVelocity dto (some (.json location))).status = .valid ↔
      Geodesy.haversineDistanceMeters location.latitude location.longitude dto.latitude
        dto.longitude / (((tNew - tPrev : Int) : K) / 1000) ≤ plausibleLimitMps := by
  have elapsed : ¬((tNew - tPrev : Int) : K) / 1000 ≤ 0 := by
    have positive : (0 : K) < ((tNew - tPrev : Int) : K) := by exact_mod_cast Int.sub_pos.mpr newer
    exact not_le.mpr (by positivity)
  simp only [evaluateVelocity, cachedTime, newTime, if_pos newer, calculateImpliedSpeedMps,
    if_neg elapsed, isVelocityAnomaly, decide_eq_true_eq]
  split
  · rename_i anomalous
    exact ⟨nofun, fun within => absurd anomalous (not_lt.mpr within)⟩
  · rename_i within
    exact ⟨fun _ => not_lt.mp within, fun _ => rfl⟩

/-- The checks that look at the point alone, and the reason of the first that fails. -/
def rejection (dto : LocationIngestionDto) (receivedAt : Int) : Option String :=
  if validateCoordinateBounds dto.latitude dto.longitude = false then some "INVALID_COORDINATES"
  else if validateAccuracyThreshold dto.accuracyM 50 = false then
    some "GPS_ACCURACY_BELOW_THRESHOLD"
  else (validateClockSkew dto.recordedAt receivedAt).map ClockSkewReason.text

/-- The time of an accepted point can be read. -/
theorem time_of_accepted {dto : LocationIngestionDto} {receivedAt : Int}
    (accepted : rejection dto receivedAt = none) :
    ∃ time, DateText.getTime dto.recordedAt = some time := by
  cases read : DateText.getTime dto.recordedAt with
  | some time => exact ⟨time, rfl⟩
  | none =>
      rw [rejection] at accepted
      split at accepted
      · cases accepted
      · split at accepted
        · cases accepted
        · simp [validateClockSkew, read] at accepted

namespace LocationValidationService

/-- Validates one point: bounds, accuracy, clock, and the velocity from the cached position. -/
def validateSinglePoint (dto : LocationIngestionDto) (driverId : Uuid) (receivedAt : Int) :
    Proc tracking (LocationValidationResult K) :=
  match rejection dto receivedAt with
  | some reason => return { valid := false, status := .rejected, reason := some reason }
  | none => evaluateVelocity dto <$> RedisService.get driverId

end LocationValidationService

end Dates

end Armada.Tracking
