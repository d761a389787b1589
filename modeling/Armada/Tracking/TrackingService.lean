import Armada.Collections.ArraySort
import Armada.Tracking.LocationValidationService

/-!
# TrackingService

`src/modules/tracking/services/tracking-cache.service.ts` and
`src/modules/tracking/services/tracking.service.ts`: a point is looked up by its key,
validated against the cached location, inserted, recorded under its key, and last offered to
the cache. No two of these steps share a transaction.
-/

namespace Armada.Tracking

open Collections Concurrency

variable [DateText]

namespace TrackingCacheService

/-- 24 hours. -/
def cacheTtlSeconds : Int := 86400

/-- Whether a payload is not strictly newer than what is cached. What does not parse, or has
no date, is overwritten. -/
def outOfOrder (existingRaw : Option CachedText) (payload : CachedLocationData) : Bool :=
  match existingRaw with
  | some (.json cached) =>
      match cached.recordedAt.getTime, payload.recordedAt.getTime with
      | some cachedTime, some newTime => newTime ≤ cachedTime
      | _, _ => false
  | some .malformed => false
  | none => false

/-- For a cached entry that parses, the update is out of order when its time is not later. -/
theorem outOfOrder_json {cached payload : CachedLocationData} {cachedTime newTime : Int}
    (before : cached.recordedAt.getTime = some cachedTime)
    (now : payload.recordedAt.getTime = some newTime) :
    outOfOrder (some (.json cached)) payload = decide (newTime ≤ cachedTime) := by
  simp only [outOfOrder, before, now]

/-- Stores the payload as the latest position, unless the cached one is as late. -/
def setLatestLocation (driverId : Uuid) (payload : CachedLocationData) : Proc tracking Bool := do
  let existingRaw ← RedisService.get driverId
  if outOfOrder existingRaw payload then return false
  else do
    RedisService.set driverId (.json payload) cacheTtlSeconds
    return true

/-- A location that parses; every error is answered by `null`. -/
def getLatestLocation (driverId : Uuid) : Proc tracking (Option CachedLocationData) := do
  let raw ← RedisService.get driverId
  match raw with
  | some (.json location) => return some location
  | some .malformed => return none
  | none => return none

end TrackingCacheService

/-- The answer of one ingestion. -/
structure TelemetryIngestionResult where
  locationId : Uuid
  validationStatus : ValidationStatus
  receivedAt : Int
  idempotent : Bool := false
  deriving DecidableEq

/-- One refused point of a batch. -/
structure BatchError where
  index : Nat
  code : String
  recordedAt : String
  deriving DecidableEq

/-- The position that a batch's answer hints at. -/
structure LatestBroadcast where
  latitude : ℚ
  longitude : ℚ
  recordedAt : String
  deriving DecidableEq

/-- The answer of a batch. -/
structure BatchIngestionResult where
  accepted : Nat
  rejected : Nat
  errors : List BatchError
  latestBroadcast : Option LatestBroadcast
  deriving DecidableEq

/-- `value || null`: zero is falsy. -/
def orNull (value : Option ℚ) : Option ℚ := value.filter (· ≠ 0)

namespace TrackingService

/-- The 403 of a tracking check. -/
def forbidden (code message : String) : Failure := .http ⟨.forbidden, code, message, none⟩

/-- A delivery that is named has to be the driver's. -/
def verifyDelivery (driverId : Uuid) : Option IdText → Proc tracking Unit
  | none => return ()
  | some deliveryId => do
      let found ← Prisma.Delivery.findUnique deliveryId
      let delivery ← Proc.require found
        (.http ⟨.unprocessableEntity, "DELIVERY_NOT_FOUND",
          s!"Delivery {deliveryId} does not exist", none⟩)
      Proc.rejectIf (delivery.driverId ≠ some driverId)
        (forbidden "DELIVERY_NOT_ASSIGNED_TO_DRIVER"
          "Delivery is not assigned to the authenticated driver")

/-- The record of a key for the user of the driver and an endpoint. -/
def existingRecord (driverId : Uuid) (endpoint : String) :
    Option Uuid → Proc tracking (Option IdempotencyRecord)
  | none => return none
  | some key => do
      let user ← Prisma.Driver.findUnique driverId
      match user with
      | none => return none
      | some user => Prisma.IdempotencyRecord.findUnique ⟨key, user.userId, endpoint⟩

/-- A stored response; what it lacks is made up. -/
def replay (body : ResponseBody) : Statement tracking TelemetryIngestionResult where
  locks _ _ := []
  exec input _ := .ok
    ({ locationId := body.locationId.getD input.uuid
       validationStatus := body.validationStatus.getD .valid
       receivedAt := body.receivedAt.getD input.now
       idempotent := true }, [])

/-- The rate limit of a single ingestion; a batch skips it. -/
def enforceRateLimit (driverId : Uuid) (skipSingleRateLimit : Bool) : Proc tracking Unit :=
  if skipSingleRateLimit then return ()
  else do
    let rateCount ← RedisService.incrRateLimit s!"throttle:location:driver:{driverId}" 1
    Proc.rejectIf (1 < rateCount)
      (.http ⟨.tooManyRequests, "RATE_LIMIT_EXCEEDED",
        "Telemetry ingestion rate limit exceeded (Max 1 req/sec). Please slow down.", none⟩)

/-- The row of a point. The clock skew check has let the time of recording pass. -/
def locationPoint (dto : LocationIngestionDto) (driverId : Uuid) (receivedAt : Int)
    (validationStatus : ValidationStatus) (locationId : Uuid) : LocationPoint where
  id := locationId
  driverId := driverId
  deliveryId := dto.deliveryId.map IdText.uuid
  latitude := dto.latitude
  longitude := dto.longitude
  geom := (dto.longitude, dto.latitude)
  accuracyM := dto.accuracyM
  speedMps := dto.speedMps
  headingDeg := dto.headingDeg
  recordedAt := (DateText.getTime dto.recordedAt).getD 0
  receivedAt := receivedAt
  source := "driver_app"
  validationStatus := validationStatus

/-- Save the response under the key; every error of the insertion is swallowed. -/
def saveRecord (driverId : Uuid) (endpoint : String) (result : TelemetryIngestionResult) :
    Option Uuid → Proc tracking Unit
  | none => return ()
  | some key => do
      let user ← Prisma.Driver.findUnique driverId
      match user with
      | none => return ()
      | some user =>
          tryCatch (liftM (Prisma.IdempotencyRecord.create ⟨key, user.userId, endpoint⟩ 201
            ⟨some result.locationId, some result.validationStatus, some result.receivedAt⟩))
            fun _ => return ()

/-- What is cached and broadcast of a point. -/
def cachedLocation (dto : LocationIngestionDto) (driverId : Uuid) (receivedAt : Int) :
    CachedLocationData where
  driverId := driverId
  deliveryId := dto.deliveryId
  latitude := dto.latitude
  longitude := dto.longitude
  accuracyM := dto.accuracyM
  speedMps := orNull dto.speedMps
  headingDeg := orNull dto.headingDeg
  recordedAt := .given dto.recordedAt
  receivedAt := .iso receivedAt

/-- Only a valid point is broadcast. -/
def broadcast (dto : LocationIngestionDto) (driverId : Uuid) (receivedAt : Int)
    (status : ValidationStatus) : Proc tracking Unit :=
  if status = .valid then do
    let user ← Prisma.Driver.findUnique driverId
    RealtimeGateway.emit (.fleetMonitoring :: (dto.deliveryId.map Room.delivery).toList)
      "driver.location.updated" (cachedLocation dto driverId receivedAt)
      (user.map Driver.userId) ((user.map Driver.userRole).getD .driver) driverId
  else return ()

variable {K : Type} [Field K] [LinearOrder K] [Geodesy K]

/-- What follows the replay check: from the rate limit to the broadcast. -/
def ingest (dto : LocationIngestionDto) (driverId : Uuid) (receivedAt : Int) (endpoint : String)
    (skipSingleRateLimit : Bool) : Proc tracking TelemetryIngestionResult := do
  enforceRateLimit driverId skipSingleRateLimit
  let valResult ← LocationValidationService.validateSinglePoint dto driverId receivedAt
  let reason := valResult.reason.getD "undefined"
  Proc.rejectIf (valResult.valid = false)
    (.http ⟨.unprocessableEntity, valResult.reason.getD "GPS_VALIDATION_FAILED",
      s!"GPS telemetry rejected: {reason}", none⟩)
  let locationId ← Prisma.LocationPoint.insert
    (locationPoint dto driverId receivedAt valResult.status)
  let result : TelemetryIngestionResult :=
    { locationId, validationStatus := valResult.status, receivedAt }
  saveRecord driverId endpoint result dto.idempotencyKey
  let _ ← TrackingCacheService.setLatestLocation driverId (cachedLocation dto driverId receivedAt)
  broadcast dto driverId receivedAt valResult.status
  return result

/-- Ingests one position: the checks, the stored answer, the row, the cache, the broadcast
and the record. -/
def processTelemetry (dto : LocationIngestionDto) (driverId : Option Uuid) (userRole : Role)
    (receivedAt : Int) (endpoint : String) (skipSingleRateLimit : Bool) :
    Proc tracking TelemetryIngestionResult := do
  Proc.rejectIf (userRole ≠ .driver)
    (forbidden "FORBIDDEN" "Only drivers are authorized to submit location telemetry")
  let driverId ← Proc.require driverId
    (forbidden "DRIVER_PROFILE_REQUIRED"
      "Authenticated user does not have an associated driver profile")
  verifyDelivery driverId dto.deliveryId
  let existing ← existingRecord driverId endpoint dto.idempotencyKey
  match existing with
  | some record => replay record.responseBody
  | none => ingest dto driverId receivedAt endpoint skipSingleRateLimit

/-! ## Batches -/

/-- The code under which a batch reports an error. -/
def rejectionCode : Failure → String
  | .http exception => exception.code
  | .prisma _ => "GPS_VALIDATION_FAILED"
  | .rawQuery => "GPS_VALIDATION_FAILED"

/-- The loop over the points of a batch, from an index on. -/
def processPoints (driverId : Uuid) (userRole : Role) (receivedAt : Int) :
    Nat → List LocationIngestionDto →
      Proc tracking (List TelemetryIngestionResult × List BatchError)
  | _, [] => return ([], [])
  | index, dto :: points => do
      let outcome ← tryCatch
        (Except.ok <$> processTelemetry dto (some driverId) userRole receivedAt
          "/v1/me/location/batch" true)
        fun failure => return .error failure
      let (accepted, rejected) ← processPoints driverId userRole receivedAt (index + 1) points
      match outcome with
      | .ok result => return (result :: accepted, rejected)
      | .error failure =>
          return (accepted, ⟨index, rejectionCode failure, dto.recordedAt⟩ :: rejected)

/-- The comparator of the hint: a difference that is `NaN` counts as zero. -/
def newestFirst (first second : LocationIngestionDto) : Int :=
  match DateText.getTime second.recordedAt, DateText.getTime first.recordedAt with
  | some secondTime, some firstTime => secondTime - firstTime
  | _, _ => 0

section Hint

variable [ArraySort]

/-- The point of a hint. -/
def hintOf (point : LocationIngestionDto) : LatestBroadcast where
  latitude := point.latitude
  longitude := point.longitude
  recordedAt := point.recordedAt

/-- The broadcast hint. Points and accepted results are matched by their index. -/
def latestBroadcast (points : List LocationIngestionDto)
    (accepted : List TelemetryIngestionResult) : Option LatestBroadcast :=
  let validPoints := (points.zip accepted).filter fun pair => pair.2.validationStatus = .valid
  (ArraySort.sort newestFirst (validPoints.map Prod.fst)).head?.map hintOf

/-- Ingests the points of a batch one after the other, and answers the counts, the errors and the
hint. -/
def processBatch (points : List LocationIngestionDto) (driverId : Option Uuid) (userRole : Role)
    (receivedAt : Int) : Proc tracking BatchIngestionResult := do
  Proc.rejectIf (userRole ≠ .driver)
    (forbidden "FORBIDDEN" "Only drivers are authorized to submit location telemetry")
  let driverId ← Proc.require driverId
    (forbidden "FORBIDDEN" "Only drivers are authorized to submit location telemetry")
  let rateCount ← RedisService.incrRateLimit s!"throttle:location:batch:driver:{driverId}" 60
  Proc.rejectIf (1 < rateCount)
    (.http ⟨.tooManyRequests, "RATE_LIMIT_EXCEEDED",
      "Batch telemetry rate limit exceeded (Max 1 batch/min).", none⟩)
  let (accepted, rejected) ← processPoints driverId userRole receivedAt 0 points
  return ⟨accepted.length, rejected.length, rejected, latestBroadcast points accepted⟩

end Hint

end TrackingService

/-! ## Where points come in -/

/-- The three ways a position arrives. -/
inductive TelemetryChannel where
  | rest
  | socket
  | batch
  deriving DecidableEq

/-- The endpoint under which the answer is recorded. -/
def TelemetryChannel.endpoint : TelemetryChannel → String
  | .rest => "/v1/me/location"
  | .socket => "/v1/realtime"
  | .batch => "/v1/me/location/batch"

/-- Whether the single-point rate limit is skipped. -/
def TelemetryChannel.skipSingleRateLimit : TelemetryChannel → Bool
  | .rest => false
  | .socket => false
  | .batch => true

/-- A call of `processTelemetry` for a driver. -/
structure TelemetryCall where
  dto : LocationIngestionDto
  userRole : Role
  receivedAt : Int
  channel : TelemetryChannel

/-- The call as the controller or the gateway makes it. -/
def TelemetryCall.process {K : Type} [Field K] [LinearOrder K] [Geodesy K]
    (call : TelemetryCall) (driverId : Uuid) : Proc tracking TelemetryIngestionResult :=
  TrackingService.processTelemetry call.dto (some driverId) call.userRole call.receivedAt
    call.channel.endpoint call.channel.skipSingleRateLimit

end Armada.Tracking
