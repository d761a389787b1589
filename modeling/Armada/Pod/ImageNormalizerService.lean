import Mathlib.Logic.Relation
import Armada.Prisma

/-!
# ImageNormalizerService

`src/modules/pod/services/image-normalizer.service.ts`: the two pipelines for images, and
the limiter that lets two of them run at a time. What sharp answers comes from outside. The
limiter is a state that the turns of the event loop change: a call begins, a timer fires, or
a pipeline that has a slot ends.
-/

namespace Armada

/-- The bytes of a file. -/
abbrev Buffer := List UInt8

/-- What sharp reports of an image. -/
structure Metadata where
  format : Option String := none
  width : Option Nat := none
  height : Option Nat := none
  orientation : Option Nat := none
  exif : Option Buffer := none
  iptc : Option Buffer := none
  xmp : Option Buffer := none
  deriving DecidableEq

/-- How an image is encoded. -/
inductive Encoder where
  | jpeg (quality : Nat)
  | png (compressionLevel effort : Nat)
  deriving DecidableEq

/-- A pipeline that fits an image into a box, without enlarging it. -/
structure Transformer where
  input : Buffer
  rotate : Bool
  width : Nat
  height : Nat
  encoder : Encoder
  deriving DecidableEq

/-- The calls of sharp. Each may throw. -/
structure Sharp where
  construct : Buffer → Except String Unit
  metadata : Buffer → Except String Metadata
  toBuffer : Transformer → Except String Buffer

/-- What the normalizer answers. -/
structure NormalizedResult where
  buffer : Buffer
  mimeType : String
  extension : String
  width : Option Nat
  height : Option Nat
  isNormalized : Bool
  sizeBytes : Nat
  deriving DecidableEq

namespace ImageNormalizerService

/-- How many pixels an image may have. -/
def maxDecodedPixels : Nat := 25000000

/-- How long its sides may be. -/
def maxPhotoDimension : Nat := 1600

/-- The quality of the encoding. -/
def jpegQuality : Nat := 80

/-- How many images are worked on at a time. -/
def maxConcurrency : Nat := 2

/-- What a pipeline throws: an exception of its own, or an error of sharp. -/
inductive Failure where
  | http (exception : HttpException)
  | sharp (message : String)
  deriving DecidableEq

/-- An answer with the status 422. -/
def unprocessable (code message : String) : Failure :=
  .http { status := .unprocessableEntity, code, message }

/-- An error of sharp that is not caught. -/
def uncaught {α : Type} (answer : Except String α) : Except Failure α :=
  answer.mapError .sharp

/-- An error of sharp that becomes an exception. -/
def caught {α : Type} (answer : Except String α) (failure : Failure) : Except Failure α :=
  answer.mapError fun _ => failure

/-- `!value` is false. -/
def truthy (value : Option Nat) : Bool := value.getD 0 ≠ 0

/-- `normalizePodPhoto`. -/
def normalizePodPhoto (sharp : Sharp) (inputBuffer : Buffer) (declaredMime : String) :
    Except Failure NormalizedResult := do
  uncaught (sharp.construct inputBuffer)
  let metadata ← caught (sharp.metadata inputBuffer) (unprocessable "INVALID_IMAGE_DATA"
    "The submitted image could not be decoded or contains corrupted pixel data")
  if ¬truthy metadata.width ∨ ¬truthy metadata.height then
    throw (unprocessable "INVALID_IMAGE_DIMENSIONS"
      "Image has invalid or missing width/height dimensions")
  let width := metadata.width.getD 0
  let height := metadata.height.getD 0
  let totalPixels := width * height
  if maxDecodedPixels < totalPixels then
    throw (unprocessable "PIXEL_LIMIT_EXCEEDED" (s!"Decoded image pixels ({totalPixels}) exceeds " ++
      s!"maximum application security limit of {maxDecodedPixels}"))
  let isJpeg := metadata.format = some "jpeg" ∨ declaredMime = "image/jpeg"
  let withinDimensions := width ≤ maxPhotoDimension ∧ height ≤ maxPhotoDimension
  let needsOrientation := 1 < metadata.orientation.getD 0
  let hasUnwantedMetadata := metadata.exif.isSome ∨ metadata.iptc.isSome ∨ metadata.xmp.isSome
  if isJpeg ∧ withinDimensions ∧ ¬needsOrientation ∧ ¬hasUnwantedMetadata then
    return { buffer := inputBuffer
             mimeType := "image/jpeg"
             extension := ".jpg"
             width := metadata.width
             height := metadata.height
             isNormalized := false
             sizeBytes := inputBuffer.length }
  uncaught (sharp.construct inputBuffer)
  let normalizedBuffer ← uncaught <| sharp.toBuffer
    { input := inputBuffer
      rotate := true
      width := maxPhotoDimension
      height := maxPhotoDimension
      encoder := .jpeg jpegQuality }
  let outputMetadata ← uncaught (sharp.metadata normalizedBuffer)
  return { buffer := normalizedBuffer
           mimeType := "image/jpeg"
           extension := ".jpg"
           width := outputMetadata.width
           height := outputMetadata.height
           isNormalized := true
           sizeBytes := normalizedBuffer.length }

/-- Missing dimensions pass here, and the declared type is not looked at. -/
def normalizeSignature (sharp : Sharp) (inputBuffer : Buffer) (_declaredMime : String) :
    Except Failure NormalizedResult := do
  uncaught (sharp.construct inputBuffer)
  let metadata ← caught (sharp.metadata inputBuffer) (unprocessable "INVALID_SIGNATURE_DATA"
    "The submitted signature image could not be decoded or contains corrupted data")
  let totalPixels := metadata.width.getD 0 * metadata.height.getD 0
  if maxDecodedPixels < totalPixels then
    throw (unprocessable "PIXEL_LIMIT_EXCEEDED"
      "Signature decoded pixels exceed maximum allowed limit")
  uncaught (sharp.construct inputBuffer)
  let normalizedBuffer ← uncaught <| sharp.toBuffer
    { input := inputBuffer
      rotate := false
      width := 800
      height := 600
      encoder := .png 9 7 }
  let outputMetadata ← uncaught (sharp.metadata normalizedBuffer)
  return { buffer := normalizedBuffer
           mimeType := "image/png"
           extension := ".png"
           width := outputMetadata.width
           height := outputMetadata.height
           isNormalized := true
           sizeBytes := normalizedBuffer.length }

/-! ## The limiter -/

/-- A call of one of the two pipelines. -/
inductive Request where
  | podPhoto (inputBuffer : Buffer) (declaredMime : String)
  | signature (inputBuffer : Buffer) (declaredMime : String)
  deriving DecidableEq

/-- The `try` block of a call. -/
def Request.body (sharp : Sharp) : Request → Except Failure NormalizedResult
  | podPhoto inputBuffer declaredMime => normalizePodPhoto sharp inputBuffer declaredMime
  | signature inputBuffer declaredMime => normalizeSignature sharp inputBuffer declaredMime

/-- How the promise of a slot is settled. -/
inductive Settlement where
  | granted
  | rejected (failure : Failure)
  deriving DecidableEq

/-- The fields of the service and, by the number of the call, what the event loop knows of
its callers. A `resume` in the queue is the call whose promise it resolves. -/
structure Limiter where
  currentActive : Nat := 0
  queue : List Nat := []
  timers : List Nat := []
  settlements : List (Nat × Settlement) := []
  released : List Nat := []
  requests : List Request := []
  results : List (Nat × Except Failure NormalizedResult) := []
  deriving DecidableEq

namespace Limiter

/-- A call has ended. -/
def settle (limiter : Limiter) (call : Nat) (settlement : Settlement) : Limiter :=
  { limiter with settlements := limiter.settlements ++ [(call, settlement)] }

/-- Remember how a call has ended. -/
def record (limiter : Limiter) (call : Nat) (result : Except Failure NormalizedResult) : Limiter :=
  { limiter with results := limiter.results ++ [(call, result)] }

/-- Start the timeout of a call. -/
def setTimeout (limiter : Limiter) (call : Nat) : Limiter :=
  { limiter with timers := limiter.timers ++ [call] }

/-- Stop the timeout of a call. -/
def clearTimeout (limiter : Limiter) (call : Nat) : Limiter :=
  { limiter with timers := limiter.timers.erase call }

/-- `acquireConcurrencySlot`: a free slot, or a place in the queue. -/
def acquireConcurrencySlot (limiter : Limiter) (call : Nat) : Limiter :=
  if limiter.currentActive < maxConcurrency then
    { limiter with currentActive := limiter.currentActive + 1 }.settle call .granted
  else
    { limiter.setTimeout call with queue := limiter.queue ++ [call] }

/-- A waiting call gets the slot that was handed on. -/
def resume (limiter : Limiter) (call : Nat) : Limiter :=
  (limiter.clearTimeout call).settle call .granted

/-- The slot of who is first in the queue, or one less in use. -/
def releaseConcurrencySlot (limiter : Limiter) : Limiter :=
  match limiter.queue with
  | next :: queue => { limiter with queue }.resume next
  | [] => { limiter with currentActive := limiter.currentActive - 1 }

/-- Thrown after the timeout. -/
def processingTimeout : Failure :=
  unprocessable "IMAGE_PROCESSING_TIMEOUT"
    "Image processing queue timeout exceeded under high load"

/-- The callback of the timer. A timer that has fired is gone. -/
def timeout (limiter : Limiter) (call : Nat) : Limiter :=
  { limiter.clearTimeout call with queue := limiter.queue.erase call }.settle call
    (.rejected processingTimeout)

/-- The function that `acquireConcurrencySlot` gave to the call. -/
def release (limiter : Limiter) (call : Nat) : Limiter :=
  { limiter.releaseConcurrencySlot with released := limiter.released ++ [call] }

/-- The calls with a slot, in the order they got it. -/
def granted (limiter : Limiter) : List Nat :=
  limiter.settlements.filterMap fun settlement =>
    if settlement.2 = .granted then some settlement.1 else none

/-- The calls whose promise was rejected. -/
def rejected (limiter : Limiter) : List Nat :=
  limiter.settlements.filterMap fun settlement =>
    if settlement.2 = .granted then none else some settlement.1

/-- A turn of the event loop. -/
inductive Event where
  | call (request : Request)
  | timeout (call : Nat)
  | finish (call : Nat) (sharp : Sharp)

/-- A timer fires that has been set and not been cleared; a pipeline ends once, with what
sharp has answered it, if the call has got a slot. -/
def Allowed (limiter : Limiter) : Event → Prop
  | .call _ => True
  | .timeout call => call ∈ limiter.timers
  | .finish call _ => call ∈ limiter.granted ∧ call ∉ limiter.released

/-- A call that is rejected throws before its `try` block; a block that is left, by its
result or by an exception, releases the slot. -/
def apply (limiter : Limiter) : Event → Limiter
  | .call request =>
      { limiter with requests := limiter.requests ++ [request] }.acquireConcurrencySlot
        limiter.requests.length
  | .timeout call => (limiter.timeout call).record call (.error processingTimeout)
  | .finish call sharp =>
      match limiter.requests[call]? with
      | some request => (limiter.release call).record call (request.body sharp)
      | none => limiter

/-- The limiters that some sequence of turns leads to. -/
inductive Reachable : Limiter → Prop where
  | initial : Reachable {}
  | turn {limiter : Limiter} (event : Event) (reached : Reachable limiter)
      (allowed : limiter.Allowed event) : Reachable (limiter.apply event)

end Limiter

end ImageNormalizerService

end Armada
