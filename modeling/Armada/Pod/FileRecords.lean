import Armada.Pod.LocalPrivateStorageAdapter

/-!
# File records

`validateMagicBytesAndType` and `saveFileRecord` of
`src/modules/pod/services/file-storage.service.ts`: a normalized image is written to the
storage, and then a row is inserted; if that fails, the file is deleted.
-/

namespace Armada.Pod

open Common Concurrency Relational

/-- The kinds of files. -/
inductive FileCategory where
  | photo
  | signature
  deriving DecidableEq

/-- The arguments of `saveFileRecord`. -/
structure Upload where
  fileBuffer : Buffer
  originalName : String
  mimeType : String
  uploaderUserId : Uuid
  fileCategory : FileCategory := .photo

/-- A failure of the normalizer, as this service throws it. -/
def Failure.ofNormalizer : ImageNormalizerService.Failure → Failure
  | .http exception => .http exception
  | .sharp message => .sharp message

/-- `logger.error`. -/
def logError (entry : LogEntry) : Statement storage Unit where
  locks _ _ := []
  exec _ _ := .ok ((), [.logError entry])

/-- A pipeline, which may have to wait for a slot for too long. -/
def runPipeline (request : ImageNormalizerService.Request) :
    Statement storage NormalizedResult where
  locks _ _ := []
  exec input _ :=
    if input.timedOut then .error (.ofNormalizer ImageNormalizerService.Limiter.processingTimeout)
    else
      match request.body input.sharp with
      | .ok normalized => .ok (normalized, [])
      | .error failure => .error (.ofNormalizer failure)

/-- Object keys are unique. Other reasons to refuse a row are failures from outside. -/
def Prisma.FileRecord.create (saved : SavedFileResult) (mediaType : String) (uploadedBy : Uuid) :
    Statement storage FileRecord where
  locks _ _ := []
  exec input state :=
    let row : FileRecord :=
      { id := input.rowId, objectKey := saved.objectKey, mediaType, sizeBytes := saved.sizeBytes
        checksumSha256 := saved.checksumSha256, uploadedBy, createdAt := input.now }
    match input.fault with
    | some error => .error (.prisma error)
    | none =>
        if state.fileRecords.find? row.id = none ∧
            ∀ other ∈ state.fileRecords.rows, other.objectKey ≠ row.objectKey then
          .ok (row, [.createFileRecord row])
        else .error (.prisma (.knownRequest .uniqueConstraint))

namespace FileStorageService

/-- An answer with the status 422. -/
def unprocessable (code message : String) : Failure :=
  .http ⟨.unprocessableEntity, code, message, none⟩

/-- The first bytes of a file have to be those of its format. -/
def checkMagicBytes (magic : List UInt8) (format : String) (buffer : Buffer) :
    Except Failure Unit :=
  if magic.isPrefixOf buffer then .ok ()
  else .error (unprocessable "INVALID_FILE_MAGIC_BYTES"
    s!"File magic bytes do not match declared {format} format")

section

variable [LetterCase]

/-- `validateMagicBytesAndType`: the first bytes fit the type declared. -/
def validateMagicBytesAndType (buffer : Buffer) (mimeType : String) : Except Failure Unit :=
  if buffer = [] then
    .error (.http ⟨.badRequest, "EMPTY_FILE_BUFFER", "File buffer cannot be empty", none⟩)
  else
    let mime := LetterCase.toLowerCase mimeType
    if mime = "image/jpeg" ∨ mime = "image/jpg" then
      checkMagicBytes [0xff, 0xd8, 0xff] "JPEG" buffer
    else if mime = "image/png" then checkMagicBytes [0x89, 0x50, 0x4e, 0x47] "PNG" buffer
    else if mime = "image/webp" then checkMagicBytes [0x52, 0x49, 0x46, 0x46] "WebP" buffer
    else .error (unprocessable "UNSUPPORTED_MEDIA_TYPE" (s!"Media type {mimeType} is not " ++
      "supported for POD uploads. Allowed: image/jpeg, image/png, image/webp"))

end

/-- The limit of a kind. -/
def maxSize : FileCategory → Nat
  | .photo => 5 * 1024 * 1024
  | .signature => 500 * 1024

/-- The pipeline of a category. -/
def request (upload : Upload) : ImageNormalizerService.Request :=
  match upload.fileCategory with
  | .signature => .signature upload.fileBuffer upload.mimeType
  | .photo => .podPhoto upload.fileBuffer upload.mimeType

variable [LetterCase] [WorkingDirectory] [Sha256]

/-- The row of a saved file; if it cannot be inserted, the file is deleted. -/
def createRecord (saved : SavedFileResult) (finalMime : String) (uploaderUserId : Uuid) :
    Proc storage FileRecord :=
  tryCatch (liftM (Prisma.FileRecord.create saved finalMime uploaderUserId)) fun dbError => do
    logError (.createFailed saved.objectKey)
    tryCatch (discard (LocalPrivateStorageAdapter.deleteFile saved.objectKey)) fun _ =>
      liftM (logError (.compensationFailed saved.objectKey))
    throw dbError

/-- `saveFileRecord`: the checks, the normalizer, the file, then its row. -/
def saveFileRecord (upload : Upload) : Proc storage FileRecord := do
  Proc.ofExcept (validateMagicBytesAndType upload.fileBuffer upload.mimeType)
  let maxSize := maxSize upload.fileCategory
  Proc.rejectIf (maxSize < upload.fileBuffer.length)
    (unprocessable "FILE_SIZE_EXCEEDED" (s!"File size {upload.fileBuffer.length} bytes exceeds " ++
      s!"allowed cap of {maxSize} bytes"))
  let normalized ← runPipeline (request upload)
  let saved ← LocalPrivateStorageAdapter.saveFile normalized.buffer upload.originalName
    normalized.mimeType
  createRecord saved normalized.mimeType upload.uploaderUserId

/-! ## What the calls do -/

variable {supplied : Input → Prop} {before after : Storage}

omit [LetterCase] [WorkingDirectory] [Sha256] in
/-- Logging an error only logs it. -/
theorem logError_ends {entry : LogEntry} {result : Except Failure Unit}
    (runs : (liftM (logError entry) : Proc storage Unit).Runs supplied before result after) :
    result = .ok () ∧ after = before.log entry := by
  rcases Proc.runs_lift.mp runs with
    ⟨input, value, writes, _, succeeded, rfl, rfl⟩ | ⟨input, error, _, failed, _⟩
  · cases succeeded
    exact ⟨rfl, rfl⟩
  · cases failed

omit [LetterCase] [WorkingDirectory] [Sha256] in
/-- A row that is inserted describes the saved file. -/
theorem create_succeeds {saved : SavedFileResult} {mediaType : String} {uploadedBy : Uuid}
    {input : Input} {row : FileRecord} {writes : List Write}
    (succeeded : (Prisma.FileRecord.create saved mediaType uploadedBy).Succeeds input before row
      writes) :
    (row.objectKey = saved.objectKey ∧ row.sizeBytes = saved.sizeBytes ∧
      row.checksumSha256 = saved.checksumSha256) ∧
      before.fileRecords.find? row.id = none ∧ writes = [.createFileRecord row] := by
  simp only [Prisma.FileRecord.create, Statement.Succeeds] at succeeded
  split at succeeded
  · cases succeeded
  · split at succeeded
    · rename_i unique
      cases succeeded
      exact ⟨⟨rfl, rfl, rfl⟩, unique.1, rfl⟩
    · cases succeeded

section Records

variable {saved : SavedFileResult} {finalMime : String} {uploaderUserId : Uuid}

omit [LetterCase] [Sha256] in
/-- What the deletion of a file leaves. -/
theorem compensate_ends {objectKey : String} {result : Except Failure Unit}
    (runs : (tryCatch (discard (LocalPrivateStorageAdapter.deleteFile objectKey)) fun _ =>
      liftM (logError (.compensationFailed objectKey)) : Proc storage Unit).Runs supplied before
        result after) :
    result = .ok () ∧
      (after = before.setFile (LocalPrivateStorageAdapter.fullPath objectKey) none ∨
        after = before.log (.compensationFailed objectKey)) := by
  rcases Proc.runs_tryCatch.mp runs with ⟨_, deleted, rfl⟩ | ⟨error, _, failed, logged⟩
  · obtain ⟨_, returned, _⟩ := Proc.returns_map.mp deleted
    exact ⟨rfl, .inl (LocalPrivateStorageAdapter.deleteFile_returns returned)⟩
  · have same := LocalPrivateStorageAdapter.deleteFile_throws (Proc.throws_map.mp failed)
    obtain ⟨rfl, left⟩ := logError_ends logged
    exact ⟨rfl, .inr (same ▸ left)⟩

omit [LetterCase] [Sha256] in
/-- A row that was inserted describes the file that was saved. -/
theorem createRecord_returns {row : FileRecord}
    (returned : (createRecord saved finalMime uploaderUserId).Returns supplied before row after) :
    (row.objectKey = saved.objectKey ∧ row.sizeBytes = saved.sizeBytes ∧
      row.checksumSha256 = saved.checksumSha256) ∧
      before.fileRecords.find? row.id = none ∧
      after = { before with fileRecords := before.fileRecords.insert row } := by
  rcases Proc.returns_tryCatch.mp returned with created | ⟨error, _, _, handled⟩
  · obtain ⟨_, _, _, succeeded, rfl⟩ := Proc.returns_lift.mp created
    obtain ⟨describes, fresh, rfl⟩ := create_succeeds succeeded
    exact ⟨describes, fresh, rfl⟩
  · obtain ⟨_, _, _, afterLog⟩ := Proc.returns_bind.mp handled
    obtain ⟨_, _, _, rethrown⟩ := Proc.returns_bind.mp afterLog
    exact absurd rethrown Proc.returns_throw

omit [LetterCase] [Sha256] in
/-- Without a row there is no file, unless the deletion has failed. -/
theorem createRecord_throws {error : Failure}
    (thrown : (createRecord saved finalMime uploaderUserId).Throws supplied before error after) :
    after = (before.log (.createFailed saved.objectKey)).setFile
        (LocalPrivateStorageAdapter.fullPath saved.objectKey) none ∨
      after = (before.log (.createFailed saved.objectKey)).log
        (.compensationFailed saved.objectKey) := by
  obtain ⟨_, _, failed, handled⟩ := Proc.throws_tryCatch.mp thrown
  obtain rfl := after_throws failed
  rcases Proc.throws_bind.mp handled with failed | ⟨_, _, logged, afterLog⟩
  · cases (logError_ends failed).1
  obtain ⟨_, rfl⟩ := logError_ends logged
  rcases Proc.throws_bind.mp afterLog with failed | ⟨_, _, compensated, rethrown⟩
  · cases (compensate_ends failed).1
  obtain ⟨_, left⟩ := compensate_ends compensated
  obtain ⟨_, rfl⟩ := Proc.throws_throw.mp rethrown
  exact left

end Records

open LocalPrivateStorageAdapter (UuidFormat fileNames location objectKey)

variable {upload : Upload} {fileUuid : String}

omit [LetterCase] [WorkingDirectory] [Sha256] in
/-- The normalizer touches no file. -/
theorem runPipeline_returns {asked : ImageNormalizerService.Request} {normalized : NormalizedResult}
    (returned : (liftM (runPipeline asked) : Proc storage _).Returns supplied before normalized
      after) : after = before := by
  obtain ⟨input, writes, _, succeeded, rfl⟩ := Proc.returns_lift.mp returned
  simp only [runPipeline, Statement.Succeeds] at succeeded
  split at succeeded
  · cases succeeded
  · split at succeeded
    · cases succeeded
      rfl
    · cases succeeded

/-- A call that returns has stored a file, under a name of its own, and a row that describes
it. -/
theorem saveFileRecord_returns (named : ∀ input, supplied input → input.fileUuid = fileUuid)
    (format : UuidFormat fileUuid) {row : FileRecord}
    (returned : (saveFileRecord upload).Returns supplied before row after) :
    ∃ year month rest buffer,
      (∀ name ∈ fileNames year month (fileUuid ++ rest), Node.Path.Plain name) ∧
      (row.objectKey = objectKey year month (fileUuid ++ rest) ∧ row.sizeBytes = buffer.length ∧
        row.checksumSha256 = Sha256.digest buffer) ∧
      before.fileRecords.find? row.id = none ∧
      after = { before.setFile (location year month (fileUuid ++ rest)) (some buffer) with
        fileRecords := before.fileRecords.insert row } := by
  obtain ⟨_, _, checked, afterCheck⟩ := Proc.returns_bind.mp returned
  obtain ⟨_, rfl⟩ := Proc.returns_ofExcept.mp checked
  obtain ⟨_, _, sized, afterSize⟩ := Proc.returns_bind.mp afterCheck
  obtain ⟨_, rfl⟩ := Proc.returns_rejectIf.mp sized
  obtain ⟨normalized, _, piped, afterPipeline⟩ := Proc.returns_bind.mp afterSize
  obtain rfl := runPipeline_returns piped
  obtain ⟨saved, _, wrote, created⟩ := Proc.returns_bind.mp afterPipeline
  obtain ⟨year, month, rest, plain, rfl, rfl⟩ :=
    LocalPrivateStorageAdapter.saveFile_returns named format wrote
  obtain ⟨describes, fresh, stored⟩ := createRecord_returns created
  rw [Storage.setFile_fileRecords] at fresh stored
  exact ⟨year, month, rest, normalized.buffer, plain, describes, fresh, stored⟩

/-- What a call that throws leaves: nothing, an entry of the log, or a file whose deletion has
failed. -/
theorem saveFileRecord_throws (named : ∀ input, supplied input → input.fileUuid = fileUuid)
    (format : UuidFormat fileUuid) {error : Failure}
    (thrown : (saveFileRecord upload).Throws supplied before error after) :
    after = before ∨ ∃ year month rest buffer,
      (∀ name ∈ fileNames year month (fileUuid ++ rest), Node.Path.Plain name) ∧
      (after = ((before.setFile (location year month (fileUuid ++ rest)) (some buffer)).log
          (.createFailed (objectKey year month (fileUuid ++ rest)))).setFile
            (location year month (fileUuid ++ rest)) none ∨
        after = ((before.setFile (location year month (fileUuid ++ rest)) (some buffer)).log
          (.createFailed (objectKey year month (fileUuid ++ rest)))).log
            (.compensationFailed (objectKey year month (fileUuid ++ rest)))) := by
  rcases Proc.throws_bind.mp thrown with failed | ⟨_, _, checked, afterCheck⟩
  · exact .inl (Proc.runs_ofExcept.mp failed).2
  obtain ⟨_, rfl⟩ := Proc.returns_ofExcept.mp checked
  rcases Proc.throws_bind.mp afterCheck with failed | ⟨_, _, sized, afterSize⟩
  · exact .inl (Proc.throws_rejectIf.mp failed).2.2
  obtain ⟨_, rfl⟩ := Proc.returns_rejectIf.mp sized
  rcases Proc.throws_bind.mp afterSize with failed | ⟨normalized, _, piped, afterPipeline⟩
  · exact .inl (after_throws failed)
  obtain rfl := runPipeline_returns piped
  rcases Proc.throws_bind.mp afterPipeline with failed | ⟨saved, _, wrote, created⟩
  · exact .inl (LocalPrivateStorageAdapter.saveFile_throws failed)
  obtain ⟨year, month, rest, plain, rfl, rfl⟩ :=
    LocalPrivateStorageAdapter.saveFile_returns named format wrote
  have place := LocalPrivateStorageAdapter.fullPath_of_names plain
  have left := createRecord_throws created
  rw [place] at left
  exact .inr ⟨year, month, rest, normalized.buffer, plain, left⟩

end FileStorageService

end Armada.Pod
