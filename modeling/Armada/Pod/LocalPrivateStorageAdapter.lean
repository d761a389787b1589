import Mathlib.Logic.Function.Basic
import Armada.Common.Text
import Armada.Concurrency.Sequential
import Armada.Node.Path
import Armada.Pod.ImageNormalizerService

/-!
# LocalPrivateStorageAdapter

`src/modules/pod/adapters/local-private-storage.adapter.ts`, on a store of two parts: the files
under their paths, and the rows of `files`. A path that is written is built from the directory
of the month; a path that is read is built from the object key of a row.
-/

namespace Armada.Pod

open Common Concurrency Node Relational

/-! ## The store -/

/-- A row of `files`. -/
structure FileRecord where
  id : Uuid
  objectKey : String
  mediaType : String
  sizeBytes : Nat
  checksumSha256 : String
  uploadedBy : Uuid
  createdAt : Instant
  deriving DecidableEq

instance : Keyed FileRecord Uuid := ⟨FileRecord.id⟩

/-- What the service logs as an error. -/
inductive LogEntry where
  /-- `Failed to create FileRecord .., executing compensating file deletion`. -/
  | createFailed (objectKey : String)
  /-- `Critical storage compensation failure: Could not delete orphaned physical file ..`. -/
  | compensationFailed (objectKey : String)
  deriving DecidableEq

/-- Directories are not kept. -/
structure Storage where
  files : String → Option Buffer := fun _ => none
  fileRecords : Table FileRecord := .empty
  errorLog : List LogEntry := []

namespace Storage

/-- The storage with a content at a path, or with none. -/
def setFile (state : Storage) (path : String) (content : Option Buffer) : Storage :=
  { state with files := Function.update state.files path content }

/-- The storage with one more entry of the log. -/
def log (state : Storage) (entry : LogEntry) : Storage :=
  { state with errorLog := state.errorLog ++ [entry] }

variable {state : Storage} {path other : String} {content : Option Buffer} {entry : LogEntry}

/-- Logging touches no file. -/
@[simp] theorem log_files : (state.log entry).files = state.files := rfl

/-- Nor a row. -/
@[simp] theorem log_fileRecords : (state.log entry).fileRecords = state.fileRecords := rfl

/-- It adds the entry. -/
@[simp] theorem log_errorLog : (state.log entry).errorLog = state.errorLog ++ [entry] := rfl

/-- The file that was set is there. -/
@[simp] theorem setFile_files_self : (state.setFile path content).files path = content :=
  Function.update_self ..

/-- No other file is touched. -/
@[simp] theorem setFile_files_of_ne (different : other ≠ path) :
    (state.setFile path content).files other = state.files other :=
  Function.update_of_ne different ..

/-- Nor a row. -/
@[simp] theorem setFile_fileRecords :
    (state.setFile path content).fileRecords = state.fileRecords := rfl

/-- Nor the log. -/
@[simp] theorem setFile_errorLog : (state.setFile path content).errorLog = state.errorLog := rfl

/-- Setting what is there already changes nothing. -/
theorem setFile_of_eq (same : state.files path = content) : state.setFile path content = state := by
  subst same
  rw [setFile, Function.update_eq_self]

/-- A file that is written where there was none, and then deleted, leaves the files. -/
theorem setFile_setFile_none (absent : state.files path = none) :
    (((state.setFile path content).log entry).setFile path none).files = state.files := by
  change Function.update (Function.update state.files path content) path none = state.files
  rw [Function.update_idem, ← absent, Function.update_eq_self]

end Storage

/-- What a statement may change. -/
inductive Write where
  | writeFile (path : String) (buffer : Buffer)
  | unlink (path : String)
  | createFileRecord (row : FileRecord)
  | logError (entry : LogEntry)

/-- The storage after one write. -/
def Write.apply : Write → Storage → Storage
  | .writeFile path buffer, state => state.setFile path (some buffer)
  | .unlink path, state => state.setFile path none
  | .createFileRecord row, state => { state with fileRecords := state.fileRecords.insert row }
  | .logError entry, state => state.log entry

/-- How an operation may fail. -/
inductive Failure where
  | http (exception : HttpException)
  | sharp (message : String)
  | fs (code : String)
  | prisma (error : PrismaError)
  deriving DecidableEq

/-- What the environment supplies to one call: a generated UUID and that of a row, the clock,
what sharp answers, whether the queue for it times out, and the failure of a call on the file
system or the database. -/
structure Input where
  fileUuid : String := ""
  rowId : Uuid := 0
  utcFullYear : Nat := 1970
  utcMonth : Nat := 0
  now : Instant := 0
  sharp : Sharp
  timedOut : Bool := false
  fsError : Option String := none
  fault : Option PrismaError := none

/-- The storage as a signature of statements. -/
abbrev storage : Signature where
  State := Storage
  Write := Write
  Input := Input
  Lock := Empty
  Error := Failure
  apply := Write.apply
  clash lock _ := lock.elim
  fault input := input.fault.map Failure.prisma

/-! ## The file system -/

namespace Fs

/-- A call that may fail, and else does what `body` says. -/
def operation {β : Type} (body : Storage → Except Failure (β × List Write)) :
    Statement storage β where
  locks _ _ := []
  exec input state :=
    match input.fsError with
    | some code => .error (.fs code)
    | none => body state

/-- `mkdirSync`, if the directory is not there. -/
def ensureDir (_path : String) : Statement storage Unit := operation fun _ => .ok ((), [])

/-- A file is written as a whole. -/
def writeFile (path : String) (buffer : Buffer) : Statement storage Unit :=
  operation fun _ => .ok ((), [.writeFile path buffer])

/-- `existsSync`, which does not throw. -/
def existsSync (path : String) : Statement storage Bool where
  locks _ _ := []
  exec _ state := .ok ((state.files path).isSome, [])

/-- Read a file. -/
def readFile (path : String) : Statement storage Buffer :=
  operation fun state =>
    match state.files path with
    | some buffer => .ok (buffer, [])
    | none => .error (.fs "ENOENT")

/-- Delete a file. -/
def unlink (path : String) : Statement storage Unit :=
  operation fun state =>
    if (state.files path).isSome then .ok ((), [.unlink path]) else .error (.fs "ENOENT")

end Fs

/-- `uuidv4()`. -/
def uuidv4 : Statement storage String where
  locks _ _ := []
  exec input _ := .ok (input.fileUuid, [])

/-- The year and the month of `new Date()`. -/
def utcDate : Statement storage (Nat × Nat) where
  locks _ _ := []
  exec input _ := .ok ((input.utcFullYear, input.utcMonth), [])

/-- SHA-256, in hexadecimal digits. -/
class Sha256 where
  digest : Buffer → String

/-- `process.cwd()`, which is absolute. -/
class WorkingDirectory where
  cwd : String
  absolute : Path.isAbsolute cwd.toList = true

/-- What saving a file answers. -/
structure SavedFileResult where
  objectKey : String
  sizeBytes : Nat
  checksumSha256 : String
  deriving DecidableEq

/-! ## The adapter -/

namespace LocalPrivateStorageAdapter

section Paths

variable [WorkingDirectory]

/-- The directory of the files. -/
def baseStorageDir : String :=
  Path.resolve WorkingDirectory.cwd [WorkingDirectory.cwd, "storage", "private", "pod"]

/-- The directory of a month. -/
def targetDir (year month : String) : String := Path.join [baseStorageDir, year, month]

/-- The path that an object key is read and deleted at. -/
def fullPath (objectKey : String) : String := Path.join [baseStorageDir, "..", objectKey]

end Paths

/-- The year of a time, as text. -/
def yearText (utcFullYear : Nat) : String := toString utcFullYear

/-- The month of a time, in two digits. -/
def monthText (utcMonth : Nat) : String := padStart (toString (utcMonth + 1)) 2 '0'

/-- The key of a file: year, month, name. -/
def objectKey (year month filename : String) : String :=
  "pod/" ++ year ++ "/" ++ month ++ "/" ++ filename

section

variable [LetterCase]

/-- The extension that a type calls for. -/
def getExtensionFromMime (mime : String) : String :=
  let mime := LetterCase.toLowerCase mime
  if mime = "image/jpeg" ∨ mime = "image/jpg" then ".jpg"
  else if mime = "image/png" then ".png"
  else if mime = "image/webp" then ".webp"
  else ""

/-- The extension of a new file. -/
def extension (originalFilename mimeType : String) : String :=
  orText (orText (getExtensionFromMime mimeType) (Path.extname originalFilename)) ".bin"

variable [WorkingDirectory] [Sha256]

/-- `saveFile`: a fresh name in the directory of the month. -/
def saveFile (buffer : Buffer) (originalFilename mimeType : String) :
    Proc storage SavedFileResult := do
  let ext := extension originalFilename mimeType
  let (utcFullYear, utcMonth) ← utcDate
  let year := yearText utcFullYear
  let month := monthText utcMonth
  Fs.ensureDir (targetDir year month)
  let fileUuid ← uuidv4
  let filename := fileUuid ++ ext
  Fs.writeFile (Path.join [targetDir year month, filename]) buffer
  return ⟨objectKey year month filename, buffer.length, Sha256.digest buffer⟩

omit [LetterCase] [Sha256] in
/-- `getFileBuffer`. -/
def getFileBuffer (objectKey : String) : Proc storage Buffer := do
  let found ← Fs.existsSync (fullPath objectKey)
  Proc.rejectIf (found = false)
    (.http ⟨.notFound, "FILE_NOT_FOUND", s!"File with key {objectKey} not found in storage", none⟩)
  Fs.readFile (fullPath objectKey)

/-- `deleteFile`. -/
def deleteFile (objectKey : String) : Proc storage Bool := do
  let found ← Fs.existsSync (fullPath objectKey)
  if found then
    Fs.unlink (fullPath objectKey)
    return true
  else return false

end

end LocalPrivateStorageAdapter

/-! ## Where files are written and read -/

namespace LocalPrivateStorageAdapter

section Locations

variable [WorkingDirectory]

open Node.Path (Plain absolutePath normalizeSegments)

/-- The segments of the working directory. -/
def rootSegments : List Path.Segment :=
  normalizeSegments false [] (WorkingDirectory.cwd.toList.splitOn '/')

/-- The names from the storage directory to a file. -/
def fileNames (year month filename : String) : List Path.Segment :=
  ["pod".toList, year.toList, month.toList, filename.toList]

/-- The path of a file in the directory of a month, by its segments. -/
def location (year month filename : String) : String :=
  .ofList (absolutePath
    (rootSegments ++ ["storage".toList, "private".toList] ++ fileNames year month filename))

/-- The directories of the storage are plain segments. -/
theorem storage_plain :
    ∀ segment ∈ rootSegments ++ ["storage".toList, "private".toList], Plain segment := by
  have root : ∀ segment ∈ rootSegments, Plain segment :=
    Path.plain_normalizeSegments nofun Path.not_mem_of_mem_splitOn
  have names : ∀ segment ∈ ["storage".toList, "private".toList], Plain segment := by
    simp only [List.forall_mem_cons]
    exact ⟨⟨by decide, by decide, by decide, by decide⟩,
      ⟨by decide, by decide, by decide, by decide⟩, nofun⟩
  exact List.forall_mem_append.mpr ⟨root, names⟩

omit [WorkingDirectory] in
/-- So is the last of them. -/
theorem pod_plain : Plain "pod".toList := ⟨by decide, by decide, by decide, by decide⟩

/-- So are all of them. -/
theorem base_plain :
    ∀ segment ∈ rootSegments ++ ["storage".toList, "private".toList] ++ ["pod".toList],
      Plain segment :=
  List.forall_mem_append.mpr ⟨storage_plain, List.forall_mem_singleton.mpr pod_plain⟩

/-- The directory is made of them. -/
theorem baseStorageDir_eq :
    baseStorageDir = .ofList (absolutePath
      (rootSegments ++ ["storage".toList, "private".toList] ++ ["pod".toList])) := by
  have names : ∀ name ∈ ["storage".toList, "private".toList, "pod".toList], Plain name :=
    fun name member => base_plain name (by simp_all)
  rw [baseStorageDir, Path.resolve, List.append_assoc]
  exact congrArg String.ofList (Path.resolveChars_absolute WorkingDirectory.absolute names)

variable {year month filename : String}

omit [WorkingDirectory] in
/-- The names in a key are plain. -/
theorem fileNames_plain (yearPlain : Plain year.toList) (monthPlain : Plain month.toList)
    (filenamePlain : Plain filename.toList) :
    ∀ name ∈ fileNames year month filename, Plain name := by
  simp only [fileNames, List.forall_mem_cons]
  exact ⟨pod_plain, yearPlain, monthPlain, filenamePlain, nofun⟩

/-- A file is written at its location. -/
theorem join_targetDir (yearPlain : Plain year.toList) (monthPlain : Plain month.toList)
    (filenamePlain : Plain filename.toList) :
    Path.join [targetDir year month, filename] = location year month filename := by
  have below : ∀ name ∈ [year.toList, month.toList], Plain name := by
    simp [yearPlain, monthPlain]
  have directory : targetDir year month = .ofList (absolutePath
      (rootSegments ++ ["storage".toList, "private".toList] ++ ["pod".toList] ++
        [year.toList, month.toList])) := by
    rw [targetDir, Path.join, baseStorageDir_eq, List.map_cons, String.toList_ofList,
      List.map_cons, List.map_singleton, Path.joinChars_plain base_plain (by simp) below (by simp)]
  have file : ∀ name ∈ [filename.toList], Plain name := by simpa using filenamePlain
  rw [Path.join, directory, List.map_cons, String.toList_ofList, List.map_singleton,
    Path.joinChars_plain (List.forall_mem_append.mpr ⟨base_plain, below⟩) (by simp) file (by simp)]
  simp [location, fileNames]

/-- A file is read and deleted at its location. -/
theorem fullPath_objectKey (yearPlain : Plain year.toList) (monthPlain : Plain month.toList)
    (filenamePlain : Plain filename.toList) :
    fullPath (objectKey year month filename) = location year month filename := by
  have key : (objectKey year month filename).toList =
      ['/'].intercalate (fileNames year month filename) := by
    simp [objectKey, fileNames]
  have names := fileNames_plain yearPlain monthPlain filenamePlain
  rw [fullPath, Path.join, baseStorageDir_eq]
  simp only [List.map_cons, List.map_nil, String.toList_ofList, key]
  exact congrArg String.ofList (Path.joinChars_dots base_plain names (by simp [fileNames]))

/-- So the path of a key is its location below the directory. -/
theorem fullPath_of_names (plain : ∀ name ∈ fileNames year month filename, Plain name) :
    fullPath (objectKey year month filename) = location year month filename :=
  fullPath_objectKey (plain _ (by simp [fileNames])) (plain _ (by simp [fileNames]))
    (plain _ (by simp [fileNames]))

/-- Files with different names have different locations. -/
theorem filename_of_location {otherYear otherMonth otherName : String}
    (plain : ∀ name ∈ fileNames year month filename, Plain name)
    (otherPlain : ∀ name ∈ fileNames otherYear otherMonth otherName, Plain name)
    (same : location year month filename = location otherYear otherMonth otherName) :
    filename = otherName := by
  have segments := Path.absolutePath_injective
    (List.forall_mem_append.mpr ⟨storage_plain, plain⟩) (by simp [fileNames])
    (List.forall_mem_append.mpr ⟨storage_plain, otherPlain⟩) (by simp [fileNames])
    (String.ofList_injective same)
  have names := List.append_cancel_left segments
  simp only [fileNames, List.cons.injEq, and_true] at names
  exact String.toList_injective names.2.2.2

/-! ### Names of files -/

/-- The text of a UUID: 36 hexadecimal digits and hyphens. -/
def UuidFormat (text : String) : Prop :=
  text.toList.length = 36 ∧ ∀ char ∈ text.toList, char ∈ "0123456789abcdef-".toList

instance (text : String) : Decidable (UuidFormat text) := inferInstanceAs (Decidable (_ ∧ _))

omit [WorkingDirectory]

/-- Digits are plain. -/
theorem digits_plain {segment : Path.Segment} (nonempty : segment ≠ [])
    (digits : ∀ char ∈ segment, char.isDigit = true) : Plain segment := by
  obtain ⟨first, rest, rfl⟩ := List.exists_cons_of_ne_nil nonempty
  have firstDigit := digits first List.mem_cons_self
  refine Path.plain_of_mem List.mem_cons_self (fun dot => ?_) fun slash => ?_
  · rw [dot] at firstDigit
    exact absurd firstDigit (by decide)
  · exact absurd (digits '/' slash) (by decide)

/-- A year is plain. -/
theorem yearText_plain (utcFullYear : Nat) : Plain (yearText utcFullYear).toList :=
  digits_plain (toString_ne_empty utcFullYear) fun _ => mem_toString

/-- A month is plain. -/
theorem monthText_plain (utcMonth : Nat) : Plain (monthText utcMonth).toList := by
  refine digits_plain ?_ fun char member => ?_
  · rw [monthText, padStart, String.toList_ofList, List.leftpad]
    simp
  · rcases mem_padStart member with rfl | inside
    · decide
    · exact mem_toString inside

/-- An extension has no slash. -/
theorem not_mem_extension [LetterCase] (originalFilename mimeType : String) :
    '/' ∉ (extension originalFilename mimeType).toList := by
  have known : '/' ∉ (getExtensionFromMime mimeType).toList := by
    rw [getExtensionFromMime]
    split
    · decide
    · split
      · decide
      · split <;> decide
  rw [extension]
  rcases orText_cases (orText (getExtensionFromMime mimeType) (Path.extname originalFilename))
    ".bin" with outer | outer
  · rw [outer]
    rcases orText_cases (getExtensionFromMime mimeType) (Path.extname originalFilename) with
      inner | inner
    · rwa [inner]
    · rw [inner]
      exact Path.not_mem_extname
  · rw [outer]
    decide

/-- A file name is plain. -/
theorem filename_plain [LetterCase] {fileUuid : String} (format : UuidFormat fileUuid)
    (originalFilename mimeType : String) :
    Plain (fileUuid ++ extension originalFilename mimeType).toList := by
  obtain ⟨length, chars⟩ := format
  have noSlash : '/' ∉ (fileUuid ++ extension originalFilename mimeType).toList := by
    rw [String.toList_append, List.mem_append, not_or]
    exact ⟨fun slash => absurd (chars '/' slash) (by decide), not_mem_extension _ _⟩
  cases uuid : fileUuid.toList with
  | nil => simp [uuid] at length
  | cons first rest =>
      have firstChar := chars first (uuid ▸ List.mem_cons_self)
      have member : first ∈ (fileUuid ++ extension originalFilename mimeType).toList := by
        rw [String.toList_append, uuid]
        exact List.mem_append_left _ List.mem_cons_self
      refine Path.plain_of_mem member (fun dot => ?_) noSlash
      rw [dot] at firstChar
      exact absurd firstChar (by decide)

/-- Names that begin with different UUIDs are different. -/
theorem fileUuid_of_filename {first second rest others : String} (firstFormat : UuidFormat first)
    (secondFormat : UuidFormat second) (same : first ++ rest = second ++ others) :
    first = second := by
  have chars := congrArg String.toList same
  rw [String.toList_append, String.toList_append] at chars
  exact String.toList_injective
    (List.append_inj chars (firstFormat.1.trans secondFormat.1.symm)).1

end Locations

end LocalPrivateStorageAdapter

/-! ## What the calls do -/

section Runs

variable {supplied : Input → Prop} {before after : Storage}

/-- An operation succeeds if no fault comes and its body does. -/
theorem operation_succeeds {β : Type} {body : Storage → Except Failure (β × List Write)}
    {input : Input} {value : β} {writes : List Write} :
    (Fs.operation body).Succeeds input before value writes ↔
      input.fsError = none ∧ body before = .ok (value, writes) := by
  simp only [Fs.operation, Statement.Succeeds]
  cases input.fsError with
  | none => simp
  | some code => simp

/-- The file system answers a call. -/
def Answers (input : Input) : Prop := input.fsError = none

/-- There are inputs that answer. -/
theorem answers_exists : ∃ input, Answers input :=
  ⟨{ sharp := ⟨fun _ => .ok (), fun _ => .ok {}, fun _ => .ok []⟩ }, rfl⟩

/-- A call that fails leaves the storage. -/
theorem after_throws {β : Type} {statement : Statement storage β} {error : Failure}
    (failed : (liftM statement : Proc storage β).Throws supplied before error after) :
    after = before := by
  obtain ⟨_, _, _, rfl⟩ := Proc.throws_lift.mp failed
  rfl

/-- Asking for a file changes nothing. -/
theorem existsSync_returns {path : String} {found : Bool}
    (returned : (liftM (Fs.existsSync path) : Proc storage Bool).Returns supplied before found
      after) : found = (before.files path).isSome ∧ after = before := by
  obtain ⟨input, writes, _, succeeded, rfl⟩ := Proc.returns_lift.mp returned
  cases succeeded
  exact ⟨rfl, rfl⟩

/-- Making a directory changes no file. -/
theorem ensureDir_returns {path : String} {answer : Unit}
    (returned : (liftM (Fs.ensureDir path) : Proc storage Unit).Returns supplied before answer
      after) : after = before := by
  obtain ⟨input, writes, _, succeeded, rfl⟩ := Proc.returns_lift.mp returned
  cases (operation_succeeds.mp succeeded).2
  rfl

/-- Writing sets one file. -/
theorem writeFile_returns {path : String} {buffer : Buffer} {answer : Unit}
    (returned : (liftM (Fs.writeFile path buffer) : Proc storage Unit).Returns supplied before
      answer after) : after = before.setFile path (some buffer) := by
  obtain ⟨input, writes, _, succeeded, rfl⟩ := Proc.returns_lift.mp returned
  cases (operation_succeeds.mp succeeded).2
  rfl

/-- Deleting removes one file. -/
theorem unlink_returns {path : String} {answer : Unit}
    (returned : (liftM (Fs.unlink path) : Proc storage Unit).Returns supplied before answer
      after) : after = before.setFile path none := by
  obtain ⟨input, writes, _, succeeded, rfl⟩ := Proc.returns_lift.mp returned
  have body := (operation_succeeds.mp succeeded).2
  split at body
  · cases body
    rfl
  · cases body

namespace LocalPrivateStorageAdapter

variable [WorkingDirectory]

section Saving

variable [LetterCase] [Sha256] {buffer : Buffer} {originalFilename mimeType : String}

/-- A file is saved under a name that begins with the new UUID. -/
theorem saveFile_returns {fileUuid : String}
    (named : ∀ input, supplied input → input.fileUuid = fileUuid) (format : UuidFormat fileUuid)
    {saved : SavedFileResult}
    (returned : (saveFile buffer originalFilename mimeType).Returns supplied before saved after) :
    ∃ year month rest, (∀ name ∈ fileNames year month (fileUuid ++ rest), Path.Plain name) ∧
      saved = ⟨objectKey year month (fileUuid ++ rest), buffer.length, Sha256.digest buffer⟩ ∧
      after = before.setFile (location year month (fileUuid ++ rest)) (some buffer) := by
  obtain ⟨⟨utcFullYear, utcMonth⟩, _, dated, afterDate⟩ := Proc.returns_bind.mp returned
  obtain ⟨clock, _, _, succeeded, rfl⟩ := Proc.returns_lift.mp dated
  cases succeeded
  obtain ⟨_, _, ensured, afterDirectory⟩ := Proc.returns_bind.mp afterDate
  obtain rfl := ensureDir_returns ensured
  obtain ⟨_, _, generated, afterUuid⟩ := Proc.returns_bind.mp afterDirectory
  obtain ⟨input, _, given, succeeded, rfl⟩ := Proc.returns_lift.mp generated
  cases succeeded
  obtain ⟨_, _, written, afterWrite⟩ := Proc.returns_bind.mp afterUuid
  obtain rfl := writeFile_returns written
  obtain ⟨rfl, rfl⟩ := Proc.returns_pure.mp afterWrite
  rw [named input given]
  have yearPlain := yearText_plain clock.utcFullYear
  have monthPlain := monthText_plain clock.utcMonth
  have filenamePlain := filename_plain format originalFilename mimeType
  refine ⟨_, _, _, fileNames_plain yearPlain monthPlain filenamePlain, rfl, ?_⟩
  exact congrArg (fun path => Storage.setFile _ path _)
    (join_targetDir yearPlain monthPlain filenamePlain)

/-- Saving that throws has changed nothing. -/
theorem saveFile_throws {error : Failure}
    (thrown : (saveFile buffer originalFilename mimeType).Throws supplied before error after) :
    after = before := by
  rcases Proc.throws_bind.mp thrown with failed | ⟨date, _, dated, afterDate⟩
  · exact after_throws failed
  obtain ⟨_, _, _, succeeded, rfl⟩ := Proc.returns_lift.mp dated
  cases succeeded
  rcases Proc.throws_bind.mp afterDate with failed | ⟨_, _, ensured, afterDirectory⟩
  · exact after_throws failed
  obtain rfl := ensureDir_returns ensured
  rcases Proc.throws_bind.mp afterDirectory with failed | ⟨_, _, generated, afterUuid⟩
  · exact after_throws failed
  obtain ⟨_, _, _, succeeded, rfl⟩ := Proc.returns_lift.mp generated
  cases succeeded
  rcases Proc.throws_bind.mp afterUuid with failed | ⟨_, _, written, afterWrite⟩
  · exact after_throws failed
  · exact absurd afterWrite Proc.throws_pure

end Saving

/-- Deleting removes the file of the key. -/
theorem deleteFile_returns {objectKey : String} {deleted : Bool}
    (returned : (deleteFile objectKey).Returns supplied before deleted after) :
    after = before.setFile (fullPath objectKey) none := by
  obtain ⟨found, middle, looked, afterLook⟩ := Proc.returns_bind.mp returned
  obtain ⟨rfl, same⟩ := existsSync_returns looked
  rw [same] at afterLook
  cases held : before.files (fullPath objectKey) with
  | none =>
      rw [held] at afterLook
      rw [(Proc.returns_pure.mp afterLook).2, Storage.setFile_of_eq held]
  | some buffer =>
      rw [held] at afterLook
      obtain ⟨_, _, unlinked, afterUnlink⟩ := Proc.returns_bind.mp afterLook
      rw [(Proc.returns_pure.mp afterUnlink).2, unlink_returns unlinked]

/-- Deleting that throws has changed nothing. -/
theorem deleteFile_throws {objectKey : String} {error : Failure}
    (thrown : (deleteFile objectKey).Throws supplied before error after) : after = before := by
  rcases Proc.throws_bind.mp thrown with failed | ⟨found, middle, looked, afterLook⟩
  · exact after_throws failed
  rw [(existsSync_returns looked).2] at afterLook
  split at afterLook
  · rcases Proc.throws_bind.mp afterLook with failed | ⟨_, _, unlinked, afterUnlink⟩
    · exact after_throws failed
    · exact absurd afterUnlink Proc.throws_pure
  · exact absurd afterLook Proc.throws_pure

/-- The content of a file is returned if the file system answers. -/
theorem getFileBuffer_runs {objectKey : String} {buffer : Buffer}
    (held : before.files (fullPath objectKey) = some buffer) {result : Except Failure Buffer} :
    (getFileBuffer objectKey).Runs Answers before result after ↔
      result = .ok buffer ∧ after = before := by
  have looks : ∀ input, Answers input →
      (Fs.existsSync (fullPath objectKey)).Succeeds input before true [] := by
    intro input _
    simp [Fs.existsSync, Statement.Succeeds, held]
  have reads : ∀ input, Answers input →
      (Fs.readFile (fullPath objectKey)).Succeeds input before buffer [] := by
    intro input answers
    exact operation_succeeds.mpr ⟨answers, by rw [held]⟩
  rw [getFileBuffer, Proc.runs_bind_of_only (Proc.runs_lift_of_reads answers_exists looks),
    Proc.rejectIf, if_neg (by simp)]
  exact Proc.runs_lift_of_reads answers_exists reads

end LocalPrivateStorageAdapter

end Runs

end Armada.Pod
