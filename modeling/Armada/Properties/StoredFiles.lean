import Armada.Pod.FileRecords

/-!
# Stored files and their rows

Calls of `saveFileRecord` run one after the other, and every step of each may fail. A call
touches no path but one that begins with its own UUID, so what earlier calls have stored stays,
and each row describes the file at its object key.
-/

namespace Armada.Pod

open Common Concurrency Relational
open LocalPrivateStorageAdapter (UuidFormat fileNames location fullPath getFileBuffer)

/-- A call of `saveFileRecord` with the UUID that is generated for it. -/
structure SaveCall where
  upload : Upload
  fileUuid : String
  before : Storage
  result : Except Failure FileRecord
  after : Storage

/-- The UUID that is generated. -/
def Supplies (fileUuid : String) (input : Input) : Prop := input.fileUuid = fileUuid

section

variable [LetterCase] [WorkingDirectory] [Sha256]

/-- Calls run one after the other, each alone. -/
inductive Saves (start : Storage) : List SaveCall → Storage → Prop where
  | refl : Saves start [] start
  | call {calls : List SaveCall} {call : SaveCall} (prior : Saves start calls call.before)
      (ran : (FileStorageService.saveFileRecord call.upload).Runs
        (Supplies call.fileUuid) call.before call.result call.after) :
      Saves start (calls ++ [call]) call.after

/-! ## Rows and files -/

/-- A row has the size and the checksum of the bytes. -/
def Describes (row : FileRecord) (buffer : Buffer) : Prop :=
  row.sizeBytes = buffer.length ∧ row.checksumSha256 = Sha256.digest buffer

/-- Every row describes a file at its object key, which is what a download returns. -/
def Corresponds (state : Storage) : Prop :=
  ∀ row ∈ state.fileRecords.rows, ∃ buffer, Describes row buffer ∧
    state.files (fullPath row.objectKey) = some buffer ∧
    ∀ result after, (getFileBuffer row.objectKey).Runs Answers state result after ↔
      result = .ok buffer ∧ after = state

/-- The files and the rows of a state are there later. -/
structure Kept (before after : Storage) : Prop where
  files : ∀ path buffer, before.files path = some buffer → after.files path = some buffer
  rows : ∀ row ∈ before.fileRecords.rows, row ∈ after.fileRecords.rows

/-- No file has a name that begins with the UUID. -/
def Unused (state : Storage) (fileUuid : String) : Prop :=
  ∀ year month rest, (∀ name ∈ fileNames year month (fileUuid ++ rest), Node.Path.Plain name) →
    state.files (location year month (fileUuid ++ rest)) = none

/-- A call that throws leaves the rows, and the files unless the deletion has failed too. -/
def Undone (call : SaveCall) : Prop :=
  ∀ error, call.result = .error error →
    call.after.fileRecords = call.before.fileRecords ∧
      (call.after.files = call.before.files ∨ ∃ objectKey,
        call.after.errorLog = call.before.errorLog ++
          [.createFailed objectKey, .compensationFailed objectKey])

variable {before after : Storage} {fileUuid other : String}

/-- What a call does to the files. -/
def Wrote (fileUuid : String) (before after : Storage) : Prop :=
  after.files = before.files ∨ ∃ year month rest buffer,
    (∀ name ∈ fileNames year month (fileUuid ++ rest), Node.Path.Plain name) ∧
      after.files =
        (before.setFile (location year month (fileUuid ++ rest)) (some buffer)).files

omit [LetterCase] [Sha256] in
/-- What is held stays held when a file of another id is written. -/
theorem Wrote.kept (wrote : Wrote fileUuid before after) (unused : Unused before fileUuid)
    {path : String} {buffer : Buffer} (held : before.files path = some buffer) :
    after.files path = some buffer := by
  rcases wrote with same | ⟨year, month, rest, _, plain, same⟩
  · rw [same, held]
  · have different : path ≠ location year month (fileUuid ++ rest) := by
      rintro rfl
      rw [unused year month rest plain] at held
      cases held
    rw [same, Storage.setFile_files_of_ne different, held]

omit [LetterCase] [Sha256] in
/-- A call leaves the names of other UUIDs unused. -/
theorem Wrote.unused (wrote : Wrote fileUuid before after) (format : UuidFormat fileUuid)
    (otherFormat : UuidFormat other) (different : other ≠ fileUuid)
    (unused : Unused before other) : Unused after other := by
  intro year month rest plain
  rcases wrote with same | ⟨year', month', rest', _, plain', same⟩
  · rw [same, unused year month rest plain]
  · have elsewhere : location year month (other ++ rest) ≠
        location year' month' (fileUuid ++ rest') := fun place =>
      different (LocalPrivateStorageAdapter.fileUuid_of_filename otherFormat format
        (LocalPrivateStorageAdapter.filename_of_location plain plain' place))
    rw [same, Storage.setFile_files_of_ne elsewhere, unused year month rest plain]

/-! ## One call -/

/-- What a call does, by its result. -/
structure Effect (call : SaveCall) : Prop where
  wrote : Wrote call.fileUuid call.before call.after
  undone : Undone call
  stored : ∀ row, call.result = .ok row →
    call.after.fileRecords = call.before.fileRecords.insert row ∧
      call.before.fileRecords.find? row.id = none ∧
      ∃ buffer, Describes row buffer ∧ call.after.files (fullPath row.objectKey) = some buffer

/-- A save that returns has stored its row and its bytes. -/
theorem effect_of_returns {call : SaveCall} {row : FileRecord} (format : UuidFormat call.fileUuid)
    (ended : call.result = .ok row)
    (returned : (FileStorageService.saveFileRecord call.upload).Returns (Supplies call.fileUuid)
      call.before row call.after) : Effect call := by
  obtain ⟨year, month, rest, buffer, plain, ⟨key, describes⟩, fresh, left⟩ :=
    FileStorageService.saveFileRecord_returns (fun _ supplies => supplies) format returned
  have files : call.after.files =
      (call.before.setFile (location year month (call.fileUuid ++ rest)) (some buffer)).files := by
    rw [left]
  refine ⟨.inr ⟨year, month, rest, buffer, plain, files⟩, ?_, ?_⟩
  · intro error thrown
    cases ended.symm.trans thrown
  · intro other same
    obtain rfl := Except.ok.inj (ended.symm.trans same)
    refine ⟨by rw [left], fresh, buffer, describes, ?_⟩
    rw [key, LocalPrivateStorageAdapter.fullPath_of_names plain, files, Storage.setFile_files_self]

/-- One that throws has stored no row, and has undone its file or logged the error of the removal.
-/
theorem effect_of_throws {call : SaveCall} {error : Failure} (format : UuidFormat call.fileUuid)
    (unused : Unused call.before call.fileUuid) (ended : call.result = .error error)
    (thrown : (FileStorageService.saveFileRecord call.upload).Throws (Supplies call.fileUuid)
      call.before error call.after) : Effect call := by
  have noRow : ∀ row, call.result ≠ .ok row := by simp [ended]
  rcases FileStorageService.saveFileRecord_throws (fun _ supplies => supplies) format thrown with
    left | ⟨year, month, rest, buffer, plain, left | left⟩
  · exact ⟨.inl (by rw [left]), fun _ _ => ⟨by rw [left], .inl (by rw [left])⟩,
      fun row same => absurd same (noRow row)⟩
  · -- the file is deleted again, and there was none at its path before
    have restored : call.after.files = call.before.files := by
      rw [left, Storage.setFile_setFile_none (unused year month rest plain)]
    have rows : call.after.fileRecords = call.before.fileRecords := by
      rw [left, Storage.setFile_fileRecords, Storage.log_fileRecords, Storage.setFile_fileRecords]
    exact ⟨.inl restored, fun _ _ => ⟨rows, .inl restored⟩,
      fun row same => absurd same (noRow row)⟩
  · have logged : ∃ objectKey, call.after.errorLog = call.before.errorLog ++
        [.createFailed objectKey, .compensationFailed objectKey] := by
      refine ⟨LocalPrivateStorageAdapter.objectKey year month (call.fileUuid ++ rest), ?_⟩
      rw [left, Storage.log_errorLog, Storage.log_errorLog, Storage.setFile_errorLog,
        List.append_assoc, List.singleton_append]
    have rows : call.after.fileRecords = call.before.fileRecords := by
      rw [left, Storage.log_fileRecords, Storage.log_fileRecords, Storage.setFile_fileRecords]
    refine ⟨.inr ⟨year, month, rest, buffer, plain, ?_⟩, fun _ _ => ⟨rows, .inr logged⟩,
      fun row same => absurd same (noRow row)⟩
    rw [left, Storage.log_files, Storage.log_files]

/-- A save has one of its effects. -/
theorem effect_of_run {call : SaveCall} (format : UuidFormat call.fileUuid)
    (unused : Unused call.before call.fileUuid)
    (ran : (FileStorageService.saveFileRecord call.upload).Runs (Supplies call.fileUuid)
      call.before call.result call.after) : Effect call := by
  cases ended : call.result with
  | ok row =>
      rw [ended] at ran
      exact effect_of_returns format ended ran
  | error error =>
      rw [ended] at ran
      exact effect_of_throws format unused ended ran

omit [LetterCase] in
/-- What is held is kept by a save. -/
theorem Effect.kept {call : SaveCall} (effect : Effect call)
    (unused : Unused call.before call.fileUuid) : Kept call.before call.after where
  files _ _ held := effect.wrote.kept unused held
  rows row member := by
    cases ended : call.result with
    | ok added =>
        rw [(effect.stored added ended).1]
        exact Table.mem_insert_of_mem member
    | error error =>
        rw [(effect.undone error ended).1]
        exact member

omit [LetterCase] in
/-- Rows that are described and held correspond to the files. -/
theorem Corresponds.of_described {state : Storage}
    (each : ∀ row ∈ state.fileRecords.rows, ∃ buffer, Describes row buffer ∧
      state.files (fullPath row.objectKey) = some buffer) : Corresponds state := by
  intro row member
  obtain ⟨buffer, describes, held⟩ := each row member
  exact ⟨buffer, describes, held, fun result after =>
    LocalPrivateStorageAdapter.getFileBuffer_runs held⟩

omit [LetterCase] in
/-- A call keeps the correspondence. -/
theorem Effect.corresponds {call : SaveCall} (effect : Effect call)
    (unused : Unused call.before call.fileUuid) (corresponds : Corresponds call.before) :
    Corresponds call.after := by
  refine Corresponds.of_described fun row member => ?_
  have old : row ∈ call.before.fileRecords.rows → ∃ buffer, Describes row buffer ∧
      call.after.files (fullPath row.objectKey) = some buffer := by
    intro earlier
    obtain ⟨buffer, describes, held, _⟩ := corresponds row earlier
    exact ⟨buffer, describes, effect.wrote.kept unused held⟩
  cases ended : call.result with
  | ok added =>
      obtain ⟨rows, _, stored⟩ := effect.stored added ended
      rw [rows] at member
      rcases Table.mem_of_mem_insert member with earlier | rfl
      · exact old earlier
      · exact stored
  | error error =>
      rw [(effect.undone error ended).1] at member
      exact old member

/-! ## All calls -/

/-- Along the calls, the rows correspond, each call keeps what was there, and the UUIDs of the
calls to come stay unused. -/
theorem Saves.along {start final : Storage} {calls : List SaveCall}
    (saves : Saves start calls final) (corresponds : Corresponds start)
    (formats : ∀ call ∈ calls, UuidFormat call.fileUuid)
    (distinct : (calls.map SaveCall.fileUuid).Nodup)
    (unused : ∀ call ∈ calls, Unused start call.fileUuid) :
    Corresponds final ∧ (∀ call ∈ calls, Kept call.before call.after ∧ Undone call) ∧
      ∀ fileUuid, UuidFormat fileUuid → fileUuid ∉ calls.map SaveCall.fileUuid →
        Unused start fileUuid → Unused final fileUuid := by
  induction saves with
  | refl => exact ⟨corresponds, nofun, fun _ _ _ unused => unused⟩
  | @call calls call prior ran inductionHypothesis =>
      obtain ⟨earlierFormats, format⟩ := List.forall_mem_append.mp formats
      obtain ⟨earlierUnused, ownUnused⟩ := List.forall_mem_append.mp unused
      rw [List.map_append, List.map_singleton, List.nodup_append] at distinct
      obtain ⟨earlierDistinct, _, apart⟩ := distinct
      obtain ⟨matching, calm, free⟩ :=
        inductionHypothesis earlierFormats earlierDistinct earlierUnused
      have own : call.fileUuid ∉ calls.map SaveCall.fileUuid := fun member =>
        apart _ member _ (List.mem_singleton_self _) rfl
      have now := free call.fileUuid (format call (by simp)) own (ownUnused call (by simp))
      have effect := effect_of_run (format call (by simp)) now ran
      refine ⟨effect.corresponds now matching, ?_, ?_⟩
      · refine List.forall_mem_append.mpr ⟨calm, ?_⟩
        simpa using ⟨effect.kept now, effect.undone⟩
      · intro fileUuid otherFormat absent otherUnused
        rw [List.map_append, List.mem_append, not_or] at absent
        exact effect.wrote.unused (format call (by simp)) otherFormat (by simpa using absent.2)
          (free fileUuid otherFormat absent.1 otherUnused)

/-- After any calls every row describes the file that is downloaded for it; no call has changed
or removed a file or a row that was there, and a call that has thrown has left no row, and no
file but one whose deletion has failed. -/
theorem stored_files {start final : Storage} {calls : List SaveCall}
    (saves : Saves start calls final) (corresponds : Corresponds start)
    (formats : ∀ call ∈ calls, UuidFormat call.fileUuid)
    (distinct : (calls.map SaveCall.fileUuid).Nodup)
    (unused : ∀ call ∈ calls, Unused start call.fileUuid) :
    Corresponds final ∧ ∀ call ∈ calls, Kept call.before call.after ∧ Undone call := by
  obtain ⟨matching, calm, _⟩ := saves.along corresponds formats distinct unused
  exact ⟨matching, calm⟩

end

section TwoCalls

local instance : LetterCase := asciiLetters

local instance : WorkingDirectory := ⟨"/srv/armada", by decide⟩

/-- Not SHA-256, but a function of the buffer. -/
local instance : Sha256 := ⟨fun buffer => toString (buffer.map UInt8.toNat)⟩

/-- A JPEG that is left as it is. -/
def photo : Upload where
  fileBuffer := [0xff, 0xd8, 0xff, 0xe0]
  originalName := "gate.jpeg"
  mimeType := "image/jpeg"
  uploaderUserId := 7

/-- What one call is supplied with. -/
def supply (fileUuid : String) (fault : Option PrismaError) : Input where
  fileUuid := fileUuid
  rowId := 1
  utcFullYear := 2026
  utcMonth := 6
  sharp :=
    { construct := fun _ => .ok ()
      metadata := fun _ => .ok { format := some "jpeg", width := some 640, height := some 480 }
      toBuffer := fun _ => .error "unused" }
  fault := fault

def callWith (before : Storage) (input : Input) : SaveCall where
  upload := photo
  fileUuid := input.fileUuid
  before := before
  result := ((FileStorageService.saveFileRecord photo).run (fun _ _ => input) before).1
  after := ((FileStorageService.saveFileRecord photo).run (fun _ _ => input) before).2

/-- One more save is a run. -/
theorem callWith_saves {start before : Storage} {calls : List SaveCall} (input : Input)
    (prior : Saves start calls before) :
    Saves start (calls ++ [callWith before input]) (callWith before input).after := by
  have ran : (FileStorageService.saveFileRecord photo).Runs (Supplies input.fileUuid) before
      (callWith before input).result (callWith before input).after :=
    (Proc.runs_iff_run.mpr rfl).mono fun _ same => congrArg Input.fileUuid same
  exact @Saves.call _ _ _ start calls (callWith before input) prior ran

def firstUuid : String := "9b2f1c60-3d4e-4a5b-8c7d-0e1f2a3b4c5d"

def secondUuid : String := "0a1b2c3d-4e5f-4607-9182-93a4b5c6d7e8"

def firstCall : SaveCall := callWith {} (supply firstUuid none)

/-- The insertion fails. -/
def secondCall : SaveCall := callWith firstCall.after (supply secondUuid (some .unknownRequest))

/-- Both saves are a run. -/
theorem saves_firstCall_secondCall : Saves {} [firstCall, secondCall] secondCall.after :=
  callWith_saves _ (callWith_saves _ .refl)

/-- Their ids are formatted. -/
theorem uuids_format : ∀ fileUuid ∈ [firstUuid, secondUuid], UuidFormat fileUuid := by
  simp [firstUuid, secondUuid, UuidFormat]

/-- Their ids are distinct. -/
theorem uuids_distinct : [firstUuid, secondUuid].Nodup := by
  simp [firstUuid, secondUuid]

/-- Those are the ids of the calls. -/
theorem uuids_eq : [firstCall, secondCall].map SaveCall.fileUuid = [firstUuid, secondUuid] := rfl

/-- The stored rows correspond to the files after both. -/
theorem stored_files_firstCall_secondCall :
    Corresponds secondCall.after ∧
      ∀ call ∈ [firstCall, secondCall], Kept call.before call.after ∧ Undone call := by
  have noRows : Corresponds {} := fun _ member => absurd member List.not_mem_nil
  have formats : ∀ call ∈ [firstCall, secondCall], UuidFormat call.fileUuid := fun call member =>
    uuids_format _ (uuids_eq ▸ List.mem_map_of_mem member)
  have distinct : ([firstCall, secondCall].map SaveCall.fileUuid).Nodup := by
    rw [uuids_eq]
    exact uuids_distinct
  have unused : ∀ call ∈ [firstCall, secondCall], Unused {} call.fileUuid :=
    fun _ _ _ _ _ _ => rfl
  exact stored_files saves_firstCall_secondCall noRows formats distinct unused

example : firstCall.after.fileRecords.rows.map FileRecord.sizeBytes = [4] := by
  decide +kernel

end TwoCalls

end Armada.Pod
