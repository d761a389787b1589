import Mathlib.Data.List.Basic
import Mathlib.Data.List.TakeWhile

/-!
# Paths

`join`, `resolve` and `extname` of the module `path` of Node on a POSIX system. A path is
taken apart at its slashes; segments that are empty or a dot are dropped, and two dots take
back the segment before them.
-/

namespace Armada.Node.Path

/-- What stands between two slashes. -/
abbrev Segment := List Char

/-- What two dots make of the segments so far, which are in reverse. -/
def parent (allowAboveRoot : Bool) : List Segment → List Segment
  | [] => if allowAboveRoot then [['.', '.']] else []
  | last :: earlier =>
      if last = ['.', '.'] then ['.', '.'] :: last :: earlier else earlier

/-- The loop of `normalizeString` over the segments, with those so far in reverse. -/
def normalizeSegments (allowAboveRoot : Bool) : List Segment → List Segment → List Segment
  | resolved, [] => resolved.reverse
  | resolved, segment :: rest =>
      if segment = [] ∨ segment = ['.'] then normalizeSegments allowAboveRoot resolved rest
      else if segment = ['.', '.'] then
        normalizeSegments allowAboveRoot (parent allowAboveRoot resolved) rest
      else normalizeSegments allowAboveRoot (segment :: resolved) rest

/-- `normalizeString`: `.` and `..` are resolved. -/
def normalizeString (path : List Char) (allowAboveRoot : Bool) : List Char :=
  ['/'].intercalate (normalizeSegments allowAboveRoot [] (path.splitOn '/'))

/-- The path begins at the root. -/
def isAbsolute (path : List Char) : Bool := path.head? = some '/'

/-- `path.posix.normalize`. -/
def normalize (path : List Char) : List Char :=
  if path = [] then ['.']
  else
    let trailingSeparator := path.getLast? = some '/'
    let normalized := normalizeString path (!isAbsolute path)
    if normalized = [] then
      if isAbsolute path then ['/'] else if trailingSeparator then ['.', '/'] else ['.']
    else
      let ended := if trailingSeparator then normalized ++ ['/'] else normalized
      if isAbsolute path then '/' :: ended else ended

/-- `path.posix.join`, on the characters. -/
def joinChars (paths : List (List Char)) : List Char :=
  let joined := ['/'].intercalate (paths.filter (· ≠ []))
  if joined = [] then ['.'] else normalize joined

/-- `path.join`. -/
def join (paths : List String) : String := .ofList (joinChars (paths.map String.toList))

/-- The loop of `path.posix.resolve`, which goes back to the last absolute path. -/
def resolved : List (List Char) → List Char × Bool
  | [] => ([], false)
  | path :: paths =>
      let (rest, absolute) := resolved paths
      if absolute ∨ path = [] then (rest, absolute) else (path ++ '/' :: rest, isAbsolute path)

/-- `path.resolve`, from a working directory. -/
def resolveChars (cwd : List Char) (paths : List (List Char)) : List Char :=
  let (path, absolute) := resolved paths
  let whole := if absolute then path else cwd ++ '/' :: path
  '/' :: normalizeString whole false

/-- `path.posix.resolve`, in a process whose working directory is absolute. -/
def resolve (cwd : String) (paths : List String) : String :=
  .ofList (resolveChars cwd.toList (paths.map String.toList))

/-- The last segment of a path, without slashes at its end. -/
def lastSegment (path : List Char) : List Char :=
  ((path.reverse.dropWhile (· = '/')).takeWhile (· ≠ '/')).reverse

/-- `path.posix.extname`. -/
def extname (path : String) : String :=
  let base := lastSegment path.toList
  let extension := (base.reverse.takeWhile (· ≠ '.')).reverse
  -- the dot at the start of a name begins no extension
  if base = ['.', '.'] ∨ base.length ≤ extension.length + 1 then ""
  else .ofList ('.' :: extension)

example : join ["/srv/storage/private/pod", "..", "pod/2026/09/a.jpg"] =
    "/srv/storage/private/pod/2026/09/a.jpg" := by decide +kernel

example : [extname "a/photo.tar.gz", extname ".bashrc", extname "x.", extname ".."] =
    [".gz", "", ".", ""] := by decide +kernel

/-! ## Absolute paths by their segments -/

/-- A segment that names a file or a directory. -/
structure Plain (segment : Segment) : Prop where
  ne_nil : segment ≠ []
  ne_dot : segment ≠ ['.']
  ne_dots : segment ≠ ['.', '.']
  no_slash : '/' ∉ segment

/-- A name is plain if it has a character that is not a dot, and no slash. -/
theorem plain_of_mem {segment : Segment} {char : Char} (member : char ∈ segment)
    (notDot : char ≠ '.') (noSlash : '/' ∉ segment) : Plain segment where
  ne_nil empty := by simp [empty] at member
  ne_dot dot := by simp_all
  ne_dots dots := by simp_all
  no_slash := noSlash

/-- The last segment has no slash. -/
theorem not_mem_lastSegment {path : List Char} : '/' ∉ lastSegment path := by
  rw [lastSegment, List.mem_reverse]
  intro member
  simpa using List.mem_takeWhile_imp member

/-- So an extension has none. -/
theorem not_mem_extname {path : String} : '/' ∉ (extname path).toList := by
  rw [extname]
  split
  · simp
  · rw [String.toList_ofList, List.mem_cons, not_or, List.mem_reverse]
    refine ⟨by decide, fun member => ?_⟩
    exact not_mem_lastSegment (List.mem_reverse.mp (List.takeWhile_subset _ member))

/-- The absolute path of some segments. -/
def absolutePath (segments : List Segment) : List Char := '/' :: ['/'].intercalate segments

variable {allowAboveRoot : Bool} {before segments more names : List Segment} {segment : Segment}

/-- Segments may be normalized in two parts. -/
theorem normalizeSegments_append :
    normalizeSegments allowAboveRoot before (segments ++ more) =
      normalizeSegments allowAboveRoot
        (normalizeSegments allowAboveRoot before segments).reverse more := by
  induction segments generalizing before with
  | nil => rw [List.nil_append, normalizeSegments, List.reverse_reverse]
  | cons segment segments inductionHypothesis =>
      rw [List.cons_append, normalizeSegments, normalizeSegments]
      simp only [inductionHypothesis]
      split
      · rfl
      · split <;> rfl

/-- A plain segment stays. -/
theorem normalizeSegments_cons_plain (plain : Plain segment) :
    normalizeSegments allowAboveRoot before (segment :: more) =
      normalizeSegments allowAboveRoot (segment :: before) more := by
  rw [normalizeSegments, if_neg (not_or.mpr ⟨plain.ne_nil, plain.ne_dot⟩), if_neg plain.ne_dots]

/-- Plain segments stay as they are. -/
theorem normalizeSegments_plain (plain : ∀ segment ∈ segments, Plain segment) :
    normalizeSegments allowAboveRoot before segments = before.reverse ++ segments := by
  induction segments generalizing before with
  | nil => rw [normalizeSegments, List.append_nil]
  | cons segment segments inductionHypothesis =>
      obtain ⟨first, rest⟩ := List.forall_mem_cons.mp plain
      rw [normalizeSegments_cons_plain first, inductionHypothesis rest]
      simp

/-- Two dots take back a plain segment. -/
theorem normalizeSegments_dots (plain : Plain segment) :
    normalizeSegments allowAboveRoot (segment :: before) (['.', '.'] :: more) =
      normalizeSegments allowAboveRoot before more := by
  rw [normalizeSegments, if_neg (by simp), if_pos rfl, parent, if_neg plain.ne_dots]

/-- An absolute path has nothing but plain segments when it is normalized. -/
theorem plain_normalizeSegments (plain : ∀ segment ∈ before, Plain segment)
    (noSlash : ∀ segment ∈ segments, '/' ∉ segment) :
    ∀ segment ∈ normalizeSegments false before segments, Plain segment := by
  induction segments generalizing before with
  | nil => simpa [normalizeSegments] using plain
  | cons segment segments inductionHypothesis =>
      obtain ⟨first, rest⟩ := List.forall_mem_cons.mp noSlash
      rw [normalizeSegments]
      split
      · exact inductionHypothesis plain rest
      · rename_i present
        obtain ⟨nonempty, notDot⟩ := not_or.mp present
        split
        · cases before with
          | nil => exact inductionHypothesis nofun rest
          | cons last earlier =>
              obtain ⟨lastPlain, earlierPlain⟩ := List.forall_mem_cons.mp plain
              rw [parent, if_neg lastPlain.ne_dots]
              exact inductionHypothesis earlierPlain rest
        · rename_i notDots
          exact inductionHypothesis
            (List.forall_mem_cons.mpr ⟨⟨nonempty, notDot, notDots, first⟩, plain⟩) rest

/-- Segments have no slash. -/
theorem not_mem_of_mem_splitOn {path : List Char} :
    ∀ segment ∈ path.splitOn '/', '/' ∉ segment := by
  induction path with
  | nil => simp
  | cons char path inductionHypothesis =>
      rw [List.splitOn_cons_eq_if_modifyHead]
      split
      · exact List.forall_mem_cons.mpr ⟨nofun, inductionHypothesis⟩
      · rename_i other
        cases split : path.splitOn '/' with
        | nil => exact absurd split (List.splitOn_ne_nil _ _)
        | cons first rest =>
            rw [split] at inductionHypothesis
            obtain ⟨head, tail⟩ := List.forall_mem_cons.mp inductionHypothesis
            refine List.forall_mem_cons.mpr ⟨?_, tail⟩
            simp only [List.mem_cons, not_or]
            exact ⟨fun same => other (beq_iff_eq.mpr same.symm), head⟩

/-- An absolute path splits into its segments. -/
theorem splitOn_absolutePath (plain : ∀ segment ∈ segments, Plain segment)
    (nonempty : segments ≠ []) : (absolutePath segments).splitOn '/' = [] :: segments := by
  have apart := List.splitOn_append_cons_self (a := '/') [] (['/'].intercalate segments)
  rw [List.nil_append] at apart
  rw [absolutePath, apart, List.splitOn_intercalate _ (fun segment member =>
    (plain segment member).no_slash) nonempty]
  rfl

/-- Joined names split into the segments of each. -/
theorem splitOn_intercalate_names (nonempty : names ≠ []) :
    (['/'].intercalate names).splitOn '/' = names.flatMap (List.splitOn '/') := by
  induction names with
  | nil => exact absurd rfl nonempty
  | cons name names inductionHypothesis =>
      cases names with
      | nil => simp
      | cons next names =>
          rw [List.intercalate_cons_cons, List.append_assoc, List.singleton_append,
            List.splitOn_append_cons_self, inductionHypothesis (List.cons_ne_nil _ _)]
          rfl

/-- Joined names are not empty. -/
theorem intercalate_ne_nil (nonempty : names ≠ []) (texts : ∀ name ∈ names, name ≠ []) :
    ['/'].intercalate names ≠ [] := by
  obtain ⟨name, rest, rfl⟩ := List.exists_cons_of_ne_nil nonempty
  have text := texts name List.mem_cons_self
  cases rest with
  | nil => simpa using text
  | cons next rest => simp [text]

/-- An empty segment is dropped. -/
theorem normalizeSegments_nil_cons :
    normalizeSegments allowAboveRoot before ([] :: segments) =
      normalizeSegments allowAboveRoot before segments := by
  rw [normalizeSegments, if_pos (.inl rfl)]

/-- A normalized absolute path is made of its segments. -/
theorem normalize_absolute {path : List Char} (absolute : isAbsolute path = true)
    (nonempty : normalizeSegments false [] (path.splitOn '/') ≠ [])
    (plain : ∀ segment ∈ normalizeSegments false [] (path.splitOn '/'), Plain segment)
    (ends : path.getLast? ≠ some '/') :
    normalize path = absolutePath (normalizeSegments false [] (path.splitOn '/')) := by
  have present : path ≠ [] := by
    rintro rfl
    cases absolute
  have body : normalizeString path false ≠ [] := by
    rw [normalizeString]
    cases segments : normalizeSegments false [] (path.splitOn '/') with
    | nil => exact absurd segments nonempty
    | cons first rest =>
        have firstPlain := plain first (segments ▸ List.mem_cons_self)
        cases rest with
        | nil => simpa using firstPlain.ne_nil
        | cons next rest => simp [firstPlain.ne_nil]
  rw [normalize, if_neg present, absolute, Bool.not_true, if_neg body, if_neg ends]
  rfl

/-- The names that follow a normalized absolute path lead on from its segments. -/
theorem joinChars_absolutePath (plain : ∀ segment ∈ segments, Plain segment)
    (nonempty : segments ≠ []) (named : names ≠ []) (texts : ∀ name ∈ names, name ≠ [])
    (ends : (['/'].intercalate names).getLast? ≠ some '/')
    (leads : normalizeSegments false segments.reverse (names.flatMap (List.splitOn '/')) ≠ []) :
    joinChars (absolutePath segments :: names) =
      absolutePath
        (normalizeSegments false segments.reverse (names.flatMap (List.splitOn '/'))) := by
  have kept : (absolutePath segments :: names).filter (· ≠ []) =
      absolutePath segments :: names := by
    rw [List.filter_eq_self]
    intro name member
    rcases List.mem_cons.mp member with rfl | later
    · simp [absolutePath]
    · simpa using texts name later
  have joined : ['/'].intercalate (absolutePath segments :: names) =
      absolutePath segments ++ '/' :: ['/'].intercalate names := by
    rw [List.intercalate_cons_of_ne_nil named, List.append_assoc]
    rfl
  have parts : normalizeSegments false []
      ((absolutePath segments ++ '/' :: ['/'].intercalate names).splitOn '/') =
        normalizeSegments false segments.reverse (names.flatMap (List.splitOn '/')) := by
    rw [List.splitOn_append_cons_self, splitOn_absolutePath plain nonempty,
      splitOn_intercalate_names named, normalizeSegments_append, normalizeSegments_nil_cons,
      normalizeSegments_plain plain, List.reverse_nil, List.nil_append]
  have noSlash : ∀ segment ∈ names.flatMap (List.splitOn '/'), '/' ∉ segment := by
    intro segment member
    obtain ⟨name, _, inName⟩ := List.mem_flatMap.mp member
    exact not_mem_of_mem_splitOn segment inName
  have last : (absolutePath segments ++ '/' :: ['/'].intercalate names).getLast? ≠ some '/' := by
    obtain ⟨char, rest, text⟩ := List.exists_cons_of_ne_nil (intercalate_ne_nil named texts)
    rw [text] at ends ⊢
    simpa using ends
  rw [joinChars, kept, joined, if_neg (by simp [absolutePath]), normalize_absolute rfl ?_ ?_ last,
    parts]
  · rwa [parts]
  · rw [parts]
    exact plain_normalizeSegments (by simpa using plain) noSlash

/-- A plain name is one segment. -/
theorem flatMap_splitOn (plain : ∀ name ∈ names, Plain name) :
    names.flatMap (List.splitOn '/') = names := by
  induction names with
  | nil => rfl
  | cons name names inductionHypothesis =>
      obtain ⟨first, rest⟩ := List.forall_mem_cons.mp plain
      rw [List.flatMap_cons, List.splitOn_eq_singleton first.no_slash, inductionHypothesis rest]
      rfl

/-- A plain segment does not end with a slash. -/
theorem Plain.getLast?_ne (plain : Plain segment) : segment.getLast? ≠ some '/' := fun last =>
  plain.no_slash (List.mem_of_getLast? last)

/-- A path does not end in a slash if none of its names does. -/
theorem getLast?_intercalate (texts : ∀ name ∈ names, name ≠ [])
    (ends : ∀ name ∈ names, name.getLast? ≠ some '/') :
    (['/'].intercalate names).getLast? ≠ some '/' := by
  induction names with
  | nil => simp
  | cons name names inductionHypothesis =>
      obtain ⟨_, restTexts⟩ := List.forall_mem_cons.mp texts
      obtain ⟨first, restEnds⟩ := List.forall_mem_cons.mp ends
      by_cases named : names = []
      · subst named
        simpa using first
      · rw [List.intercalate_cons_of_ne_nil named,
          List.getLast?_append_of_ne_nil _ (intercalate_ne_nil named restTexts)]
        exact inductionHypothesis restTexts restEnds

/-- Plain names lead on from an absolute path. -/
theorem joinChars_plain (plain : ∀ segment ∈ segments, Plain segment) (nonempty : segments ≠ [])
    (namesPlain : ∀ name ∈ names, Plain name) (named : names ≠ []) :
    joinChars (absolutePath segments :: names) = absolutePath (segments ++ names) := by
  have texts : ∀ name ∈ names, name ≠ [] := fun name member => (namesPlain name member).ne_nil
  have parts : normalizeSegments false segments.reverse (names.flatMap (List.splitOn '/')) =
      segments ++ names := by
    rw [flatMap_splitOn namesPlain, normalizeSegments_plain namesPlain, List.reverse_reverse]
  have ends := getLast?_intercalate texts fun name member => (namesPlain name member).getLast?_ne
  rw [joinChars_absolutePath plain nonempty named texts ends (by simp [parts, named]), parts]

/-- Two dots and then a path of plain names lead to the names from the parent directory. -/
theorem joinChars_dots (plain : ∀ other ∈ segments ++ [segment], Plain other)
    (namesPlain : ∀ name ∈ names, Plain name) (named : names ≠ []) :
    joinChars [absolutePath (segments ++ [segment]), ['.', '.'], ['/'].intercalate names] =
      absolutePath (segments ++ names) := by
  have last : Plain segment := plain segment (by simp)
  have texts : ∀ name ∈ names, name ≠ [] := fun name member => (namesPlain name member).ne_nil
  have key : ['/'].intercalate names ≠ [] := intercalate_ne_nil named texts
  have keyEnds := getLast?_intercalate texts fun name member => (namesPlain name member).getLast?_ne
  have parts : normalizeSegments false (segments ++ [segment]).reverse
      ([['.', '.'], ['/'].intercalate names].flatMap (List.splitOn '/')) = segments ++ names := by
    rw [List.flatMap_cons, List.flatMap_singleton, splitOn_intercalate_names named,
      flatMap_splitOn namesPlain, List.reverse_append]
    change normalizeSegments false (segment :: segments.reverse) (['.', '.'] :: names) = _
    rw [normalizeSegments_dots last, normalizeSegments_plain namesPlain, List.reverse_reverse]
  have ends : (['/'].intercalate [['.', '.'], ['/'].intercalate names]).getLast? ≠ some '/' := by
    refine getLast?_intercalate ?_ ?_
    · simp [key]
    · simp [keyEnds]
  have leads : segments ++ names ≠ [] := by simp [named]
  rw [joinChars_absolutePath plain (by simp) (by simp) (by simp [key]) ends (parts ▸ leads), parts]

/-- Paths of plain segments are equal only if the segments are. -/
theorem absolutePath_injective (plain : ∀ segment ∈ segments, Plain segment)
    (nonempty : segments ≠ []) (morePlain : ∀ segment ∈ more, Plain segment)
    (moreNonempty : more ≠ []) (same : absolutePath segments = absolutePath more) :
    segments = more := by
  have split := congrArg (List.splitOn '/') same
  rw [splitOn_absolutePath plain nonempty, splitOn_absolutePath morePlain moreNonempty] at split
  exact (List.cons.inj split).2

/-- Plain names are resolved one after the other, and are relative. -/
theorem resolved_names (plain : ∀ name ∈ names, Plain name) :
    resolved names = (names.flatMap (· ++ ['/']), false) := by
  induction names with
  | nil => rfl
  | cons name names inductionHypothesis =>
      obtain ⟨first, rest⟩ := List.forall_mem_cons.mp plain
      have relative : isAbsolute name = false := by
        have others := first.no_slash
        cases name with
        | nil => rfl
        | cons char name =>
            have different := (not_or.mp (mt List.mem_cons.mpr others)).1
            simpa [isAbsolute, eq_comm] using different
      rw [resolved, inductionHypothesis rest]
      simp [first.ne_nil, relative]

/-- They split into themselves. -/
theorem splitOn_flatMap (plain : ∀ name ∈ names, Plain name) :
    (names.flatMap (· ++ ['/'])).splitOn '/' = names ++ [[]] := by
  induction names with
  | nil => rfl
  | cons name names inductionHypothesis =>
      obtain ⟨first, rest⟩ := List.forall_mem_cons.mp plain
      rw [List.flatMap_cons, List.append_assoc, List.singleton_append,
        List.splitOn_append_cons_self_of_not_mem first.no_slash, inductionHypothesis rest,
        List.cons_append]

/-- A directory below an absolute one. -/
theorem resolveChars_absolute {cwd : List Char} (absolute : isAbsolute cwd = true)
    (plain : ∀ name ∈ names, Plain name) :
    resolveChars cwd (cwd :: names) =
      absolutePath (normalizeSegments false [] (cwd.splitOn '/') ++ names) := by
  have present : cwd ≠ [] := by
    rintro rfl
    cases absolute
  have first : resolved (cwd :: names) = (cwd ++ '/' :: names.flatMap (· ++ ['/']), true) := by
    rw [resolved, resolved_names plain]
    simp [present, absolute]
  have parts : normalizeSegments false []
      ((cwd ++ '/' :: names.flatMap (· ++ ['/'])).splitOn '/') =
        normalizeSegments false [] (cwd.splitOn '/') ++ names := by
    rw [List.splitOn_append_cons_self, splitOn_flatMap plain, normalizeSegments_append,
      normalizeSegments_append, normalizeSegments_plain plain, normalizeSegments_nil_cons,
      normalizeSegments, List.reverse_reverse, List.reverse_reverse]
  rw [resolveChars, first]
  simp only [if_true, normalizeString, parts, absolutePath]

end Armada.Node.Path
