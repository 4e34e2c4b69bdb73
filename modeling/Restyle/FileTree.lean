import Restyle.FileError
import Restyle.Path
import Restyle.Text.Utf8

/-! # File trees
A `FileTree` is a snapshot of a file system: regular files with their bytes, directories, and
symbolic links, each at the sequence of names that leads to it from the root. Paths are looked up
the way a kernel does it: name by name, following links, `..` leaving the directory that has really
been reached. A directory that is closed cannot be passed through, and one that is unlistable does
not tell which names it holds; files and directories can be made everywhere. -/

namespace Restyle

/-- What stands at one place of a file tree. -/
inductive Entry where
  /-- A regular file with its bytes. -/
  | file (content : List UInt8)
  /-- A directory. -/
  | directory
  /-- A symbolic link to the path `target`. -/
  | link (target : String)
  deriving DecidableEq, Inhabited

/-- Whether an entry is a regular file. -/
def Entry.isFile : Entry → Bool
  | .file _ => true
  | _ => false

/-- A place in a file tree: the names that lead to it from the root. -/
abbrev Place := List String

/-- A snapshot of a file system. -/
structure FileTree where
  /-- What stands where; the root itself is always a directory and has no entry. -/
  entries : List (Place × Entry) := []
  /-- The paths, as they are spelled, for which reading is refused. -/
  unreadable : List String := []
  /-- The directories that do not tell which names they hold. -/
  unlistable : List Place := []
  /-- The directories that no path can pass through. -/
  closed : List Place := []
  /-- The directory that relative paths are read from. -/
  workingDir : String := "/"
  /-- The directory that `~` stands for. -/
  home : String := "/"
  deriving DecidableEq, Inhabited

namespace FileTree

/-! ## Construction -/

/-- What stands at a place. -/
def entryAt? (t : FileTree) : Place → Option Entry
  | [] => some .directory
  | place => t.entries.lookup place

/-- The root is a directory. -/
@[simp] theorem entryAt?_root (t : FileTree) : t.entryAt? [] = some .directory := rfl

/-- Put an entry at a place, in the place of what stood there. -/
def put (t : FileTree) (place : Place) (e : Entry) : FileTree :=
  if (t.entries.lookup place).isSome then
    { t with entries := t.entries.map fun p => if p.1 = place then (place, e) else p }
  else { t with entries := t.entries ++ [(place, e)] }

/-- Take away what stands at a place. -/
def remove (t : FileTree) (place : Place) : FileTree :=
  { t with entries := t.entries.filter (·.1 ≠ place) }

/-- Make the directories that lead to `place`, where nothing stands yet. -/
def makeParents (t : FileTree) (place : Place) : FileTree :=
  (List.range place.length).foldl
    (fun t n => if (t.entryAt? (place.take n)).isSome then t else t.put (place.take n) .directory) t

/-- Put an entry at a place, with the directories that lead to it. -/
def add (t : FileTree) (place : Place) (e : Entry) : FileTree :=
  (t.makeParents place).put place e

/-- The place that a path spells, without regard to links. -/
def placeOf (t : FileTree) (path : String) : Place :=
  (Path.components (Path.join t.workingDir path).toList).map String.ofList

/-- The canonical absolute text of a path. -/
def normalize (t : FileTree) (path : String) : String := Path.normalize t.workingDir path

/-! ## Lookup -/

/-- The number of links that one lookup follows. -/
def linkLimit : Nat := 40

/-- The number of bytes that one name may have. -/
def nameLimit : Nat := 255

/-- The names in a path text, with the empty ones. -/
def namesOf (path : String) : List String := (path.toList.splitOn '/').map String.ofList

/-- Walk from the place `here` along `names`, following at most `links` links. Only directories can
be walked through, so that a slash after the name of a file is an error. -/
def walk (t : FileTree) (links : Nat) (here : Place) (names : List String) :
    Except FileError Place :=
  match names with
  | [] => .ok here
  | name :: rest =>
    if t.entryAt? here ≠ some .directory then .error .notDirectory
    else if here ∈ t.closed ∧ name ≠ "" then .error .notPermitted
    else if name = "" ∨ name = "." then t.walk links here rest
    else if name = ".." then t.walk links here.dropLast rest
    else if nameLimit < name.utf8ByteSize then .error .nameTooLong
    else
      match t.entryAt? (here ++ [name]), links with
      | none, _ => .error .missing
      | some (.link _), 0 => .error .tooManyLinks
      | some (.link target), links + 1 =>
        t.walk links (if Path.isAbsolute target then [] else here) (namesOf target ++ rest)
      | some _, links => t.walk links (here ++ [name]) rest
  termination_by (links, names.length)

/-- `t.walk links here [] = .ok here`: without names, a walk stays where it is. -/
theorem walk_nil (t : FileTree) (links : Nat) (here : Place) :
    t.walk links here [] = .ok here := by
  rw [walk.eq_def]

/-- The place that a path leads to, links followed. -/
def find (t : FileTree) (path : String) : Except FileError Place :=
  if '\x00' ∈ path.toList then .error .nulInPath
  else if path = "" then .error .missing
  else t.walk linkLimit [] (namesOf (Path.join t.workingDir path))

/-- What a path leads to, links followed. -/
def follow? (t : FileTree) (path : String) : Option Entry :=
  match t.find path with
  | .ok place => t.entryAt? place
  | .error _ => none

/-- What a path leads to, links followed, unless the system refuses to look. -/
def look (t : FileTree) (path : String) : Except FileError (Option Entry) :=
  match t.find path with
  | .ok place => .ok (t.entryAt? place)
  | .error e => if e.isRefusal then .error e else .ok none

/-- Whether the path leads to anything, unless the system refuses to look. -/
def testExists (t : FileTree) (path : String) : Except FileError Bool :=
  (t.look path).map (·.isSome)

/-- Whether the path leads to a regular file, unless the system refuses to look. -/
def testFile (t : FileTree) (path : String) : Except FileError Bool :=
  (t.look path).map fun e => e.any Entry.isFile

/-- Whether the path leads to a directory, unless the system refuses to look. -/
def testDirectory (t : FileTree) (path : String) : Except FileError Bool :=
  (t.look path).map fun e => decide (e = some .directory)

/-- Whether the path is seen to lead to anything. -/
def pathExists (t : FileTree) (path : String) : Bool := (t.follow? path).isSome

/-- Whether the path is seen to lead to a regular file. -/
def isFile (t : FileTree) (path : String) : Bool :=
  match t.follow? path with
  | some (.file _) => true
  | _ => false

/-- Whether the path is seen to lead to a directory. -/
def isDirectory (t : FileTree) (path : String) : Bool := t.follow? path = some .directory

/-- Whether the path may be read: if it leads to a directory, whether that may be listed. -/
def isReadable (t : FileTree) (path : String) : Bool :=
  path ∉ t.unreadable && t.pathExists path &&
    match t.find path with
    | .ok place => place ∉ t.unlistable
    | .error _ => false

/-- Whether the path leads to something that is not closed. -/
def isPassable (t : FileTree) (path : String) : Bool :=
  match t.find path with
  | .ok place => place ∉ t.closed
  | .error _ => false

/-- The names that lead from the place `dir` to the place `place` below it. -/
def namesBelow? (dir place : Place) : Option (List String) :=
  if dir.isPrefixOf place then some (place.drop dir.length) else none

/-- The name that an entry has in the directory at the place `dir`, if it stands there. -/
def nameIn? (dir place : Place) : Option String :=
  match namesBelow? dir place with
  | some [name] => some name
  | _ => none

/-- The names below a place: `namesBelow? start place` is `some names` exactly for
`place = start ++ names`. -/
theorem namesBelow?_eq_some_iff {start place : Place} {names : List String} :
    namesBelow? start place = some names ↔ place = start ++ names := by
  unfold namesBelow?
  constructor
  · intro h
    split at h
    · next hprefix =>
      obtain ⟨rest, rfl⟩ := List.isPrefixOf_iff_prefix.mp hprefix
      simpa using h
    · cases h
  · rintro rfl
    rw [if_pos (List.isPrefixOf_iff_prefix.mpr (List.prefix_append _ _))]
    simp

/-- The names in a directory: `nameIn? dir place` is `some name` exactly for
`place = dir ++ [name]`. -/
theorem nameIn?_eq_some_iff {dir place : Place} {name : String} :
    nameIn? dir place = some name ↔ place = dir ++ [name] := by
  unfold nameIn?
  rw [← namesBelow?_eq_some_iff]
  split <;> simp_all

/-- The names of what stands in the directory that a path leads to. -/
def list (t : FileTree) (path : String) : Except FileError (List String) :=
  match t.find path with
  | .error e => .error e
  | .ok place =>
    if t.entryAt? place ≠ some .directory then .error .notDirectory
    else if place ∈ t.unlistable then .error .notPermitted
    else .ok (t.entries.filterMap fun entry => nameIn? place entry.1)

/-- The bytes of the file that the path leads to. -/
def readBytes (t : FileTree) (path : String) : Except FileError (List UInt8) := do
  if path ∈ t.unreadable then throw .notPermitted
  let place ← t.find path
  match t.entryAt? place with
  | some (.file content) => pure content
  | some .directory => throw .isDirectory
  | _ => throw .missing

/-- The text of the file that the path leads to: ill-formed bytes are dropped and line breaks are
line feeds. -/
def readText (t : FileTree) (path : String) : Except FileError (List Char) :=
  (t.readBytes path).map fun bytes => Text.unifyLineBreaks (Text.decodeLenient bytes)

/-! ## Making directories and files -/

/-- The place for something new at a path: the directory that it lies in has to exist, and nothing
may stand there yet, not even a link that leads nowhere. -/
def newPlace (t : FileTree) (path : String) : Except FileError Place := do
  let path := Path.tidy path
  let dir ← t.find (Path.directory (Path.join t.workingDir path))
  if t.entryAt? dir ≠ some .directory then throw .notDirectory
  let place := dir ++ [Path.fileName path]
  if (t.entryAt? place).isSome then throw .alreadyExists
  return place

/-- Make one directory. -/
def makeDirectory (t : FileTree) (path : String) : Except FileError FileTree :=
  (t.newPlace path).map fun place => t.put place .directory

/-- The directories on the way to a path, outermost first, and the path itself at last. -/
def waypoints (t : FileTree) (path : String) : List String :=
  let names := (namesOf (Path.tidy (Path.join t.workingDir path))).filter (· ≠ "")
  (List.range names.length).map fun n =>
    String.ofList ('/' :: List.intercalate ['/'] ((names.take (n + 1)).map String.toList))

/-- Make a directory on the way to another one, unless something stands there. -/
def passThrough (t : FileTree) (path : String) : Except FileError FileTree :=
  if t.pathExists path then .ok t
  else
    match t.makeDirectory path with
    | .error .alreadyExists => .ok t
    | made => made

/-- Make a directory where it does not exist, and whatever is missing on the way. Something else in
its place, or on the way, is an error. -/
def makeDirectories (t : FileTree) (path : String) : Except FileError FileTree := do
  let ways := t.waypoints path
  let t ← ways.dropLast.foldlM passThrough t
  match ways.getLast? with
  | none => return t
  | some way => if t.isDirectory way then return t else t.makeDirectory way

/-- Walk as `walk` does, to a place where something is to be written: the name at the very end need
not exist, neither that of the path nor that of a link which comes last. -/
def walkToWrite (t : FileTree) (links : Nat) (here : Place) (names : List String) :
    Except FileError Place :=
  match names with
  | [] => .ok here
  | name :: rest =>
    if t.entryAt? here ≠ some .directory then .error .notDirectory
    else if here ∈ t.closed ∧ name ≠ "" then .error .notPermitted
    else if name = "" ∨ name = "." then t.walkToWrite links here rest
    else if name = ".." then t.walkToWrite links here.dropLast rest
    else if nameLimit < name.utf8ByteSize then .error .nameTooLong
    else
      match t.entryAt? (here ++ [name]), links with
      | none, _ => if rest = [] then .ok (here ++ [name]) else .error .missing
      | some (.link _), 0 => .error .tooManyLinks
      | some (.link target), links + 1 =>
        t.walkToWrite links (if Path.isAbsolute target then [] else here) (namesOf target ++ rest)
      | some _, links => t.walkToWrite links (here ++ [name]) rest
  termination_by (links, names.length)

/-- `t.walkToWrite links here [] = .ok here`. -/
theorem walkToWrite_nil (t : FileTree) (links : Nat) (here : Place) :
    t.walkToWrite links here [] = .ok here := by
  rw [walkToWrite.eq_def]

/-- The place that is written to through a path, links followed. -/
def findToWrite (t : FileTree) (path : String) : Except FileError Place :=
  if '\x00' ∈ path.toList then .error .nulInPath
  else if path = "" then .error .missing
  else t.walkToWrite linkLimit [] (namesOf (Path.join t.workingDir path))

/-- Write a file, whether it exists or not; links are followed. -/
def writeFile (t : FileTree) (path : String) (content : List UInt8) : Except FileError FileTree :=
  match t.findToWrite path with
  | .ok place =>
    if t.entryAt? place = some .directory then .error .isDirectory
    else .ok (t.put place (.file content))
  | .error e => .error e

/-- Remove a file, or a link without what it leads to. -/
def removeFile (t : FileTree) (path : String) : Except FileError FileTree := do
  let path := Path.tidy path
  let place := (← t.find (Path.directory (Path.join t.workingDir path))) ++ [Path.fileName path]
  match t.entryAt? place with
  | none => throw .missing
  | some .directory => throw .isDirectory
  | some _ => return t.remove place

/-! ## Real paths -/

/-- Something stands at a place other than the root only if an entry has that place. -/
theorem exists_mem_of_entryAt? {t : FileTree} {place : Place} {e : Entry} (hne : place ≠ [])
    (h : t.entryAt? place = some e) : ∃ p ∈ t.entries, p.1 = place := by
  cases place with
  | nil => exact absurd rfl hne
  | cons a l =>
    rw [entryAt?, List.lookup_eq_some_iff] at h
    · obtain ⟨l₁, l₂, heq, -⟩ := h
      exact ⟨((a :: l), e), by simp [heq], rfl⟩
    · exact fun h => nomatch h

/-- The entries that are not being followed. -/
def unopened (t : FileTree) (opened : List Place) : List (Place × Entry) :=
  t.entries.filter fun p => p.1 ∉ opened

/-- `t.unopened` shrinks when one more place is opened, so that resolving ends. -/
theorem length_unopened_lt {t : FileTree} {opened : List Place} {place : Place} {e : Entry}
    (hne : place ≠ []) (h : t.entryAt? place = some e) (hopen : place ∉ opened) :
    (t.unopened (place :: opened)).length < (t.unopened opened).length := by
  obtain ⟨p, hp, rfl⟩ := exists_mem_of_entryAt? hne h
  have hsub : t.unopened (p.1 :: opened) = (t.unopened opened).filter (fun q => q.1 ≠ p.1) := by
    simp only [unopened, List.filter_filter]
    congr 1
    funext q
    simp [List.mem_cons, not_or]
  rw [hsub]
  apply List.length_filter_lt_length_iff_exists.2
  exact ⟨p, by simp [unopened, hp, hopen], by simp⟩

/-- What is seen at a place: nothing if a directory on the way to it is closed. -/
def entrySeen? (t : FileTree) (place : Place) : Option Entry :=
  if t.closed.any fun dir => dir.isPrefixOf place && dir.length < place.length then none
  else t.entryAt? place

/-- The root is seen, whichever directories are closed. -/
@[simp] theorem entrySeen?_root (t : FileTree) : t.entrySeen? [] = some .directory := by
  simp [entrySeen?]

/-- What is seen stands there: `t.entrySeen? place = some e` only if `t.entryAt? place = some e`. -/
theorem entryAt?_of_entrySeen? {t : FileTree} {place : Place} {e : Entry}
    (h : t.entrySeen? place = some e) : t.entryAt? place = some e := by
  unfold entrySeen? at h
  split at h
  · cases h
  · exact h

/-- Resolve `names` from the place `here`, link by link; `opened` are the links being followed.
Names that do not exist are kept as they are. The second part is `false` when a link leads back to
itself: then the first part keeps that link and everything after it. -/
def resolve (t : FileTree) (opened : List Place) (here : Place) (names : List String) :
    Place × Bool :=
  match names with
  | [] => (here, true)
  | name :: rest =>
    if name = "" ∨ name = "." then t.resolve opened here rest
    else if name = ".." then t.resolve opened here.dropLast rest
    else
      match _h : t.entrySeen? (here ++ [name]) with
      | some (.link target) =>
        if _ho : here ++ [name] ∈ opened then (here ++ name :: rest, false)
        else
          match t.resolve ((here ++ [name]) :: opened)
              (if Path.isAbsolute target then [] else here) (namesOf target) with
          | (place, true) => t.resolve opened place rest
          | (place, false) => (place ++ rest, false)
      | _ => t.resolve opened (here ++ [name]) rest
  termination_by ((t.unopened opened).length, names.length)
  decreasing_by
    all_goals first
      | exact Prod.Lex.right _ (by simp)
      | exact Prod.Lex.left _ _ (length_unopened_lt (by simp) (entryAt?_of_entrySeen? _h) _ho)

/-- The canonical path of the place that a path leads to, with every link on the way resolved. -/
def realPath (t : FileTree) (path : String) : String :=
  let place := (t.resolve [] [] (namesOf (Path.join t.workingDir path))).1
  Path.normalize "/" (String.ofList (List.intercalate ['/'] (place.map String.toList)))

end FileTree

end Restyle
