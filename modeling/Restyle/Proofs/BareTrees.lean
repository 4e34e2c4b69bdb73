import Mathlib
import Restyle.Proofs.FileWrites
import Restyle.Settings.Store

/-! # File trees without contents
Where a path leads, and where something can be made, does not depend on what the files of a tree
hold (`SameShape.find_eq`). So a tree with empty files (`FileTree.bare`) is walked in the same way,
and after the same files and directories have been made in both it is still the tree with empty
files (`Settings.openFile_bare`). -/

namespace Restyle

/-- What is left of an entry without contents. -/
def Entry.shape : Entry → Entry
  | .file _ => .file []
  | e => e

/-- `e.shape.shape = e.shape`. -/
@[simp] theorem Entry.shape_shape (e : Entry) : e.shape.shape = e.shape := by
  cases e <;> rfl

namespace FileTree

variable {t t' : FileTree} {place : Place} {path : String}

/-! ## Trees of the same shape -/

/-- Two trees that can only be told apart by what their files hold. Directories list their names in
the same order. -/
structure SameShape (t t' : FileTree) : Prop where
  /-- Entries stand at the same places, in the same order. -/
  places_eq : t'.entries.map Prod.fst = t.entries.map Prod.fst
  /-- Relative paths are read from the same directory. -/
  workingDir_eq : t'.workingDir = t.workingDir
  /-- Reading is refused for the same paths. -/
  unreadable_iff : ∀ path, path ∈ t'.unreadable ↔ path ∈ t.unreadable
  /-- The same directories do not tell which names they hold. -/
  unlistable_iff : ∀ place, place ∈ t'.unlistable ↔ place ∈ t.unlistable
  /-- No path can pass through the same directories. -/
  closed_iff : ∀ place, place ∈ t'.closed ↔ place ∈ t.closed
  /-- The same directories, links and files stand at the same places. -/
  shape_eq : ∀ place, (t'.entryAt? place).map Entry.shape = (t.entryAt? place).map Entry.shape

namespace SameShape

/-- `SameShape` is symmetric. -/
theorem symm (h : t.SameShape t') : t'.SameShape t where
  places_eq := h.places_eq.symm
  workingDir_eq := h.workingDir_eq.symm
  unreadable_iff path := (h.unreadable_iff path).symm
  unlistable_iff place := (h.unlistable_iff place).symm
  closed_iff place := (h.closed_iff place).symm
  shape_eq place := (h.shape_eq place).symm

/-- `entryAt? place` is the same in both trees, or a `.file` in both. -/
theorem entryAt?_eq_or_file (h : t.SameShape t') (place : Place) :
    t'.entryAt? place = t.entryAt? place ∨
      ∃ bytes bytes', t.entryAt? place = some (.file bytes) ∧
      t'.entryAt? place = some (.file bytes') := by
  have hshape := h.shape_eq place
  revert hshape
  cases t.entryAt? place with
  | none => simp
  | some e =>
    cases t'.entryAt? place with
    | none => simp
    | some e' => cases e <;> cases e' <;> simp [Entry.shape]

/-- `entryAt? place` is a directory in one tree exactly if it is in the other. -/
theorem eq_directory_iff (h : t.SameShape t') (place : Place) :
    t'.entryAt? place = some .directory ↔ t.entryAt? place = some .directory := by
  rcases h.entryAt?_eq_or_file place with heq | ⟨bytes, bytes', hfile, hfile'⟩
  · rw [heq]
  · rw [hfile, hfile']
    simp

/-- Something stands at a place of one tree exactly if something stands there in the other. -/
theorem isSome_entryAt?_eq (h : t.SameShape t') (place : Place) :
    (t'.entryAt? place).isSome = (t.entryAt? place).isSome := by
  simpa using congrArg Option.isSome (h.shape_eq place)

/-- `t'.walk links here names = t.walk links here names`: where names lead does not depend on what
the files hold. -/
theorem walk_eq (h : t.SameShape t') (links : Nat) (here : Place) (names : List String) :
    t'.walk links here names = t.walk links here names := by
  -- by recursion on `walk` itself: the step looks at the tree only for directories and for the next
  -- entry
  rw [walk.eq_def, walk.eq_def t]
  cases names with
  | nil => rfl
  | cons name rest =>
    have hnext := h.walk_eq links (here ++ [name]) rest
    simp only [ne_eq, h.eq_directory_iff, h.closed_iff, h.walk_eq links here rest,
      h.walk_eq links here.dropLast rest]
    rcases h.entryAt?_eq_or_file (here ++ [name]) with heq | ⟨bytes, bytes', hfile, hfile'⟩
    · rw [heq]
      cases t.entryAt? (here ++ [name]) with
      | none => rfl
      | some e =>
        cases e with
        | file => simp only [hnext]
        | directory => simp only [hnext]
        | link target =>
          cases links with
          | zero => rfl
          | succ links => simp only [h.walk_eq links _ (namesOf target ++ rest)]
    · simp only [hfile, hfile', hnext]
  termination_by (links, names.length)

/-- `t'.find path = t.find path`. -/
theorem find_eq (h : t.SameShape t') (path : String) : t'.find path = t.find path := by
  unfold find
  rw [h.workingDir_eq, h.walk_eq]

/-- `t'.walkToWrite links here names = t.walkToWrite links here names`: nor does where something is
written. -/
theorem walkToWrite_eq (h : t.SameShape t') (links : Nat) (here : Place) (names : List String) :
    t'.walkToWrite links here names = t.walkToWrite links here names := by
  -- as for `walk_eq`; what is missing at the end of the names does not depend on contents either
  rw [walkToWrite.eq_def, walkToWrite.eq_def t]
  cases names with
  | nil => rfl
  | cons name rest =>
    have hnext := h.walkToWrite_eq links (here ++ [name]) rest
    simp only [ne_eq, h.eq_directory_iff, h.closed_iff, h.walkToWrite_eq links here rest,
      h.walkToWrite_eq links here.dropLast rest]
    rcases h.entryAt?_eq_or_file (here ++ [name]) with heq | ⟨bytes, bytes', hfile, hfile'⟩
    · rw [heq]
      cases t.entryAt? (here ++ [name]) with
      | none => rfl
      | some e =>
        cases e with
        | file => simp only [hnext]
        | directory => simp only [hnext]
        | link target =>
          cases links with
          | zero => rfl
          | succ links => simp only [h.walkToWrite_eq links _ (namesOf target ++ rest)]
    · simp only [hfile, hfile', hnext]
  termination_by (links, names.length)

/-- `t'.findToWrite path = t.findToWrite path`. -/
theorem findToWrite_eq (h : t.SameShape t') (path : String) :
    t'.findToWrite path = t.findToWrite path := by
  unfold findToWrite
  rw [h.workingDir_eq, h.walkToWrite_eq]

/-- `follow? path` is the same in both trees, or a `.file` in both. -/
theorem follow?_eq_or_file (h : t.SameShape t') (path : String) :
    t'.follow? path = t.follow? path ∨
      ∃ bytes bytes', t.follow? path = some (.file bytes) ∧
      t'.follow? path = some (.file bytes') := by
  unfold follow?
  rw [h.find_eq]
  cases t.find path with
  | error e => exact .inl rfl
  | ok place => exact h.entryAt?_eq_or_file place

/-- `t'.pathExists path = t.pathExists path`. -/
theorem pathExists_eq (h : t.SameShape t') (path : String) :
    t'.pathExists path = t.pathExists path := by
  unfold pathExists
  rcases h.follow?_eq_or_file path with heq | ⟨bytes, bytes', hfile, hfile'⟩
  · rw [heq]
  · rw [hfile, hfile', Option.isSome_some, Option.isSome_some]

/-- `look path` is the same in both trees, a refusal included, or a `.file` in both. -/
theorem look_eq_or_file (h : t.SameShape t') (path : String) :
    t'.look path = t.look path ∨
      ∃ bytes bytes', t.look path = .ok (some (.file bytes)) ∧
      t'.look path = .ok (some (.file bytes')) := by
  unfold look
  rw [h.find_eq]
  cases t.find path with
  | error e => exact .inl rfl
  | ok place =>
    simp only [Except.ok.injEq]
    exact h.entryAt?_eq_or_file place

/-- `t.testExists path` does not depend on what the files hold. -/
theorem testExists_eq (h : t.SameShape t') (path : String) :
    t'.testExists path = t.testExists path := by
  unfold testExists
  rcases h.look_eq_or_file path with heq | ⟨bytes, bytes', hfile, hfile'⟩
  · rw [heq]
  · rw [hfile, hfile']
    rfl

/-- `t.testFile path` does not depend on what the files hold. -/
theorem testFile_eq (h : t.SameShape t') (path : String) : t'.testFile path = t.testFile path := by
  unfold testFile
  rcases h.look_eq_or_file path with heq | ⟨bytes, bytes', hfile, hfile'⟩
  · rw [heq]
  · rw [hfile, hfile']
    rfl

/-- `t.testDirectory path` does not depend on what the files hold. -/
theorem testDirectory_eq (h : t.SameShape t') (path : String) :
    t'.testDirectory path = t.testDirectory path := by
  unfold testDirectory
  rcases h.look_eq_or_file path with heq | ⟨bytes, bytes', hfile, hfile'⟩
  · rw [heq]
  · rw [hfile, hfile']
    rfl

/-- `t'.isFile path = t.isFile path`. -/
theorem isFile_eq (h : t.SameShape t') (path : String) : t'.isFile path = t.isFile path := by
  unfold isFile
  rcases h.follow?_eq_or_file path with heq | ⟨bytes, bytes', hfile, hfile'⟩
  · rw [heq]
  · rw [hfile, hfile']

/-- `t'.isDirectory path = t.isDirectory path`. -/
theorem isDirectory_eq (h : t.SameShape t') (path : String) :
    t'.isDirectory path = t.isDirectory path := by
  unfold isDirectory
  rcases h.follow?_eq_or_file path with heq | ⟨bytes, bytes', hfile, hfile'⟩
  · rw [heq]
  · simp [hfile, hfile']

/-- `t'.isReadable path = t.isReadable path`. -/
theorem isReadable_eq (h : t.SameShape t') (path : String) :
    t'.isReadable path = t.isReadable path := by
  rw [isReadable, isReadable, h.pathExists_eq, h.find_eq]
  simp only [h.unreadable_iff, h.unlistable_iff]

/-- `t.isPassable path` does not depend on what the files hold. -/
theorem isPassable_eq (h : t.SameShape t') (path : String) :
    t'.isPassable path = t.isPassable path := by
  rw [isPassable, isPassable, h.find_eq]
  simp only [h.closed_iff]

/-- `t'.newPlace path = t.newPlace path`. -/
theorem newPlace_eq (h : t.SameShape t') (path : String) : t'.newPlace path = t.newPlace path := by
  unfold newPlace
  simp only [h.workingDir_eq, h.find_eq, ne_eq, h.eq_directory_iff, h.isSome_entryAt?_eq]

end SameShape

/-! ## Empty files -/

/-- The tree in which all files are empty. -/
def bare (t : FileTree) : FileTree := { t with entries := t.entries.map fun p => (p.1, p.2.shape) }

/-- Looking up a place among the shapes of entries gives the shape of what is found. -/
theorem lookup_map_shape (entries : List (Place × Entry)) (place : Place) :
    (entries.map fun p => (p.1, p.2.shape)).lookup place =
      (entries.lookup place).map Entry.shape := by
  induction entries with
  | nil => rfl
  | cons p entries ih =>
    rw [List.map_cons, lookup_cons_eq_ite, ← Prod.mk.eta (p := p), lookup_cons_eq_ite]
    split
    · rfl
    · exact ih

/-- `t.bare.entryAt? place = (t.entryAt? place).map Entry.shape`. -/
theorem entryAt?_bare (t : FileTree) (place : Place) :
    t.bare.entryAt? place = (t.entryAt? place).map Entry.shape := by
  cases place with
  | nil => rfl
  | cons name names => exact lookup_map_shape t.entries (name :: names)

/-- `t` and `t.bare` have the same shape. -/
theorem sameShape_bare (t : FileTree) : t.SameShape t.bare where
  places_eq := by simp [bare]
  workingDir_eq := rfl
  unreadable_iff _ := .rfl
  unlistable_iff _ := .rfl
  closed_iff _ := .rfl
  shape_eq place := by
    rw [entryAt?_bare, Option.map_map]
    exact congrArg (Option.map · _) (funext Entry.shape_shape)

/-! ## What is made in a tree without contents -/

/-- `bare` goes through `put`. -/
theorem put_bare (t : FileTree) (place : Place) (e : Entry) :
    t.bare.put place e.shape = (t.put place e).bare := by
  unfold put bare
  simp only [lookup_map_shape, Option.isSome_map]
  split
  · simp only [List.map_map]
    congr 2
    funext p
    simp only [Function.comp_apply]
    split <;> rfl
  · simp only [List.map_append, List.map_cons, List.map_nil]

/-- `bare` goes through `writeFile`: it succeeds or fails the same whatever the files hold. -/
theorem writeFile_bare (t : FileTree) (path : String) (content : List UInt8) :
    t.bare.writeFile path [] = (t.writeFile path content).map bare := by
  -- an empty file is what is left of any file, so the content that is written does not matter
  unfold writeFile
  rw [t.sameShape_bare.findToWrite_eq]
  cases t.findToWrite path with
  | error e => rfl
  | ok place =>
    simp only [t.sameShape_bare.eq_directory_iff]
    split
    · rfl
    · exact congrArg Except.ok (put_bare t place (.file content))

/-- `bare` goes through `makeDirectory`. -/
theorem makeDirectory_bare (t : FileTree) (path : String) :
    t.bare.makeDirectory path = (t.makeDirectory path).map bare := by
  unfold makeDirectory
  rw [t.sameShape_bare.newPlace_eq]
  cases t.newPlace path with
  | error e => rfl
  | ok place => exact congrArg Except.ok (put_bare t place .directory)

/-- `bare` goes through `passThrough`. -/
theorem passThrough_bare (t : FileTree) (path : String) :
    t.bare.passThrough path = (t.passThrough path).map bare := by
  unfold passThrough
  rw [t.sameShape_bare.pathExists_eq, makeDirectory_bare]
  split
  · rfl
  · cases t.makeDirectory path with
    | error e => cases e <;> rfl
    | ok made => rfl

/-- `bare` goes through a row of `passThrough`s. -/
theorem foldlM_passThrough_bare (t : FileTree) (ways : List String) :
    ways.foldlM passThrough t.bare = (ways.foldlM passThrough t).map bare := by
  induction ways generalizing t with
  | nil => rfl
  | cons way ways ih =>
    rw [List.foldlM_cons, List.foldlM_cons, passThrough_bare]
    cases t.passThrough way with
    | error e => rfl
    | ok between => exact ih between

/-- `bare` goes through `makeDirectories`. -/
theorem makeDirectories_bare (t : FileTree) (path : String) :
    t.bare.makeDirectories path = (t.makeDirectories path).map bare := by
  have hways : t.bare.waypoints path = t.waypoints path := rfl
  unfold makeDirectories
  simp only [hways, foldlM_passThrough_bare]
  cases (t.waypoints path).dropLast.foldlM passThrough t with
  | error e => rfl
  | ok between =>
    cases (t.waypoints path).getLast? with
    | none => rfl
    | some way =>
      show (if between.bare.isDirectory way = true then Except.ok between.bare
          else between.bare.makeDirectory way) =
        (if between.isDirectory way = true then Except.ok between
          else between.makeDirectory way).map bare
      rw [between.sameShape_bare.isDirectory_eq, makeDirectory_bare]
      split <;> rfl

end FileTree

/-- `bare` goes through `openFile`: opening a settings file does not depend on what the files
hold. -/
theorem Settings.openFile_bare (t : FileTree) (path : String) :
    openFile t.bare path = (openFile t path).map FileTree.bare := by
  unfold openFile
  rw [FileTree.makeDirectories_bare]
  cases t.makeDirectories (Path.directory path) with
  | error e => rfl
  | ok made => exact FileTree.writeFile_bare made path []

end Restyle
