import Restyle.Failure
import Restyle.FileTree
import Restyle.Glob

/-! # Discovery
The stylesheets below a directory. A search follows a pattern step by step: it enters directories,
not links to directories, unless the pattern says so, and passes over what may not be listed.
Everything that it comes by is looked at, and a search ends where the system refuses that. The
directories that tools keep to themselves are skipped. -/

namespace Restyle

/-- The names of directories that hold no sources of their own. -/
def skippedDirectories : List String :=
  [".git", ".hg", ".svn", "node_modules", ".sass-cache", "__pycache__", ".venv", "venv", ".tox"]

/-! ## Patterns for paths -/

/-- A step of a search. -/
inductive SearchStep where
  /-- To every directory from here on down, this one included. -/
  | descend
  /-- To the names that a pattern stands for. -/
  | matching (pattern : List Glob.Token)
  /-- To one name. -/
  | name (name : String)
  /-- To stay in the directory. -/
  | stay
  deriving DecidableEq, Repr

/-- The step that a component of a pattern stands for. Two stars are a component by themselves. -/
def SearchStep.ofComponent? (c : List Char) : Option SearchStep :=
  if c = [] then some .stay
  else if c = ['*', '*'] then some .descend
  else if (List.range c.length).any fun n => ['*', '*'].isPrefixOf (c.drop n) then none
  else if c.any Glob.isSpecial then some (.matching (Glob.read c))
  else some (.name (String.ofList c))

/-- The steps that a pattern for paths stands for. A slash at its end stands for a step too. -/
def searchSteps? (pattern : List Char) : Option (List SearchStep) :=
  let components := (pattern.splitOn '/').filter fun c => c ≠ [] ∧ c ≠ ['.']
  (components ++ if pattern.getLast? = some '/' then [[]] else []).mapM SearchStep.ofComponent?

/-- The pattern for names with an extension. -/
def namePattern (extension : String) : List Char := '*' :: '.' :: extension.toList

namespace FileTree

/-! ## Searches -/

/-- The number of names on the longest way to an entry. -/
def depth (t : FileTree) : Nat := (t.entries.map (·.1.length)).foldl max 0

/-- The greatest of some numbers: `ns.foldl max start` is at least `start` and every member of
`ns`. -/
theorem le_foldl_max (ns : List Nat) (start : Nat) :
    start ≤ ns.foldl max start ∧ ∀ n ∈ ns, n ≤ ns.foldl max start := by
  induction ns generalizing start with
  | nil => exact ⟨Nat.le_refl start, fun n h => nomatch h⟩
  | cons n ns ih =>
    obtain ⟨hstart, hall⟩ := ih (max start n)
    refine ⟨Nat.le_trans (Nat.le_max_left _ _) hstart, ?_⟩
    intro k hk
    rcases List.mem_cons.mp hk with rfl | hk
    · exact Nat.le_trans (Nat.le_max_right _ _) hstart
    · exact hall k hk

/-- No way to an entry is longer than `t.depth`. -/
theorem length_le_depth_of_mem {t : FileTree} {entry : Place × Entry} (h : entry ∈ t.entries) :
    entry.1.length ≤ t.depth :=
  (le_foldl_max _ 0).2 _ (List.mem_map_of_mem h)

/-- The names of the directories in the directory at a place, links to directories not among
them. -/
def subdirectories (t : FileTree) (place : Place) : List String :=
  t.entries.filterMap fun entry =>
    if t.entryAt? entry.1 = some .directory then nameIn? place entry.1 else none

/-- `t.subdirectories place` names exactly the directories one level below `place`. -/
theorem mem_subdirectories {t : FileTree} {place : Place} {name : String} :
    name ∈ t.subdirectories place ↔ t.entryAt? (place ++ [name]) = some .directory := by
  simp only [subdirectories, List.mem_filterMap, Option.ite_none_right_eq_some, nameIn?_eq_some_iff]
  constructor
  · rintro ⟨entry, -, hdir, heq⟩
    exact heq ▸ hdir
  · intro hdir
    obtain ⟨entry, hentry, heq⟩ := exists_mem_of_entryAt? (by simp) hdir
    exact ⟨entry, hentry, heq ▸ hdir, heq⟩

/-- A directory that has subdirectories stands above `t.depth`, so that going down ends. -/
theorem length_lt_depth_of_mem_subdirectories {t : FileTree} {place : Place} {name : String}
    (h : name ∈ t.subdirectories place) : place.length < t.depth := by
  obtain ⟨entry, hentry, heq⟩ := exists_mem_of_entryAt? (by simp) (mem_subdirectories.mp h)
  have hle := length_le_depth_of_mem hentry
  rw [heq, List.length_append, List.length_singleton] at hle
  exact hle

/-- The directories from a place on down, outermost first, each by the names that lead there. What
is below a directory that may not be listed is passed over. -/
def directoriesFrom (t : FileTree) (place : Place) : List (List String) :=
  [] :: if place ∈ t.unlistable then []
    else
      (t.subdirectories place).attach.flatMap fun ⟨name, _⟩ =>
        (t.directoriesFrom (place ++ [name])).map (name :: ·)
  termination_by t.depth - place.length
  decreasing_by
    have hlt := length_lt_depth_of_mem_subdirectories ‹_›
    rw [List.length_append, List.length_singleton]
    omega

/-- The path to which `names` lead from `root`. -/
def pathTo (root : String) (names : List String) : String := names.foldl Path.join root

/-- The names among `found` through which a search can go on, because they lead to directories. It
ends where a directory on the way is closed, and fails where the system refuses to look for another
reason. -/
def enterable (t : FileTree) (root : String) (names : List String) :
    List String → List (Except Failure String)
  | [] => []
  | name :: found =>
    let path := pathTo root (names ++ [name])
    match t.testDirectory path with
    | .ok true => .ok name :: t.enterable root names found
    | .ok false => t.enterable root names found
    | .error .notPermitted => []
    | .error e => [.error (.system e path)]

/-- What a search comes by that takes some steps from where `names` lead: names that lead further
from `root`, or a failure that ends it. What may not be listed, or lies behind a closed directory,
is passed over. -/
def select (t : FileTree) (root : String) :
    List SearchStep → List String → List (Except Failure (List String))
  | [], names => [.ok names]
  | .stay :: _, names => [.ok names]
  | .name name :: steps, names =>
    let path := pathTo root (names ++ [name])
    match if steps = [] then t.testExists path else t.testDirectory path with
    | .ok true => t.select root steps (names ++ [name])
    | .ok false | .error .notPermitted => []
    | .error e => [.error (.system e path)]
  | .matching pattern :: steps, names =>
    match t.list (pathTo root names) with
    | .error .notPermitted => []
    | .error e => [.error (.system e (pathTo root names))]
    | .ok found =>
      (if steps = [] then found.map .ok else t.enterable root names found).flatMap fun
        | .error failure => [.error failure]
        | .ok name =>
          if Glob.accepts pattern name.toList then t.select root steps (names ++ [name]) else []
  | .descend :: steps, names =>
    match t.find (pathTo root names) with
    | .error e => [.error (.system e (pathTo root names))]
    | .ok place => (t.directoriesFrom place).flatMap fun more => t.select root steps (names ++ more)

/-- What a search for an extension comes by. -/
def hits (t : FileTree) (root : String) (deep : Bool) (extension : String) :
    List (Except Failure (List String)) :=
  match searchSteps? (namePattern extension) with
  | none => [.error .badPattern]
  | some steps =>
    match t.testDirectory root with
    | .ok true => t.select root (if deep then .descend :: steps else steps) []
    | .ok false => []
    | .error e => [.error (.system e root)]

/-- The canonical path to which `names` lead from `root`, if it leads to a regular file and no
directory on the way is skipped. -/
def keep? (t : FileTree) (root : String) (names : List String) : Except Failure (Option String) :=
  match t.testFile (pathTo root names) with
  | .error e => .error (.system e (pathTo root names))
  | .ok isFile =>
    .ok (if isFile && names.dropLast.all (!skippedDirectories.contains ·) then
      some (t.normalize (pathTo root names)) else none)

/-- The canonical paths of the stylesheets below `root`, in increasing order: regular files, and
links that lead to one. -/
def discover (t : FileTree) (root : String) (deep : Bool) (extensions : List String) :
    Except Failure (List String) := do
  let root := Path.tidy root
  let found ← (extensions.flatMap (t.hits root deep)).mapM fun hit => hit >>= t.keep? root
  return (found.filterMap id).eraseDups.mergeSort fun a b => decide (a ≤ b)

end FileTree

end Restyle
