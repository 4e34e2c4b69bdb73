import Restyle.Discovery
import Restyle.ImportGraph
import Restyle.Notice
import Restyle.Resolution

/-! # Scanning a file tree
Building the import graph of everything below a root. The stylesheets found there are read one after
the other, and so is every file that an import leads to, inside the root or not. A file that cannot
be read has no imports; an import that means no file is recorded. -/

namespace Restyle

/-- The notice that reports an unresolved import. -/
def UnresolvedImport.notice (u : UnresolvedImport) : Notice := .warn u.failure.message

namespace FileTree

/-- An upper bound on the number of canonical paths that lead to a file: each component is the name
of an entry, either one level down or one of at most `linkLimit` links, and a path starts with one
slash or two. -/
def pathBound (t : FileTree) : Nat :=
  2 * Nat.pow (t.entries.length + 1) ((linkLimit + 1) * (t.depth + 1))

/-- An upper bound on the number of turns that a scan takes when it starts from a number of files:
every file is waited for at the start, and once for every file that imports it. -/
def turnBound (t : FileTree) (started : Nat) : Nat :=
  (t.pathBound + started) + (t.pathBound + started) * (t.pathBound + started)

end FileTree

/-- A scan in progress. -/
structure Scan where
  /-- The graph so far. -/
  graph : ImportGraph
  /-- The files that have been looked at, in that order. -/
  visited : List String := []
  /-- The files that are to be looked at, some of them several times. -/
  waiting : List String := []
  /-- What has been reported, oldest first. -/
  notices : List Notice := []

namespace Scan

/-- Record what one file imports: report the imports that mean no file, add the others to the graph,
and have the files that they lead to looked at. -/
def record (s : Scan) (file : FileImports) : Scan :=
  let unresolved := file.unresolved.map (UnresolvedImport.mk file.path)
  { s with
    graph := file.resolved.foldl (fun g imported => g.insertEdge file.path imported)
      { s.graph with unresolved := s.graph.unresolved ++ unresolved }
    waiting := s.waiting ++ file.resolved.filter (· ∉ s.visited)
    notices := s.notices ++ unresolved.map UnresolvedImport.notice }

/-- Look at one file, and record what it imports if it can be read. -/
def visit (t : FileTree) (l : Loader) (s : Scan) (path : String) : Scan :=
  let s := { s with visited := s.visited ++ [path] }
  match l.read t path with
  | .error _ => s
  | .ok file => s.record file

/-- One turn of the scan: take the first file that waits, and look at it unless it has been looked
at before. -/
def step (t : FileTree) (l : Loader) (s : Scan) : Scan :=
  match s.waiting with
  | [] => s
  | path :: rest =>
    let s := { s with waiting := rest }
    if path ∈ s.visited then s else s.visit t l path

/-- Take turns until no file waits, but no more than `turns`. -/
def run (t : FileTree) (l : Loader) : Nat → Scan → Scan
  | 0, s => s
  | turns + 1, s => if s.waiting = [] then s else run t l turns (s.step t l)

end Scan

/-- Why a root cannot be scanned. -/
inductive ScanProblem where
  /-- The root does not exist. -/
  | missing
  /-- The directory to scan may not be read. -/
  | unreadableDirectory
  /-- The file that is the root may not be read. -/
  | unreadableFile
  deriving DecidableEq, Repr

/-- The reason given for a problem. -/
def ScanProblem.reason : ScanProblem → String
  | .missing => "path does not exist"
  | .unreadableDirectory => "directory is not readable"
  | .unreadableFile => "file is not readable"

/-- What to scan: the root and how to read it. -/
structure ScanRequest where
  /-- A directory, or a file whose directory is scanned. -/
  root : String
  /-- The load paths. -/
  includePaths : List String := []
  /-- Whether directories below the root are scanned too. -/
  deep : Bool := true
  /-- The extensions of stylesheets. -/
  extensions : List String := stylesheetExtensions

namespace FileTree

/-- The absolute text of a path, with its `..` components. -/
def absolute (t : FileTree) (path : String) : String :=
  Path.tidy (Path.join t.workingDir (Path.tidy path))

/-- The directory to scan for a root: the directory of a file, and any other root itself. -/
def directoryToScan (t : FileTree) (root : String) : String :=
  if t.isFile root then Path.directory root else root

/-- The directory that is scanned for a root, which must be an absolute path. -/
def scanRoot (t : FileTree) (root : String) : Except Failure String :=
  match t.testExists root with
  | .error e => .error (.system e root)
  | .ok false => .error (.scan root ScanProblem.missing.reason)
  | .ok true =>
    let dir := t.directoryToScan root
    if !(t.isReadable dir && t.isPassable dir)
      then .error (.scan root ScanProblem.unreadableDirectory.reason)
    else if t.isFile root && !t.isReadable root
      then .error (.scan root ScanProblem.unreadableFile.reason)
    else .ok dir

/-- The files that a scan starts from: the stylesheets that were found, and the root if it is a
file. -/
def scanStart (t : FileTree) (root : String) (found : List String) : List String :=
  if t.isFile root ∧ t.normalize root ∉ found then found ++ [t.normalize root] else found

/-- The state in which a scan starts: every file that it starts from is a file of the graph, and
waits. -/
def beginScan (t : FileTree) (r : ScanRequest) (root : String) (start : List String) : Scan :=
  let g : ImportGraph :=
    { root := t.normalize root
      includePaths := (Loader.make t r.includePaths r.extensions).loadPaths
      workingDir := t.workingDir }
  { graph := start.foldl ImportGraph.insertNode g, waiting := start }

/-- What is reported when the search for stylesheets below `root` fails: a refusal of the system is
the reason why the graph cannot be built. -/
def searchFailure (root : String) : Failure → Failure
  | .system e path => .scan root (e.message path)
  | failure => failure

/-- The whole scan of everything below a root. -/
def scanAll (t : FileTree) (r : ScanRequest) : Except Failure Scan := do
  let root := t.absolute r.root
  let dir ← t.scanRoot root
  let found ← (t.discover dir r.deep r.extensions).mapError (searchFailure root)
  let start := t.scanStart root found
  return (t.beginScan r root start).run t (Loader.make t r.includePaths r.extensions)
    (t.turnBound start.length)

/-- The import graph of everything below a root. -/
def scan (t : FileTree) (r : ScanRequest) : Except Failure ImportGraph :=
  (t.scanAll r).map fun s => s.graph.freeze

end FileTree

end Restyle
