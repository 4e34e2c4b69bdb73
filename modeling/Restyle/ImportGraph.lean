import Restyle.Failure
import Restyle.Path

/-! # The import graph
Stylesheets and the imports between them. The graph keeps two indices, from each file to the files
it imports and back, so that a look-up in either direction touches only the files it returns. Every
path is brought to its canonical form first; once frozen, a graph does not change. -/

namespace Restyle

/-- A stylesheet of the graph. -/
structure StylesheetFile where
  /-- The canonical path. -/
  path : String
  /-- Whether the file is a partial, which is only rendered through its importers. -/
  isPartial : Bool
  deriving DecidableEq, Repr

/-- The stylesheet at a path, a relative one being read from `dir`. -/
def StylesheetFile.ofPath (dir path : String) : StylesheetFile :=
  let path := Path.normalize dir path
  { path, isPartial := Path.isPartial path }

/-- An index from files to files: the keys in the order in which they were declared, each with its
neighbours in the order in which they were attached. -/
abbrev Index := List (String × List String)

namespace Index

/-- The neighbours of a file; none for a file that is not declared. -/
def neighbours (ix : Index) (path : String) : List String := (ix.lookup path).getD []

/-- Declare a file, with no neighbours, unless it is declared already. -/
def declare (ix : Index) (path : String) : Index :=
  if (ix.lookup path).isSome then ix else ix ++ [(path, [])]

/-- Attach `neighbour` to the file `path` as its last neighbour. -/
def attach (ix : Index) (path neighbour : String) : Index :=
  ix.map fun p => if p.1 = path then (p.1, p.2 ++ [neighbour]) else p

/-- The pairs of a file and one of its neighbours. -/
def pairs (ix : Index) : List (String × String) := ix.flatMap fun p => p.2.map (p.1, ·)

end Index

/-- An import that means no file. -/
structure UnresolvedImport where
  /-- The importing file. -/
  importer : String
  /-- The target as it is written. -/
  target : String
  deriving DecidableEq, Repr

/-- The failure that reports an unresolved import. -/
def UnresolvedImport.failure (u : UnresolvedImport) : Failure :=
  .unresolvedImport u.importer u.target

/-- Stylesheets and the imports between them. -/
structure ImportGraph where
  /-- The path that the graph was built for. -/
  root : String := ""
  /-- The load paths that imports were resolved with. -/
  includePaths : List String := []
  /-- The directory that relative paths are read from. -/
  workingDir : String := "/"
  /-- The imports that could not be resolved, in the order in which they were met. -/
  unresolved : List UnresolvedImport := []
  /-- From each file to the files that it imports. -/
  imports : Index := []
  /-- From each file to the files that import it. -/
  importers : Index := []
  /-- Whether the graph is complete and can no longer be changed. -/
  isFrozen : Bool := false
  deriving Inhabited

/-- The refusal to change a graph. -/
inductive GraphError where
  /-- The graph is complete. -/
  | frozen
  deriving DecidableEq, Repr

/-- The text of a refusal. -/
def GraphError.message : GraphError → String
  | .frozen => "DependencyGraph is read-only after construction"

namespace ImportGraph

/-- The canonical form of a path. -/
def normalize (g : ImportGraph) (path : String) : String := Path.normalize g.workingDir path

/-! ## Construction -/

/-- Declare the file at a canonical path in both indices. -/
def insertNode (g : ImportGraph) (path : String) : ImportGraph :=
  { g with imports := g.imports.declare path, importers := g.importers.declare path }

/-- Record one import between canonical paths, in both indices and once only. -/
def insertEdge (g : ImportGraph) (importer imported : String) : ImportGraph :=
  let g := (g.insertNode importer).insertNode imported
  if imported ∈ g.imports.neighbours importer then g
  else
    { g with
      imports := g.imports.attach importer imported
      importers := g.importers.attach imported importer }

/-- Add a file, unless the graph is frozen. -/
def addFile (g : ImportGraph) (path : String) : Except GraphError ImportGraph :=
  if g.isFrozen then .error .frozen else .ok (g.insertNode (g.normalize path))

/-- Add an import, with the files at both ends, unless the graph is frozen. -/
def addEdge (g : ImportGraph) (importer imported : String) : Except GraphError ImportGraph :=
  if g.isFrozen then .error .frozen
  else .ok (g.insertEdge (g.normalize importer) (g.normalize imported))

/-- The graph, complete. -/
def freeze (g : ImportGraph) : ImportGraph := { g with isFrozen := true }

/-! ## Queries -/

/-- The canonical paths of the files, in the order in which they were added. -/
def paths (g : ImportGraph) : List String := g.imports.map (·.1)

/-- The number of files. -/
def size (g : ImportGraph) : Nat := g.imports.length

/-- The files, in the order in which they were added. -/
def files (g : ImportGraph) : List StylesheetFile :=
  g.paths.map fun path => { path, isPartial := Path.isPartial path }

/-- The file at a path. -/
def file? (g : ImportGraph) (path : String) : Option StylesheetFile :=
  let path := g.normalize path
  if path ∈ g.paths then some { path, isPartial := Path.isPartial path } else none

/-- Whether the graph has the file at a path. -/
def contains (g : ImportGraph) (path : String) : Bool := (g.file? path).isSome

/-- The files that the file at a path imports. -/
def importsOf (g : ImportGraph) (path : String) : List String :=
  g.imports.neighbours (g.normalize path)

/-- The files that import the file at a path. -/
def importersOf (g : ImportGraph) (path : String) : List String :=
  g.importers.neighbours (g.normalize path)

/-- Every import, as a pair of the importing and the imported file. -/
def edges (g : ImportGraph) : List (String × String) := g.imports.pairs

/-- Whether the two indices hold the same imports. -/
def isConsistent (g : ImportGraph) : Bool :=
  let back := g.importers.pairs.map Prod.swap
  g.edges.all (back.contains ·) && back.all (g.edges.contains ·)

end ImportGraph

end Restyle
