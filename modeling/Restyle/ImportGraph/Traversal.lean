import Restyle.ImportGraph

/-! # Traversal
Walking the import graph breadth first, from a file to everything that imports it, or to everything
that it imports. Every file is listed once, cycles included, and the start comes first even when it
is no file of the graph. -/

namespace Restyle

variable {α : Type} [DecidableEq α]

/-- The members of `candidates` that are not in `seen`, each of them once. -/
def freshOnes (seen : List α) (candidates : List α) : List α :=
  (candidates.filter (· ∉ seen)).eraseDups

/-- Breadth-first search: `visited` has been expanded, `waiting` has been reached, and at most
`fuel` more nodes are expanded. The result lists the nodes in the order in which they were
reached. -/
def explore (next : α → List α) : Nat → List α → List α → List α
  | _, visited, [] => visited
  | 0, visited, waiting => visited ++ waiting
  | fuel + 1, visited, x :: waiting =>
    explore next fuel (visited ++ [x])
      (waiting ++ freshOnes (visited ++ x :: waiting) (next x))

namespace ImportGraph

/-- Everything that is reached from a file along `next`, which only leads to files of the graph: so
that no more nodes are expanded than the start and the files of the graph. -/
def reachFrom (g : ImportGraph) (next : String → List String) (path : String) : List String :=
  explore next (g.size + 1) [] [g.normalize path]

/-- The file at a path, followed by every file that imports it, directly or through others. -/
def ancestors (g : ImportGraph) (path : String) : List String := g.reachFrom g.importersOf path

/-- The file at a path, followed by every file that it imports, directly or through others. -/
def descendants (g : ImportGraph) (path : String) : List String := g.reachFrom g.importsOf path

/-- The files to render when the file at a path has changed: of itself and its importers, those that
are no partials. -/
def renderTargets (g : ImportGraph) (path : String) : List String :=
  (g.ancestors path).filter fun p => !Path.isPartial p

end ImportGraph

end Restyle
