import Restyle.Dispatcher
import Restyle.ImportGraph.Scan

/-! # One-shot compilation
Rendering a file, or every stylesheet below a directory that is no partial, once and in order. The
first failure ends the compilation. -/

namespace Restyle

/-- What to compile, and how. -/
structure CompileRequest (ω : Type) where
  /-- A file or a directory. -/
  root : String
  /-- The options that all renders share. -/
  base : RenderOptions ω
  /-- Whether directories below the root are compiled too. -/
  deep : Bool := true
  /-- The directory for output files. -/
  outputDir : Option String := none
  /-- The output file of a single file. -/
  outputFile : Option String := none
  /-- The extensions of stylesheets. -/
  extensions : List String := stylesheetExtensions

/-- The directory whose layout a root stands for, and the root itself if it is a file. -/
def FileTree.rootLayout (t : FileTree) (root : String) : String × Option String :=
  if t.isFile root then (t.normalize (Path.directory root), some (t.normalize root))
  else (t.normalize root, none)

namespace CompileRequest

variable {ω : Type}

/-- The files to compile. -/
def targets (q : CompileRequest ω) (t : FileTree) : Except Failure (List String) :=
  let root := t.absolute q.root
  match (t.rootLayout root).2 with
  | some entry => .ok [entry]
  | none => (t.discover root q.deep q.extensions).map fun found => found.filter fun p =>
    !Path.isPartial p

/-- The project of a root with the given import graph. -/
def project (q : CompileRequest ω) (t : FileTree) (graph : ImportGraph) : Project ω :=
  let (rootDir, entryFile) := t.rootLayout (t.absolute q.root)
  { graph, base := q.base
    layout := { outputDir := q.outputDir, outputFile := q.outputFile, rootDir := some rootDir }
    entryFile }

/-- The dispatcher of a compilation, whose graph is empty. -/
def dispatcher (q : CompileRequest ω) (t : FileTree) : Dispatcher ω :=
  let graph : ImportGraph :=
    { root := (t.rootLayout (t.absolute q.root)).1, workingDir := t.workingDir }
  { toProject := q.project t graph.freeze }

end CompileRequest

/-- A compilation: its notices, the calls of the renderer, and the exit status or the failure. -/
structure Compilation (ω : Type) where
  /-- The notices, oldest first. -/
  notices : List Notice
  /-- The calls of the renderer, oldest first. -/
  calls : List (RenderOptions ω)
  /-- Zero when everything was rendered, one when a render failed. -/
  status : Except Failure Nat

variable {ω : Type}

/-- The failure that ends a compilation: how far it came, out of `total` files. -/
def stoppedAt (target : String) (compiled total : Nat) : Failure :=
  .render target ("Compilation stopped at " ++ target ++ " (" ++ toString compiled ++ " of " ++
    toString total ++ " file(s) compiled)")

/-- Render `targets` in order, until one of them fails; `total` files were asked for. -/
def compileAll (r : Renderer ω) (total : Nat) (d : Dispatcher ω) : List String → Compilation ω
  | [] =>
    { notices := d.notices ++ [.log ("Compiled " ++ toString d.renderCount ++ " file(s)")]
      calls := d.calls
      status := .ok 0 }
  | target :: rest =>
    match d.renderNow r target with
    | (true, d) => compileAll r total d rest
    | (false, d) =>
      { notices := d.notices ++ [.error (stoppedAt target d.renderCount total)]
        calls := d.calls
        status := .ok 1 }

/-- Compile a root. A root that does not exist is reported; where the system refuses to look,
nothing is. -/
def compileOnce (r : Renderer ω) (t : FileTree) (q : CompileRequest ω) : Compilation ω :=
  let root := t.absolute q.root
  match t.testExists root with
  | .error e => { notices := [], calls := [], status := .error (.system e root) }
  | .ok false =>
    let failure := Failure.scan root ScanProblem.missing.reason
    { notices := [.error failure], calls := [], status := .error failure }
  | .ok true =>
    match q.targets t with
    | .error failure => { notices := [], calls := [], status := .error failure }
    | .ok targets => compileAll r targets.length (q.dispatcher t) targets

end Restyle
