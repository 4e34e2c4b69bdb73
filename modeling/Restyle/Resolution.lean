import Restyle.FileTree
import Restyle.Stylesheet.Import

/-! # Import resolution
From the targets that a stylesheet names to the files that they mean. A target is tried in the
directory of the importing file first and then in every load path, and in each of them under every
file name that it can stand for; the first regular file wins. -/

namespace Restyle

/-- The extensions of stylesheets. -/
def stylesheetExtensions : List String := ["scss", "sass"]

/-- The file names that may satisfy `target`, most specific first. A target with a known extension
stands for itself and its partial; any other is tried with each extension, and then as a directory
with an index file. A name that already starts with an underscore has no partial of its own. -/
def candidateNames (target : String) (extensions : List String) : List String :=
  let dir := Path.directory target
  let name := Path.fileName target
  let known := Path.extension name
  let partialOf (file : String) : List String :=
    if Path.isPartial target then [] else [Path.join dir ("_" ++ file)]
  if known ≠ "" ∧ String.ofList known.toList.tail ∈ extensions then target :: partialOf name
  else
    (extensions.flatMap fun e => (target ++ "." ++ e) :: partialOf (name ++ "." ++ e)) ++
      extensions.flatMap fun e =>
        [Path.join target ("index." ++ e), Path.join target ("_index." ++ e)]

/-- How imports are resolved: where to look besides the importer's own directory, and for which
extensions. -/
structure Loader where
  /-- The load paths, tried in order. -/
  loadPaths : List String := []
  /-- The extensions of stylesheets, tried in order. -/
  extensions : List String := stylesheetExtensions

namespace Loader

/-- A loader whose load paths are in canonical form. -/
def make (t : FileTree) (loadPaths extensions : List String) : Loader :=
  { loadPaths := loadPaths.map t.normalize, extensions }

/-- Every path that `target` may mean in the file `importer`, by priority. -/
def candidates (l : Loader) (t : FileTree) (importer target : String) : List String :=
  (Path.directory importer :: l.loadPaths).flatMap fun dir =>
    (candidateNames target l.extensions).map (Path.normalize (t.normalize dir))

/-- The file that `target` means in the file `importer`. -/
def resolve? (l : Loader) (t : FileTree) (importer target : String) : Option String :=
  (l.candidates t importer target).find? t.isFile

end Loader

/-- The imports of one stylesheet. -/
structure FileImports where
  /-- The stylesheet. -/
  path : String
  /-- The targets as they are written. -/
  targets : List String
  /-- The files that they mean, each of them once. -/
  resolved : List String
  /-- The targets that mean no file. -/
  unresolved : List String
  deriving DecidableEq, Repr

/-- The dialect that the name of a stylesheet announces. -/
def dialectOf (path : String) : Stylesheet.Dialect :=
  if ".sass".toList.isSuffixOf path.toList then .indented else .block

namespace Loader

/-- The imports of the stylesheet `path` with the given text. -/
def importsOf (l : Loader) (t : FileTree) (path : String) (source : List Char) : FileImports :=
  let targets := Stylesheet.imports (dialectOf path) source
  { path, targets
    resolved := (targets.filterMap (l.resolve? t path)).eraseDups
    unresolved := targets.filter fun target => (l.resolve? t path target).isNone }

/-- The imports of the stylesheet that stands at `path`, in any spelling of it. -/
def read (l : Loader) (t : FileTree) (path : String) : Except FileError FileImports :=
  (t.readText (Path.tidy path)).map (l.importsOf t path)

end Loader

end Restyle
