import Restyle.FileError

/-! # Failures
The failures that are reported to the user, each with its causes, and their wording. -/

namespace Restyle

/-- A failure that is reported to the user. -/
inductive Failure where
  /-- The import graph below `root` cannot be built, for the given reason if there is one. -/
  | scan (root reason : String)
  /-- An import target of the file `importer` means no file. -/
  | unresolvedImport (importer target : String)
  /-- Watching failed, at the given path if it is known. -/
  | watch (message : String) (path : Option String)
  /-- Rendering the stylesheet `source` failed. -/
  | render (source message : String)
  /-- The system refused to look at a path. -/
  | system (e : FileError) (path : String)
  /-- An extension makes no pattern for names. -/
  | badPattern
  deriving DecidableEq, Repr, Inhabited

/-- The text of a failure. -/
def Failure.message : Failure → String
  | .scan root reason =>
    let what := "Cannot build import graph for '" ++ root ++ "'"
    if reason = "" then what else what ++ ": " ++ reason
  | .unresolvedImport importer target =>
    "Cannot resolve import '" ++ target ++ "' in " ++ importer
  | .watch message _ => message
  | .render _ message => message
  | .system e path => e.message path
  | .badPattern => "Invalid pattern: '**' can only be an entire path component"

end Restyle
