import Restyle.FileTree

/-! # File events
What the operating system tells about files, and what the watcher makes of it. Files and links come
and go while they are watched, so that every path of an event is met in a file tree of its own. -/

namespace Restyle

/-- What happened to a file, as far as the watcher's clients are told. -/
inductive ChangeKind where
  /-- The file has other contents. -/
  | changed
  /-- The file is gone. -/
  | removed
  /-- Watching the file failed. -/
  | error
  deriving DecidableEq, Repr, Inhabited

namespace ChangeKind

/-- The name of a kind of change. -/
def name : ChangeKind → String
  | .changed => "changed"
  | .removed => "removed"
  | .error => "error"

/-- The kind of change with a name. -/
def ofName? (name : String) : Option ChangeKind :=
  [ChangeKind.changed, .removed, .error].find? fun kind => kind.name = name

end ChangeKind

/-- A path that is met when the file tree is as it is then. -/
structure Sighting where
  /-- The path. -/
  path : String
  /-- The file tree as it is at that time. -/
  tree : FileTree := {}
  deriving DecidableEq

/-- What the operating system says happened to a path. -/
inductive FileAction where
  /-- It was written to. -/
  | modified
  /-- It came into being. -/
  | created
  /-- It was deleted. -/
  | deleted
  /-- It was moved to `dest`. -/
  | moved (dest : Sighting)
  /-- It was opened or closed, which changes nothing. -/
  | touched
  deriving DecidableEq

/-- An event of the operating system. -/
structure FileEvent where
  /-- What happened. -/
  action : FileAction
  /-- The path that it happened to. -/
  path : Sighting
  /-- Whether the path is that of a directory. -/
  isDirectory : Bool := false
  deriving DecidableEq

/-- What an event means for the files that it names, in order. Directories mean nothing; a file that
is moved is gone from one path and changed at the other, which is how an editor looks that saves by
renaming. -/
def FileEvent.changes (e : FileEvent) : List (Sighting × ChangeKind) :=
  if e.isDirectory then []
  else
    match e.action with
    | .modified | .created => [(e.path, .changed)]
    | .deleted => [(e.path, .removed)]
    | .moved dest => [(e.path, .removed), (dest, .changed)]
    | .touched => []

end Restyle
