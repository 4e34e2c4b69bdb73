import Restyle.Failure

/-! # Notices
What the parts of the program report while they work: each notice has a kind and a message. -/

namespace Restyle

/-- The kinds of notices. -/
inductive NoticeKind where
  /-- Something failed. -/
  | error
  /-- Something deserves attention. -/
  | warn
  /-- Something happened. -/
  | log
  /-- A render has ended, whatever its outcome. -/
  | done
  /-- A file is about to be written. -/
  | write
  deriving DecidableEq, Repr, Inhabited

namespace NoticeKind

/-- The kinds, in the order in which they are documented. -/
def all : List NoticeKind := [.error, .warn, .log, .done, .write]

/-- The name of a kind. -/
def name : NoticeKind → String
  | .error => "error"
  | .warn => "warn"
  | .log => "log"
  | .done => "done"
  | .write => "write"

/-- The kind with a name. -/
def ofName? (name : String) : Option NoticeKind := all.find? fun kind => kind.name = name

/-- `ofName? kind.name = some kind`. -/
@[simp] theorem ofName?_name (kind : NoticeKind) : ofName? kind.name = some kind := by
  cases kind <;> decide

end NoticeKind

/-- What a notice says. -/
inductive Message where
  /-- Plain text. -/
  | text (s : String)
  /-- A failure, with its parts. -/
  | failure (f : Failure)
  deriving DecidableEq, Repr, Inhabited

/-- The text of a message. -/
def Message.toText : Message → String
  | .text s => s
  | .failure f => f.message

/-- A message of some kind. -/
structure Notice where
  /-- The kind. -/
  kind : NoticeKind
  /-- The message. -/
  message : Message
  deriving DecidableEq, Repr, Inhabited

namespace Notice

/-- A failure. -/
def error (f : Failure) : Notice := ⟨.error, .failure f⟩

/-- A text that deserves attention. -/
def warn (s : String) : Notice := ⟨.warn, .text s⟩

/-- A text about what happened. -/
def log (s : String) : Notice := ⟨.log, .text s⟩

/-- The end of the render that writes `destination`. -/
def done (destination : String) : Notice := ⟨.done, .text destination⟩

/-- The start of writing `destination`. -/
def write (destination : String) : Notice := ⟨.write, .text destination⟩

end Notice

end Restyle
