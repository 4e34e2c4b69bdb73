import Restyle.Text.Quoted

/-! # File errors
Why nothing can be reached, read or made through a path, in the words of the operating system. Most
errors say that a path leads nowhere; some (`FileError.isRefusal`) leave open what it leads to. -/

namespace Restyle

/-- Why nothing can be reached, read or made through a path. -/
inductive FileError where
  /-- A name on the way does not exist. -/
  | missing
  /-- Something on the way is not a directory. -/
  | notDirectory
  /-- The path leads to a directory where a file is wanted. -/
  | isDirectory
  /-- Something stands where something new is wanted. -/
  | alreadyExists
  /-- There are too many links on the way, as in a loop of links. -/
  | tooManyLinks
  /-- A name on the way is too long. -/
  | nameTooLong
  /-- The path holds a NUL character, which no name can hold. -/
  | nulInPath
  /-- Reading is not permitted, or a directory on the way may not be passed through. -/
  | notPermitted
  deriving DecidableEq, Repr, Inhabited

namespace FileError

/-- Whether the system refuses to look at the path, so that nothing is known of what it leads to. -/
def isRefusal : FileError → Bool
  | .nameTooLong | .notPermitted => true
  | _ => false

/-- The words of the operating system, with the number of the error. -/
def words : FileError → String
  | .missing => "[Errno 2] No such file or directory"
  | .notDirectory => "[Errno 20] Not a directory"
  | .isDirectory => "[Errno 21] Is a directory"
  | .alreadyExists => "[Errno 17] File exists"
  | .tooManyLinks => "[Errno 40] Too many levels of symbolic links"
  | .nameTooLong => "[Errno 36] File name too long"
  | .nulInPath => "embedded null byte"
  | .notPermitted => "[Errno 13] Permission denied"

/-- The text of an error at a path. -/
def message (e : FileError) (path : String) : String :=
  e.words ++ ": " ++ String.ofList (Text.quoted path.toList)

end FileError

end Restyle
