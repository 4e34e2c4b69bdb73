/-! # Path texts
Paths are texts in which `/` separates the components. A path that starts with `/` is absolute; any
other is read relative to a working directory. `Path.normalize` gives every spelling of a location
one canonical text: absolute, without empty, `.` or `..` components. One or two leading slashes are
told apart, three or more count as one.

The functions work on the character lists of the texts, through `toList` and `ofList`. -/

namespace Restyle.Path

/-- A path component, or any other stretch of a path text. -/
abbrev Component := List Char

/-- Whether a path starts at the root. -/
def isAbsolute (p : String) : Bool := p.toList.head? == some '/'

/-- The path `rel` read from `base`: an absolute `rel` stands for itself. -/
def join (base rel : String) : String :=
  if isAbsolute rel then rel
  else if base.toList = [] ∨ base.toList.getLast? = some '/' then base ++ rel
  else base ++ "/" ++ rel

/-! ## Normal form -/

/-- The leading slashes that the normal form of an absolute path keeps: exactly two stay two, any
other number becomes one. -/
def rootSlashes : List Char → List Char
  | '/' :: '/' :: '/' :: _ => ['/']
  | '/' :: '/' :: _ => ['/', '/']
  | _ => ['/']

/-- Enter one component, on a stack whose top is the innermost directory: empty components and `.`
stay where they are, `..` leaves the top, and the root is its own parent. -/
def enter (stack : List Component) (c : Component) : List Component :=
  if c = [] ∨ c = ['.'] then stack
  else if c = ['.', '.'] then stack.tail
  else c :: stack

/-- The components of the normal form of an absolute path, outermost first. -/
def components (cs : List Char) : List Component :=
  ((cs.splitOn '/').foldl enter []).reverse

/-- The text of an absolute path with the given leading slashes and components. -/
def render (root : List Char) (parts : List Component) : List Char :=
  root ++ List.intercalate ['/'] parts

/-- The canonical text of the path `p`, a relative one being read from the directory `dir`. -/
def normalize (dir p : String) : String :=
  let cs := (join dir p).toList
  String.ofList (render (rootSlashes cs) (components cs))

/-! ## Parts of a path -/

/-- The text up to and including the last slash, and the text after it. -/
def splitAtLastSlash (cs : List Char) : List Char × List Char :=
  ((cs.reverse.dropWhile (· ≠ '/')).reverse, (cs.reverse.takeWhile (· ≠ '/')).reverse)

/-- The directory part of a path. Its trailing slashes are dropped, unless it is nothing but
slashes. -/
def directory (p : String) : String :=
  let head := (splitAtLastSlash p.toList).1
  if head.all (· == '/') then String.ofList head
  else String.ofList (head.reverse.dropWhile (· == '/')).reverse

/-- The last component of a path: empty when the path ends with a slash. -/
def fileName (p : String) : String := String.ofList (splitAtLastSlash p.toList).2

/-- Split the name of a file before its extension, which starts with the last dot. Dots at the
start of a name do not start an extension. -/
def splitName (name : List Char) : List Char × List Char :=
  let suffix := (name.reverse.takeWhile (· ≠ '.')).reverse
  let stem := (name.reverse.dropWhile (· ≠ '.')).reverse.dropLast
  if stem.all (· == '.') then (name, []) else (stem, '.' :: suffix)

/-- The path without its extension, and the extension with its dot (empty when there is none). -/
def splitExtension (p : String) : String × String :=
  let (head, name) := splitAtLastSlash p.toList
  let (stem, extension) := splitName name
  (String.ofList (head ++ stem), String.ofList extension)

/-- The path without its extension. -/
def stem (p : String) : String := (splitExtension p).1

/-- The extension of a path with its dot, or the empty text. -/
def extension (p : String) : String := (splitExtension p).2

/-- Whether the path names a partial: its file name starts with an underscore. -/
def isPartial (p : String) : Bool := (fileName p).toList.head? == some '_'

/-! ## Relative paths -/

/-- Drop the longest common start of two lists from both. -/
def dropCommon : List Component → List Component → List Component × List Component
  | a :: as, b :: bs => if a = b then dropCommon as bs else (a :: as, b :: bs)
  | as, bs => (as, bs)

/-- The path from the directory `start` to `target`, both read from `dir`: one `..` for each
component to leave, then the components to enter; `.` when there is nothing to do. -/
def relative (dir target start : String) : String :=
  let leave := components (join dir start).toList
  let arrive := components (join dir target).toList
  let (up, down) := dropCommon leave arrive
  let parts := up.map (fun _ => ['.', '.']) ++ down
  if parts = [] then "." else String.ofList (List.intercalate ['/'] parts)

/-! ## Tidy paths -/

/-- A path without empty and `.` components, in which `..` is kept; the empty path is `.`. -/
def tidy (p : String) : String :=
  let cs := p.toList
  let parts := (cs.splitOn '/').filter fun c => c ≠ [] ∧ c ≠ ['.']
  if isAbsolute p then String.ofList (render (rootSlashes cs) parts)
  else if parts = [] then "."
  else String.ofList (List.intercalate ['/'] parts)

end Restyle.Path
