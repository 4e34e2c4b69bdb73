import Restyle.Path
import Restyle.Render.Options

/-! # Destinations
Where the output of a stylesheet goes, and the options for rendering it there. An explicit output
file wins; an output directory mirrors the layout of the sources below their root; otherwise the
output stands beside its source. -/

namespace Restyle

/-- Where output goes. An empty path counts as none. -/
structure OutputLayout where
  /-- The directory for output files. -/
  outputDir : Option String := none
  /-- The one output file. -/
  outputFile : Option String := none
  /-- The directory whose layout is mirrored. -/
  rootDir : Option String := none
  deriving DecidableEq, Repr, Inhabited

/-- Why a stylesheet has no destination. -/
inductive DestinationError where
  /-- Its path is empty, so that it cannot be located below the root. -/
  | emptySource
  deriving DecidableEq, Repr

/-- A path that is given and not empty. -/
def givenPath (p : Option String) : Option String := p.filter (· ≠ "")

namespace OutputLayout

/-- The name of an output file in the output directory, without its extension: the path of the
source below the root, or its bare name when it lies elsewhere or no root is given. A relative path
that starts with two dots counts as leading elsewhere. -/
def mirroredStem (l : OutputLayout) (dir stem : String) : String :=
  match givenPath l.rootDir with
  | none => Path.fileName stem
  | some root =>
    let relative := Path.relative dir stem root
    if ['.', '.'].isPrefixOf relative.toList then Path.fileName stem else relative

/-- The file to write for the stylesheet `src`; relative paths are read from `dir`. -/
def destination (l : OutputLayout) (dir src : String) : String :=
  match givenPath l.outputFile with
  | some file => Path.normalize dir file
  | none =>
    let stem := Path.stem src
    match givenPath l.outputDir with
    | none => stem ++ ".css"
    | some out => Path.normalize dir (Path.join out (l.mirroredStem dir stem ++ ".css"))

/-- Whether the destination depends on where the source lies below the root. -/
def mirrors (l : OutputLayout) : Bool :=
  (givenPath l.outputFile).isNone && (givenPath l.outputDir).isSome && (givenPath l.rootDir).isSome

/-- The file to write for a stylesheet, refusing an empty path where it would have to be located
below the root. -/
def destinationOf (l : OutputLayout) (dir src : String) : Except DestinationError String :=
  if l.mirrors ∧ Path.stem src = "" then .error .emptySource else .ok (l.destination dir src)

/-- The options for rendering `src`, whatever source and destination the base options name. -/
def derive {ω : Type} (l : OutputLayout) (dir : String) (base : RenderOptions ω) (src : String) :
    RenderOptions ω :=
  let src := Path.normalize dir src
  let dest := l.destination dir src
  { base with
    src, dest
    sourceMapPath := if base.sourceMap then some (dest ++ ".map") else none
    indented := ".sass".toList.isSuffixOf src.toList }

end OutputLayout

end Restyle
