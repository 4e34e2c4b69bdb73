import Restyle.FileTree
import Restyle.Render.Renderer
import Restyle.Text.Blank

/-! # The stylesheet compiler
The command line that renders one stylesheet with the `sass` executable, and what a run of it
reports. The executable knows two output styles and one precision, and writes no source comments. -/

namespace Restyle

/-- The `sass` executable, under the name or path that it is called by. -/
structure Compiler where
  /-- The name or path. -/
  binary : String := "sass"
  deriving DecidableEq, Repr, Inhabited

/-- The precision that the executable always works with. -/
def fixedPrecision : Int := 10

/-- The style of the executable that stands for an output style. -/
def compilerStyle (style : String) : String :=
  if style = "compressed" then "compressed" else "expanded"

namespace Compiler

variable {ω : Type}

/-- The warnings about options that the executable cannot honour. -/
def optionWarnings (o : RenderOptions ω) : List String :=
  (if o.precision = fixedPrecision then []
    else ["Dart Sass always uses " ++ toString fixedPrecision ++
      " digits of precision, ignoring precision=" ++ toString o.precision]) ++
  if o.sourceComments then ["Dart Sass does not emit source comments, ignoring source_comments"]
  else []

/-- The argument list, the executable first: the style, the load paths in order, whether to write a
source map, the dialect, and at last the source and destination, parted by a colon. -/
def command (c : Compiler) (o : RenderOptions ω) : List String :=
  [c.binary, "--style=" ++ compilerStyle o.outputStyle] ++
    o.includePaths.map ("--load-path=" ++ ·) ++
    [if o.sourceMap then "--source-map" else "--no-source-map"] ++
    (if o.indented then ["--indented"] else []) ++
    [o.src ++ ":" ++ o.dest]

/-- What a finished process leaves behind. -/
structure ProcessResult where
  /-- The bytes on its error channel. -/
  stderr : List UInt8 := []
  /-- Its exit status. -/
  status : Int := 0

/-- What the process has to say: the text on its error channel, trimmed. -/
def ProcessResult.report (r : ProcessResult) : String :=
  String.ofList (Text.trim (Text.decodeReplacing r.stderr))

/-- What a finished process means: a fault with its report when the status is not zero, and
otherwise the reports of a successful render, its own report being a warning. -/
def outcome (c : Compiler) (o : RenderOptions ω) (r : ProcessResult) : RenderOutcome :=
  let report := r.report
  if r.status ≠ 0 then
    .error (.reported o.src
      (if report = "" then c.binary ++ " exited with status " ++ toString r.status else report))
  else
    .ok ((if report = "" then [] else [.warning report]) ++
      [.progress "Rendering complete, saving .css file...", .writing o.dest,
        .progress ("Wrote CSS to " ++ o.dest)] ++
      match givenSourceMap with
      | some path => [.progress ("Wrote Source Map to " ++ path)]
      | none => [])
where
  /-- The source map that is to be written, if its path is not empty. -/
  givenSourceMap : Option String := o.sourceMapPath.filter (· ≠ "")

/-- Why a run of the executable fails. -/
inductive RunError where
  /-- The render has a fault. -/
  | fault (f : RenderFault)
  /-- The directory of the destination cannot be made. -/
  | file (e : FileError)

/-- A run of the executable: what was started, the file tree afterwards, and how it ended. -/
structure Run where
  /-- The argument lists of the processes that were started. -/
  commands : List (List String)
  /-- The file tree with the directory of the destination. -/
  tree : FileTree
  /-- The reports, or why there are none. -/
  outcome : Except RunError (List Report)

/-- The directory of the destination. -/
def destinationDirectory (o : RenderOptions ω) : String :=
  let dir := Path.directory o.dest
  if dir = "" then "." else dir

/-- Render one stylesheet: find the executable, make the directory of the destination, and run the
command, whose process ends as `process` says. -/
def render (c : Compiler) (t : FileTree) (executable : Option String)
    (process : List String → ProcessResult) (o : RenderOptions ω) : Run :=
  match executable with
  | none =>
    ⟨[], t, .error (.fault (.reported o.src ("'" ++ c.binary ++ "' command not found on PATH")))⟩
  | some path =>
    match t.makeDirectories (destinationDirectory o) with
    | .error e => ⟨[], t, .error (.file e)⟩
    | .ok t =>
      let command := path :: (c.command o).tail
      ⟨[command], t, (c.outcome o (process command)).mapError .fault⟩

end Compiler

end Restyle
