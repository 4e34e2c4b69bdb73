import Restyle.CommandLine.Grid
import Restyle.CommandLine.Invocation
import Restyle.Compilation
import Restyle.ImportGraph.Traversal
import Restyle.Settings.Store

/-! # Running a command
What each command does with the file tree, the settings and a renderer, what it shows, and how it
ends. Arguments win over settings, and settings over defaults. -/

namespace Restyle.CommandLine

/-- The program's name and version. -/
def versionText : String := "sasswatch v0.3.0"

/-- Why a command that was understood cannot be carried out. -/
inductive CommandError where
  /-- Arguments that do not go together, or a value that is refused, with the reason if it has
  one. -/
  | badParameter (message : Option String)
  /-- The settings cannot be loaded or stored. -/
  | settings (e : SettingsError)
  /-- The settings file cannot be removed. -/
  | file (e : FileError)
  /-- The stylesheets cannot be found. -/
  | search (f : Failure)
  /-- A setting has a value of the wrong type. -/
  | wrongType (s : Setting)
  /-- The window is no number. -/
  | badWindow
  /-- The window is too large a number. -/
  | windowTooLarge
  /-- A link leads back to itself. -/
  | linkLoop
  /-- A path in the settings holds a NUL character. -/
  | nulInPath
  /-- A path starts in a home directory that is not known. -/
  | unknownHome
  /-- The value of a setting has no text. -/
  | notShowable
  /-- Markup cannot be shown. -/
  | markup (e : MarkupError)
  deriving DecidableEq, Repr

/-- The wording of an error. -/
def CommandError.message : CommandError → String
  | .badParameter reason => "Invalid value" ++ (reason.elim "." (": " ++ ·))
  | .settings (.fileNotWritable path) => "Could not write " ++ path
  | .settings (.notReachable e path) => e.message path
  | .settings _ => "The settings cannot be used."
  | .file _ => "The settings file cannot be removed."
  | .search f => f.message
  | .wrongType s => "The setting " ++ s.key ++ " has a value of the wrong type."
  | .badWindow => "The setting " ++ Setting.debounce.key ++ " is not a number."
  | .windowTooLarge => "The setting " ++ Setting.debounce.key ++ " is too large."
  | .linkLoop => "A link leads back to itself."
  | .nulInPath => "A path in the settings holds a NUL character."
  | .unknownHome => "A home directory is not known."
  | .notShowable => "A setting has a value that cannot be shown."
  | .markup .unbalanced => "A style ends that was never begun."
  | .markup .badColor => "A part of a color is not a number."
  | .markup .badAction => "The arguments of an action cannot be read."

/-- How a command ends. -/
inductive Ending where
  /-- With an exit status. -/
  | status (n : Nat)
  /-- Before it started, because its arguments are refused. -/
  | usage (e : UsageError)
  /-- With an error. -/
  | failed (e : CommandError)
  deriving DecidableEq, Repr

/-- The exit status of an ending. -/
def Ending.exitCode : Ending → Nat
  | .status n => n
  | .usage _ => 2
  | .failed (.badParameter _) => 2
  | .failed _ => 1

/-- What there is to say about an ending. -/
def Ending.message? : Ending → Option String
  | .status _ => none
  | .usage e => some e.message
  | .failed e => some e.message

/-- What a command is run with. -/
structure Environment (ω : Type) where
  /-- The file tree. -/
  tree : FileTree
  /-- The settings file. -/
  settingsFile : String
  /-- How the settings file is read and written. -/
  codec : Toml.Codec := .standard
  /-- The renderer for each executable, which the settings may give by a value of any type. -/
  renderer : Toml.Value → Renderer ω

/-- A command that has been run. -/
structure Outcome (ω : Type) where
  /-- How it ended. -/
  ending : Ending := .status 0
  /-- What it has shown. -/
  screen : Screen := {}
  /-- The lines of the grid of settings, where it has shown that. -/
  rows : Option (List (String × String)) := none
  /-- The executables for which renderers were made. -/
  binaries : List Toml.Value := []
  /-- The calls of the renderer. -/
  calls : List (RenderOptions ω) := []
  /-- The file tree afterwards. -/
  tree : FileTree

/-! ## Options from arguments and settings -/

/-- Whether a value counts as true: empty values and zeros do not. -/
def isTruthy : Toml.Value → Bool
  | .text s => s ≠ ""
  | .integer n => n ≠ 0
  | .float x => !(x == 0.0)
  | .boolean b => b
  | .moment _ => true
  | .array vs => !vs.isEmpty
  | .table es => !es.isEmpty

/-- An argument that is given and not empty, or else the value of a setting. -/
def textOr (given : Option String) (settings : Settings) (s : Setting) : Toml.Value :=
  match givenPath given with
  | some v => .text v
  | none => settings.get s

/-- An argument that is given, or else whether a setting counts as true. -/
def boolOr (given : Option Bool) (settings : Settings) (s : Setting) : Bool :=
  given.getD (isTruthy (settings.get s))

/-- The value of a setting that no argument replaces, where it is no truth value. -/
def oddSetting? (given : Option Bool) (settings : Settings) (s : Setting) : Option Toml.Value :=
  match given, settings.get s with
  | some _, _ | none, .boolean _ => none
  | none, v => some v

/-- The items that a setting lists. A text lists its characters, and a table its keys. -/
def listed (settings : Settings) (s : Setting) : Except CommandError (List Toml.Value) :=
  match settings.get s with
  | .array vs => .ok vs
  | .text p => .ok (p.toList.map fun c => .text (String.ofList [c]))
  | .table es => .ok (es.map fun e => .text e.1)
  | _ => .error (.wrongType s)

/-- The real path of a path. Where links lead in a circle there is none. -/
def resolved (t : FileTree) (path : String) : Except CommandError String :=
  let real := t.realPath (Path.tidy path)
  if '\x00' ∈ path.toList then .error .nulInPath
  else
    match t.find real with
    | .error .tooManyLinks => .error .linkLoop
    | _ => .ok real

/-- A path with the home directory in the place of a `~` at its start. Nobody else's home is
known. -/
def expandHome (t : FileTree) (path : String) : Except CommandError String :=
  match (Path.tidy path).toList with
  | ['~'] => .ok t.home
  | '~' :: '/' :: rest => .ok (Path.join t.home (String.ofList rest))
  | '~' :: _ => .error .unknownHome
  | cs => .ok (String.ofList cs)

/-- The directory that a load path in the settings means. -/
def loadPath (t : FileTree) : Toml.Value → Except CommandError String
  | .text p => expandHome t p >>= resolved t
  | _ => .error (.wrongType .includePaths)

/-- There is no output style of the name that is wanted. -/
def unknownStyle : CommandError :=
  .badParameter (some ("Output style must be one of: " ++ ", ".intercalate outputStyles))

/-- The options that all renders share. -/
def baseOptions {ω : Type} (t : FileTree) (settings : Settings) (a : RenderArguments) :
    Except CommandError (RenderOptions ω) := do
  let style ← match textOr a.style settings .outputStyle with
    | .text style => if style ∈ outputStyles then pure style else throw unknownStyle
    | _ => throw unknownStyle
  let given ← a.includePaths.mapM (resolved t)
  let more ← (← listed settings .includePaths).mapM (loadPath t)
  return {
    includePaths := (given ++ more).eraseDups
    outputStyle := style
    sourceMap := boolOr a.sourceMap settings .sourceMap
    sourceMapSetting := oddSetting? a.sourceMap settings .sourceMap }

/-- Refuse a window that is no number. -/
def checkWindow (settings : Settings) : Except CommandError Unit :=
  match settings.get .debounce with
  | .integer n => if Decimal.isFloatSized n then .ok () else .error .windowTooLarge
  | .float _ | .boolean _ => .ok ()
  | .text s => if (Decimal.float? s.toList).isSome then .ok () else .error .badWindow
  | _ => .error (.wrongType .debounce)

/-! ## Compiling and watching -/

/-- What a render command has settled before it starts. -/
structure RenderPlan (ω : Type) where
  /-- The options that all renders share. -/
  base : RenderOptions ω
  /-- The executable. -/
  binary : Toml.Value
  /-- Whether directories below the root count. -/
  deep : Bool

/-- Settle what a render command needs: the settings come first, then the options. -/
def renderPlan {ω : Type} (t : FileTree) (file : String) (a : RenderArguments)
    (codec : Toml.Codec := .standard) : Except CommandError (Settings × RenderPlan ω) := do
  let settings ← (Settings.load t file codec).mapError .settings
  let base ← baseOptions t settings a
  let binary := textOr a.sass settings .sassBinary
  return (settings, { base, binary, deep := boolOr a.recursive settings .recursive })

/-- The request that a render command makes. -/
def compileRequest {ω : Type} (t : FileTree) (a : RenderArguments) (plan : RenderPlan ω) :
    Except CommandError (CompileRequest ω) := do
  let outputDir ← a.output.mapM (resolved t)
  let outputFile ← a.outputFile.mapM (resolved t)
  return { root := Path.tidy a.src, base := plan.base, deep := plan.deep, outputDir, outputFile }

variable {ω : Type}

/-- How a command ends that cannot look at its stylesheets: a graph that cannot be built has been
reported, and any other failure ends it as an error. -/
def endingOf : Failure → Ending
  | .scan _ _ => .status 1
  | failure => .failed (.search failure)

/-- Compile once. -/
def runCompile (env : Environment ω) (a : RenderArguments) (plan : RenderPlan ω) : Outcome ω :=
  match compileRequest env.tree a plan with
  | .error e => { ending := .failed e, binaries := [plan.binary], tree := env.tree }
  | .ok request =>
    let c := compileOnce (env.renderer plan.binary) env.tree request
    { ending := match c.status with
        | .ok n => .status n
        | .error failure => endingOf failure
      screen := c.notices.foldl (Screen.notify false) {}
      binaries := [plan.binary]
      calls := c.calls
      tree := env.tree }

/-- The lines that the watch mode begins with, as markup. The last one ends a style that began on a
line of its own, which ended it as well. -/
def watchBanner (a : RenderArguments) (plan : RenderPlan ω) : List (List Char) :=
  ['\n' :: Markup.inStyle "bold green" "👀 Watching" ++ ' ' ::
      Markup.inStyle "cyan" (Path.tidy a.src) ++ " for changes...".toList,
    "[dim]  Style:     ".toList ++ plan.base.outputStyle.toList,
    ("  Recursive: " ++ (if plan.deep then "yes" else "no")).toList,
    "  Press Ctrl+C to stop[/dim]\n".toList]

/-- Start the watch mode, which does not get beyond its banner. -/
def runWatch (env : Environment ω) (a : RenderArguments) (settings : Settings)
    (plan : RenderPlan ω) : Outcome ω :=
  let checked := do
    if a.interval.isNone then checkWindow settings
    discard (compileRequest env.tree a plan)
  match checked with
  | .error e => { ending := .failed e, binaries := [plan.binary], tree := env.tree }
  | .ok () =>
    let (result, screen) := Screen.printMarkup {} (watchBanner a plan)
    { ending := match result with
        | .ok () => .status 0
        | .error e => .failed (.markup e)
      screen
      binaries := [plan.binary]
      tree := env.tree }

/-- Compile or watch. -/
def runRender (env : Environment ω) (a : RenderArguments) (isWatching : Bool) : Outcome ω :=
  match renderPlan env.tree env.settingsFile a env.codec with
  | .error e => { ending := .failed e, tree := env.tree }
  | .ok (settings, plan) =>
    if isWatching then runWatch env a settings plan else runCompile env a plan

/-! ## Showing the import graph around a file -/

/-- The graph that a command shows a part of. -/
def graphOf (t : FileTree) (a : GraphArguments) :
    Except CommandError (Except Failure ImportGraph) := do
  let includePaths ← a.includePaths.mapM (resolved t)
  return t.scan { root := Path.tidy (a.root.getD a.file), includePaths, deep := a.recursive }

/-- The lines that list files. -/
def fileLines (paths : List String) : List String :=
  (if paths = [] then ["(nothing)"] else paths).map ("  |- " ++ ·)

/-- The files that a change of a file renders again: those that depend on it, without the
partials. -/
def rebuilds (g : ImportGraph) (path : String) : List String :=
  (g.ancestors path).filter fun p => !Path.isPartial p

/-- The lines that show the import graph around a file. -/
def graphLines (g : ImportGraph) (path : String) : List String :=
  [path ++ (if Path.isPartial path then " (partial)" else ""), "Imported by:"] ++
    fileLines (g.ancestors path).tail ++
    ["Imports:"] ++ fileLines (g.descendants path).tail ++
    ["", "A change rebuilds " ++ toString (rebuilds g path).length ++ " file(s)."]

/-- Show the import graph around a file. -/
def runGraph (env : Environment ω) (a : GraphArguments) : Outcome ω :=
  match graphOf env.tree a with
  | .error e => { ending := .failed e, tree := env.tree }
  | .ok (.error (.scan root reason)) =>
    { ending := .status 1
      screen := Screen.complain {} ("❌ " ++ (Failure.scan root reason).message)
      tree := env.tree }
  | .ok (.error failure) => { ending := endingOf failure, tree := env.tree }
  | .ok (.ok g) =>
    let screen := Screen.printAll {} (graphLines g (env.tree.normalize a.file))
    let screen := g.unresolved.foldl
      (fun screen u => screen.complain ("⚠️  " ++ u.failure.message)) screen
    { screen, tree := env.tree }

/-! ## Settings -/

/-- The lines of the grid of settings. Keys and values are markup. -/
def settingsLines (s : Settings) : Except CommandError (List (String × String)) := do
  if !s.entries.all (·.2.isShowable) then throw .notShowable
  let cells := s.entries.map fun e => (e.1.toList, e.2.display.toList)
  (cells.flatMap fun c => [c.1, c.2]).forM fun m => (Markup.check m).mapError .markup
  return Grid.lines ("Key", "Value") (cells.map fun c => (Markup.text c.1, Markup.text c.2))

/-- Show the settings. -/
def runShow (env : Environment ω) : Outcome ω :=
  match (Settings.load env.tree env.settingsFile env.codec).mapError .settings >>=
    settingsLines with
  | .ok rows => { rows := some rows, tree := env.tree }
  | .error e => { ending := .failed e, rows := some [], tree := env.tree }

/-- How a command ends that could not set a setting, and what it shows. -/
def settingsFailure : SettingsError → Ending × Screen
  | .refused e => (.failed (.badParameter e.message?), {})
  | .notUtf8 | .writing .offsetTooLarge | .writing .integerTooLong =>
    (.failed (.badParameter none), {})
  | .fileNotWritable path => (.status 1, Screen.complain {} (shown (Markup.inStyle "red" "✗" ++
      ' ' :: Markup.escape ("Could not write " ++ path).toList)))
  | .notReachable e path => (.status 1, Screen.complain {} (shown (Markup.inStyle "red" "✗" ++
      ' ' :: Markup.escape (e.message path).toList)))
  | e => (.failed (.settings e), {})

/-- Set a setting. -/
def runSet (env : Environment ω) (key raw : String) : Outcome ω :=
  match Settings.set env.tree env.settingsFile key raw env.codec with
  | (.ok v, tree) => { screen := Screen.print {} ("Set " ++ key ++ " = " ++ v.display), tree }
  | (.error e, tree) =>
    let (ending, screen) := settingsFailure e
    { ending, screen, tree }

/-- Forget all settings. -/
def runReset (env : Environment ω) : Outcome ω :=
  match Settings.reset env.tree env.settingsFile with
  | .ok (true, tree) => { screen := Screen.print {} "Configuration reset to defaults.", tree }
  | .ok (false, tree) => { screen := Screen.print {} "No configuration file to reset.", tree }
  | .error e => { ending := .failed (.file e), tree := env.tree }

/-! ## All commands -/

/-- Run an invocation. -/
def Invocation.run (env : Environment ω) : Invocation → Outcome ω
  | .version => { screen := Screen.print {} versionText, tree := env.tree }
  | .compile a =>
    if a.outputFile.isSome && env.tree.isDirectory a.src then
      { ending := .failed (.badParameter
          (some "--output-file needs a single source file, use --output for directories"))
        tree := env.tree }
    else runRender env a a.watch
  | .watch a => runRender env a true
  | .graph a => runGraph env a
  | .showSettings => runShow env
  | .setSetting key raw => runSet env key raw
  | .resetSettings => runReset env

/-- Run the command that some arguments ask for. -/
def run (env : Environment ω) (args : List String) : Outcome ω :=
  match Invocation.ofArguments env.tree args with
  | .ok invocation => invocation.run env
  | .error e => { ending := .usage e, tree := env.tree }

end Restyle.CommandLine
