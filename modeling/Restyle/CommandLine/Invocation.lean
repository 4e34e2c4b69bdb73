import Restyle.CommandLine.Arguments
import Restyle.Decimal.Reading
import Restyle.FileTree

/-! # Invocations
The commands of the command line, with their options: compiling a file or a directory, watching it,
showing the import graph around a file, and showing, setting and resetting the settings. -/

namespace Restyle.CommandLine

/-- The options for compiling and watching. -/
structure RenderArguments where
  /-- The file or directory. -/
  src : String := ""
  /-- The directory for output files. -/
  output : Option String := none
  /-- The output file of a single file. -/
  outputFile : Option String := none
  /-- Load paths. -/
  includePaths : List String := []
  /-- The output style. -/
  style : Option String := none
  /-- Whether source maps are written. -/
  sourceMap : Option Bool := none
  /-- Whether directories below the root count. -/
  recursive : Option Bool := none
  /-- Whether to go on and follow changes. -/
  watch : Bool := false
  /-- The window in which changes of one file are collapsed, in seconds. -/
  interval : Option String := none
  /-- The executable that renders. -/
  sass : Option String := none
  deriving DecidableEq, Repr

/-- The options for showing the import graph around a file. -/
structure GraphArguments where
  /-- The file. -/
  file : String := ""
  /-- What is scanned, if not the directory of the file. -/
  root : Option String := none
  /-- Load paths. -/
  includePaths : List String := []
  /-- Whether directories below the root count. -/
  recursive : Bool := true
  deriving DecidableEq, Repr

/-- What the command line asks for. -/
inductive Invocation where
  /-- The version. -/
  | version
  /-- Compile. -/
  | compile (a : RenderArguments)
  /-- Watch. -/
  | watch (a : RenderArguments)
  /-- Show the import graph around a file. -/
  | graph (a : GraphArguments)
  /-- Show the settings. -/
  | showSettings
  /-- Set a setting. -/
  | setSetting (key value : String)
  /-- Forget all settings. -/
  | resetSettings
  deriving DecidableEq, Repr

/-! ## Options -/

/-- The effect of an option under each of its names. -/
def named {σ : Type} (names : List String) (e : Effect σ) : OptionTable σ := names.map (·, e)

/-- The options that compiling and watching share. -/
def renderOptions : OptionTable RenderArguments :=
  named ["--output", "-o"] (.value fun v a => { a with output := some v }) ++
    named ["--output-file"] (.value fun v a => { a with outputFile := some v }) ++
    named ["--include-path", "-I"]
      (.value fun v a => { a with includePaths := a.includePaths ++ [v] }) ++
    named ["--style", "-s"] (.value fun v a => { a with style := some v }) ++
    named ["--source-map"] (.flag fun a => { a with sourceMap := some true }) ++
    named ["--no-source-map"] (.flag fun a => { a with sourceMap := some false }) ++
    named ["--recursive"] (.flag fun a => { a with recursive := some true }) ++
    named ["--no-recursive"] (.flag fun a => { a with recursive := some false }) ++
    named ["--sass"] (.value fun v a => { a with sass := some v })

/-- The options for compiling. -/
def compileOptions : OptionTable RenderArguments :=
  renderOptions ++ named ["--watch", "-w"] (.flag fun a => { a with watch := true })

/-- The options for watching. -/
def watchOptions : OptionTable RenderArguments :=
  renderOptions ++ named ["--interval", "-i"] (.value fun v a => { a with interval := some v })

/-- The options for showing the import graph around a file. -/
def graphOptions : OptionTable GraphArguments :=
  named ["--root", "-r"] (.value fun v a => { a with root := some v }) ++
    named ["--include-path", "-I"]
      (.value fun v a => { a with includePaths := a.includePaths ++ [v] }) ++
    named ["--recursive"] (.flag fun a => { a with recursive := true }) ++
    named ["--no-recursive"] (.flag fun a => { a with recursive := false })

/-- The options before the command: whether the version is asked for. -/
def globalOptions : OptionTable Bool :=
  named ["--version", "-v"] (.flag fun _ => true) ++ named ["--verbose"] (.flag id)

/-! ## Checks -/

/-- The path that an argument names, in its tidy form. No path holds a NUL character, and a path
that exists has to be readable. -/
def namedPath (t : FileTree) (text : String) : Except UsageError String :=
  let path := Path.tidy text
  if '\x00' ∈ text.toList || (t.pathExists path && !t.isReadable path) then .error (.badPath text)
  else .ok path

/-- The path that an argument names, which has to exist. -/
def existingPath (t : FileTree) (text : String) : Except UsageError String := do
  let path ← namedPath t text
  if t.pathExists path then return path else throw (.badPath text)

/-- A text without its underscores, which stand alone and not at an end of it. -/
def withoutUnderscores? (cs : List Char) : Option (List Char) :=
  let pieces := cs.splitOn '_'
  if 1 < pieces.length ∧ [] ∉ pieces then some pieces.flatten else none

/-- The number that an argument names. White space around it does not count; or else underscores in
it do not. -/
def namedNumber? (text : String) : Option Float :=
  let cs := text.toList
  let blank (c : Char) : Bool := Text.isWhiteSpace c
  let trimmed := ((cs.dropWhile blank).reverse.dropWhile blank).reverse
  Decimal.plainFloat? trimmed <|> (withoutUnderscores? cs >>= Decimal.plainFloat?)

/-- Refuse a window that is no number or is negative. -/
def checkInterval (text : String) : Except UsageError Unit :=
  match namedNumber? text with
  | some x => if x < 0.0 then .error (.badNumber text) else .ok ()
  | none => .error (.badNumber text)

/-- The only operand. -/
def oneOperand : List String → Except UsageError String
  | [] => .error .missingOperand
  | [a] => .ok a
  | _ => .error .extraOperands

/-- Read the arguments of compiling or watching. -/
def renderArguments (t : FileTree) (table : OptionTable RenderArguments) (args : List String) :
    Except UsageError RenderArguments := do
  let (a, operands) ← readArguments table false {} args
  let src ← existingPath t (← oneOperand operands)
  let output ← a.output.mapM (namedPath t)
  let outputFile ← a.outputFile.mapM (namedPath t)
  let includePaths ← a.includePaths.mapM (namedPath t)
  a.interval.toList.forM checkInterval
  return { a with src, output, outputFile, includePaths }

/-- Read the arguments of showing the import graph around a file. -/
def graphArguments (t : FileTree) (args : List String) : Except UsageError GraphArguments := do
  let (a, operands) ← readArguments graphOptions false {} args
  let file ← existingPath t (← oneOperand operands)
  if t.isDirectory file then throw (.badPath file)
  let root ← a.root.mapM (namedPath t)
  let includePaths ← a.includePaths.mapM (namedPath t)
  return { a with file, root, includePaths }

/-- Read arguments among which there are no options. -/
def plainArguments (stops : Bool) (args : List String) : Except UsageError (List String) :=
  (readArguments ([] : OptionTable Unit) stops () args).map (·.2)

/-- Read the arguments of a command on the settings. -/
def settingsInvocation : List String → Except UsageError Invocation
  | [] => .error .missingCommand
  | "show" :: args => do
    if (← plainArguments false args) ≠ [] then throw .extraOperands
    return .showSettings
  | "set" :: args => do
    match ← plainArguments false args with
    | [key, value] => return .setSetting key value
    | [] | [_] => throw .missingOperand
    | _ => throw .extraOperands
  | "reset" :: args => do
    if (← plainArguments false args) ≠ [] then throw .extraOperands
    return .resetSettings
  | name :: _ => .error (.unknownCommand name)

/-- What some arguments ask for. Where the command is unknown, the options may follow that a double
dash has kept from being read. -/
def Invocation.ofArguments (t : FileTree) (args : List String) : Except UsageError Invocation := do
  let (wantsVersion, operands) ← readArguments globalOptions true false args
  if wantsVersion then return .version
  match operands with
  | [] => throw .missingCommand
  | "compile" :: args => return .compile (← renderArguments t compileOptions args)
  | "graph" :: args => return .graph (← graphArguments t args)
  | "watch" :: args =>
    match ← plainArguments true args with
    | "start" :: args => return .watch (← renderArguments t watchOptions args)
    | [] => throw .missingCommand
    | name :: _ => throw (.unknownCommand name)
  | "config" :: args => settingsInvocation (← plainArguments true args)
  | name :: _ =>
    if (← readArguments globalOptions true false operands).1 then return .version
    throw (.unknownCommand name)

end Restyle.CommandLine
