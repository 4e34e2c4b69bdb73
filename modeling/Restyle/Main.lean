import Restyle.CommandLine.Run
import Restyle.Render.Compiler

/-! # The program
The command line over a real file system. The commands that read stylesheets look only at the files
that are listed on the standard input, one path a line, where the path of a directory ends in a
slash; a shell can list all files below a directory. No executable is ever started: every render
fails the way it does where there is none. -/

namespace Restyle

open CommandLine

/-- The directory of the settings file. -/
def settingsDirectory (home : String) (given : Option String) : String :=
  match given.map String.toList with
  | some ('~' :: rest) => home ++ String.ofList rest
  | some dir => String.ofList dir
  | none => Path.join home ".sasswatch"

/-- The renderer of a place where there is no executable. -/
def missingExecutable (tree : FileTree) (binary : Toml.Value) : Renderer Unit :=
  { outcome := fun o =>
      match (Compiler.render { binary := binary.display } tree none (fun _ => {}) o).outcome with
      | .ok reports => .ok reports
      | .error (.fault f) => .error f
      | .error (.file _) => .error (.unforeseen "the directory cannot be made") }

/-- A file tree with one more file or directory, read from the file system. -/
def addListed (tree : FileTree) (path : String) : IO FileTree := do
  if path.endsWith "/" then
    return tree.add (tree.placeOf path) .directory
  try
    return tree.add (tree.placeOf path) (.file (← IO.FS.readBinFile path).toList)
  catch _ =>
    return { tree.add (tree.placeOf path) (.file []) with unreadable := path :: tree.unreadable }

/-- A file tree with everything that is listed on the standard input. -/
partial def addAllListed (input : IO.FS.Stream) (tree : FileTree) : IO FileTree := do
  let line ← input.getLine
  if line.isEmpty then return tree
  let path := String.ofList (line.toList.filter (· ≠ '\n'))
  addAllListed input (← if path.isEmpty then pure tree else addListed tree path)

/-- A file tree with a file, if that can be read. -/
def addIfReadable (tree : FileTree) (path : String) : IO FileTree := do
  try
    return tree.add (tree.placeOf path) (.file (← IO.FS.readBinFile path).toList)
  catch _ => return tree

/-- Make the settings file in the file system what it is in a file tree. -/
def storeSettings (before after : FileTree) (directory file : String) : IO Unit := do
  match before.readBytes file, after.readBytes file with
  | .ok _, .error _ => IO.FS.removeFile file
  | old, .ok new =>
    if old.toOption ≠ some new then
      IO.FS.createDirAll directory
      IO.FS.writeBinFile file ⟨new.toArray⟩
  | .error _, .error _ => return

/-- Whether some arguments are for a command that reads stylesheets. -/
def readsStylesheets (args : List String) : Bool :=
  args.any fun a => ["compile", "graph", "watch"].contains a

end Restyle

open Restyle CommandLine in
/-- Run the command that the arguments ask for. -/
def main (args : List String) : IO UInt32 := do
  let home := (← IO.getEnv "HOME").getD "/"
  let workingDir := (← IO.getEnv "PWD").getD "/"
  let directory := settingsDirectory home (← IO.getEnv "SASSWATCH_HOME")
  let settingsFile := Path.join directory "config.toml"
  let tree : FileTree := { workingDir, home }
  let tree := tree.add (tree.placeOf workingDir) .directory
  let tree ← if readsStylesheets args then addAllListed (← IO.getStdin) tree else pure tree
  let tree ← addIfReadable tree settingsFile
  let outcome := CommandLine.run { tree, settingsFile, renderer := missingExecutable tree } args
  IO.print outcome.screen.output
  for (key, value) in outcome.rows.getD [] do
    IO.println (key ++ "  " ++ value)
  IO.eprint outcome.screen.errors
  for message in outcome.ending.message?.toList do
    IO.eprintln ("Error: " ++ message)
  storeSettings tree outcome.tree directory settingsFile
  return outcome.ending.exitCode.toUInt32
