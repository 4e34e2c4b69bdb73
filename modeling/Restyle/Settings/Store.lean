import Restyle.FileTree
import Restyle.Settings
import Restyle.Text.Utf8
import Restyle.Toml.Codec

/-! # The settings file
Settings are kept in a document in a file, which a codec reads and writes. A file that does not
exist or breaks the rules of documents counts as empty. Setting a value reads the document, changes
one entry of it, and writes it back as a whole, in place of what the file held. Once a file is open,
writing to it does not fail: storage that runs out is left out. -/

namespace Restyle

/-- Why settings cannot be loaded or stored. -/
inductive SettingsError where
  /-- The setting or its value is refused. -/
  | refused (e : SettingError)
  /-- The file is not in UTF-8. -/
  | notUtf8
  /-- The document stops the reader. -/
  | reading (e : Toml.ReadError)
  /-- Something else stands in the place of the section. -/
  | sectionNotTable
  /-- The changed document cannot be written. -/
  | writing (e : Toml.WriteError)
  /-- The file cannot be written. -/
  | fileNotWritable (path : String)
  /-- The system refuses to look whether there is a file. -/
  | notReachable (e : FileError) (path : String)
  deriving DecidableEq, Repr

namespace Settings

/-- Load the document in a file. -/
def loadDocument (t : FileTree) (path : String) (codec : Toml.Codec := .standard) :
    Except SettingsError Toml.Table :=
  match t.testExists path with
  | .error e => .error (.notReachable e path)
  | .ok false => .ok []
  | .ok true =>
    match t.readBytes path with
    | .error _ => .ok []
    | .ok bytes =>
      match Text.decodeStrict? bytes with
      | none => .error .notUtf8
      | some cs =>
        match codec.read (Text.unifyLineBreaks cs) with
        | .ok doc => .ok doc
        | .error .malformed => .ok []
        | .error e => .error (.reading e)

/-- Load the effective settings from a file. -/
def load (t : FileTree) (path : String) (codec : Toml.Codec := .standard) :
    Except SettingsError Settings :=
  (loadDocument t path codec).map ofDocument

/-- A document in which a setting has the given value. -/
def setIn (doc : Toml.Table) (s : Setting) (v : Toml.Value) : Except SettingsError Toml.Table :=
  match doc.get? s.sectionName with
  | none => .ok (doc.put s.sectionName (.table [(s.name, v)]))
  | some (.table entries) => .ok (doc.put s.sectionName (.table (Toml.Table.put entries s.name v)))
  | some _ => .error .sectionNotTable

/-- The value that a text gives a setting, and the document with it. -/
def change (t : FileTree) (path key raw : String) (codec : Toml.Codec := .standard) :
    Except SettingsError (Toml.Value × Toml.Table) := do
  let some s := Setting.ofKey? key | throw (.refused (.unknownKey key))
  let v ← (s.parse raw).mapError .refused
  let doc ← loadDocument t path codec
  return (v, ← setIn doc s v)

/-- Open a file for writing, which empties it. It is made, with its directories, where it does not
exist. -/
def openFile (t : FileTree) (path : String) : Except FileError FileTree :=
  t.makeDirectories (Path.directory path) >>= fun t => t.writeFile path []

/-- Write a document to a file. The file is opened before the document is spelled. That storage runs
out while an open file is written is left out. -/
def storeDocument (t : FileTree) (path : String) (doc : Toml.Table)
    (codec : Toml.Codec := .standard) :
    Except SettingsError Unit × FileTree :=
  match openFile t path with
  | .error _ => (.error (.fileNotWritable path), t)
  | .ok emptied =>
    match codec.write doc with
    | .error e => (.error (.writing e), emptied)
    | .ok text =>
      match emptied.writeFile path (String.ofList text).toUTF8.toList with
      | .ok t => (.ok (), t)
      -- out of reach: `writeFile` fails for no file that `openFile` has opened
      | .error _ => (.error (.fileNotWritable path), emptied)

/-- Set a setting, given by its full name, to the value of a text. -/
def set (t : FileTree) (path key raw : String) (codec : Toml.Codec := .standard) :
    Except SettingsError Toml.Value × FileTree :=
  match change t path key raw codec with
  | .error e => (.error e, t)
  | .ok (v, doc) =>
    match storeDocument t path doc codec with
    | (.ok (), t) => (.ok v, t)
    | (.error e, t) => (.error e, t)

/-- Remove the file if it exists, and tell whether it did. -/
def reset (t : FileTree) (path : String) : Except FileError (Bool × FileTree) :=
  match t.testExists path with
  | .error e => .error e
  | .ok true => (t.removeFile path).map (true, ·)
  | .ok false => .ok (false, t)

end Settings

end Restyle
