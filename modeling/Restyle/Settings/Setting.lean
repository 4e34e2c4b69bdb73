import Restyle.Decimal.Reading
import Restyle.Render.Options
import Restyle.Text.Blank
import Restyle.Toml.Value

/-! # The settings
Each setting has a section, a name in it, a default value, and a way to read its value from a text
that the user has typed. -/

namespace Restyle

/-- The settings. -/
inductive Setting where
  /-- The style of the output. -/
  | outputStyle
  /-- Load paths. -/
  | includePaths
  /-- Whether source maps are written. -/
  | sourceMap
  /-- The executable that renders. -/
  | sassBinary
  /-- Whether directories below the root count. -/
  | recursive
  /-- The window in which changes of one file are collapsed, in seconds. -/
  | debounce
  deriving DecidableEq, Repr

/-- Why a setting cannot be set to a value. -/
inductive SettingError where
  /-- There is no setting of that name. -/
  | unknownKey (key : String)
  /-- The text is no truth value. -/
  | notBoolean (s : Setting) (raw : String)
  /-- The text is no number. -/
  | notNumber
  /-- There is no such output style. -/
  | unknownStyle (style : String)
  deriving DecidableEq, Repr

namespace Setting

/-- The settings, in the order in which they are shown. -/
def all : List Setting := [outputStyle, includePaths, sourceMap, sassBinary, recursive, debounce]

/-- The section of a setting. -/
def sectionName : Setting → String
  | outputStyle | includePaths | sourceMap | sassBinary => "render"
  | recursive | debounce => "watch"

/-- The name of a setting in its section. -/
def name : Setting → String
  | outputStyle => "output_style"
  | includePaths => "include_paths"
  | sourceMap => "source_map"
  | sassBinary => "sass_binary"
  | recursive => "recursive"
  | debounce => "debounce"

/-- The full name of a setting: its section and its name, joined by a dot. -/
def key (s : Setting) : String := s.sectionName ++ "." ++ s.name

/-- The setting with a full name. -/
def ofKey? (key : String) : Option Setting := all.find? fun s => s.key = key

/-- `ofKey? s.key = some s`. -/
@[simp] theorem ofKey?_key (s : Setting) : ofKey? s.key = some s := by
  cases s <;> decide

/-- The value of a setting that has not been set. -/
def default : Setting → Toml.Value
  | outputStyle => .text "expanded"
  | includePaths => .array []
  | sourceMap => .boolean false
  | sassBinary => .text "sass"
  | recursive => .boolean true
  | debounce => .float 0.05

/-- The truth value that a text names, in either case and with blanks around it. -/
def boolean? (raw : String) : Option Bool :=
  let word := String.ofList ((Text.trim raw.toList).map Char.toLower)
  if ["1", "true", "yes", "on"].contains word then some true
  else if ["0", "false", "no", "off"].contains word then some false
  else none

/-- The items of a list that commas part, without blanks around them and without empty ones. -/
def items (raw : String) : List String :=
  (((raw.toList.splitOn ',').map Text.trim).filter (· ≠ [])).map String.ofList

/-- The value of a setting that a text stands for. -/
def parse (s : Setting) (raw : String) : Except SettingError Toml.Value :=
  match s with
  | sourceMap | recursive =>
    match boolean? raw with
    | some b => .ok (.boolean b)
    | none => .error (.notBoolean s raw)
  | debounce =>
    match Decimal.float? raw.toList with
    | some x => .ok (.float x)
    | none => .error .notNumber
  | includePaths => .ok (.array ((items raw).map .text))
  | outputStyle => if raw ∈ outputStyles then .ok (.text raw) else .error (.unknownStyle raw)
  | sassBinary => .ok (.text raw)

end Setting

/-- The wording of an error, where there is one. -/
def SettingError.message? : SettingError → Option String
  | .unknownKey key => some ("Unknown config key '" ++ key ++ "'")
  | .notBoolean s raw => some ("Expected a boolean for " ++ s.key ++ ", got '" ++ raw ++ "'")
  | .notNumber => none
  | .unknownStyle style => some ("Unknown output style '" ++ style ++ "'")

end Restyle
