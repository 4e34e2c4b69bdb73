import Restyle.Settings.Setting
import Restyle.Toml.Display

/-! # Effective settings
The defaults of all settings, overlaid with what a settings document says. A document may hold more
than the settings: further entries in their sections are kept, further sections are ignored, and so
is anything else in the place of a section. -/

namespace Restyle

/-- The entries of the sections. -/
structure Settings where
  /-- The section for rendering. -/
  render : Toml.Table
  /-- The section for watching. -/
  watch : Toml.Table

namespace Settings

/-- The default entries of a section. -/
def defaultSection (name : String) : Toml.Table :=
  (Setting.all.filter fun s => s.sectionName = name).map fun s => (s.name, s.default)

/-- The entries of a section: the defaults, overlaid with those of a document. -/
def overlaid (doc : Toml.Table) (name : String) : Toml.Table :=
  match doc.get? name with
  | some (.table entries) => (defaultSection name).putAll entries
  | _ => defaultSection name

/-- The effective settings of a document. -/
def ofDocument (doc : Toml.Table) : Settings :=
  { render := overlaid doc "render", watch := overlaid doc "watch" }

/-- The sections, by their names. -/
def sections (s : Settings) : List (String × Toml.Table) :=
  [("render", s.render), ("watch", s.watch)]

/-- The value of a setting. -/
def get (s : Settings) (setting : Setting) : Toml.Value :=
  (((s.sections.lookup setting.sectionName).getD []).get? setting.name).getD setting.default

/-- The full name and the value of every entry. -/
def entries (s : Settings) : List (String × Toml.Value) :=
  s.sections.flatMap fun (name, entries) => entries.map fun e => (name ++ "." ++ e.1, e.2)

end Settings

end Restyle
