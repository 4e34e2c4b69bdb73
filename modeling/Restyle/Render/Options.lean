import Restyle.Toml.Value

/-! # Render options
Everything a renderer is told about one render. Two parts are of no concern to this library and are
handed through: `extensions` and the values of `extra`, of any type `ω`. -/

namespace Restyle

/-- The output styles. -/
def outputStyles : List String := ["expanded", "compressed", "nested", "compact"]

/-- The options for rendering one stylesheet. -/
structure RenderOptions (ω : Type) where
  /-- The stylesheet. -/
  src : String := ""
  /-- The file to write. -/
  dest : String := ""
  /-- The load paths. -/
  includePaths : List String := []
  /-- The output style. -/
  outputStyle : String := "expanded"
  /-- Whether a source map is wanted. -/
  sourceMap : Bool := false
  /-- The setting that tells so, where it is not a truth value itself. -/
  sourceMapSetting : Option Toml.Value := none
  /-- The source map to write. -/
  sourceMapPath : Option String := none
  /-- Whether the stylesheet is in the indented dialect. -/
  indented : Bool := false
  /-- The number of digits of computed numbers. -/
  precision : Int := 10
  /-- Whether the output tells where each rule comes from. -/
  sourceComments : Bool := false
  /-- What the renderer is extended with. -/
  extensions : Option ω := none
  /-- Further options, by name. -/
  extra : List (String × ω) := []
  deriving Inhabited

/-- The change of one option. -/
inductive OptionChange (ω : Type) where
  /-- Another stylesheet. -/
  | src (s : String)
  /-- Another file to write. -/
  | dest (s : String)
  /-- Other load paths. -/
  | includePaths (ps : List String)
  /-- Another output style. -/
  | outputStyle (s : String)
  /-- A source map, or none. -/
  | sourceMap (b : Bool)
  /-- Another source map to write, or none. -/
  | sourceMapPath (p : Option String)
  /-- Another dialect. -/
  | indented (b : Bool)
  /-- Another number of digits. -/
  | precision (n : Int)
  /-- Comments, or none. -/
  | sourceComments (b : Bool)
  /-- Another extension, or none. -/
  | extensions (x : Option ω)
  /-- Other further options. -/
  | extra (xs : List (String × ω))

namespace RenderOptions

variable {ω : Type}

/-- The options after one change. -/
def change (o : RenderOptions ω) : OptionChange ω → RenderOptions ω
  | .src s => { o with src := s }
  | .dest s => { o with dest := s }
  | .includePaths ps => { o with includePaths := ps }
  | .outputStyle s => { o with outputStyle := s }
  | .sourceMap b => { o with sourceMap := b, sourceMapSetting := none }
  | .sourceMapPath p => { o with sourceMapPath := p }
  | .indented b => { o with indented := b }
  | .precision n => { o with precision := n }
  | .sourceComments b => { o with sourceComments := b }
  | .extensions x => { o with extensions := x }
  | .extra xs => { o with extra := xs }

/-- The options after some changes. The options themselves stay as they are. -/
def evolve (o : RenderOptions ω) (changes : List (OptionChange ω)) : RenderOptions ω :=
  changes.foldl change o

end RenderOptions

end Restyle
