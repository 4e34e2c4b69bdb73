import Restyle.Toml.Reader
import Restyle.Toml.Writer

/-! # Codecs
A codec reads documents from texts and writes them. Settings are kept in a file with any codec; the
program uses `Codec.standard`. -/

namespace Restyle.Toml

/-- A way to read documents from texts, and to write them. -/
structure Codec where
  /-- Read the document that a text spells. -/
  read : List Char → Except ReadError Table
  /-- Spell a document. -/
  write : Table → Except WriteError (List Char)

namespace Codec

/-- Reading and writing as the reader and the writer of this library do. -/
def standard : Codec where
  read := Toml.read
  write := Toml.write

/-- `standard.read = Toml.read`. -/
@[simp] theorem read_standard : standard.read = Toml.read := rfl

/-- `standard.write = Toml.write`. -/
@[simp] theorem write_standard : standard.write = Toml.write := rfl

end Codec

end Restyle.Toml
