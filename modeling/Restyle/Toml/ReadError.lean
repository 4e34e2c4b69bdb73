/-! # Why a settings document cannot be read
Most faults make a document malformed, which a program can tell its user. The others come from
places where a document leads the reader on to something that does not exist. -/

namespace Restyle.Toml

/-- Why a document cannot be read. -/
inductive ReadError where
  /-- The document breaks the rules. -/
  | malformed
  /-- The document ends, or a part of it is empty, where a character has to come. -/
  | cutShort
  /-- A header or a dotted key leads through a value that is no table. -/
  | notTable
  /-- A header adds a table to a value that is no array. -/
  | notArray
  /-- A text that goes on over several lines has the empty key. -/
  | nameless
  /-- Arrays and inline tables are nested too deeply. -/
  | tooDeep
  /-- The fraction of a second is too long a number to compute with. -/
  | fractionTooLong
  deriving DecidableEq, Repr

end Restyle.Toml
