import Restyle.Text.Digit
import Restyle.Text.Printable

/-! # Quoted text
The notation of a text between quotes on one line. Quotes are single, unless the text holds single
quotes and no double ones. Inside, backslashes and the enclosing quote are escaped by a backslash,
and characters that cannot be printed by their name or their code point in hexadecimal. -/

namespace Restyle.Text

/-- Whether a character is a single or a double quote. -/
def isQuote (c : Char) : Bool := c == '"' || c == '\''

/-- The quote to enclose a text in. -/
def enclosingQuote (cs : List Char) : Char :=
  if cs.contains '\'' && !cs.contains '"' then '"' else '\''

/-- The escape of a character by its code point, in the shortest of three widths. -/
def codePointEscape (c : Char) : List Char :=
  let n := c.toNat
  if n ≤ 0xff then '\\' :: 'x' :: hexDigits 2 n
  else if n ≤ 0xffff then '\\' :: 'u' :: hexDigits 4 n
  else '\\' :: 'U' :: hexDigits 8 n

/-- One character of a text between quotes. -/
def escaped (quote c : Char) : List Char :=
  if c = quote ∨ c = '\\' then ['\\', c]
  else if c = '\t' then ['\\', 't']
  else if c = '\n' then ['\\', 'n']
  else if c = '\r' then ['\\', 'r']
  else if isPrintable c then [c]
  else codePointEscape c

/-- A text between quotes. -/
def quoted (cs : List Char) : List Char :=
  let quote := enclosingQuote cs
  quote :: cs.flatMap (escaped quote) ++ [quote]

end Restyle.Text
