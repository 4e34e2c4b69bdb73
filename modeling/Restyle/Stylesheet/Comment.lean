import Restyle.Text.Blank
import Restyle.Text.Quoted

/-! # Comments
Removing the comments of a stylesheet: a `//` comment runs to the end of its line, a block comment
runs to the next `*/`. String literals hold no comments, and the `//` of an address is none. Line
breaks survive, so that every remaining character stays on its line. -/

namespace Restyle.Stylesheet

/-- What the next character of a stylesheet belongs to. -/
inductive Region where
  /-- The stylesheet proper. -/
  | code
  /-- A string literal closed by `quote`. -/
  | literal (quote : Char)
  /-- A block comment. -/
  | block
  /-- A comment that ends with its line. -/
  | line
  deriving DecidableEq, Repr

/-- The line read so far, latest character first, after one more character. -/
def extendLine (c : Char) (line : List Char) : List Char := if c = '\n' then [] else c :: line

/-- Whether a word occurs in a text. -/
def occursIn (word : List Char) : List Char → Bool
  | [] => word.isEmpty
  | c :: cs => word.isPrefixOf (c :: cs) || occursIn word cs

/-- Whether a `//` after this line start belongs to an address: it follows a colon, or an open
`url(`. The line is given latest character first. -/
def inAddress (line : List Char) : Bool :=
  (line.dropWhile Text.isBlank).head? == some ':' ||
    occursIn "(lru".toList (line.takeWhile (· ≠ ')'))

/-- Remove the comments of the characters that follow, in the given region and after the given start
of their line (latest character first). -/
def stripFrom : Region → List Char → List Char → List Char
  | _, _, [] => []
  | .literal q, line, '\\' :: c :: cs =>
    '\\' :: c :: stripFrom (.literal q) (extendLine c ('\\' :: line)) cs
  | .literal q, line, c :: cs =>
    c :: stripFrom (if c = q then .code else .literal q) (extendLine c line) cs
  | .block, line, '*' :: '/' :: cs => stripFrom .code ('/' :: '*' :: line) cs
  | .block, _, '\n' :: cs => '\n' :: stripFrom .block [] cs
  | .block, line, c :: cs => stripFrom .block (c :: line) cs
  | .line, _, '\n' :: cs => '\n' :: stripFrom .code [] cs
  | .line, line, c :: cs => stripFrom .line (c :: line) cs
  | .code, line, '/' :: '*' :: cs => stripFrom .block ('*' :: '/' :: line) cs
  | .code, line, '/' :: '/' :: cs =>
    if inAddress line then '/' :: stripFrom .code ('/' :: line) ('/' :: cs)
    else stripFrom .line ('/' :: '/' :: line) cs
  | .code, line, c :: cs =>
    c :: stripFrom (if Text.isQuote c then .literal c else .code) (extendLine c line) cs

/-- `stripFrom .line line (c :: cs) = stripFrom .line (c :: line) cs`: a comment to the end of its
line loses everything up to `'\n'`. -/
theorem stripFrom_line_cons {c : Char} (hbreak : c ≠ '\n') (line cs : List Char) :
    stripFrom .line line (c :: cs) = stripFrom .line (c :: line) cs := by
  rw [stripFrom]
  exact hbreak

/-- A stylesheet without its comments. -/
def stripComments (source : List Char) : List Char := stripFrom .code [] source

end Restyle.Stylesheet
