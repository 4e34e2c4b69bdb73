/-! # Blank characters
White space in the sense of the Unicode property, and the trimming and word splitting built on it.
Every function here works on lists of characters, so that statements about texts reduce to list
inductions. -/

namespace Restyle.Text

/-- White space: blanks, tabs and line breaks of every kind, the information separators
`U+001C` to `U+001F`, and the Unicode space separators. -/
def isBlank (c : Char) : Bool :=
  let n := c.toNat
  (9 ≤ n && n ≤ 13) || (0x1c ≤ n && n ≤ 0x20) || n == 0x85 || n == 0xa0 || n == 0x1680 ||
    (0x2000 ≤ n && n ≤ 0x200a) || n == 0x2028 || n == 0x2029 || n == 0x202f || n == 0x205f ||
    n == 0x3000

/-- White space without the information separators. -/
def isWhiteSpace (c : Char) : Bool := isBlank c && !(0x1c ≤ c.toNat && c.toNat ≤ 0x1f)

/-- Drop the white space at the start. -/
def trimStart (cs : List Char) : List Char := cs.dropWhile isBlank

/-- Drop the white space at the end. -/
def trimEnd (cs : List Char) : List Char := (cs.reverse.dropWhile isBlank).reverse

/-- Drop the white space at both ends. -/
def trim (cs : List Char) : List Char := trimEnd (trimStart cs)

/-- `trimStart [] = []`. -/
@[simp] theorem trimStart_nil : trimStart [] = [] := rfl

/-- `trimEnd [] = []`. -/
@[simp] theorem trimEnd_nil : trimEnd [] = [] := rfl

/-- `trim [] = []`. -/
@[simp] theorem trim_nil : trim [] = [] := rfl

/-- The maximal runs of characters that are not white space. -/
def words (cs : List Char) : List (List Char) :=
  (cs.splitOnP isBlank).filter (· ≠ [])

/-- The first word of a text, when it has one. -/
def firstWord? (cs : List Char) : Option (List Char) := (words cs).head?

/-- Trim a string. -/
def trimmed (s : String) : String := String.ofList (trim s.toList)

/-- `(trimmed s).toList = trim s.toList`. -/
@[simp] theorem toList_trimmed (s : String) : (trimmed s).toList = trim s.toList := by
  simp [trimmed]

end Restyle.Text
