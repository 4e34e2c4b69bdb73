import Restyle.CommandLine.Screen

/-! # Grids
A grid shows rows of two texts in two columns. A column is as wide as the widest line of the texts
in it, where tabs count nothing. The lines of a text are wrapped between words where they are too
wide after all, and a row is as high as the higher one of its two texts. -/

namespace Restyle.CommandLine.Grid

/-! ## Widths -/

/-- Whether a character ends a line when widths are taken. -/
def endsLine (c : Char) : Bool :=
  let n := c.toNat
  (10 ≤ n && n ≤ 13) || (0x1c ≤ n && n ≤ 0x1e) || n == 0x85 || n == 0x2028 || n == 0x2029

/-- The number of cells of the widest line of a text. -/
def width (cs : List Char) : Nat := ((cs.splitOnP endsLine).map Text.cellsOf).foldl max 0

/-- The width of a column. -/
def columnWidth (texts : List (List Char)) : Nat := (texts.map width).foldl max 0

/-! ## Wrapping -/

/-- The first word of a line, with the blanks on both sides of it; empty if there is none. -/
def firstWord (cs : List Char) : List Char :=
  let blanks := cs.takeWhile Text.isBlank
  let word := (cs.drop blanks.length).takeWhile fun c => !Text.isBlank c
  let behind := (cs.drop (blanks.length + word.length)).takeWhile Text.isBlank
  if word = [] then [] else blanks ++ word ++ behind

/-- The words of a line, each with the blanks behind it; the first one also has those in front of
it. A blank line has no words. -/
def words (cs : List Char) : List (List Char) :=
  match cs with
  | [] => []
  | c :: rest =>
    match firstWord (c :: rest) with
    | [] => []
    | d :: word => (d :: word) :: words (rest.drop word.length)
  termination_by cs.length
  decreasing_by simp only [List.length_drop, List.length_cons]; omega

/-- A line that is being wrapped. -/
structure Wrapping where
  /-- The lines so far, the latest first. -/
  lines : List (List Char) := []
  /-- The line that words are put on. -/
  line : List Char := []
  /-- The number of cells that count as taken. -/
  taken : Nat := 0

namespace Wrapping

/-- Whether nothing has come yet. -/
def isEmpty (w : Wrapping) : Bool := w.lines.isEmpty && w.line.isEmpty

/-- Put a word on the line. -/
def append (w : Wrapping) (word : List Char) : Wrapping := { w with line := w.line ++ word }

/-- Put a word on a line of its own, which is the first line if nothing has come yet. -/
def startLine (w : Wrapping) (word : List Char) : Wrapping :=
  { lines := if w.isEmpty then w.lines else w.line :: w.lines
    line := word
    taken := Text.cellsOf word }

/-- Take a word. The blanks behind it need no room. -/
def take (width : Nat) (w : Wrapping) (word : List Char) : Wrapping :=
  let needed := Text.cellsOf (Text.trimEnd word)
  if w.taken + needed ≤ width then { w.append word with taken := w.taken + Text.cellsOf word }
  else if width < needed ∨ (w.taken ≠ 0 ∧ !w.isEmpty) then w.startLine word
  else w.append word

end Wrapping

/-- The lines that a line is wrapped to. -/
def wrapped (width : Nat) (line : List Char) : List (List Char) :=
  let w := (words line).foldl (Wrapping.take width) {}
  if w.isEmpty then [line] else (w.line :: w.lines).reverse

/-! ## Cropping -/

/-- The start of a text that takes `total` cells, between the lengths `short` and `long`, found by
halving; half of a wide character at its end is a blank. -/
def cropBetween (total : Nat) (cs : List Char) (short long : Nat) : Nat → List Char
  | 0 => cs.take short
  | fuel + 1 =>
    let middle := (short + long) / 2
    let start := cs.take (middle + 1)
    let cells := Text.cellsOf start
    if cells = total + 1 ∧ (start.getLast?.map Text.cellWidth) = some 2 then start.dropLast ++ [' ']
    else if cells = total then start
    else if total < cells then cropBetween total cs short middle fuel
    else cropBetween total cs middle long fuel

/-- A line in a column: blanks at its end that stand out are dropped, and what is still too wide is
cropped. -/
def fitted (width : Nat) (line : List Char) : List Char :=
  let blanks := (line.reverse.takeWhile Text.isBlank).length
  let line := line.take (line.length - min blanks (line.length - width))
  if Text.cellsOf line ≤ width then line
  else if width ≤ 1 then ['…']
  else cropBetween (width - 1) line 0 line.length (line.length + 1) ++ ['…']

/-! ## Rows -/

/-- The lines of a text in a column. -/
def linesIn (width : Nat) (cs : List Char) : List (List Char) :=
  (cs.splitOn '\n').flatMap fun line => (wrapped width (expandTabs 0 line)).map (fitted width)

/-- The lines of a row, side by side. -/
def beside (left right : List (List Char)) : List (String × String) :=
  (List.range (max left.length right.length)).map fun n =>
    let cell (lines : List (List Char)) : String := String.ofList (Text.trim (lines[n]?.getD []))
    (cell left, cell right)

/-- The lines of a grid with the given heads of its columns, without the heads. -/
def lines (heads : String × String) (rows : List (List Char × List Char)) :
    List (String × String) :=
  let left := columnWidth (heads.1.toList :: rows.map (·.1))
  let right := columnWidth (heads.2.toList :: rows.map (·.2))
  rows.flatMap fun row => beside (linesIn left row.1) (linesIn right row.2)

end Restyle.CommandLine.Grid
