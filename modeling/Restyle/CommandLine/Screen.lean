import Restyle.CommandLine.Markup
import Restyle.Notice
import Restyle.Text.CellWidth

/-! # The screen
What is shown to the user, on two channels: results and progress on the output, failures and
warnings on the error output. -/

namespace Restyle.CommandLine

/-- What has been written to the two channels. -/
structure Screen where
  /-- The output. -/
  output : String := ""
  /-- The error output. -/
  errors : String := ""
  deriving DecidableEq, Repr

/-- The number of cells between the columns that tabs lead to. -/
def tabWidth : Nat := 8

/-- A text with every tab filled up with blanks, from the column `column` on. -/
def expandTabs (column : Nat) : List Char → List Char
  | [] => []
  | c :: cs =>
    if c = '\t' then
      let n := tabWidth - column % tabWidth
      List.replicate n ' ' ++ expandTabs (column + n) cs
    else c :: expandTabs (if c = '\n' then 0 else column + Text.cellWidth c) cs

/-- Markup as the screen shows it. -/
def shown (markup : List Char) : String := String.ofList (expandTabs 0 (Markup.text markup))

namespace Screen

/-- Write a line to the output. -/
def print (s : Screen) (line : String) : Screen := { s with output := s.output ++ line ++ "\n" }

/-- Write a line to the error output. -/
def complain (s : Screen) (line : String) : Screen := { s with errors := s.errors ++ line ++ "\n" }

/-- Write some lines to the output. -/
def printAll (s : Screen) (lines : List String) : Screen := lines.foldl print s

/-- Write some lines of markup to the output, up to the first one that cannot be shown. -/
def printMarkup (s : Screen) : List (List Char) → Except MarkupError Unit × Screen
  | [] => (.ok (), s)
  | line :: lines =>
    match Markup.check line with
    | .ok () => (s.print (shown line)).printMarkup lines
    | .error e => (.error e, s)

/-- Show a notice. Renders that have ended are shown only to those who watch. -/
def notify (isWatching : Bool) (s : Screen) (n : Notice) : Screen :=
  let message := n.message.toText
  match n.kind with
  | .error => s.complain (shown (Markup.inStyle "red" "✗" ++ ' ' :: Markup.escape message.toList))
  | .warn => s.complain (shown (Markup.inStyle "yellow" message))
  | .log => s.print (shown (Markup.inStyle "dim" message))
  | .done =>
    if isWatching then
      s.print
        (shown (' ' :: ' ' :: Markup.inStyle "green" "✓" ++ ' ' :: Markup.escape message.toList))
    else s
  | .write => s

end Screen

end Restyle.CommandLine
