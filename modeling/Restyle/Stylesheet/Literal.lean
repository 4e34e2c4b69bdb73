import Restyle.Stylesheet.Comment

/-! # String literals
The spans of the string literals in a stylesheet. A literal runs to its closing quote or to the end
of its line, whichever comes first: a stray quote hides no more than the rest of its own line.
`insideLiteral` finds the span around a position by bisection. -/

namespace Restyle.Stylesheet

/-- A stretch of a text: from `start` up to, but not including, `stop`. -/
structure Span where
  /-- The position of the first character. -/
  start : Nat
  /-- The position after the last character. -/
  stop : Nat
  deriving DecidableEq, Repr

/-- Whether a position lies within a span, past its first character. -/
def Span.Covers (s : Span) (pos : Nat) : Prop := s.start < pos ∧ pos < s.stop

instance (s : Span) (pos : Nat) : Decidable (s.Covers pos) :=
  inferInstanceAs (Decidable (_ ∧ _))

/-- The number of characters from behind an opening quote to the end of the literal, with the
closing quote or line break. A backslash takes the character after it along. -/
def literalLength (quote : Char) : List Char → Nat
  | [] => 0
  | ['\\'] => 1
  | '\\' :: _ :: cs => 2 + literalLength quote cs
  | c :: cs => if c = quote ∨ c = '\n' then 1 else 1 + literalLength quote cs

/-- The spans of the literals in the text that starts at position `pos`. -/
def spansFrom (pos : Nat) : List Char → List Span
  | [] => []
  | c :: cs =>
    if Text.isQuote c then
      let n := literalLength c cs
      ⟨pos, pos + 1 + n⟩ :: spansFrom (pos + 1 + n) (cs.drop n)
    else spansFrom (pos + 1) cs
  termination_by cs => cs.length
  decreasing_by all_goals (simp only [List.length_drop, List.length_cons]; omega)

/-- The spans of the string literals of a text, in order. -/
def literalSpans (text : List Char) : List Span := spansFrom 0 text

/-- The number of spans among those from `lo` to `hi` that start at or before `pos`, plus `lo`: the
spans are in order of their starts. -/
def countStarts (spans : Array Span) (pos lo hi : Nat) : Nat :=
  if lo < hi then
    let mid := (lo + hi) / 2
    if (spans[mid]?).any fun s => pos < s.start then countStarts spans pos lo mid
    else countStarts spans pos (mid + 1) hi
  else lo
  termination_by hi - lo

/-- Whether a position lies inside one of the spans: only the last one that starts at or before it
can hold it. -/
def insideLiteral (spans : Array Span) (pos : Nat) : Bool :=
  match countStarts spans pos 0 spans.size with
  | 0 => false
  | n + 1 => (spans[n]?).any fun s => decide (s.Covers pos)

end Restyle.Stylesheet
