/-! # Patterns for names
A pattern stands for a set of names: `*` for any text, `?` for any character, and characters between
brackets for one of them, where `a-z` is a range and a `!` in front means every other character.
Everything else stands for itself. -/

namespace Restyle.Glob

/-- A part of a pattern. -/
inductive Token where
  /-- Any text. -/
  | star
  /-- Any one character. -/
  | any
  /-- One character out of some ranges, or out of all others. -/
  | oneOf (isNegated : Bool) (ranges : List (Char × Char))
  /-- The character itself. -/
  | char (c : Char)
  deriving DecidableEq, Repr

/-- Whether a part of a pattern that stands for one character stands for `c`. -/
def Token.accepts : Token → Char → Bool
  | .star, _ => false
  | .any, _ => true
  | .oneOf isNegated ranges, c => ranges.any (fun r => r.1 ≤ c && c ≤ r.2) != isNegated
  | .char d, c => c == d

/-- Whether a name is one that a pattern stands for. A star takes any number of characters away. -/
def accepts : List Token → List Char → Bool
  | [], cs => cs.isEmpty
  | .star :: ts, cs => (List.range (cs.length + 1)).any fun n => accepts ts (cs.drop n)
  | t :: ts, cs =>
    match cs with
    | [] => false
    | c :: cs => t.accepts c && accepts ts cs

/-! ## Reading patterns -/

/-- Cut what stands between brackets at the hyphens that make ranges: a hyphen counts when at least
`skipped` characters stand before it, and the next one when two more do. -/
def cutAtHyphens : Nat → List Char → List Char → List (List Char)
  | _, chunk, [] => [chunk.reverse]
  | skipped, chunk, c :: cs =>
    if c = '-' ∧ skipped ≤ chunk.length then chunk.reverse :: cutAtHyphens 2 [] cs
    else cutAtHyphens skipped (c :: chunk) cs

/-- A hyphen at the very end makes no range. -/
def keepLastHyphen : List (List Char) → List (List Char)
  | [] => []
  | [chunk] => [chunk]
  | [chunk, []] => [chunk ++ ['-']]
  | chunk :: chunks => chunk :: keepLastHyphen chunks

/-- Put a piece in front of others, without the range between them if that is empty. -/
def joinEmptyRange (chunk : List Char) : List (List Char) → List (List Char)
  | [] => [chunk]
  | next :: chunks =>
    match chunk.getLast?, next.head? with
    | some lo, some hi =>
      if hi < lo then (chunk.dropLast ++ next.tail) :: chunks else chunk :: next :: chunks
    | _, _ => chunk :: next :: chunks

/-- The ranges that some pieces stand for: every character is one, and so is what lies between two
pieces. -/
def rangesOf : List (List Char) → List (Char × Char)
  | [] => []
  | [chunk] => chunk.map fun c => (c, c)
  | chunk :: next :: chunks =>
    chunk.map (fun c => (c, c)) ++
      ((chunk.getLast?.bind fun lo => next.head?.map (lo, ·)).toList) ++
      rangesOf (next :: chunks)

/-- The part of a pattern that is written between brackets. -/
def classOf (body : List Char) : Token :=
  let first := if body.head? = some '!' then 2 else 1
  let chunks := (keepLastHyphen (cutAtHyphens first [] body)).foldr joinEmptyRange []
  match chunks with
  | [['!']] => .any
  | ('!' :: chunk) :: chunks => .oneOf true (rangesOf (chunk :: chunks))
  | chunks => .oneOf false (rangesOf chunks)

/-- What stands between an opening bracket and the bracket that closes it. A bracket at the very
start, or behind a `!` there, closes nothing. -/
def classBody? (cs : List Char) : Option (List Char) :=
  let front := match cs with
    | '!' :: ']' :: _ => 2
    | '!' :: _ | ']' :: _ => 1
    | _ => 0
  let body := (cs.drop front).takeWhile (· ≠ ']')
  if front + body.length < cs.length then some (cs.take front ++ body) else none

/-- Read a pattern, of which the first `skipped` characters are read already. -/
def readFrom : Nat → List Char → List Token
  | _, [] => []
  | skipped + 1, _ :: cs => readFrom skipped cs
  | 0, c :: cs =>
    if c = '*' then .star :: readFrom 0 cs
    else if c = '?' then .any :: readFrom 0 cs
    else if c = '[' then
      match classBody? cs with
      | some body => classOf body :: readFrom (body.length + 1) cs
      | none => .char c :: readFrom 0 cs
    else .char c :: readFrom 0 cs

/-- Read a pattern. -/
def read (cs : List Char) : List Token := readFrom 0 cs

/-- Whether a character has a meaning of its own in patterns. -/
def isSpecial (c : Char) : Bool := c == '*' || c == '?' || c == '['

end Restyle.Glob
