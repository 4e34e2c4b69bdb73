import Restyle.Toml.Literal

/-! # Arrays and inline tables in a settings document
How a text is cut at separators that may also stand inside of strings, and the texts of the elements
of an array and of the entries of an inline table. The elements of an array are of one kind. -/

namespace Restyle.Toml

open Text

/-! ## Separators outside of strings -/

/-- Continue stretches that end inside single quotes, across the double quotes that part the
rest. -/
def takeSingles (stretches : List (List Char)) :
    List (List Char) → List (List Char) × List (List Char)
  | [] => (stretches, [])
  | d :: ds =>
    if stretches.length % 2 = 0 then
      let joined := (stretches.getLast?.getD []) ++ '"' :: d
      takeSingles (stretches.dropLast ++ joined.splitOn '\'') ds
    else (stretches, d :: ds)

/-- The stretches between double quotes, of which only the first is also cut at single ones. -/
def cutFirst : List (List Char) → List (List Char)
  | [] => []
  | d :: ds => d.splitOn '\'' ++ ds

/-- The stretches of a line between quotes: every second one, from the second on, is the text of a
string. -/
def stretches (line : List Char) : List (List Char) :=
  match line.splitOn '"' with
  | d :: e :: ds =>
    if d.contains '\'' then
      let (singles, rest) := takeSingles (d.splitOn '\'') (e :: ds)
      singles ++ cutFirst rest
    else cutFirst (d :: e :: ds)
  | ds => cutFirst ds

/-- How often a separator stands in a line before it stands outside of strings for the first
time. -/
def quotedBefore (separator : List Char) (isQuoted : Bool) : List (List Char) → Nat
  | [] => 0
  | p :: ps =>
    if !isQuoted && occursIn separator p then 0
    else (piecesAt separator p).length - 1 + quotedBefore separator (!isQuoted) ps

/-- The number of the separator in a line that is the first one outside of strings. -/
def firstOutside (separator line : List Char) : Nat :=
  1 + quotedBefore separator false (stretches line)

/-- The text before the `n`-th separator and the text after it; the last separator takes its place
when there are fewer. -/
def cutAt (separator : List Char) (n : Nat) (line : List Char) : List Char × List Char :=
  let pieces := piecesAt separator line
  let n := min n (pieces.length - 1)
  (List.intercalate separator (pieces.take n), List.intercalate separator (pieces.drop n))

/-! ## Arrays -/

/-- Whether a text is a whole string: it ends with the quote it starts with, which is not escaped,
and three quotes at its start do not stand alone. -/
def isWhole (cs : List Char) : Bool :=
  match cs with
  | [] => true
  | q :: _ =>
    let isBounded := cs.getLast? = some q && !endsEscaped cs.dropLast
    let isOpen := 2 < cs.length && cs.take 3 = [q, q, q] &&
      ((cs.reverse.drop 1).take 2).all (· ≠ q)
    isBounded && !isOpen

/-- Join the pieces that a comma inside of a string has parted; `part` is what has come of a
string. -/
def joinStrings (part : Option (List Char)) :
    List (List Char) → Except ReadError (List (List Char))
  | [] => if part.isNone then .ok [] else .error .cutShort
  | p :: ps =>
    match part with
    | none =>
      if ps = [] ∨ isWhole (trim p) then (joinStrings none ps).map (p :: ·)
      else joinStrings (some p) ps
    | some c =>
      let p := c ++ ',' :: p
      if isWhole (trim p) then (joinStrings none ps).map (p :: ·) else joinStrings (some p) ps

/-- Where a look at an array of inline tables is. -/
inductive TableLook where
  /-- Between two tables, and before the comma if `hasComma` does not hold. -/
  | between (hasComma : Bool)
  /-- In a table, of which `before` has come, the latest character first; `depth` tables are open,
  and perhaps a string. -/
  | inside (before : List Char) (depth : Nat) (isQuoted : Bool)

/-- The texts of the inline tables in an array. -/
def tableTexts (look : TableLook) : List Char → List (List Char)
  | [] => []
  | c :: cs =>
    match look with
    | .between false => tableTexts (.between true) cs
    | .between true => tableTexts (if c = '{' then .inside [c] 1 false else .between true) cs
    | .inside before depth isQuoted =>
      let isQuoted := if isQuote c then !isQuoted || Look.isEscaped before else isQuoted
      let depth := if !isQuoted && c = '{' then depth + 1 else depth
      if isQuoted || c ≠ '}' then tableTexts (.inside (c :: before) depth isQuoted) cs
      else if 1 < depth then tableTexts (.inside (c :: before) (depth - 1) isQuoted) cs
      else (c :: before).reverse :: tableTexts (.between false) cs

/-- Cut an array of arrays at the commas outside of them; `piece` is what has come of an element,
and `depth` arrays are open. -/
def nestedTexts (piece : List Char) (depth : Int) : List Char → List (List Char)
  | [] => [piece.reverse]
  | c :: cs =>
    if c = ',' ∧ depth = 0 then piece.reverse :: nestedTexts [] depth cs
    else
      let depth := if c = '[' then depth + 1 else if c = ']' then depth - 1 else depth
      nestedTexts (c :: piece) depth cs

/-- The texts of the elements of an array. -/
def elementTexts (cs : List Char) : Except ReadError (List (List Char)) :=
  let body := inner (trim cs)
  if body.contains '[' ∧ trim (body.takeWhile (· ≠ '[')) = [] then .ok (nestedTexts [] 0 body)
  else
    match trim body, body with
    | '{' :: _, c :: cs => .ok (tableTexts (.inside [c] (if c = '{' then 1 else 0) false) cs)
    | t, _ =>
      let pieces := body.splitOn ','
      if t.head?.any isQuote then joinStrings none pieces else .ok pieces

/-- Read the elements of an array, whose kind is `kind` if one has come. -/
def readElements (readValue : List Char → Except ReadError Value) (kind : Option Kind) :
    List (List Char) → Except ReadError (List Value)
  | [] => .ok []
  | t :: ts =>
    if trim t = [] then readElements readValue kind ts
    else do
      let v ← readValue (trim t)
      if kind.any (· ≠ v.kind) then throw .malformed
      return v :: (← readElements readValue (some v.kind) ts)

/-! ## Inline tables -/

/-- Whether a text is a whole value of an inline table. -/
def isWholeValue (cs : List Char) : Except ReadError Bool :=
  match cs, cs.getLast? with
  | c :: _, some d =>
    .ok ((isQuote c && c = d) || c = '-' || isPlainDigit c || cs = "true".toList ||
      cs = "false".toList || (c = '[' && d = ']') || (c = '{' && d = '}'))
  | _, _ => .error .cutShort

/-- The texts of the entries of an inline table, in the pieces between its commas; `part` is what
has come of an entry. -/
def entryTexts (part : Option (List Char)) : List (List Char) → Except ReadError (List (List Char))
  | [] => if part.isNone then .ok [] else .error .malformed
  | p :: ps => do
    let entry := match part with
      | some c => c ++ ',' :: p
      | none => p
    if !entry.contains '=' then throw .malformed
    if ← isWholeValue (trim (cutAt ['='] 1 entry).2) then
      return entry :: (← entryTexts none ps)
    else entryTexts (some entry) ps

/-- The texts of the entries of an inline table between braces. -/
def inlineEntries (cs : List Char) : Except ReadError (List (List Char)) :=
  let body := inner cs
  if trim body = [] then .ok [] else entryTexts none (body.splitOn ',')

end Restyle.Toml
