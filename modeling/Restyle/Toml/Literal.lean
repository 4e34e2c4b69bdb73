import Restyle.Decimal.Reading
import Restyle.Toml.Layout
import Restyle.Toml.Value

/-! # Texts and numbers in a settings document
Texts stand between quotes, of which there may be three. Between single quotes every character
stands for itself; between double quotes a backslash starts an escape. Numbers are integers in base
ten or with a base prefix, and floating-point numbers with digits on both sides of the point. -/

namespace Restyle.Toml

open Text

/-! ## Pieces -/

/-- The pieces of a text between the places where `separator` stands, found from left to right;
`piece` is what has come of the first one, the latest character first, and `skip` counts the
characters of a separator that are still to come. -/
def piecesFrom (separator piece : List Char) (skip : Nat) : List Char → List (List Char)
  | [] => [piece.reverse]
  | c :: cs =>
    if 0 < skip then piecesFrom separator piece (skip - 1) cs
    else if separator.isPrefixOf (c :: cs) then
      piece.reverse :: piecesFrom separator [] (separator.length - 1) cs
    else piecesFrom separator (c :: piece) 0 cs

/-- The pieces of a text that `separator` parts. -/
def piecesAt (separator cs : List Char) : List (List Char) := piecesFrom separator [] 0 cs

/-- Whether a text occurs in another one. -/
def occursIn (part cs : List Char) : Bool := 1 < (piecesAt part cs).length

/-- A text without its first and its last character. -/
def inner (cs : List Char) : List Char := cs.tail.dropLast

/-- Whether a text ends with an odd number of backslashes. -/
def endsEscaped (cs : List Char) : Bool := Look.isEscaped cs.reverse

/-! ## Texts -/

/-- The characters with an escape of one letter, by that letter. -/
def escapes : List (Char × Char) :=
  [('0', '\x00'), ('b', '\x08'), ('f', '\x0c'), ('n', '\n'), ('r', '\r'), ('t', '\t'), ('"', '"')]

/-- Replace the escapes of one letter, and those of the backslash. Escapes by code point stay, and
any other is reserved. -/
def unescape : List Char → Except ReadError (List Char)
  | [] => .ok []
  | ['\\'] => .ok ['\\']
  | '\\' :: c :: cs =>
    match escapes.lookup c with
    | some e => (unescape cs).map (e :: ·)
    | none =>
      if c = '\\' then (unescape cs).map ('\\' :: ·)
      else if c = 'u' ∨ c = 'U' then (unescape cs).map ('\\' :: c :: ·)
      else .error .malformed
  | c :: cs => (unescape cs).map (c :: ·)

/-- Refuse escapes that are reserved, in the pieces between the backslashes of a text. Two
backslashes in a row let any character come. -/
def refuseReserved (isLiteral : Bool) : List (List Char) → Except ReadError Unit
  | [] => .ok ()
  | [] :: ps => refuseReserved (!isLiteral) ps
  | (c :: _) :: ps =>
    if isLiteral ∨ c = 'u' ∨ c = 'U' ∨ (escapes.lookup c).isSome then refuseReserved false ps
    else .error .malformed

/-- The character that a code point in hexadecimal stands for. Surrogates, which start with a `d`
and a digit from 8 on, stand for none. -/
def codePoint (digits : List Char) : Except ReadError Char :=
  match digits.mapM hexValue? with
  | none => .error .malformed
  | some ds =>
    match ds with
    | [] | [13] => .error .cutShort
    | 13 :: d :: _ => if d < 8 then ofDigits ds else .error .malformed
    | ds => ofDigits ds
where
  /-- The character that some digits stand for. -/
  ofDigits (ds : List Nat) : Except ReadError Char :=
    let n := digitsToNat 16 ds
    if n.isValidChar then .ok (Char.ofNat n) else .error .malformed

/-- Replace the escapes by code point in the pieces between their marks, where the mark `\mark` is
followed by `width` digits. A mark behind an odd number of backslashes is none. -/
def placePieces (mark : Char) (width : Nat) (isLiteral : Bool) :
    List (List Char) → Except ReadError (List Char)
  | [] => .ok []
  | p :: ps =>
    if isLiteral then
      (placePieces mark width (endsEscaped p) ps).map fun rest => '\\' :: mark :: p ++ rest
    else do
      let c ← codePoint (p.take width)
      let rest ← placePieces mark width false ps
      return c :: p.drop width ++ rest

/-- Replace the escapes by code point with the given mark and number of digits. -/
def placeCodePoints (mark : Char) (width : Nat) (cs : List Char) : Except ReadError (List Char) :=
  match piecesAt ['\\', mark] cs with
  | [] => .ok []
  | p :: ps => (placePieces mark width (endsEscaped p) ps).map (p ++ ·)

/-- Refuse a text that goes on behind its closing quote, in the pieces between its quotes;
`isLong` is whether three quotes opened it, and `row` counts the quotes in a row. -/
def refuseTail (isLong isClosed : Bool) (row : Nat) : List (List Char) → Except ReadError Unit
  | [] => .ok ()
  | [] :: ps =>
    if isLong then refuseTail isLong isClosed (row + 1) ps else refuseTail isLong true row ps
  | p :: ps =>
    if endsEscaped p then refuseTail isLong isClosed row ps
    else if isClosed then .error .malformed
    else if !isLong ∨ 1 < row then refuseTail isLong true row ps
    else refuseTail isLong false 0 ps

/-- The text between quotes. -/
def unquote (quote : Char) (cs : List Char) : List Char :=
  match cs with
  | [_, _] => []
  | a :: b :: c :: rest =>
    if b = quote ∧ c = b then inner ((c :: rest).dropLast.dropLast) else inner (a :: b :: c :: rest)
  | cs => inner cs

/-- Read a text that starts with the quote `quote`. -/
def readText (quote : Char) (cs : List Char) : Except ReadError String := do
  match cs.tail.splitOn quote with
  | [] :: [] :: pieces => refuseTail true false 0 pieces
  | pieces => refuseTail false false 0 pieces
  if quote ≠ '"' then return String.ofList (unquote quote cs)
  refuseReserved false (cs.splitOn '\\').tail
  let cs ← placeCodePoints 'u' 4 cs
  let cs ← placeCodePoints 'U' 8 cs
  return String.ofList (unquote quote (← unescape cs))

/-! ## Numbers -/

/-- Whether a text has the shape of a number: no underscore stands at an end, beside the point or
beside another one, and a zero at the start is followed by a point or a base. -/
def hasNumberShape (cs : List Char) : Bool :=
  match trim cs with
  | [] => false
  | [c] => c != '_'
  | c :: d :: rest =>
    let cs := c :: d :: rest
    let number := if c = '+' ∨ c = '-' then d :: rest else cs
    !(c = '_' || cs.getLast? = some '_') &&
      !(occursIn ['_', '.'] cs || occursIn ['.', '_'] cs) &&
      (c ≠ '0' || ['.', 'o', 'b', 'x'].contains d) &&
      (number.length = cs.length || number.head? ≠ some '0' || number.length < 2 ||
        (number.drop 1).head? = some '.') &&
      !(occursIn ['_', '_'] number)

/-- Read a number, whose shape is known to be right. -/
def readNumber (cs : List Char) : Except ReadError Value := do
  let (negative, cs) := Decimal.splitSign cs
  let cs := cs.filter (· ≠ '_')
  let isName := [['i', 'n', 'f'], ['n', 'a', 'n']].contains (cs.map Char.toLower)
  if cs.contains '.' ∨ (!cs.contains 'x' ∧ (cs.contains 'e' ∨ cs.contains 'E')) ∨ isName then
    if !isName then
      if (cs.dropWhile (· ≠ '.')) = ['.'] then throw .malformed
      if !Decimal.startsWithDigit cs then throw .malformed
    match Decimal.float? cs with
    | some x => return .float (if negative then 0.0 - x else x)
    | none => throw .malformed
  else
    match Decimal.prefixedInteger? cs with
    | some n => return .integer (if negative then -n else n)
    | none => throw .malformed

end Restyle.Toml
