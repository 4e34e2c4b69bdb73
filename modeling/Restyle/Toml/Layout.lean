import Restyle.Text.Alphanumeric
import Restyle.Text.Blank
import Restyle.Text.Quoted
import Restyle.Toml.ReadError

/-! # The layout of a settings document
The first look at a document goes character by character. It blanks the comments, brings an array
that is spread over several lines onto one, drops the line break behind three opening quotes, and
refuses documents with a broken key or a string that is not closed. What remains is a list of lines
that can be read one by one.

A quote is judged by what stands in front of it. In front of the first character stands the end of
the document, as if it were written around a ring. -/

namespace Restyle.Toml

/-- Where in a key the look at a document is. -/
inductive KeyPart where
  /-- Not in a key. -/
  | outside
  /-- In the name, or in one of the names that dots join. -/
  | name
  /-- Behind a name. -/
  | afterName
  deriving DecidableEq, Repr

/-- The header that the look at a document is in. -/
inductive Header where
  /-- None. -/
  | none
  /-- The header of a table. -/
  | table
  /-- The header of an element of an array of tables. -/
  | element
  deriving DecidableEq, Repr

/-- The state of the look at a document. -/
structure Look where
  /-- The quote of the string that is open. -/
  quote : Option Char := none
  /-- Whether three quotes have opened a string, and have not yet closed it. -/
  inLongString : Bool := false
  /-- The number of brackets that are open in a value. -/
  brackets : Int := 0
  /-- The header. -/
  header : Header := .none
  /-- Whether only blanks have come on this line. -/
  atStart : Bool := true
  /-- The part of a key. -/
  key : KeyPart := .outside
  /-- Whether a dot has come in the key. -/
  isDotted : Bool := false
  /-- Whether the rest of the line is a comment. -/
  inComment : Bool := false

namespace Look

/-- The number of times a character stands at the end of what came before, at most `limit` times. -/
def trailing (c : Char) (limit : Nat) (before : List Char) : Nat :=
  ((before.take limit).takeWhile (· == c)).length

/-- Whether what came before ends with an odd number of backslashes, the last of which escapes the
next character. -/
def isEscaped (before : List Char) : Bool := (before.takeWhile (· == '\\')).length % 2 = 1

/-- Take a character of a key. The second part is whether nothing else is to be done about it. -/
def inKey (s : Look) (before : List Char) (c : Char) (next : Option Char) :
    Except ReadError (Look × Bool) := do
  if c = '\n' then throw .malformed
  if let some quote := s.quote then
    return (if c = quote ∧ !isEscaped before then { s with quote := none, key := .afterName }
      else s, true)
  let goesOn : Except ReadError Bool :=
    match next with
    | some n => .ok (!Text.isBlank n && n ≠ '.')
    | none => .error .cutShort
  match s.key with
  | .name =>
    if Text.isBlank c then return ({ s with key := .afterName }, true)
    if c = '.' then return ({ s with isDotted := true }, true)
    if Text.isAlphanumeric c ∨ c = '_' ∨ c = '-' then return (s, true)
    if s.isDotted ∧ before.head? = some '.' ∧ Text.isQuote c then
      return ({ s with quote := some c }, true)
  | .afterName =>
    if Text.isBlank c then
      if s.isDotted then return ({ s with key := if (← goesOn) then .name else .afterName }, true)
      return (s, true)
    if c = '.' then
      return ({ s with isDotted := true, key := if (← goesOn) then .name else .afterName }, true)
  | .outside => pure ()
  if c = '=' then return ({ s with key := .outside, isDotted := false }, false)
  throw .malformed

/-- Take a quote: the third in a row opens or closes a long string, any other opens or closes a
string. -/
def atQuote (s : Look) (c : Char) (isThird : Bool) : Look :=
  if isThird then
    { s with inLongString := !s.inLongString, quote := if s.inLongString then none else some c }
  else { s with quote := if s.quote.isSome then none else some c }

/-- Take a character that may be a quote, behind the characters `before`. A double quote can be
escaped, a single one can not. -/
def takeQuote (s : Look) (before : List Char) (c : Char) : Look :=
  let row := trailing c 2 before
  if c = '\'' ∧ s.quote ≠ some '"' then s.atQuote c (row = 2)
  else if c = '"' ∧ s.quote ≠ some '\'' then
    if row ≠ 1 ∧ isEscaped (before.drop row) then s else s.atQuote c (row = 2)
  else s

/-- Take a character that may be a bracket. -/
def takeBracket (s : Look) (before : List Char) (c : Char) (next : Option Char) : Look :=
  if s.quote.isSome then s
  else if c = '[' ∧ s.header = .none then
    if s.atStart then { s with header := if next = some '[' then .element else .table }
    else { s with brackets := s.brackets + 1 }
  else if c = ']' then
    match s.header with
    | .table => { s with header := .none }
    | .element => if before.head? = some ']' then { s with header := .none } else s
    | .none => { s with brackets := s.brackets - 1 }
  else s

/-- Take a line break. In a long string, two quotes before it take it in; between brackets it is a
blank. -/
def takeBreak (s : Look) (before : List Char) : Except ReadError (Look × List Char) :=
  if s.inLongString then
    match before with
    | q :: q' :: rest =>
      if Text.isQuote q ∧ q' = q then
        match rest with
        | q'' :: rest => .ok (s, q :: q :: q :: (if q'' = q then ' ' else q'') :: rest)
        | [] => .ok (s, [q, q, q])
      else .ok (s, '\n' :: before)
    | _ => .ok (s, '\n' :: before)
  else if s.quote.isSome then .error .malformed
  else if s.brackets ≠ 0 then .ok (s, ' ' :: before)
  else .ok ({ s with atStart := true }, '\n' :: before)

/-- Take any other character at the start of a line: it ends the start, and begins a key unless it
belongs to a header. -/
def takeStart (s : Look) (c : Char) : Except ReadError Look :=
  if s.atStart ∧ c ≠ ' ' ∧ c ≠ '\t' then
    if s.header ≠ .none then .ok { s with atStart := false }
    else if c = '=' then .error .malformed
    else .ok { s with atStart := false, key := .name }
  else .ok s

/-- Take one character. `before` is what has come and been kept, and `ending` the whole document,
both with the latest character first. -/
def take (s : Look) (ending before : List Char) (c : Char) (next : Option Char) :
    Except ReadError (Look × List Char) := do
  if s.inComment ∧ c ≠ '\n' then return (s, ' ' :: before)
  let s := { s with inComment := false }
  let (s, isDone) ← if s.key = .outside then pure (s, false) else s.inKey before c next
  if isDone then return (s, c :: before)
  let s := s.takeQuote (if before.isEmpty then ending else before) c
  if c = '#' ∧ s.quote.isNone ∧ s.header = .none then
    return ({ s with inComment := true }, ' ' :: before)
  let s := s.takeBracket before c next
  if c = '\n' then s.takeBreak before
  else return (← s.takeStart c, c :: before)

/-- Take the characters of a document, and give back what is kept of them, the latest first. -/
def takeAll (s : Look) (ending before : List Char) : List Char → Except ReadError (List Char)
  | [] => if s.key = .outside ∧ s.quote.isNone then .ok before else .error .malformed
  | c :: cs => do
    let (s, before) ← s.take ending before c cs.head?
    takeAll s ending before cs

end Look

/-- The lines of a document that are left to read. -/
def linesOf (cs : List Char) : Except ReadError (List (List Char)) :=
  (Look.takeAll {} cs.reverse [] cs).map fun kept => kept.reverse.splitOn '\n'

end Restyle.Toml
