import Restyle.Decimal.Written
import Restyle.Toml.Reader

/-! # Writing a settings document
The plain entries of a table come first, one to a line, then a section for every table in it, under
a header with its full name; the tables in those come after all of them. Arrays of tables get a
section for every element. -/

namespace Restyle.Toml

open Text

/-- Why a document cannot be written. -/
inductive WriteError where
  /-- A text has a character that cannot be spelled where it stands. -/
  | unspellable
  /-- An array holds tables beside other values. -/
  | notTable
  /-- The offset of a moment reaches a whole day. -/
  | offsetTooLarge
  /-- An integer has too many digits. -/
  | integerTooLong
  deriving DecidableEq, Repr

/-! ## Texts -/

/-- Whether the mark `x` is put back between two pieces of a text; otherwise the escape by code
point takes its place. It is, unless the piece before ends with backslashes of which an odd number
escape each other; a backslash at the very start of a piece counts as escaped. -/
def keepsMark (before : List Char) : Bool :=
  before.getLast? ≠ some '\\' || endsEscaped before.tail

/-- Join the pieces between the places where a backslash and an `x` came together. An empty piece at
the start is dropped, and there has to be a piece on either side of each place. -/
def joinMarked (before : List Char) : List (List Char) → Except WriteError (List Char)
  | [] => .ok before
  | p :: ps =>
    if before = [] then
      match p, ps with
      | _ :: _, q :: qs => joinMarked (joined p q) qs
      | _, _ => .error .unspellable
    else joinMarked (joined before p) ps
  termination_by ps => ps.length
where
  /-- Two pieces with the mark between them. Backslashes in pairs become single ones. -/
  joined (p q : List Char) : List Char :=
    let p := List.intercalate ['\\'] (piecesAt ['\\', '\\'] p)
    p ++ (if keepsMark p then ['x'] else ['u', '0', '0']) ++ q

/-- The text of a string. -/
def stringText (s : String) : Except WriteError (List Char) := do
  match piecesAt ['\\', 'x'] (s.toList.flatMap (escaped '"')) with
  | [] => return ['"', '"']
  | p :: ps => return '"' :: (← joinMarked p ps) ++ ['"']

/-- Whether a key is written without quotes. A line break at its end does not count. -/
def isBareKey (cs : List Char) : Bool :=
  isBareName (if cs.getLast? = some '\n' then cs.dropLast else cs)

/-- The text of a key, in quotes where it needs them. -/
def keyText (key : String) : Except WriteError (List Char) :=
  if isBareKey key.toList then .ok key.toList else stringText key

/-- Exponents have as few digits as they can. -/
def floatStyle : Decimal.Style := { exponentWidth := 1 }

/-- The text of an integer. -/
def integerText (n : Int) : List Char :=
  if n < 0 then '-' :: Nat.toDigits 10 n.natAbs else Nat.toDigits 10 n.natAbs

/-- Whether an integer has few enough digits to be written. -/
def isWritableInteger (n : Int) : Bool := (Nat.toDigits 10 n.natAbs).length ≤ Decimal.digitLimit

mutual

/-- The text of a value. In an array, a table is written as the array of its keys. -/
def valueText : Value → Except WriteError (List Char)
  | .text s => stringText s
  | .integer n => if isWritableInteger n then .ok (integerText n) else .error .integerTooLong
  | .float x => .ok (floatStyle.text x).toList
  | .boolean b => .ok (if b then "true" else "false").toList
  | .moment m => if m.isWritable then .ok m.written else .error .offsetTooLarge
  | .array vs => do return '[' :: (← elementsText vs) ++ [']']
  | .table es => do return '[' :: (← keysText es) ++ [']']

/-- The text of the elements of an array. -/
def elementsText : List Value → Except WriteError (List Char)
  | [] => .ok []
  | v :: vs => do
    let text ← valueText v
    return ' ' :: text ++ ',' :: (← elementsText vs)

/-- The text of the keys of a table, as the elements of an array. -/
def keysText : Table → Except WriteError (List Char)
  | [] => .ok []
  | e :: es => do
    let text ← stringText e.1
    return ' ' :: text ++ ',' :: (← keysText es)

end

/-! ## Sections -/

/-- What is written of a table: its lines, and the tables in it that get sections of their own. -/
structure Section where
  /-- The lines of plain entries. -/
  plain : List Char := []
  /-- The sections of the arrays of tables. -/
  elements : List Char := []
  /-- The tables in it, each with the text of its name. -/
  tables : List (List Char × Table) := []

/-- Add a table to those that get sections of their own. -/
def addTable (ts : List (List Char × Table)) (name : List Char) (t : Table) :
    List (List Char × Table) :=
  if (ts.lookup name).isSome then ts.map fun e => if e.1 = name then (name, t) else e
  else ts ++ [(name, t)]

/-- A header. -/
def headerText (name : List Char) : List Char := '[' :: name ++ [']', '\n']

/-- The entries of an element of an array of tables. -/
def elementEntries : Value → Except WriteError Table
  | .table entries => .ok entries
  | .text "" | .array [] => .ok []
  | _ => .error .notTable

mutual

/-- The depth to which tables and arrays are nested in a value. -/
def depth : Value → Nat
  | .array vs => depthOfElements vs + 1
  | .table es => depthOfEntries es + 1
  | _ => 0

/-- The greatest depth of some elements. -/
def depthOfElements : List Value → Nat
  | [] => 0
  | v :: vs => max (depth v) (depthOfElements vs)

/-- The greatest depth of some entries. -/
def depthOfEntries : List (String × Value) → Nat
  | [] => 0
  | e :: es => max (depth e.2) (depthOfEntries es)

end

/-- Whether a value is an array with a table in it. -/
def holdsTables : Value → Bool
  | .array vs => vs.any Value.isTable
  | _ => false

/-- Write the entries of a table; `writeElement` writes the element of an array of tables with the
given full name, and `path` is what comes before the names in the table. -/
def writeEntries (writeElement : List Char → Table → Except WriteError (List Char))
    (path : List Char) (s : Section) : Table → Except WriteError Section
  | [] => .ok s
  | (key, v) :: rest => do
    let name ← keyText key
    let s ← match v with
      | .table entries => pure { s with tables := addTable s.tables name entries }
      | .array vs =>
        if holdsTables v then
          let elements ← vs.foldlM (fun text e => do
            return text ++ (← writeElement (path ++ name) (← elementEntries e))) []
          pure { s with elements := s.elements ++ elements }
        else pure { s with plain := s.plain ++ name ++ " = ".toList ++ (← valueText v) ++ ['\n'] }
      | v => pure { s with plain := s.plain ++ name ++ " = ".toList ++ (← valueText v) ++ ['\n'] }
    writeEntries writeElement path s rest

/-- What is written of a table itself: its plain entries and its arrays of tables. -/
def Section.text (s : Section) : List Char := s.plain ++ s.elements

/-- Write the sections of the given tables, then those of the tables in them, and so on; `start`
tells how a section starts. -/
def writeTables (write : List Char → Table → Except WriteError Section)
    (start : List Char → Bool → List Char → List Char → List Char) (text : List Char) :
    Nat → List (List Char × Table) → Except WriteError (List Char)
  | 0, _ => .ok text
  | _ + 1, [] => .ok text
  | fuel + 1, t :: ts => do
    let (text, deeper) ← (t :: ts).foldlM (fun (text, deeper) (name, entries) => do
      let s ← write (name ++ ['.']) entries
      let text := start text s.tables.isEmpty name s.text
      return (text, s.tables.foldl (fun d e => addTable d (name ++ '.' :: e.1) e.2) deeper))
      (text, [])
    writeTables write start text fuel deeper

/-- A section in an array of tables; one without entries is left out. -/
def startInElement (text : List Char) (_ : Bool) (name body : List Char) : List Char :=
  if body = [] then text else text ++ headerText name ++ body

/-- A section of the document, behind an empty line unless it comes first; one with nothing but
tables in it is left out. -/
def startSection (text : List Char) (isLeaf : Bool) (name body : List Char) : List Char :=
  if body = [] ∧ !isLeaf then text
  else
    let gap := if text = [] ∨ ['\n', '\n'].isSuffixOf text then [] else ['\n']
    text ++ gap ++ headerText name ++ body

/-- Write an element of an array of tables with the given full name. Each level of nesting takes one
unit of fuel. -/
def writeElement : Nat → List Char → Table → Except WriteError (List Char)
  | 0, _, _ => .ok []
  | fuel + 1, name, entries => do
    let s ← writeEntries (writeElement fuel) (name ++ ['.']) {} entries
    let (own, rest) := if s.text.head? = some '[' then ([], s.text) else (s.text, [])
    let tables := s.tables.map fun e => (name ++ '.' :: e.1, e.2)
    let inner ← writeTables (fun path t =>
      writeEntries (writeElement fuel) path {} t) startInElement
      ('\n' :: rest) (fuel + 1) tables
    return "[[".toList ++ name ++ "]]\n".toList ++ own ++ inner

/-- Write a document. -/
def write (t : Table) : Except WriteError (List Char) := do
  let fuel := depth (.table t) + 1
  let s ← writeEntries (writeElement fuel) [] {} t
  writeTables (fun path t => writeEntries (writeElement fuel) path {} t) startSection s.text fuel
    s.tables

end Restyle.Toml
