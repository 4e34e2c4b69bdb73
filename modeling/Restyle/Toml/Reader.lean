import Restyle.Toml.Element

/-! # Reading a settings document
A document is read line by line into a table. A header opens the table that the following entries go
to; an entry sets a key, which may be dotted, to a value; a string of three quotes goes on over the
following lines. A key is set only once, and a table is opened only once. -/

namespace Restyle.Toml

open Text

/-- A string that goes on. -/
structure OpenString where
  /-- The key that it is for. -/
  key : String
  /-- What has come of it. -/
  text : List Char
  /-- Whether the last line ended in a backslash, which joins the next one to it. -/
  isJoined : Bool

/-! ## Entries -/

/-- The value of an entry, from the text behind the first sign of equality outside of strings. What
starts like a number but is none may itself hold signs of equality that belong to the key: then the
number behind one of the next signs counts. The result is the number of that sign, the text of the
value, and whether it has the shape of a number. -/
def settleValue (line : List Char) (n : Nat) (value : List Char) (hasShape : Bool) :
    Nat → Except ReadError (Nat × List Char × Bool)
  | 0 => .error .malformed
  | fuel + 1 => do
    let isMarked := value.head?.all [' ', '\t', '\'', '"', '[', '{'].contains
    if isMarked ∨ trim value = "true".toList ∨ trim value = "false".toList ∨
        (Decimal.float? value).isSome then
      return (n, value, hasShape)
    if (← dated? value).isSome ∨ startsWithTime value then return (n, value, hasShape)
    let next := (cutAt ['='] (n + 1) line).2
    if next = value then throw .malformed
    settleValue line (n + 1) next (hasShape && hasNumberShape next) fuel

/-- The key and the value of an entry, and whether the value has the shape of a number. -/
def splitEntry (line : List Char) : Except ReadError (List Char × List Char × Bool) := do
  let n := firstOutside ['='] line
  let value := (cutAt ['='] n line).2
  let plain := if Decimal.startsWithDigit value then value.filter (· ≠ '_') else value
  let (n, value, hasShape) ←
    settleValue line n plain (hasNumberShape value) ((piecesAt ['='] line).length + 2)
  return (trim (cutAt ['='] n line).1, trim value, hasShape)

/-- The names in a dotted key with quotes; what stands between quotes is one name. -/
def quotedNames (isQuoted : Bool) : List (List Char) → List (List Char)
  | [] => []
  | p :: ps => (if isQuoted then [p] else (p.splitOn '.').map trim) ++ quotedNames (!isQuoted) ps

/-- The names in a key: those of the tables it leads through, and the last one. -/
def keyNames (key : List Char) : Except ReadError (List String × String) :=
  if key.contains '.' then
    let names := if key.any isQuote then quotedNames false (stretches key) else key.splitOn '.'
    match names.reverse.dropWhile (· = []) with
    | [] => .error .cutShort
    | name :: levels =>
      .ok ((levels.reverse.filter (· ≠ [])).map String.ofList, String.ofList (trim name))
  else
    match key, key.getLast? with
    | c :: _, some d =>
      if isQuote c ∧ c = d then (unescape (inner key)).map fun name => ([], String.ofList name)
      else .ok ([], String.ofList key)
    | _, _ => .error .cutShort

/-- Go from a place through the tables with the given names, making those that do not exist. -/
def descend (doc : Value) (place : Value.Place) :
    List String → Except ReadError (Value × Value.Place)
  | [] => .ok (doc, place)
  | name :: names =>
    match doc.at? place with
    | some (.table entries) =>
      let doc := if (Table.get? entries name).isSome then doc else doc.putAt place name (.table [])
      descend doc (place ++ [.entry name]) names
    | _ => .error .notTable

/-- Whether a value starts a string that goes on in the next line: three quotes, at the start or in
the last element of an array of strings, that are not closed on the line. -/
def startsOpenString (value : List Char) : Except ReadError Bool := do
  if value.length < 3 then return false
  let isOpenArray := value.head? == some '[' && (trim value).getLast? != some ']' &&
    (trim (inner value)).head?.any isQuote
  let text ← if isOpenArray then lastString ((trim value.tail).splitOn ',').reverse else pure value
  match text with
  | [] => throw .cutShort
  | q :: rest =>
    if !isQuote q then return false
    match rest with
    | [] => throw .cutShort
    | [b] => if b = q then throw .cutShort else return false
    | b :: c :: _ =>
      if b ≠ q ∨ c ≠ q then return false
      return !(5 < text.length ∧ (text.reverse.take 3).all (· = q))
where
  /-- The text from the last piece on that starts with a quote; the pieces come last first. -/
  lastString : List (List Char) → Except ReadError (List Char)
    | [] => .ok []
    | [p] => .ok p
    | p :: q :: ps =>
      match p with
      | [] => .error .cutShort
      | c :: _ => if isQuote c then .ok p else lastString ((q ++ ',' :: p) :: ps)
  termination_by ps => ps.length

/-- Read an entry into the table at a place. A string that goes on is given back instead. -/
def readEntry (readValue : List Char → Bool → Except ReadError Value) (doc : Value)
    (place : Value.Place) (line : List Char) : Except ReadError (Value × Option OpenString) := do
  let (key, text, hasShape) ← splitEntry line
  let (levels, name) ← keyNames key
  let (doc, place) ← descend doc place levels
  let opens ← startsOpenString text
  let value ← if opens then pure (.table []) else readValue text hasShape
  match doc.at? place with
  | some (.table entries) =>
    if (Table.get? entries name).isSome then throw .malformed
    else if opens then
      if name = "" then throw .nameless
      let isJoined := endsEscaped text
      return (doc, some ⟨name, if isJoined then text.dropLast else text ++ ['\n'], isJoined⟩)
    else return (doc.putAt place name value, none)
  | _ => throw .malformed

/-- Read the entries of an inline table into the table at a place. A string that goes on ends
them. -/
def readInline (readValue : List Char → Bool → Except ReadError Value) (doc : Value)
    (place : Value.Place) : List (List Char) → Except ReadError Value
  | [] => .ok doc
  | t :: ts => do
    match ← readEntry readValue doc place t with
    | (doc, none) => readInline readValue doc place ts
    | (doc, some _) => return doc

/-! ## Values -/

/-- Read a value; `hasShape` is whether it may be a number. An array takes two units of `room` and
an inline table three. -/
def readValueWith (room : Nat) (cs : List Char) (hasShape : Bool) : Except ReadError Value := do
  let lower := String.ofList (cs.map Char.toLower)
  match cs with
  | [] => throw .malformed
  | '"' :: _ => return .text (← readText '"' cs)
  | '\'' :: _ => return .text (← readText '\'' cs)
  | '[' :: _ =>
    match room with
    | room + 2 =>
      return .array (← readElements (readValueWith room · true) none (← elementTexts cs))
    | _ => throw .tooDeep
  | '{' :: _ =>
    match room with
    | room + 3 => readInline (readValueWith room) (.table []) [] (← inlineEntries cs)
    | _ => throw .tooDeep
  | _ =>
    if lower = "true" ∨ lower = "false" then
      if String.ofList cs = lower then return .boolean (lower = "true") else throw .malformed
    if startsWithTime cs then
      match timeOfDay? cs with
      | some t => return .moment (.time t)
      | none => throw .malformed
    match ← dated? cs with
    | some m => return .moment m
    | none => if hasShape then readNumber cs else throw .malformed

/-- The room for nested values. -/
def nestingRoom : Nat := 988

/-- Read a value. -/
def readValue (cs : List Char) (hasShape : Bool) : Except ReadError Value :=
  readValueWith nestingRoom cs hasShape

/-! ## Headers -/

/-- Whether a name needs no quotes. -/
def isBareName (cs : List Char) : Bool :=
  cs ≠ [] && cs.all fun c =>
    ('A' ≤ c && c ≤ 'Z') || ('a' ≤ c && c ≤ 'z') || isPlainDigit c || c == '_' || c == '-'

/-- The names between the dots of a header. A name in quotes may hold dots: `part` is what has come
of one. -/
def headerNames (part : Option (List Char)) : List (List Char) → Except ReadError (List String)
  | [] => if part.isNone then .ok [] else .error .malformed
  | p :: ps =>
    let (cs, isQuoted) := match part with
      | some c => (c ++ '.' :: p, true)
      | none => (trim p, (trim p).head?.any isQuote)
    let name := trim cs
    if isQuoted then
      if 1 < name.length ∧ name.head? = name.getLast? then
        (headerNames none ps).map (String.ofList (inner name) :: ·)
      else headerNames (some cs) ps
    else if isBareName name then (headerNames none ps).map (String.ofList name :: ·)
    else .error .malformed

/-- The state of reading a document. -/
structure Reading where
  /-- What has been read. -/
  doc : Value := .table []
  /-- The place of the table that entries go to. -/
  place : Value.Place := []
  /-- The names of tables that exist only because a header led through them. -/
  implied : List String := []
  /-- The string that goes on. -/
  openString : Option OpenString := none

namespace Reading

/-- Make a table, or an array with one table in it, as the entry of the table at a place. -/
def makeEntry (r : Reading) (place : Value.Place) (name : String) (isElement : Bool) : Reading :=
  { r with doc := r.doc.putAt place name (if isElement then .array [.table []] else .table []) }

/-- Follow one name of a header, which is the last one or not. -/
def follow (r : Reading) (name : String) (isLast isElement : Bool) : Except ReadError Reading := do
  if name = "" then throw .malformed
  match r.doc.at? r.place with
  | some (.table entries) =>
    let place := r.place ++ [.entry name]
    match Table.get? entries name with
    | none =>
      let r := r.makeEntry r.place name (isLast && isElement)
      return { r with place, implied := if isLast then r.implied else r.implied ++ [name] }
    | some old =>
      if !isLast then return { r with place }
      if r.implied.contains name then
        if isElement then throw .malformed
        return { r with place, implied := r.implied.erase name }
      if !isElement then throw .malformed
      match old with
      | .array elements =>
        return { r with place, doc := r.doc.putAt r.place name (.array (elements ++ [.table []])) }
      | _ => throw .notArray
  | some (.array elements) =>
    match elements.getLast? with
    | none => throw .cutShort
    | some (.table entries) =>
      let inLast := r.place ++ [.last]
      let r := if (Table.get? entries name).isSome then r
        else r.makeEntry inLast name (isLast && isElement)
      return { r with place := inLast ++ [.entry name] }
    | some _ => throw .notTable
  | some (.text "") => throw .cutShort
  | _ => throw .notTable

/-- Step to the last element, after a name of the header of an element has been followed. -/
def stepToLast (r : Reading) : Except ReadError Reading :=
  match r.doc.at? r.place with
  | some (.table _) => .ok r
  | some (.array []) | some (.text "") => .error .cutShort
  | some (.array _) => .ok { r with place := r.place ++ [.last] }
  | _ => .error .notTable

/-- Follow the names of a header. -/
def followAll (r : Reading) (isElement : Bool) : List String → Except ReadError Reading
  | [] => .ok r
  | name :: names => do
    let r ← r.follow name names.isEmpty isElement
    let r ← if isElement then r.stepToLast else pure r
    r.followAll isElement names

/-- Read a header, without its opening bracket. -/
def readHeader (r : Reading) (line : List Char) : Except ReadError Reading := do
  let (isElement, line) ← match line with
    | [] => throw .malformed
    | '[' :: rest => pure (true, rest)
    | line => pure (false, line)
  let separator := if isElement then [']', ']'] else [']']
  let n := firstOutside separator line
  let (names, rest) := cutAt separator n line
  if (piecesAt separator line).length ≤ n ∨ trim rest ≠ [] then throw .malformed
  { r with place := [] }.followAll isElement (← headerNames none (names.splitOn '.'))

/-! ## Lines -/

/-- Read a line of a string that goes on. -/
def readOpen (r : Reading) (s : OpenString) (line : List Char) : Except ReadError Reading := do
  let text := s.text ++ line
  let isClosed ← match text with
    | '[' :: _ => if line = [] then throw .cutShort else pure (line.getLast? == some ']')
    | q :: _ => pure (2 < line.length && (line.reverse.take 3).all (· = q))
    | [] => pure false
  if isClosed then
    return { r with doc := r.doc.putAt r.place s.key (← readValue text true), openString := none }
  else if endsEscaped text then
    return { r with openString := some { s with text := text.dropLast, isJoined := true } }
  else return { r with openString := some { s with text := text ++ ['\n'], isJoined := false } }

/-- Read a line. -/
def readLine (r : Reading) (line : List Char) : Except ReadError Reading := do
  match r.openString with
  | some s =>
    let line := if s.isJoined || !s.text.contains '\n' then trim line else line
    if line = [] ∧ s.isJoined then return r else r.readOpen s line
  | none =>
    match trim line with
    | [] => return r
    | '[' :: rest => r.readHeader rest
    | '{' :: rest =>
      if rest.getLast? ≠ some '}' then throw .malformed
      return { r with doc := ← readInline readValue r.doc r.place (← inlineEntries ('{' :: rest)) }
    | line =>
      if !line.contains '=' then return r
      let (doc, rest) ← readEntry readValue r.doc r.place line
      return { r with doc, openString := rest }

end Reading

/-- Read a document. -/
def read (cs : List Char) : Except ReadError Table := do
  let r ← (← linesOf cs).foldlM Reading.readLine {}
  match r.doc with
  | .table entries => return entries
  | _ => throw .notTable

end Restyle.Toml
