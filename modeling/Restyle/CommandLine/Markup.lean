import Restyle.CommandLine.Emoji
import Restyle.CommandLine.Style
import Restyle.Text.Alphanumeric

/-! # Markup
Texts for the screen are written with tags in brackets that begin and end styles. A backslash in
front of a tag makes plain text of it. A message becomes part of such a text by escaping. Emoji
stand for their codes, in every piece of plain text by itself. -/

namespace Restyle.CommandLine.Markup

/-! ## Tags and plain text -/

/-- Whether a tag can start with the character. -/
def startsTag (c : Char) : Bool := ('a' ≤ c && c ≤ 'z') || ['#', '/', '@'].contains c

/-- The tag that an opening bracket in front of a text begins, and what follows the closing bracket.
No opening bracket is in a tag. -/
def tag? : List Char → Option (List Char × List Char)
  | [] => none
  | c :: cs =>
    let inside := cs.takeWhile fun d => d ≠ ']' && d ≠ '['
    if startsTag c && (cs.drop inside.length).head? = some ']' then
      some (c :: inside, cs.drop (inside.length + 1))
    else none

/-- `tag?` takes at least one character, so that reading markup ends. -/
theorem length_lt_of_tag?_eq_some {cs tag rest : List Char} (h : tag? cs = some (tag, rest)) :
    rest.length < cs.length := by
  cases cs with
  | nil => cases h
  | cons c cs =>
    simp only [tag?] at h
    split at h
    · obtain ⟨-, rfl⟩ := Prod.mk.inj (Option.some.inj h)
      simp only [List.length_drop, List.length_cons]
      omega
    · cases h

/-- Some backslashes. -/
def backslashes (n : Nat) : List Char := List.replicate n '\\'

/-- A text with one more backslash in front of every tag, and those in front of that doubled. A
number of backslashes, `slashes`, comes before the text. -/
def escapeTags (slashes : Nat) : List Char → List Char
  | [] => backslashes slashes
  | '\\' :: cs => escapeTags (slashes + 1) cs
  | '[' :: cs =>
    match h : tag? cs with
    | some (tag, rest) =>
      have := length_lt_of_tag?_eq_some h
      backslashes (2 * slashes + 1) ++ '[' :: tag ++ ']' :: escapeTags 0 rest
    | none => backslashes slashes ++ '[' :: escapeTags 0 cs
  | c :: cs => backslashes slashes ++ c :: escapeTags 0 cs
  termination_by cs => cs.length
  decreasing_by all_goals (simp only [List.length_cons]; omega)

/-- A message as markup. A single backslash at its end is doubled, for a tag may follow. -/
def escape (cs : List Char) : List Char :=
  let escaped := escapeTags 0 cs
  if escaped.getLast? = some '\\' && escaped.dropLast.getLast? ≠ some '\\' then escaped ++ ['\\']
  else escaped

/-- A message in a style, as markup. -/
def inStyle (style message : String) : List Char :=
  '[' :: style.toList ++ ']' :: escape message.toList ++ '[' :: '/' :: style.toList ++ [']']

/-- A piece of markup. -/
inductive Piece where
  /-- Plain text. -/
  | plain (cs : List Char)
  /-- A tag, without its brackets. -/
  | tag (cs : List Char)

/-- The pieces of markup. Some plain text, `kept`, comes before it, the latest character first, and
then a number of backslashes, `slashes`. In front of a tag two backslashes stand for one, and a
single one keeps the tag; elsewhere one is dropped in front of an opening bracket. -/
def pieces (slashes : Nat) (kept : List Char) : List Char → List Piece
  | [] => [.plain (kept.reverse ++ backslashes slashes)]
  | '\\' :: cs => pieces (slashes + 1) kept cs
  | '[' :: cs =>
    match h : tag? cs with
    | some (tag, rest) =>
      have := length_lt_of_tag?_eq_some h
      .plain kept.reverse :: .plain (backslashes (slashes / 2)) ::
        (if slashes % 2 = 1 then .plain ('[' :: tag ++ [']']) else .tag tag) :: pieces 0 [] rest
    | none => pieces 0 ('[' :: backslashes (slashes - 1) ++ kept) cs
  | c :: cs => pieces 0 (c :: backslashes slashes ++ kept) cs
  termination_by cs => cs.length
  decreasing_by all_goals (simp only [List.length_cons]; omega)

/-- Whether a character moves the cursor or rings the bell instead of being shown. -/
def isCursorControl (c : Char) : Bool := ['\x07', '\x08', '\x0b', '\x0c', '\r'].contains c

/-- What is shown of a piece. -/
def Piece.shown : Piece → List Char
  | .plain cs => (Emoji.replaced cs).filter fun c => !isCursorControl c
  | .tag _ => []

/-- What is shown of markup. -/
def text (markup : List Char) : List Char := (pieces 0 [] markup).flatMap Piece.shown

/-! ## Balance -/

/-- A tag: a name, and perhaps parameters behind a sign of equality. A tag whose name starts with
`@` names an action, and its parameters name a function, perhaps with arguments. -/
structure Tag where
  /-- The name. -/
  name : List Char
  /-- The parameters. -/
  parameters : List Char

/-- The tag between two brackets. -/
def Tag.ofText (cs : List Char) : Tag :=
  { name := cs.takeWhile (· ≠ '='), parameters := (cs.dropWhile (· ≠ '=')).tail }

/-- Whether a text is an argument of an action: a number, a text between quotes, or a constant. -/
def isArgument (cs : List Char) : Bool :=
  (Decimal.unsignedFloat? (Decimal.splitSign cs).2).isSome ||
    ["True", "False", "None"].contains (String.ofList cs) ||
    match cs with
    | q :: rest =>
      ['\'', '"'].contains q && rest.getLast? = some q &&
        rest.dropLast.all fun c => c ∉ [q, '\\', '\n']
    | [] => false

/-- Whether a text lists arguments between round brackets. -/
def isArguments (cs : List Char) : Bool :=
  match cs with
  | '(' :: rest =>
    let parts := (rest.dropLast.splitOn ',').map Text.trim
    let parts := if parts.getLast? = some [] then parts.dropLast else parts
    rest.getLast? = some ')' && parts.all isArgument
  | _ => false

/-- Whether the parameters of an action can be read. -/
def isAction (cs : List Char) : Bool :=
  let cs := Text.trim cs
  let arguments := cs.dropWhile fun c => Text.isAlphanumeric c || c == '_' || c == '.'
  arguments = [] || isArguments arguments || isArgument cs

/-- Close a tag. -/
def Tag.close (t : Tag) : Except MarkupError Unit :=
  if t.name.head? = some '@' && t.parameters ≠ [] && !isAction t.parameters then .error .badAction
  else .ok ()

/-- Take a tag; `opened` are the tags that are open, the latest first. A closing tag closes the
latest one with its name, or just the latest one if it has no name. -/
def Tag.take (opened : List Tag) (t : Tag) : Except MarkupError (List Tag) := do
  match t.name with
  | '/' :: name =>
    let name := Text.trim name
    let name ← if name = [] then pure [] else Style.normalForm name
    let closes (t : Tag) : Bool := name = [] || t.name = name
    match opened.find? closes with
    | none => throw .unbalanced
    | some t => t.close
    return opened.eraseP closes
  | name => return { t with name := ← Style.normalForm name } :: opened

/-- Take a piece of markup. -/
def Piece.take (opened : List Tag) : Piece → Except MarkupError (List Tag)
  | .plain _ => .ok opened
  | .tag cs => (Tag.ofText cs).take opened

/-- Refuse markup whose tags do not match. Tags may stay open. -/
def check (markup : List Char) : Except MarkupError Unit :=
  ((pieces 0 [] markup).foldlM Piece.take []).map fun _ => ()

end Restyle.CommandLine.Markup
