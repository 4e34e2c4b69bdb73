import Restyle.Text.Blank
import Restyle.Text.EmojiNames
import Restyle.Text.LowerCase

/-! # Emoji in texts
An emoji can be written as a code: its name between colons, in any case. Behind the name,
`-text` and `-emoji` ask for one of the two looks that some emoji have. Codes of unknown names stay
as they are. -/

namespace Restyle.CommandLine.Emoji

/-- A code, without its opening colon. -/
structure Code where
  /-- The name. -/
  name : List Char
  /-- The character that asks for one of two looks. -/
  look : List Char := []
  /-- The number of characters of the code. -/
  size : Nat

/-- The code at the start of a text, of whose name `name` has come, the latest character first. The
earliest possible end counts. No blank is in a code. -/
def code? (name : List Char) : List Char → Option Code
  | [] => none
  | c :: cs =>
    let size := name.length
    if c = ':' then some { name := name.reverse, size := size + 1 }
    else if "-emoji:".toList.isPrefixOf (c :: cs) then
      some { name := name.reverse, look := ['\ufe0f'], size := size + 7 }
    else if "-text:".toList.isPrefixOf (c :: cs) then
      some { name := name.reverse, look := ['\ufe0e'], size := size + 6 }
    else if Text.isBlank c then none
    else code? (c :: name) cs

/-- The emoji that a code stands for. -/
def Code.emoji? (code : Code) : Option (List Char) :=
  (Text.emojiNames.lookup (String.ofList (Text.lowered code.name))).map fun emoji =>
    emoji.toList ++ code.look

/-- A text with emoji in the place of their codes. -/
def replaced : List Char → List Char
  | [] => []
  | c :: cs =>
    match if c = ':' then code? [] cs else none with
    | some code => (code.emoji?.getD (c :: cs.take code.size)) ++ replaced (cs.drop code.size)
    | none => c :: replaced cs
  termination_by cs => cs.length
  decreasing_by
    · simp only [List.length_drop, List.length_cons]; omega
    · simp only [List.length_cons]; omega

end Restyle.CommandLine.Emoji
