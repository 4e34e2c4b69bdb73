import Restyle.Stylesheet.Comment

/-! # Import directives
Finding the `@import`, `@use` and `@forward` directives of a comment-free stylesheet, in both
dialects. In the block dialect a directive runs to the next `;`, `{` or `}`; in the indented
dialect it opens a line and runs to its end. -/

namespace Restyle.Stylesheet

/-- The two dialects of a stylesheet. -/
inductive Dialect where
  /-- Blocks in braces, statements ended by semicolons. -/
  | block
  /-- Blocks by indentation, statements ended by line breaks. -/
  | indented
  deriving DecidableEq, Repr

/-- The directives that make one stylesheet depend on another. -/
inductive DirectiveKind where
  /-- Takes in one or more stylesheets, or leaves a plain import to the browser. -/
  | imports
  /-- Loads one stylesheet as a module. -/
  | uses
  /-- Passes the members of one stylesheet on. -/
  | forwards
  deriving DecidableEq, Repr

/-- The word that follows the `@`. -/
def DirectiveKind.word : DirectiveKind → List Char
  | .imports => "import".toList
  | .uses => "use".toList
  | .forwards => "forward".toList

/-- A directive as found: its kind, the position of its `@`, and everything after the blanks that
follow its word, trimmed. -/
structure Directive where
  /-- The kind of directive. -/
  kind : DirectiveKind
  /-- The position of the `@`. -/
  position : Nat
  /-- The trimmed text after the word. -/
  arguments : List Char
  deriving DecidableEq, Repr

/-- The rest of `cs` after the word `w`, when `cs` starts with it. -/
def afterWord? (w cs : List Char) : Option (List Char) :=
  if w.isPrefixOf cs then some (cs.drop w.length) else none

/-- The directive word that a text starts with, and the text after it. -/
def directiveWord? (cs : List Char) : Option (DirectiveKind × List Char) :=
  [DirectiveKind.imports, .uses, .forwards].findSome? fun kind =>
    (afterWord? kind.word cs).map fun rest => (kind, rest)

/-- The directive that a text starts with behind the `@`: a word, at least one blank, and arguments
that are not empty. The result is the kind and the text from the arguments on. -/
def openDirective? (blank inArguments : Char → Bool) (cs : List Char) :
    Option (DirectiveKind × List Char) :=
  match directiveWord? cs with
  | some (kind, c :: rest) =>
    let arguments := rest.dropWhile blank
    if blank c && (arguments.head?).any inArguments then some (kind, arguments) else none
  | _ => none

/-- `directiveWord?` leaves no more than it reads. -/
theorem length_of_directiveWord? {cs rest : List Char} {kind : DirectiveKind}
    (h : directiveWord? cs = some (kind, rest)) : rest.length ≤ cs.length := by
  simp only [directiveWord?, List.findSome?_eq_some_iff, Option.map_eq_some_iff, afterWord?] at h
  obtain ⟨_, _, _, _, ⟨r, hr, heq⟩, _⟩ := h
  split at hr
  · cases hr
    cases heq
    simp
  · cases hr

/-- `openDirective?` takes at least one character, so that the scan ends. -/
theorem length_of_openDirective? {blank inArguments : Char → Bool} {cs rest : List Char}
    {kind : DirectiveKind} (h : openDirective? blank inArguments cs = some (kind, rest)) :
    rest.length < cs.length := by
  unfold openDirective? at h
  split at h
  · next kind' c tail heq =>
    simp only at h
    split at h
    · cases h
      have h₁ := length_of_directiveWord? heq
      have h₂ := (List.dropWhile_sublist (l := tail) blank).length_le
      simp only [List.length_cons] at h₁
      omega
    · cases h
  · cases h

/-! ## The block dialect -/

/-- Whether a character can stand in the arguments of a directive of the block dialect. -/
def inStatement (c : Char) : Bool := c != ';' && c != '{' && c != '}'

/-- The directives of the block dialect in the text that starts at position `pos`. A directive takes
its arguments along, so that no other directive is found within them. -/
def directivesFrom (pos : Nat) : List Char → List Directive
  | [] => []
  | c :: cs =>
    if c = '@' then
      match _h : openDirective? Text.isBlank inStatement cs with
      | some (kind, rest) =>
        let behind := rest.dropWhile inStatement
        ⟨kind, pos, Text.trim (rest.takeWhile inStatement)⟩ ::
          directivesFrom (pos + 1 + (cs.length - behind.length)) behind
      | none => directivesFrom (pos + 1) cs
    else directivesFrom (pos + 1) cs
  termination_by cs => cs.length
  decreasing_by
    · have h₁ := length_of_openDirective? _h
      have h₂ := (List.dropWhile_sublist (l := rest) inStatement).length_le
      simp only [List.length_cons]
      omega
    · simp
    · simp

/-! ## The indented dialect -/

/-- Whether a character indents a line or parts a directive from its arguments. -/
def isIndent (c : Char) : Bool := c == ' ' || c == '\t'

/-- The directive that opens a line which starts at position `pos`. -/
def lineDirective? (pos : Nat) (line : List Char) : Option Directive :=
  match line.dropWhile isIndent with
  | '@' :: cs =>
    (openDirective? isIndent (fun _ => true) cs).map fun (kind, rest) =>
      ⟨kind, pos + (line.takeWhile isIndent).length, Text.trim rest⟩
  | _ => none

/-- The directives of lines that follow each other, the first one starting at position `pos`. -/
def lineDirectives (pos : Nat) : List (List Char) → List Directive
  | [] => []
  | line :: lines =>
    (lineDirective? pos line).toList ++ lineDirectives (pos + line.length + 1) lines

/-! ## Both dialects -/

/-- The directives of a comment-free text, in order. -/
def directives : Dialect → List Char → List Directive
  | .block, text => directivesFrom 0 text
  | .indented, text => lineDirectives 0 (text.splitOn '\n')

end Restyle.Stylesheet
