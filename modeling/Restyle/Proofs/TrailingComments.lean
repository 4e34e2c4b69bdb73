import Mathlib
import Restyle.Proofs.CommentRemoval
import Restyle.Stylesheet.Import

/-! # Trailing comments
A `//` comment behind code goes up to its line break, whatever it holds: quotes, directives or the
marks of a block comment. Main statement: so it is exactly if the code in front of it does not end
with a colon, which makes the `//` part of an address (`stripComments_trailing_iff`). -/

namespace Restyle.Stylesheet

variable {front text rest line : List Char}

/-- The start of a line that holds no literal, comment or address yet. -/
def IsLineStart (front : List Char) : Prop := ∀ c ∈ front, Text.isQuote c = false ∧ c ≠ '/' ∧
    c ≠ '(' ∧ c ≠ '\n'

namespace IsLineStart

/-- The start of a line is code. -/
theorem isCode (h : IsLineStart front) : IsCode front :=
  (isPlain_of_forall fun c hc => ⟨(h c hc).1, (h c hc).2.1⟩).isCode

/-- The start of a line, with a space behind it, is the start of a line. -/
theorem append_space (h : IsLineStart front) : IsLineStart (front ++ [' ']) := by
  intro c hc
  rcases List.mem_append.mp hc with hfront | hspace
  · exact h c hfront
  · obtain rfl := List.mem_singleton.mp hspace
    decide

/-- `stripComments (front ++ rest) = front ++ stripFrom .code front.reverse rest`. -/
theorem stripComments_append (h : IsLineStart front) (rest : List Char) :
    stripComments (front ++ rest) = front ++ stripFrom .code front.reverse rest := by
  have hbreak : '\n' ∉ front := fun hmem => (h _ hmem).2.2.2 rfl
  have hslash : front.getLast? ≠ some '/' := fun hlast => (h _ (List.mem_of_getLast? hlast)).2.1 rfl
  unfold stripComments
  rw [h.isCode.stripFrom_append fun hlast => absurd hlast hslash, lineAfter_of_not_mem hbreak,
    List.append_nil]

/-- Behind it and a space, `//` is part of an address exactly if it ends with a colon. -/
theorem inAddress_iff (h : IsLineStart front) :
    inAddress (front ++ [' ']).reverse = true ↔ (Text.trimEnd front).getLast? = some ':' := by
  have hparen : '(' ∉ (front ++ [' ']).reverse := fun hmem =>
    (h.append_space _ (List.mem_reverse.mp hmem)).2.2.1 rfl
  have hspace : (front ++ [' ']).reverse.dropWhile Text.isBlank =
      front.reverse.dropWhile Text.isBlank := by
    rw [List.reverse_append, List.reverse_singleton, List.singleton_append]
    exact List.dropWhile_cons_of_pos rfl
  rw [inAddress_of_paren_not_mem hparen, hspace, beq_iff_eq, Text.trimEnd, List.getLast?_reverse]

end IsLineStart

/-- `stripFrom .code line` leaves `'\n'` of a comment to the end of its line, unless
`inAddress line`. -/
theorem stripFrom_code_comment (haddress : inAddress line = false) (htext : '\n' ∉ text)
    (rest : List Char) :
    stripFrom .code line ('/' :: '/' :: (text ++ '\n' :: rest)) =
      '\n' :: stripFrom .code [] rest := by
  rw [stripFrom, if_neg (by simp [haddress]), stripFrom_line htext,
    stripFrom_line_of_endsLine (endsLine_break rest), stripFrom_break]

/-- `stripFrom .code line` keeps the first slash where `inAddress line`. -/
theorem stripFrom_code_address (haddress : inAddress line = true) (rest : List Char) :
    stripFrom .code line ('/' :: '/' :: rest) =
      '/' :: stripFrom .code ('/' :: line) ('/' :: rest) := by
  rw [stripFrom, if_pos haddress]

/-- A `//` comment behind a line start and a space leaves nothing, exactly if the line start does
not end with a colon and blanks. -/
theorem stripComments_trailing_iff (hfront : IsLineStart front) (htext : '\n' ∉ text)
    (rest : List Char) :
    stripComments (front ++ ' ' :: '/' :: '/' :: (text ++ '\n' :: rest)) =
        stripComments (front ++ ' ' :: '\n' :: rest) ↔
      (Text.trimEnd front).getLast? ≠ some ':' := by
  have hkept : ∀ more, stripComments (front ++ ' ' :: more) =
      front ++ ' ' :: stripFrom .code (front ++ [' ']).reverse more := by
    intro more
    have happend := hfront.append_space.stripComments_append more
    simpa only [List.append_assoc, List.singleton_append] using happend
  rw [hkept, hkept, stripFrom_break, ne_eq, ← hfront.inAddress_iff, Bool.not_eq_true]
  constructor
  · intro heq
    rw [Bool.eq_false_iff]
    intro haddress
    -- a slash would stand where the line ends
    rw [stripFrom_code_address haddress] at heq
    simp at heq
  · intro haddress
    rw [stripFrom_code_comment haddress htext]

/-- A comment with a quote, a directive and the mark of a block comment in it. -/
theorem stripComments_trailing_marks :
    IsLineStart "a: b;".toList ∧ '\n' ∉ " \" @import 'c'; /*".toList ∧
      stripComments "a: b; // \" @import 'c'; /*\n@import 'd';".toList =
        stripComments "a: b; \n@import 'd';".toList := by
  have hfront : IsLineStart "a: b;".toList := by simp [IsLineStart, Text.isQuote]
  have htext : '\n' ∉ " \" @import 'c'; /*".toList := by decide
  exact ⟨hfront, htext,
    (stripComments_trailing_iff hfront htext "@import 'd';".toList).mpr (by decide)⟩

/-- A comment behind a colon is left, and what it imports is imported. -/
theorem stripComments_trailing_ne :
    stripComments "a: // @import 'b';\nc".toList ≠ stripComments "a: \nc".toList ∧
      imports .block "a: // @import 'b';\nc".toList = ["b"] ∧
      imports .block "a: \nc".toList = [] := by
  decide +kernel

end Restyle.Stylesheet
