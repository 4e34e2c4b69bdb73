import Mathlib
import Restyle.Proofs.DirectiveScan

/-! # Open literals
The string literals of a text as a scan with a state, one character after the other. A position lies
inside a literal exactly if a literal is open behind the text in front of it
(`any_covers_eq_isInside`), so that whether a directive is live can be told from the text in front
of it, without positions. -/

namespace Restyle.Stylesheet

/-! ## The scan -/

/-- Where a scan for string literals stands. -/
inductive LiteralState where
  /-- Outside of literals. -/
  | outside
  /-- In the literal that `quote` closes. -/
  | inside (quote : Char)
  /-- In the literal that `quote` closes, behind a backslash. -/
  | escaped (quote : Char)
  deriving DecidableEq, Repr

namespace LiteralState

/-- The state after one more character. -/
def next : LiteralState → Char → LiteralState
  | outside, c => if Text.isQuote c then inside c else outside
  | inside quote, c => if c = '\\' then escaped quote else if c = quote ∨ c = '\n' then outside
    else inside quote
  | escaped quote, _ => inside quote

/-- The state after more of the text. -/
def after (s : LiteralState) (cs : List Char) : LiteralState := cs.foldl next s

/-- Whether a literal is open. -/
def isInside : LiteralState → Bool
  | outside => false
  | _ => true

/-- `s.after [] = s`. -/
@[simp] theorem after_nil (s : LiteralState) : s.after [] = s := rfl

/-- `s.after (c :: cs) = (s.next c).after cs`. -/
@[simp] theorem after_cons (s : LiteralState) (c : Char) (cs : List Char) :
    s.after (c :: cs) = (s.next c).after cs :=
  rfl

/-- `s.after (cs ++ ds) = (s.after cs).after ds`. -/
theorem after_append (s : LiteralState) (cs ds : List Char) :
    s.after (cs ++ ds) = (s.after cs).after ds :=
  List.foldl_append

/-- `outside.next c = outside` for a character that is no quote. -/
theorem next_outside_of_not_quote {c : Char} (h : Text.isQuote c = false) :
    outside.next c = outside :=
  if_neg (by simp [h])

/-- `outside.after cs = outside` for a text without quotes. -/
theorem after_outside_of_not_quote {cs : List Char} (h : ∀ c ∈ cs, Text.isQuote c = false) :
    outside.after cs = outside := by
  induction cs with
  | nil => rfl
  | cons c cs ih =>
    rw [after_cons, next_outside_of_not_quote (h c List.mem_cons_self),
      ih fun d hd => h d (List.mem_cons_of_mem c hd)]

end LiteralState

open LiteralState

/-! ## Literals and their spans -/

/-- `c ≠ '\\'` where neither of the patterns for a backslash, alone or with the character behind it,
fits. -/
theorem ne_backslash {c : Char} {cs : List Char} (hsingle : c = '\\' → cs = [] → False)
    (hpair : ∀ (d : Char) (ds : List Char), c = '\\' → cs = d :: ds → False) : c ≠ '\\' := by
  intro hc
  cases cs with
  | nil => exact hsingle hc rfl
  | cons d ds => exact hpair d ds hc rfl

/-- `(inside quote).next c = inside quote` for a character that is no backslash and does not end the
literal. -/
theorem next_inside_of_goes {quote c : Char} (hescape : c ≠ '\\')
    (hgoes : ¬ (c = quote ∨ c = '\n')) :
    (inside quote).next c = inside quote := by
  rw [next, if_neg hescape, if_neg hgoes]

/-- A literal is open behind its first `n` characters, for every `n < literalLength quote cs`. -/
theorem isInside_after_take {quote : Char} {cs : List Char} {n : Nat}
    (h : n < literalLength quote cs) :
    ((inside quote).after (cs.take n)).isInside = true := by
  fun_induction literalLength quote cs generalizing n with
  | case1 => omega
  | case2 =>
    obtain rfl : n = 0 := by omega
    rfl
  | case3 c cs ih =>
    rcases n with _ | _ | n
    · rfl
    · rfl
    · exact ih (by omega)
  | case4 c cs _ _ hends =>
    obtain rfl : n = 0 := by omega
    rfl
  | case5 c cs hsingle hpair hgoes ih =>
    have hescape : c ≠ '\\' := ne_backslash hsingle hpair
    cases n with
    | zero => rfl
    | succ n =>
      rw [List.take_succ_cons, after_cons, next_inside_of_goes hescape hgoes]
      exact ih (by omega)

/-- `(inside quote).after (cs.take (literalLength quote cs)) = outside` if the literal ends within
the text. -/
theorem after_take_literalLength {quote : Char} {cs : List Char}
    (h : literalLength quote cs < cs.length) :
    (inside quote).after (cs.take (literalLength quote cs)) = outside := by
  fun_induction literalLength quote cs with
  | case1 => simp at h
  | case2 => simp at h
  | case3 c cs ih =>
    rw [Nat.add_comm]
    exact ih (by simp only [List.length_cons] at h; omega)
  | case4 c cs hsingle hpair hends =>
    have hescape : c ≠ '\\' := ne_backslash hsingle hpair
    rw [List.take_succ_cons, after_cons, next, if_neg hescape, if_pos hends]
    rfl
  | case5 c cs hsingle hpair hgoes ih =>
    have hescape : c ≠ '\\' := ne_backslash hsingle hpair
    rw [Nat.add_comm, List.take_succ_cons, after_cons, next_inside_of_goes hescape hgoes]
    exact ih (by rw [List.length_cons] at h; omega)

/-- A span of `spansFrom pos cs` covers `pos + n` exactly if a literal is open behind
`cs.take n`. -/
theorem any_covers_eq_isInside {cs : List Char} {n : Nat} (h : n < cs.length) (pos : Nat) :
    ((spansFrom pos cs).any fun s => decide (s.Covers (pos + n))) =
      (outside.after (cs.take n)).isInside := by
  -- the scan jumps over a whole literal, so `n` falls inside that literal or behind it
  fun_induction spansFrom pos cs generalizing n with
  | case1 => simp at h
  | case2 pos c cs hquote length =>
    rename_i ih
    cases n with
    | zero =>
      rw [List.any_cons, any_covers_of_le (by omega)]
      simp [Span.Covers, isInside]
    | succ n =>
      have hopen : outside.next c = inside c := if_pos hquote
      rw [List.any_cons, List.take_succ_cons, after_cons, hopen]
      rcases Nat.lt_or_ge n length with hwithin | hbehind
      · have hcovers : Span.Covers ⟨pos, pos + 1 + length⟩ (pos + (n + 1)) :=
          ⟨by simp, by simp only; omega⟩
        rw [isInside_after_take hwithin, decide_eq_true hcovers, Bool.true_or]
      · -- the literal has ended, and the scan starts anew
        have hcovers : ¬ Span.Covers ⟨pos, pos + 1 + length⟩ (pos + (n + 1)) := by
          intro hcovers
          have hbefore : pos + (n + 1) < pos + 1 + length := hcovers.2
          omega
        rw [List.length_cons] at h
        have hposition : pos + (n + 1) = pos + 1 + length + (n - length) := by omega
        have htake : cs.take n = cs.take length ++ (cs.drop length).take (n - length) := by
          rw [← List.take_add, Nat.add_sub_cancel' hbehind]
        have hended : (inside c).after (cs.take length) = outside :=
          after_take_literalLength (by omega)
        rw [decide_eq_false hcovers, Bool.false_or, hposition,
          ih (by rw [List.length_drop]; omega), htake, after_append, hended]
  | case3 pos c cs hquote ih =>
    cases n with
    | zero =>
      rw [any_covers_of_le (by omega)]
      rfl
    | succ n =>
      have hposition : pos + (n + 1) = pos + 1 + n := by omega
      rw [hposition, ih (by rw [List.length_cons] at h; omega), List.take_succ_cons, after_cons,
        next_outside_of_not_quote (by simpa using hquote)]

/-! ## Live directives -/

/-- `liveFrom dialect pos text` are the directives in front of which no literal is open. -/
theorem liveFrom_eq_filter (dialect : Dialect) (pos : Nat) (text : List Char) :
    liveFrom dialect pos text =
      (directivesAt dialect pos text).filter fun d =>
        !(outside.after (text.take (d.position - pos))).isInside := by
  apply List.filter_congr
  intro d hd
  have hbounds := bounds_of_mem_directivesAt hd
  have hposition : d.position = pos + (d.position - pos) := by omega
  rw [← any_covers_eq_isInside (by omega) pos, ← hposition]

end Restyle.Stylesheet
