import Mathlib
import Restyle.Proofs.StrayQuotes

/-! # Lines of a stylesheet without its comments
Removing comments leaves characters out (`stripFrom_sublist`), but no line break
(`count_stripFrom`), whether literals and comments are closed or not. So every line stands where it
stood, with some of its characters gone (`stripComments_lines`). -/

namespace Restyle.Stylesheet

/-! ## Lines with characters left out -/

section Lines

variable {α : Type} [DecidableEq α] {l m : List α} {a : α}

/-- `l.splitOn a` has at least one piece. -/
theorem exists_splitOn_eq_cons (a : α) (l : List α) :
    ∃ first others, l.splitOn a = first :: others :=
  List.exists_cons_of_ne_nil (List.splitOn_ne_nil a l)

/-- If `l` is a sublist of `m` with as many `a`, the pieces of `l.splitOn a` are sublists of those
of `m`, one by one. -/
theorem forall₂_splitOn_of_sublist (h : l.Sublist m) (hcount : l.count a = m.count a) :
    List.Forall₂ List.Sublist (l.splitOn a) (m.splitOn a) := by
  induction h with
  | slnil => exact .cons .slnil .nil
  | @cons l m b h ih =>
    -- with a separator left out, too few would be left
    have hne : b ≠ a := by
      rintro rfl
      have hle : l.count b ≤ m.count b := h.count_le b
      rw [List.count_cons_self] at hcount
      omega
    rw [List.count_cons_of_ne hne] at hcount
    have hlines := ih hcount
    obtain ⟨first, others, hl⟩ := exists_splitOn_eq_cons a l
    obtain ⟨first', others', hm⟩ := exists_splitOn_eq_cons a m
    rw [hl, hm] at hlines
    obtain ⟨hfirst, hothers⟩ := List.forall₂_cons.mp hlines
    rw [List.splitOn_cons_eq_if_modifyHead, if_neg (by simpa using hne), hl, hm]
    exact .cons (hfirst.cons b) hothers
  | @cons_cons l m b h ih =>
    have hlines := ih (by simpa [List.count_cons] using hcount)
    rw [List.splitOn_cons_eq_if_modifyHead, List.splitOn_cons_eq_if_modifyHead]
    by_cases hb : b = a
    · rw [if_pos (by simpa using hb), if_pos (by simpa using hb)]
      exact .cons .slnil hlines
    · obtain ⟨first, others, hl⟩ := exists_splitOn_eq_cons a l
      obtain ⟨first', others', hm⟩ := exists_splitOn_eq_cons a m
      rw [hl, hm] at hlines
      obtain ⟨hfirst, hothers⟩ := List.forall₂_cons.mp hlines
      rw [if_neg (by simpa using hb), if_neg (by simpa using hb), hl, hm]
      exact .cons (hfirst.cons_cons b) hothers

end Lines

/-! ## What removing comments keeps -/

/-- `(stripFrom region line cs).Sublist cs`: removing comments only leaves characters out. -/
theorem stripFrom_sublist (region : Region) (line cs : List Char) :
    (stripFrom region line cs).Sublist cs := by
  fun_induction stripFrom region line cs with
  | case1 => exact .slnil
  | case2 q line c cs ih => exact (ih.cons_cons c).cons_cons _
  | case3 q line c cs hescape ih => exact ih.cons_cons c
  | case4 line cs ih => exact (ih.cons _).cons _
  | case5 line cs ih => exact ih.cons_cons _
  | case6 line c cs hends hbreak ih => exact ih.cons c
  | case7 line cs ih => exact ih.cons_cons _
  | case8 line c cs hbreak ih => exact ih.cons c
  | case9 line cs ih => exact (ih.cons _).cons _
  | case10 line cs haddress ih => exact ih.cons_cons _
  | case11 line cs haddress ih => exact (ih.cons _).cons _
  | case12 line c cs hstar hslash ih => exact ih.cons_cons c

/-- `(stripFrom region line cs).count '\n' = cs.count '\n'`: no line break is left out. -/
theorem count_stripFrom (region : Region) (line cs : List Char) :
    (stripFrom region line cs).count '\n' = cs.count '\n' := by
  fun_induction stripFrom region line cs with
  | case1 => rfl
  | case2 q line c cs ih => simp only [List.count_cons, ih]
  | case3 q line c cs hescape ih => simp only [List.count_cons, ih]
  | case4 line cs ih => simpa [List.count_cons] using ih
  | case5 line cs ih => simp only [List.count_cons, ih]
  | case6 line c cs hends hbreak ih => rw [ih, List.count_cons_of_ne hbreak]
  | case7 line cs ih => simp only [List.count_cons, ih]
  | case8 line c cs hbreak ih => rw [ih, List.count_cons_of_ne hbreak]
  | case9 line cs ih => simpa [List.count_cons] using ih
  | case10 line cs haddress ih => simp only [List.count_cons, ih]
  | case11 line cs haddress ih => simpa [List.count_cons] using ih
  | case12 line c cs hstar hslash ih => simp only [List.count_cons, ih]

/-- `stripComments source` has as many lines as `source`, each of them a sublist of the one before;
without `//` and `/*` it is `source`. -/
theorem stripComments_lines (source : List Char) :
    ((stripComments source).splitOn '\n').length = (source.splitOn '\n').length ∧
      List.Forall₂ List.Sublist ((stripComments source).splitOn '\n') (source.splitOn '\n') ∧
      (¬ ['/', '/'] <:+: source → ¬ ['/', '*'] <:+: source → stripComments source = source) := by
  have hlines : List.Forall₂ List.Sublist ((stripComments source).splitOn '\n')
      (source.splitOn '\n') :=
    forall₂_splitOn_of_sublist (stripFrom_sublist .code [] source) (count_stripFrom .code [] source)
  refine ⟨hlines.length_eq, hlines, ?_⟩
  intro hline hblock
  exact stripFrom_eq_self (by simp) hline hblock []

-- a comment over two lines, one that is not closed, and an apostrophe that hides it
example : stripComments "a/* b\nc */d\n'e // f\n' /* g".toList = "a\nd\n'e // f\n' ".toList := by
  decide

/-- An open literal and single slashes open no comment. -/
theorem stripComments_lines_singleSlash :
    ¬ ['/', '/'] <:+: "a: 1/2 \"b\nc/".toList ∧ ¬ ['/', '*'] <:+: "a: 1/2 \"b\nc/".toList ∧
      stripComments "a: 1/2 \"b\nc/".toList = "a: 1/2 \"b\nc/".toList := by
  have hline : ¬ ['/', '/'] <:+: "a: 1/2 \"b\nc/".toList := by decide
  have hblock : ¬ ['/', '*'] <:+: "a: 1/2 \"b\nc/".toList := by decide
  exact ⟨hline, hblock, (stripComments_lines _).2.2 hline hblock⟩

end Restyle.Stylesheet
