import Mathlib
import Restyle.Stylesheet.Import

/-! # Spans of string literals
The literals of a text start with its quotes and lie one behind the other, so that the bisection
finds the same positions as a plain search (`insideLiteral_toArray_spansFrom`,
`insideLiteral_literalSpans_iff`). A text in which every literal is closed (`IsCode`) has its spans
for itself: what follows it does not change them (`IsCode.spansFrom_append`). -/

namespace Restyle

namespace Text

/-- A quote is no character that is not a quote. -/
theorem ne_of_isQuote {c d : Char} (hc : isQuote c = true) (hd : isQuote d = false) : c ≠ d := by
  rintro rfl
  exact absurd hc (by simp [hd])

/-- A blank is no character that is not a blank. -/
theorem ne_of_isBlank {c d : Char} (hc : isBlank c = true) (hd : isBlank d = false) : c ≠ d := by
  rintro rfl
  exact absurd hc (by simp [hd])

end Text

namespace Stylesheet

/-! ## Order of the spans -/

/-- `literalLength quote cs ≤ cs.length`. -/
theorem literalLength_le (quote : Char) (cs : List Char) : literalLength quote cs ≤ cs.length := by
  fun_induction literalLength quote cs with
  | case1 => exact Nat.le_refl 0
  | case2 => exact Nat.le_refl 1
  | case3 c cs ih =>
    simp only [List.length_cons]
    omega
  | case4 c cs _ _ hends => exact Nat.succ_le_succ (Nat.zero_le _)
  | case5 c cs _ _ hgoes ih =>
    rw [List.length_cons]
    omega

/-- `pos ≤ s.start < s.stop ≤ pos + cs.length` for every span of `spansFrom pos cs`. -/
theorem bounds_of_mem_spansFrom {pos : Nat} {cs : List Char} {s : Span} (h : s ∈ spansFrom pos cs) :
    pos ≤ s.start ∧ s.start < s.stop ∧ s.stop ≤ pos + cs.length := by
  fun_induction spansFrom pos cs with
  | case1 => cases h
  | case2 pos c cs hquote n ih =>
    have hle : n ≤ cs.length := literalLength_le c cs
    rw [List.length_cons]
    cases h with
    | head => exact ⟨Nat.le_refl pos, by simp only; omega, by simp only; omega⟩
    | tail _ h =>
      have hbounds := ih h
      rw [List.length_drop] at hbounds
      omega
  | case3 pos c cs hquote ih =>
    have hbounds := ih h
    rw [List.length_cons]
    omega

/-- Every span of `spansFrom pos cs` starts at a quote of `cs`. -/
theorem exists_quote_of_mem_spansFrom {pos : Nat} {cs : List Char} {s : Span}
    (h : s ∈ spansFrom pos cs) :
    ∃ quote, cs[s.start - pos]? = some quote ∧ Text.isQuote quote = true := by
  fun_induction spansFrom pos cs with
  | case1 => cases h
  | case2 pos c cs hquote n ih =>
    cases h with
    | head => exact ⟨c, by simp, hquote⟩
    | tail _ h =>
      obtain ⟨quote, hget, hquote⟩ := ih h
      have hstart := (bounds_of_mem_spansFrom h).1
      have hindex : s.start - pos = n + (s.start - (pos + 1 + n)) + 1 := by omega
      rw [List.getElem?_drop] at hget
      exact ⟨quote, by rw [hindex, List.getElem?_cons_succ, hget], hquote⟩
  | case3 pos c cs hquote ih =>
    obtain ⟨quote, hget, hquote⟩ := ih h
    have hstart := (bounds_of_mem_spansFrom h).1
    have hindex : s.start - pos = s.start - (pos + 1) + 1 := by omega
    exact ⟨quote, by rw [hindex, List.getElem?_cons_succ, hget], hquote⟩

/-- No span of `spansFrom start cs` covers a position up to `start`. -/
theorem any_covers_of_le {pos start : Nat} (h : pos ≤ start) (cs : List Char) :
    ((spansFrom start cs).any fun s => decide (s.Covers pos)) = false := by
  rw [List.any_eq_false]
  intro s hs hcovers
  have hstart := (bounds_of_mem_spansFrom hs).1
  have hbehind := (of_decide_eq_true hcovers : s.Covers pos).1
  omega

/-- `s.stop ≤ t.start` for every span `s` in front of `t` in `spansFrom pos cs`. -/
theorem pairwise_spansFrom (pos : Nat) (cs : List Char) :
    (spansFrom pos cs).Pairwise fun s t => s.stop ≤ t.start := by
  fun_induction spansFrom pos cs with
  | case1 => exact List.Pairwise.nil
  | case2 pos c cs hquote n ih =>
    exact List.Pairwise.cons (fun t ht => (bounds_of_mem_spansFrom ht).1) ih
  | case3 pos c cs hquote ih => exact ih

/-! ## Bisection -/

/-- `countStarts spans pos lo hi` lies between `lo` and `hi` and parts the spans there: those before
it start up to `pos`, those from it on behind `pos`. -/
theorem countStarts_spec {spans : Array Span} (pos : Nat) {lo hi : Nat}
    (hordered : ∀ (i j : Nat) (s t : Span), i ≤ j → spans[i]? = some s → spans[j]? = some t →
      s.start ≤ t.start) (hle : lo ≤ hi) (hsize : hi ≤ spans.size) :
    lo ≤ countStarts spans pos lo hi ∧ countStarts spans pos lo hi ≤ hi ∧
      (∀ (i : Nat) (s : Span), lo ≤ i → i < countStarts spans pos lo hi → spans[i]? = some s →
        s.start ≤ pos) ∧
      ∀ (i : Nat) (s : Span), countStarts spans pos lo hi ≤ i → i < hi → spans[i]? = some s →
        pos < s.start := by
  fun_induction countStarts spans pos lo hi with
  | case1 lo hi hlt mid hright ih =>
    obtain ⟨hlo, hmid, hbelow, habove⟩ := ih (by omega) (by omega)
    refine ⟨hlo, by omega, hbelow, fun i s hi₁ hi₂ hs => ?_⟩
    -- the spans that the cut leaves out start after the middle one
    by_cases hi : i < mid
    · exact habove i s hi₁ hi hs
    · obtain ⟨m, hm, hpos⟩ := (Option.any_eq_true _ _).mp hright
      have hfirst : pos < m.start := by simpa using hpos
      exact Nat.lt_of_lt_of_le hfirst (hordered mid i m s (by omega) hm hs)
  | case2 lo hi hlt mid hleft ih =>
    obtain ⟨hlo, hhi, hbelow, habove⟩ := ih (by omega) hsize
    refine ⟨by omega, hhi, fun i s hi₁ hi₂ hs => ?_, habove⟩
    by_cases hi : i ≤ mid
    · have hm : spans[mid]? = some spans[mid] := Array.getElem?_eq_getElem (by omega)
      have hlast : spans[mid].start ≤ pos := by
        rw [hm] at hleft
        simpa using hleft
      exact Nat.le_trans (hordered i mid s _ hi hs hm) hlast
    · exact hbelow i s (by omega) hi₂ hs
  | case3 lo hi hnot =>
    have heq : lo = hi := Nat.le_antisymm hle (Nat.not_lt.mp hnot)
    exact ⟨Nat.le_refl lo, hle, fun i s h₁ h₂ _ => absurd h₂ (Nat.not_lt.mpr h₁),
      fun i s h₁ h₂ _ => by omega⟩

section Consecutive

variable {spans : List Span} (hbehind : spans.Pairwise fun s t => s.stop ≤ t.start)
include hbehind

/-- `s.stop ≤ t.start` for the spans at places `i < j`. -/
theorem stop_le_start_of_lt {i j : Nat} {s t : Span} (hij : i < j) (hs : spans[i]? = some s)
    (ht : spans[j]? = some t) : s.stop ≤ t.start := by
  obtain ⟨hi, rfl⟩ := List.getElem?_eq_some_iff.mp hs
  obtain ⟨hj, rfl⟩ := List.getElem?_eq_some_iff.mp ht
  exact List.pairwise_iff_getElem.mp hbehind i j hi hj hij

/-- `s.start ≤ t.start` for the spans at places `i ≤ j`. -/
theorem start_le_start_of_le (hproper : ∀ s ∈ spans, s.start < s.stop) {i j : Nat}
    {s t : Span} (hij : i ≤ j) (hs : spans[i]? = some s) (ht : spans[j]? = some t) :
    s.start ≤ t.start := by
  rcases Nat.lt_or_eq_of_le hij with hlt | rfl
  · exact Nat.le_trans (hproper s (List.mem_of_getElem? hs)).le
      (stop_le_start_of_lt hbehind hlt hs ht)
  · rw [Option.some.inj (hs.symm.trans ht)]

/-- `insideLiteral spans.toArray pos` is whether any span covers `pos`, for spans that lie one
behind the other. -/
theorem insideLiteral_toArray (hproper : ∀ s ∈ spans, s.start < s.stop) (pos : Nat) :
    insideLiteral spans.toArray pos = spans.any fun s => decide (s.Covers pos) := by
  have hordered : ∀ (i j : Nat) (s t : Span), i ≤ j → spans.toArray[i]? = some s →
      spans.toArray[j]? = some t → s.start ≤ t.start := by
    intro i j s t hij hs ht
    rw [List.getElem?_toArray] at hs ht
    exact start_le_start_of_le hbehind hproper hij hs ht
  obtain ⟨-, hle, hbelow, habove⟩ :=
    countStarts_spec pos hordered (Nat.zero_le _) (Nat.le_refl spans.toArray.size)
  rw [List.size_toArray] at hle habove hbelow
  unfold insideLiteral
  rw [List.size_toArray, Bool.eq_iff_iff, List.any_eq_true]
  cases hcount : countStarts spans.toArray pos 0 spans.length with
  | zero =>
    refine ⟨fun h => absurd h Bool.false_ne_true, fun ⟨s, hs, hcovers⟩ => ?_⟩
    obtain ⟨i, hi, rfl⟩ := List.mem_iff_getElem.mp hs
    have hafter := habove i spans[i] (by omega) hi (by simp [hi])
    have hcovers := of_decide_eq_true hcovers
    exact absurd hcovers.1 (Nat.lt_asymm hafter)
  | succ n =>
    simp only [List.getElem?_toArray, Option.any_eq_true]
    refine ⟨fun ⟨s, hs, hcovers⟩ => ⟨s, List.mem_of_getElem? hs, hcovers⟩,
      fun ⟨s, hs, hcovers⟩ => ?_⟩
    obtain ⟨i, hi, rfl⟩ := List.mem_iff_getElem.mp hs
    have hwithin := of_decide_eq_true hcovers
    -- a span before the last one that starts in time has ended by then, and one after it starts too
    -- late
    have hin : i = n := by
      rcases Nat.lt_trichotomy i n with hlt | heq | hgt
      · have hn : n < spans.length := by omega
        have hlast := hbelow n spans[n] (Nat.zero_le n) (by omega) (by simp [hn])
        have hended : spans[i].stop ≤ spans[n].start :=
          stop_le_start_of_lt hbehind hlt (List.getElem?_eq_getElem hi)
            (List.getElem?_eq_getElem hn)
        exact absurd hwithin.2 (Nat.not_lt.mpr (Nat.le_trans hended hlast))
      · exact heq
      · have hafter := habove i spans[i] (by omega) hi (by simp [hi])
        exact absurd hwithin.1 (Nat.lt_asymm hafter)
    subst hin
    exact ⟨spans[i], List.getElem?_eq_getElem hi, hcovers⟩

end Consecutive

/-- `insideLiteral` on the spans of a text is whether any of them covers `pos`. -/
theorem insideLiteral_toArray_spansFrom (start : Nat) (cs : List Char) (pos : Nat) :
    insideLiteral (spansFrom start cs).toArray pos =
      (spansFrom start cs).any fun s => decide (s.Covers pos) :=
  insideLiteral_toArray (pairwise_spansFrom start cs)
    (fun _ hs => (bounds_of_mem_spansFrom hs).2.1) pos

/-- Spans of a text in order: each of them starts with a quote and is not empty, and the next one
starts where it stops, or later. -/
structure AreOrderedIn (text : List Char) (spans : List Span) : Prop where
  bounds : ∀ s ∈ spans, s.start < s.stop ∧ s.stop ≤ text.length
  starts_with_quote : ∀ s ∈ spans, ∃ quote, text[s.start]? = some quote ∧ Text.isQuote quote = true
  increasing : spans.Pairwise fun s t => s.start < t.start
  apart : spans.Pairwise fun s t => s.stop ≤ t.start

/-- `literalSpans text` are ordered in `text`. -/
theorem areOrderedIn_literalSpans (text : List Char) : AreOrderedIn text (literalSpans text) where
  bounds s hs := by
    have hbounds := bounds_of_mem_spansFrom hs
    omega
  starts_with_quote s hs := exists_quote_of_mem_spansFrom hs
  increasing := by
    apply (pairwise_spansFrom 0 text).imp_of_mem
    intro s t hs _ hbehind
    exact Nat.lt_of_lt_of_le (bounds_of_mem_spansFrom hs).2.1 hbehind
  apart := pairwise_spansFrom 0 text

/-- The literals of every text have spans in order, and the bisection finds a position inside them
exactly if some span covers it. -/
theorem insideLiteral_literalSpans_iff (text : List Char) :
    AreOrderedIn text (literalSpans text) ∧
      ∀ pos, insideLiteral (literalSpans text).toArray pos = true ↔ ∃ s ∈ literalSpans text,
      s.Covers pos := by
  refine ⟨areOrderedIn_literalSpans text, ?_⟩
  intro pos
  rw [literalSpans, insideLiteral_toArray_spansFrom, List.any_eq_true]
  simp only [decide_eq_true_eq]

-- an escape that runs past the end, and two literals that meet
example : literalSpans "''\"a\\".toList = [⟨0, 2⟩, ⟨2, 5⟩] := by decide +kernel

/-! ## Closed literals -/

/-- What stands between the quotes of a literal that closes on its line: a backslash takes the
character after it along. -/
inductive LiteralBody (quote : Char) : List Char → Prop where
  | nil : LiteralBody quote []
  | char {c : Char} {cs : List Char} (hquote : c ≠ quote) (hescape : c ≠ '\\') (hbreak : c ≠ '\n')
      (h : LiteralBody quote cs) : LiteralBody quote (c :: cs)
  | escape {c : Char} {cs : List Char} (hbreak : c ≠ '\n') (h : LiteralBody quote cs) :
      LiteralBody quote ('\\' :: c :: cs)

/-- Characters other than the quote, backslashes and line breaks make the body of a literal. -/
theorem LiteralBody.of_forall {quote : Char} {cs : List Char}
    (h : ∀ c ∈ cs, c ≠ quote ∧ c ≠ '\\' ∧ c ≠ '\n') : LiteralBody quote cs := by
  induction cs with
  | nil => exact .nil
  | cons c cs ih =>
    obtain ⟨hquote, hescape, hbreak⟩ := h c List.mem_cons_self
    exact .char hquote hescape hbreak (ih fun d hd => h d (List.mem_cons_of_mem c hd))

/-- `literalLength quote (body ++ c :: rest) = body.length + 1` where `c` is the quote or a line
break. -/
theorem literalLength_append_of_ends {quote : Char} {body : List Char}
    (h : LiteralBody quote body) {c : Char} (hends : c = quote ∨ c = '\n') (hescape : c ≠ '\\')
    (rest : List Char) :
    literalLength quote (body ++ c :: rest) = body.length + 1 := by
  induction h with
  | nil => rw [List.nil_append, literalLength, if_pos hends] <;> simp [hescape]
  | @char d cs hne hescape hbreak _ ih =>
    rw [List.cons_append, literalLength, if_neg (by simp [hne, hbreak]), ih, List.length_cons,
      Nat.add_comm] <;> simp [hescape]
  | escape _ _ ih =>
    rw [List.cons_append, List.cons_append, literalLength, ih, List.length_cons, List.length_cons]
    omega

/-- `literalLength quote (body ++ quote :: rest) = body.length + 1`. -/
theorem literalLength_append {quote : Char} {body : List Char} (h : LiteralBody quote body)
    (hquote : Text.isQuote quote = true) (rest : List Char) :
    literalLength quote (body ++ quote :: rest) = body.length + 1 :=
  literalLength_append_of_ends h (.inl rfl) (Text.ne_of_isQuote hquote rfl) rest

/-- `spansFrom pos (c :: cs) = spansFrom (pos + 1) cs` for a character that is no quote. -/
theorem spansFrom_cons_of_not_quote {c : Char} (h : Text.isQuote c = false) (pos : Nat)
    (cs : List Char) :
    spansFrom pos (c :: cs) = spansFrom (pos + 1) cs := by
  rw [spansFrom, if_neg (by simp [h])]

/-- `spansFrom pos (before ++ rest) = spansFrom (pos + before.length) rest` for a text without
quotes. -/
theorem spansFrom_append_of_not_quote {before : List Char}
    (h : ∀ c ∈ before, Text.isQuote c = false) (pos : Nat) (rest : List Char) :
    spansFrom pos (before ++ rest) = spansFrom (pos + before.length) rest := by
  induction before generalizing pos with
  | nil => rfl
  | cons c before ih =>
    rw [List.cons_append, spansFrom_cons_of_not_quote (h c List.mem_cons_self),
      ih fun d hd => h d (List.mem_cons_of_mem c hd), List.length_cons]
    congr 1
    omega

/-- A literal has the span `⟨pos, pos + body.length + 2⟩`, and the others follow. -/
theorem spansFrom_literal {quote : Char} {body : List Char} (h : LiteralBody quote body)
    (hquote : Text.isQuote quote = true) (pos : Nat) (rest : List Char) :
    spansFrom pos (quote :: (body ++ quote :: rest)) =
      ⟨pos, pos + body.length + 2⟩ :: spansFrom (pos + body.length + 2) rest := by
  have hdrop : (body ++ quote :: rest).drop (body.length + 1) = rest := by
    rw [← List.drop_drop, List.drop_left, List.drop_one, List.tail_cons]
  have hstop : pos + 1 + (body.length + 1) = pos + body.length + 2 := by omega
  rw [spansFrom, if_pos hquote, literalLength_append h hquote]
  simp only [hdrop, hstop]

/-! ## Texts without comments and open literals -/

/-- Whether a slash before a text opens no comment. -/
def StopsSlash (rest : List Char) : Prop := ∀ c ∈ rest.head?, c ≠ '/' ∧ c ≠ '*'

/-- `StopsSlash []`. -/
theorem stopsSlash_nil : StopsSlash [] := by simp [StopsSlash]

/-- `StopsSlash (c :: cs)` for a character that is neither a slash nor a star. -/
theorem stopsSlash_cons {c : Char} {cs : List Char} (h : c ≠ '/' ∧ c ≠ '*') :
    StopsSlash (c :: cs) := by
  simpa [StopsSlash] using h

/-- A text without comments in which every literal is closed. -/
inductive IsCode : List Char → Prop where
  | nil : IsCode []
  | char {c : Char} {cs : List Char} (hquote : Text.isQuote c = false)
      (hslash : c = '/' → StopsSlash cs) (h : IsCode cs) : IsCode (c :: cs)
  | literal {quote : Char} {body cs : List Char} (hquote : Text.isQuote quote = true)
      (hbody : LiteralBody quote body) (h : IsCode cs) : IsCode (quote :: (body ++ quote :: cs))

/-- Whether a text has neither quotes nor anything that opens a comment. -/
def IsPlain (cs : List Char) : Prop :=
  (∀ c ∈ cs, Text.isQuote c = false) ∧ ¬ ['/', '/'] <:+: cs ∧ ¬ ['/', '*'] <:+: cs

/-- A text without quotes and slashes is plain. -/
theorem isPlain_of_forall {cs : List Char} (h : ∀ c ∈ cs, Text.isQuote c = false ∧ c ≠ '/') :
    IsPlain cs := by
  refine ⟨fun c hc => (h c hc).1, fun hmark => ?_, fun hmark => ?_⟩
  · exact (h '/' (hmark.subset (by simp))).2 rfl
  · exact (h '/' (hmark.subset (by simp))).2 rfl

/-- A plain text is code. -/
theorem IsPlain.isCode {cs : List Char} (h : IsPlain cs) : IsCode cs := by
  obtain ⟨hquote, hline, hblock⟩ := h
  induction cs with
  | nil => exact .nil
  | cons c cs ih =>
    have hrest : IsCode cs := ih (fun d hd => hquote d (List.mem_cons_of_mem c hd))
      (fun hmark => hline (hmark.trans (List.suffix_cons c cs).isInfix))
      (fun hmark => hblock (hmark.trans (List.suffix_cons c cs).isInfix))
    refine .char (hquote c List.mem_cons_self) ?_ hrest
    rintro rfl
    cases cs with
    | nil => exact stopsSlash_nil
    | cons d ds =>
      refine stopsSlash_cons ⟨?_, ?_⟩
      · rintro rfl
        exact hline (List.prefix_append ['/', '/'] ds).isInfix
      · rintro rfl
        exact hblock (List.prefix_append ['/', '*'] ds).isInfix

namespace IsCode

variable {cs ds : List Char}

/-- `cs ++ ds` is code if both are, and a slash at the end of `cs` opens no comment with `ds`. -/
theorem append (hcs : IsCode cs) (hds : IsCode ds)
    (hslash : cs.getLast? = some '/' → StopsSlash ds) :
    IsCode (cs ++ ds) := by
  induction hcs with
  | nil => exact hds
  | @char c cs hquote hc _ ih =>
    cases cs with
    | nil => exact .char hquote (fun heq => hslash (by simp [heq])) hds
    | cons d cs => exact .char hquote hc (ih fun hlast => hslash (by simpa using hlast))
  | @literal quote body cs hquote hbody _ ih =>
    have hrest : IsCode (cs ++ ds) := ih fun hlast => hslash (by simp [List.getLast?_cons, hlast])
    simpa using IsCode.literal hquote hbody hrest

/-- `cs ++ ds` is code if both are and `StopsSlash ds`. -/
theorem append_of_stopsSlash (hcs : IsCode cs) (hds : IsCode ds) (h : StopsSlash ds) :
    IsCode (cs ++ ds) :=
  hcs.append hds fun _ => h

/-- `cs ++ ds` is code if both are and `cs` has no slash. -/
theorem append_of_not_mem (hcs : IsCode cs) (hds : IsCode ds) (h : '/' ∉ cs) : IsCode (cs ++ ds) :=
  hcs.append hds fun hlast => absurd (List.mem_of_getLast? hlast) h

/-- `spansFrom pos (cs ++ rest) = spansFrom pos cs ++ spansFrom (pos + cs.length) rest` for code
`cs`. -/
theorem spansFrom_append (h : IsCode cs) (pos : Nat) (rest : List Char) :
    spansFrom pos (cs ++ rest) = spansFrom pos cs ++ spansFrom (pos + cs.length) rest := by
  induction h generalizing pos with
  | nil => rw [spansFrom]; rfl
  | @char c cs hquote _ _ ih =>
    rw [List.cons_append, spansFrom_cons_of_not_quote hquote,
      spansFrom_cons_of_not_quote hquote, ih, List.length_cons, Nat.add_right_comm, Nat.add_assoc]
  | @literal quote body cs hquote hbody _ ih =>
    have hlength : (quote :: (body ++ quote :: cs)).length = body.length + 2 + cs.length := by
      simp only [List.length_cons, List.length_append]
      omega
    rw [List.cons_append, List.append_assoc, List.cons_append, spansFrom_literal hbody hquote,
      spansFrom_literal hbody hquote, ih, hlength, List.cons_append]
    simp only [Nat.add_assoc]

end IsCode

end Stylesheet

end Restyle
