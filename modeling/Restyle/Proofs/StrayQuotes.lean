import Mathlib
import Restyle.Proofs.DirectiveScan

/-! # Stray quotes
A line with a single quote opens a literal that nothing on the line closes. Where directives are
looked for, the literal ends with its line; where comments are removed, it goes on to the next quote
of its kind. Main statement: the stylesheet imports what the lines behind it import after their
comments have been removed as from the inside of the literal; so the stray quote changes nothing if
these lines have no comments (`imports_stray`). -/

namespace Restyle.Stylesheet

/-! ## Positions

Nothing depends on the position at which a text starts: directives and literals move along. -/

/-- A directive found `n` characters further on. -/
def Directive.shift (n : Nat) (d : Directive) : Directive := { d with position := n + d.position }

/-- `shift` leaves the targets as they are. -/
@[simp] theorem Directive.targets_shift (n : Nat) (d : Directive) :
    (d.shift n).targets = d.targets := rfl

/-- A span `n` characters further on. -/
def Span.shift (n : Nat) (s : Span) : Span := ⟨n + s.start, n + s.stop⟩

/-- `(s.shift n).Covers (n + pos) ↔ s.Covers pos`. -/
theorem Span.covers_shift (n : Nat) (s : Span) (pos : Nat) :
    (s.shift n).Covers (n + pos) ↔ s.Covers pos := by
  simp only [Span.Covers, Span.shift]
  omega

section Positions

variable (n pos : Nat)

/-- `spansFrom (n + pos) cs = (spansFrom pos cs).map (Span.shift n)`. -/
theorem spansFrom_add (cs : List Char) : spansFrom (n + pos) cs = (spansFrom pos cs).map
    (Span.shift n) := by
  fun_induction spansFrom pos cs with
  | case1 pos => rw [spansFrom]; rfl
  | case2 pos c cs hquote len ih =>
    have hstop : n + pos + 1 + len = n + (pos + 1 + len) := by omega
    rw [spansFrom, if_pos hquote]
    simp only [List.map_cons, Span.shift]
    rw [hstop, ih]
  | case3 pos c cs hquote ih =>
    rw [spansFrom, if_neg hquote, Nat.add_assoc, ih]

/-- `directivesFrom (n + pos) cs = (directivesFrom pos cs).map (Directive.shift n)`. -/
theorem directivesFrom_add (cs : List Char) :
    directivesFrom (n + pos) cs = (directivesFrom pos cs).map (Directive.shift n) := by
  fun_induction directivesFrom pos cs with
  | case1 pos => rw [directivesFrom]; rfl
  | case2 pos cs kind rest hopen behind ih =>
    have hbehind : n + pos + 1 + (cs.length - behind.length) =
        n + (pos + 1 + (cs.length - behind.length)) := by
      omega
    rw [directivesFrom_of_some hopen, hbehind, ih, List.map_cons]
    rfl
  | case3 pos cs hopen ih => rw [directivesFrom_of_none hopen, Nat.add_assoc, ih]
  | case4 pos c cs hat ih => rw [directivesFrom_cons_of_ne hat, Nat.add_assoc, ih]

/-- `lineDirective? (n + pos) line = (lineDirective? pos line).map (Directive.shift n)`. -/
theorem lineDirective?_add (line : List Char) :
    lineDirective? (n + pos) line = (lineDirective? pos line).map (Directive.shift n) := by
  unfold lineDirective?
  split
  · rw [Option.map_map]
    congr 1
    funext found
    simp [Directive.shift, Nat.add_assoc]
  · rfl

/-- `lineDirectives (n + pos) lines = (lineDirectives pos lines).map (Directive.shift n)`. -/
theorem lineDirectives_add (lines : List (List Char)) :
    lineDirectives (n + pos) lines = (lineDirectives pos lines).map (Directive.shift n) := by
  induction lines generalizing pos with
  | nil => rfl
  | cons line lines ih =>
    have hnext : n + pos + line.length + 1 = n + (pos + line.length + 1) := by omega
    rw [lineDirectives, lineDirectives, lineDirective?_add, hnext, ih, List.map_append]
    cases lineDirective? pos line <;> rfl

/-- `directivesAt` goes through `shift` in both dialects. -/
theorem directivesAt_add (dialect : Dialect) (text : List Char) :
    directivesAt dialect (n + pos) text =
      (directivesAt dialect pos text).map (Directive.shift n) := by
  cases dialect with
  | block => exact directivesFrom_add n pos text
  | indented => exact lineDirectives_add n pos (text.splitOn '\n')

/-- `liveFrom` goes through `shift`. -/
theorem liveFrom_add (dialect : Dialect) (text : List Char) :
    liveFrom dialect (n + pos) text = (liveFrom dialect pos text).map (Directive.shift n) := by
  unfold liveFrom
  rw [directivesAt_add, spansFrom_add, List.filter_map]
  congr 1
  refine List.filter_congr fun d _ => ?_
  simp [List.any_map, Function.comp_def, Directive.shift, Span.covers_shift]

/-- `targetsFrom dialect pos text = targetsFrom dialect 0 text`. -/
theorem targetsFrom_eq (dialect : Dialect) (text : List Char) :
    targetsFrom dialect pos text = targetsFrom dialect 0 text := by
  unfold targetsFrom
  rw [← Nat.add_zero pos, liveFrom_add, List.flatMap_map]
  rfl

end Positions

/-! ## The line of a stray quote -/

/-- A line with exactly one quote in it, and nothing that opens a comment or a directive. -/
structure IsStray (quote : Char) (line : List Char) : Prop where
  quotes_eq : line.filter Text.isQuote = [quote]
  no_at : '@' ∉ line
  no_slash : '/' ∉ line
  no_escape : '\\' ∉ line
  no_break : '\n' ∉ line

variable {quote : Char} {line : List Char}

/-- A line with a stray quote is `before ++ quote :: after`, where `before` is plain and `after` the
body of a literal. -/
theorem IsStray.exists_eq (h : IsStray quote line) :
    ∃ before after, line = before ++ quote :: after ∧
    Text.isQuote quote = true ∧ IsPlain before ∧ LiteralBody quote after := by
  obtain ⟨before, after, hline, hbefore, hquote, hafter⟩ := List.filter_eq_cons_iff.mp h.quotes_eq
  refine ⟨before, after, hline, hquote, isPlain_of_forall fun c hc => ⟨?_, ?_⟩,
    LiteralBody.of_forall fun c hc => ?_⟩
  · simpa using hbefore c hc
  · rintro rfl
    exact h.no_slash (by simp [hline, hc])
  · refine ⟨?_, ?_, ?_⟩
    · rintro rfl
      exact List.filter_eq_nil_iff.mp hafter _ hc hquote
    · rintro rfl
      exact h.no_escape (by simp [hline, hc])
    · rintro rfl
      exact h.no_break (by simp [hline, hc])

/-- `stripComments` keeps the line, and goes on behind it in `.literal quote`. -/
theorem IsStray.stripComments_append (h : IsStray quote line) (rest : List Char) :
    stripComments (line ++ '\n' :: rest) = line ++ '\n' :: stripFrom (.literal quote) [] rest := by
  obtain ⟨before, after, rfl, hquote, hbefore, hafter⟩ := h.exists_eq
  have hmeet (_ : before.getLast? = some '/') : StopsSlash (quote :: (after ++ '\n' :: rest)) :=
    stopsSlash_cons ⟨Text.ne_of_isQuote hquote rfl, Text.ne_of_isQuote hquote rfl⟩
  have hbreak : '\n' ≠ quote := (Text.ne_of_isQuote hquote rfl).symm
  unfold stripComments
  rw [List.append_assoc, List.cons_append, hbefore.isCode.stripFrom_append hmeet,
    stripFrom_quote hquote, stripFrom_literal_append hafter, stripFrom, if_neg hbreak,
    extendLine, if_pos rfl]
  · rw [List.append_assoc, List.cons_append]
  · simp

/-- `spansFrom` has the stray literal end with its line. -/
theorem IsStray.spansFrom_append (h : IsStray quote line) (pos : Nat) (rest : List Char) :
    ∃ start, spansFrom pos (line ++ '\n' :: rest) =
      ⟨start, pos + line.length + 1⟩ :: spansFrom (pos + line.length + 1) rest := by
  obtain ⟨before, after, rfl, hquote, hbefore, hafter⟩ := h.exists_eq
  refine ⟨pos + before.length, ?_⟩
  have hlength : literalLength quote (after ++ '\n' :: rest) = after.length + 1 :=
    literalLength_append_of_ends hafter (.inr rfl) (by decide) rest
  have hdrop : (after ++ '\n' :: rest).drop (after.length + 1) = rest := by simp
  have hstop : pos + before.length + 1 + (after.length + 1) =
      pos + (before ++ quote :: after).length + 1 := by
    rw [List.length_append, List.length_cons]
    omega
  rw [List.append_assoc, List.cons_append, spansFrom_append_of_not_quote hbefore.1, spansFrom,
    if_pos hquote, hlength]
  simp only [hdrop, hstop]

/-- `targetsFrom` of a line with a stray quote and `rest` are those of `rest`. -/
theorem IsStray.targetsFrom_append (h : IsStray quote line) (dialect : Dialect) (pos : Nat)
    (rest : List Char) :
    targetsFrom dialect pos (line ++ '\n' :: rest) = targetsFrom dialect 0 rest := by
  obtain ⟨start, hspans⟩ := h.spansFrom_append pos rest
  have hlive : liveFrom dialect pos (line ++ '\n' :: rest) =
      liveFrom dialect (pos + line.length + 1) rest := by
    unfold liveFrom
    rw [parted_of_not_mem h.no_at, directivesAt_of_not_mem h.no_at, List.nil_append, hspans]
    refine List.filter_congr fun d hd => ?_
    have hbounds := bounds_of_mem_directivesAt hd
    -- every directive stands behind the line, where its literal has ended
    have hcovers : ¬ Span.Covers ⟨start, pos + line.length + 1⟩ d.position := by
      intro hcovers
      have hstop : d.position < pos + line.length + 1 := hcovers.2
      omega
    rw [List.any_cons, decide_eq_false hcovers, Bool.false_or]
  rw [← targetsFrom_eq (pos + line.length + 1)]
  unfold targetsFrom
  rw [hlive]

/-! ## Imports behind a stray quote -/

/-- The imports of a stylesheet whose comments have been removed. -/
def bareImports (dialect : Dialect) (text : List Char) : List String :=
  ((((liveDirectives dialect text).flatMap Directive.targets).filter fun target =>
    !isPlainImport target).eraseDups).map String.ofList

/-- `imports dialect source = bareImports dialect (stripComments source)`. -/
theorem imports_eq_bareImports (dialect : Dialect) (source : List Char) :
    imports dialect source = bareImports dialect (stripComments source) := rfl

/-- `bareImports` depends on `targetsFrom dialect 0` only. -/
theorem bareImports_congr {dialect : Dialect} {text text' : List Char}
    (h : targetsFrom dialect 0 text = targetsFrom dialect 0 text') :
    bareImports dialect text = bareImports dialect text' := by
  have htargets : (liveDirectives dialect text).flatMap Directive.targets =
      (liveDirectives dialect text').flatMap Directive.targets := by
    rw [liveDirectives_eq_liveFrom, liveDirectives_eq_liveFrom]
    exact h
  rw [bareImports, bareImports, htargets]

/-- A line break in front names nothing. -/
theorem targetsFrom_break (dialect : Dialect) (text : List Char) :
    targetsFrom dialect 0 ('\n' :: text) = targetsFrom dialect 0 text := by
  have hlive := liveFrom_append_break .nil (parted_of_not_mem List.not_mem_nil dialect) 0 text
  have hnone : liveFrom dialect 0 [] = [] := by
    rw [liveFrom, directivesAt_of_not_mem List.not_mem_nil, List.filter_nil]
  rw [List.nil_append, hnone, List.nil_append] at hlive
  rw [← targetsFrom_eq 1 dialect text, targetsFrom, targetsFrom, hlive]
  rfl

/-- `stripFrom region line cs = cs` for a text without `//` and `/*`, from code or within a
literal. -/
theorem stripFrom_eq_self {region : Region} {cs : List Char}
    (hregion : region ≠ .block ∧ region ≠ .line) (hline : ¬ ['/', '/'] <:+: cs)
    (hblock : ¬ ['/', '*'] <:+: cs) (line : List Char) :
    stripFrom region line cs = cs := by
  have hbehind : ∀ {mark ds : List Char} (c : Char), ¬ mark <:+: c :: ds → ¬ mark <:+: ds :=
    fun c h hmark => h (hmark.trans (List.suffix_cons c _).isInfix)
  fun_induction stripFrom region line cs with
  | case1 => rfl
  | case2 q line c cs ih =>
    rw [ih hregion (hbehind c (hbehind _ hline)) (hbehind c (hbehind _ hblock))]
  | case3 q line c cs hescape ih => rw [ih (by split <;> simp) (hbehind c hline) (hbehind c hblock)]
  | case4 | case5 | case6 => exact absurd rfl hregion.1
  | case7 | case8 => exact absurd rfl hregion.2
  | case9 line cs => exact absurd (List.prefix_append ['/', '*'] cs).isInfix hblock
  | case10 line cs | case11 line cs => exact absurd (List.prefix_append ['/', '/'] cs).isInfix hline
  | case12 line c cs hstar hslash ih =>
    rw [ih (by split <;> simp) (hbehind c hline) (hbehind c hblock)]

/-- Behind a line with a stray quote, a stylesheet imports what its other lines import after their
comments have been removed as from the inside of a literal; so the line changes nothing if there are
none. -/
theorem imports_stray (h : IsStray quote line) (dialect : Dialect) (rest : List Char) :
    imports dialect (line ++ '\n' :: rest) =
      bareImports dialect (stripFrom (.literal quote) [] rest) ∧
      imports dialect ('\n' :: rest) = bareImports dialect (stripFrom .code [] rest) ∧
      (¬ ['/', '/'] <:+: rest → ¬ ['/', '*'] <:+: rest →
        imports dialect (line ++ '\n' :: rest) = imports dialect ('\n' :: rest)) := by
  have hstray : imports dialect (line ++ '\n' :: rest) =
      bareImports dialect (stripFrom (.literal quote) [] rest) := by
    rw [imports_eq_bareImports, h.stripComments_append]
    exact bareImports_congr (h.targetsFrom_append dialect 0 _)
  have hbreak : imports dialect ('\n' :: rest) = bareImports dialect (stripFrom .code [] rest) := by
    rw [imports_eq_bareImports, stripComments, stripFrom_break]
    exact bareImports_congr (targetsFrom_break dialect _)
  refine ⟨hstray, hbreak, fun hline hblock => ?_⟩
  rw [hstray, hbreak, stripFrom_eq_self (by simp) hline hblock,
    stripFrom_eq_self (by simp) hline hblock]

/-- The apostrophe of a word is stray. -/
theorem isStray_apostrophe : IsStray '\'' "it's".toList :=
  ⟨by decide, by decide, by decide, by decide, by decide⟩

/-- The apostrophe of a word hides no directive on the next line. -/
theorem imports_stray_apostrophe :
    IsStray '\'' "it's".toList ∧
      ¬ ['/', '/'] <:+: "@import 'a';".toList ∧ ¬ ['/', '*'] <:+: "@import 'a';".toList ∧
      imports .block "it's\n@import 'a';".toList = imports .block "\n@import 'a';".toList := by
  have hline : ¬ ['/', '/'] <:+: "@import 'a';".toList := by decide
  have hblock : ¬ ['/', '*'] <:+: "@import 'a';".toList := by decide
  exact ⟨isStray_apostrophe, hline, hblock,
    (imports_stray isStray_apostrophe .block "@import 'a';".toList).2.2 hline hblock⟩

/-- Behind such an apostrophe a comment is left, and what it imports is imported. -/
theorem imports_stray_ne :
    IsStray '\'' "it's".toList ∧ imports .block "it's\n// @import 'a';".toList = ["a"] ∧
      imports .block "\n// @import 'a';".toList = [] :=
  ⟨isStray_apostrophe, by decide +kernel, by decide +kernel⟩

end Restyle.Stylesheet
