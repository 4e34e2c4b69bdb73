import Mathlib
import Restyle.Proofs.ArgumentTargets

/-! # Stylesheets in pieces
Stylesheets put together from pieces that stand on lines of their own: directives, declarations,
comments and other text. Main statements: in either dialect such a stylesheet imports what is
written in its directives and nothing else (`imports_blockSource`, `imports_indentedSource`). -/

namespace Restyle.Stylesheet

/-! ## Pieces without directives -/

/-- A piece that names no target in either dialect. -/
inductive Filler where
  /-- Text without quotes, comments and directives. -/
  | plain (text : List Char) (isPlain : IsPlain text) (noDirective : '@' ∉ text)
  /-- A comment to the end of its line. -/
  | lineComment (before : Blanks) (text : List Char) (unbroken : '\n' ∉ text)
  /-- A block comment. -/
  | blockComment (before : Blanks) (text : List Char) (unclosed : ¬ ['*', '/'] <:+: text)
    (after : Blanks)

/-- A piece that names no target, as it is written. -/
def Filler.source : Filler → List Char
  | plain text _ _ => text
  | lineComment before text _ => before.chars ++ '/' :: '/' :: text
  | blockComment before text _ after =>
    before.chars ++ '/' :: '*' :: (text ++ '*' :: '/' :: after.chars)

/-- Blanks hold no `'@'`. -/
theorem at_not_mem_of_blank {cs : List Char} (h : ∀ c ∈ cs, Text.isBlank c = true) : '@' ∉ cs :=
  fun hat => absurd (h '@' hat) (by decide)

/-- A filler has `Names` none, in either dialect. -/
theorem Filler.names (f : Filler) (dialect : Dialect) : Names dialect f.source [] := by
  cases f with
  | plain text isPlain noDirective =>
    exact names_of_not_mem isPlain.isCode.leaves isPlain.isCode noDirective dialect
  | lineComment before text unbroken =>
    exact names_of_not_mem (leaves_lineComment before.all unbroken) (isCode_of_blank before.all)
      (at_not_mem_of_blank before.all) dialect
  | blockComment before text unclosed after =>
    have hleft : ∀ c ∈ before.chars ++ (text.filter (· == '\n') ++ after.chars),
        Text.isBlank c = true := by
      intro c hc
      rcases List.mem_append.mp hc with hbefore | hrest
      · exact before.all c hbefore
      · rcases List.mem_append.mp hrest with hbreak | hafter
        · rw [beq_iff_eq.mp (List.mem_filter.mp hbreak).2]
          rfl
        · exact after.all c hafter
    exact names_of_not_mem (leaves_blockComment before.all unclosed after.all)
      (isCode_of_blank hleft)
      (at_not_mem_of_blank hleft) dialect

/-! ## Directives -/

namespace DirectiveBody

/-- A directive as it is written, with blanks behind it. -/
def text (b : DirectiveBody) (gap blanks : List Char) : List Char :=
  '@' :: (b.kind.word ++ (gap ++ (b.source ++ blanks)))

/-- `'@' :: kind.word` is plain. -/
theorem word_isPlain (kind : DirectiveKind) : IsPlain ('@' :: kind.word) := by
  have hall : ('@' :: kind.word).all (fun c => !Text.isQuote c && c != '/') = true := by
    cases kind <;> rfl
  refine isPlain_of_forall fun c hc => ?_
  simpa using List.all_eq_true.mp hall c hc

/-- The text of a directive is code. -/
theorem isCode_text (b : DirectiveBody) {gap blanks : List Char}
    (hgap : ∀ c ∈ gap, Text.isBlank c = true) (hblanks : ∀ c ∈ blanks, Text.isBlank c = true) :
    IsCode (b.text gap blanks) := by
  have hbody : IsCode (b.source ++ blanks) :=
    b.isCode_source.append_of_stopsSlash (isCode_of_blank hblanks)
    (stopsSlash_of_isBlank fun c hc => hblanks c (List.mem_of_head? hc))
  have hrest : IsCode (gap ++ (b.source ++ blanks)) :=
    (isCode_of_blank hgap).append_of_not_mem hbody
    fun hmem => absurd (hgap '/' hmem) (by decide)
  have hword : '/' ∉ '@' :: b.kind.word := by cases b.kind <;> decide
  exact (word_isPlain b.kind).isCode.append_of_not_mem hrest hword

end DirectiveBody

/-! ## Stylesheets of the block dialect -/

/-- A blank ends no statement. -/
theorem inStatement_of_isBlank {c : Char} (h : Text.isBlank c = true) : inStatement c = true := by
  simp [inStatement, Text.ne_of_isBlank h (d := ';') rfl, Text.ne_of_isBlank h (d := '{') rfl,
    Text.ne_of_isBlank h (d := '}') rfl]

/-- A directive of the block dialect, on lines of its own. -/
structure BlockDirective where
  /-- The blanks before it. -/
  before : Blanks
  /-- The blanks after its word. -/
  gap : Gap Text.isBlank
  /-- What it says. -/
  body : DirectiveBody
  within : ∀ c ∈ body.source, inStatement c = true
  /-- The blanks before its semicolon. -/
  closing : Blanks
  /-- The blanks after it. -/
  after : Blanks

namespace BlockDirective

/-- A directive as it is written. -/
def source (d : BlockDirective) : List Char :=
  d.before.chars ++ d.body.text d.gap.chars d.closing.chars ++ ';' :: d.after.chars

/-- A directive with what stands around it is code. -/
theorem isCode_source (d : BlockDirective) : IsCode d.source := by
  have htext : IsCode (d.body.text d.gap.chars d.closing.chars) :=
    d.body.isCode_text d.gap.all d.closing.all
  have hfront : IsCode (d.before.chars ++ d.body.text d.gap.chars d.closing.chars) :=
    (isCode_of_blank d.before.all).append_of_stopsSlash htext (stopsSlash_cons (by decide))
  exact hfront.append_cons_blank rfl (by decide) d.after.all

/-- `directivesFrom pos` of the text of a directive is that directive, if no character of it ends
the statement. -/
theorem directivesFrom_text (b : DirectiveBody) (gap : Gap Text.isBlank) (closing : Blanks)
    (hwithin : ∀ c ∈ b.source, inStatement c = true) (pos : Nat) :
    directivesFrom pos (b.text gap.chars closing.chars) =
      [⟨b.kind, pos, Text.trim (b.source ++ closing.chars)⟩] := by
  obtain ⟨c, hhead, hblank⟩ := b.exists_head_source
  have hc : inStatement c = true := hwithin c (List.mem_of_head? hhead)
  have hopen : openDirective? Text.isBlank inStatement
      (b.kind.word ++ (gap.chars ++ (b.source ++ closing.chars))) =
        some (b.kind, b.source ++ closing.chars) :=
    openDirective?_word b.kind gap.ne_nil gap.all (by rw [List.head?_append, hhead]; rfl) hblank hc
  have hall : ∀ d ∈ b.source ++ closing.chars, inStatement d = true := by
    intro d hd
    rcases List.mem_append.mp hd with hbody | hclosing
    · exact hwithin d hbody
    · exact inStatement_of_isBlank (closing.all d hclosing)
  rw [DirectiveBody.text, directivesFrom_of_some hopen, List.takeWhile_eq_self_iff.mpr hall,
    List.dropWhile_eq_nil_iff.mpr hall, directivesFrom]

/-- `Names .block d.source d.body.targets`. -/
theorem names (d : BlockDirective) : Names .block d.source d.body.targets := by
  refine ⟨d.source, d.isCode_source.leaves, d.isCode_source,
    parted_block_append (at_not_mem_of_blank d.after.all) _, fun pos => ?_⟩
  have hfound : directivesAt .block pos d.source =
      [⟨d.body.kind, pos + d.before.chars.length,
        Text.trim (d.body.source ++ d.closing.chars)⟩] := by
    rw [directivesAt, source, directivesFrom_append_semicolon,
      directivesFrom_append_of_not_mem (at_not_mem_of_blank d.before.all),
      directivesFrom_text d.body d.gap d.closing d.within,
      directivesFrom_of_not_mem (at_not_mem_of_blank d.after.all), List.append_nil]
  rw [source, DirectiveBody.text, List.append_assoc, List.cons_append] at hfound ⊢
  rw [targetsFrom, liveFrom_of_directive
    (fun c hc => (isPlain_of_isBlank (d.before.all c hc)).1) rfl hfound, List.flatMap_singleton,
    d.body.targets_directive _ d.closing.all]

end BlockDirective

/-- A member `a` of `front ++ (middle ++ tail)` that is neither in `front` nor in `tail` stands in
`middle`. -/
theorem bounds_of_append_eq {α : Type} {front middle tail before rest : List α} {a : α}
    (hfront : a ∉ front) (hend : a ∉ tail) (h : front ++ (middle ++ tail) = before ++ a :: rest) :
    front.length ≤ before.length ∧ before.length < front.length + middle.length := by
  have hget : (front ++ (middle ++ tail))[before.length]? = some a := by
    rw [h, List.getElem?_append_right (Nat.le_refl _), Nat.sub_self]
    rfl
  constructor
  · by_contra hlt
    rw [List.getElem?_append_left (Nat.lt_of_not_le hlt)] at hget
    exact hfront (List.mem_of_getElem? hget)
  · by_contra hge
    rw [List.getElem?_append_right (by omega), List.getElem?_append_right (by omega)] at hget
    exact hend (List.mem_of_getElem? hget)

/-- A declaration of the block dialect whose value is a literal. -/
structure Declaration where
  /-- The property, with what stands before it. -/
  name : List Char
  isPlain : IsPlain name
  noDirective : '@' ∉ name
  /-- The blanks after the colon. -/
  gap : Blanks
  /-- The quote on either side of the value. -/
  quote : Char
  /-- The value. -/
  value : List Char
  isQuote_quote : Text.isQuote quote = true
  closed : LiteralBody quote value
  /-- The blanks after the declaration. -/
  after : Blanks

namespace Declaration

/-- A declaration up to its value. -/
def front (d : Declaration) : List Char := d.name ++ ':' :: d.gap.chars

/-- A declaration as it is written. -/
def source (d : Declaration) : List Char :=
  (d.front ++ d.quote :: (d.value ++ [d.quote])) ++ ';' :: d.after.chars

/-- What stands in front of the value holds no quote. -/
theorem not_quote_front (d : Declaration) : ∀ c ∈ d.front, Text.isQuote c = false := by
  intro c hc
  rcases List.mem_append.mp hc with hname | hrest
  · exact d.isPlain.1 c hname
  · rcases List.mem_cons.mp hrest with rfl | hgap
    · rfl
    · exact (isPlain_of_isBlank (d.gap.all c hgap)).1

/-- What stands in front of the value holds no `'@'`. -/
theorem at_not_mem_front (d : Declaration) : '@' ∉ d.front := by
  simp [front, d.noDirective, at_not_mem_of_blank d.gap.all]

/-- What stands in front of the value is code. -/
theorem isCode_front (d : Declaration) : IsCode d.front :=
  d.isPlain.isCode.append_cons_blank rfl (by decide) d.gap.all

/-- A declaration is code. -/
theorem isCode_source (d : Declaration) : IsCode d.source := by
  have hvalue : IsCode (d.quote :: (d.value ++ [d.quote])) := .literal d.isQuote_quote d.closed .nil
  have hfront : IsCode (d.front ++ d.quote :: (d.value ++ [d.quote])) := by
    refine d.isCode_front.append_of_stopsSlash hvalue (stopsSlash_cons ?_)
    exact ⟨Text.ne_of_isQuote d.isQuote_quote rfl, Text.ne_of_isQuote d.isQuote_quote rfl⟩
  exact hfront.append_cons_blank rfl (by decide) d.after.all

/-- The text of a declaration, with what follows its value set apart. -/
theorem source_eq (d : Declaration) :
    d.source = d.front ++ d.quote :: (d.value ++ d.quote :: ';' :: d.after.chars) := by
  simp [source]

/-- Every `@` of a declaration stands within its value. -/
theorem covers_of_at {d : Declaration} {before rest : List Char}
    (h : d.source = before ++ '@' :: rest) (pos : Nat) :
    ∃ s ∈ spansFrom pos d.source, s.Covers (pos + before.length) := by
  refine ⟨⟨pos + d.front.length, pos + d.front.length + d.value.length + 2⟩, ?_, ?_⟩
  · rw [source_eq, spansFrom_append_of_not_quote d.not_quote_front,
      spansFrom_literal d.closed d.isQuote_quote]
    exact List.mem_cons_self
  · have hquote : '@' ≠ d.quote := (Text.ne_of_isQuote d.isQuote_quote rfl).symm
    have hfront : '@' ∉ d.front ++ [d.quote] := by simp [d.at_not_mem_front, hquote]
    have hend : '@' ∉ d.quote :: ';' :: d.after.chars := by
      simp [hquote, at_not_mem_of_blank d.after.all]
    have hsplit : (d.front ++ [d.quote]) ++ (d.value ++ d.quote :: ';' :: d.after.chars) =
        before ++ '@' :: rest := by
      rw [← h, source_eq]
      simp
    have hbounds := bounds_of_append_eq hfront hend hsplit
    rw [List.length_append, List.length_singleton] at hbounds
    exact ⟨by simp only; omega, by simp only; omega⟩

/-- `Names .block d.source []`: a directive within the value is not live. -/
theorem names (d : Declaration) : Names .block d.source [] := by
  refine ⟨d.source, d.isCode_source.leaves, d.isCode_source,
    parted_block_append (at_not_mem_of_blank d.after.all) _, fun pos => ?_⟩
  have hnone : liveFrom .block pos d.source = [] := by
    rw [liveFrom, List.filter_eq_nil_iff]
    intro found hfound
    -- wherever the scan finds a directive there is an `@`
    obtain ⟨before, rest, hsource, hposition⟩ := mem_directivesFrom hfound
    obtain ⟨s, hs, hcovers⟩ := covers_of_at hsource pos
    rw [Bool.not_eq_true', Bool.not_eq_false, List.any_eq_true, hposition]
    exact ⟨s, hs, decide_eq_true hcovers⟩
  rw [targetsFrom, hnone, List.flatMap_nil]

end Declaration

/-- A piece of a stylesheet of the block dialect, on lines of its own: other text than directives
and literals is filler. -/
inductive BlockPiece where
  | directive (d : BlockDirective)
  | declaration (d : Declaration)
  | filler (f : Filler)

namespace BlockPiece

/-- A piece as it is written. -/
def source : BlockPiece → List Char
  | directive d => d.source
  | declaration d => d.source
  | filler f => f.source

/-- The targets that are written in a piece. -/
def targets : BlockPiece → List (List Char)
  | directive d => d.body.targets
  | declaration _ => []
  | filler _ => []

/-- `Names .block p.source p.targets`. -/
theorem names (p : BlockPiece) : Names .block p.source p.targets := by
  cases p with
  | directive d => exact d.names
  | declaration d => exact d.names
  | filler f => exact f.names .block

end BlockPiece

/-- A stylesheet of the block dialect: pieces, each of which starts on a line of its own. -/
def blockSource (pieces : List BlockPiece) : List Char :=
  ['\n'].intercalate (pieces.map BlockPiece.source)

/-- `imports .block` of pieces joined by line breaks are the targets of their directives that are no
plain imports, in the order in which they are first named and each of them once. Comments and the
values of declarations name nothing. -/
theorem imports_blockSource (pieces : List BlockPiece) :
    imports .block (blockSource pieces) =
      (((pieces.flatMap BlockPiece.targets).filter fun target =>
        !isPlainImport target).eraseDups).map
        String.ofList := by
  rw [imports, blockSource, importTargets_intercalate fun p _ => p.names]

-- a quote in a comment, a directive in a value, and a list over two lines with a plain import in it
example :
    imports .block
      "// \"\ncontent: \"; @import 'a';\";\n@import 'b',\n'c.css', \"a\";\n@use 'b';".toList =
      ["b", "a"] := by
  decide +kernel

/-! ## Stylesheets of the indented dialect -/

/-- An indent is a blank. -/
theorem isBlank_of_isIndent {c : Char} (h : isIndent c = true) : Text.isBlank c = true := by
  rw [isIndent, Bool.or_eq_true, beq_iff_eq, beq_iff_eq] at h
  rcases h with rfl | rfl <;> rfl

/-- A directive of the indented dialect, on a line of its own. -/
structure LineDirective where
  /-- The indent of its line. -/
  indent : Run isIndent
  /-- The blanks after its word. -/
  gap : Gap isIndent
  /-- What it says. -/
  body : DirectiveBody
  /-- The blanks after it. -/
  after : Blanks
  unbroken : '\n' ∉ body.source ++ after.chars

namespace LineDirective

/-- A directive as it is written. -/
def source (d : LineDirective) : List Char :=
  d.indent.chars ++ d.body.text d.gap.chars d.after.chars

/-- The indent of a directive consists of blanks. -/
theorem isBlank_indent (d : LineDirective) : ∀ c ∈ d.indent.chars, Text.isBlank c = true :=
  fun c hc => isBlank_of_isIndent (d.indent.all c hc)

/-- A directive on its line is code. -/
theorem isCode_source (d : LineDirective) : IsCode d.source := by
  have htext : IsCode (d.body.text d.gap.chars d.after.chars) :=
    d.body.isCode_text (fun c hc => isBlank_of_isIndent (d.gap.all c hc)) d.after.all
  exact (isCode_of_blank d.isBlank_indent).append_of_stopsSlash htext (stopsSlash_cons (by decide))

/-- A directive on its line holds no line break. -/
theorem break_not_mem_source (d : LineDirective) : '\n' ∉ d.source := by
  have hindent : '\n' ∉ d.indent.chars := fun h => absurd (d.indent.all _ h) (by decide)
  have hgap : '\n' ∉ d.gap.chars := fun h => absurd (d.gap.all _ h) (by decide)
  have hword : '\n' ∉ d.body.kind.word := by cases d.body.kind <;> decide
  have hbody := d.unbroken
  rw [List.mem_append] at hbody
  simp [source, DirectiveBody.text, hindent, hgap, hword, hbody]

/-- `lineDirective? pos d.source` is the directive, behind its indent. -/
theorem lineDirective?_source (d : LineDirective) (pos : Nat) :
    lineDirective? pos d.source =
      some ⟨d.body.kind, pos + d.indent.chars.length,
        Text.trim (d.body.source ++ d.after.chars)⟩ := by
  obtain ⟨c, hhead, hblank⟩ := d.body.exists_head_source
  have hindent : isIndent c = false := by
    rw [Bool.eq_false_iff]
    exact fun h => Bool.false_ne_true (hblank.symm.trans (isBlank_of_isIndent h))
  have hopen : openDirective? isIndent (fun _ => true)
      (d.body.kind.word ++ (d.gap.chars ++ (d.body.source ++ d.after.chars))) =
        some (d.body.kind, d.body.source ++ d.after.chars) :=
    openDirective?_word d.body.kind d.gap.ne_nil d.gap.all
      (by rw [List.head?_append, hhead]; rfl) hindent rfl
  rw [source, DirectiveBody.text, lineDirective?_append d.indent.all, hopen]
  rfl

/-- `Names .indented d.source d.body.targets`. -/
theorem names (d : LineDirective) : Names .indented d.source d.body.targets := by
  refine ⟨d.source, d.isCode_source.leaves, d.isCode_source, parted_indented _, fun pos => ?_⟩
  have hfound : directivesAt .indented pos d.source =
      [⟨d.body.kind, pos + d.indent.chars.length, Text.trim (d.body.source ++ d.after.chars)⟩] := by
    rw [directivesAt, List.splitOn_eq_singleton d.break_not_mem_source, lineDirectives,
      d.lineDirective?_source, lineDirectives]
    rfl
  rw [source, DirectiveBody.text] at hfound ⊢
  rw [targetsFrom,
    liveFrom_of_directive (fun c hc => (isPlain_of_isBlank (d.isBlank_indent c hc)).1) rfl hfound,
    List.flatMap_singleton, d.body.targets_directive _ d.after.all]

end LineDirective

/-- A piece of a stylesheet of the indented dialect, on lines of its own. -/
inductive IndentedPiece where
  | directive (d : LineDirective)
  | filler (f : Filler)

namespace IndentedPiece

/-- A piece as it is written. -/
def source : IndentedPiece → List Char
  | directive d => d.source
  | filler f => f.source

/-- The targets that are written in a piece. -/
def targets : IndentedPiece → List (List Char)
  | directive d => d.body.targets
  | filler _ => []

/-- `Names .indented p.source p.targets`. -/
theorem names (p : IndentedPiece) : Names .indented p.source p.targets := by
  cases p with
  | directive d => exact d.names
  | filler f => exact f.names .indented

end IndentedPiece

/-- A stylesheet of the indented dialect: pieces on lines of their own. -/
def indentedSource (pieces : List IndentedPiece) : List Char :=
  ['\n'].intercalate (pieces.map IndentedPiece.source)

/-- `imports .indented` of pieces joined by line breaks are the targets of their directives that are
no plain imports, in the order in which they are first named and each of them once. -/
theorem imports_indentedSource (pieces : List IndentedPiece) :
    imports .indented (indentedSource pieces) =
      (((pieces.flatMap IndentedPiece.targets).filter fun target =>
        !isPlainImport target).eraseDups).map
        String.ofList := by
  rw [imports, indentedSource, importTargets_intercalate fun p _ => p.names]

-- bare targets and quoted ones, and a directive in a comment over several lines
example :
    imports .indented "@use a/b as c\n/*\n@import d\n*/\n  @import 'e', a/b".toList =
      ["a/b", "e"] := by
  decide +kernel

end Restyle.Stylesheet
