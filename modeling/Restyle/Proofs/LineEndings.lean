import Mathlib
import Restyle.Proofs.LineBreaks
import Restyle.Proofs.LineStructure
import Restyle.Proofs.OpenLiterals

/-! # Line endings
A stylesheet without backslashes imports the same whether its lines end with a line break alone or
with a carriage return and a line break (`imports_withReturns`). Its comments are removed alike, up
to carriage returns that stand in them, and the directives of both texts match one by one, with the
same literals open in front of them. -/

namespace Restyle.Stylesheet

open Text (Rebroken)

variable {cs ds : List Char}

/-! ## Comments -/

/-- Whether only a quote ends the literal of a region. -/
def Region.IsProper : Region → Prop
  | .literal quote => Text.isQuote quote = true
  | _ => True

/-- `stripFrom region line` keeps `Rebroken`: it may take a `'\r'` away, but no line break. -/
theorem stripFrom_of_rebroken (h : Rebroken cs ds) (hescape : '\\' ∉ cs) {region : Region}
    (hregion : region.IsProper) (line : List Char) :
    Rebroken (stripFrom region line cs) (stripFrom region line ds) := by
  -- the same line is read so far on both sides: a line break starts a new one, with or without a
  -- carriage return
  fun_induction stripFrom region line cs generalizing ds with
  | case1 =>
    cases h
    simpa [stripFrom] using .nil
  | case2 q line c cs ih => exact absurd List.mem_cons_self hescape
  | case3 q line c cs hends ih =>
    rw [List.mem_cons, not_or] at hescape
    have hnext : (if c = q then Region.code else .literal q).IsProper := by
      split
      · exact trivial
      · exact hregion
    cases h with
    | keep _ h =>
      rw [stripFrom_literal_cons (Ne.symm hescape.1)]
      exact .keep c (ih h hescape.2 hnext)
    | add h =>
      have hreturn : '\r' ≠ q := (Text.ne_of_isQuote hregion rfl).symm
      rw [stripFrom_literal_cons (by decide), if_neg hreturn, stripFrom_literal_cons (by decide)]
      exact .add (ih h hescape.2 hnext)
  | case4 line cs ih | case9 line cs ih =>
    cases h with
    | keep _ h =>
      cases h with
      | keep _ h =>
        rw [stripFrom]
        exact ih h (fun hmem => hescape (by simp [hmem])) trivial
  | case5 line cs ih =>
    have hrest : '\\' ∉ cs := fun hmem => hescape (List.mem_cons_of_mem '\n' hmem)
    cases h with
    | keep _ h =>
      rw [stripFrom]
      exact .keep '\n' (ih h hrest trivial)
    | add h =>
      rw [stripFrom_block_cons (by simp) (by decide), stripFrom]
      exact .keep '\n' (ih h hrest trivial)
  | case6 line c cs hends hbreak ih =>
    cases h with
    | keep _ h =>
      rw [stripFrom_block_cons (fun rest hc =>
        h.ne_cons (by decide) (fun rest => hends rest hc) rest) hbreak]
      exact ih h (fun hmem => hescape (List.mem_cons_of_mem c hmem)) trivial
    | add h => exact absurd rfl hbreak
  | case7 line cs ih =>
    have hrest : '\\' ∉ cs := fun hmem => hescape (List.mem_cons_of_mem '\n' hmem)
    cases h with
    | keep _ h =>
      rw [stripFrom]
      exact .keep '\n' (ih h hrest trivial)
    | add h =>
      rw [stripFrom_line_cons (by decide), stripFrom]
      exact .keep '\n' (ih h hrest trivial)
  | case8 line c cs hbreak ih =>
    cases h with
    | keep _ h =>
      rw [stripFrom_line_cons hbreak]
      exact ih h (fun hmem => hescape (List.mem_cons_of_mem c hmem)) trivial
    | add h => exact absurd rfl hbreak
  | case10 line cs haddress ih =>
    cases h with
    | keep _ h =>
      have hrest := ih h (fun hmem => hescape (List.mem_cons_of_mem '/' hmem)) trivial
      cases h with
      | keep _ h =>
        rw [stripFrom, if_pos haddress]
        exact .keep '/' hrest
  | case11 line cs haddress ih =>
    cases h with
    | keep _ h =>
      cases h with
      | keep _ h =>
        rw [stripFrom, if_neg haddress]
        exact ih h (fun hmem => hescape (by simp [hmem])) trivial
  | case12 line c cs hstar hslash ih =>
    have hrest : '\\' ∉ cs := fun hmem => hescape (List.mem_cons_of_mem c hmem)
    have hnext : (if Text.isQuote c then Region.literal c else .code).IsProper := by
      split
      · assumption
      · exact trivial
    cases h with
    | keep _ h =>
      rw [stripFrom_code_cons (fun rest hc =>
        h.ne_cons (by decide) (fun rest => hstar rest hc) rest)
        fun rest hc => h.ne_cons (by decide) (fun rest => hslash rest hc) rest]
      exact .keep c (ih h hrest hnext)
    | add h =>
      rw [stripFrom_cons_of_not_quote rfl fun hslash => absurd hslash (by decide), stripFrom_break]
      exact .add (ih h hrest hnext)

/-! ## Literals -/

namespace LiteralState

/-- Whether the scan stands behind no backslash and only a quote closes the literal that is open. -/
def IsProper : LiteralState → Prop
  | outside => True
  | inside quote => Text.isQuote quote = true
  | escaped _ => False

variable {s : LiteralState}

/-- `LiteralState.next` keeps `IsProper` for every character but a backslash. -/
theorem IsProper.next (h : s.IsProper) {c : Char} (hc : c ≠ '\\') : (s.next c).IsProper := by
  cases s with
  | outside =>
    rw [LiteralState.next]
    split
    · assumption
    · exact trivial
  | inside quote =>
    rw [LiteralState.next, if_neg hc]
    split
    · exact trivial
    · exact h
  | escaped quote => exact h.elim

/-- `LiteralState.after` keeps `IsProper` for a text without backslashes. -/
theorem IsProper.after (h : s.IsProper) (hescape : '\\' ∉ cs) : (s.after cs).IsProper := by
  induction cs generalizing s with
  | nil => exact h
  | cons c cs ih =>
    rw [List.mem_cons, not_or] at hescape
    exact ih (h.next (Ne.symm hescape.1)) hescape.2

/-- `s.next '\r' = s`: a carriage return leaves the scan where it stands. -/
theorem IsProper.next_return (h : s.IsProper) : s.next '\r' = s := by
  cases s with
  | outside => rfl
  | inside quote =>
    have hquote : '\r' ≠ quote := (Text.ne_of_isQuote h rfl).symm
    simp [LiteralState.next, hquote]
  | escaped quote => exact h.elim

/-- `s.next '\n' = outside`: no literal reaches into the next line. -/
theorem IsProper.next_break (h : s.IsProper) : s.next '\n' = outside := by
  cases s with
  | outside => rfl
  | inside quote => simp [LiteralState.next]
  | escaped quote => exact h.elim

/-- `s.after ds = s.after cs`: both texts end in the same state. -/
theorem IsProper.after_of_rebroken (hs : s.IsProper) (hescape : '\\' ∉ cs) (h : Rebroken cs ds) :
    s.after ds = s.after cs := by
  induction h generalizing s with
  | nil => rfl
  | keep c h ih =>
    rw [List.mem_cons, not_or] at hescape
    exact ih (hs.next (Ne.symm hescape.1)) hescape.2
  | add h ih =>
    rw [List.mem_cons, not_or] at hescape
    rw [after_cons, hs.next_return, after_cons, after_cons]
    exact ih (hs.next (by decide)) hescape.2

end LiteralState

open LiteralState

/-! ## The block dialect -/

/-- The words of directives hold neither `'\n'` nor `'\r'`. -/
theorem word_unbroken (kind : DirectiveKind) : '\n' ∉ kind.word ∧ '\r' ∉ kind.word := by
  cases kind <;> decide

/-- `openDirective?` reads the same kind from both texts, and `Rebroken` rests. -/
theorem exists_openDirective?_of_rebroken (h : Rebroken cs ds) {kind : DirectiveKind}
    {rest : List Char} (hopen : openDirective? Text.isBlank inStatement cs = some (kind, rest)) :
    ∃ front front' rest', cs = front ++ rest ∧ ds = front' ++ rest' ∧ Rebroken front front' ∧
    Rebroken rest rest' ∧
      openDirective? Text.isBlank inStatement ds = some (kind, rest') := by
  obtain ⟨gap, hgap, hblank, rfl, c, hc, hnot, hstatement⟩ := openDirective?_eq_some_iff.mp hopen
  obtain ⟨tail, rfl, htail⟩ := Rebroken.exists_of_start (word_unbroken kind).1 h
  obtain ⟨gap', rest', rfl, hgaps, hrest⟩ := htail.exists_of_append_left
  have hblank' : ∀ b ∈ gap', Text.isBlank b = true := by
    intro b hb
    rcases hgaps.mem_of_mem hb with hmem | rfl
    · exact hblank b hmem
    · rfl
  have hhead : c ∈ rest'.head? := by
    obtain ⟨rest, rfl⟩ := List.head?_eq_some_iff.mp hc
    cases hrest with
    | keep _ _ => rfl
    | add _ => cases hnot
  refine ⟨kind.word ++ gap, kind.word ++ gap', rest',
    by simp, by simp, (Rebroken.refl _).append hgaps, hrest, ?_⟩
  exact openDirective?_word kind
    (fun hnil => hgap (hgaps.nil_iff.mpr hnil)) hblank' hhead hnot hstatement

/-- `openDirective?` reads nothing from `ds` where it reads nothing from `cs`. -/
theorem openDirective?_eq_none_of_rebroken (h : Rebroken cs ds)
    (hnone : openDirective? Text.isBlank inStatement cs = none) :
    openDirective? Text.isBlank inStatement ds = none := by
  rw [Option.eq_none_iff_forall_not_mem]
  rintro ⟨kind, rest'⟩ hopen
  obtain ⟨gap', hgap', hblank', rfl, c, hc, hnot, hstatement⟩ := openDirective?_eq_some_iff.mp hopen
  obtain ⟨rest', rfl⟩ := List.head?_eq_some_iff.mp hc
  -- its arguments start with no blank, so that no line break is parted in front of them
  have hne : ∀ {d : Char}, Text.isBlank d = true → c ≠ d :=
    fun hd => (Text.ne_of_isBlank hd hnot).symm
  obtain ⟨tail, rfl, htail⟩ := h.exists_of_start_right (word_unbroken kind).1
    fun hlast => absurd (List.mem_of_getLast? hlast) (word_unbroken kind).2
  obtain ⟨gap, rest, rfl, hgaps, hrest⟩ := htail.exists_of_append_right
    fun _ hbreak => hne rfl (Option.some.inj hbreak)
  obtain ⟨rest, rfl, -⟩ := hrest.exists_of_cons (hne rfl)
  have hfound : openDirective? Text.isBlank inStatement (kind.word ++ (gap ++ c :: rest)) =
      some (kind, c :: rest) :=
    openDirective?_word kind (fun hnil => hgap' (hgaps.nil_iff.mp hnil)) (fun b hb =>
      hblank' b (hgaps.subset hb)) rfl
      hnot hstatement
  rw [hnone] at hfound
  cases hfound

/-- Whether two directives, of texts that start at these positions, name the same targets and stand
at the same place. -/
def SamePlace (pos pos' : Nat) (cs ds : List Char) (d e : Directive) : Prop :=
  d.targets = e.targets ∧ ∃ front front', Rebroken front front' ∧ front <+: cs ∧ front' <+: ds ∧
    d.position = pos + front.length ∧ e.position = pos' + front'.length

/-- `SamePlace` is kept behind `Rebroken` texts. -/
theorem SamePlace.behind {front front' : List Char} (hfront : Rebroken front front')
    {pos pos' : Nat} {d e : Directive}
    (h : SamePlace (pos + front.length) (pos' + front'.length) cs ds d e) :
    SamePlace pos pos' (front ++ cs) (front' ++ ds) d e := by
  obtain ⟨htargets, taken, taken', htaken, hcs, hds, hd, he⟩ := h
  refine ⟨htargets, front ++ taken, front' ++ taken', hfront.append htaken, ?_, ?_, ?_, ?_⟩
  · exact (List.prefix_append_right_inj front).mpr hcs
  · exact (List.prefix_append_right_inj front').mpr hds
  · rw [hd, List.length_append, Nat.add_assoc]
  · rw [he, List.length_append, Nat.add_assoc]

/-- The text of a directive, parted where `inStatement` ends. -/
theorem cons_append_eq_taken (front tail : List Char) :
    '@' :: (front ++ tail) = '@' :: (front ++ tail.takeWhile inStatement) ++
      tail.dropWhile inStatement := by
  rw [List.cons_append, List.append_assoc, List.takeWhile_append_dropWhile]

/-- The position behind a directive, counted from its `'@'`. -/
theorem position_behind (pos : Nat) (front tail : List Char) :
    pos + 1 + ((front ++ tail).length - (tail.dropWhile inStatement).length) =
      pos + ('@' :: (front ++ tail.takeWhile inStatement)).length := by
  have hlength := congrArg List.length (cons_append_eq_taken front tail)
  simp only [List.length_append, List.length_cons] at hlength ⊢
  omega

/-- `directivesFrom` of the two texts match one by one, with the same targets and at `SamePlace`. -/
theorem directivesFrom_of_rebroken (h : Rebroken cs ds) (pos pos' : Nat) :
    List.Forall₂ (SamePlace pos pos' cs ds) (directivesFrom pos cs) (directivesFrom pos' ds) := by
  -- the positions drift apart with each line break added, so both are generalized
  fun_induction directivesFrom pos cs generalizing ds pos' with
  | case1 pos =>
    cases h
    rw [directivesFrom]
    exact .nil
  | case2 pos cs kind tail hopen behind =>
    rename_i ih
    cases h with
    | keep _ h =>
      obtain ⟨front, front', tail', rfl, rfl, hfront, htail, hopen'⟩ :=
        exists_openDirective?_of_rebroken h hopen
      have htargets := targets_of_rebroken (htail.takeWhile (p := inStatement) rfl) kind pos pos'
      have htaken := Rebroken.keep '@' (hfront.append (htail.takeWhile (p := inStatement) rfl))
      have hrest :=
        ih (htail.dropWhile rfl) (pos' + ('@' :: (front' ++ tail'.takeWhile inStatement)).length)
      rw [position_behind] at hrest
      rw [directivesFrom_of_some hopen', position_behind, position_behind]
      refine .cons ⟨htargets, [], [], .nil, List.nil_prefix, List.nil_prefix, rfl, rfl⟩ ?_
      rw [cons_append_eq_taken front tail, cons_append_eq_taken front' tail']
      exact hrest.imp fun d e => .behind htaken
  | case3 pos cs hopen ih =>
    cases h with
    | keep _ h =>
      rw [directivesFrom_of_none (openDirective?_eq_none_of_rebroken h hopen)]
      exact (ih h (pos' + 1)).imp fun d e => .behind (.refl ['@'])
  | case4 pos c cs hat ih =>
    cases h with
    | keep _ h =>
      rw [directivesFrom_cons_of_ne hat]
      exact (ih h (pos' + 1)).imp fun d e => .behind (.refl [c])
    | add h =>
      -- a `\r` before a break opens no directive
      rw [directivesFrom_cons_of_ne (by decide), directivesFrom_cons_of_ne (by decide)]
      exact (ih h (pos' + 1 + 1)).imp fun d e => .behind (.add .nil)

/-- `filter` and `flatMap` give the same for two lists whose members are related one by one by a
relation that keeps the test and the values. -/
theorem flatMap_filter_eq_of_forall₂ {α β γ : Type} {R : α → β → Prop} {p : α → Bool} {q : β → Bool}
    {f : α → List γ} {g : β → List γ} {l : List α} {m : List β} (h : List.Forall₂ R l m)
    (hR : ∀ a b, R a b → p a = q b ∧ f a = g b) :
    (l.filter p).flatMap f = (m.filter q).flatMap g := by
  induction h with
  | nil => rfl
  | @cons a b l m hab _ ih =>
    obtain ⟨htest, hvalue⟩ := hR a b hab
    rw [List.filter_cons, List.filter_cons, htest]
    split
    · rw [List.flatMap_cons, List.flatMap_cons, hvalue, ih]
    · exact ih

/-- `targetsFrom .block` is the same for both texts. -/
theorem targetsFrom_block_of_rebroken (h : Rebroken cs ds) (hescape : '\\' ∉ cs) :
    targetsFrom .block 0 cs = targetsFrom .block 0 ds := by
  rw [targetsFrom, targetsFrom, liveFrom_eq_filter, liveFrom_eq_filter]
  refine flatMap_filter_eq_of_forall₂ (directivesFrom_of_rebroken h 0 0) ?_
  rintro d e ⟨htargets, front, front', hfront, hcs, hds, hd, he⟩
  have htake : cs.take (d.position - 0) = front := by
    rw [hd, Nat.zero_add, Nat.sub_zero, ← List.prefix_iff_eq_take.mp hcs]
  have htake' : ds.take (e.position - 0) = front' := by
    rw [he, Nat.zero_add, Nat.sub_zero, ← List.prefix_iff_eq_take.mp hds]
  -- the same literals are open in front of the two directives
  have hstate : outside.after front' = outside.after front :=
    IsProper.after_of_rebroken trivial (fun hmem => hescape (hcs.subset hmem)) hfront
  rw [htake, htake', hstate]
  exact ⟨rfl, htargets⟩

/-! ## The indented dialect -/

/-- The first of several texts is a prefix of all of them, joined. -/
theorem prefix_intercalate_cons {α : Type} (separator first : List α) (others : List (List α)) :
    first <+: separator.intercalate (first :: others) := by
  cases others with
  | nil => rw [List.intercalate_singleton]
  | cons second others =>
    rw [List.intercalate_cons_cons, List.append_assoc]
    exact List.prefix_append _ _

/-- Every member of `lineDirectives pos lines` stands behind nothing but an indent on its line. -/
theorem exists_of_mem_lineDirectives {pos : Nat} {lines : List (List Char)} {d : Directive}
    (h : d ∈ lineDirectives pos lines) :
    ∃ before indent after, ['\n'].intercalate lines = before ++ (indent ++ after) ∧
      d.position = pos + (before ++ indent).length ∧ (∀ c ∈ indent, isIndent c = true) ∧
      (before = [] ∨ ∃ front, before = front ++ ['\n']) := by
  induction lines generalizing pos with
  | nil => cases h
  | cons line lines ih =>
    rw [lineDirectives, List.mem_append, Option.mem_toList] at h
    rcases h with hline | hlines
    · obtain ⟨indent, gap, rest, hindent, rfl, -, -, -, hposition, -⟩ :=
        lineDirective?_eq_some_iff.mp hline
      obtain ⟨after, hafter⟩ :=
        (List.prefix_append indent _).trans (prefix_intercalate_cons ['\n'] _ lines)
      exact ⟨[], indent, after, hafter.symm, hposition, hindent, .inl rfl⟩
    · obtain ⟨before, indent, after, hrest, hposition, hindent, hbefore⟩ := ih hlines
      obtain ⟨second, others, rfl⟩ : ∃ second others, lines = second :: others := by
        -- `intercalate` puts a break behind `line` because another line follows
        cases lines with
        | nil => cases hlines
        | cons second others => exact ⟨second, others, rfl⟩
      refine ⟨line ++ '\n' :: before, indent, after, ?_, ?_, hindent, .inr ?_⟩
      · rw [List.intercalate_cons_cons, hrest]
        simp
      · rw [hposition]
        simp only [List.length_append, List.length_cons]
        omega
      · rcases hbefore with rfl | ⟨front, rfl⟩
        · exact ⟨line, rfl⟩
        · exact ⟨line ++ '\n' :: front, by simp⟩

/-- `liveFrom .indented` are all the `lineDirectives` of a text without backslashes: no literal
reaches into another line. -/
theorem liveFrom_indented (hescape : '\\' ∉ cs) (pos : Nat) :
    liveFrom .indented pos cs = lineDirectives pos (cs.splitOn '\n') := by
  rw [liveFrom_eq_filter, directivesAt, List.filter_eq_self]
  intro d hd
  obtain ⟨before, indent, after, hcs, hposition, hindent, hbefore⟩ :=
    exists_of_mem_lineDirectives hd
  rw [List.intercalate_splitOn, ← List.append_assoc] at hcs
  have htake : cs.take (d.position - pos) = before ++ indent := by
    rw [hposition, Nat.add_sub_cancel_left, hcs, List.take_left]
  have hstart : outside.after before = outside := by
    rcases hbefore with rfl | ⟨front, rfl⟩
    · rfl
    · have hfront : '\\' ∉ front := fun hmem => hescape (by simp [hcs, hmem])
      have hproper : (outside.after front).IsProper := IsProper.after trivial hfront
      rw [after_append, after_cons, after_nil, hproper.next_break]
  have hquote : ∀ c ∈ indent, Text.isQuote c = false := by
    intro c hc
    have hblank := hindent c hc
    rw [isIndent, Bool.or_eq_true, beq_iff_eq, beq_iff_eq] at hblank
    rcases hblank with rfl | rfl <;> rfl
  rw [htake, after_append, hstart, after_outside_of_not_quote hquote]
  rfl

/-- The targets of the directive that opens a line. -/
def lineTargets (line : List Char) : List (List Char) :=
  (lineDirective? 0 line).toList.flatMap Directive.targets

/-- The targets of a line do not depend on its position. -/
theorem flatMap_lineDirective? (pos : Nat) (line : List Char) :
    (lineDirective? pos line).toList.flatMap Directive.targets = lineTargets line := by
  unfold lineTargets lineDirective?
  split
  · next cs hline => cases openDirective? isIndent (fun _ => true) cs <;> rfl
  · rfl

/-- The targets of `lineDirectives pos lines` are the `lineTargets`, line by line. -/
theorem flatMap_lineDirectives (pos : Nat) (lines : List (List Char)) :
    (lineDirectives pos lines).flatMap Directive.targets = lines.flatMap lineTargets := by
  induction lines generalizing pos with
  | nil => rfl
  | cons line lines ih =>
    rw [lineDirectives, List.flatMap_append, flatMap_lineDirective?, ih, List.flatMap_cons]

/-- A directive without arguments has no targets. -/
theorem targets_of_no_arguments (kind : DirectiveKind) (pos : Nat) :
    Directive.targets ⟨kind, pos, []⟩ = [] := by
  cases kind <;> rfl

/-- `lineTargets (line ++ ['\r']) = lineTargets line`. -/
theorem lineTargets_append_return (line : List Char) :
    lineTargets (line ++ ['\r']) = lineTargets line := by
  have hblank : ∀ c ∈ ['\r'], Text.isBlank c = true := by simp [Text.isBlank]
  cases hline : lineDirective? 0 line with
  | some d =>
    obtain ⟨kind, position, arguments⟩ := d
    obtain ⟨indent, gap, rest, hindent, rfl, hgap, hgaps, ⟨c, hc, hnot⟩, hposition, harguments⟩ :=
      lineDirective?_eq_some_iff.mp hline
    have hlonger : lineDirective? 0 (indent ++ '@' :: (kind.word ++ (gap ++ rest)) ++ ['\r']) =
        some ⟨kind, position, arguments⟩ := by
      refine lineDirective?_eq_some_iff.mpr ⟨indent, gap, rest ++ ['\r'], hindent,
        by simp, hgap, hgaps, ⟨c, ?_, hnot⟩, hposition, ?_⟩
      · rw [List.head?_append, Option.mem_def.mp hc]
        rfl
      · rw [Text.trim_append_blank hblank]
        exact harguments
    rw [lineTargets, lineTargets, hline, hlonger]
  | none =>
    cases hlonger : lineDirective? 0 (line ++ ['\r']) with
    | none => rw [lineTargets, lineTargets, hline, hlonger]
    | some d =>
      obtain ⟨kind, position, arguments⟩ := d
      obtain ⟨indent, gap, rest, hindent, heq, hgap, hgaps, ⟨c, hc, hnot⟩, hposition, harguments⟩ :=
        lineDirective?_eq_some_iff.mp hlonger
      obtain ⟨front, last, rfl⟩ : ∃ front last, rest = front ++ [last] := by
        rcases List.eq_nil_or_concat' rest with rfl | hconcat
        · cases hc
        · exact hconcat
      have hparts : line ++ ['\r'] = (indent ++ '@' :: (kind.word ++ (gap ++ front))) ++
          [last] := by simpa using heq
      obtain ⟨rfl, hlast⟩ := List.append_inj' hparts rfl
      cases hlast
      cases front with
      | nil =>
        -- the carriage return is the only argument, and it is trimmed away
        have hnothing : arguments = [] := harguments
        rw [lineTargets, lineTargets, hline, hlonger, hnothing, Option.toList_some,
          List.flatMap_singleton, targets_of_no_arguments]
        rfl
      | cons e front =>
        have hfound : lineDirective? 0 (indent ++ '@' :: (kind.word ++ (gap ++ e :: front))) =
            some ⟨kind, position, Text.trim (e :: front)⟩ :=
          lineDirective?_eq_some_iff.mpr ⟨indent, gap, e :: front, hindent, rfl, hgap, hgaps,
            ⟨c, hc, hnot⟩, hposition, rfl⟩
        rw [hline] at hfound
        cases hfound

/-- The lines of the two texts differ by `'\r'` at their ends, one by one. -/
theorem forall₂_splitOn_of_rebroken (h : Rebroken cs ds) :
    List.Forall₂ (fun line line' => line' = line ∨ line' = line ++ ['\r']) (cs.splitOn '\n')
      (ds.splitOn '\n') := by
  induction h with
  | nil => exact .cons (.inl rfl) .nil
  | @keep c cs ds h ih =>
    obtain ⟨first, others, hcs⟩ := exists_splitOn_eq_cons '\n' cs
    obtain ⟨first', others', hds⟩ := exists_splitOn_eq_cons '\n' ds
    rw [hcs, hds] at ih
    obtain ⟨hfirst, hothers⟩ := List.forall₂_cons.mp ih
    rw [List.splitOn_cons_eq_if_modifyHead, List.splitOn_cons_eq_if_modifyHead, hcs, hds]
    split
    · exact .cons (.inl rfl) (.cons hfirst hothers)
    · exact .cons (hfirst.imp (congrArg (c :: ·)) (congrArg (c :: ·))) hothers
  | @add cs ds h ih =>
    have hreturn : ('\r' :: '\n' :: ds).splitOn '\n' = ['\r'] :: ds.splitOn '\n' := by
      rw [List.splitOn_cons_eq_if_modifyHead, if_neg (by decide),
        List.splitOn_cons_eq_if_modifyHead, if_pos (by decide)]
      rfl
    rw [hreturn, List.splitOn_cons_eq_if_modifyHead, if_pos (by decide)]
    exact .cons (.inr rfl) ih

/-- Lines that differ by `'\r'` at their ends have the same targets. -/
theorem flatMap_lineTargets_of_forall₂ {lines lines' : List (List Char)}
    (h : List.Forall₂ (fun line line' => line' = line ∨ line' = line ++ ['\r']) lines lines') :
    lines.flatMap lineTargets = lines'.flatMap lineTargets := by
  induction h with
  | nil => rfl
  | cons hline _ ih =>
    rw [List.flatMap_cons, List.flatMap_cons, ih]
    rcases hline with rfl | rfl
    · rfl
    · rw [lineTargets_append_return]

/-- `targetsFrom .indented` is the same for both texts. -/
theorem targetsFrom_indented_of_rebroken (h : Rebroken cs ds) (hescape : '\\' ∉ cs) :
    targetsFrom .indented 0 cs = targetsFrom .indented 0 ds := by
  have hescape' : '\\' ∉ ds := by
    intro hmem
    rcases h.mem_of_mem hmem with hmem | heq
    · exact hescape hmem
    · cases heq
  rw [targetsFrom, targetsFrom, liveFrom_indented hescape, liveFrom_indented hescape',
    flatMap_lineDirectives, flatMap_lineDirectives]
  exact flatMap_lineTargets_of_forall₂ (forall₂_splitOn_of_rebroken h)

/-! ## Both dialects -/

/-- `importTargets dialect ds = importTargets dialect cs`: carriage returns in front of line breaks
change no import. -/
theorem importTargets_of_rebroken (h : Rebroken cs ds) (hescape : '\\' ∉ cs) (dialect : Dialect) :
    importTargets dialect ds = importTargets dialect cs := by
  have hproper : Region.code.IsProper := trivial
  have hcode : Rebroken (stripComments cs) (stripComments ds) :=
    stripFrom_of_rebroken h hescape hproper []
  have hrest : '\\' ∉ stripComments cs :=
    fun hmem => hescape ((stripFrom_sublist .code [] cs).subset hmem)
  have htargets : targetsFrom dialect 0 (stripComments cs) =
      targetsFrom dialect 0 (stripComments ds) := by
    cases dialect with
    | block => exact targetsFrom_block_of_rebroken hcode hrest
    | indented => exact targetsFrom_indented_of_rebroken hcode hrest
  rw [importTargets, importTargets, liveDirectives_eq_liveFrom, liveDirectives_eq_liveFrom]
  exact congrArg (fun found =>
    (found.filter fun target => !isPlainImport target).eraseDups) htargets.symm

/-- A text with a carriage return in front of every line break. -/
def withReturns (source : List Char) : List Char :=
  source.flatMap fun c => if c = '\n' then ['\r', '\n'] else [c]

/-- `Rebroken source (withReturns source)`. -/
theorem rebroken_withReturns (source : List Char) : Rebroken source (withReturns source) := by
  induction source with
  | nil => exact .nil
  | cons c source ih =>
    rw [withReturns, List.flatMap_cons]
    split
    · next hc =>
      rw [hc]
      exact .add ih
    · exact .keep c ih

/-- `imports dialect (withReturns source) = imports dialect source` for a stylesheet without
backslashes: its lines may end with `'\n'` alone or with `'\r'` and `'\n'`. -/
theorem imports_withReturns {source : List Char} (hescape : '\\' ∉ source) (dialect : Dialect) :
    imports dialect (withReturns source) = imports dialect source := by
  rw [imports, imports, importTargets_of_rebroken (rebroken_withReturns source) hescape]

/-- A comment over two lines, an apostrophe that nothing closes and a list over two lines. -/
theorem imports_withReturns_unclosed :
    '\\' ∉ "/* a\n*/ @use \"b\"; c: 'd // e\n@import \"f\",\n  \"g\"; // h".toList ∧
      imports .block
        (withReturns "/* a\n*/ @use \"b\"; c: 'd // e\n@import \"f\",\n  \"g\"; // h".toList) =
        ["b", "f", "g"] := by
  have hescape :
      '\\' ∉ "/* a\n*/ @use \"b\"; c: 'd // e\n@import \"f\",\n  \"g\"; // h".toList := by decide
  refine ⟨hescape, ?_⟩
  rw [imports_withReturns hescape .block]
  decide +kernel

-- a backslash at the end of a line takes the line break along, but not behind a carriage return
example : imports .block "'\\\n@import \"a\";".toList = [] ∧
    imports .block (withReturns "'\\\n@import \"a\";".toList) = ["a"] := by decide +kernel

end Restyle.Stylesheet
