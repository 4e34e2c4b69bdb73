import Mathlib
import Restyle.Proofs.CommentRemoval

/-! # Directives of a text in pieces
The directives of a stylesheet and the literals that hide some of them are found piece by piece: a
piece that stands on lines of its own, and ends there in a way that its dialect sees, names the same
targets wherever it stands. Main statement: `importTargets_intercalate`. -/

namespace Restyle.Stylesheet

/-! ## The word of a directive -/

/-- A prefix `w` of `cs ++ c :: rest` that does not hold `c` is a prefix of `cs`. -/
theorem prefix_of_prefix_append_cons {w cs rest : List Char} {c : Char} (hc : c ∉ w)
    (h : w <+: cs ++ c :: rest) : w <+: cs := by
  induction w generalizing cs with
  | nil => exact List.nil_prefix
  | cons d w ih =>
    rw [List.mem_cons, not_or] at hc
    cases cs with
    | nil => exact absurd (List.cons_prefix_cons.mp h).1.symm hc.1
    | cons e cs =>
      obtain ⟨rfl, htail⟩ := List.cons_prefix_cons.mp h
      exact List.cons_prefix_cons.mpr ⟨rfl, ih hc.2 htail⟩

/-- `afterWord? w` goes through an appended `c :: rest`, if `c` is not in `w`. -/
theorem afterWord?_append {w : List Char} {c : Char} (hc : c ∉ w) (cs rest : List Char) :
    afterWord? w (cs ++ c :: rest) = (afterWord? w cs).map (· ++ c :: rest) := by
  unfold afterWord?
  by_cases hw : w <+: cs
  · rw [if_pos (List.isPrefixOf_iff_prefix.mpr (hw.trans (List.prefix_append cs _))),
      if_pos (List.isPrefixOf_iff_prefix.mpr hw), List.drop_append_of_le_length hw.length_le,
      Option.map_some]
  · rw [if_neg fun h => hw (prefix_of_prefix_append_cons hc (List.isPrefixOf_iff_prefix.mp h)),
      if_neg fun h => hw (List.isPrefixOf_iff_prefix.mp h), Option.map_none]

/-- `directiveWord?` goes through an appended `c :: rest`, if `c` is in no word of a directive. -/
theorem directiveWord?_append {c : Char} (hc : ∀ kind : DirectiveKind, c ∉ kind.word)
    (cs rest : List Char) :
    directiveWord? (cs ++ c :: rest) =
      (directiveWord? cs).map fun found => (found.1, found.2 ++ c :: rest) := by
  simp only [directiveWord?, List.findSome?_cons, List.findSome?_nil, afterWord?_append (hc _),
    Option.map_map]
  cases afterWord? DirectiveKind.imports.word cs <;> cases afterWord? DirectiveKind.uses.word cs <;>
    cases afterWord? DirectiveKind.forwards.word cs <;> rfl

/-- `directiveWord? (kind.word ++ rest) = some (kind, rest)`. -/
theorem directiveWord?_word (kind : DirectiveKind) (rest : List Char) :
    directiveWord? (kind.word ++ rest) = some (kind, rest) := by
  cases kind <;> rfl

/-- What `directiveWord?` reads is `kind.word ++ rest`. -/
theorem eq_of_directiveWord? {cs rest : List Char} {kind : DirectiveKind}
    (h : directiveWord? cs = some (kind, rest)) : cs = kind.word ++ rest := by
  simp only [directiveWord?, List.findSome?_eq_some_iff, Option.map_eq_some_iff, afterWord?] at h
  obtain ⟨_, _, _, _, ⟨tail, htail, heq⟩, _⟩ := h
  cases heq
  split at htail
  · next hword =>
    cases htail
    obtain ⟨rest, rfl⟩ := List.isPrefixOf_iff_prefix.mp hword
    rw [List.drop_left]
  · cases htail

/-! ## Opening a directive -/

section Runs

variable {α : Type} {p : α → Bool} {a : α}

/-- `dropWhile p` goes through an appended `a :: m` with `p a = false`. -/
theorem dropWhile_append_cons_of_neg (h : p a = false) (l m : List α) :
    (l ++ a :: m).dropWhile p = l.dropWhile p ++ a :: m := by
  induction l with
  | nil => rw [List.nil_append, List.dropWhile_cons_of_neg (by simp [h])]; rfl
  | cons b l ih =>
    rw [List.cons_append, List.dropWhile_cons, List.dropWhile_cons]
    split
    · exact ih
    · rfl

/-- `takeWhile p` of `l ++ a :: m` is that of `l`, if `p a = false`. -/
theorem takeWhile_append_cons_of_neg (h : p a = false) (l m : List α) :
    (l ++ a :: m).takeWhile p = l.takeWhile p := by
  induction l with
  | nil => rw [List.nil_append, List.takeWhile_cons_of_neg (by simp [h])]; rfl
  | cons b l ih =>
    rw [List.cons_append, List.takeWhile_cons, List.takeWhile_cons, ih]

end Runs

section Opening

variable {blank inArguments : Char → Bool} {cs rest : List Char} {kind : DirectiveKind}

/-- `openDirective?` goes through an appended `c :: rest`, if `c` stands in no word, is no blank and
no argument. -/
theorem openDirective?_append {c : Char} (hword : ∀ kind : DirectiveKind, c ∉ kind.word)
    (hblank : blank c = false) (harguments : inArguments c = false) (cs rest : List Char) :
    openDirective? blank inArguments (cs ++ c :: rest) =
      (openDirective? blank inArguments cs).map fun found => (found.1, found.2 ++ c :: rest) := by
  unfold openDirective?
  rw [directiveWord?_append hword]
  cases directiveWord? cs with
  | none => rfl
  | some found =>
    obtain ⟨kind, tail⟩ := found
    cases tail with
    | nil => simp [hblank]
    | cons d tail =>
      simp only [Option.map_some, List.cons_append, dropWhile_append_cons_of_neg hblank]
      cases tail.dropWhile blank with
      | nil => simp [harguments]
      | cons e arguments =>
        rw [List.cons_append, List.head?_cons, List.head?_cons]
        split <;> rfl

/-- `openDirective?` reads `kind.word`, a gap of blanks, and `arguments` that start with an
argument. -/
theorem openDirective?_word (kind : DirectiveKind) {gap arguments : List Char} (hgap : gap ≠ [])
    (hblank : ∀ c ∈ gap, blank c = true) {c : Char} (hhead : arguments.head? = some c)
    (hc : blank c = false) (harguments : inArguments c = true) :
    openDirective? blank inArguments (kind.word ++ (gap ++ arguments)) =
      some (kind, arguments) := by
  obtain ⟨b, gap, rfl⟩ := List.exists_cons_of_ne_nil hgap
  obtain ⟨arguments, rfl⟩ : ∃ tail, arguments = c :: tail := List.head?_eq_some_iff.mp hhead
  have hdrop : (gap ++ c :: arguments).dropWhile blank = c :: arguments := by
    rw [dropWhile_append_cons_of_neg hc,
      List.dropWhile_eq_nil_iff.mpr fun d hd => hblank d (List.mem_cons_of_mem b hd),
      List.nil_append]
  unfold openDirective?
  rw [directiveWord?_word]
  simp [hdrop, hblank b List.mem_cons_self, harguments]

/-- `openDirective? blank inArguments cs = some (kind, rest)` exactly if `cs` is
`kind.word ++ (gap ++ rest)`, with a gap of blanks, and `rest` starts with an argument. -/
theorem openDirective?_eq_some_iff : openDirective? blank inArguments cs = some (kind, rest) ↔
    ∃ gap, gap ≠ [] ∧ (∀ c ∈ gap, blank c = true) ∧ cs = kind.word ++ (gap ++ rest) ∧
      ∃ c ∈ rest.head?, blank c = false ∧ inArguments c = true := by
  constructor
  · intro h
    unfold openDirective? at h
    split at h
    · next kind' c tail hword =>
      simp only at h
      split at h
      · next hopen =>
        cases h
        rw [Bool.and_eq_true] at hopen
        obtain ⟨hc, harguments⟩ := hopen
        obtain ⟨d, hd, harguments⟩ := (Option.any_eq_true _ _).mp harguments
        -- the gap is the blank behind the word and all that follow it
        have hgap : ∀ b ∈ c :: tail.takeWhile blank, blank b = true := by
          intro b hb
          rcases List.mem_cons.mp hb with rfl | hb
          · exact hc
          · exact List.mem_takeWhile_imp hb
        refine ⟨c :: tail.takeWhile blank, List.cons_ne_nil _ _, hgap, ?_, d, hd, ?_, harguments⟩
        · rw [List.cons_append, List.takeWhile_append_dropWhile]
          exact eq_of_directiveWord? hword
        · have hhead := List.head?_dropWhile_not blank tail
          rw [hd] at hhead
          simpa using hhead
      · cases h
    · cases h
  · rintro ⟨gap, hgap, hblank, rfl, c, hc, hnot, harguments⟩
    exact openDirective?_word kind hgap hblank hc hnot harguments

/-- `openDirective?` leaves a suffix of what it reads. -/
theorem suffix_of_openDirective? (h : openDirective? blank inArguments cs = some (kind, rest)) :
    rest <:+ cs := by
  obtain ⟨gap, -, -, rfl, -⟩ := openDirective?_eq_some_iff.mp h
  rw [← List.append_assoc]
  exact List.suffix_append _ rest

end Opening

/-! ## The block dialect -/

section Block

variable {pos : Nat} {c : Char} {cs rest : List Char} {kind : DirectiveKind}

/-- No word of a directive holds `';'`. -/
theorem semicolon_not_mem_word (kind : DirectiveKind) : ';' ∉ kind.word := by
  cases kind <;> decide

/-- Where `@` opens a directive, its arguments go up to the end of the statement, and the scan goes
on from there. -/
theorem directivesFrom_of_some
    (h : openDirective? Text.isBlank inStatement cs = some (kind, rest)) :
    directivesFrom pos ('@' :: cs) =
      ⟨kind, pos, Text.trim (rest.takeWhile inStatement)⟩ ::
        directivesFrom (pos + 1 + (cs.length - (rest.dropWhile inStatement).length))
          (rest.dropWhile inStatement) := by
  rw [directivesFrom, if_pos rfl]
  split
  · next found =>
    rw [h] at found
    cases found
    rfl
  · next found =>
    rw [h] at found
    cases found

/-- Where `@` opens no directive, the scan goes on behind it. -/
theorem directivesFrom_of_none (h : openDirective? Text.isBlank inStatement cs = none) :
    directivesFrom pos ('@' :: cs) = directivesFrom (pos + 1) cs := by
  rw [directivesFrom, if_pos rfl]
  split
  · next found =>
    rw [h] at found
    cases found
  · rfl

/-- `directivesFrom pos (c :: cs) = directivesFrom (pos + 1) cs` for `c ≠ '@'`. -/
theorem directivesFrom_cons_of_ne (h : c ≠ '@') :
    directivesFrom pos (c :: cs) = directivesFrom (pos + 1) cs := by
  rw [directivesFrom, if_neg h]

/-- A text without `'@'` only moves the position: `directivesFrom (pos + cs.length) rest`. -/
theorem directivesFrom_append_of_not_mem (h : '@' ∉ cs) (pos : Nat) (rest : List Char) :
    directivesFrom pos (cs ++ rest) = directivesFrom (pos + cs.length) rest := by
  induction cs generalizing pos with
  | nil => rfl
  | cons c cs ih =>
    rw [List.mem_cons, not_or] at h
    rw [List.cons_append, directivesFrom_cons_of_ne (Ne.symm h.1), ih h.2, List.length_cons]
    congr 1
    omega

/-- `directivesFrom pos cs = []` for a text without `'@'`. -/
theorem directivesFrom_of_not_mem (h : '@' ∉ cs) (pos : Nat) : directivesFrom pos cs = [] := by
  rw [← List.append_nil cs, directivesFrom_append_of_not_mem h, directivesFrom]

/-- `directivesFrom` of `cs ++ ';' :: rest` are those of `cs`, and then those of `rest`. -/
theorem directivesFrom_append_semicolon (pos : Nat) (cs rest : List Char) :
    directivesFrom pos (cs ++ ';' :: rest) =
      directivesFrom pos cs ++ directivesFrom (pos + cs.length + 1) rest := by
  fun_induction directivesFrom pos cs with
  | case1 pos => exact directivesFrom_cons_of_ne (by decide)
  | case2 pos cs kind tail hopen behind ih =>
    -- no word of a directive holds a `;`, so what opens one is found before it
    have hlonger : openDirective? Text.isBlank inStatement (cs ++ ';' :: rest) =
        some (kind, tail ++ ';' :: rest) := by
      rw [openDirective?_append semicolon_not_mem_word (by decide) (by decide), hopen,
        Option.map_some]
    have hbehind : behind.length ≤ cs.length :=
      ((List.dropWhile_suffix inStatement).trans (suffix_of_openDirective? hopen)).length_le
    have hlength : (cs ++ ';' :: rest).length - (behind ++ ';' :: rest).length =
        cs.length - behind.length := by
      rw [List.length_append, List.length_append]
      omega
    have hpos : pos + 1 + (cs.length - behind.length) + behind.length + 1 =
        pos + ('@' :: cs).length + 1 := by
      rw [List.length_cons]
      omega
    rw [List.cons_append, directivesFrom_of_some hlonger, takeWhile_append_cons_of_neg (by decide),
      dropWhile_append_cons_of_neg (by decide), hlength, ih, hpos, List.cons_append]
  | case3 pos cs hopen ih =>
    have hlonger : openDirective? Text.isBlank inStatement (cs ++ ';' :: rest) = none := by
      rw [openDirective?_append semicolon_not_mem_word (by decide) (by decide), hopen,
        Option.map_none]
    rw [List.cons_append, directivesFrom_of_none hlonger, ih, List.length_cons]
    congr 2
    omega
  | case4 pos c cs hat ih =>
    rw [List.cons_append, directivesFrom_cons_of_ne hat, ih, List.length_cons]
    congr 2
    omega

/-- A directive stands where its `@` stands, and holds what follows there up to the end of the
statement. -/
theorem exists_of_mem_directivesFrom {d : Directive} (h : d ∈ directivesFrom pos cs) :
    ∃ before after rest, cs = before ++ '@' :: after ∧ d.position = pos + before.length ∧
      openDirective? Text.isBlank inStatement after = some (d.kind, rest) ∧
      d.arguments = Text.trim (rest.takeWhile inStatement) := by
  fun_induction directivesFrom pos cs with
  | case1 pos => cases h
  | case2 pos cs kind tail hopen behind ih =>
    rcases List.mem_cons.mp h with rfl | h
    · exact ⟨[], cs, tail, rfl, rfl, hopen, rfl⟩
    · -- a later directive lies in what the statement leaves
      have hsuffix : behind <:+ cs :=
        (List.dropWhile_suffix inStatement).trans (suffix_of_openDirective? hopen)
      obtain ⟨taken, htaken⟩ := hsuffix
      obtain ⟨before, after, rest, hbehind, hposition, hfound⟩ := ih h
      refine ⟨'@' :: (taken ++ before), after, rest, ?_, ?_, hfound⟩
      · rw [← htaken, hbehind, List.cons_append, List.append_assoc]
      · have hlength := congrArg List.length htaken
        rw [List.length_append] at hlength
        rw [hposition, List.length_cons, List.length_append]
        omega
  | case3 pos cs hopen ih =>
    obtain ⟨before, after, rest, rfl, hposition, hfound⟩ := ih h
    refine ⟨'@' :: before, after, rest, rfl, ?_, hfound⟩
    rw [hposition, List.length_cons]
    omega
  | case4 pos c cs hat ih =>
    obtain ⟨before, after, rest, rfl, hposition, hfound⟩ := ih h
    refine ⟨c :: before, after, rest, rfl, ?_, hfound⟩
    rw [hposition, List.length_cons]
    omega

/-- Every member of `directivesFrom pos cs` stands at an `'@'` of `cs`, counted from `pos`. -/
theorem mem_directivesFrom {d : Directive} (h : d ∈ directivesFrom pos cs) :
    ∃ before after, cs = before ++ '@' :: after ∧ d.position = pos + before.length := by
  obtain ⟨before, after, -, hcs, hposition, -, -⟩ := exists_of_mem_directivesFrom h
  exact ⟨before, after, hcs, hposition⟩

end Block

/-! ## The indented dialect -/

section Pieces

variable {α : Type} {p : α → Bool} {l piece : List α}

/-- Every piece of `l.splitOnPPrepend p acc` is an infix of `acc.reverse ++ l`. -/
theorem infix_of_mem_splitOnPPrepend {acc : List α} (h : piece ∈ l.splitOnPPrepend p acc) :
    piece <:+: acc.reverse ++ l := by
  induction l generalizing acc with
  | nil =>
    obtain rfl := List.mem_singleton.mp h
    rw [List.append_nil]
  | cons a l ih =>
    rw [List.splitOnPPrepend_cons_eq_if] at h
    split at h
    · rcases List.mem_cons.mp h with rfl | hlater
      · exact (List.prefix_append _ _).isInfix
      · have hrest : piece <:+: l := ih hlater
        exact hrest.trans ((List.suffix_cons a l).trans (List.suffix_append _ _)).isInfix
    · simpa using ih h

/-- Every piece of `l.splitOnP p` is an infix of `l`. -/
theorem infix_of_mem_splitOnP (h : piece ∈ l.splitOnP p) : piece <:+: l :=
  infix_of_mem_splitOnPPrepend h

end Pieces

/-- `lineDirectives pos` goes through `++`, from the position behind the lines in front. -/
theorem lineDirectives_append (pos : Nat) (lines more : List (List Char)) :
    lineDirectives pos (lines ++ more) =
      lineDirectives pos lines ++ lineDirectives (pos + (lines.map (·.length + 1)).sum) more := by
  induction lines generalizing pos with
  | nil => rfl
  | cons line lines ih =>
    rw [List.cons_append, lineDirectives, lineDirectives, ih, List.append_assoc, List.map_cons,
      List.sum_cons, ← Nat.add_assoc, ← Nat.add_assoc]

/-- The lines of a text, each with its line break, are one longer than the text, which has no line
break at its end. -/
theorem sum_length_splitOn (text : List Char) :
    ((text.splitOn '\n').map (·.length + 1)).sum = text.length + 1 := by
  induction text with
  | nil => rfl
  | cons c text ih =>
    rw [List.splitOn_cons_eq_if_modifyHead, List.length_cons]
    obtain ⟨line, lines, hsplit⟩ := List.exists_cons_of_ne_nil (List.splitOn_ne_nil '\n' text)
    rw [hsplit, List.map_cons, List.sum_cons] at ih
    split
    · rw [hsplit, List.map_cons, List.map_cons, List.sum_cons, List.sum_cons, ih, List.length_nil]
      omega
    · rw [hsplit, List.modifyHead_cons, List.map_cons, List.sum_cons, List.length_cons]
      omega

/-- `lineDirective? pos` reads over the indent, up to `'@'`, which is where the directive stands. -/
theorem lineDirective?_append {indent : List Char} (h : ∀ c ∈ indent, isIndent c = true) (pos : Nat)
    (cs : List Char) :
    lineDirective? pos (indent ++ '@' :: cs) =
      (openDirective? isIndent (fun _ => true) cs).map fun found =>
        ⟨found.1, pos + indent.length, Text.trim found.2⟩ := by
  rw [lineDirective?, List.dropWhile_append_of_pos h, List.takeWhile_append_of_pos h,
    List.dropWhile_cons_of_neg (by decide), List.takeWhile_cons_of_neg (by decide), List.append_nil]
  rfl

/-- `lineDirective? pos line = some d` exactly if `line` is an indent, `'@'`, `d.kind.word`, a gap
of blanks and the arguments, which are `d.arguments` when trimmed. -/
theorem lineDirective?_eq_some_iff {pos : Nat} {line : List Char} {d : Directive} :
    lineDirective? pos line = some d ↔ ∃ indent gap rest, (∀ c ∈ indent, isIndent c = true) ∧
      line = indent ++ '@' :: (d.kind.word ++ (gap ++ rest)) ∧ gap ≠ [] ∧
      (∀ c ∈ gap, isIndent c = true) ∧
      (∃ c ∈ rest.head?, isIndent c = false) ∧ d.position = pos + indent.length ∧
      d.arguments = Text.trim rest := by
  constructor
  · intro h
    unfold lineDirective? at h
    split at h
    · next cs hline =>
      obtain ⟨⟨kind, rest⟩, hopen, rfl⟩ := Option.map_eq_some_iff.mp h
      obtain ⟨gap, hgap, hblank, rfl, c, hc, hnot, -⟩ := openDirective?_eq_some_iff.mp hopen
      refine ⟨line.takeWhile isIndent, gap, rest, fun c hc => List.mem_takeWhile_imp hc,
        ?_, hgap, hblank, ⟨c, hc, hnot⟩, rfl, rfl⟩
      rw [← hline, List.takeWhile_append_dropWhile]
    · cases h
  · rintro ⟨indent, gap, rest, hindent, rfl, hgap, hblank, ⟨c, hc, hnot⟩, hposition, harguments⟩
    have hopen : openDirective? isIndent (fun _ => true) (d.kind.word ++ (gap ++ rest)) =
        some (d.kind, rest) :=
      openDirective?_word d.kind hgap hblank hc hnot rfl
    rw [lineDirective?_append hindent, hopen, Option.map_some, ← hposition, ← harguments]

/-- `pos ≤ d.position < pos + line.length`: a directive stands on its line. -/
theorem bounds_of_lineDirective? {pos : Nat} {line : List Char} {d : Directive}
    (h : lineDirective? pos line = some d) : pos ≤ d.position ∧ d.position < pos + line.length := by
  obtain ⟨indent, gap, rest, -, rfl, -, -, -, hposition, -⟩ := lineDirective?_eq_some_iff.mp h
  rw [hposition, List.length_append, List.length_cons]
  omega

/-- Every member of `lineDirectives pos lines` is `lineDirective?` of one of the lines, from the
position where that line starts. -/
theorem exists_line_of_mem_lineDirectives {pos : Nat} {lines : List (List Char)} {d : Directive}
    (h : d ∈ lineDirectives pos lines) :
    ∃ front line later, lines = front ++ line :: later ∧
      lineDirective? (pos + (front.map (·.length + 1)).sum) line = some d := by
  induction lines generalizing pos with
  | nil => cases h
  | cons line lines ih =>
    rw [lineDirectives, List.mem_append, Option.mem_toList] at h
    rcases h with hline | hlines
    · exact ⟨[], line, lines, rfl, hline⟩
    · obtain ⟨front, other, later, rfl, hfound⟩ := ih hlines
      refine ⟨line :: front, other, later, rfl, ?_⟩
      rwa [List.map_cons, List.sum_cons, ← Nat.add_assoc, ← Nat.add_assoc]

/-- Every member of `lineDirectives pos lines` stands on the lines, whose first position is
`pos`. -/
theorem bounds_of_mem_lineDirectives {pos : Nat} {lines : List (List Char)} {d : Directive}
    (h : d ∈ lineDirectives pos lines) :
    pos ≤ d.position ∧ d.position + 1 < pos + (lines.map (·.length + 1)).sum := by
  obtain ⟨front, line, later, rfl, hfound⟩ := exists_line_of_mem_lineDirectives h
  have hbounds := bounds_of_lineDirective? hfound
  rw [List.map_append, List.sum_append, List.map_cons, List.sum_cons]
  omega

/-- `lineDirective? pos line = none` for a line without `'@'`. -/
theorem lineDirective?_of_not_mem {line : List Char} (h : '@' ∉ line) (pos : Nat) :
    lineDirective? pos line = none := by
  rw [Option.eq_none_iff_forall_not_mem]
  intro d hd
  obtain ⟨indent, gap, rest, -, rfl, -⟩ := lineDirective?_eq_some_iff.mp hd
  exact h (by simp)

/-- The characters of a line are characters of the text. -/
theorem mem_of_mem_splitOn {c : Char} {text line : List Char} (hline : line ∈ text.splitOn '\n')
    (hc : c ∈ line) : c ∈ text :=
  (infix_of_mem_splitOnP hline).subset hc

/-- `lineDirectives pos lines = []` for lines without `'@'`. -/
theorem lineDirectives_of_not_mem {lines : List (List Char)}
    (h : ∀ line ∈ lines, '@' ∉ line) (pos : Nat) :
    lineDirectives pos lines = [] := by
  induction lines generalizing pos with
  | nil => rfl
  | cons line lines ih =>
    rw [lineDirectives, lineDirective?_of_not_mem (h line List.mem_cons_self),
      ih fun other hother => h other (List.mem_cons_of_mem line hother)]
    rfl

/-! ## Both dialects -/

/-- The directives of a text that starts at a position. -/
def directivesAt : Dialect → Nat → List Char → List Directive
  | .block, pos, text => directivesFrom pos text
  | .indented, pos, text => lineDirectives pos (text.splitOn '\n')

/-- `pos ≤ d.position < pos + text.length` for every member of `directivesAt dialect pos text`. -/
theorem bounds_of_mem_directivesAt {dialect : Dialect} {pos : Nat} {text : List Char}
    {d : Directive} (h : d ∈ directivesAt dialect pos text) :
    pos ≤ d.position ∧ d.position < pos + text.length := by
  cases dialect with
  | block =>
    obtain ⟨before, after, rfl, hposition⟩ := mem_directivesFrom h
    rw [hposition, List.length_append, List.length_cons]
    omega
  | indented =>
    have hbounds := bounds_of_mem_lineDirectives h
    rw [sum_length_splitOn] at hbounds
    omega

/-- `directivesAt dialect pos text = []` for a text without `'@'`. -/
theorem directivesAt_of_not_mem {text : List Char} (h : '@' ∉ text)
    (dialect : Dialect) (pos : Nat) :
    directivesAt dialect pos text = [] := by
  cases dialect with
  | block => exact directivesFrom_of_not_mem h pos
  | indented =>
    exact lineDirectives_of_not_mem (fun line hline hat => h (mem_of_mem_splitOn hline hat)) pos

/-- Whether the directives of a piece end with its last line. -/
def Parted (dialect : Dialect) (piece : List Char) : Prop :=
  ∀ pos rest, directivesAt dialect pos (piece ++ '\n' :: rest) =
    directivesAt dialect pos piece ++ directivesAt dialect (pos + piece.length + 1) rest

/-- `Parted .indented piece`: in the indented dialect every directive ends with its line. -/
theorem parted_indented (piece : List Char) : Parted .indented piece := by
  intro pos rest
  simp only [directivesAt, List.splitOn_append_cons_self, lineDirectives_append, sum_length_splitOn,
    Nat.add_assoc]

/-- `Parted dialect piece` for a piece without `'@'`. -/
theorem parted_of_not_mem {piece : List Char} (h : '@' ∉ piece) (dialect : Dialect) :
    Parted dialect piece := by
  cases dialect with
  | indented => exact parted_indented piece
  | block =>
    intro pos rest
    rw [directivesAt, directivesAt, directivesAt, directivesFrom_append_of_not_mem h,
      directivesFrom_of_not_mem h, directivesFrom_cons_of_ne (by decide), List.nil_append]

/-- In the block dialect a piece ends the directives of its lines when no `@` follows its last
semicolon. -/
theorem parted_block_append {after : List Char} (h : '@' ∉ after) (before : List Char) :
    Parted .block (before ++ ';' :: after) := by
  intro pos rest
  have hafter : directivesFrom (pos + before.length + 1) (after ++ '\n' :: rest) =
      directivesFrom (pos + before.length + 1) after ++
        directivesFrom (pos + before.length + 1 + after.length + 1) rest :=
    parted_of_not_mem h .block _ rest
  have hlength : pos + before.length + 1 + after.length + 1 =
      pos + (before ++ ';' :: after).length + 1 := by
    rw [List.length_append, List.length_cons]
    omega
  rw [directivesAt, directivesAt, directivesAt, List.append_assoc, List.cons_append,
    directivesFrom_append_semicolon, directivesFrom_append_semicolon, hafter, hlength,
    List.append_assoc]

/-! ## Live directives -/

/-- The directives of a text that starts at a position, without those inside its literals. -/
def liveFrom (dialect : Dialect) (pos : Nat) (text : List Char) : List Directive :=
  (directivesAt dialect pos text).filter fun d =>
    !(spansFrom pos text).any fun s => decide (s.Covers d.position)

/-- `liveDirectives` are `liveFrom` the position `0`. -/
theorem liveDirectives_eq_liveFrom (dialect : Dialect) (text : List Char) :
    liveDirectives dialect text = liveFrom dialect 0 text := by
  simp only [liveDirectives, liveFrom, literalSpans, insideLiteral_toArray_spansFrom]
  cases dialect <;> rfl

/-- `liveFrom` of `piece ++ '\n' :: rest` are those of `piece` and those of `rest`, if the piece is
code and `Parted`. -/
theorem liveFrom_append_break {dialect : Dialect} {piece : List Char} (hcode : IsCode piece)
    (hparted : Parted dialect piece) (pos : Nat) (rest : List Char) :
    liveFrom dialect pos (piece ++ '\n' :: rest) =
      liveFrom dialect pos piece ++ liveFrom dialect (pos + piece.length + 1) rest := by
  have hspans : spansFrom pos (piece ++ '\n' :: rest) =
      spansFrom pos piece ++ spansFrom (pos + piece.length + 1) rest := by
    rw [hcode.spansFrom_append, spansFrom_cons_of_not_quote rfl]
  simp only [liveFrom, hparted pos rest, hspans, List.filter_append, List.any_append, Bool.not_or]
  congr 1
  · -- the literals behind the piece start behind its directives
    refine List.filter_congr fun d hd => ?_
    have hbounds := bounds_of_mem_directivesAt hd
    have hlater : ((spansFrom (pos + piece.length + 1) rest).any fun s =>
        decide (s.Covers d.position)) = false :=
      any_covers_of_le (by omega) rest
    rw [hlater, Bool.not_false, Bool.and_true]
  · -- the literals of the piece end before the directives behind it
    refine List.filter_congr fun d hd => ?_
    have hbounds := bounds_of_mem_directivesAt hd
    have hearlier : ((spansFrom pos piece).any fun s => decide (s.Covers d.position)) = false := by
      rw [List.any_eq_false]
      intro s hs hcovers
      have hstop := (bounds_of_mem_spansFrom hs).2.2
      have hcovers : s.Covers d.position := of_decide_eq_true hcovers
      have hbefore := hcovers.2
      omega
    rw [hearlier, Bool.not_false, Bool.true_and]

/-- `liveFrom` keeps the only directive of a text with no quotes in front of it. -/
theorem liveFrom_of_directive {dialect : Dialect} {pos : Nat} {before rest : List Char}
    {d : Directive} (hbefore : ∀ c ∈ before, Text.isQuote c = false)
    (hposition : d.position = pos + before.length)
    (h : directivesAt dialect pos (before ++ '@' :: rest) = [d]) :
    liveFrom dialect pos (before ++ '@' :: rest) = [d] := by
  have hopen :
      ((spansFrom pos (before ++ '@' :: rest)).any fun s =>
        decide (s.Covers d.position)) = false := by
    rw [spansFrom_append_of_not_quote hbefore, spansFrom_cons_of_not_quote rfl]
    exact any_covers_of_le (by omega) rest
  rw [liveFrom, h, List.filter_cons_of_pos (by rw [hopen]; rfl), List.filter_nil]

/-! ## Targets of pieces -/

/-- The targets of the live directives of a text that starts at a position. -/
def targetsFrom (dialect : Dialect) (pos : Nat) (text : List Char) : List (List Char) :=
  (liveFrom dialect pos text).flatMap Directive.targets

/-- Whether a piece of a stylesheet names exactly these targets wherever it stands on lines of its
own. -/
def Names (dialect : Dialect) (source : List Char) (targets : List (List Char)) : Prop :=
  ∃ left, Leaves source left ∧ IsCode left ∧ Parted dialect left ∧
    ∀ pos, targetsFrom dialect pos left = targets

/-- A piece that leaves no `@` names no target. -/
theorem names_of_not_mem {source left : List Char} (hleaves : Leaves source left)
    (hcode : IsCode left) (h : '@' ∉ left) (dialect : Dialect) : Names dialect source [] := by
  refine ⟨left, hleaves, hcode, parted_of_not_mem h dialect, fun pos => ?_⟩
  rw [targetsFrom, liveFrom, directivesAt_of_not_mem h]
  rfl

/-- `targetsFrom` of pieces joined by line breaks are the targets of the pieces, in that order. -/
theorem targetsFrom_intercalate {α : Type} {dialect : Dialect} {items : List α}
    {left : α → List Char} {targets : α → List (List Char)}
    (h : ∀ a ∈ items, IsCode (left a) ∧ Parted dialect (left a) ∧
      ∀ pos, targetsFrom dialect pos (left a) = targets a) (pos : Nat) :
    targetsFrom dialect pos (['\n'].intercalate (items.map left)) = items.flatMap targets := by
  induction items generalizing pos with
  | nil =>
    cases dialect with
    | block =>
      rw [targetsFrom, liveFrom, directivesAt, List.map_nil, List.intercalate_nil,
        directivesFrom_of_not_mem List.not_mem_nil]
      rfl
    | indented => rfl
  | cons a items ih =>
    obtain ⟨hcode, hparted, htargets⟩ := h a List.mem_cons_self
    have hrest := ih fun b hb => h b (List.mem_cons_of_mem a hb)
    cases items with
    | nil => simpa using htargets pos
    | cons b items =>
      rw [intercalate_map_cons_cons, targetsFrom, liveFrom_append_break hcode hparted,
        List.flatMap_append, List.flatMap_cons]
      exact congrArg₂ (· ++ ·) (htargets pos) (hrest _)

/-- `importTargets` of pieces joined by line breaks, each with `Names`, are the targets of the
pieces that are no plain imports, each at its first occurrence. -/
theorem importTargets_intercalate {α : Type} {dialect : Dialect} {items : List α}
    {source : α → List Char} {targets : α → List (List Char)}
    (h : ∀ a ∈ items, Names dialect (source a) (targets a)) :
    importTargets dialect (['\n'].intercalate (items.map source)) =
      ((items.flatMap targets).filter fun target => !isPlainImport target).eraseDups := by
  choose! left hleaves hleft using h
  rw [importTargets, stripComments_intercalate hleaves, liveDirectives_eq_liveFrom]
  exact congrArg (fun found => (found.filter fun target => !isPlainImport target).eraseDups)
    (targetsFrom_intercalate hleft 0)

end Restyle.Stylesheet
