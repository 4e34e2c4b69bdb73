import Mathlib
import Restyle.Proofs.SourcePieces

/-! # Plain imports
The import of an address, of a `.css` file or of a built-in module names no target, whatever its
literal holds, as long as the directive ends behind the literal. In the block dialect it ends at the
first `;`, `{` or `}`, and one inside the literal counts as well: what stands in front of it, with
the opening quote, may then be taken for a bare target. Main statement: a plain import names a
target exactly if that happens (`imports_quotedDirective_eq_nil_iff`). -/

namespace Restyle.Stylesheet

variable {target : List Char} {dialect : Dialect} {kind : DirectiveKind}

/-! ## Directives for one target -/

/-- A target without quotes, backslashes and line breaks. -/
def IsUnescaped (target : List Char) : Prop :=
  ∀ c ∈ target, Text.isQuote c = false ∧ c ≠ '\\' ∧ c ≠ '\n'

/-- What ends a directive behind its arguments. -/
def Dialect.terminator : Dialect → List Char
  | .block => [';']
  | .indented => []

/-- A directive for one target between double quotes, as it is written. -/
def quotedDirective (dialect : Dialect) (kind : DirectiveKind) (target : List Char) : List Char :=
  '@' :: (kind.word ++ ' ' :: '"' :: (target ++ '"' :: dialect.terminator))

/-- A target between double quotes. -/
def IsUnescaped.quoted (h : IsUnescaped target) : QuotedTarget where
  quote := '"'
  text := target
  isQuote_quote := rfl
  closed c hc := ⟨(Text.ne_of_isQuote rfl (h c hc).1).symm, (h c hc).2⟩

/-- A quoted target is the body of a directive of every kind. -/
theorem exists_directiveBody (t : QuotedTarget) (kind : DirectiveKind) :
    ∃ b : DirectiveBody, b.kind = kind ∧ b.source = (Argument.quoted t).source ∧
    b.targets = [t.text] := by
  have hplain : IsPlain [] := isPlain_of_forall (by simp)
  cases kind with
  | imports => exact ⟨.imports ⟨.quoted t, []⟩, rfl, List.append_nil _, rfl⟩
  | uses =>
    exact ⟨.loads .uses (.quoted t) [] (by simp) hplain trivial, rfl, List.append_nil _, rfl⟩
  | forwards =>
    exact ⟨.loads .forwards (.quoted t) [] (by simp) hplain trivial, rfl, List.append_nil _, rfl⟩

/-- `quotedDirective dialect kind target` is the text of a directive whose only target is `target`,
with the terminator of the dialect. -/
theorem IsUnescaped.exists_text_eq (h : IsUnescaped target) (dialect : Dialect)
    (kind : DirectiveKind) :
    ∃ b : DirectiveBody, b.targets = [target] ∧ b.source = '"' :: (target ++ ['"']) ∧
      quotedDirective dialect kind target = b.text [' '] [] ++ dialect.terminator := by
  obtain ⟨b, rfl, hsource, htargets⟩ := exists_directiveBody h.quoted kind
  refine ⟨b, htargets, hsource, ?_⟩
  rw [DirectiveBody.text, hsource, quotedDirective]
  simp [Argument.source, IsUnescaped.quoted]

/-- `quotedDirective` is code for a target without quotes, backslashes and line breaks. -/
theorem IsUnescaped.isCode (h : IsUnescaped target) (dialect : Dialect) (kind : DirectiveKind) :
    IsCode (quotedDirective dialect kind target) := by
  obtain ⟨b, -, -, heq⟩ := h.exists_text_eq dialect kind
  have htext : IsCode (b.text [' '] []) := b.isCode_text (by simp [Text.isBlank]) (by simp)
  rw [heq]
  cases dialect with
  | block => exact htext.append_cons_blank rfl (by decide) (by simp)
  | indented => exact htext.append_of_stopsSlash .nil stopsSlash_nil

/-- `Names` of a `quotedDirective` are `[target]`, if no character of it ends a statement. -/
theorem IsUnescaped.names (h : IsUnescaped target) (kind : DirectiveKind)
    (hwithin : dialect = .block → ∀ c ∈ target, inStatement c = true) :
    Names dialect (quotedDirective dialect kind target) [target] := by
  obtain ⟨b, htargets, hsource, heq⟩ := h.exists_text_eq dialect kind
  rw [heq, ← htargets]
  have hspace : ∀ {p : Char → Bool}, p ' ' = true → ∀ c ∈ [' '], p c = true := by simp
  -- a block ends at `;`, `{` or `}`, an indented directive at the line break
  cases dialect with
  | block =>
    have hbody : ∀ c ∈ b.source, inStatement c = true := by
      intro c hc
      rw [hsource] at hc
      rcases List.mem_cons.mp hc with rfl | hc
      · rfl
      · rcases List.mem_append.mp hc with hc | hc
        · exact hwithin rfl c hc
        · obtain rfl := List.mem_singleton.mp hc
          rfl
    exact BlockDirective.names ⟨⟨[], by simp⟩, ⟨⟨[' '], hspace rfl⟩, by simp⟩, b, hbody,
      ⟨[], by simp⟩, ⟨[], by simp⟩⟩
  | indented =>
    have hunbroken : '\n' ∉ b.source ++ [] := by
      intro hmem
      have hbreak : '\n' ∉ target := fun hmem => (h _ hmem).2.2 rfl
      rw [List.append_nil, hsource] at hmem
      simp [hbreak] at hmem
    have hnames := LineDirective.names ⟨⟨[], by simp⟩, ⟨⟨[' '], hspace rfl⟩, by simp⟩, b,
      ⟨[], by simp⟩, hunbroken⟩
    simpa [LineDirective.source, Dialect.terminator] using hnames

/-! ## Targets that are cut -/

/-- What a directive of the block dialect holds of its target: the part in front of the first
character that ends statements. -/
def keptPart (target : List Char) : List Char := Text.trimEnd (target.takeWhile inStatement)

/-- The first word of the part that is kept, with the quote that stands in front of it. -/
def firstKeptWord (target : List Char) : List Char :=
  '"' :: (keptPart target).takeWhile (!Text.isBlank ·)

/-- Whether a directive of the block dialect is cut within its target, and names what is left of
it. -/
structure IsCutShort (kind : DirectiveKind) (target : List Char) : Prop where
  /-- The target holds a character that ends statements. -/
  exists_mem : ∃ c ∈ target, inStatement c = false
  /-- A second word would make an `@import` a plain one. -/
  isWord : kind = .imports → ∀ c ∈ keptPart target, Text.isBlank c = false
  /-- What is left does not look like a `.css` file. -/
  not_css : ¬ ".css".toList <:+ firstKeptWord target

/-- Within an open literal `splitArgumentsFrom` finds one argument, trimmed. -/
theorem splitArgumentsFrom_open {quote : Char} {text : List Char} (h : quote ∉ text)
    (current : List Char) :
    splitArgumentsFrom ⟨0, some quote⟩ current text =
      [Text.trim (text.reverse ++ current).reverse] := by
  induction text generalizing current with
  | nil => rfl
  | cons c text ih =>
    rw [List.mem_cons, not_or] at h
    have hnext : (⟨0, some quote⟩ : Nesting).next c = ⟨0, some quote⟩ := if_neg (Ne.symm h.1)
    rw [splitArgumentsFrom, if_neg (by simp [Nesting.isTop]), hnext, ih h.2, List.reverse_cons,
      List.append_assoc]
    rfl

/-- `leadingLiteral? (quote :: text) = none` for a literal that nothing closes. -/
theorem leadingLiteral?_open {quote : Char} {text : List Char} (h : quote ∉ text) :
    leadingLiteral? (quote :: text) = none := by
  rw [Option.eq_none_iff_forall_ne_some]
  rintro ⟨inside, rest⟩ hsome
  obtain ⟨quote', -, heq, -⟩ := leadingLiteral?_eq_some_iff.mp hsome
  obtain ⟨rfl, rfl⟩ := List.cons.inj heq
  simp at h

/-- `Text.words ('"' :: text)`: the quote belongs to the first word. -/
theorem words_open (text : List Char) :
    Text.words ('"' :: text) =
      ('"' :: text.takeWhile (!Text.isBlank ·)) ::
        Text.words (text.dropWhile (!Text.isBlank ·)) := by
  have hword : ∀ c ∈ '"' :: text.takeWhile (!Text.isBlank ·), Text.isBlank c = false := by
    intro c hc
    rcases List.mem_cons.mp hc with rfl | hc
    · rfl
    · simpa using List.mem_takeWhile_imp hc
  have hrest : ∀ c ∈ (text.dropWhile (!Text.isBlank ·)).head?, Text.isBlank c = true := by
    intro c hc
    have hhead := List.head?_dropWhile_not (!Text.isBlank ·) text
    rw [Option.mem_def.mp hc] at hhead
    simpa using hhead
  have hwords := Text.words_append_of_isBlank (List.cons_ne_nil _ _) hword hrest
  rwa [List.cons_append, List.takeWhile_append_dropWhile] at hwords

/-- `isPlainImport ('"' :: text)` is whether the text ends with `.css`: no other test fits behind a
quote. -/
theorem isPlainImport_open (text : List Char) :
    isPlainImport ('"' :: text) = ".css".toList.isSuffixOf ('"' :: text) := by
  simp [isPlainImport, hasScheme, List.isPrefixOf]

/-- Behind the first word of a text that ends with no blank there is no other one exactly if the
text has no blank. -/
theorem words_dropWhile_eq_nil_iff {text : List Char}
    (hlast : ∀ c ∈ text.getLast?, Text.isBlank c = false) :
    Text.words (text.dropWhile (!Text.isBlank ·)) = [] ↔ ∀ c ∈ text, Text.isBlank c = false := by
  constructor
  · intro hwords
    by_contra hblank
    have hne : text.dropWhile (!Text.isBlank ·) ≠ [] := by
      intro hnil
      apply hblank
      intro c hc
      simpa using List.dropWhile_eq_nil_iff.mp hnil c hc
    -- the last character of the text is the last one of what would have to be blank
    have hsame : text.getLast? = some ((text.dropWhile (!Text.isBlank ·)).getLast hne) := by
      rw [← List.getLast?_eq_some_getLast, ← List.getLast?_append_of_ne_nil _ hne,
        List.takeWhile_append_dropWhile]
    have hend := Text.words_eq_nil_iff.mp hwords _ (List.getLast_mem hne)
    rw [hlast _ hsame] at hend
    cases hend
  · intro hword
    rw [List.dropWhile_eq_nil_iff.mpr fun c hc => by simp [hword c hc]]
    rfl

/-- `targetOf? alone ('"' :: text)` is the first word with its quote, unless it has to stand alone
and does not. -/
theorem targetOf?_open {text : List Char} (hquote : '"' ∉ text) (alone : Bool) :
    targetOf? alone ('"' :: text) =
      if alone = true ∧ Text.words (text.dropWhile (!Text.isBlank ·)) ≠ [] then none
      else some ('"' :: text.takeWhile (!Text.isBlank ·)) := by
  have haddress : isAddress ('"' :: text) = false := by simp [isAddress, List.isPrefixOf]
  rw [targetOf?, if_neg (by simp [haddress]), leadingLiteral?_open hquote, words_open]
  cases Text.words (text.dropWhile (!Text.isBlank ·)) with
  | nil => simp
  | cons word words => simp

/-- `Directive.targets` of arguments that end within a literal are its first word with the quote, or
none for an `.imports` with more words. -/
theorem targets_open {text : List Char} (hquote : '"' ∉ text) (htrim : Text.IsTrimmed ('"' :: text))
    (position : Nat) :
    Directive.targets ⟨kind, position, '"' :: text⟩ =
      if kind = .imports ∧ Text.words (text.dropWhile (!Text.isBlank ·)) ≠ [] then []
      else ['"' :: text.takeWhile (!Text.isBlank ·)] := by
  have hsplit : splitArguments ('"' :: text) = ['"' :: text] := by
    have hopen : ({} : Nesting).next '"' = ⟨0, some '"'⟩ := rfl
    rw [splitArguments, splitArgumentsFrom, if_neg (by decide), hopen,
      splitArgumentsFrom_open hquote]
    simp [Text.trim_of_isTrimmed htrim]
  cases kind with
  | imports =>
    rw [Directive.targets, hsplit, List.filterMap_cons, targetOf?_open hquote]
    by_cases hwords : Text.words (text.dropWhile (!Text.isBlank ·)) = [] <;> simp [hwords]
  | uses => simp [Directive.targets, targetOf?_open hquote]
  | forwards => simp [Directive.targets, targetOf?_open hquote]

/-! ## The scan of a directive that is cut -/

/-- What stands in front of the literal. -/
def quotedFront (kind : DirectiveKind) : List Char := '@' :: (kind.word ++ [' '])

/-- `quotedFront kind` holds no quote. -/
theorem not_quote_quotedFront (kind : DirectiveKind) :
    ∀ c ∈ quotedFront kind, Text.isQuote c = false := by
  have hall : (quotedFront kind).all (fun c => !Text.isQuote c) = true := by cases kind <;> rfl
  simpa using hall

/-- `quotedDirective .block kind target` is `quotedFront kind`, the literal and a semicolon. -/
theorem quotedDirective_eq (kind : DirectiveKind) (target : List Char) :
    quotedDirective .block kind target = quotedFront kind ++ '"' :: (target ++ '"' :: [';']) := by
  simp [quotedDirective, quotedFront, Dialect.terminator]

/-- The literal of a `quotedDirective` is its only span. -/
theorem IsUnescaped.spansFrom_quotedDirective (h : IsUnescaped target) (kind : DirectiveKind) :
    spansFrom 0 (quotedDirective .block kind target) =
      [⟨(quotedFront kind).length, (quotedFront kind).length + target.length + 2⟩] := by
  have hbody : LiteralBody '"' target :=
    .of_forall fun c hc => ⟨(Text.ne_of_isQuote rfl (h c hc).1).symm, (h c hc).2⟩
  rw [quotedDirective_eq, spansFrom_append_of_not_quote (not_quote_quotedFront kind),
    spansFrom_literal hbody rfl, spansFrom_cons_of_not_quote rfl, spansFrom, Nat.zero_add]

/-- A list with a member that fails `p` goes on with one behind `l.takeWhile p`. -/
theorem exists_eq_takeWhile_append_cons {α : Type} {p : α → Bool} {l : List α}
    (h : ∃ a ∈ l, p a = false) :
    ∃ a rest, l = l.takeWhile p ++ a :: rest ∧ p a = false := by
  have hne : l.dropWhile p ≠ [] := by
    obtain ⟨a, ha, hfails⟩ := h
    intro hnil
    rw [List.dropWhile_eq_nil_iff.mp hnil a ha] at hfails
    cases hfails
  obtain ⟨a, rest, hrest⟩ := List.exists_cons_of_ne_nil hne
  refine ⟨a, rest, ?_, ?_⟩
  · rw [← hrest, List.takeWhile_append_dropWhile]
  · simpa [hrest] using List.head?_dropWhile_not p l

/-- `directivesFrom 0` of a `quotedDirective` starts with the directive, cut where `inStatement`
ends; all others stand within its literal. -/
theorem directivesFrom_quotedDirective (kind : DirectiveKind)
    (hcut : ∃ c ∈ target, inStatement c = false) :
    ∃ others, directivesFrom 0 (quotedDirective .block kind target) =
        ⟨kind, 0, Text.trim ('"' :: target.takeWhile inStatement)⟩ :: others ∧
      ∀ d ∈ others,
        Span.Covers ⟨(quotedFront kind).length, (quotedFront kind).length + target.length + 2⟩
          d.position := by
  obtain ⟨c, rest, htarget, hc⟩ := exists_eq_takeWhile_append_cons hcut
  set front := target.takeWhile inStatement
  -- the statement ends at the first character that ends one, inside the quotes
  have hstatement : ∀ d ∈ '"' :: front, inStatement d = true := by
    intro d hd
    rcases List.mem_cons.mp hd with rfl | hd
    · rfl
    · exact List.mem_takeWhile_imp hd
  have hsource : quotedDirective .block kind target =
      '@' :: (kind.word ++ ([' '] ++ (('"' :: front) ++ c :: (rest ++ ['"', ';'])))) := by
    rw [htarget]
    simp [quotedDirective, Dialect.terminator]
  have hopen : openDirective? Text.isBlank inStatement
      (kind.word ++ ([' '] ++ (('"' :: front) ++ c :: (rest ++ ['"', ';'])))) =
        some (kind, ('"' :: front) ++ c :: (rest ++ ['"', ';'])) :=
    openDirective?_word kind (by simp) (by simp [Text.isBlank]) rfl rfl rfl
  rw [hsource, directivesFrom_of_some hopen, takeWhile_append_cons_of_neg hc,
    dropWhile_append_cons_of_neg hc, List.takeWhile_eq_self_iff.mpr hstatement,
    List.dropWhile_eq_nil_iff.mpr hstatement, List.nil_append]
  refine ⟨_, rfl, ?_⟩
  intro d hd
  -- any later directive begins within the quotes, as neither `"` nor `;` is an `@`
  obtain ⟨before, after, heq, hposition⟩ := mem_directivesFrom hd
  have hbefore : before.length < (c :: rest).length := by
    have hend : '@' ∉ ['"', ';'] := by decide
    have hparts : [] ++ ((c :: rest) ++ ['"', ';']) = before ++ '@' :: after := heq
    simpa using (bounds_of_append_eq List.not_mem_nil hend hparts).2
  have hlength := congrArg List.length htarget
  simp only [List.length_append, List.length_cons, List.length_nil] at hbefore hlength hposition
  constructor
  · simp only [quotedFront, List.length_append, List.length_cons, List.length_nil]
    omega
  · simp only [quotedFront, List.length_append, List.length_cons, List.length_nil]
    omega

/-- `targetsFrom .block 0` of a `quotedDirective` are the targets of the directive that is cut: only
that one is live. -/
theorem IsUnescaped.targetsFrom_quotedDirective (h : IsUnescaped target)
    (hcut : ∃ c ∈ target, inStatement c = false) :
    targetsFrom .block 0 (quotedDirective .block kind target) =
      Directive.targets ⟨kind, 0, Text.trim ('"' :: target.takeWhile inStatement)⟩ := by
  obtain ⟨others, hfound, hcovers⟩ := directivesFrom_quotedDirective kind hcut
  have hothers : ∀ d ∈ others, ¬ (!(spansFrom 0 (quotedDirective .block kind target)).any fun s =>
      decide (s.Covers d.position)) = true := by
    intro d hd
    rw [h.spansFrom_quotedDirective]
    simp [hcovers d hd]
  have hfirst : ¬ Span.Covers ⟨(quotedFront kind).length,
      (quotedFront kind).length + target.length + 2⟩ 0 :=
    fun hcovers => Nat.not_lt_zero _ hcovers.1
  rw [targetsFrom, liveFrom, directivesAt, hfound, List.filter_cons_of_pos,
    List.filter_eq_nil_iff.mpr hothers, List.flatMap_singleton]
  rw [h.spansFrom_quotedDirective]
  simp [hfirst]

/-! ## What a plain import names -/

/-- `keptPart target` ends with no blank. -/
theorem not_isBlank_getLast?_keptPart (target : List Char) :
    ∀ c ∈ (keptPart target).getLast?, Text.isBlank c = false := by
  intro c hc
  rw [keptPart, Text.trimEnd, List.getLast?_reverse] at hc
  have hhead := List.head?_dropWhile_not Text.isBlank (target.takeWhile inStatement).reverse
  rw [Option.mem_def.mp hc] at hhead
  simpa using hhead

/-- `'"' :: keptPart target` has no blanks at its ends. -/
theorem isTrimmed_keptPart (target : List Char) : Text.IsTrimmed ('"' :: keptPart target) := by
  constructor
  · intro c hc
    cases hc
    rfl
  · intro c hc
    rw [List.getLast?_cons] at hc
    cases hlast : (keptPart target).getLast? with
    | none =>
      rw [hlast] at hc
      cases hc
      rfl
    | some d =>
      rw [hlast] at hc
      cases hc
      exact not_isBlank_getLast?_keptPart target d hlast

/-- `keptPart target` holds no quote. -/
theorem IsUnescaped.quote_not_mem_keptPart (h : IsUnescaped target) : '"' ∉ keptPart target := by
  intro hmem
  have hstart : keptPart target <+: target.takeWhile inStatement :=
    List.rdropWhile_prefix Text.isBlank _
  have hquote := (h '"' ((List.takeWhile_prefix inStatement).subset (hstart.subset hmem))).1
  cases hquote

/-- The arguments of a directive that is cut are `'"' :: keptPart target`. -/
theorem trim_takeWhile_inStatement (target : List Char) :
    Text.trim ('"' :: target.takeWhile inStatement) = '"' :: keptPart target := by
  have hquote : Text.IsTrimmed ['"'] := ⟨by simp [Text.isBlank], by simp [Text.isBlank]⟩
  exact Text.trim_append_of_isTrimmed hquote (List.cons_ne_nil _ _) (target.takeWhile inStatement)

/-- `importTargets` of a `quotedDirective` are none for a plain import in which no character ends a
statement. -/
theorem IsUnescaped.importTargets_of_within (h : IsUnescaped target)
    (hplain : isPlainImport target = true) (kind : DirectiveKind)
    (hwithin : dialect = .block → ∀ c ∈ target, inStatement c = true) :
    importTargets dialect (quotedDirective dialect kind target) = [] := by
  have hpiece : ∀ u ∈ [()], Names dialect (quotedDirective dialect kind target) [target] :=
    fun _ _ => h.names kind hwithin
  have hnames := importTargets_intercalate hpiece
  rw [List.map_singleton, List.intercalate_singleton, List.flatMap_singleton] at hnames
  rw [hnames, List.filter_cons_of_neg (by simp [hplain])]
  rfl

/-- `importTargets` of a `quotedDirective` that is cut are `firstKeptWord target`, unless that is a
plain import or an `.imports` has more words. -/
theorem IsUnescaped.importTargets_of_cut (h : IsUnescaped target)
    (hcut : ∃ c ∈ target, inStatement c = false) (kind : DirectiveKind) :
    importTargets .block (quotedDirective .block kind target) =
      (if kind = .imports ∧ Text.words ((keptPart target).dropWhile (!Text.isBlank ·)) ≠ [] then []
        else [firstKeptWord target]).filter (!isPlainImport ·) := by
  have hcode : stripComments (quotedDirective .block kind target) =
      quotedDirective .block kind target := by
    simpa [stripComments, stripFrom] using (h.isCode .block kind).leaves [] endsLine_nil
  have htargets : (liveFrom .block 0 (quotedDirective .block kind target)).flatMap
      Directive.targets =
      if kind = .imports ∧ Text.words ((keptPart target).dropWhile (!Text.isBlank ·)) ≠ [] then []
      else [firstKeptWord target] := by
    rw [← targetsFrom, h.targetsFrom_quotedDirective hcut, trim_takeWhile_inStatement,
      targets_open h.quote_not_mem_keptPart (isTrimmed_keptPart target)]
    rfl
  rw [importTargets, hcode, liveDirectives_eq_liveFrom, htargets]
  split
  · rfl
  · cases hplain : isPlainImport (firstKeptWord target) <;> simp [hplain, List.eraseDups_cons]

/-- `importTargets` of a `quotedDirective` that `IsCutShort` are `[firstKeptWord target]`. -/
theorem IsUnescaped.importTargets_of_isCutShort (h : IsUnescaped target)
    (hcut : IsCutShort kind target) :
    importTargets .block (quotedDirective .block kind target) = [firstKeptWord target] := by
  have hwords : ¬ (kind = .imports ∧
      Text.words ((keptPart target).dropWhile (!Text.isBlank ·)) ≠ []) := by
    rintro ⟨hkind, hmore⟩
    exact hmore ((words_dropWhile_eq_nil_iff (not_isBlank_getLast?_keptPart target)).mpr
      (hcut.isWord hkind))
  have hplain : isPlainImport (firstKeptWord target) = false := by
    rw [firstKeptWord, isPlainImport_open, Bool.eq_false_iff]
    exact fun hcss => hcut.not_css (List.isSuffixOf_iff_suffix.mp hcss)
  rw [h.importTargets_of_cut hcut.exists_mem, if_neg hwords,
    List.filter_cons_of_pos (by simp [hplain])]
  rfl

/-- `importTargets` of a `quotedDirective` with a plain import are none, unless it `IsCutShort` in
the dialect `.block`. -/
theorem IsUnescaped.importTargets_of_not_isCutShort (h : IsUnescaped target)
    (hplain : isPlainImport target = true) (hnot : ¬ (dialect = .block ∧ IsCutShort kind target)) :
    importTargets dialect (quotedDirective dialect kind target) = [] := by
  by_cases hwithin : dialect = .block → ∀ c ∈ target, inStatement c = true
  · exact h.importTargets_of_within hplain kind hwithin
  push Not at hwithin
  obtain ⟨rfl, c, hc, hends⟩ := hwithin
  have hcut : ∃ c ∈ target, inStatement c = false := ⟨c, hc, by simpa using hends⟩
  rw [h.importTargets_of_cut hcut]
  split
  · rfl
  · next hwords =>
    -- the word that is left looks like a `.css` file
    have hcss : isPlainImport (firstKeptWord target) = true := by
      rw [firstKeptWord, isPlainImport_open, List.isSuffixOf_iff_suffix]
      by_contra hcss
      refine hnot ⟨rfl, hcut, ?_, hcss⟩
      intro hkind
      rw [← words_dropWhile_eq_nil_iff (not_isBlank_getLast?_keptPart target)]
      by_contra hmore
      exact hwords ⟨hkind, hmore⟩
    rw [List.filter_cons_of_neg (by simp [hcss])]
    rfl

/-- The import of an address, a `.css` file or a built-in module names no target, unless it is
written in the block dialect and cut short there; then it names the one word that is left of its
literal. -/
theorem imports_quotedDirective_eq_nil_iff (h : IsUnescaped target)
    (hplain : isPlainImport target = true) (dialect : Dialect) (kind : DirectiveKind) :
    (imports dialect (quotedDirective dialect kind target) = [] ↔
      ¬ (dialect = .block ∧ IsCutShort kind target)) ∧
      (imports dialect (quotedDirective dialect kind target) ≠ [] →
        imports dialect (quotedDirective dialect kind target) =
          [String.ofList (firstKeptWord target)]) := by
  by_cases hcut : dialect = .block ∧ IsCutShort kind target
  · obtain ⟨rfl, hshort⟩ := hcut
    simp [imports, h.importTargets_of_isCutShort hshort, hshort]
  · simp [imports, h.importTargets_of_not_isCutShort hplain hcut, hcut]

/-- An address with a query of two words. -/
theorem imports_quotedDirective_twoWords :
    IsUnescaped "http://a/b c;d".toList ∧ isPlainImport "http://a/b c;d".toList = true ∧
      ¬ IsCutShort .imports "http://a/b c;d".toList ∧
      imports .block "@import \"http://a/b c;d\";".toList = [] := by
  have hclosed : IsUnescaped "http://a/b c;d".toList := by simp [IsUnescaped, Text.isQuote]
  have hplain : isPlainImport "http://a/b c;d".toList = true := by decide
  have hnot : ¬ IsCutShort .imports "http://a/b c;d".toList := by
    intro hcut
    have hblank := hcut.isWord rfl ' ' (by decide)
    cases hblank
  exact ⟨hclosed, hplain, hnot,
    (imports_quotedDirective_eq_nil_iff hclosed hplain .block .imports).1.mpr
      fun hcut => hnot hcut.2⟩

/-- An address with a semicolon is cut there, and what is left of it is imported. -/
theorem imports_quotedDirective_ne_nil :
    IsUnescaped "//a/css2?b:wght@400;700".toList ∧
    isPlainImport "//a/css2?b:wght@400;700".toList = true ∧
      quotedDirective .block .imports "//a/css2?b:wght@400;700".toList =
        "@import \"//a/css2?b:wght@400;700\";".toList ∧
      imports .block "@import \"//a/css2?b:wght@400;700\";".toList = ["\"//a/css2?b:wght@400"] := by
  refine ⟨by simp [IsUnescaped, Text.isQuote], by decide, by decide, by decide +kernel⟩

end Restyle.Stylesheet
