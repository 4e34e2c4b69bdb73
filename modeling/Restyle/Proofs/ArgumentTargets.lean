import Mathlib
import Restyle.Proofs.DirectiveScan

/-! # Arguments and their targets
Reading the arguments of a directive: targets between quotes and bare ones, in a list or before
further words. Main statement: `DirectiveBody.targets_directive`, the targets of a directive are
those that its arguments are written for. -/

namespace Restyle

/-! ## Trimming -/

namespace Text

variable {cs blanks : List Char}

/-- `trim (blanks ++ cs) = trim cs`. -/
theorem trim_blank_append (h : ∀ c ∈ blanks, isBlank c = true) (cs : List Char) :
    trim (blanks ++ cs) = trim cs := by
  rw [trim, trimStart, List.dropWhile_append_of_pos h]
  rfl

/-- `trimEnd (cs ++ blanks) = trimEnd cs`. -/
theorem trimEnd_append_blank (h : ∀ c ∈ blanks, isBlank c = true) (cs : List Char) :
    trimEnd (cs ++ blanks) = trimEnd cs := by
  rw [trimEnd, trimEnd, List.reverse_append,
    List.dropWhile_append_of_pos fun c hc => h c (List.mem_reverse.mp hc)]

/-- Cons reading of `trimEnd`: a blank in front of nothing but blanks is cut off, and every other
character is kept. -/
theorem trimEnd_cons (c : Char) (cs : List Char) :
    trimEnd (c :: cs) = if isBlank c = true ∧ trimEnd cs = [] then [] else c :: trimEnd cs := by
  unfold trimEnd
  rw [List.reverse_cons, List.dropWhile_append]
  cases cs.reverse.dropWhile isBlank with
  | nil => cases hc : isBlank c <;> simp [hc]
  | cons d ds => simp

/-- `trim (cs ++ blanks) = trim cs`. -/
theorem trim_append_blank (h : ∀ c ∈ blanks, isBlank c = true) (cs : List Char) :
    trim (cs ++ blanks) = trim cs := by
  rw [trim, trim, trimStart, trimStart, List.dropWhile_append]
  split
  · next hnone =>
    rw [List.isEmpty_iff] at hnone
    rw [hnone, List.dropWhile_eq_nil_iff.mpr h]
  · exact trimEnd_append_blank h _

/-- A text that starts and ends with other characters than blanks. -/
def IsTrimmed (cs : List Char) : Prop :=
  (∀ c ∈ cs.head?, isBlank c = false) ∧ ∀ c ∈ cs.getLast?, isBlank c = false

/-- `trimStart (cs ++ rest) = cs ++ rest` for a text `cs` that starts with no blank. -/
theorem trimStart_append_of_isTrimmed (h : IsTrimmed cs) (hne : cs ≠ []) (rest : List Char) :
    trimStart (cs ++ rest) = cs ++ rest := by
  obtain ⟨c, cs, rfl⟩ := List.exists_cons_of_ne_nil hne
  rw [trimStart, List.cons_append, List.dropWhile_cons_of_neg (by simp [h.1 c rfl])]

/-- `trimEnd (cs ++ rest) = cs ++ trimEnd rest` for a text `cs` that ends with no blank. -/
theorem trimEnd_append_of_isTrimmed (h : IsTrimmed cs) (rest : List Char) :
    trimEnd (cs ++ rest) = cs ++ trimEnd rest := by
  have hself : cs.reverse.dropWhile isBlank = cs.reverse := by
    cases hcs : cs.reverse with
    | nil => rfl
    | cons c front =>
      have hlast : cs.getLast? = some c := by rw [List.getLast?_eq_head?_reverse, hcs]; rfl
      exact List.dropWhile_cons_of_neg (by simp [h.2 c hlast])
  rw [trimEnd, trimEnd, List.reverse_append, List.dropWhile_append]
  split
  · next hnone =>
    rw [List.isEmpty_iff] at hnone
    rw [hself, hnone, List.reverse_reverse, List.reverse_nil, List.append_nil]
  · rw [List.reverse_append, List.reverse_reverse]

/-- `trim (cs ++ rest) = cs ++ trimEnd rest` for a text `cs` without blanks at its ends. -/
theorem trim_append_of_isTrimmed (h : IsTrimmed cs) (hne : cs ≠ []) (rest : List Char) :
    trim (cs ++ rest) = cs ++ trimEnd rest := by
  rw [trim, trimStart_append_of_isTrimmed h hne, trimEnd_append_of_isTrimmed h]

/-- `trim cs = cs` for a text without blanks at its ends. -/
theorem trim_of_isTrimmed (h : IsTrimmed cs) (hne : cs ≠ []) : trim cs = cs := by
  have htrim := trim_append_of_isTrimmed h hne []
  rwa [List.append_nil, trimEnd_nil, List.append_nil] at htrim

/-! ## Words -/

/-- `words (cs ++ c :: ds) = words cs ++ words ds` for a blank `c`: it parts words. -/
theorem words_append_cons_of_isBlank {c : Char} (h : isBlank c = true) (cs ds : List Char) :
    words (cs ++ c :: ds) = words cs ++ words ds := by
  unfold words
  rw [List.splitOnP_append_cons cs ds h, List.filter_append]

/-- `words (c :: cs) = words cs` for a blank `c`. -/
theorem words_cons_of_isBlank {c : Char} (h : isBlank c = true) (cs : List Char) :
    words (c :: cs) = words cs :=
  words_append_cons_of_isBlank h [] cs

/-- `words cs = []` exactly for a text of blanks. -/
theorem words_eq_nil_iff {cs : List Char} : words cs = [] ↔ ∀ c ∈ cs, isBlank c = true := by
  induction cs with
  | nil => simp [words]
  | cons c cs ih =>
    cases hc : isBlank c with
    | true =>
      rw [words_cons_of_isBlank hc, ih]
      simp [hc]
    | false =>
      obtain ⟨word, others, hsplit⟩ := List.exists_cons_of_ne_nil (List.splitOnP_ne_nil isBlank cs)
      have hsplit : (c :: cs).splitOnP isBlank = (c :: word) :: others := by
        rw [List.splitOnP_cons_eq_if_modifyHead, hc, hsplit]
        rfl
      simp [words, hsplit, hc]

/-- `words word = [word]` for a text without blanks. -/
theorem words_eq_singleton {word : List Char} (hne : word ≠ [])
    (h : ∀ c ∈ word, isBlank c = false) :
    words word = [word] := by
  rw [words, List.splitOnP_eq_singleton h, List.filter_cons_of_pos (by simpa using hne)]
  rfl

/-- `words (word ++ rest) = word :: words rest` where a blank, or nothing, follows the word. -/
theorem words_append_of_isBlank {word rest : List Char} (hne : word ≠ [])
    (hword : ∀ c ∈ word, isBlank c = false) (hrest : ∀ c ∈ rest.head?, isBlank c = true) :
    words (word ++ rest) = word :: words rest := by
  cases rest with
  | nil =>
    rw [List.append_nil, words_eq_singleton hne hword]
    rfl
  | cons b rest =>
    have hb : isBlank b = true := hrest b rfl
    rw [words_append_cons_of_isBlank hb, words_eq_singleton hne hword, words_cons_of_isBlank hb]
    rfl

/-! ## Lower case -/

/-- `c.toLower = c` for a blank. -/
theorem toLower_of_isBlank {c : Char} (h : isBlank c = true) : c.toLower = c := by
  unfold Char.toLower
  rw [dif_neg]
  rintro ⟨hlow, hhigh⟩
  have hlow : 65 ≤ c.toNat := hlow
  have hhigh : c.toNat ≤ 90 := hhigh
  simp only [isBlank, Bool.or_eq_true, Bool.and_eq_true, decide_eq_true_eq, beq_iff_eq] at h
  omega

/-- Only `'('` has the lower case `'('`. -/
theorem eq_of_toLower_eq_paren {c : Char} (h : c.toLower = '(') : c = '(' := by
  unfold Char.toLower at h
  split at h
  · next hupper =>
    -- the lower-case letters lie behind the parenthesis
    have hvalue : (c.val + ('a'.val - 'A'.val)).toNat = '('.val.toNat :=
      congrArg UInt32.toNat (congrArg Char.val h)
    have hoffset : ('a'.val - 'A'.val).toNat = 32 := rfl
    have hparen : '('.val.toNat = 40 := rfl
    have hlow : 65 ≤ c.val.toNat := hupper.1
    have hhigh : c.val.toNat ≤ 90 := hupper.2
    rw [UInt32.toNat_add, hoffset, hparen] at hvalue
    omega
  · exact h

end Text

namespace Stylesheet

/-! ## Leading literals -/

/-- `leadingLiteral? cs = some (text, rest)` exactly if `cs` is a quote, `text` without that quote
and without `'\n'`, the quote again, and `rest`. -/
theorem leadingLiteral?_eq_some_iff {cs text rest : List Char} :
    leadingLiteral? cs = some (text, rest) ↔
      ∃ quote, Text.isQuote quote = true ∧ cs = quote :: (text ++ quote :: rest) ∧
        ∀ c ∈ text, c ≠ quote ∧ c ≠ '\n' := by
  constructor
  · intro h
    unfold leadingLiteral? at h
    split at h
    · cases h
    · next quote cs =>
      split at h
      · next hquote =>
        split at h
        · next c behind hbehind =>
          split at h
          · next hc =>
            cases h
            refine ⟨quote, hquote, ?_, fun d hd => by simpa using List.mem_takeWhile_imp hd⟩
            rw [← hc, ← hbehind, hc, List.takeWhile_append_dropWhile]
          · cases h
        · cases h
      · cases h
  · rintro ⟨quote, hquote, rfl, htext⟩
    -- the closing quote is the first character at which both scans stop
    have hstop : decide (quote ≠ quote ∧ quote ≠ '\n') = false := by simp
    have hgo : ∀ c ∈ text, decide (c ≠ quote ∧ c ≠ '\n') = true :=
      fun c hc => decide_eq_true (htext c hc)
    have hdrop : (text ++ quote :: rest).dropWhile (fun c => decide (c ≠ quote ∧ c ≠ '\n')) =
        quote :: rest := by
      rw [dropWhile_append_cons_of_neg (p := fun c => decide (c ≠ quote ∧ c ≠ '\n')) hstop,
        List.dropWhile_eq_nil_iff.mpr hgo, List.nil_append]
    have htake : (text ++ quote :: rest).takeWhile
        (fun c => decide (c ≠ quote ∧ c ≠ '\n')) = text := by
      rw [takeWhile_append_cons_of_neg (p := fun c => decide (c ≠ quote ∧ c ≠ '\n')) hstop,
        List.takeWhile_eq_self_iff.mpr hgo]
    rw [leadingLiteral?, if_pos hquote, hdrop, htake]
    exact if_pos rfl

/-! ## Arguments -/

/-- Characters of one kind. -/
structure Run (p : Char → Bool) where
  /-- The characters. -/
  chars : List Char
  all : ∀ c ∈ chars, p c = true

/-- One or more characters of one kind. -/
structure Gap (p : Char → Bool) extends Run p where
  ne_nil : chars ≠ []

/-- Blanks and line breaks. -/
abbrev Blanks := Run Text.isBlank

/-- A target between quotes. -/
structure QuotedTarget where
  /-- The quote on either side. -/
  quote : Char
  /-- The target. -/
  text : List Char
  isQuote_quote : Text.isQuote quote = true
  closed : ∀ c ∈ text, c ≠ quote ∧ c ≠ '\\' ∧ c ≠ '\n'

/-- A target without quotes. -/
structure BareTarget where
  /-- The target. -/
  word : List Char
  ne_nil : word ≠ []
  isPlain : IsPlain word
  unbroken : ∀ c ∈ word, Text.isBlank c = false ∧ c ≠ ',' ∧ c ≠ '(' ∧ c ≠ ')'

/-- A target as it stands in the arguments of a directive. -/
inductive Argument where
  | quoted (target : QuotedTarget)
  | bare (target : BareTarget)

namespace Argument

/-- The target that an argument names. -/
def target : Argument → List Char
  | quoted t => t.text
  | bare t => t.word

/-- An argument as it is written. -/
def source : Argument → List Char
  | quoted t => t.quote :: (t.text ++ [t.quote])
  | bare t => t.word

/-- Whether an argument ends where the rest of a text begins: a bare one ends at a blank. -/
def EndsBefore (rest : List Char) : Argument → Prop
  | quoted _ => True
  | bare _ => ∀ c ∈ rest.head?, Text.isBlank c = true

/-- `EndsBefore` depends on the first character only: it passes to a start of `rest`. -/
theorem EndsBefore.of_prefix {a : Argument} {front rest : List Char} (h : a.EndsBefore rest)
    (hstart : front <+: rest) : a.EndsBefore front := by
  cases a with
  | quoted t => exact trivial
  | bare t =>
    cases front with
    | nil => simp [EndsBefore]
    | cons c front =>
      obtain ⟨more, rfl⟩ := hstart
      exact h

/-- An argument is written with at least one character. -/
theorem source_ne_nil (a : Argument) : a.source ≠ [] := by
  cases a with
  | quoted t => exact List.cons_ne_nil _ _
  | bare t => exact t.ne_nil

/-- A quoted argument ends with its quote. -/
theorem getLast?_quoted (t : QuotedTarget) : (quoted t).source.getLast? = some t.quote := by
  rw [source, ← List.cons_append, List.getLast?_append, List.getLast?_singleton]
  rfl

/-- An argument is written without blanks at its ends. -/
theorem isTrimmed_source (a : Argument) : Text.IsTrimmed a.source := by
  cases a with
  | quoted t =>
    have hquote : Text.isBlank t.quote = false := by
      rw [Bool.eq_false_iff]
      exact fun hblank => Text.ne_of_isQuote t.isQuote_quote (isPlain_of_isBlank hblank).1 rfl
    constructor
    · intro c hc
      cases hc
      exact hquote
    · intro c hc
      rw [getLast?_quoted] at hc
      cases hc
      exact hquote
  | bare t =>
    exact ⟨fun c hc => (t.unbroken c (List.mem_of_head? hc)).1,
      fun c hc => (t.unbroken c (List.mem_of_getLast? hc)).1⟩

/-- What starts with an argument starts with a character that is no blank. -/
theorem exists_head_source_append (a : Argument) (rest : List Char) :
    ∃ c ∈ (a.source ++ rest).head?, Text.isBlank c = false := by
  obtain ⟨c, cs, hsource⟩ := List.exists_cons_of_ne_nil a.source_ne_nil
  refine ⟨c, ?_, a.isTrimmed_source.1 c ?_⟩
  · rw [hsource]
    rfl
  · rw [hsource]
    rfl

/-- An argument is code: no comment opens in it, and its literal is closed. -/
theorem isCode_source (a : Argument) : IsCode a.source := by
  cases a with
  | quoted t => exact .literal t.isQuote_quote (.of_forall t.closed) .nil
  | bare t => exact t.isPlain.isCode

/-! ## The target of an argument -/

/-- `leadingLiteral?` reads the text of a quoted argument, and leaves `rest`. -/
theorem leadingLiteral?_quoted (t : QuotedTarget) (rest : List Char) :
    leadingLiteral? ((quoted t).source ++ rest) = some (t.text, rest) := by
  refine leadingLiteral?_eq_some_iff.mpr ⟨t.quote, t.isQuote_quote, ?_, ?_⟩
  · rw [source, List.cons_append, List.append_assoc, List.singleton_append]
  · intro c hc
    exact ⟨(t.closed c hc).1, (t.closed c hc).2.2⟩

/-- `leadingLiteral?` finds no literal where a bare argument stands. -/
theorem leadingLiteral?_bare (t : BareTarget) (rest : List Char) :
    leadingLiteral? (t.word ++ rest) = none := by
  obtain ⟨c, word, hword⟩ := List.exists_cons_of_ne_nil t.ne_nil
  have hquote : Text.isQuote c = false := t.isPlain.1 c (by rw [hword]; exact List.mem_cons_self)
  rw [hword, List.cons_append, leadingLiteral?, if_neg (by simp [hquote])]

/-- No argument is an address: `url(` starts neither with a quote nor, without its parenthesis, with
a bare target. -/
theorem isAddress_source_append (a : Argument) {rest : List Char} (h : a.EndsBefore rest) :
    isAddress (a.source ++ rest) = false := by
  rw [isAddress, Bool.eq_false_iff]
  intro haddress
  have hstart := List.isPrefixOf_iff_prefix.mp haddress
  cases a with
  | quoted t =>
    have hletter : 'u' = t.quote.toLower := (List.cons_prefix_cons.mp hstart).1
    have hquote := t.isQuote_quote
    rw [Text.isQuote, Bool.or_eq_true, beq_iff_eq, beq_iff_eq] at hquote
    rcases hquote with heq | heq <;> rw [heq] at hletter <;> exact absurd hletter (by decide)
  | bare t =>
    rw [source, List.map_append] at hstart
    -- a blank ends the word before the parenthesis, so that the word would have to hold it
    have hword : "url(".toList <+: t.word.map Char.toLower := by
      cases rest with
      | nil => rwa [List.map_nil, List.append_nil] at hstart
      | cons b rest =>
        have hb : Text.isBlank b = true := h b rfl
        rw [List.map_cons, Text.toLower_of_isBlank hb] at hstart
        refine prefix_of_prefix_append_cons (fun hmem => ?_) hstart
        have hnone : ∀ c ∈ "url(".toList, Text.isBlank c = false := by simp [Text.isBlank]
        exact absurd hb (by simp [hnone b hmem])
    obtain ⟨c, hc, hparen⟩ := List.mem_map.mp (hword.subset (by decide : '(' ∈ "url(".toList))
    exact (t.unbroken c hc).2.2.1 (Text.eq_of_toLower_eq_paren hparen)

/-- `Text.words (t.word ++ rest) = t.word :: Text.words rest`: the first word is the bare target. -/
theorem words_bare_append (t : BareTarget) {rest : List Char} (h : (bare t).EndsBefore rest) :
    Text.words (t.word ++ rest) = t.word :: Text.words rest :=
  Text.words_append_of_isBlank t.ne_nil (fun c hc => (t.unbroken c hc).1) h

/-- `targetOf? alone (a.source ++ rest) = some a.target`, where other words may follow only if
`alone` is false. -/
theorem targetOf?_source_append (a : Argument) {rest : List Char} (h : a.EndsBefore rest)
    {alone : Bool} (halone : alone = true → rest = []) :
    targetOf? alone (a.source ++ rest) = some a.target := by
  have hne : ¬ (a.source ++ rest = [] ∨ isAddress (a.source ++ rest) = true) := by
    simp [a.source_ne_nil, a.isAddress_source_append h]
  rw [targetOf?, if_neg hne]
  cases a with
  | quoted t =>
    have hrest : ¬ (alone = true ∧ Text.trim rest ≠ []) := fun ⟨halone', htrim⟩ =>
      htrim (by rw [halone halone', Text.trim_nil])
    rw [leadingLiteral?_quoted]
    exact if_neg hrest
  | bare t =>
    rw [source, leadingLiteral?_bare, words_bare_append t h]
    cases hwords : Text.words rest with
    | nil => rfl
    | cons word more =>
      cases alone with
      | false => rfl
      | true =>
        rw [halone rfl] at hwords
        cases hwords

end Argument

/-! ## Lists of arguments -/

/-- Characters that are no comma and leave the nesting `{}` as it is are read into the current
argument. -/
theorem splitArgumentsFrom_append {cs : List Char}
    (h : ∀ c ∈ cs, ({} : Nesting).next c = {} ∧ c ≠ ',') (current rest : List Char) :
    splitArgumentsFrom {} current (cs ++ rest) =
      splitArgumentsFrom {} (cs.reverse ++ current) rest := by
  induction cs generalizing current with
  | nil => rfl
  | cons c cs ih =>
    obtain ⟨hnext, hcomma⟩ := h c List.mem_cons_self
    rw [List.cons_append, splitArgumentsFrom, if_neg (fun h => hcomma h.1), hnext,
      ih fun d hd => h d (List.mem_cons_of_mem c hd), List.reverse_cons, List.append_assoc]
    rfl

/-- Within a literal, up to the closing quote, nothing parts two arguments. -/
theorem splitArgumentsFrom_literal {quote : Char} {text : List Char} (h : quote ∉ text)
    (current rest : List Char) :
    splitArgumentsFrom ⟨0, some quote⟩ current (text ++ quote :: rest) =
      splitArgumentsFrom {} (quote :: (text.reverse ++ current)) rest := by
  induction text generalizing current with
  | nil =>
    have hnext : (⟨0, some quote⟩ : Nesting).next quote = {} := if_pos rfl
    rw [List.nil_append, splitArgumentsFrom, if_neg (by simp [Nesting.isTop]), hnext]
    rfl
  | cons c text ih =>
    rw [List.mem_cons, not_or] at h
    have hnext : (⟨0, some quote⟩ : Nesting).next c = ⟨0, some quote⟩ := if_neg (Ne.symm h.1)
    rw [List.cons_append, splitArgumentsFrom, if_neg (by simp [Nesting.isTop]), hnext, ih h.2,
      List.reverse_cons, List.append_assoc]
    rfl

/-- Whether only a quote closes the literal that is open. -/
def Nesting.IsProper (n : Nesting) : Prop := ∀ quote ∈ n.quote, Text.isQuote quote = true

/-- `{}`, outside of all brackets and literals, is proper. -/
theorem Nesting.isProper_empty : ({} : Nesting).IsProper := by simp [IsProper]

/-- `n.next c = n` for a blank `c`, also within a literal. -/
theorem Nesting.IsProper.next_of_blank {n : Nesting} (h : n.IsProper) {c : Char}
    (hc : Text.isBlank c = true) :
    n.next c = n := by
  obtain ⟨depth, quote⟩ := n
  cases quote with
  | none =>
    simp [Nesting.next, (isPlain_of_isBlank hc).1, Text.ne_of_isBlank hc (d := '(') rfl,
      Text.ne_of_isBlank hc (d := ')') rfl]
  | some quote =>
    have hne : c ≠ quote := (Text.ne_of_isQuote (h quote rfl) (isPlain_of_isBlank hc).1).symm
    exact if_neg hne

/-- A blank outside of everything leaves the nesting `{}`, and is no comma. -/
theorem Nesting.next_of_blank {c : Char} (h : Text.isBlank c = true) :
    ({} : Nesting).next c = {} ∧ c ≠ ',' :=
  ⟨isProper_empty.next_of_blank h, Text.ne_of_isBlank h rfl⟩

/-- `splitArgumentsFrom {}` takes the text of an argument whole into the current one. -/
theorem splitArgumentsFrom_source (a : Argument) (current rest : List Char) :
    splitArgumentsFrom {} current (a.source ++ rest) =
      splitArgumentsFrom {} (a.source.reverse ++ current) rest := by
  cases a with
  | quoted t =>
    have hcomma : t.quote ≠ ',' := Text.ne_of_isQuote t.isQuote_quote rfl
    have hopen : ({} : Nesting).next t.quote = ⟨0, some t.quote⟩ := if_pos t.isQuote_quote
    rw [Argument.source, List.cons_append, splitArgumentsFrom, if_neg (fun h => hcomma h.1), hopen,
      List.append_assoc, List.singleton_append,
      splitArgumentsFrom_literal fun hmem => (t.closed _ hmem).1 rfl]
    simp
  | bare t =>
    refine splitArgumentsFrom_append (fun c hc => ?_) current rest
    obtain ⟨-, hcomma, hopen, hclose⟩ := t.unbroken c hc
    exact ⟨by simp [Nesting.next, t.isPlain.1 c hc, hopen, hclose], hcomma⟩

/-- A comma between two arguments. -/
structure Comma where
  /-- The blanks before it. -/
  before : Blanks
  /-- The blanks after it. -/
  after : Blanks

/-- A comma as it is written. -/
def Comma.source (c : Comma) : List Char := c.before.chars ++ ',' :: c.after.chars

/-- Every character of a comma with the blanks around it is a blank or `','`. -/
theorem Comma.isBlank_or_eq_of_mem {comma : Comma} {c : Char} (h : c ∈ comma.source) :
    Text.isBlank c = true ∨ c = ',' := by
  rcases List.mem_append.mp h with hbefore | hrest
  · exact Or.inl (comma.before.all c hbefore)
  · rcases List.mem_cons.mp hrest with rfl | hafter
    · exact Or.inr rfl
    · exact Or.inl (comma.after.all c hafter)

/-- No character of a comma with the blanks around it is a quote, a slash or a star. -/
theorem Comma.plain_of_mem {comma : Comma} {c : Char} (h : c ∈ comma.source) :
    Text.isQuote c = false ∧ c ≠ '/' ∧ c ≠ '*' := by
  rcases isBlank_or_eq_of_mem h with hblank | rfl
  · exact ⟨(isPlain_of_isBlank hblank).1, Text.ne_of_isBlank hblank rfl,
      Text.ne_of_isBlank hblank rfl⟩
  · decide

/-- One or more arguments with commas between them. -/
structure ArgumentList where
  /-- The first argument. -/
  first : Argument
  /-- The other arguments, each with the comma before it. -/
  others : List (Comma × Argument)

namespace ArgumentList

/-- The arguments in order. -/
def arguments (l : ArgumentList) : List Argument := l.first :: l.others.map Prod.snd

/-- The other arguments as they are written. -/
def othersSource (others : List (Comma × Argument)) : List Char :=
  others.flatMap fun other => other.1.source ++ other.2.source

/-- A list of arguments as it is written. -/
def source (l : ArgumentList) : List Char := l.first.source ++ othersSource l.others

/-- `splitArgumentsFrom` ends the current argument at the first comma, and then reads the other
arguments one by one. -/
theorem splitArgumentsFrom_othersSource (others : List (Comma × Argument)) (current : List Char) :
    splitArgumentsFrom {} current (othersSource others) =
      Text.trim current.reverse :: others.map (·.2.source) := by
  -- `current` holds the argument being read, reversed
  induction others generalizing current with
  | nil => rfl
  | cons other others ih =>
    obtain ⟨comma, argument⟩ := other
    have hsource : othersSource ((comma, argument) :: others) =
        comma.before.chars ++ ',' ::
          (comma.after.chars ++ (argument.source ++ othersSource others)) := by
      simp [othersSource, Comma.source]
    have hfirst : Text.trim (comma.before.chars.reverse ++ current).reverse =
        Text.trim current.reverse := by
      rw [List.reverse_append, List.reverse_reverse, Text.trim_append_blank comma.before.all]
    have hargument : Text.trim
        (argument.source.reverse ++ (comma.after.chars.reverse ++ [])).reverse =
        argument.source := by
      rw [List.append_nil, List.reverse_append, List.reverse_reverse, List.reverse_reverse,
        Text.trim_blank_append comma.after.all,
        Text.trim_of_isTrimmed argument.isTrimmed_source argument.source_ne_nil]
    rw [hsource, splitArgumentsFrom_append fun c hc =>
      Nesting.next_of_blank (comma.before.all c hc), splitArgumentsFrom, if_pos ⟨rfl, rfl⟩, hfirst,
      splitArgumentsFrom_append fun c hc => Nesting.next_of_blank (comma.after.all c hc),
      splitArgumentsFrom_source, ih, hargument]
    rfl

/-- `splitArguments l.source = l.arguments.map (·.source)`: a list is parted into its arguments. -/
theorem splitArguments_source (l : ArgumentList) :
    splitArguments l.source = l.arguments.map (·.source) := by
  have hfirst : Text.trim (l.first.source.reverse ++ []).reverse = l.first.source := by
    rw [List.append_nil, List.reverse_reverse,
      Text.trim_of_isTrimmed l.first.isTrimmed_source l.first.source_ne_nil]
  rw [splitArguments, source, splitArgumentsFrom_source, splitArgumentsFrom_othersSource,
    hfirst, arguments, List.map_cons, List.map_map]
  rfl

/-- The targets read from the text of a list are `l.arguments.map (·.target)`. -/
theorem filterMap_targetOf? (l : ArgumentList) :
    (splitArguments l.source).filterMap (targetOf? true) = l.arguments.map (·.target) := by
  have hargument : ∀ a : Argument, targetOf? true a.source = some a.target := by
    intro a
    have hend : a.EndsBefore [] := by cases a <;> simp [Argument.EndsBefore]
    simpa using a.targetOf?_source_append hend fun _ => rfl
  rw [splitArguments_source, List.filterMap_map, ← List.filterMap_eq_map]
  exact List.filterMap_congr fun a _ => hargument a

/-- Behind a text without blanks at its ends, further arguments end with no blank. -/
theorem isTrimmed_append_othersSource {cs : List Char} (h : Text.IsTrimmed cs) (hne : cs ≠ [])
    (others : List (Comma × Argument)) : Text.IsTrimmed (cs ++ othersSource others) := by
  induction others generalizing cs with
  | nil => simpa [othersSource] using h
  | cons other others ih =>
    obtain ⟨comma, argument⟩ := other
    have hlonger : Text.IsTrimmed (cs ++ (comma.source ++ argument.source)) := by
      constructor
      · rw [List.head?_append_of_ne_nil _ hne]
        exact h.1
      · rw [← List.append_assoc, List.getLast?_append_of_ne_nil _ argument.source_ne_nil]
        exact argument.isTrimmed_source.2
    have hrest := ih hlonger (by simp [hne])
    rwa [List.append_assoc] at hrest

/-- A list of arguments is written without blanks at its ends. -/
theorem isTrimmed_source (l : ArgumentList) : Text.IsTrimmed l.source :=
  isTrimmed_append_othersSource l.first.isTrimmed_source l.first.source_ne_nil l.others

/-- A list of arguments is written with at least one character. -/
theorem source_ne_nil (l : ArgumentList) : l.source ≠ [] := by
  simp [source, l.first.source_ne_nil]

/-- Further arguments start with a blank or a comma, and open no comment behind a slash. -/
theorem stopsSlash_othersSource (others : List (Comma × Argument)) :
    StopsSlash (othersSource others) := by
  cases others with
  | nil => exact stopsSlash_nil
  | cons other others =>
    have hne : other.1.source ≠ [] := by simp [Comma.source]
    intro c hc
    rw [othersSource, List.flatMap_cons, List.append_assoc, List.head?_append_of_ne_nil _ hne] at hc
    exact (Comma.plain_of_mem (List.mem_of_head? hc)).2

/-- Further arguments, with the commas before them, are code. -/
theorem isCode_othersSource (others : List (Comma × Argument)) : IsCode (othersSource others) := by
  induction others with
  | nil => exact .nil
  | cons other others ih =>
    obtain ⟨comma, argument⟩ := other
    have hcomma : IsCode comma.source :=
      (isPlain_of_forall fun c hc =>
        ⟨(Comma.plain_of_mem hc).1, (Comma.plain_of_mem hc).2.1⟩).isCode
    have hfirst : IsCode (comma.source ++ argument.source) :=
      hcomma.append_of_not_mem argument.isCode_source fun h => (Comma.plain_of_mem h).2.1 rfl
    exact hfirst.append_of_stopsSlash ih (stopsSlash_othersSource others)

/-- A list of arguments is code. -/
theorem isCode_source (l : ArgumentList) : IsCode l.source :=
  l.first.isCode_source.append_of_stopsSlash (isCode_othersSource l.others)
    (stopsSlash_othersSource l.others)

end ArgumentList

/-! ## What a directive says -/

/-- What follows the word of a directive: a list of arguments, or one argument and what is said
about it. -/
inductive DirectiveBody where
  | imports (arguments : ArgumentList)
  | loads (kind : DirectiveKind) (argument : Argument) (modifier : List Char)
    (hkind : kind ≠ .imports)
    (isPlain : IsPlain modifier) (ends : argument.EndsBefore modifier)

namespace DirectiveBody

/-- The kind of directive. -/
def kind : DirectiveBody → DirectiveKind
  | imports _ => .imports
  | loads kind _ _ _ _ _ => kind

/-- The text after the word. -/
def source : DirectiveBody → List Char
  | imports arguments => arguments.source
  | loads _ argument modifier _ _ _ => argument.source ++ modifier

/-- The targets that are written in it. -/
def targets : DirectiveBody → List (List Char)
  | imports arguments => arguments.arguments.map (·.target)
  | loads _ argument _ _ _ _ => [argument.target]

/-- `Directive.targets` of a directive that is written with the body `b` are `b.targets`, whatever
blanks follow. -/
theorem targets_directive (b : DirectiveBody) (position : Nat) {blanks : List Char}
    (h : ∀ c ∈ blanks, Text.isBlank c = true) :
    Directive.targets ⟨b.kind, position, Text.trim (b.source ++ blanks)⟩ = b.targets := by
  rw [Text.trim_append_blank h]
  cases b with
  | imports arguments =>
    rw [source, Text.trim_of_isTrimmed arguments.isTrimmed_source arguments.source_ne_nil]
    exact arguments.filterMap_targetOf?
  | loads kind argument modifier hkind isPlain ends =>
    have hends : argument.EndsBefore (Text.trimEnd modifier) :=
      ends.of_prefix (List.rdropWhile_prefix Text.isBlank modifier)
    have htarget : targetOf? false (argument.source ++ Text.trimEnd modifier) =
        some argument.target :=
      argument.targetOf?_source_append hends (by simp)
    rw [source, Text.trim_append_of_isTrimmed argument.isTrimmed_source argument.source_ne_nil]
    cases kind with
    | imports => exact absurd rfl hkind
    | uses => exact congrArg Option.toList htarget
    | forwards => exact congrArg Option.toList htarget

/-- The body of a directive starts with a character that is no blank. -/
theorem exists_head_source (b : DirectiveBody) : ∃ c ∈ b.source.head?, Text.isBlank c = false := by
  cases b with
  | imports arguments => exact arguments.first.exists_head_source_append _
  | loads kind argument modifier hkind isPlain ends =>
    exact argument.exists_head_source_append modifier

/-- The body of a directive is code. -/
theorem isCode_source (b : DirectiveBody) : IsCode b.source := by
  cases b with
  | imports arguments => exact arguments.isCode_source
  | loads kind argument modifier hkind isPlain ends =>
    refine argument.isCode_source.append isPlain.isCode fun hlast => ?_
    cases argument with
    | quoted t =>
      rw [Argument.getLast?_quoted, Option.some.injEq] at hlast
      exact absurd hlast (Text.ne_of_isQuote t.isQuote_quote rfl)
    | bare t => exact stopsSlash_of_isBlank ends

end DirectiveBody

end Stylesheet

end Restyle
