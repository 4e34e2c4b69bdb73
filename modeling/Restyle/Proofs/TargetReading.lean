import Mathlib
import Restyle.Proofs.FreshOnes
import Restyle.Proofs.ArgumentTargets

/-! # Reading import targets
A bare target is the first word of its argument. Whoever takes the first word of a text that has
none fails (`MissingWord`), and with one such argument the whole stylesheet could not be read
(`readImports`). It does not come to that: only an argument of nothing but blanks fails
(`readTarget_eq_error_iff`), and all arguments are trimmed, those of malformed directives too. What
is read is a piece of the text, cut out of it in smaller and smaller pieces
(`infix_of_mem_targets`). Main statement: every stylesheet is read, and its targets are written in
it (`readImports_eq_ok_imports`). -/

namespace Restyle

namespace Text

/-! ## Pieces of a text -/

variable {cs word : List Char}

/-- Every member of `words cs` is an infix of `cs`. -/
theorem infix_of_mem_words (h : word ∈ words cs) : word <:+: cs :=
  Stylesheet.infix_of_mem_splitOnP (List.mem_of_mem_filter h)

/-- `trim cs <:+: cs`. -/
theorem trim_infix (cs : List Char) : trim cs <:+: cs :=
  (List.rdropWhile_prefix isBlank _).isInfix.trans (List.dropWhile_suffix isBlank).isInfix

/-- `words (trim cs) ≠ []` if `trim cs ≠ []`. -/
theorem words_trim_ne_nil (h : trim cs ≠ []) : words (trim cs) ≠ [] := by
  intro hnone
  have hlast : ¬ isBlank ((trim cs).getLast h) = true :=
    List.rdropWhile_last_not isBlank (trimStart cs) h
  exact hlast (words_eq_nil_iff.mp hnone _ (List.getLast_mem h))

end Text

namespace Stylesheet

variable {alone : Bool} {argument target : List Char} {d : Directive}

/-! ## Reading that may fail -/

/-- The failure to read the first word of a text without words. -/
structure MissingWord where
  /-- The text. -/
  text : List Char
  deriving DecidableEq, Repr

/-- The first word of a text, which has to have one. -/
def readWord (text : List Char) : Except MissingWord (List Char) :=
  match Text.firstWord? text with
  | some word => .ok word
  | none => .error ⟨text⟩

/-- The target that one argument names, if any: a leading literal, or else the first word that it
has to have. -/
def readTarget (alone : Bool) (argument : List Char) : Except MissingWord (Option (List Char)) :=
  if argument = [] ∨ isAddress argument then .ok none
  else
    match leadingLiteral? argument with
    | some (target, rest) => .ok (if alone ∧ Text.trim rest ≠ [] then none else some target)
    | none =>
      if alone ∧ 1 < (Text.words argument).length then .ok none
      else (readWord argument).map some

/-- The candidates for the targets of a directive, one for each argument. -/
def Directive.readCandidates (d : Directive) : Except MissingWord (List (Option (List Char))) :=
  match d.kind with
  | .imports => (splitArguments d.arguments).mapM (readTarget true)
  | _ => [d.arguments].mapM (readTarget false)

/-- The targets found so far, and a candidate if it is a new one and no plain import. -/
def keepTarget (targets : List (List Char)) : Option (List Char) → List (List Char)
  | none => targets
  | some target => if isPlainImport target || targets.contains target then targets
    else targets ++ [target]

/-- The targets found so far, and those of further directives, each of them read to its end before
the next one. -/
def readFrom (targets : List (List Char)) : List Directive → Except MissingWord (List (List Char))
  | [] => .ok targets
  | d :: ds => d.readCandidates.bind fun candidates =>
    readFrom (candidates.foldl keepTarget targets) ds

/-- The imports of a stylesheet, read one directive after the other. -/
def readImports (dialect : Dialect) (source : List Char) : Except MissingWord (List String) :=
  (readFrom [] (liveDirectives dialect (stripComments source))).map fun targets =>
    targets.map String.ofList

/-! ## When reading fails -/

/-- `readTarget alone argument = .ok (targetOf? alone argument)` for an argument with a word. -/
theorem readTarget_of_words_ne_nil (h : Text.words argument ≠ []) (alone : Bool) :
    readTarget alone argument = .ok (targetOf? alone argument) := by
  unfold readTarget targetOf?
  split
  · rfl
  · cases leadingLiteral? argument with
    | some found => rfl
    | none =>
      obtain ⟨word, others, hwords⟩ := List.exists_cons_of_ne_nil h
      have hread : readWord argument = .ok word := by rw [readWord, Text.firstWord?, hwords]; rfl
      simp only [hread, hwords]
      cases others with
      | nil => cases alone <;> rfl
      | cons other others => cases alone <;> simp [Except.map]

/-- `readTarget alone argument = .error ⟨argument⟩` for blanks alone, one or more. -/
theorem readTarget_of_blank (hne : argument ≠ []) (hblank : ∀ c ∈ argument, Text.isBlank c = true)
    (alone : Bool) :
    readTarget alone argument = .error ⟨argument⟩ := by
  have hwords : Text.words argument = [] := Text.words_eq_nil_iff.mpr hblank
  obtain ⟨c, cs, rfl⟩ := List.exists_cons_of_ne_nil hne
  have hc : Text.isBlank c = true := hblank c List.mem_cons_self
  have haddress : isAddress (c :: cs) = false := by
    have hletter : 'u' ≠ c := (Text.ne_of_isBlank hc rfl).symm
    simp [isAddress, List.isPrefixOf, Text.toLower_of_isBlank hc, hletter]
  have hliteral : leadingLiteral? (c :: cs) = none := if_neg (by simp [(isPlain_of_isBlank hc).1])
  rw [readTarget, if_neg (by simp [haddress]), hliteral]
  simp [hwords, readWord, Text.firstWord?, Except.map]

/-- `readTarget alone argument` fails exactly for blanks alone, one or more. -/
theorem readTarget_eq_error_iff {e : MissingWord} :
    readTarget alone argument = .error e ↔
      argument ≠ [] ∧ (∀ c ∈ argument, Text.isBlank c = true) ∧ e = ⟨argument⟩ := by
  constructor
  · intro h
    have hne : argument ≠ [] := by
      rintro rfl
      cases h
    have hblank : ∀ c ∈ argument, Text.isBlank c = true := by
      rw [← Text.words_eq_nil_iff]
      by_contra hwords
      rw [readTarget_of_words_ne_nil hwords] at h
      cases h
    rw [readTarget_of_blank hne hblank] at h
    exact ⟨hne, hblank, (Except.error.inj h).symm⟩
  · rintro ⟨hne, hblank, rfl⟩
    exact readTarget_of_blank hne hblank alone

/-- `readTarget alone (Text.trim cs)` never fails. -/
theorem readTarget_trim (alone : Bool) (cs : List Char) :
    readTarget alone (Text.trim cs) = .ok (targetOf? alone (Text.trim cs)) := by
  by_cases hnil : Text.trim cs = []
  · rw [hnil]
    rfl
  · exact readTarget_of_words_ne_nil (Text.words_trim_ne_nil hnil) alone

/-! ## Arguments as pieces -/

/-- Every member of `splitArgumentsFrom n current cs` is a trimmed infix of
`current.reverse ++ cs`. -/
theorem exists_of_mem_splitArgumentsFrom {n : Nesting} {current cs : List Char}
    (h : argument ∈ splitArgumentsFrom n current cs) :
    ∃ piece, piece <:+: current.reverse ++ cs ∧ argument = Text.trim piece := by
  induction cs generalizing n current with
  | nil => exact ⟨current.reverse, by simp, List.mem_singleton.mp h⟩
  | cons c cs ih =>
    rw [splitArgumentsFrom] at h
    split at h
    · rcases List.mem_cons.mp h with rfl | hlater
      · exact ⟨current.reverse, (List.prefix_append _ _).isInfix, rfl⟩
      · obtain ⟨piece, hpiece, rfl⟩ := ih hlater
        exact ⟨piece, hpiece.trans ((List.suffix_cons c cs).trans (List.suffix_append _ _)).isInfix,
          rfl⟩
    · obtain ⟨piece, hpiece, rfl⟩ := ih h
      exact ⟨piece, by simpa using hpiece, rfl⟩

/-- Every member of `splitArguments arguments` is a trimmed infix of `arguments`. -/
theorem exists_of_mem_splitArguments {arguments : List Char}
    (h : argument ∈ splitArguments arguments) :
    ∃ piece, piece <:+: arguments ∧ argument = Text.trim piece :=
  exists_of_mem_splitArgumentsFrom h

/-- The arguments of every member of `directives dialect text` are a trimmed infix of `text`. -/
theorem exists_of_mem_directives {dialect : Dialect} {text : List Char}
    (h : d ∈ directives dialect text) :
    ∃ piece, piece <:+: text ∧ d.arguments = Text.trim piece := by
  cases dialect with
  | block =>
    obtain ⟨before, after, rest, rfl, -, hopen, harguments⟩ := exists_of_mem_directivesFrom h
    have hrest : rest <:+ before ++ '@' :: after :=
      (suffix_of_openDirective? hopen).trans
        ((List.suffix_cons '@' after).trans (List.suffix_append before _))
    exact ⟨rest.takeWhile inStatement,
      (List.takeWhile_prefix inStatement).isInfix.trans hrest.isInfix, harguments⟩
  | indented =>
    obtain ⟨front, line, later, hlines, hfound⟩ := exists_line_of_mem_lineDirectives h
    have hline : line ∈ text.splitOn '\n' := by
      rw [hlines]
      exact List.mem_append_right _ List.mem_cons_self
    obtain ⟨indent, gap, rest, -, rfl, -, -, -, -, harguments⟩ :=
      lineDirective?_eq_some_iff.mp hfound
    have hrest : rest <:+ indent ++ '@' :: (d.kind.word ++ (gap ++ rest)) := by
      simp only [← List.cons_append, ← List.append_assoc]
      exact List.suffix_append _ rest
    exact ⟨rest, hrest.isInfix.trans (infix_of_mem_splitOnP hline), harguments⟩

/-! ## Targets as pieces -/

/-- What `targetOf?` gives is an infix of the argument. -/
theorem infix_of_targetOf? (h : targetOf? alone argument = some target) : target <:+: argument := by
  unfold targetOf? at h
  split at h
  · cases h
  · split at h
    · next text rest hliteral =>
      obtain ⟨quote, -, rfl, -⟩ := leadingLiteral?_eq_some_iff.mp hliteral
      split at h
      · cases h
      · cases h
        exact ⟨[quote], quote :: rest, by simp⟩
    · -- an argument without quotes is its first word
      have hword : target ∈ Text.words argument := by
        cases hwords : Text.words argument with
        | nil => simp [hwords] at h
        | cons word others =>
          rw [hwords] at h
          cases others with
          | nil =>
            cases h
            exact List.mem_cons_self
          | cons other others =>
            simp only at h
            split at h
            · cases h
            · cases h
              exact List.mem_cons_self
      exact Text.infix_of_mem_words hword

/-- Every member of `d.targets` is an infix of `d.arguments`. -/
theorem infix_of_mem_targets (h : target ∈ d.targets) : target <:+: d.arguments := by
  unfold Directive.targets at h
  split at h
  · obtain ⟨argument, hargument, htarget⟩ := List.mem_filterMap.mp h
    obtain ⟨piece, hpiece, rfl⟩ := exists_of_mem_splitArguments hargument
    exact (infix_of_targetOf? htarget).trans ((Text.trim_infix piece).trans hpiece)
  · exact infix_of_targetOf? (Option.mem_toList.mp h)

/-! ## Every stylesheet is read -/

/-- `l.mapM f = .ok (l.map g)` if `f a = .ok (g a)` for every member. -/
theorem mapM_eq_ok_map {α β ε : Type} {f : α → Except ε β} {g : α → β} {l : List α}
    (h : ∀ a ∈ l, f a = .ok (g a)) :
    l.mapM f = .ok (l.map g) := by
  induction l with
  | nil => rfl
  | cons a l ih =>
    rw [List.mapM_cons, h a List.mem_cons_self, ih fun b hb => h b (List.mem_cons_of_mem a hb)]
    rfl

/-- `d.readCandidates` succeeds for trimmed arguments, and its candidates are `d.targets`. -/
theorem exists_readCandidates_eq (h : ∃ piece, d.arguments = Text.trim piece) :
    ∃ candidates, d.readCandidates = .ok candidates ∧ candidates.filterMap id = d.targets := by
  obtain ⟨kind, position, arguments⟩ := d
  obtain ⟨piece, rfl⟩ : ∃ piece, arguments = Text.trim piece := h
  -- every kind but `@import` has one argument
  have hone : ∃ candidates, [Text.trim piece].mapM (readTarget false) = .ok candidates ∧
      candidates.filterMap id = (targetOf? false (Text.trim piece)).toList := by
    refine ⟨[Text.trim piece].map (targetOf? false), mapM_eq_ok_map ?_, ?_⟩
    · intro argument hargument
      rw [List.mem_singleton.mp hargument]
      exact readTarget_trim false piece
    · rw [List.map_singleton]
      cases targetOf? false (Text.trim piece) <;> rfl
  cases kind with
  | imports =>
    refine ⟨(splitArguments (Text.trim piece)).map (targetOf? true), mapM_eq_ok_map ?_, ?_⟩
    · intro argument hargument
      obtain ⟨part, -, rfl⟩ := exists_of_mem_splitArguments hargument
      exact readTarget_trim true part
    · rw [List.filterMap_map]
      rfl
  | uses => exact hone
  | forwards => exact hone

/-- `keepTarget` puts new candidates that are no plain imports behind the targets that have been
seen. -/
theorem foldl_keepTarget (seen : List (List Char)) (candidates : List (Option (List Char))) :
    candidates.foldl keepTarget seen.eraseDups =
      (seen ++ (candidates.filterMap id).filter fun target => !isPlainImport target).eraseDups := by
  induction candidates generalizing seen with
  | nil => simp
  | cons candidate candidates ih =>
    cases candidate with
    | none => exact ih seen
    | some target =>
      have hcons : (some target :: candidates).filterMap id = target :: candidates.filterMap id :=
        rfl
      rw [List.foldl_cons, hcons, List.filter_cons]
      cases hplain : isPlainImport target with
      | true =>
        rw [keepTarget, if_pos (by simp [hplain]), if_neg (by simp)]
        exact ih seen
      | false =>
        have hkeep : keepTarget seen.eraseDups (some target) = (seen ++ [target]).eraseDups := by
          rw [eraseDups_append_singleton, keepTarget]
          simp [hplain]
        rw [hkeep, ih, if_pos (by simp), List.append_assoc, List.singleton_append]

/-- `readFrom` puts the new targets of directives behind those that have been seen, if their
arguments are trimmed. -/
theorem readFrom_eraseDups {ds : List Directive}
    (h : ∀ d ∈ ds, ∃ piece, d.arguments = Text.trim piece) (seen : List (List Char)) :
    readFrom seen.eraseDups ds =
      .ok (seen ++ (ds.flatMap Directive.targets).filter fun target =>
        !isPlainImport target).eraseDups := by
  induction ds generalizing seen with
  | nil => simp [readFrom]
  | cons d ds ih =>
    obtain ⟨candidates, hread, htargets⟩ := exists_readCandidates_eq (h d List.mem_cons_self)
    have hrest := ih fun other hother => h other (List.mem_cons_of_mem d hother)
    rw [readFrom, hread, Except.bind, foldl_keepTarget, htargets, hrest, List.flatMap_cons,
      List.filter_append, List.append_assoc]

/-- Live directives are directives. -/
theorem mem_directives_of_mem_liveDirectives {dialect : Dialect} {text : List Char}
    (h : d ∈ liveDirectives dialect text) : d ∈ directives dialect text :=
  List.mem_of_mem_filter h

/-- `readFrom []` of the live directives is `.ok (importTargets dialect source)`. -/
theorem readFrom_liveDirectives (dialect : Dialect) (source : List Char) :
    readFrom [] (liveDirectives dialect (stripComments source)) =
      .ok (importTargets dialect source) := by
  refine readFrom_eraseDups (fun d hd => ?_) []
  obtain ⟨piece, -, harguments⟩ :=
    exists_of_mem_directives (mem_directives_of_mem_liveDirectives hd)
  exact ⟨piece, harguments⟩

/-- What every import of a stylesheet is: a target of at least one character, no plain import, and a
piece of the stylesheet without its comments. -/
structure IsWrittenIn (source : List Char) (target : String) : Prop where
  ne_empty : target ≠ ""
  not_plain : isPlainImport target.toList = false
  isInfix : target.toList <:+: stripComments source

/-- Every member of `importTargets dialect source` `IsWrittenIn` the source. -/
theorem isWrittenIn_of_mem_importTargets {dialect : Dialect} {source : List Char}
    (h : target ∈ importTargets dialect source) : IsWrittenIn source (String.ofList target) := by
  rw [importTargets, List.mem_eraseDups, List.mem_filter, List.mem_flatMap] at h
  obtain ⟨⟨d, hd, htarget⟩, hplain⟩ := h
  have hplain : isPlainImport target = false := by simpa using hplain
  obtain ⟨piece, hpiece, harguments⟩ :=
    exists_of_mem_directives (mem_directives_of_mem_liveDirectives hd)
  have hinfix : target <:+: Text.trim piece := by
    rw [← harguments]
    exact infix_of_mem_targets htarget
  refine ⟨?_,
    by simpa using hplain, by simpa using hinfix.trans ((Text.trim_infix piece).trans hpiece)⟩
  intro hempty
  rw [String.ofList_eq_empty_iff.mp hempty] at hplain
  cases hplain

/-- `readImports dialect source = .ok (imports dialect source)` for every text. The imports have no
duplicates, and each of them `IsWrittenIn` the source: it is not empty, and no plain import. -/
theorem readImports_eq_ok_imports (dialect : Dialect) (source : List Char) :
    readImports dialect source = .ok (imports dialect source) ∧ (imports dialect source).Nodup ∧
      ∀ target ∈ imports dialect source, IsWrittenIn source target := by
  refine ⟨?_, ?_, ?_⟩
  · rw [readImports, readFrom_liveDirectives]
    rfl
  · apply List.Nodup.map fun _ _ => String.ofList_injective
    exact nodup_eraseDups _
  · intro target htarget
    obtain ⟨cs, hcs, rfl⟩ := List.mem_map.mp htarget
    exact isWrittenIn_of_mem_importTargets hcs

-- empty arguments, a parenthesis that opens nothing, one that stays open, blanks for an argument,
-- and an open literal
example : imports .indented "@import c,, \u2003, 'd', ) e, (f, 'g\n@use \u2003\n @use \"h".toList =
    ["c", "d", "\"h"] := by decide +kernel

end Stylesheet

end Restyle
