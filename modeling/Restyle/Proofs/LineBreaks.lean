import Mathlib
import Restyle.Proofs.ArgumentTargets

/-! # Line breaks with carriage returns
Carriage returns in front of line breaks change none of the targets that a directive names: they are
blanks like the breaks themselves, and a literal is over before either of them. Main statement:
`Rebroken.targets_eq`. -/

namespace Restyle

namespace Text

/-- Whether the second text is the first one with a carriage return in front of some of its line
breaks. -/
inductive Rebroken : List Char → List Char → Prop where
  | nil : Rebroken [] []
  | keep (c : Char) {cs ds : List Char} (h : Rebroken cs ds) : Rebroken (c :: cs) (c :: ds)
  | add {cs ds : List Char} (h : Rebroken cs ds) : Rebroken ('\n' :: cs) ('\r' :: '\n' :: ds)

namespace Rebroken

variable {cs ds : List Char}

/-- `Rebroken cs cs`: no line break has to be changed. -/
theorem refl (cs : List Char) : Rebroken cs cs := by
  induction cs with
  | nil => exact .nil
  | cons c cs ih => exact .keep c ih

/-- Of two such texts, one is empty exactly if the other is. -/
theorem nil_iff (h : Rebroken cs ds) : cs = [] ↔ ds = [] := by
  cases h <;> simp

/-- A character `d ≠ '\r'` at the front of `ds` stands at the front of `cs` as well, and what
follows is `Rebroken` too. -/
theorem exists_of_cons {d : Char} (h : Rebroken cs (d :: ds)) (hd : d ≠ '\r') :
    ∃ rest, cs = d :: rest ∧ Rebroken rest ds := by
  cases h with
  | @keep _ rest _ h => exact ⟨rest, rfl, h⟩
  | add h => exact absurd rfl hd

/-- `ds` starts with a character `d ≠ '\r'` only if `cs` does. -/
theorem ne_cons (h : Rebroken cs ds) {d : Char} (hd : d ≠ '\r') (hne : ∀ rest, cs ≠ d :: rest)
    (rest : List Char) :
    ds ≠ d :: rest := by
  rintro rfl
  obtain ⟨rest, heq, -⟩ := h.exists_of_cons hd
  exact hne rest heq

/-- `Rebroken` goes through `++`: the two parts can be changed one after the other. -/
theorem append (h : Rebroken cs ds) {cs' ds' : List Char} (h' : Rebroken cs' ds') :
    Rebroken (cs ++ cs') (ds ++ ds') := by
  induction h with
  | nil => exact h'
  | keep c h ih => exact .keep c ih
  | add h ih => exact .add ih

/-- Every character of `ds` is one of `cs` or `'\r'`. -/
theorem mem_of_mem (h : Rebroken cs ds) {c : Char} (hc : c ∈ ds) : c ∈ cs ∨ c = '\r' := by
  induction h with
  | nil => cases hc
  | keep d h ih =>
    rcases List.mem_cons.mp hc with rfl | hc
    · exact .inl List.mem_cons_self
    · exact (ih hc).imp_left (List.mem_cons_of_mem d)
  | add h ih =>
    rcases List.mem_cons.mp hc with rfl | hc
    · exact .inr rfl
    rcases List.mem_cons.mp hc with rfl | hc
    · exact .inl List.mem_cons_self
    · exact (ih hc).imp_left (List.mem_cons_of_mem '\n')

/-- `cs ⊆ ds`: nothing is taken away. -/
theorem subset (h : Rebroken cs ds) : cs ⊆ ds := by
  induction h with
  | nil => exact List.Subset.refl []
  | keep c h ih => exact List.cons_subset_cons c ih
  | add h ih => exact List.subset_cons_of_subset '\r' (List.cons_subset_cons '\n' ih)

/-- `ds = cs` if `cs` has no line break. -/
theorem eq_of_not_mem (h : Rebroken cs ds) (hbreak : '\n' ∉ cs) : ds = cs := by
  induction h with
  | nil => rfl
  | keep c h ih => rw [ih fun hmem => hbreak (List.mem_cons_of_mem c hmem)]
  | add h ih => exact absurd List.mem_cons_self hbreak

/-- `ds = cs` if `ds` has no line break. -/
theorem eq_of_not_mem_right (h : Rebroken cs ds) (hbreak : '\n' ∉ ds) : ds = cs :=
  h.eq_of_not_mem fun hmem => hbreak (h.subset hmem)

/-! ### Texts in two parts -/

/-- `ds` falls into two parts as `l ++ m` does, each `Rebroken` from its own. -/
theorem exists_of_append_left {l m : List Char} (h : Rebroken (l ++ m) ds) :
    ∃ l' m', ds = l' ++ m' ∧ Rebroken l l' ∧ Rebroken m m' := by
  induction l generalizing ds with
  | nil => exact ⟨[], ds, rfl, .nil, h⟩
  | cons c l ih =>
    cases h with
    | keep _ h =>
      obtain ⟨l', m', rfl, hl, hm⟩ := ih h
      exact ⟨c :: l', m', rfl, .keep c hl, hm⟩
    | add h =>
      obtain ⟨l', m', rfl, hl, hm⟩ := ih h
      exact ⟨'\r' :: '\n' :: l', m', rfl, .add hl, hm⟩

/-- `cs` falls into two parts as `l' ++ m'` does, if the cut separates no `'\r'` from its `'\n'`. -/
theorem exists_of_append_right {l' m' : List Char} (h : Rebroken cs (l' ++ m'))
    (hpart : l'.getLast? = some '\r' → m'.head? ≠ some '\n') :
    ∃ l m, cs = l ++ m ∧ Rebroken l l' ∧ Rebroken m m' := by
  generalize hds : l' ++ m' = ds at h
  -- the cut of the right-hand text decides the one on the left
  induction h generalizing l' with
  | nil =>
    obtain ⟨rfl, rfl⟩ := List.append_eq_nil_iff.mp hds
    exact ⟨[], [], rfl, .nil, .nil⟩
  | @keep c cs ds h ih =>
    cases l' with
    | nil =>
      rw [List.nil_append] at hds
      exact ⟨[], c :: cs, rfl, .nil, hds ▸ .keep c h⟩
    | cons d l' =>
      obtain ⟨rfl, rfl⟩ := List.cons_eq_cons.mp hds
      obtain ⟨l, m, rfl, hl, hm⟩ :=
        ih (fun hlast => hpart (by rw [List.getLast?_cons, hlast]; rfl)) rfl
      exact ⟨d :: l, m, rfl, .keep d hl, hm⟩
  | @add cs ds h ih =>
    match l' with
    | [] =>
      rw [List.nil_append] at hds
      exact ⟨[], '\n' :: cs, rfl, .nil, hds ▸ .add h⟩
    | [d] =>
      -- a cut between `\r` and the `\n` it belongs to is ruled out by `hpart`
      cases hds
      exact absurd rfl (hpart rfl)
    | d :: e :: l' =>
      cases hds
      obtain ⟨l, m, rfl, hl, hm⟩ :=
        ih (fun hlast => hpart (by rw [List.getLast?_cons, List.getLast?_cons, hlast]; rfl)) rfl
      exact ⟨'\n' :: l, m, rfl, .add hl, hm⟩

/-- `ds = l ++ m'` for a start `l` of `cs` without line breaks. -/
theorem exists_of_start {l m : List Char} (hl : '\n' ∉ l) (h : Rebroken (l ++ m) ds) :
    ∃ m', ds = l ++ m' ∧ Rebroken m m' := by
  obtain ⟨l', m', rfl, hstart, hm⟩ := h.exists_of_append_left
  exact ⟨m', by rw [hstart.eq_of_not_mem hl], hm⟩

/-- `cs = l ++ m` for a start `l` of `ds` without line breaks, if the cut behind it separates no
`'\r'` from its `'\n'`. -/
theorem exists_of_start_right {l m' : List Char} (hl : '\n' ∉ l) (h : Rebroken cs (l ++ m'))
    (hpart : l.getLast? = some '\r' → m'.head? ≠ some '\n') : ∃ m, cs = l ++ m ∧ Rebroken m m' := by
  obtain ⟨l', m, rfl, hstart, hm⟩ := h.exists_of_append_right hpart
  exact ⟨m, by rw [hstart.eq_of_not_mem_right hl], hm⟩

/-- `word <+: cs ↔ word <+: ds` for a word without `'\n'` and `'\r'`. -/
theorem prefix_iff {word : List Char} (hbreak : '\n' ∉ word) (hreturn : '\r' ∉ word)
    (h : Rebroken cs ds) :
    word <+: cs ↔ word <+: ds := by
  constructor
  · rintro ⟨m, rfl⟩
    obtain ⟨m', rfl, -⟩ := exists_of_start hbreak h
    exact List.prefix_append word m'
  · rintro ⟨m', rfl⟩
    obtain ⟨m, rfl, -⟩ := exists_of_start_right hbreak h fun hlast =>
      absurd (List.mem_of_getLast? hlast) hreturn
    exact List.prefix_append word m

/-! ### Runs, words and blanks at the ends -/

section Runs

variable {p : Char → Bool} (hp : p '\r' = p '\n')
include hp

/-- `Rebroken` goes through `List.dropWhile p` for a `p` that holds of `'\r'` exactly if it holds of
`'\n'`. -/
theorem dropWhile (h : Rebroken cs ds) : Rebroken (cs.dropWhile p) (ds.dropWhile p) := by
  induction h with
  | nil => exact .nil
  | keep c h ih =>
    rw [List.dropWhile_cons, List.dropWhile_cons]
    split
    · exact ih
    · exact .keep c h
  | add h ih =>
    rw [List.dropWhile_cons, List.dropWhile_cons, List.dropWhile_cons, hp]
    split
    · exact ih
    · exact .add h

/-- `Rebroken` goes through `List.takeWhile p` for a `p` that holds of `'\r'` exactly if it holds of
`'\n'`. -/
theorem takeWhile (h : Rebroken cs ds) : Rebroken (cs.takeWhile p) (ds.takeWhile p) := by
  induction h with
  | nil => exact .nil
  | keep c h ih =>
    rw [List.takeWhile_cons, List.takeWhile_cons]
    split
    · exact .keep c ih
    · exact .nil
  | add h ih =>
    rw [List.takeWhile_cons, List.takeWhile_cons, List.takeWhile_cons, hp]
    split
    · exact .add ih
    · exact .nil

end Runs

/-- `Rebroken` goes through `List.map f` for an `f` that keeps `'\r'` and `'\n'`. -/
theorem map {f : Char → Char} (hreturn : f '\r' = '\r') (hbreak : f '\n' = '\n')
    (h : Rebroken cs ds) :
    Rebroken (cs.map f) (ds.map f) := by
  induction h with
  | nil => exact .nil
  | keep c h ih => exact .keep (f c) ih
  | add h ih =>
    rw [List.map_cons, List.map_cons, List.map_cons, hreturn, hbreak]
    exact .add ih

/-- `Rebroken` goes through `Text.trimEnd`, since `'\r'` and `'\n'` are both blanks. -/
theorem trimEnd (h : Rebroken cs ds) : Rebroken (Text.trimEnd cs) (Text.trimEnd ds) := by
  induction h with
  | nil => exact .nil
  | keep c h ih =>
    simp only [trimEnd_cons, ih.nil_iff]
    split
    · exact .nil
    · exact .keep c ih
  | @add cs ds h ih =>
    have hreturn : isBlank '\r' = true := rfl
    have hbreak : isBlank '\n' = true := rfl
    simp only [trimEnd_cons, hreturn, hbreak, ih.nil_iff, true_and]
    by_cases hnil : Text.trimEnd ds = []
    · simpa [hnil] using .nil
    · simpa [hnil] using .add ih

/-- `Rebroken` goes through `Text.trim`, since `'\r'` and `'\n'` are both blanks. -/
theorem trim (h : Rebroken cs ds) : Rebroken (Text.trim cs) (Text.trim ds) :=
  (h.dropWhile rfl).trimEnd

/-- `words (word ++ cs) = words (word ++ ds)`: an added `'\r'` parts no word that `'\n'` did not
part. -/
theorem words_append_eq (h : Rebroken cs ds) (word : List Char) :
    words (word ++ cs) = words (word ++ ds) := by
  induction h generalizing word with
  | nil => rfl
  | keep c h ih => simpa using ih (word ++ [c])
  | add h ih =>
    rw [words_append_cons_of_isBlank rfl, words_append_cons_of_isBlank rfl,
      words_cons_of_isBlank rfl]
    exact congrArg (words word ++ ·) (ih [])

/-- `words cs = words ds`. -/
theorem words_eq (h : Rebroken cs ds) : words cs = words ds := h.words_append_eq []

end Rebroken

end Text

namespace Stylesheet

open Text (Rebroken)

variable {cs ds : List Char}

/-! ## Targets of arguments -/

/-- `isAddress cs = isAddress ds`: its tests are of prefixes and suffixes without line breaks. -/
theorem isAddress_eq_of_rebroken (h : Rebroken cs ds) : isAddress cs = isAddress ds := by
  have hprefix : "url(".toList <+: cs.map Char.toLower ↔ "url(".toList <+: ds.map Char.toLower :=
    Rebroken.prefix_iff (by decide) (by decide) (h.map (by decide) (by decide))
  rw [isAddress, isAddress, Bool.eq_iff_iff, List.isPrefixOf_iff_prefix,
    List.isPrefixOf_iff_prefix, hprefix]

/-- `leadingLiteral?` reads the same literal from both texts, and `Rebroken` rests behind it. -/
theorem leadingLiteral?_of_rebroken (h : Rebroken cs ds) :
    Option.Rel (fun found found' => found.1 = found'.1 ∧ Rebroken found.2 found'.2)
      (leadingLiteral? cs)
      (leadingLiteral? ds) := by
  -- a literal holds no line break, so it survives in one piece on either side
  have hunbroken : ∀ {quote : Char} {text : List Char}, Text.isQuote quote = true →
      (∀ c ∈ text, c ≠ quote ∧ c ≠ '\n') → '\n' ∉ quote :: (text ++ [quote]) := by
    intro quote text hquote htext
    have hne : '\n' ≠ quote := (Text.ne_of_isQuote hquote rfl).symm
    simp only [List.mem_cons, List.mem_append, List.not_mem_nil, or_false, not_or]
    exact ⟨hne, fun hmem => (htext '\n' hmem).2 rfl, hne⟩
  cases hcs : leadingLiteral? cs with
  | some found =>
    obtain ⟨text, rest⟩ := found
    obtain ⟨quote, hquote, rfl, htext⟩ := leadingLiteral?_eq_some_iff.mp hcs
    have hparts : Rebroken ((quote :: (text ++ [quote])) ++ rest) ds := by simpa using h
    obtain ⟨rest', rfl, hrest⟩ := Rebroken.exists_of_start (hunbroken hquote htext) hparts
    have hfound : leadingLiteral? (quote :: (text ++ [quote]) ++ rest') = some (text, rest') :=
      leadingLiteral?_eq_some_iff.mpr ⟨quote, hquote, by simp, htext⟩
    rw [hfound]
    exact .some ⟨rfl, hrest⟩
  | none =>
    cases hds : leadingLiteral? ds with
    | none => exact .none
    | some found =>
      obtain ⟨text, rest'⟩ := found
      obtain ⟨quote, hquote, rfl, htext⟩ := leadingLiteral?_eq_some_iff.mp hds
      have hparts : Rebroken cs ((quote :: (text ++ [quote])) ++ rest') := by simpa using h
      -- the literal ends in a quote, so no `\r` is left hanging before the cut
      have hlast : (quote :: (text ++ [quote])).getLast? ≠ some '\r' := by
        have hne : quote ≠ '\r' := Text.ne_of_isQuote hquote rfl
        simpa [List.getLast?_cons] using hne
      obtain ⟨rest, rfl, -⟩ :=
        Rebroken.exists_of_start_right (hunbroken hquote htext) hparts fun h => absurd h hlast
      have hfound : leadingLiteral? (quote :: (text ++ [quote]) ++ rest) = some (text, rest) :=
        leadingLiteral?_eq_some_iff.mpr ⟨quote, hquote, by simp, htext⟩
      rw [hfound] at hcs
      cases hcs

/-- `targetOf? alone cs = targetOf? alone ds`: an argument names the same target. -/
theorem targetOf?_eq_of_rebroken (h : Rebroken cs ds) (alone : Bool) :
    targetOf? alone cs = targetOf? alone ds := by
  have hliteral := leadingLiteral?_of_rebroken h
  simp only [targetOf?, h.nil_iff, isAddress_eq_of_rebroken h, h.words_eq]
  split
  · rfl
  · generalize leadingLiteral? cs = found, leadingLiteral? ds = found' at hliteral
    cases hliteral with
    | none => rfl
    | some hsame =>
      obtain ⟨htext, hrest⟩ := hsame
      simp only [htext, ne_eq, hrest.trim.nil_iff]

/-! ## Lists of arguments -/

/-- `IsProper` is kept by `Nesting.next c`, whatever the character. -/
theorem Nesting.IsProper.next {n : Nesting} (h : n.IsProper) (c : Char) : (n.next c).IsProper := by
  unfold Nesting.next
  split
  · split
    · simp [Nesting.IsProper]
    · exact h
  · next hquote =>
    split
    · next hc => simpa [Nesting.IsProper] using hc
    · split
      · simp [Nesting.IsProper, hquote]
      · split <;> simp [Nesting.IsProper, hquote]

/-- A blank in front is read into the current argument: no blank parts arguments. -/
theorem splitArgumentsFrom_blank {n : Nesting} (hn : n.IsProper) {c : Char}
    (hc : Text.isBlank c = true) (current cs : List Char) :
    splitArgumentsFrom n current (c :: cs) = splitArgumentsFrom n (c :: current) cs := by
  rw [splitArgumentsFrom, if_neg fun hcomma => Text.ne_of_isBlank hc rfl hcomma.1,
    hn.next_of_blank hc]

/-- `splitArgumentsFrom` parts both texts at the same commas: the arguments are `Rebroken` one by
one. -/
theorem splitArgumentsFrom_of_rebroken (h : Rebroken cs ds) {n : Nesting} (hn : n.IsProper)
    {current current' : List Char} (hcurrent : Rebroken current.reverse current'.reverse) :
    List.Forall₂ Rebroken (splitArgumentsFrom n current cs) (splitArgumentsFrom n current' ds) := by
  induction h generalizing n current current' with
  | nil => exact .cons hcurrent.trim .nil
  | keep c h ih =>
    rw [splitArgumentsFrom, splitArgumentsFrom]
    split
    · exact .cons hcurrent.trim (ih hn .nil)
    · refine ih (hn.next c) ?_
      rw [List.reverse_cons, List.reverse_cons]
      exact hcurrent.append (.refl [c])
  | add h ih =>
    rw [splitArgumentsFrom_blank hn rfl, splitArgumentsFrom_blank hn rfl,
      splitArgumentsFrom_blank hn rfl]
    refine ih hn ?_
    rw [List.reverse_cons, List.reverse_cons, List.reverse_cons, List.append_assoc]
    exact hcurrent.append (.add .nil)

/-- `splitArguments` parts both texts at the same commas: the arguments are `Rebroken` one by
one. -/
theorem splitArguments_of_rebroken (h : Rebroken cs ds) :
    List.Forall₂ Rebroken (splitArguments cs) (splitArguments ds) :=
  splitArgumentsFrom_of_rebroken h Nesting.isProper_empty .nil

/-- Lists of arguments that are `Rebroken` one by one name the same targets. -/
theorem filterMap_targetOf?_of_forall₂ {arguments arguments' : List (List Char)}
    (h : List.Forall₂ Rebroken arguments arguments') (alone : Bool) :
    arguments.filterMap (targetOf? alone) = arguments'.filterMap (targetOf? alone) := by
  induction h with
  | nil => rfl
  | cons hfirst _ ih =>
    rw [List.filterMap_cons, List.filterMap_cons, targetOf?_eq_of_rebroken hfirst, ih]

/-- `Directive.targets` are the same for the arguments `Text.trim cs` and `Text.trim ds`, wherever
the directive stands. -/
theorem targets_of_rebroken (h : Rebroken cs ds) (kind : DirectiveKind) (pos pos' : Nat) :
    Directive.targets ⟨kind, pos, Text.trim cs⟩ = Directive.targets ⟨kind, pos', Text.trim ds⟩ := by
  cases kind with
  | imports => exact filterMap_targetOf?_of_forall₂ (splitArguments_of_rebroken h.trim) true
  | uses => exact congrArg Option.toList (targetOf?_eq_of_rebroken h.trim false)
  | forwards => exact congrArg Option.toList (targetOf?_eq_of_rebroken h.trim false)

end Stylesheet

end Restyle
