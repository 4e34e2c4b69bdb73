import Mathlib
import Restyle.Proofs.LiteralSpans

/-! # Removal of comments
Code is kept as it stands (`IsCode.stripFrom_append`), and a comment on lines of its own leaves
nothing but its line breaks. Pieces of a stylesheet that stand on lines of their own lose their
comments one by one (`stripComments_intercalate`). -/

namespace Restyle.Stylesheet

/-! ## The line read so far -/

/-- The line read so far, latest character first, after more of the text. -/
def lineAfter (line : List Char) : List Char → List Char
  | [] => line
  | c :: cs => lineAfter (extendLine c line) cs

/-- `lineAfter line (cs ++ ds) = lineAfter (lineAfter line cs) ds`: the line is read on from where
it stands. -/
theorem lineAfter_append (line cs ds : List Char) :
    lineAfter line (cs ++ ds) = lineAfter (lineAfter line cs) ds := by
  induction cs generalizing line with
  | nil => rfl
  | cons c cs ih => exact ih (extendLine c line)

/-- `lineAfter line cs = cs.reverse ++ line` for a text `cs` without line breaks: within a line,
what has been read of it grows. -/
theorem lineAfter_of_not_mem {cs : List Char} (h : '\n' ∉ cs) (line : List Char) :
    lineAfter line cs = cs.reverse ++ line := by
  induction cs generalizing line with
  | nil => rfl
  | cons c cs ih =>
    rw [List.mem_cons, not_or] at h
    rw [lineAfter, extendLine, if_neg (Ne.symm h.1), ih h.2, List.reverse_cons, List.append_assoc]
    rfl

/-- Every character of `lineAfter line cs` comes from `line` or from `cs`. -/
theorem mem_of_mem_lineAfter {line cs : List Char} {c : Char} (h : c ∈ lineAfter line cs) :
    c ∈ line ∨ c ∈ cs := by
  induction cs generalizing line with
  | nil => exact Or.inl h
  | cons d cs ih =>
    rcases ih h with hline | hcs
    · rw [extendLine] at hline
      split at hline
      · cases hline
      · rcases List.mem_cons.mp hline with rfl | hline
        · exact Or.inr List.mem_cons_self
        · exact Or.inl hline
    · exact Or.inr (List.mem_cons_of_mem d hcs)

/-! ## One character -/

/-- Cons reading of `stripFrom .code`: where neither `/*` nor `//` opens, `c` is kept, and a quote
opens the literal `.literal c`. -/
theorem stripFrom_code_cons {c : Char} {cs : List Char}
    (hblock : ∀ ds, c = '/' → cs = '*' :: ds → False)
    (hline : ∀ ds, c = '/' → cs = '/' :: ds → False) (line : List Char) :
    stripFrom .code line (c :: cs) =
      c :: stripFrom (if Text.isQuote c then .literal c else .code) (extendLine c line) cs := by
  rw [stripFrom]
  · exact hblock
  · exact hline

/-- Cons reading of `stripFrom (.literal quote)`: every character but a backslash is kept, and
`quote` closes the literal. -/
theorem stripFrom_literal_cons {quote c : Char} (hescape : c ≠ '\\') (line cs : List Char) :
    stripFrom (.literal quote) line (c :: cs) =
      c :: stripFrom (if c = quote then .code else .literal quote) (extendLine c line) cs := by
  rw [stripFrom]
  simp [hescape]

/-- `stripFrom .block line (c :: cs) = stripFrom .block (c :: line) cs`: a block comment loses every
character but its line breaks, up to `*/`. -/
theorem stripFrom_block_cons {c : Char} {cs : List Char}
    (hends : ∀ ds, c = '*' → cs = '/' :: ds → False) (hbreak : c ≠ '\n') (line : List Char) :
    stripFrom .block line (c :: cs) = stripFrom .block (c :: line) cs := by
  rw [stripFrom]
  · exact hends
  · exact hbreak

/-- A character that is no quote is kept in code, and code goes on, unless it is a slash that opens
a comment with what follows (`StopsSlash cs` excludes that). -/
theorem stripFrom_cons_of_not_quote {c : Char} {cs : List Char} (hquote : Text.isQuote c = false)
    (hslash : c = '/' → StopsSlash cs) (line : List Char) :
    stripFrom .code line (c :: cs) = c :: stripFrom .code (extendLine c line) cs := by
  have hblock : ∀ ds, c = '/' → cs = '*' :: ds → False := by
    rintro ds rfl rfl
    exact (hslash rfl '*' rfl).2 rfl
  have hline : ∀ ds, c = '/' → cs = '/' :: ds → False := by
    rintro ds rfl rfl
    exact (hslash rfl '/' rfl).1 rfl
  rw [stripFrom_code_cons hblock hline, if_neg (by simp [hquote])]

/-- A single slash opens no comment. -/
example : stripFrom .code [] ['a', '/', 'b', ';'] = ['a', '/', 'b', ';'] := by cbv

/-- `stripFrom .code line ('\n' :: cs) = '\n' :: stripFrom .code [] cs`: a line break is kept and
starts an empty line. -/
theorem stripFrom_break (line cs : List Char) :
    stripFrom .code line ('\n' :: cs) = '\n' :: stripFrom .code [] cs :=
  stripFrom_cons_of_not_quote rfl (fun h => absurd h (by decide)) line

/-- `stripFrom .code line (quote :: cs)` keeps the quote and goes on in `.literal quote`. -/
theorem stripFrom_quote {quote : Char} (hquote : Text.isQuote quote = true) (line cs : List Char) :
    stripFrom .code line (quote :: cs) =
      quote :: stripFrom (.literal quote) (extendLine quote line) cs := by
  have hslash : quote ≠ '/' := Text.ne_of_isQuote hquote rfl
  rw [stripFrom_code_cons (fun _ heq => absurd heq hslash) fun _ heq => absurd heq hslash,
    if_pos hquote]

/-! ## Code -/

/-- `stripFrom (.literal quote)` keeps a `LiteralBody quote body` as it stands, be the literal
closed or not. -/
theorem stripFrom_literal_append {quote : Char} {body : List Char} (h : LiteralBody quote body)
    (line rest : List Char) :
    stripFrom (.literal quote) line (body ++ rest) =
      body ++ stripFrom (.literal quote) (lineAfter line body) rest := by
  induction h generalizing line with
  | nil => rfl
  | char hne hescape _ _ ih =>
    rw [List.cons_append, stripFrom_literal_cons hescape, if_neg hne, ih]
    rfl
  | escape _ _ ih =>
    rw [List.cons_append, List.cons_append, stripFrom, ih]
    rfl

/-- A literal `body ++ [quote]` is kept whole, its closing quote included, and what follows is
code. -/
theorem stripFrom_literal {quote : Char} {body : List Char} (h : LiteralBody quote body)
    (hquote : Text.isQuote quote = true) (line rest : List Char) :
    stripFrom (.literal quote) line (body ++ quote :: rest) =
      body ++ quote :: stripFrom .code (lineAfter line (body ++ [quote])) rest := by
  have hescape : quote ≠ '\\' := Text.ne_of_isQuote hquote rfl
  rw [stripFrom_literal_append h, lineAfter_append, stripFrom_literal_cons hescape, if_pos rfl]
  rfl

/-- `stripFrom .code line (cs ++ rest) = cs ++ stripFrom .code (lineAfter line cs) rest`: code is
kept as it stands, unless its last slash opens a comment with `rest`. -/
theorem IsCode.stripFrom_append {cs rest : List Char} (h : IsCode cs)
    (hslash : cs.getLast? = some '/' → StopsSlash rest) (line : List Char) :
    stripFrom .code line (cs ++ rest) = cs ++ stripFrom .code (lineAfter line cs) rest := by
  induction h generalizing line with
  | nil => rfl
  | @char c cs hquote hc _ ih =>
    cases cs with
    | nil =>
      exact stripFrom_cons_of_not_quote hquote (fun heq => hslash (by simp [heq])) line
    | cons d cs =>
      have hmeet : c = '/' → StopsSlash (d :: cs ++ rest) := hc
      rw [List.cons_append, stripFrom_cons_of_not_quote hquote hmeet,
        ih fun hlast => hslash (by simpa using hlast)]
      rfl
  | @literal quote body cs hquote hbody _ ih =>
    have hline : lineAfter (lineAfter (extendLine quote line) (body ++ [quote])) cs =
        lineAfter line (quote :: (body ++ quote :: cs)) := by
      rw [← lineAfter_append, List.append_assoc]
      rfl
    rw [List.cons_append, List.append_assoc, List.cons_append, stripFrom_quote hquote,
      stripFrom_literal hbody hquote, ih fun hlast =>
        hslash (by simp [List.getLast?_cons, hlast]), hline]
    simp only [List.cons_append, List.append_assoc]

/-! ## Pieces on lines of their own -/

/-- Whether a text is at its end, or at the end of a line. -/
def EndsLine (rest : List Char) : Prop := ∀ c ∈ rest.head?, c = '\n'

/-- The end of the text ends a line. -/
theorem endsLine_nil : EndsLine [] := by simp [EndsLine]

/-- `'\n'` ends a line, whatever follows it. -/
theorem endsLine_break (rest : List Char) : EndsLine ('\n' :: rest) := by simp [EndsLine]

/-- What ends a line opens no comment behind a slash: `EndsLine rest` gives `StopsSlash rest`. -/
theorem EndsLine.stopsSlash {rest : List Char} (h : EndsLine rest) : StopsSlash rest := by
  intro c hc
  rw [h c hc]
  decide

/-- `stripFrom .code line rest = stripFrom .code [] rest` where `rest` ends the line: it no longer
matters what `line` is. -/
theorem stripFrom_code_of_endsLine {rest : List Char} (h : EndsLine rest) (line : List Char) :
    stripFrom .code line rest = stripFrom .code [] rest := by
  cases rest with
  | nil => rw [stripFrom, stripFrom]
  | cons c cs =>
    obtain rfl : c = '\n' := h c rfl
    rw [stripFrom_break, stripFrom_break]

/-- `stripFrom .line line rest = stripFrom .code [] rest` where `rest` ends the line: the comment
ends there. -/
theorem stripFrom_line_of_endsLine {rest : List Char} (h : EndsLine rest) (line : List Char) :
    stripFrom .line line rest = stripFrom .code [] rest := by
  cases rest with
  | nil => rw [stripFrom, stripFrom]
  | cons c cs =>
    obtain rfl : c = '\n' := h c rfl
    rw [stripFrom, stripFrom_break]

/-- Whether `left` is left of a piece that stands on lines of its own. -/
def Leaves (source left : List Char) : Prop :=
  ∀ rest, EndsLine rest → stripFrom .code [] (source ++ rest) = left ++ stripFrom .code [] rest

/-- The first of several lines stands before a line break: `['\n'].intercalate` of `a :: b :: items`
is `text a ++ '\n' ::` the others. -/
theorem intercalate_map_cons_cons {α : Type} (text : α → List Char) (a b : α) (items : List α) :
    ['\n'].intercalate ((a :: b :: items).map text) =
      text a ++ '\n' :: ['\n'].intercalate ((b :: items).map text) :=
  rfl

/-- `stripComments` works line by line on pieces with `Leaves (source a) (left a)`: the result is
the lines `left a`, joined as before. -/
theorem stripComments_intercalate {α : Type} {items : List α} {source left : α → List Char}
    (h : ∀ a ∈ items, Leaves (source a) (left a)) :
    stripComments (['\n'].intercalate (items.map source)) =
      ['\n'].intercalate (items.map left) := by
  induction items with
  | nil => rfl
  | cons a items ih =>
    have hhead : Leaves (source a) (left a) := h a List.mem_cons_self
    cases items with
    | nil =>
      have hlast : stripFrom .code [] (source a ++ []) = left a ++ stripFrom .code [] [] :=
        hhead [] endsLine_nil
      simpa [stripComments, stripFrom] using hlast
    | cons b items =>
      have hrest : stripFrom .code [] (['\n'].intercalate ((b :: items).map source)) =
          ['\n'].intercalate ((b :: items).map left) :=
            ih fun d hd => h d (List.mem_cons_of_mem a hd)
      rw [stripComments, intercalate_map_cons_cons, intercalate_map_cons_cons,
        hhead _ (endsLine_break _), stripFrom_break, hrest]

/-- Code at the end of a line is kept, and the next line is read from `[]`:
`cs ++ stripFrom .code [] rest`. -/
theorem IsCode.stripFrom_of_endsLine {cs rest : List Char} (h : IsCode cs) (hrest : EndsLine rest)
    (line : List Char) : stripFrom .code line (cs ++ rest) = cs ++ stripFrom .code [] rest := by
  rw [h.stripFrom_append fun _ => hrest.stopsSlash, stripFrom_code_of_endsLine hrest]

/-- `Leaves cs cs` for code `cs`: it loses nothing. -/
theorem IsCode.leaves {cs : List Char} (h : IsCode cs) : Leaves cs cs :=
  fun _ hrest => h.stripFrom_of_endsLine hrest []

/-! ## Comments -/

/-- `occursIn word cs` finds a place of `word` in `cs`, so that `word <:+: cs`. -/
theorem isInfix_of_occursIn {word cs : List Char} (h : occursIn word cs = true) : word <:+: cs := by
  induction cs with
  | nil =>
    rw [occursIn, List.isEmpty_iff] at h
    rw [h]
  | cons c cs ih =>
    rw [occursIn, Bool.or_eq_true, List.isPrefixOf_iff_prefix] at h
    rcases h with hstart | hlater
    · exact hstart.isInfix
    · exact (ih hlater).trans (List.suffix_cons c cs).isInfix

/-- Without an open parenthesis, `//` is part of an address only behind a colon. -/
theorem inAddress_of_paren_not_mem {line : List Char} (h : '(' ∉ line) :
    inAddress line = ((line.dropWhile Text.isBlank).head? == some ':') := by
  have hopen : occursIn "(lru".toList (line.takeWhile (· ≠ ')')) = false := by
    rw [Bool.eq_false_iff]
    intro hoccurs
    exact h ((List.takeWhile_prefix _).subset ((isInfix_of_occursIn hoccurs).subset (by decide)))
  rw [inAddress, hopen, Bool.or_false]

/-- `inAddress line = false` for a line of blanks, which holds no `url(`. -/
theorem inAddress_of_blank {line : List Char} (h : ∀ c ∈ line, Text.isBlank c = true) :
    inAddress line = false := by
  have hparen : '(' ∉ line := fun hmem => absurd (h '(' hmem) (by decide)
  rw [inAddress_of_paren_not_mem hparen, List.dropWhile_eq_nil_iff.mpr h]
  rfl

/-- A blank is neither a quote nor a slash. -/
theorem isPlain_of_isBlank {c : Char} (h : Text.isBlank c = true) :
    Text.isQuote c = false ∧ c ≠ '/' := by
  refine ⟨?_, Text.ne_of_isBlank h rfl⟩
  simp [Text.isQuote, Text.ne_of_isBlank h (d := '"') rfl, Text.ne_of_isBlank h (d := '\'') rfl]

/-- A blank behind a slash opens no comment: `StopsSlash rest` where `rest` starts with a blank, or
is empty. -/
theorem stopsSlash_of_isBlank {rest : List Char} (h : ∀ c ∈ rest.head?, Text.isBlank c = true) :
    StopsSlash rest :=
  fun c hc => ⟨Text.ne_of_isBlank (h c hc) rfl, Text.ne_of_isBlank (h c hc) rfl⟩

/-- Blanks alone are code. -/
theorem isCode_of_blank {cs : List Char} (h : ∀ c ∈ cs, Text.isBlank c = true) : IsCode cs :=
  (isPlain_of_forall fun c hc => isPlain_of_isBlank (h c hc)).isCode

/-- Code `cs` stays code when a character `c` that is no quote, slash or star and then blanks are
added to it. -/
theorem IsCode.append_cons_blank {cs after : List Char} {c : Char} (h : IsCode cs)
    (hquote : Text.isQuote c = false) (hc : c ≠ '/' ∧ c ≠ '*')
    (hafter : ∀ d ∈ after, Text.isBlank d = true) :
    IsCode (cs ++ c :: after) :=
  h.append_of_stopsSlash (.char hquote (fun heq => absurd heq hc.1) (isCode_of_blank hafter))
    (stopsSlash_cons hc)

/-- `stripFrom .line line (text ++ rest) = stripFrom .line (text.reverse ++ line) rest`: a text
without line breaks is lost in a comment to the end of its line. -/
theorem stripFrom_line {text : List Char} (h : '\n' ∉ text) (line rest : List Char) :
    stripFrom .line line (text ++ rest) = stripFrom .line (text.reverse ++ line) rest := by
  induction text generalizing line with
  | nil => rfl
  | cons c text ih =>
    rw [List.mem_cons, not_or] at h
    rw [List.cons_append, stripFrom_line_cons (Ne.symm h.1), ih h.2, List.reverse_cons,
      List.append_assoc]
    rfl

/-- `stripFrom .code [] (before ++ rest)` keeps the blanks `before`, and reads `rest` as code, so
that a comment can open there. -/
theorem stripFrom_blank {before : List Char} (h : ∀ c ∈ before, Text.isBlank c = true)
    (rest : List Char) :
    stripFrom .code [] (before ++ rest) = before ++ stripFrom .code (lineAfter [] before) rest := by
  refine (isCode_of_blank h).stripFrom_append (fun hlast => ?_) []
  exact absurd (h '/' (List.mem_of_getLast? hlast)) (by decide)

/-- `Leaves (before ++ '/' :: '/' :: text) before`: behind blanks, a comment to the end of its line
leaves nothing. -/
theorem leaves_lineComment {before text : List Char} (hbefore : ∀ c ∈ before, Text.isBlank c = true)
    (htext : '\n' ∉ text) : Leaves (before ++ '/' :: '/' :: text) before := by
  intro rest hrest
  have haddress : inAddress (lineAfter [] before) = false := inAddress_of_blank fun c hc =>
    (mem_of_mem_lineAfter hc).elim (fun hnil => absurd hnil List.not_mem_nil) (hbefore c)
  rw [List.append_assoc, stripFrom_blank hbefore, List.cons_append, List.cons_append, stripFrom,
    if_neg (by simp [haddress]), stripFrom_line htext, stripFrom_line_of_endsLine hrest]

/-- A block comment leaves `text.filter (· == '\n')`, its line breaks, and code goes on behind
`*/`. -/
theorem stripFrom_block {text : List Char} (h : ¬ ['*', '/'] <:+: text) (line rest : List Char) :
    stripFrom .block line (text ++ '*' :: '/' :: rest) =
      text.filter (· == '\n') ++ stripFrom .code ('/' :: '*' :: lineAfter line text) rest := by
  induction text generalizing line with
  | nil => rw [List.nil_append, stripFrom]; rfl
  | cons c text ih =>
    have htext : ¬ ['*', '/'] <:+: text :=
      fun hend => h (hend.trans (List.suffix_cons c text).isInfix)
    by_cases hbreak : c = '\n'
    · subst hbreak
      rw [List.cons_append, stripFrom, ih htext]
      rfl
    · -- a star that ends the comment here would have ended it within the text
      have hopen : ∀ ds, c = '*' → text ++ '*' :: '/' :: rest = '/' :: ds → False := by
        rintro ds rfl heq
        cases text with
        | nil => simp at heq
        | cons d text =>
          obtain rfl : d = '/' := by simpa using congrArg List.head? heq
          exact h (List.prefix_append ['*', '/'] text).isInfix
      rw [List.cons_append, stripFrom_block_cons hopen hbreak, ih htext,
        List.filter_cons_of_neg (by simpa using hbreak), lineAfter, extendLine, if_neg hbreak]

/-- `Leaves` of a line with the block comment `/* text */`: the blanks around it and its line breaks
are left. -/
theorem leaves_blockComment {before text after : List Char}
    (hbefore : ∀ c ∈ before, Text.isBlank c = true) (htext : ¬ ['*', '/'] <:+: text)
    (hafter : ∀ c ∈ after, Text.isBlank c = true) :
    Leaves (before ++ '/' :: '*' :: (text ++ '*' :: '/' :: after))
      (before ++ (text.filter (· == '\n') ++ after)) := by
  intro rest hrest
  rw [List.append_assoc, stripFrom_blank hbefore, List.cons_append, List.cons_append, stripFrom,
    List.append_assoc, List.cons_append, List.cons_append, stripFrom_block htext,
    (isCode_of_blank hafter).stripFrom_of_endsLine hrest]
  simp only [List.append_assoc]

end Restyle.Stylesheet
