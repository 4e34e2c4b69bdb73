import Mathlib
import Restyle.Proofs.CanonicalPath
import Restyle.Render.Compiler

/-! # Commands of the compiler
What an argument list tells the compiler. Style, load paths, source map and dialect can be read off
it; source and destination stand in one argument, parted by a colon, and a path may hold colons too.
Main statement: two commands for canonical paths are the same exactly if they say the same of all
these, but for paths that lead through a directory whose name ends with a colon: there one text can
be parted at either colon (`Compiler.command_eq_iff_of_isCanonical`). -/

namespace Restyle.Compiler

variable {ω : Type} {o o' : RenderOptions ω}

/-! ## Arguments in a row -/

/-- `xs.map f ++ a :: as` determines `xs`, `a` and `as`, where `f` is injective and neither `a` nor
`b` is one of its values. -/
theorem map_append_cons_inj {α β : Type} {f : α → β} (hf : Function.Injective f)
    {xs ys : List α} {a b : β} {as bs : List β} (ha : ∀ x, f x ≠ a) (hb : ∀ x, f x ≠ b)
    (h : xs.map f ++ a :: as = ys.map f ++ b :: bs) :
    xs = ys ∧ a = b ∧ as = bs := by
  induction xs generalizing ys with
  | nil =>
    cases ys with
    | nil => exact ⟨rfl, List.cons_eq_cons.mp h⟩
    | cons y ys => exact absurd (List.cons_eq_cons.mp h).1.symm (ha y)
  | cons x xs ih =>
    cases ys with
    | nil => exact absurd (List.cons_eq_cons.mp h).1 (hb x)
    | cons y ys =>
      obtain ⟨hhead, htail⟩ := List.cons_eq_cons.mp h
      obtain ⟨hrest, hlast⟩ := ih htail
      exact ⟨by rw [hf hhead, hrest], hlast⟩

/-- `"--load-path=" ++ p` determines `p`. -/
theorem loadPath_injective : Function.Injective fun p : String => "--load-path=" ++ p :=
  fun _ _ h => (String.append_right_inj _).mp h

/-- `"--load-path=" ++ p` is neither `"--source-map"` nor `"--no-source-map"`. -/
theorem loadPath_ne_flag (b : Bool) (p : String) :
    "--load-path=" ++ p ≠ if b then "--source-map" else "--no-source-map" := by
  intro heq
  have hletter := congrArg (fun s : String => s.toList[2]?) heq
  cases b <;> simp at hletter

/-! ## What a command says -/

/-- The two options differ in nothing that a command says besides source and destination. -/
structure ToldAlike (o o' : RenderOptions ω) : Prop where
  style_eq : compilerStyle o.outputStyle = compilerStyle o'.outputStyle
  includePaths_eq : o.includePaths = o'.includePaths
  sourceMap_eq : o.sourceMap = o'.sourceMap
  indented_eq : o.indented = o'.indented

/-- The last argument of the command for `o` is parted by the command for `o'` at a later colon. -/
def PartsLater (o o' : RenderOptions ω) : Prop :=
  ∃ between, o'.src = o.src ++ ":" ++ between ∧ o.dest = between ++ ":" ++ o'.dest

/-- `c.command o = c.command o'` exactly if `ToldAlike o o'` and both end with the same text
`src:dest`. -/
theorem command_eq_iff (c : Compiler) :
    c.command o = c.command o' ↔ ToldAlike o o' ∧ o.src ++ ":" ++ o.dest =
      o'.src ++ ":" ++ o'.dest := by
  constructor
  · intro h
    simp only [command, List.cons_append, List.nil_append, List.append_assoc, List.cons_eq_cons,
      true_and] at h
    obtain ⟨hstyle, hrest⟩ := h
    obtain ⟨hpaths, hflag, hends⟩ :=
      map_append_cons_inj loadPath_injective (loadPath_ne_flag o.sourceMap)
        (loadPath_ne_flag o'.sourceMap) hrest
    have hmap : o.sourceMap = o'.sourceMap := by
      cases hm : o.sourceMap <;> cases hm' : o'.sourceMap <;> simp [hm, hm'] at hflag ⊢
    -- whether there is one argument more tells the dialect
    have hdialect : o.indented = o'.indented ∧ o.src ++ ":" ++ o.dest =
        o'.src ++ ":" ++ o'.dest := by
      cases hi : o.indented <;> cases hi' : o'.indented <;>
        simp [hi, hi'] at hends ⊢ <;> exact hends
    exact ⟨⟨(String.append_right_inj _).mp hstyle, hpaths, hmap, hdialect.1⟩, hdialect.2⟩
  · rintro ⟨⟨hstyle, hpaths, hmap, hindented⟩, hlast⟩
    simp only [command, hstyle, hpaths, hmap, hindented, hlast]

/-- Equal texts `src:dest` have equal parts, or are parted at two different colons:
`PartsLater o o'` or `PartsLater o' o`. -/
theorem last_eq_iff : o.src ++ ":" ++ o.dest = o'.src ++ ":" ++ o'.dest ↔
    (o.src = o'.src ∧ o.dest = o'.dest) ∨ PartsLater o o' ∨ PartsLater o' o := by
  constructor
  · intro h
    have hchars : o.src.toList ++ ':' :: o.dest.toList =
        o'.src.toList ++ ':' :: o'.dest.toList := by
      simpa using congrArg String.toList h
    -- what the longer one of the two sources has more begins with the colon of the other
    have hpart : ∀ p q : RenderOptions ω, ∀ more, q.src.toList = p.src.toList ++ more →
        ':' :: p.dest.toList = more ++ ':' :: q.dest.toList → (p.src = q.src ∧ p.dest = q.dest) ∨
        PartsLater p q := by
      intro p q more hsrc hdest
      cases more with
      | nil =>
        left
        simpa [← String.toList_inj] using And.intro hsrc.symm hdest
      | cons d between =>
        obtain ⟨rfl, hbetween⟩ := List.cons_eq_cons.mp hdest
        right
        refine ⟨String.ofList between, ?_, ?_⟩
        · simpa [← String.toList_inj] using hsrc
        · simpa [← String.toList_inj] using hbetween
    rcases List.append_eq_append_iff.mp hchars with ⟨more, hsrc, hdest⟩ | ⟨more, hsrc, hdest⟩
    · rcases hpart o o' more hsrc hdest with hsame | hlater
      · exact .inl hsame
      · exact .inr (.inl hlater)
    · rcases hpart o' o more hsrc hdest with hsame | hlater
      · exact .inl ⟨hsame.1.symm, hsame.2.symm⟩
      · exact .inr (.inr hlater)
  · rintro (⟨hsrc, hdest⟩ | ⟨between, hsrc, hdest⟩ | ⟨between, hsrc, hdest⟩)
    · rw [hsrc, hdest]
    · rw [hsrc, hdest]
      simp only [String.append_assoc]
    · rw [hsrc, hdest]
      simp only [String.append_assoc]

/-! ## Colons in paths -/

/-- The path leads through a directory whose name ends with a colon. -/
def EntersColon (p : String) : Prop := [':', '/'] <:+: p.toList

/-- `front ++ ":" ++ rest` enters a directory whose name ends with a colon if `rest` is an absolute
path. -/
theorem entersColon_of_append {front rest : String} (h : Path.isAbsolute rest = true) :
    EntersColon (front ++ ":" ++ rest) := by
  have hslash : rest.toList.head? = some '/' := by simpa [Path.isAbsolute] using h
  obtain ⟨after, hrest⟩ := List.head?_eq_some_iff.mp hslash
  refine ⟨front.toList, after, ?_⟩
  simp [hrest]

/-- Where absolute paths part later in `o'` than in `o`, the source of `o'` and the destination of
`o` satisfy `EntersColon`. -/
theorem PartsLater.entersColon (h : PartsLater o o') (hdest : Path.isAbsolute o.dest = true)
    (hdest' : Path.isAbsolute o'.dest = true) : EntersColon o'.src ∧ EntersColon o.dest := by
  obtain ⟨between, hsrc, hparted⟩ := h
  have hbetween : Path.isAbsolute between = true := by
    rw [hparted] at hdest
    cases hchars : between.toList with
    | nil => simp [Path.isAbsolute, hchars] at hdest
    | cons d rest => simpa [Path.isAbsolute, hchars] using hdest
  rw [hsrc, hparted]
  exact ⟨entersColon_of_append hbetween, entersColon_of_append hdest'⟩

/-! ## Which commands are the same -/

/-- Two commands for canonical paths are the same exactly if they say the same of style, load paths,
source map and dialect and of source and destination, unless the source of the one and the
destination of the other lead through directories whose names end with a colon, and the two commands
part the same text there. -/
theorem command_eq_iff_of_isCanonical (c : Compiler) (hdest : Path.IsCanonical o.dest)
    (hdest' : Path.IsCanonical o'.dest) :
    c.command o = c.command o' ↔ ToldAlike o o' ∧
      ((o.src = o'.src ∧ o.dest = o'.dest) ∨
        (PartsLater o o' ∧ EntersColon o'.src ∧ EntersColon o.dest) ∨
        (PartsLater o' o ∧ EntersColon o.src ∧ EntersColon o'.dest)) := by
  have hlater : PartsLater o o' ↔ PartsLater o o' ∧ EntersColon o'.src ∧ EntersColon o.dest :=
    (and_iff_left_of_imp fun h => h.entersColon hdest.isAbsolute hdest'.isAbsolute).symm
  have hearlier : PartsLater o' o ↔ PartsLater o' o ∧ EntersColon o.src ∧ EntersColon o'.dest :=
    (and_iff_left_of_imp fun h => h.entersColon hdest'.isAbsolute hdest.isAbsolute).symm
  rw [command_eq_iff, last_eq_iff, ← hlater, ← hearlier]

/-- Options that say nothing else. -/
def files (src dest : String) (includePaths : List String) : RenderOptions Unit :=
  { src, dest, includePaths }

/-- A load path that looks like another argument is told apart, two colons are not. -/
theorem command_eq_iff_twoColons :
    Path.IsCanonical "/o/t:/a.css" ∧ Path.IsCanonical "/a.css" ∧ ∀ paths : List String,
      (({} : Compiler).command (files "/w/a.sass" "/o/t:/a.css" ["--source-map"]) =
        ({} : Compiler).command (files "/w/a.sass:/o/t" "/a.css" paths) ↔
        paths = ["--source-map"]) := by
  have hdest : Path.normalize "/" "/o/t:/a.css" = "/o/t:/a.css" := by decide
  have hdest' : Path.normalize "/" "/a.css" = "/a.css" := by decide
  have hcanonical := Path.isCanonical_of_normalize_eq hdest
  have hcanonical' := Path.isCanonical_of_normalize_eq hdest'
  refine ⟨hcanonical, hcanonical', fun paths => ?_⟩
  refine (command_eq_iff_of_isCanonical {} hcanonical hcanonical').trans ⟨?_, ?_⟩
  · rintro ⟨halike, -⟩
    exact halike.includePaths_eq.symm
  · rintro rfl
    have hlater : PartsLater (files "/w/a.sass" "/o/t:/a.css" ["--source-map"])
        (files "/w/a.sass:/o/t" "/a.css" ["--source-map"]) := ⟨"/o/t", by decide, by decide⟩
    have hcolons : EntersColon "/w/a.sass:/o/t" ∧ EntersColon "/o/t:/a.css" :=
      ⟨⟨"/w/a.sass".toList, "o/t".toList, by decide⟩, ⟨"/o/t".toList, "a.css".toList, by decide⟩⟩
    exact ⟨⟨rfl, rfl, rfl, rfl⟩, .inr (.inl ⟨hlater, hcolons⟩)⟩

/-- For a source below a directory whose name ends with a colon the command is that of other
files. -/
theorem command_eq_of_entersColon :
    (∀ p ∈ ["/a:/b.scss", "/c.css", "/a", "/b.scss:/c.css"], Path.IsCanonical p) ∧
      ({} : Compiler).command (files "/a:/b.scss" "/c.css" []) =
        ({} : Compiler).command (files "/a" "/b.scss:/c.css" []) ∧
      "/a:/b.scss" ≠ "/a" ∧ "/c.css" ≠ "/b.scss:/c.css" := by
  have hself : ∀ p ∈ ["/a:/b.scss", "/c.css", "/a", "/b.scss:/c.css"],
      Path.normalize "/" p = p := by
    decide
  exact ⟨fun p hp => Path.isCanonical_of_normalize_eq (hself p hp), by decide, by decide, by decide⟩

end Restyle.Compiler
