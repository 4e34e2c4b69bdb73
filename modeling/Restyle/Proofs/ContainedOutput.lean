import Mathlib
import Restyle.Proofs.MirroredLayout

/-! # Contained output
All output of an output directory stays in it. Where a source lies is told by a relative path, and
one that leads up is not followed; what is left are names, which lead down from the directory
(`mirroredStem_append_css`). Main statement: however source, root and directory are spelled, the
directory is a proper ancestor of the destination (`OutputLayout.isAncestor_destination`). -/

namespace Restyle

namespace Path

variable {root : List Char} {parts names : List Component} {base dir out rel src : String}

/-! ## Ancestors -/

/-- On the way from `p` up, from directory to directory, `top` is met above `p`. The root is its own
directory, and not above itself. -/
inductive IsAncestor (top : String) : String → Prop where
  | parent {p : String} (h : directory p = top) (hne : top ≠ p) : IsAncestor top p
  | above {p : String} (h : IsAncestor top (directory p)) : IsAncestor top p

/-- `render root parts` lies above `render root (parts ++ names)` for every row of `names ≠ []`. -/
theorem isAncestor_render (hroot : IsRoot root) (hparts : ∀ c ∈ parts, IsName c) (hne : names ≠ [])
    (hnames : ∀ c ∈ names, IsName c) :
    IsAncestor (String.ofList (render root parts))
      (String.ofList (render root (parts ++ names))) := by
  induction names using List.reverseRecOn with
  | nil => exact absurd rfl hne
  | append_singleton front name ih =>
    obtain ⟨hfront, hlast⟩ := List.forall_mem_append.mp hnames
    have hname : IsName name := List.forall_mem_singleton.mp hlast
    have hbefore : ∀ c ∈ parts ++ front, IsName c := List.forall_mem_append.mpr ⟨hparts, hfront⟩
    have hdirectory := directory_render hroot hbefore hname
    rw [← List.append_assoc]
    by_cases hnil : front = []
    · subst hnil
      rw [List.append_nil] at hbefore hdirectory ⊢
      apply IsAncestor.parent hdirectory
      intro heq
      -- the two texts have different components
      have hmore : ∀ c ∈ parts ++ [name], IsName c := List.forall_mem_append.mpr ⟨hparts, hlast⟩
      have hcomponents := congrArg components (String.ofList_inj.mp heq)
      rw [components_render hroot hparts, components_render hroot hmore] at hcomponents
      simp at hcomponents
    · apply IsAncestor.above
      rw [hdirectory]
      exact ih hnil hfront

/-- `join base rel` keeps the leading slashes of `base` for a relative path `rel`. -/
theorem rootSlashes_join (hbase : base ≠ "") (hrel : isAbsolute rel = false) :
    rootSlashes (join base rel).toList = rootSlashes base.toList := by
  rw [join_of_ne hbase hrel, String.toList_append]
  rcases eq_replicate_or_append base.toList with ⟨n, hslashes⟩ | ⟨front, c, n, hfront, hc⟩
  · -- behind nothing but slashes no other slash is put, and `rel` brings none
    have hfirst : rel.toList.head? ≠ some '/' := by simpa [isAbsolute] using hrel
    rcases n with _ | _ | _ | n
    · exact absurd (String.toList_eq_nil_iff.mp hslashes) hbase
    · rw [hslashes]
      cases hcs : rel.toList with
      | nil => simp [rootSlashes, hcs]
      | cons d cs => simp_all [rootSlashes]
    · rw [hslashes]
      cases hcs : rel.toList with
      | nil => simp [rootSlashes, hcs]
      | cons d cs => simp_all [rootSlashes, List.replicate_succ]
    · rw [hslashes]
      simp [rootSlashes, List.replicate_succ]
  · exact rootSlashes_append ⟨c, by simp [hfront], hc⟩ _

/-- `normalize dir out` lies above `normalize dir (join out (ofNames names))` for every row of
`names ≠ []`. -/
theorem isAncestor_normalize_join (hout : out ≠ "") (hne : names ≠ [])
    (hnames : ∀ c ∈ names, IsName c) (dir : String) :
    IsAncestor (normalize dir out) (normalize dir (join out (ofNames names))) := by
  have hdest : normalize dir (join out (ofNames names)) = String.ofList (render
      (rootSlashes (join dir out).toList) (components (join dir out).toList ++ names)) := by
    unfold normalize
    simp only
    rw [join_join hout (isAbsolute_ofNames hnames),
      rootSlashes_join (join_ne_empty hout dir) (isAbsolute_ofNames hnames), ofNames,
      components_join _ hne hnames]
  rw [hdest]
  exact isAncestor_render (isRoot_rootSlashes _) (fun _ => isName_of_mem_components) hne hnames

/-! ## Relative paths and stems of any spelling -/

/-- `relative dir` gives the same for `target` and `start` as for their normal forms. -/
theorem relative_normalize (dir target start : String) :
    relative dir (normalize dir target) (normalize dir start) = relative dir target start := by
  unfold relative
  rw [(isCanonical_normalize dir target).join_eq, (isCanonical_normalize dir start).join_eq,
    components_normalize, components_normalize]

/-- A relative path begins with two dots, or it is `.`, or it is a row of names. -/
theorem relative_cases (dir target start : String) :
    ['.', '.'] <+: (relative dir target start).toList ∨ relative dir target start = "." ∨
      ∃ names, names ≠ [] ∧ (∀ c ∈ names, IsName c) ∧ relative dir target start =
        ofNames names := by
  have htarget := isCanonical_normalize dir target
  have hstart := isCanonical_normalize dir start
  rw [← relative_normalize]
  by_cases hbelow : components (normalize dir start).toList <+:
    components (normalize dir target).toList
  · obtain ⟨names, hnames⟩ := hbelow
    by_cases hnil : names = []
    · rw [hnil, List.append_nil] at hnames
      exact .inr (.inl (relative_eq_dot htarget hstart hnames.symm dir))
    · have hmem : ∀ c ∈ names, c ∈ components (normalize dir target).toList := by
        intro c hc
        rw [← hnames]
        exact List.mem_append_right _ hc
      exact .inr (.inr ⟨names, hnil, fun c hc => isName_of_mem_components (hmem c hc),
        relative_eq_ofNames htarget hstart hnil hnames.symm dir⟩)
  · exact .inl (dots_prefix_relative htarget hstart hbelow dir)

/-- `stem src ≠ ""` for a path `src ≠ ""`. -/
theorem stem_ne_empty (hsrc : src ≠ "") : stem src ≠ "" := by
  have hparted := isParted_splitAtLastSlash src
  rw [hparted.stem_eq]
  intro hempty
  obtain ⟨hhead, hname⟩ := List.append_eq_nil_iff.mp (String.ofList_eq_empty_iff.mp hempty)
  rcases splitName_cases (splitAtLastSlash src.toList).2 with ⟨front, ext, hdotted, hsplit⟩ |
    ⟨-, hsplit⟩
  · rw [hsplit] at hname
    obtain ⟨c, hc, -⟩ := hdotted.exists_ne_dot
    exact List.ne_nil_of_mem hc hname
  · rw [hsplit] at hname
    apply hsrc
    rw [← String.toList_eq_nil_iff, hparted.toList_eq, hhead]
    exact hname

end Path

namespace OutputLayout

variable {l : OutputLayout} {out src : String}

/-! ## Names of output files -/

/-- A text without a slash, with `.css` behind it, is a name. -/
theorem isName_append_css {name : Path.Component} (h : '/' ∉ name) :
    Path.IsName (name ++ ".css".toList) :=
  Path.isName_append_extension h (by decide) ⟨'c', by decide, by decide⟩

/-- `l.mirroredStem dir p ++ ".css"` is a row of `names ≠ []`, joined by slashes. -/
theorem mirroredStem_append_css (l : OutputLayout) (dir p : String) :
    ∃ names, names ≠ [] ∧ (∀ c ∈ names, Path.IsName c) ∧ l.mirroredStem dir p ++ ".css" =
      Path.ofNames names := by
  -- one text without slashes makes one name
  have hsingle : ∀ (name : Path.Component) (q : String), '/' ∉ name → q = String.ofList name →
      ∃ names, names ≠ [] ∧ (∀ c ∈ names, Path.IsName c) ∧ q ++ ".css" = Path.ofNames names := by
    intro name q hname hq
    refine ⟨[name ++ ".css".toList], List.cons_ne_nil _ _,
      List.forall_mem_singleton.mpr (isName_append_css hname), ?_⟩
    rw [hq, ← Path.ofNames_singleton]
    exact Path.ofNames_append [] name ".css"
  have hparted := Path.isParted_splitAtLastSlash p
  have hfile := hsingle _ _ hparted.no_slash hparted.fileName_eq
  unfold mirroredStem
  split
  · exact hfile
  · next root hroot =>
    simp only [List.isPrefixOf_iff_prefix]
    split
    · exact hfile
    · next hdown =>
      rcases Path.relative_cases dir p root with hup | hdot | ⟨names, hne, hnames, hrelative⟩
      · exact absurd hup hdown
      · exact hsingle ['.'] _ (by decide) (by rw [hdot])
      · obtain ⟨front, name, rfl⟩ := (List.eq_nil_or_concat' names).resolve_left hne
        obtain ⟨hfront, hlast⟩ := List.forall_mem_append.mp hnames
        have hname := isName_append_css (List.forall_mem_singleton.mp hlast).no_slash
        refine ⟨front ++ [name ++ ".css".toList], by simp,
          List.forall_mem_append.mpr ⟨hfront, List.forall_mem_singleton.mpr hname⟩, ?_⟩
        rw [hrelative, Path.ofNames_append]

/-! ## Containment -/

/-- With an output directory `out` and no output file, `l.destinationOf dir src` is `.ok dest` for
every `src ≠ ""`, and `dest` is a canonical path below `Path.normalize dir out`. -/
theorem isAncestor_destination (hfile : givenPath l.outputFile = none)
    (hdir : givenPath l.outputDir = some out) (hsrc : src ≠ "") (dir : String) :
    ∃ dest, l.destinationOf dir src = .ok dest ∧ Path.IsCanonical dest ∧
      Path.IsAncestor (Path.normalize dir out) dest := by
  obtain ⟨names, hne, hnames, hstem⟩ := l.mirroredStem_append_css dir (Path.stem src)
  have hdest : l.destination dir src = Path.normalize dir (Path.join out (Path.ofNames names)) := by
    unfold destination
    rw [hfile, hdir]
    simp only
    rw [hstem]
  refine ⟨l.destination dir src, if_neg fun h => Path.stem_ne_empty hsrc h.2, ?_, ?_⟩
  · rw [hdest]
    exact Path.isCanonical_normalize dir _
  · rw [hdest]
    exact Path.isAncestor_normalize_join (ne_empty_of_givenPath hdir) hne hnames dir

/-- The sources below `s` are mirrored in the directory `css` beside the working directory. -/
def intoSibling : OutputLayout where
  outputDir := some "../css/."
  rootDir := some "./s//"

/-- A source of which only dots are left stays below. -/
theorem isAncestor_destination_dots :
    givenPath intoSibling.outputFile = none ∧ givenPath intoSibling.outputDir = some "../css/." ∧
      Path.normalize "//w" "../css/." = "//css" ∧
      intoSibling.destination "//w" "s/...//..sass/.." = "//css/...css" ∧
      Path.IsAncestor "//css" "//css/...css" := by
  have hfile : givenPath intoSibling.outputFile = none := rfl
  have hdir : givenPath intoSibling.outputDir = some "../css/." := by decide
  have htop : Path.normalize "//w" "../css/." = "//css" := by decide
  have hdest : intoSibling.destinationOf "//w" "s/...//..sass/.." = .ok "//css/...css" := by
    decide
  obtain ⟨dest, hok, -, hancestor⟩ :=
    isAncestor_destination hfile hdir (by decide : "s/...//..sass/.." ≠ "") "//w"
  obtain rfl : "//css/...css" = dest := Except.ok.inj (hdest.symm.trans hok)
  rw [htop] at hancestor
  exact ⟨hfile, hdir, htop, by decide, hancestor⟩

end OutputLayout

end Restyle
