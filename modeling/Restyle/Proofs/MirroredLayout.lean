import Mathlib
import Restyle.Proofs.RelativePaths
import Restyle.Render.Destination

/-! # Mirrored layout
An output directory is meant to mirror the layout of the sources below their root. Where a source
lies is told by the path that leads from the root to its stem, and not to the source itself. Main
statement: the layout is mirrored for a source unless that path begins with two dots and leads
through a directory, or the stem is the root (`OutputLayout.isMirrored_destination_iff`). -/

namespace Restyle.OutputLayout

/-! ## Mirroring -/

variable {l : OutputLayout} {out root src : String} {names front : List Path.Component}
  {name : Path.Component}

/-- The layout mirrors the sources below `root` in the directory `out`: no output file is given. -/
structure MirrorsInto (l : OutputLayout) (out root : String) : Prop where
  outputFile_eq : givenPath l.outputFile = none
  outputDir_eq : givenPath l.outputDir = some out
  rootDir_eq : givenPath l.rootDir = some root
  isCanonical : Path.IsCanonical root

/-- The names lead from `root` down to `src`: read from `root` they make `src`, but for the leading
slashes, of which each path may have one or two. -/
def IsWayBelow (root src : String) (names : List Path.Component) : Prop :=
  names ≠ [] ∧ (∀ c ∈ names, Path.IsName c) ∧
    Path.components src.toList = Path.components (Path.join root (Path.ofNames names)).toList

/-- `IsWayBelow root src names` exactly if the components of `src` are those of `root` and then
`names ≠ []`. -/
theorem isWayBelow_iff : IsWayBelow root src names ↔
    names ≠ [] ∧ Path.components src.toList = Path.components root.toList ++ names := by
  constructor
  · rintro ⟨hne, hnames, hsame⟩
    exact ⟨hne, hsame.trans (Path.components_join root hne hnames)⟩
  · rintro ⟨hne, hway⟩
    have hnames : ∀ c ∈ names, Path.IsName c := fun c hc =>
      Path.isName_of_mem_components (by rw [hway]; exact List.mem_append_right _ hc)
    exact ⟨hne, hnames, hway.trans (Path.components_join root hne hnames).symm⟩

/-- The path `p` in the output directory, with its extension replaced. -/
def outputAt (dir out p : String) : String :=
  Path.normalize dir (Path.join out (Path.stem p ++ ".css"))

/-- The output file `dest` mirrors the layout: it lies where the source lies below the root, and at
the top of the output directory if the source lies elsewhere. -/
structure IsMirrored (dir out root src dest : String) : Prop where
  below : ∀ names, IsWayBelow root src names → dest = outputAt dir out (Path.ofNames names)
  elsewhere : (∀ names, ¬ IsWayBelow root src names) → dest = outputAt dir out (Path.fileName src)

/-- The way leads through a directory, and begins with two dots. -/
def IsVeiled : List Path.Component → Prop
  | first :: _ :: _ => ['.', '.'] <+: first
  | _ => False

instance : DecidablePred IsVeiled
  | [] => .isFalse id
  | [_] => .isFalse id
  | first :: _ :: _ => inferInstanceAs (Decidable (['.', '.'] <+: first))

/-- A way of at least two names is veiled exactly if its first name begins with `..`. -/
theorem isVeiled_cons_append (first : Path.Component) (front : List Path.Component)
    (name : Path.Component) :
    IsVeiled (first :: front ++ [name]) ↔ ['.', '.'] <+: first := by
  cases front <;> exact Iff.rfl

/-- A way below ends at the name of the source, and the stem of the source ends with that name's
stem. -/
theorem IsWayBelow.ends (h : IsWayBelow root src (front ++ [name])) (hsrc : Path.IsCanonical src) :
    (∀ c ∈ front, Path.IsName c) ∧ Path.IsName name ∧ Path.fileName src = String.ofList name ∧
      Path.components (Path.stem src).toList =
        Path.components root.toList ++ (front ++ [(Path.splitName name).1]) := by
  obtain ⟨-, hway⟩ := isWayBelow_iff.mp h
  have hnil : Path.components src.toList ≠ [] := by rw [hway]; simp
  obtain ⟨above, last, habove, hlast, hcomponents, hfile, -, hstem, -⟩ :=
    hsrc.exists_components_eq_append hnil
  rw [hcomponents, ← List.append_assoc] at hway
  obtain ⟨rfl, hname⟩ := List.append_inj' hway rfl
  obtain rfl : last = name := List.singleton_inj.mp hname
  rw [List.append_assoc] at hstem
  exact ⟨fun c hc => habove c (List.mem_append_right _ hc), hlast, hfile, hstem⟩

section Destinations

variable (hl : l.MirrorsInto out root)

include hl

/-- `l.destination dir src` is where `out` and `l.mirroredStem` of the stem lead. -/
theorem MirrorsInto.destination_eq (dir src : String) :
    l.destination dir src = Path.normalize dir
      (Path.join out (l.mirroredStem dir (Path.stem src) ++ ".css")) := by
  unfold destination
  rw [hl.outputFile_eq, hl.outputDir_eq]

/-- `l.mirroredStem dir p` is the relative path of `p`, or its name alone if that path begins with
`..`. -/
theorem MirrorsInto.mirroredStem_eq (dir p : String) : l.mirroredStem dir p =
    if ['.', '.'] <+: (Path.relative dir p root).toList then Path.fileName p
      else Path.relative dir p root := by
  unfold mirroredStem
  rw [hl.rootDir_eq]
  simp only [List.isPrefixOf_iff_prefix]

variable (hsrc : Path.IsCanonical src)

include hsrc

/-- `l.mirroredStem` of the stem of a source below the root are the names up to the stem, or the
name alone if the way `IsVeiled`. -/
theorem MirrorsInto.mirroredStem_of_isWayBelow (h : IsWayBelow root src (front ++ [name]))
    (dir : String) :
    l.mirroredStem dir (Path.stem src) =
      if IsVeiled (front ++ [name]) then Path.stem (Path.fileName src)
      else Path.stem (Path.ofNames (front ++ [name])) := by
  obtain ⟨hfront, hname, hfile, hstem⟩ := h.ends hsrc
  have hrelative := Path.relative_eq_ofNames hsrc.stem hl.isCanonical (by simp) hstem dir
  rw [hl.mirroredStem_eq, hrelative, hsrc.fileName_stem, Path.stem_ofNames front hname]
  cases front with
  | nil =>
    -- the name alone is the way
    have hsame : Path.stem (Path.fileName src) =
        Path.ofNames ([] ++ [(Path.splitName name).1]) := by
      rw [hfile, ← Path.ofNames_singleton, ← Path.stem_ofNames [] hname]
      rfl
    rw [hsame, ite_self, ite_self]
  | cons first front =>
    have hfirst : Path.IsName first := hfront first List.mem_cons_self
    simp only [isVeiled_cons_append]
    rw [List.cons_append]
    simp only [Path.dots_prefix_ofNames hfirst]

/-- If the stem is the root, the path is `.`. -/
theorem MirrorsInto.destination_of_components_eq
    (h : Path.components (Path.stem src).toList = Path.components root.toList) (dir : String) :
    l.destination dir src = Path.normalize dir (Path.join out "..css") := by
  have hrelative := Path.relative_eq_dot hsrc.stem hl.isCanonical h dir
  have hdot : ¬ ['.', '.'] <+: ".".toList := by decide
  rw [hl.destination_eq, hl.mirroredStem_eq, hrelative, if_neg hdot]
  rfl

/-- `l.destination dir src` is at the top of `out` for a source that lies neither below the root nor
beside it under its name. -/
theorem MirrorsInto.destination_of_elsewhere (hnot : ∀ names, ¬ IsWayBelow root src names)
    (hne : Path.components (Path.stem src).toList ≠ Path.components root.toList) (dir : String) :
    l.destination dir src = outputAt dir out (Path.fileName src) := by
  have houtside : ¬ Path.components root.toList <+: Path.components (Path.stem src).toList := by
    rintro ⟨names, hnames⟩
    by_cases hnil : Path.components src.toList = []
    · rw [(hsrc.stem_of_components_eq_nil hnil).1, hnil] at hnames hne
      exact hne (List.append_eq_nil_iff.mp hnames).1.symm
    · -- what leads to the stem leads to the source too, under another last name
      obtain ⟨front, name, -, -, hcomponents, -, -, hstem, -⟩ :=
        hsrc.exists_components_eq_append hnil
      obtain rfl | ⟨way, last, rfl⟩ := List.eq_nil_or_concat' names
      · exact hne (by rw [← hnames, List.append_nil])
      · rw [hstem, ← List.append_assoc] at hnames
        obtain ⟨hfront, -⟩ := List.append_inj' hnames rfl
        refine hnot (way ++ [name]) (isWayBelow_iff.mpr ⟨by simp, ?_⟩)
        rw [hcomponents, ← hfront, List.append_assoc]
  rw [hl.destination_eq, hl.mirroredStem_eq,
    if_pos (Path.dots_prefix_relative hsrc.stem hl.isCanonical houtside dir), hsrc.fileName_stem]
  rfl

end Destinations

/-! ## Different output files -/

/-- A path that is given is not empty. -/
theorem ne_empty_of_givenPath {p : Option String} (h : givenPath p = some out) : out ≠ "" := by
  unfold givenPath at h
  simpa using (Option.filter_eq_some_iff.mp h).2

/-- The name of the output file of a name. -/
def outputName (name : Path.Component) : Path.Component := (Path.splitName name).1 ++ ".css".toList

/-- The name of an output file is a name. -/
theorem isName_outputName (h : Path.IsName name) : Path.IsName (outputName name) :=
  h.splitName.append_extension (by decide) ⟨'c', by decide, by decide⟩

/-- `outputAt` of a row of names ends with the `outputName` of the last one. -/
theorem outputAt_ofNames (dir out : String) (front : List Path.Component)
    (hname : Path.IsName name) :
    outputAt dir out (Path.ofNames (front ++ [name])) =
      Path.normalize dir (Path.join out (Path.ofNames (front ++ [outputName name]))) := by
  rw [outputAt, Path.stem_ofNames front hname, Path.ofNames_append, outputName]

/-- `outputAt` of one name is its `outputName` at the top of `out`. -/
theorem outputAt_ofList (dir out : String) (hname : Path.IsName name) :
    outputAt dir out (String.ofList name) =
      Path.normalize dir (Path.join out (Path.ofNames [outputName name])) := by
  have htop := outputAt_ofNames dir out [] hname
  rwa [List.nil_append, List.nil_append, Path.ofNames_singleton] at htop

/-- `outputAt` of a row of at least two names is not `outputAt` of the last one alone. -/
theorem outputAt_ofNames_ne (hout : out ≠ "") (hne : front ≠ [])
    (hfront : ∀ c ∈ front, Path.IsName c) (hname : Path.IsName name) (dir : String) :
    outputAt dir out (Path.ofNames (front ++ [name])) ≠ outputAt dir out (String.ofList name) := by
  intro heq
  rw [outputAt_ofNames dir out front hname, outputAt_ofList dir out hname] at heq
  have hfile := List.forall_mem_singleton.mpr (isName_outputName hname)
  have hnames :=
    Path.normalize_join_ofNames_inj hout (by simp) (List.forall_mem_append.mpr ⟨hfront, hfile⟩)
    (List.cons_ne_nil _ _) hfile heq
  simp [hne] at hnames

/-- No source has the output file `..css` at the top of the output directory by its name. -/
theorem outputAt_fileName_ne (hout : out ≠ "") (hsrc : Path.IsCanonical src) (dir : String) :
    outputAt dir out (Path.fileName src) ≠ Path.normalize dir (Path.join out "..css") := by
  obtain ⟨file, hfile, hne, htop⟩ : ∃ file : Path.Component, Path.IsName file ∧
      file ≠ "..css".toList ∧
      outputAt dir out (Path.fileName src) =
        Path.normalize dir (Path.join out (Path.ofNames [file])) := by
    by_cases hnil : Path.components src.toList = []
    · rw [(hsrc.stem_of_components_eq_nil hnil).2]
      have hempty : Path.stem "" = "" := by decide
      have hfile : Path.ofNames [".css".toList] = "" ++ ".css" := by decide
      exact ⟨".css".toList, by decide, by decide, by rw [outputAt, hempty, hfile]⟩
    · obtain ⟨-, name, -, hname, -, hfile, -⟩ := hsrc.exists_components_eq_append hnil
      refine ⟨outputName name, isName_outputName hname, fun heq => hname.splitName.ne_dot ?_, ?_⟩
      · have hdots : "..css".toList = ['.'] ++ ".css".toList := by decide
        exact List.append_cancel_right (heq.trans hdots)
      · rw [hfile, outputAt_ofList dir out hname]
  have hdots : Path.ofNames ["..css".toList] = "..css" := by decide
  intro heq
  rw [htop, ← hdots] at heq
  have hnames := Path.normalize_join_ofNames_inj hout (List.cons_ne_nil _ _)
    (List.forall_mem_singleton.mpr hfile)
    (List.cons_ne_nil _ _) (by decide) heq
  exact hne (List.singleton_inj.mp hnames)

/-! ## When the layout is mirrored -/

/-- The stem of a source below the root is not the root. -/
theorem components_stem_ne (hsrc : Path.IsCanonical src) (h : IsWayBelow root src names) :
    Path.components (Path.stem src).toList ≠ Path.components root.toList := by
  obtain ⟨front, name, rfl⟩ := (List.eq_nil_or_concat' names).resolve_left h.1
  obtain ⟨-, -, -, hstem⟩ := h.ends hsrc
  rw [hstem]
  simp

/-- A source to which a veiled way leads goes elsewhere than `outputAt` that way. -/
theorem outputAt_fileName_ne_of_isVeiled (hout : out ≠ "") (hsrc : Path.IsCanonical src)
    (h : IsWayBelow root src names) (hveiled : IsVeiled names) (dir : String) :
    outputAt dir out (Path.fileName src) ≠ outputAt dir out (Path.ofNames names) := by
  obtain ⟨front, name, rfl⟩ := (List.eq_nil_or_concat' names).resolve_left h.1
  obtain ⟨hfront, hname, hfile, -⟩ := h.ends hsrc
  have hne : front ≠ [] := by
    rintro rfl
    exact hveiled
  rw [hfile]
  exact (outputAt_ofNames_ne hout hne hfront hname dir).symm

/-- A canonical source has a destination. It mirrors the layout exactly if no veiled way leads from
the root to the source, and the stem of the source is not the root. Otherwise the output file lies
at the top of the output directory: under its own name in the one case, and as `..css` in the
other. -/
theorem isMirrored_destination_iff (hl : l.MirrorsInto out root) (hsrc : Path.IsCanonical src)
    (dir : String) :
    l.destinationOf dir src = .ok (l.destination dir src) ∧
      (IsMirrored dir out root src (l.destination dir src) ↔
        (∀ names, IsWayBelow root src names → ¬ IsVeiled names) ∧
          Path.components (Path.stem src).toList ≠ Path.components root.toList) ∧
      (∀ names, IsWayBelow root src names → IsVeiled names →
        l.destination dir src = outputAt dir out (Path.fileName src)) ∧
      (Path.components (Path.stem src).toList = Path.components root.toList →
        l.destination dir src = Path.normalize dir (Path.join out "..css")) := by
  have hout := ne_empty_of_givenPath hl.outputDir_eq
  have hsome : ¬ (l.mirrors = true ∧ Path.stem src = "") := fun h => hsrc.stem.ne_empty h.2
  -- below the root the destination depends on whether the way is veiled
  have hbelow : ∀ names, IsWayBelow root src names → l.destination dir src =
      if IsVeiled names then outputAt dir out (Path.fileName src)
        else outputAt dir out (Path.ofNames names) := by
    intro names hway
    obtain ⟨front, name, rfl⟩ := (List.eq_nil_or_concat' names).resolve_left hway.1
    rw [hl.destination_eq, hl.mirroredStem_of_isWayBelow hsrc hway]
    split <;> rfl
  refine ⟨if_neg hsome, ⟨?_, ?_⟩, ?_, fun h => hl.destination_of_components_eq hsrc h dir⟩
  · rintro ⟨hmirrored, helsewhere⟩
    constructor
    · intro names hway hveiled
      have hdest := hmirrored names hway
      rw [hbelow names hway, if_pos hveiled] at hdest
      exact outputAt_fileName_ne_of_isVeiled hout hsrc hway hveiled dir hdest
    · intro heq
      have hnot : ∀ names, ¬ IsWayBelow root src names :=
        fun names hway => components_stem_ne hsrc hway heq
      exact outputAt_fileName_ne hout hsrc dir
        ((helsewhere hnot).symm.trans (hl.destination_of_components_eq hsrc heq dir))
  · rintro ⟨hplain, hne⟩
    exact ⟨fun names hway => by rw [hbelow names hway, if_neg (hplain names hway)],
      fun hnot => hl.destination_of_elsewhere hsrc hnot hne dir⟩
  · intro names hway hveiled
    rw [hbelow names hway, if_pos hveiled]

/-- The sources below `/w` are mirrored in `/o`. -/
def intoO : OutputLayout where
  outputDir := some "/o"
  rootDir := some "/w"

/-- `intoO` mirrors `/w` into `/o`. -/
theorem mirrorsInto_intoO : intoO.MirrorsInto "/o" "/w" := by
  have hroot : Path.normalize "/" "/w" = "/w" := by decide
  exact ⟨rfl, by decide, by decide, Path.isCanonical_of_normalize_eq hroot⟩

/-- A name that begins with one dot is mirrored. -/
theorem isMirrored_hiddenDirectory :
    intoO.MirrorsInto "/o" "/w" ∧ Path.IsCanonical "/w/.a/b.scss" ∧
      intoO.destination "/" "/w/.a/b.scss" = "/o/.a/b.css" ∧
      IsMirrored "/" "/o" "/w" "/w/.a/b.scss" (intoO.destination "/" "/w/.a/b.scss") := by
  have hself : Path.normalize "/" "/w/.a/b.scss" = "/w/.a/b.scss" := by decide
  have hsrc : Path.IsCanonical "/w/.a/b.scss" := Path.isCanonical_of_normalize_eq hself
  refine ⟨mirrorsInto_intoO, hsrc, by decide, ?_⟩
  refine (isMirrored_destination_iff mirrorsInto_intoO hsrc "/").2.1.mpr ⟨?_, by decide⟩
  intro names h
  obtain ⟨-, hway⟩ := isWayBelow_iff.mp h
  have hcomponents : Path.components "/w/.a/b.scss".toList =
      Path.components "/w".toList ++ [".a".toList, "b.scss".toList] := by decide
  obtain rfl := List.append_cancel_left (hcomponents.symm.trans hway)
  decide

/-- Below a directory whose name begins with two dots nothing is mirrored, and neither is a source
beside the root that is named like it. -/
theorem not_isMirrored_destination :
    ¬ IsMirrored "/" "/o" "/w" "/w/..a/b.scss" (intoO.destination "/" "/w/..a/b.scss") ∧
      ¬ IsMirrored "/" "/o" "/w/a" "/w/a.scss"
        (({ intoO with rootDir := some "/w/a" } : OutputLayout).destination "/" "/w/a.scss") := by
  constructor
  · rintro ⟨hbelow, -⟩
    have hway : IsWayBelow "/w" "/w/..a/b.scss" ["..a".toList, "b.scss".toList] :=
      isWayBelow_iff.mpr ⟨List.cons_ne_nil _ _, by decide⟩
    exact absurd (hbelow _ hway) (by decide)
  · rintro ⟨-, helsewhere⟩
    have hnot : ∀ names, ¬ IsWayBelow "/w/a" "/w/a.scss" names := by
      intro names h
      obtain ⟨-, hway⟩ := isWayBelow_iff.mp h
      have hsrc : Path.components "/w/a.scss".toList = ["w".toList, "a.scss".toList] := by
        decide
      have hroot : Path.components "/w/a".toList = ["w".toList, "a".toList] := by decide
      rw [hsrc, hroot] at hway
      simp at hway
    exact absurd (helsewhere hnot) (by decide)

end Restyle.OutputLayout
