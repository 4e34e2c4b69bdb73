import Mathlib
import Restyle.Proofs.PathParts

/-! # Relative paths
Names in a row make a relative path (`Path.ofNames`). Read from a directory, different ones lead to
different places (`normalize_join_ofNames_inj`). From one canonical path to another the relative
path is the row of names that leads down; if there is none, it is `.` or begins with two dots. -/

namespace Restyle.Path

variable {names front parts : List Component} {name first : Component}
  {base dir out rel src target start : String}

/-! ## Names in a row -/

/-- The relative path that leads through the given names. -/
def ofNames (names : List Component) : String := String.ofList (List.intercalate ['/'] names)

/-- The text of a row of names are the names joined by slashes. -/
@[simp] theorem toList_ofNames (names : List Component) :
    (ofNames names).toList = List.intercalate ['/'] names :=
  String.toList_ofList

/-- `ofNames [name] = String.ofList name`. -/
@[simp] theorem ofNames_singleton (name : Component) : ofNames [name] = String.ofList name := by
  simp [ofNames]

/-- `ofNames (front ++ [name]) ++ text` changes the last name to `name ++ text`. -/
theorem ofNames_append (front : List Component) (name : Component) (text : String) :
    ofNames (front ++ [name]) ++ text = ofNames (front ++ [name ++ text.toList]) := by
  rw [← String.toList_inj, String.toList_append]
  by_cases hfront : front = []
  · simp [hfront]
  · simp [intercalate_append_singleton front hfront]

/-- `stem` of a row of names is the row with the stem of the last one. -/
theorem stem_ofNames (front : List Component) (hname : IsName name) :
    stem (ofNames (front ++ [name])) = ofNames (front ++ [(splitName name).1]) :=
  stem_render (.inl rfl) front hname

/-- A row of names is a relative path. -/
theorem isAbsolute_ofNames (hnames : ∀ c ∈ names, IsName c) :
    isAbsolute (ofNames names) = false := by
  simpa [isAbsolute] using head?_intercalate_ne hnames

/-- A row of names begins with `..` exactly if its first name does. -/
theorem dots_prefix_ofNames (hfirst : IsName first) (names : List Component) :
    ['.', '.'] <+: (ofNames (first :: names)).toList ↔ ['.', '.'] <+: first := by
  rw [toList_ofNames]
  rcases names with _ | ⟨second, names⟩
  · simp
  · rw [List.intercalate_cons_of_ne_nil (by simp)]
    rcases first with _ | ⟨a, _ | ⟨b, first⟩⟩
    · exact absurd rfl hfirst.ne_nil
    · simp
    · simp

/-- A text without slashes, with an extension behind it that is more than dots, is a name. -/
theorem isName_append_extension (hname : '/' ∉ name) {text : String} (hslash : '/' ∉ text.toList)
    (hdot : ∃ c ∈ text.toList, c ≠ '.') : IsName (name ++ text.toList) := by
  obtain ⟨c, hc, hne⟩ := hdot
  have hmem : c ∈ name ++ text.toList := List.mem_append_right _ hc
  refine ⟨List.ne_nil_of_mem hmem, fun heq => hne ?_, fun heq => hne ?_, by simp [hname, hslash]⟩
  · rw [heq] at hmem
    exact List.mem_singleton.mp hmem
  · rw [heq] at hmem
    simpa using hmem

/-- A name with an extension behind it is a name. -/
theorem IsName.append_extension (h : IsName name) {text : String} (hslash : '/' ∉ text.toList)
    (hdot : ∃ c ∈ text.toList, c ≠ '.') : IsName (name ++ text.toList) :=
  isName_append_extension h.no_slash hslash hdot

/-! ## Places below others -/

/-- `components (normalize dir p) = components (join dir p)`. -/
theorem components_normalize (dir p : String) :
    components (normalize dir p).toList = components (join dir p).toList := by
  rw [normalize, String.toList_ofList,
    components_render (isRoot_rootSlashes _) fun _ => isName_of_mem_components]

/-- `join base rel` puts a slash between `base ≠ ""` and a relative path, if there is none. -/
theorem join_of_ne (hbase : base ≠ "") (hrel : isAbsolute rel = false) :
    join base rel = base ++ if base.toList.getLast? = some '/' then rel else "/" ++ rel := by
  rw [join, if_neg (by simp [hrel])]
  simp only [String.toList_eq_nil_iff, hbase, false_or]
  split
  · rfl
  · rw [String.append_assoc]

/-- `isAbsolute (join out rel) = isAbsolute out` for `out ≠ ""` and a relative path `rel`. -/
theorem isAbsolute_join (hout : out ≠ "") (hrel : isAbsolute rel = false) :
    isAbsolute (join out rel) = isAbsolute out := by
  obtain ⟨c, cs, hcs⟩ := List.exists_cons_of_ne_nil (mt String.toList_eq_nil_iff.mp hout)
  rw [join_of_ne hout hrel]
  simp [isAbsolute, hcs]

/-- `join dir out` ends with the last character of `out ≠ ""`. -/
theorem getLast?_join (hout : out ≠ "") (dir : String) :
    (join dir out).toList.getLast? = out.toList.getLast? := by
  have hne : out.toList ≠ [] := mt String.toList_eq_nil_iff.mp hout
  unfold join
  split
  · rfl
  · split
    · rw [String.toList_append, List.getLast?_append_of_ne_nil _ hne]
    · rw [String.toList_append, List.getLast?_append_of_ne_nil _ hne]

/-- `join dir out ≠ ""` for `out ≠ ""`. -/
theorem join_ne_empty (hout : out ≠ "") (dir : String) : join dir out ≠ "" := fun hempty => by
  have hlast := getLast?_join hout dir
  rw [hempty] at hlast
  exact hout (String.toList_eq_nil_iff.mp (List.getLast?_eq_none_iff.mp hlast.symm))

/-- `join dir (join out rel) = join (join dir out) rel` for `out ≠ ""` and a relative path `rel`. -/
theorem join_join (hout : out ≠ "") (hrel : isAbsolute rel = false) (dir : String) :
    join dir (join out rel) = join (join dir out) rel := by
  by_cases habsolute : isAbsolute out = true
  · have hboth : isAbsolute (join out rel) = true := by rw [isAbsolute_join hout hrel, habsolute]
    rw [join.eq_1 dir out, if_pos habsolute, join, if_pos hboth]
  · have hboth : ¬ isAbsolute (join out rel) = true := by rwa [isAbsolute_join hout hrel]
    -- both ways the same slashes are added
    rw [join_of_ne (join_ne_empty hout dir) hrel, getLast?_join hout, join.eq_1 dir (join out rel),
      join.eq_1 dir out, if_neg hboth, if_neg habsolute, join_of_ne hout hrel]
    split <;> simp [String.append_assoc]

/-- `normalize dir (join out (ofNames names))` determines the row of `names ≠ []`. -/
theorem normalize_join_ofNames_inj (hout : out ≠ "") (hne : names ≠ [])
    (hnames : ∀ c ∈ names, IsName c) (hne' : parts ≠ []) (hparts : ∀ c ∈ parts, IsName c)
    (h : normalize dir (join out (ofNames names)) = normalize dir (join out (ofNames parts))) :
    names = parts := by
  have hcomponents := congrArg (fun p : String => components p.toList) h
  simp only [components_normalize] at hcomponents
  rw [join_join hout (isAbsolute_ofNames hnames), join_join hout (isAbsolute_ofNames hparts),
    ofNames, ofNames, components_join _ hne hnames, components_join _ hne' hparts] at hcomponents
  exact List.append_cancel_left hcomponents

/-! ## Stems of canonical paths -/

/-- A canonical path with components has a last one, `name`: it is the `fileName`, and `stem` keeps
the others and takes the stem of `name`. -/
theorem IsCanonical.exists_components_eq_append (h : IsCanonical src)
    (hne : components src.toList ≠ []) :
    ∃ front name, (∀ c ∈ front, IsName c) ∧ IsName name ∧ components src.toList = front ++ [name] ∧
      fileName src = String.ofList name ∧ IsCanonical (stem src) ∧
      components (stem src).toList = front ++ [(splitName name).1] ∧
      fileName (stem src) = String.ofList (splitName name).1 := by
  obtain ⟨slashes, parts, hslashes, hparts, rfl⟩ := h
  rw [String.toList_ofList, components_render hslashes hparts] at hne ⊢
  obtain ⟨front, name, rfl⟩ := (List.eq_nil_or_concat' parts).resolve_left hne
  obtain ⟨hfront, hlast⟩ := List.forall_mem_append.mp hparts
  have hname : IsName name := List.forall_mem_singleton.mp hlast
  have hstem : ∀ c ∈ front ++ [(splitName name).1], IsName c :=
    List.forall_mem_append.mpr ⟨hfront, List.forall_mem_singleton.mpr hname.splitName⟩
  refine ⟨front, name, hfront, hname, rfl,
    (isParted_render hslashes.head_end front hname).fileName_eq, ?_⟩
  rw [stem_render hslashes.head_end front hname]
  refine ⟨⟨slashes, _, hslashes, hstem, rfl⟩, ?_, ?_⟩
  · rw [String.toList_ofList, components_render hslashes hstem]
  · exact (isParted_render hslashes.head_end front hname.splitName).fileName_eq

/-- A canonical path without components is its own `stem`, and has the `fileName` `""`. -/
theorem IsCanonical.stem_of_components_eq_nil (h : IsCanonical src)
    (hnil : components src.toList = []) :
    stem src = src ∧ fileName src = "" := by
  obtain ⟨slashes, parts, hslashes, hparts, rfl⟩ := h
  rw [String.toList_ofList, components_render hslashes hparts] at hnil
  subst hnil
  have hparted : IsParted (String.ofList (render slashes [])) slashes [] :=
    ⟨by simp [render], List.not_mem_nil, hslashes.head_end⟩
  refine ⟨?_, hparted.fileName_eq⟩
  rw [hparted.stem_eq]
  rfl

/-- A canonical path is not empty. -/
theorem IsCanonical.ne_empty (h : IsCanonical src) : src ≠ "" := by
  rintro rfl
  exact Bool.false_ne_true h.isAbsolute

/-- The `stem` of a canonical path is canonical. -/
theorem IsCanonical.stem (h : IsCanonical src) : IsCanonical (stem src) := by
  by_cases hnil : components src.toList = []
  · rwa [(h.stem_of_components_eq_nil hnil).1]
  · obtain ⟨-, -, -, -, -, -, hstem, -⟩ := h.exists_components_eq_append hnil
    exact hstem

/-- `fileName (stem src) = stem (fileName src)` for a canonical path. -/
theorem IsCanonical.fileName_stem (h : IsCanonical src) :
    fileName (Path.stem src) = Path.stem (fileName src) := by
  by_cases hnil : components src.toList = []
  · obtain ⟨hstem, hname⟩ := h.stem_of_components_eq_nil hnil
    rw [hstem, hname]
    decide
  · obtain ⟨-, name, -, hname, -, hfile, -, -, hstem⟩ := h.exists_components_eq_append hnil
    have hsingle := stem_ofNames [] hname
    simp only [List.nil_append, ofNames_singleton] at hsingle
    rw [hstem, hfile, hsingle]

/-! ## Relative paths -/

/-- `dropCommon parts (parts ++ names) = ([], names)`. -/
theorem dropCommon_append (parts names : List Component) :
    dropCommon parts (parts ++ names) = ([], names) := by
  induction parts with
  | nil => cases names <;> rfl
  | cons c parts ih => rw [List.cons_append, dropCommon, if_pos rfl, ih]

/-- `(dropCommon leave arrive).1 ≠ []` unless `leave <+: arrive`. -/
theorem dropCommon_fst_ne_nil {leave arrive : List Component} (h : ¬ leave <+: arrive) :
    (dropCommon leave arrive).1 ≠ [] := by
  fun_induction dropCommon leave arrive with
  | case1 a as bs ih => exact ih fun hprefix => h (List.cons_prefix_cons.mpr ⟨rfl, hprefix⟩)
  | case2 => exact List.cons_ne_nil _ _
  | case3 as bs hnot =>
    rintro rfl
    exact h List.nil_prefix

variable (htarget : IsCanonical target) (hstart : IsCanonical start)

include htarget hstart

/-- `relative dir target start = ofNames names` where `target` has the components of `start` and
then `names ≠ []`. -/
theorem relative_eq_ofNames (hne : names ≠ [])
    (h : components target.toList = components start.toList ++ names) (dir : String) :
    relative dir target start = ofNames names := by
  unfold relative
  rw [htarget.join_eq, hstart.join_eq, h]
  simp only
  rw [dropCommon_append]
  exact if_neg hne

/-- `relative dir target start = "."` where both have the same components. -/
theorem relative_eq_dot (h : components target.toList = components start.toList) (dir : String) :
    relative dir target start = "." := by
  have hdrop := dropCommon_append (components start.toList) []
  rw [List.append_nil] at hdrop
  unfold relative
  rw [htarget.join_eq, hstart.join_eq, h]
  simp only
  rw [hdrop]
  rfl

/-- `relative dir target start` begins with `..` unless the components of `start` are a prefix of
those of `target`. -/
theorem dots_prefix_relative (h : ¬ components start.toList <+: components target.toList)
    (dir : String) :
    ['.', '.'] <+: (relative dir target start).toList := by
  obtain ⟨c, up, hup⟩ := List.exists_cons_of_ne_nil (dropCommon_fst_ne_nil h)
  unfold relative
  rw [htarget.join_eq, hstart.join_eq]
  simp only [hup, List.map_cons, List.cons_append]
  rw [if_neg (List.cons_ne_nil _ _), String.toList_ofList]
  cases up.map (fun _ => ['.', '.']) ++
    (dropCommon (components start.toList) (components target.toList)).2 with
  | nil => simp
  | cons second rest =>
    rw [List.intercalate_cons_of_ne_nil (List.cons_ne_nil _ _), List.append_assoc]
    exact List.prefix_append _ _

end Restyle.Path
