import Mathlib
import Restyle.Proofs.CanonicalPath

/-! # Real paths
The real path of a path leads to the same place without any link (`IsReal`), unless a link on the
way leads back to itself. So it is its own real path (`realPath_realPath`). -/

namespace Restyle.FileTree

variable {t : FileTree} {here place : Place} {name : String} {names : List String}
  {opened : List Place}

/-- Whether no link on the way of a path leads back to itself. -/
def IsResolvable (t : FileTree) (path : String) : Prop :=
  (t.resolve [] [] (namesOf (Path.join t.workingDir path))).2 = true

/-! ## Places without links -/

/-- Whether a place is spelled by names, and none of the entries that are seen on the way to it is a
link. -/
structure IsReal (t : FileTree) (place : Place) : Prop where
  /-- The steps are names. -/
  isName : ∀ name ∈ place, Path.IsName name.toList
  /-- No links are seen, neither on the way nor at the place. -/
  ne_link : ∀ n target, t.entrySeen? (place.take n) ≠ some (.link target)

/-- The root is real. -/
theorem isReal_root (t : FileTree) : t.IsReal [] := by
  refine ⟨fun name h => absurd h List.not_mem_nil, fun n target => ?_⟩
  rw [List.take_nil, entrySeen?_root]
  exact fun h => nomatch h

/-- The place above a real one is real. -/
theorem IsReal.dropLast (h : t.IsReal place) : t.IsReal place.dropLast := by
  refine ⟨fun name hname => h.isName name (List.mem_of_mem_dropLast hname), fun n target => ?_⟩
  rw [List.dropLast_eq_take, List.take_take]
  exact h.ne_link _ target

/-- `here ++ [name]` is real if `here` is, and no link is seen there. -/
theorem IsReal.append_singleton (h : t.IsReal here) (hname : Path.IsName name.toList)
    (hlink : ∀ target, t.entrySeen? (here ++ [name]) ≠ some (.link target)) :
    t.IsReal (here ++ [name]) := by
  constructor
  · intro other hother
    rcases List.mem_append.mp hother with hother | hother
    · exact h.isName other hother
    · exact List.mem_singleton.mp hother ▸ hname
  · intro n target
    rcases Nat.lt_or_ge here.length n with hn | hn
    · rw [List.take_of_length_le (by simpa using hn)]
      exact hlink target
    · rw [List.take_append_of_le_length hn]
      exact h.ne_link n target

/-- What is neither blank nor `..`, and holds no slash, is a name. -/
theorem isName_of_ne (hblank : ¬(name = "" ∨ name = ".")) (hdots : name ≠ "..")
    (hslash : '/' ∉ name.toList) : Path.IsName name.toList := by
  refine ⟨fun h => hblank (.inl ?_), fun h => hblank (.inr ?_), fun h => hdots ?_, hslash⟩ <;>
    exact String.toList_inj.mp h

/-- No member of `namesOf path` holds a slash. -/
theorem no_slash_of_mem_namesOf {path : String} (h : name ∈ namesOf path) : '/' ∉ name.toList := by
  obtain ⟨piece, hpiece, rfl⟩ := List.mem_map.mp h
  rw [String.toList_ofList]
  exact Path.not_mem_of_mem_splitOn hpiece

/-! ## Resolving -/

/-- Every place that `t.resolve` reaches with the flag `true` is real. -/
theorem isReal_of_resolve (hnames : ∀ name ∈ names, '/' ∉ name.toList) (hhere : t.IsReal here) :
    ∀ place, t.resolve opened here names = (place, true) → t.IsReal place := by
  fun_induction resolve t opened here names with
  | case1 opened here =>
    rintro place ⟨⟩
    exact hhere
  | case2 opened here name rest hblank ih =>
    exact ih (fun other hother => hnames other (List.mem_cons_of_mem _ hother)) hhere
  | case3 opened here rest hblank ih =>
    exact ih (fun other hother => hnames other (List.mem_cons_of_mem _ hother)) hhere.dropLast
  | case4 opened here name rest hblank hdots target hentry hopen =>
    exact fun _ h => nomatch h
  | case5 opened here name rest hblank hdots target hentry hopen place hplace ihtarget ihrest =>
    -- the target is read from the root or from where the link stands, and neither is behind a link
    have hstart : t.IsReal (if Path.isAbsolute target then [] else here) := by
      split
      · exact isReal_root t
      · exact hhere
    have hreal := ihtarget (fun other hother => no_slash_of_mem_namesOf hother) hstart place hplace
    exact ihrest (fun other hother => hnames other (List.mem_cons_of_mem _ hother)) hreal
  | case6 opened here name rest hblank hdots target hentry hopen place hplace ih =>
    exact fun _ h => nomatch h
  | case7 opened here name rest hblank hdots hlink ih =>
    have hname := isName_of_ne hblank hdots (hnames name List.mem_cons_self)
    exact ih (fun other hother => hnames other (List.mem_cons_of_mem _ hother))
      (hhere.append_singleton hname fun target => hlink target)

/-- A name is neither empty nor `.`. -/
theorem not_blank_of_isName (h : Path.IsName name.toList) : ¬(name = "" ∨ name = ".") := by
  rintro (rfl | rfl)
  · exact h.ne_nil rfl
  · exact h.ne_dot rfl

/-- A name is not `..`. -/
theorem ne_dots_of_isName (h : Path.IsName name.toList) : name ≠ ".." := by
  rintro rfl
  exact h.ne_dots rfl

/-- `t.resolve opened here (name :: names)` goes on from `here ++ [name]` where no link is seen. -/
theorem resolve_cons_of_ne_link (hname : Path.IsName name.toList)
    (hlink : ∀ target, t.entrySeen? (here ++ [name]) ≠ some (.link target)) :
    t.resolve opened here (name :: names) = t.resolve opened (here ++ [name]) names := by
  rw [resolve, if_neg (not_blank_of_isName hname), if_neg (ne_dots_of_isName hname)]
  split
  · next target hentry => exact absurd hentry (hlink target)
  · rfl

/-- `t.resolve opened here (name :: names)` goes on from the place that the target of a link
resolves to. -/
theorem resolve_cons_of_link {target : String} (hname : Path.IsName name.toList)
    (hentry : t.entrySeen? (here ++ [name]) = some (.link target)) (hopen : here ++ [name] ∉ opened)
    (htarget : t.resolve ((here ++ [name]) :: opened) (if Path.isAbsolute target then [] else here)
      (namesOf target) = (place, true)) :
    t.resolve opened here (name :: names) = t.resolve opened place names := by
  rw [resolve, if_neg (not_blank_of_isName hname), if_neg (ne_dots_of_isName hname)]
  split
  · next other hother =>
    obtain rfl := Entry.link.inj (Option.some.inj (hentry.symm.trans hother))
    rw [dif_neg hopen]
    simp only [htarget]
  · next hlink => exact absurd hentry (hlink target)

/-- `t.resolve opened here names = (here ++ names, true)` for a real place `here ++ names`. -/
theorem resolve_of_isReal (opened : List Place) (h : t.IsReal (here ++ names)) :
    t.resolve opened here names = (here ++ names, true) := by
  induction names generalizing here with
  | nil => rw [resolve, List.append_nil]
  | cons name names ih =>
    have happend : here ++ name :: names = here ++ [name] ++ names := by simp
    have hlink : ∀ target, t.entrySeen? (here ++ [name]) ≠ some (.link target) := by
      intro target
      have htake := h.ne_link (here ++ [name]).length target
      rwa [happend, List.take_left] at htake
    rw [resolve_cons_of_ne_link (h.isName name (by simp)) hlink, happend, ih (happend ▸ h)]

/-! ## Texts of places -/

/-- `Path.normalize "/"` of names joined by slashes renders them behind one slash. -/
theorem normalize_intercalate {parts : List Path.Component} (h : ∀ c ∈ parts, Path.IsName c) :
    Path.normalize "/" (String.ofList (List.intercalate ['/'] parts)) =
      String.ofList (Path.render ['/'] parts) := by
  have hrelative : Path.isAbsolute (String.ofList (List.intercalate ['/'] parts)) = false := by
    simpa [Path.isAbsolute] using Path.head?_intercalate_ne h
  have hjoin : (Path.join "/" (String.ofList (List.intercalate ['/'] parts))).toList =
      Path.render ['/'] parts := by
    rw [Path.join, hrelative]
    simp [Path.render]
  rw [Path.normalize, hjoin, Path.rootSlashes_render (.inl rfl) h,
    Path.components_render (.inl rfl) h]

/-- Blank names are resolved without going anywhere. -/
theorem resolve_blanks_append {blanks : List Path.Component} (h : ∀ c ∈ blanks, c = [])
    (names : List String) :
    t.resolve opened here (blanks.map String.ofList ++ names) = t.resolve opened here names := by
  induction blanks with
  | nil => rfl
  | cons c blanks ih =>
    have hc : String.ofList c = "" := by rw [h c List.mem_cons_self]
    rw [List.map_cons, List.cons_append, resolve, if_pos (.inl hc),
      ih fun d hd => h d (List.mem_cons_of_mem _ hd)]

/-- `t.realPath path` is the text of the place that the names of `path` resolve to. -/
theorem realPath_of_resolve {path real : String} {isWhole : Bool}
    (hnames : namesOf (Path.join t.workingDir path) = names)
    (hplace : t.resolve [] [] names = (place, isWhole))
    (hreal : Path.normalize "/" (String.ofList (List.intercalate ['/'] (place.map String.toList))) =
      real) :
    t.realPath path = real := by
  rw [realPath, hnames, hplace]
  exact hreal

/-- `t.realPath` of the text of a real place is that text. -/
theorem realPath_render (h : t.IsReal place) :
    t.realPath (String.ofList (Path.render ['/'] (place.map String.toList))) =
      String.ofList (Path.render ['/'] (place.map String.toList)) := by
  have hparts : ∀ c ∈ place.map String.toList, Path.IsName c := by
    intro c hc
    obtain ⟨name, hname, rfl⟩ := List.mem_map.mp hc
    exact h.isName name hname
  have hcanonical : Path.IsCanonical
      (String.ofList (Path.render ['/'] (place.map String.toList))) :=
    ⟨_, _, .inl rfl, hparts, rfl⟩
  obtain ⟨blanks, hblanks, hsplit⟩ := Path.splitOn_render (.inl rfl) hparts
  have hnames : (place.map String.toList).map String.ofList = place := by
    simp [List.map_map, Function.comp_def]
  have hplace : t.resolve [] [] (blanks.map String.ofList ++ place) = (place, true) := by
    rw [resolve_blanks_append hblanks]
    exact resolve_of_isReal [] h
  refine realPath_of_resolve ?_ hplace (normalize_intercalate hparts)
  rw [hcanonical.join_eq, namesOf, String.toList_ofList, hsplit, List.map_append, hnames]

/-- `t.realPath (t.realPath path) = t.realPath path`, unless a link on the way leads back to
itself. -/
theorem realPath_realPath {path : String} (h : t.IsResolvable path) :
    t.realPath (t.realPath path) = t.realPath path := by
  have hresolve : t.resolve [] [] (namesOf (Path.join t.workingDir path)) =
      ((t.resolve [] [] (namesOf (Path.join t.workingDir path))).1, true) := Prod.ext rfl h
  have hreal := isReal_of_resolve (fun _ => no_slash_of_mem_namesOf) (isReal_root t) _ hresolve
  have hparts : ∀ c ∈ (t.resolve [] [] (namesOf (Path.join t.workingDir path))).1.map String.toList,
      Path.IsName c := by
    intro c hc
    obtain ⟨name, hname, rfl⟩ := List.mem_map.mp hc
    exact hreal.isName name hname
  have htext : t.realPath path = String.ofList (Path.render ['/']
      ((t.resolve [] [] (namesOf (Path.join t.workingDir path))).1.map String.toList)) := by
    rw [realPath]
    exact normalize_intercalate hparts
  rw [htext, realPath_render hreal]

end Restyle.FileTree
