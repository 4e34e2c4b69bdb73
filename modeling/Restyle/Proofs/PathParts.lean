import Mathlib
import Restyle.Proofs.CanonicalPath

/-! # Parts of paths
A path is taken apart at its last slash (`IsParted`), and a file name at its last dot (`IsDotted`).
Of a canonical path the last component is the file name and the others are the directory, so that
reading names from it adds components (`foldl_join_render`); and from every base, a relative path is
entered from the components of the base (`components_join_of_relative`), so that names are added to
them (`components_join`). -/

namespace Restyle.Path

variable {cs head name rest start front ext root : List Char} {parts names : List Component}
  {sep : Char} {base dir p rel : String}

instance (c : Component) : Decidable (IsName c) :=
  decidable_of_iff (c ≠ [] ∧ c ≠ ['.'] ∧ c ≠ ['.', '.'] ∧ '/' ∉ c)
    ⟨fun h => ⟨h.1, h.2.1, h.2.2.1, h.2.2.2⟩, fun h => ⟨h.ne_nil, h.ne_dot, h.ne_dots, h.no_slash⟩⟩

/-! ## Last separators -/

/-- Up to the last separator, read from the end, a text without `sep` is taken whole. -/
theorem takeWhile_reverse_of_not_mem (h : sep ∉ cs) : cs.reverse.takeWhile (· ≠ sep) = cs.reverse :=
  List.takeWhile_eq_self_iff.mpr fun c hc => by
    simp only [ne_eq, decide_not, Bool.not_eq_eq_eq_not, Bool.not_true, decide_eq_false_iff_not]
    rintro rfl
    exact h (List.mem_reverse.mp hc)

/-- Read from the end, nothing is left of a text without `sep`. -/
theorem dropWhile_reverse_of_not_mem (h : sep ∉ cs) : cs.reverse.dropWhile (· ≠ sep) = [] :=
  List.dropWhile_eq_nil_iff.mpr fun c hc => by
    simp only [ne_eq, decide_not, Bool.not_eq_eq_eq_not, Bool.not_true, decide_eq_false_iff_not]
    rintro rfl
    exact h (List.mem_reverse.mp hc)

/-- Behind the last `sep` of `start ++ sep :: rest` stands `rest`. -/
theorem takeWhile_reverse_append (h : sep ∉ rest) (start : List Char) :
    (start ++ sep :: rest).reverse.takeWhile (· ≠ sep) = rest.reverse := by
  have hall : ∀ c ∈ rest.reverse, decide (c ≠ sep) = true := by
    intro c hc
    refine decide_eq_true ?_
    rintro rfl
    exact h (List.mem_reverse.mp hc)
  rw [List.reverse_append, List.reverse_cons, List.append_assoc, List.takeWhile_append_of_pos hall]
  simp

/-- Up to and including the last `sep` of `start ++ sep :: rest` stands `start ++ [sep]`. -/
theorem dropWhile_reverse_append (h : sep ∉ rest) (start : List Char) :
    (start ++ sep :: rest).reverse.dropWhile (· ≠ sep) = sep :: start.reverse := by
  have hall : ∀ c ∈ rest.reverse, decide (c ≠ sep) = true := by
    intro c hc
    refine decide_eq_true ?_
    rintro rfl
    exact h (List.mem_reverse.mp hc)
  rw [List.reverse_append, List.reverse_cons, List.append_assoc, List.dropWhile_append_of_pos hall]
  simp

/-- A text that holds `sep` falls apart behind its last one: `cs = start ++ sep :: rest` with
`sep ∉ rest`. -/
theorem exists_eq_append_of_mem (h : sep ∈ cs) : ∃ start rest, cs = start ++ sep :: rest ∧
    sep ∉ rest := by
  obtain ⟨before, after, hreverse, hbefore⟩ := List.eq_append_cons_of_mem (List.mem_reverse.mpr h)
  refine ⟨after.reverse, before.reverse, ?_, by simpa using hbefore⟩
  rw [← List.reverse_reverse cs, hreverse]
  simp

/-! ## File names and what stands before them -/

/-- The path `p` is `head`, which is empty or ends with a slash, and behind it the file name
`name`. -/
structure IsParted (p : String) (head name : List Char) : Prop where
  toList_eq : p.toList = head ++ name
  no_slash : '/' ∉ name
  head_end : head = [] ∨ ∃ start, head = start ++ ['/']

namespace IsParted

/-- `splitAtLastSlash p.toList = (head, name)` for a path that `IsParted p head name`. -/
theorem splitAtLastSlash_eq (h : IsParted p head name) :
    splitAtLastSlash p.toList = (head, name) := by
  unfold splitAtLastSlash
  rw [h.toList_eq]
  rcases h.head_end with rfl | ⟨start, rfl⟩
  · rw [List.nil_append, takeWhile_reverse_of_not_mem h.no_slash,
      dropWhile_reverse_of_not_mem h.no_slash]
    simp
  · rw [List.append_assoc, List.singleton_append, takeWhile_reverse_append h.no_slash,
      dropWhile_reverse_append h.no_slash]
    simp

/-- `fileName p = String.ofList name` for a path that `IsParted p head name`. -/
theorem fileName_eq (h : IsParted p head name) : fileName p = String.ofList name := by
  rw [fileName, h.splitAtLastSlash_eq]

/-- `stem p` is `head` and the stem of `name`, for a path that `IsParted p head name`. -/
theorem stem_eq (h : IsParted p head name) :
    stem p = String.ofList (head ++ (splitName name).1) := by
  simp only [stem, splitExtension, h.splitAtLastSlash_eq]

end IsParted

/-- `splitAtLastSlash` parts every path. -/
theorem isParted_splitAtLastSlash (p : String) :
    IsParted p (splitAtLastSlash p.toList).1 (splitAtLastSlash p.toList).2 := by
  by_cases hslash : '/' ∈ p.toList
  · obtain ⟨start, rest, hp, hrest⟩ := exists_eq_append_of_mem hslash
    have hparted : IsParted p (start ++ ['/']) rest := ⟨by simpa using hp, hrest, .inr ⟨start, rfl⟩⟩
    rw [hparted.splitAtLastSlash_eq]
    exact hparted
  · have hparted : IsParted p [] p.toList := ⟨rfl, hslash, .inl rfl⟩
    rw [hparted.splitAtLastSlash_eq]
    exact hparted

/-! ## Stems and extensions -/

/-- The file name `name` has an extension: `front` and `ext` stand before and behind its last dot,
and the front is more than dots. -/
structure IsDotted (name front ext : List Char) : Prop where
  eq : name = front ++ '.' :: ext
  no_dot : '.' ∉ ext
  exists_ne_dot : ∃ c ∈ front, c ≠ '.'

/-- `splitName name = (front, '.' :: ext)` for a name that `IsDotted name front ext`. -/
theorem IsDotted.splitName_eq (h : IsDotted name front ext) :
    splitName name = (front, '.' :: ext) := by
  have hfront : front.all (· == '.') = false := by
    obtain ⟨c, hc, hdot⟩ := h.exists_ne_dot
    exact List.all_eq_false.mpr ⟨c, hc, by simpa using hdot⟩
  unfold splitName
  rw [h.eq, takeWhile_reverse_append h.no_dot, dropWhile_reverse_append h.no_dot]
  simp [hfront]

/-- `splitName name = (name, [])` for a name that is not `IsDotted`. -/
theorem splitName_eq_self (h : ∀ front ext, ¬IsDotted name front ext) :
    splitName name = (name, []) := by
  have hstem : ((name.reverse.dropWhile (· ≠ '.')).reverse.dropLast).all (· == '.') = true := by
    by_cases hdot : '.' ∈ name
    · obtain ⟨start, rest, rfl, hrest⟩ := exists_eq_append_of_mem hdot
      rw [dropWhile_reverse_append hrest]
      simp only [List.reverse_cons, List.reverse_reverse, List.dropLast_concat,
        List.all_eq_true, beq_iff_eq]
      intro c hc
      exact Classical.not_not.mp fun hne => h start rest ⟨rfl, hrest, c, hc, hne⟩
    · rw [dropWhile_reverse_of_not_mem hdot]
      rfl
  unfold splitName
  exact if_pos hstem

/-- `splitName name` parts an `IsDotted` name at its last dot, and leaves every other one whole. -/
theorem splitName_cases (name : List Char) :
    (∃ front ext, IsDotted name front ext ∧ splitName name = (front, '.' :: ext)) ∨
      (∀ front ext, ¬IsDotted name front ext) ∧ splitName name = (name, []) := by
  by_cases h : ∃ front ext, IsDotted name front ext
  · obtain ⟨front, ext, hdotted⟩ := h
    exact .inl ⟨front, ext, hdotted, hdotted.splitName_eq⟩
  · have hnone : ∀ front ext, ¬IsDotted name front ext :=
      fun front ext hdotted => h ⟨front, ext, hdotted⟩
    exact .inr ⟨hnone, splitName_eq_self hnone⟩

/-- The stem of a name is a name. -/
theorem IsName.splitName (h : IsName name) : IsName (splitName name).1 := by
  rcases splitName_cases name with ⟨front, ext, hdotted, hsplit⟩ | ⟨-, hsplit⟩
  · rw [hsplit]
    obtain ⟨c, hc, hdot⟩ := hdotted.exists_ne_dot
    refine ⟨List.ne_nil_of_mem hc, ?_, ?_, fun hslash => h.no_slash ?_⟩
    · rintro rfl
      exact hdot (List.mem_singleton.mp hc)
    · rintro rfl
      simp [hdot] at hc
    · rw [hdotted.eq]
      exact List.mem_append_left _ hslash
  · rw [hsplit]
    exact h

/-! ## Canonical paths and names -/

/-- What stands before the next name when one is read from a rendered path. -/
def lead (root : List Char) (parts : List Component) : List Char :=
  if parts = [] then root else render root parts ++ ['/']

/-- `['/'].intercalate (parts ++ [c])` ends with a slash and `c`, if `parts ≠ []`. -/
theorem intercalate_append_singleton (parts : List Component) (hne : parts ≠ []) (c : Component) :
    List.intercalate ['/'] (parts ++ [c]) = List.intercalate ['/'] parts ++ '/' :: c := by
  induction parts with
  | nil => exact absurd rfl hne
  | cons part parts ih =>
    by_cases hparts : parts = []
    · subst hparts
      simp
    · rw [List.cons_append, List.intercalate_cons_of_ne_nil (by simp), ih hparts,
        List.intercalate_cons_of_ne_nil hparts]
      simp

/-- `render root (parts ++ [c]) = lead root parts ++ c`. -/
theorem render_append_singleton (root : List Char) (parts : List Component) (c : Component) :
    render root (parts ++ [c]) = lead root parts ++ c := by
  unfold lead render
  split
  · next h => simp [h]
  · next h => simp [intercalate_append_singleton parts h]

/-- A root ends with a slash. -/
theorem IsRoot.head_end (h : IsRoot root) : root = [] ∨ ∃ start, root = start ++ ['/'] := by
  rcases h with rfl | rfl
  · exact .inr ⟨[], rfl⟩
  · exact .inr ⟨['/'], rfl⟩

/-- `render root (parts ++ [name])` is parted into `lead root parts` and `name`. -/
theorem isParted_render (hroot : root = [] ∨ ∃ start, root = start ++ ['/'])
    (parts : List Component) (hname : IsName name) :
    IsParted (String.ofList (render root (parts ++ [name]))) (lead root parts) name := by
  refine ⟨by rw [String.toList_ofList, render_append_singleton], hname.no_slash, ?_⟩
  unfold lead
  split
  · exact hroot
  · exact .inr ⟨_, rfl⟩

/-- A rendered path is not empty. -/
theorem render_ne_nil (hroot : IsRoot root) (parts : List Component) :
    render root parts ≠ [] := fun h => by
  have hhead := hroot.head? parts
  rw [h] at hhead
  cases hhead

/-- `render root parts` ends with no slash, if `parts ≠ []`. -/
theorem getLast?_render_ne (root : List Char) (hne : parts ≠ []) (hparts : ∀ c ∈ parts, IsName c) :
    (render root parts).getLast? ≠ some '/' := by
  obtain ⟨start, last, rfl⟩ := List.eq_nil_or_concat' parts |>.resolve_left hne
  have hlast := hparts last (by simp)
  rw [render_append_singleton, List.getLast?_append_of_ne_nil _ hlast.ne_nil]
  exact fun h => hlast.no_slash (List.mem_of_getLast? h)

/-- `join` of a name to a rendered path renders `parts ++ [name]`. -/
theorem join_render (hroot : IsRoot root) (hparts : ∀ c ∈ parts, IsName c) (hname : IsName name) :
    join (String.ofList (render root parts)) (String.ofList name) =
      String.ofList (render root (parts ++ [name])) := by
  have hrelative : isAbsolute (String.ofList name) = false := by
    have hhead := head?_intercalate_ne (List.forall_mem_singleton.mpr hname)
    simpa [isAbsolute] using hhead
  have hne := render_ne_nil hroot parts
  rw [join, if_neg (by simp [hrelative]), ← String.toList_inj]
  by_cases hnil : parts = []
  · subst hnil
    have hlast : (render root []).getLast? = some '/' := by rcases hroot with rfl | rfl <;> rfl
    rw [if_pos (.inr (by simpa using hlast))]
    simp [render]
  · rw [if_neg (by simpa [hne] using getLast?_render_ne root hnil hparts)]
    simp [render_append_singleton, lead, hnil]

/-- `join` of one name after the other renders `parts ++ steps`. -/
theorem foldl_join_render (hroot : IsRoot root) (hparts : ∀ c ∈ parts, IsName c)
    (steps : List String) (hsteps : ∀ step ∈ steps, IsName step.toList) :
    steps.foldl join (String.ofList (render root parts)) =
      String.ofList (render root (parts ++ steps.map String.toList)) := by
  induction steps generalizing parts with
  | nil => simp
  | cons step steps ih =>
    have hstep := hsteps step List.mem_cons_self
    have hmore : ∀ c ∈ parts ++ [step.toList], IsName c :=
      List.forall_mem_append.mpr ⟨hparts, List.forall_mem_singleton.mpr hstep⟩
    have hjoin := join_render hroot hparts hstep
    rw [String.ofList_toList] at hjoin
    rw [List.foldl_cons, hjoin,
      ih hmore fun other hother => hsteps other (List.mem_cons_of_mem _ hother)]
    simp

/-- `directory` of `render root (parts ++ [name])` is `render root parts`. -/
theorem directory_render (hroot : IsRoot root) (hparts : ∀ c ∈ parts, IsName c)
    (hname : IsName name) :
    directory (String.ofList (render root (parts ++ [name]))) =
      String.ofList (render root parts) := by
  unfold directory
  rw [(isParted_render hroot.head_end parts hname).splitAtLastSlash_eq]
  simp only
  by_cases hnil : parts = []
  · subst hnil
    have hall : (lead root []).all (· == '/') = true := by rcases hroot with rfl | rfl <;> rfl
    rw [if_pos hall]
    simp [lead, render]
  · -- the slash behind the directory is taken away, and it ends with no other
    have hlast := getLast?_render_ne root hnil hparts
    obtain ⟨front, c, hrender⟩ := List.eq_nil_or_concat' (render root parts) |>.resolve_left
      (render_ne_nil hroot parts)
    rw [lead, if_neg hnil, hrender]
    rw [hrender, List.getLast?_concat] at hlast
    have hc : (c == '/') = false := by simpa using hlast
    rw [if_neg (by simp [hc])]
    simp [hc]

/-- `stem` of `render root (parts ++ [name])` renders the stem of `name` in its place. -/
theorem stem_render (hroot : root = [] ∨ ∃ start, root = start ++ ['/']) (parts : List Component)
    (hname : IsName name) :
    stem (String.ofList (render root (parts ++ [name]))) =
      String.ofList (render root (parts ++ [(splitName name).1])) := by
  rw [(isParted_render hroot parts hname).stem_eq, render_append_singleton]

/-! ## Bases and names -/

/-- `splitOn '/'` goes through a slash: the pieces before it, then those behind it. -/
theorem splitOn_append_cons (start rest : List Char) :
    (start ++ '/' :: rest).splitOn '/' = start.splitOn '/' ++ rest.splitOn '/' := by
  rw [List.splitOn_eq_splitOnP, List.splitOn_eq_splitOnP, List.splitOn_eq_splitOnP]
  exact List.splitOnP_append_cons start rest (beq_self_eq_true '/')

/-- `components (start ++ '/' :: rest)` enters the pieces of `rest` from `components start`. -/
theorem components_append_cons (start rest : List Char) :
    components (start ++ '/' :: rest) =
      ((rest.splitOn '/').foldl enter (components start).reverse).reverse := by
  rw [components, components, splitOn_append_cons, List.foldl_append, List.reverse_reverse]

/-- `components (join base rel)` enters the pieces of `rel` from `components base`, also for an
empty `base`. -/
theorem components_join_of_relative (base : String) (hrel : isAbsolute rel = false) :
    components (join base rel).toList =
      ((rel.toList.splitOn '/').foldl enter (components base.toList).reverse).reverse := by
  rw [join, if_neg (by simp [hrel])]
  split
  · next hbase =>
    rw [String.toList_append]
    rcases hbase with hnil | hslash
    · rw [hnil, List.nil_append]
      rfl
    · -- the slash at the end of the base adds nothing to it
      obtain ⟨front, hfront⟩ := List.getLast?_eq_some_iff.mp hslash
      have hsame : components (front ++ '/' :: []) = components front := by
        simp [components_append_cons]
      rw [hfront, hsame, List.append_assoc]
      exact components_append_cons front rel.toList
  · have htext : (base ++ "/" ++ rel).toList = base.toList ++ '/' :: rel.toList := by simp
    rw [htext, components_append_cons]

/-- `components (join base …) = components base ++ names` for a row of names. -/
theorem components_join (base : String) (hne : names ≠ []) (hnames : ∀ c ∈ names, IsName c) :
    components (join base (String.ofList (List.intercalate ['/'] names))).toList =
      components base.toList ++ names := by
  have hrelative : isAbsolute (String.ofList (List.intercalate ['/'] names)) = false := by
    simpa [isAbsolute] using head?_intercalate_ne hnames
  have hsplit : (List.intercalate ['/'] names).splitOn '/' = names :=
    List.splitOn_intercalate '/' (fun c hc => (hnames c hc).no_slash) hne
  rw [components_join_of_relative base hrelative, String.toList_ofList, hsplit,
    foldl_enter_of_isName _ _ hnames]
  simp

/-- `components` does not depend on how many slashes stand between two parts. -/
theorem components_append_replicate (n : Nat) (start rest : List Char) :
    components (start ++ '/' :: (List.replicate n '/' ++ rest)) =
      components (start ++ '/' :: rest) := by
  rw [components_append_cons, components_append_cons]
  congr 1
  induction n with
  | zero => rfl
  | succ n ih =>
    rw [List.replicate_succ, List.cons_append, List.splitOn_cons_eq_if_modifyHead, if_pos (by rfl),
      List.foldl_cons, enter_nil, ih]

/-- `rootSlashes (start ++ rest) = rootSlashes start` if `start` is more than slashes. -/
theorem rootSlashes_append (h : ∃ c ∈ start, c ≠ '/') (rest : List Char) :
    rootSlashes (start ++ rest) = rootSlashes start := by
  obtain ⟨c, hc, hne⟩ := h
  rcases start with _ | ⟨a, _ | ⟨b, _ | ⟨d, start⟩⟩⟩
  · exact absurd hc List.not_mem_nil
  · obtain rfl := List.mem_singleton.mp hc
    simp [rootSlashes, hne]
  · by_cases ha : a = '/'
    · have hb : b ≠ '/' := by
        rintro rfl
        rcases List.mem_cons.mp hc with rfl | hc
        · exact hne ha
        · exact hne (List.mem_singleton.mp hc)
      simp [rootSlashes, hb]
    · simp [rootSlashes, ha]
  · by_cases ha : a = '/'
    · by_cases hb : b = '/'
      · by_cases hd : d = '/' <;> simp [rootSlashes, ha, hb, hd]
      · simp [rootSlashes, hb]
    · simp [rootSlashes, ha]

/-- `join dir` puts the same text in front of all paths with the same first character. -/
theorem exists_join_eq_append (dir : String) (first : Option Char) :
    ∃ start, ∀ p : String, p.toList.head? = first → (join dir p).toList = start ++ p.toList := by
  by_cases hfirst : first = some '/'
  · exact ⟨[], fun p hp => by rw [join, if_pos (by simp [isAbsolute, hp, hfirst])]; rfl⟩
  · have hrelative : ∀ p : String, p.toList.head? = first → isAbsolute p = false := fun p hp => by
      simpa [isAbsolute, hp] using hfirst
    by_cases hbase : dir.toList = [] ∨ dir.toList.getLast? = some '/'
    · exact ⟨dir.toList, fun p hp => by
        rw [join, if_neg (by simp [hrelative p hp]), if_pos hbase, String.toList_append]⟩
    · exact ⟨dir.toList ++ ['/'], fun p hp => by
        rw [join, if_neg (by simp [hrelative p hp]), if_neg hbase]
        simp⟩

/-- `normalize dir` does not depend on how many slashes stand between two parts. -/
theorem normalize_append_replicate (n : Nat) (hstart : ∃ c ∈ start, c ≠ '/') (dir : String)
    (rest : List Char) :
    normalize dir (String.ofList (start ++ '/' :: (List.replicate n '/' ++ rest))) =
      normalize dir (String.ofList (start ++ '/' :: rest)) := by
  obtain ⟨c, hc, hne⟩ := hstart
  have hfirst : ∀ text, (String.ofList (start ++ text)).toList.head? = start.head? := fun text => by
    rw [String.toList_ofList, List.head?_append_of_ne_nil _ (List.ne_nil_of_mem hc)]
  obtain ⟨before, hjoin⟩ := exists_join_eq_append dir start.head?
  have hmore : ∃ c ∈ before ++ start, c ≠ '/' := ⟨c, List.mem_append_right _ hc, hne⟩
  simp only [normalize, hjoin _ (hfirst _), String.toList_ofList]
  rw [← List.append_assoc, ← List.append_assoc, rootSlashes_append hmore, rootSlashes_append hmore,
    components_append_replicate]

/-- A text is nothing but slashes, or has a last character `c ≠ '/'` in front of the slashes at its
end. -/
theorem eq_replicate_or_append (cs : List Char) : (∃ n, cs = List.replicate n '/') ∨
    ∃ front c n, cs = front ++ c :: List.replicate n '/' ∧ c ≠ '/' := by
  induction cs using List.reverseRecOn with
  | nil => exact .inl ⟨0, rfl⟩
  | append_singleton cs x ih =>
    by_cases hx : x = '/'
    · subst hx
      rcases ih with ⟨n, rfl⟩ | ⟨front, c, n, rfl, hc⟩
      · exact .inl ⟨n + 1, List.replicate_succ'.symm⟩
      · exact .inr ⟨front, c, n + 1, by simp [List.replicate_succ'], hc⟩
    · exact .inr ⟨cs, x, 0, rfl, hx⟩

/-- `normalize dir (join (directory p) file)` is `normalize dir (head ++ file)`, for a path that
`IsParted p head name`. -/
theorem normalize_join_directory (h : IsParted p head name) {file : String}
    (hfile : isAbsolute file = false) (dir : String) :
    normalize dir (join (directory p) file) =
      normalize dir (String.ofList (head ++ file.toList)) := by
  have hhead : (splitAtLastSlash p.toList).1 = head := by rw [h.splitAtLastSlash_eq]
  unfold directory
  simp only [hhead]
  rcases eq_replicate_or_append head with ⟨n, hslashes⟩ | ⟨front, c, n, hfront, hc⟩
  · -- nothing but slashes is a directory by itself
    have hbase : head = [] ∨ head.getLast? = some '/' := by
      rcases h.head_end with rfl | ⟨start, rfl⟩
      · exact .inl rfl
      · exact .inr List.getLast?_concat
    rw [if_pos (by simp [hslashes]), join, if_neg (by simp [hfile]), if_pos (by simpa using hbase)]
    congr 1
    rw [← String.toList_inj]
    simp
  · -- otherwise the directory ends where the slashes begin
    have hn : ∃ k, n = k + 1 := by
      rcases h.head_end with hnil | ⟨start, hstart⟩
      · simp [hnil] at hfront
      · cases n with
        | zero =>
          have hlast := congrArg List.getLast? (hfront.symm.trans hstart)
          simp [hc] at hlast
        | succ k => exact ⟨k, rfl⟩
    obtain ⟨k, rfl⟩ := hn
    have hnot : (c == '/') = false := by simpa using hc
    have hdirectory : (head.reverse.dropWhile (· == '/')).reverse = front ++ [c] := by
      rw [hfront, List.reverse_append, List.reverse_cons, List.reverse_replicate, List.append_assoc,
        List.dropWhile_append_of_pos (by simp)]
      simp [hnot]
    have hjoin : join (String.ofList (front ++ [c])) file =
        String.ofList ((front ++ [c]) ++ '/' :: file.toList) := by
      rw [join, if_neg (by simp [hfile]), if_neg (by simp [hc]), ← String.toList_inj]
      simp
    rw [if_neg (by simp [hfront, hnot]), hdirectory, hjoin,
      ← normalize_append_replicate k ⟨c, by simp, hc⟩, hfront, List.replicate_succ]
    simp

end Restyle.Path
