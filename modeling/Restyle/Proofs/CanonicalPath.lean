import Mathlib
import Restyle.FileTree

/-! # Canonical paths
The texts that `Path.normalize` gives: one or two slashes, then names parted by single slashes, none
of them empty, `.` or `..`. Main statements: a canonical text is its own normal form from every
directory (`normalize_eq_self`), and every normal form is canonical (`isCanonical_normalize`). -/

namespace Restyle.Path

/-- A component that leads one level down: not empty, and neither `.` nor `..`. -/
structure IsName (c : Component) : Prop where
  ne_nil : c ≠ []
  ne_dot : c ≠ ['.']
  ne_dots : c ≠ ['.', '.']
  no_slash : '/' ∉ c

/-- The leading slashes that a canonical path can have. -/
def IsRoot (root : List Char) : Prop := root = ['/'] ∨ root = ['/', '/']

/-- A canonical path: leading slashes, and names parted by single slashes. -/
def IsCanonical (p : String) : Prop :=
  ∃ root parts, IsRoot root ∧ (∀ c ∈ parts, IsName c) ∧ p = String.ofList (render root parts)

/-! ## Components -/

/-- No piece of `cs.splitOn a` holds `a`. -/
theorem not_mem_of_mem_splitOn {a : Char} {cs piece : List Char} (h : piece ∈ cs.splitOn a) :
    a ∉ piece := by
  induction cs generalizing piece with
  | nil =>
    rw [List.splitOn_nil, List.mem_singleton] at h
    rw [h]
    exact List.not_mem_nil
  | cons c cs ih =>
    rw [List.splitOn_cons_eq_if_modifyHead] at h
    -- a separator starts a new stretch, anything else makes the first one longer
    by_cases hc : c = a
    · rw [if_pos (by simpa using hc), List.mem_cons] at h
      rcases h with rfl | h
      · exact List.not_mem_nil
      · exact ih h
    · rw [if_neg (by simpa using hc)] at h
      obtain ⟨first, rest, hsplit⟩ := List.exists_cons_of_ne_nil (List.splitOn_ne_nil a cs)
      rw [hsplit, List.modifyHead_cons, List.mem_cons] at h
      rcases h with rfl | h
      · have hfirst : a ∉ first := ih (by rw [hsplit]; exact List.mem_cons_self)
        simp [hfirst, Ne.symm hc]
      · exact ih (by rw [hsplit]; exact List.mem_cons_of_mem _ h)

/-- `enter stack c` is a stack of names if `stack` is one and `c` has no slash. -/
theorem isName_of_mem_enter {stack : List Component} {c : Component}
    (hstack : ∀ d ∈ stack, IsName d) (hc : '/' ∉ c) : ∀ d ∈ enter stack c, IsName d := by
  intro d hd
  unfold enter at hd
  split at hd
  · exact hstack d hd
  · next hblank =>
    split at hd
    · exact hstack d (List.mem_of_mem_tail hd)
    · next hdots =>
      rcases List.mem_cons.mp hd with rfl | hd
      · exact ⟨fun h => hblank (.inl h), fun h => hblank (.inr h), hdots, hc⟩
      · exact hstack d hd

/-- `pieces.foldl enter stack` is a stack of names if `stack` is one and no piece has a slash. -/
theorem isName_of_mem_foldl_enter (pieces stack : List Component)
    (hpieces : ∀ c ∈ pieces, '/' ∉ c) (hstack : ∀ d ∈ stack, IsName d) :
    ∀ d ∈ pieces.foldl enter stack, IsName d := by
  induction pieces generalizing stack with
  | nil => exact hstack
  | cons c pieces ih =>
    exact ih _ (fun d hd => hpieces d (List.mem_cons_of_mem _ hd))
      (isName_of_mem_enter hstack (hpieces c List.mem_cons_self))

/-- Every member of `components cs` is a name. -/
theorem isName_of_mem_components {cs : List Char} {c : Component} (h : c ∈ components cs) :
    IsName c :=
  isName_of_mem_foldl_enter _ [] (fun _ => not_mem_of_mem_splitOn) (by simp) c
    (List.mem_reverse.mp h)

/-- `enter stack c = c :: stack` for a name `c`. -/
theorem enter_of_isName (stack : List Component) {c : Component} (h : IsName c) :
    enter stack c = c :: stack := by
  rw [enter, if_neg (by simp [h.ne_nil, h.ne_dot]), if_neg h.ne_dots]

/-- `enter stack [] = stack`: a doubled slash is of no account. -/
@[simp] theorem enter_nil (stack : List Component) : enter stack [] = stack := by simp [enter]

/-- `parts.foldl enter stack = parts.reverse ++ stack` for names. -/
theorem foldl_enter_of_isName (parts stack : List Component) (h : ∀ c ∈ parts, IsName c) :
    parts.foldl enter stack = parts.reverse ++ stack := by
  induction parts generalizing stack with
  | nil => rfl
  | cons c parts ih =>
    rw [List.foldl_cons, enter_of_isName stack (h c List.mem_cons_self),
      ih _ (fun d hd => h d (List.mem_cons_of_mem _ hd))]
    simp

/-! ## Rendered paths -/

/-- `rootSlashes cs` is one slash or two. -/
theorem isRoot_rootSlashes (cs : List Char) : IsRoot (rootSlashes cs) := by
  unfold rootSlashes
  split
  · exact .inl rfl
  · exact .inr rfl
  · exact .inl rfl

/-- `render root parts` starts with a slash. -/
theorem IsRoot.head? {root : List Char} (h : IsRoot root) (parts : List Component) :
    (render root parts).head? = some '/' := by
  rcases h with rfl | rfl <;> rfl

/-- `(render root parts).splitOn '/' = blanks ++ parts`: empty pieces for the leading slashes, then
the names. -/
theorem splitOn_render {root : List Char} (hroot : IsRoot root) {parts : List Component}
    (h : ∀ c ∈ parts, IsName c) :
    ∃ blanks : List Component, (∀ c ∈ blanks, c = []) ∧
      (render root parts).splitOn '/' = blanks ++ parts := by
  -- the text behind the leading slashes: no parts leave one empty stretch behind them
  have hrest : ∃ blanks : List Component, (∀ c ∈ blanks, c = []) ∧
      (List.intercalate ['/'] parts).splitOn '/' = blanks ++ parts := by
    by_cases hp : parts = []
    · subst hp
      exact ⟨[[]], by simp, by simp⟩
    · exact ⟨[], by simp, List.splitOn_intercalate '/' (fun c hc => (h c hc).no_slash) hp⟩
  obtain ⟨blanks, hblanks, hsplit⟩ := hrest
  rcases hroot with rfl | rfl
  · refine ⟨[] :: blanks, by simpa using hblanks, ?_⟩
    simp [render, List.splitOn_cons_eq_if_modifyHead, hsplit]
  · refine ⟨[] :: [] :: blanks, by simpa using hblanks, ?_⟩
    simp [render, List.splitOn_cons_eq_if_modifyHead, hsplit]

/-- `components (render root parts) = parts` for names. -/
theorem components_render {root : List Char} (hroot : IsRoot root) {parts : List Component}
    (h : ∀ c ∈ parts, IsName c) : components (render root parts) = parts := by
  obtain ⟨blanks, hblanks, hsplit⟩ := splitOn_render hroot h
  -- the blanks of the leading slashes leave the stack empty
  have hskip : blanks.foldl enter [] = [] := by
    clear hsplit
    induction blanks with
    | nil => rfl
    | cons c blanks ih =>
      rw [List.foldl_cons, hblanks c List.mem_cons_self, enter_nil,
        ih fun d hd => hblanks d (List.mem_cons_of_mem _ hd)]
  rw [components, hsplit, List.foldl_append, hskip, foldl_enter_of_isName parts [] h]
  simp

/-- Names joined by slashes do not start with a slash. -/
theorem head?_intercalate_ne {parts : List Component} (h : ∀ c ∈ parts, IsName c) :
    (List.intercalate ['/'] parts).head? ≠ some '/' := by
  cases parts with
  | nil => simp
  | cons c parts =>
    have hc := h c List.mem_cons_self
    cases c with
    | nil => exact absurd rfl hc.ne_nil
    | cons x c =>
      have hx : x ≠ '/' := fun hx => hc.no_slash (by simp [hx])
      cases parts <;> simp [List.intercalate, hx]

/-- `rootSlashes (render root parts) = root` for names. -/
theorem rootSlashes_render {root : List Char} (hroot : IsRoot root) {parts : List Component}
    (h : ∀ c ∈ parts, IsName c) : rootSlashes (render root parts) = root := by
  have hhead := head?_intercalate_ne h
  unfold render
  generalize List.intercalate ['/'] parts = rest at hhead ⊢
  rcases hroot with rfl | rfl <;> rcases rest with _ | ⟨x, rest⟩
  · rfl
  · have hx : x ≠ '/' := by simpa using hhead
    simp [rootSlashes, hx]
  · rfl
  · have hx : x ≠ '/' := by simpa using hhead
    simp [rootSlashes, hx]

/-! ## Normal forms -/

/-- `normalize dir p` is canonical, whatever the path. -/
theorem isCanonical_normalize (dir p : String) : IsCanonical (normalize dir p) :=
  ⟨_, _, isRoot_rootSlashes _, fun _ => isName_of_mem_components, rfl⟩

/-- A path with `normalize dir p = p` is canonical. -/
theorem isCanonical_of_normalize_eq {dir p : String} (h : normalize dir p = p) : IsCanonical p :=
  h ▸ isCanonical_normalize dir p

/-- A canonical path is absolute. -/
theorem IsCanonical.isAbsolute {p : String} (h : IsCanonical p) : isAbsolute p = true := by
  obtain ⟨root, parts, hroot, -, rfl⟩ := h
  simp [Path.isAbsolute, hroot.head? parts]

/-- `join dir p = p` for a canonical path. -/
theorem IsCanonical.join_eq {p : String} (h : IsCanonical p) (dir : String) : join dir p = p := by
  rw [join, if_pos h.isAbsolute]

/-- `normalize dir p = p` for a canonical path, from every directory. -/
theorem IsCanonical.normalize_eq_self {p : String} (h : IsCanonical p) (dir : String) :
    normalize dir p = p := by
  rw [normalize, h.join_eq dir]
  obtain ⟨root, parts, hroot, hparts, rfl⟩ := h
  simp [rootSlashes_render hroot hparts, components_render hroot hparts]

/-- `normalize dir (normalize dir' p) = normalize dir' p`. -/
@[simp] theorem normalize_normalize (dir dir' p : String) :
    normalize dir (normalize dir' p) = normalize dir' p :=
  (isCanonical_normalize dir' p).normalize_eq_self dir

/-- `tidy p = p` for a canonical path. -/
theorem IsCanonical.tidy_eq_self {p : String} (h : IsCanonical p) : tidy p = p := by
  have habs := h.isAbsolute
  obtain ⟨root, parts, hroot, hparts, rfl⟩ := h
  obtain ⟨blanks, hblanks, hsplit⟩ := splitOn_render hroot hparts
  have hfilter : (blanks ++ parts).filter (fun c => decide (c ≠ [] ∧ c ≠ ['.'])) = parts := by
    rw [List.filter_append, List.filter_eq_nil_iff.mpr, List.filter_eq_self.mpr, List.nil_append]
    · intro c hc
      simp [(hparts c hc).ne_nil, (hparts c hc).ne_dot]
    · intro c hc
      simp [hblanks c hc]
  rw [tidy, if_pos habs, String.toList_ofList, hsplit, hfilter, rootSlashes_render hroot hparts]

end Restyle.Path
