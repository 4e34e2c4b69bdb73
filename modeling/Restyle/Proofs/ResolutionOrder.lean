import Mathlib
import Restyle.Proofs.ImportedFiles
import Restyle.Proofs.PathParts

/-! # The order of resolution
A target may mean many files: each of its `Candidate` names, by rank, in each of the directories
that are searched. Main statement: an import is resolved to the first of them that is a regular
file, by directory and then by rank, and to none exactly if there is none
(`Loader.resolve?_isFirst`). -/

namespace Restyle

/-! ## Searching by rank -/

section Ranks

variable {ι α : Type} [LinearOrder ι] {ranked : List (ι × α)} {f : α → Bool} {a : α}

/-- `find?` in a list that is sorted by rank gives the hit with the least rank. -/
theorem find?_map_snd_eq_some_iff (hsorted : ranked.Pairwise fun x y => x.1 < y.1) :
    (ranked.map Prod.snd).find? f = some a ↔
      ∃ i, (i, a) ∈ ranked ∧ f a = true ∧ ∀ j b, (j, b) ∈ ranked → f b = true → i ≤ j := by
  -- the ranks rise along the list, so the first hit is the one of least rank
  induction ranked with
  | nil => simp
  | cons first rest ih =>
    obtain ⟨hfirst, hrest⟩ := List.pairwise_cons.mp hsorted
    rw [List.map_cons, List.find?_cons]
    cases hhit : f first.2 with
    | true =>
      simp only [Option.some.injEq]
      constructor
      · rintro rfl
        refine ⟨first.1, List.mem_cons_self, hhit, fun j b hb _ => ?_⟩
        rcases List.mem_cons.mp hb with rfl | hb
        · exact le_rfl
        · exact (hfirst _ hb).le
      · rintro ⟨i, hi, -, hleast⟩
        rcases List.mem_cons.mp hi with rfl | hi
        · rfl
        · exact absurd (hleast _ _ List.mem_cons_self hhit) (not_le.mpr (hfirst _ hi))
    | false =>
      simp only
      rw [ih hrest]
      constructor
      · rintro ⟨i, hi, ha, hleast⟩
        refine ⟨i, List.mem_cons_of_mem _ hi, ha, fun j b hb hhit' => ?_⟩
        rcases List.mem_cons.mp hb with rfl | hb
        · rw [hhit] at hhit'
          cases hhit'
        · exact hleast j b hb hhit'
      · rintro ⟨i, hi, ha, hleast⟩
        rcases List.mem_cons.mp hi with rfl | hi
        · rw [hhit] at ha
          cases ha
        · exact ⟨i, hi, ha, fun j b hb => hleast j b (List.mem_cons_of_mem _ hb)⟩

/-- The positions in `l.zipIdx` increase. -/
theorem pairwise_zipIdx (l : List α) : l.zipIdx.Pairwise fun x y => x.2 < y.2 := by
  have hpositions : (l.zipIdx.map Prod.snd).Pairwise (· < ·) := by
    rw [List.zipIdx_map_snd]
    exact List.pairwise_lt_range'
  exact List.pairwise_map.mp hpositions

end Ranks

/-! ## Candidates -/

/-- The file name `name` carries one of the extensions. -/
def CarriesExtension (extensions : List String) (name : List Char) : Prop :=
  ∃ front, ∃ e ∈ extensions, Path.IsDotted name front e.toList

/-- The names under which a file may satisfy the target that is `head` and the file name `name`,
with their ranks. A target with a known extension stands for itself, and then for its partial. Any
other stands for itself and its partial with each extension in turn, and then for the two index
files below it with each extension in turn. A name that starts with an underscore has no partial,
and the rank is not given away. -/
inductive Candidate (extensions : List String) (head name : List Char) : Nat → String → Prop where
  | own (h : CarriesExtension extensions name) :
    Candidate extensions head name 0 (String.ofList (head ++ name))
  | ownPartial (h : CarriesExtension extensions name) (hname : name.head? ≠ some '_') :
    Candidate extensions head name 1 (String.ofList (head ++ '_' :: name))
  | extended (h : ¬CarriesExtension extensions name) {i : Nat} {e : String}
    (he : extensions[i]? = some e) :
    Candidate extensions head name (2 * i) (String.ofList (head ++ name ++ '.' :: e.toList))
  | extendedPartial (h : ¬CarriesExtension extensions name)
    (hname : name.head? ≠ some '_') {i : Nat}
    {e : String} (he : extensions[i]? = some e) :
    Candidate extensions head name (2 * i + 1)
      (String.ofList (head ++ '_' :: name ++ '.' :: e.toList))
  | index (h : ¬CarriesExtension extensions name) {i : Nat} {e : String}
    (he : extensions[i]? = some e) :
    Candidate extensions head name (2 * (extensions.length + i))
      (Path.join (String.ofList (head ++ name)) ("index." ++ e))
  | indexPartial (h : ¬CarriesExtension extensions name) {i : Nat} {e : String}
    (he : extensions[i]? = some e) :
    Candidate extensions head name (2 * (extensions.length + i) + 1)
      (Path.join (String.ofList (head ++ name)) ("_index." ++ e))

variable {extensions : List String} {head name : List Char} {target importer : String} {l : Loader}
  {t : FileTree}

/-- `CarriesExtension extensions name` says that the extension of the target is one of
`extensions`. -/
theorem Path.IsParted.carriesExtension_iff (h : Path.IsParted target head name) :
    CarriesExtension extensions name ↔
      Path.extension (Path.fileName target) ≠ "" ∧
        String.ofList (Path.extension (Path.fileName target)).toList.tail ∈ extensions := by
  have hname : Path.IsParted (Path.fileName target) [] name :=
    ⟨by rw [h.fileName_eq, String.toList_ofList]; rfl, h.no_slash, .inl rfl⟩
  have hextension : Path.extension (Path.fileName target) =
      String.ofList (Path.splitName name).2 := by
    simp only [Path.extension, Path.splitExtension, hname.splitAtLastSlash_eq]
  rw [hextension]
  constructor
  · rintro ⟨front, e, he, hdotted⟩
    rw [hdotted.splitName_eq]
    refine ⟨fun hnil => ?_, by simpa using he⟩
    have hlist := congrArg String.toList hnil
    simp at hlist
  · rintro ⟨hne, he⟩
    rcases Path.splitName_cases name with ⟨front, ext, hdotted, hsplit⟩ | ⟨-, hsplit⟩
    · rw [hsplit] at he
      exact ⟨front, _, he, by simpa using hdotted⟩
    · rw [hsplit] at hne
      exact absurd rfl hne

/-- `Path.isPartial target` says that its name begins with an underscore. -/
theorem Path.IsParted.isPartial_eq_true_iff (h : Path.IsParted target head name) :
    Path.isPartial target = true ↔ name.head? = some '_' := by
  rw [Path.isPartial, h.fileName_eq, String.toList_ofList, beq_iff_eq]

/-- The partial of a file, if it has one, at a rank. -/
def rankedPartial (head name : List Char) (rank : Nat) (ending : List Char) : List (Nat × String) :=
  if name.head? = some '_' then [] else [(rank, String.ofList (head ++ '_' :: name ++ ending))]

open Classical in
/-- The candidates of a target, by rank. -/
noncomputable def rankedCandidates (extensions : List String) (head name : List Char) :
    List (Nat × String) :=
  let target := String.ofList (head ++ name)
  if CarriesExtension extensions name then (0, target) :: rankedPartial head name 1 []
  else
    (extensions.zipIdx.flatMap fun x =>
      (2 * x.2, String.ofList (head ++ name ++ '.' :: x.1.toList)) ::
        rankedPartial head name (2 * x.2 + 1) ('.' :: x.1.toList)) ++
    extensions.zipIdx.flatMap fun x =>
      [(2 * (extensions.length + x.2), Path.join target ("index." ++ x.1)),
        (2 * (extensions.length + x.2) + 1, Path.join target ("_index." ++ x.1))]

/-- `rankedPartial` holds the partial with its rank, unless the name begins with an underscore. -/
theorem mem_rankedPartial_iff {rank rank' : Nat} {ending : List Char} {file : String} :
    (rank', file) ∈ rankedPartial head name rank ending ↔
      name.head? ≠ some '_' ∧ rank' = rank ∧
      file = String.ofList (head ++ '_' :: name ++ ending) := by
  unfold rankedPartial
  split
  · next h => simp [h]
  · next h => simp [h, Prod.ext_iff]

/-- `(rank, file) ∈ rankedCandidates … ↔ Candidate … rank file`. -/
theorem mem_rankedCandidates_iff {rank : Nat} {file : String} :
    (rank, file) ∈ rankedCandidates extensions head name ↔
    Candidate extensions head name rank file := by
  unfold rankedCandidates
  -- the two kinds of list share no constructor of `Candidate`
  by_cases h : CarriesExtension extensions name
  · rw [if_pos h, List.mem_cons, mem_rankedPartial_iff, List.append_nil]
    constructor
    · rintro (hown | ⟨hname, rfl, rfl⟩)
      · obtain ⟨rfl, rfl⟩ := Prod.mk.inj hown
        exact .own h
      · exact .ownPartial h hname
    · intro hcandidate
      cases hcandidate with
      | own => exact .inl rfl
      | ownPartial _ hname => exact .inr ⟨hname, rfl, rfl⟩
      | extended hnot | extendedPartial hnot | index hnot | indexPartial hnot => exact absurd h hnot
  · rw [if_neg h, List.mem_append, List.mem_flatMap, List.mem_flatMap]
    constructor
    · rintro (⟨⟨e, i⟩, he, hfile⟩ | ⟨⟨e, i⟩, he, hfile⟩)
      · rw [List.mk_mem_zipIdx_iff_getElem?] at he
        rcases List.mem_cons.mp hfile with hfile | hfile
        · obtain ⟨rfl, rfl⟩ := Prod.mk.inj hfile
          exact .extended h he
        · obtain ⟨hname, rfl, rfl⟩ := mem_rankedPartial_iff.mp hfile
          exact .extendedPartial h hname he
      · rw [List.mk_mem_zipIdx_iff_getElem?] at he
        rcases List.mem_cons.mp hfile with hfile | hfile
        · obtain ⟨rfl, rfl⟩ := Prod.mk.inj hfile
          exact .index h he
        · obtain ⟨rfl, rfl⟩ := Prod.mk.inj (List.mem_singleton.mp hfile)
          exact .indexPartial h he
    · intro hcandidate
      cases hcandidate with
      | own hcarries | ownPartial hcarries => exact absurd hcarries h
      | extended _ he =>
        exact .inl ⟨_, List.mk_mem_zipIdx_iff_getElem?.mpr he, List.mem_cons_self⟩
      | extendedPartial _ hname he =>
        exact .inl ⟨_, List.mk_mem_zipIdx_iff_getElem?.mpr he,
          List.mem_cons_of_mem _ (mem_rankedPartial_iff.mpr ⟨hname, rfl, rfl⟩)⟩
      | index _ he =>
        exact .inr ⟨_, List.mk_mem_zipIdx_iff_getElem?.mpr he, List.mem_cons_self⟩
      | indexPartial _ he =>
        exact .inr ⟨_, List.mk_mem_zipIdx_iff_getElem?.mpr he,
          List.mem_cons_of_mem _ List.mem_cons_self⟩

/-- A file and its partial behind it are sorted by rank. -/
theorem pairwise_cons_rankedPartial (rank : Nat) (file : String) (ending : List Char) :
    ((rank, file) :: rankedPartial head name (rank + 1) ending).Pairwise fun x y => x.1 < y.1 := by
  unfold rankedPartial
  split <;> simp

/-- `rankedCandidates` are sorted by rank. -/
theorem pairwise_rankedCandidates (extensions : List String) (head name : List Char) :
    (rankedCandidates extensions head name).Pairwise fun x y => x.1 < y.1 := by
  unfold rankedCandidates
  split
  · exact pairwise_cons_rankedPartial 0 _ _
  · have hpositions := pairwise_zipIdx extensions
    refine List.pairwise_append.mpr ⟨?_, ?_, ?_⟩
    · refine List.pairwise_flatMap.mpr ⟨fun x _ => pairwise_cons_rankedPartial _ _ _, ?_⟩
      refine hpositions.imp fun {x y} hlt a ha b hb => ?_
      -- with each extension there are two ranks
      have hle : a.1 ≤ 2 * x.2 + 1 := by
        rcases List.mem_cons.mp ha with rfl | ha
        · exact Nat.le_succ _
        · exact (mem_rankedPartial_iff.mp ha).2.1.le
      have hge : 2 * y.2 ≤ b.1 := by
        rcases List.mem_cons.mp hb with rfl | hb
        · exact Nat.le_refl _
        · exact (mem_rankedPartial_iff.mp hb).2.1 ▸ Nat.le_succ _
      omega
    · refine List.pairwise_flatMap.mpr ⟨fun x _ => by simp, ?_⟩
      refine hpositions.imp fun {x y} hlt a ha b hb => ?_
      simp only [List.mem_cons, List.not_mem_nil, or_false] at ha hb
      rcases ha with rfl | rfl <;> rcases hb with rfl | rfl <;> simp only <;> omega
    · -- the index files come after everything else
      intro a ha b hb
      obtain ⟨⟨e, i⟩, he, ha⟩ := List.mem_flatMap.mp ha
      obtain ⟨⟨e', i'⟩, -, hb⟩ := List.mem_flatMap.mp hb
      have hi : i < extensions.length :=
        (List.getElem?_eq_some_iff.mp (List.mk_mem_zipIdx_iff_getElem?.mp he)).1
      have hle : a.1 ≤ 2 * i + 1 := by
        rcases List.mem_cons.mp ha with rfl | ha
        · exact Nat.le_succ _
        · exact (mem_rankedPartial_iff.mp ha).2.1.le
      simp only [List.mem_cons, List.not_mem_nil, or_false] at hb
      rcases hb with rfl | rfl <;> simp only <;> omega

/-- `_` in front of the name of a target, read from its directory, leads to
`head ++ '_' :: file`. -/
theorem normalize_join_partial (h : Path.IsParted target head name) (dir : String)
    (file : List Char) :
    Path.normalize dir (Path.join (Path.directory target) ("_" ++ String.ofList file)) =
      Path.normalize dir (String.ofList (head ++ '_' :: file)) := by
  rw [Path.normalize_join_directory h (by simp [Path.isAbsolute])]
  simp

/-- `candidateNames target extensions` lead to the files of `rankedCandidates`, in that order. -/
theorem map_candidateNames (h : Path.IsParted target head name) (extensions : List String)
    (dir : String) :
    (candidateNames target extensions).map (Path.normalize dir) =
      (rankedCandidates extensions head name).map fun x => Path.normalize dir x.2 := by
  have htarget : String.ofList (head ++ name) = target := by
    rw [← h.toList_eq, String.ofList_toList]
  -- the partial of a name is tried in three places, so its case is settled once
  have hpartial : ∀ rank (ending : List Char),
      (if Path.isPartial target then [] else
        [Path.join (Path.directory target) ("_" ++ String.ofList (name ++ ending))]).map
          (Path.normalize dir) =
      (rankedPartial head name rank ending).map fun x => Path.normalize dir x.2 := by
    intro rank ending
    unfold rankedPartial
    by_cases hname : name.head? = some '_'
    · rw [if_pos hname, if_pos (h.isPartial_eq_true_iff.mpr hname)]
      rfl
    · rw [if_neg hname, if_neg fun hp => hname (h.isPartial_eq_true_iff.mp hp)]
      simp only [List.map_cons, List.map_nil, normalize_join_partial h, List.cons_append,
        List.append_assoc]
  -- `zipIdx` numbers the extensions without changing the walk over them
  have hnumbered : ∀ f : String → List String,
      extensions.flatMap f = extensions.zipIdx.flatMap fun x => f x.1 := by
    intro f
    have hmap := List.flatMap_map Prod.fst f extensions.zipIdx
    rwa [List.zipIdx_map_fst] at hmap
  have hiff : CarriesExtension extensions name ↔ Path.extension (Path.fileName target) ≠ "" ∧
      String.ofList (Path.extension (Path.fileName target)).toList.tail ∈ extensions :=
        h.carriesExtension_iff
  unfold candidateNames rankedCandidates
  simp only
  -- with a known extension only the name itself is tried, without one each in turn
  by_cases hcarries : CarriesExtension extensions name
  · rw [if_pos (hiff.mp hcarries), if_pos hcarries, List.map_cons, List.map_cons, htarget,
      h.fileName_eq]
    have hown := hpartial 1 []
    rw [List.append_nil] at hown
    rw [hown]
  · rw [if_neg fun hknown => hcarries (hiff.mpr hknown), if_neg hcarries, List.map_append,
      List.map_append, hnumbered, hnumbered, List.map_flatMap, List.map_flatMap, List.map_flatMap,
      List.map_flatMap]
    refine congrArg₂ (· ++ ·) (List.flatMap_congr fun x _ => ?_) (List.flatMap_congr fun x _ => ?_)
    · have htext : target ++ "." ++ x.1 = String.ofList (head ++ name ++ '.' :: x.1.toList) := by
        rw [← String.toList_inj]
        simp [h.toList_eq]
      have hname : Path.fileName target ++ "." ++ x.1 =
          String.ofList (name ++ '.' :: x.1.toList) := by
        rw [← String.toList_inj]
        simp [h.fileName_eq]
      rw [List.map_cons, List.map_cons, htext, hname, hpartial (2 * x.2 + 1) ('.' :: x.1.toList)]
    · rw [htarget]
      rfl

/-! ## Resolution -/

namespace Loader

/-- The path `q` is what the target `target` of the file `importer` may mean in the directory with
the number `i`, under its candidate name with the rank `j`. The directory of that file is searched
first, and then each load path in turn. -/
def IsCandidatePath (l : Loader) (t : FileTree) (importer target : String) (i j : Nat)
    (q : String) : Prop :=
  ∃ dir head name file, (Path.directory importer :: l.loadPaths)[i]? = some dir ∧
    Path.IsParted target head name ∧ Candidate l.extensions head name j file ∧
    q = Path.normalize (t.normalize dir) file

/-- What a target may mean, by directory and rank. -/
noncomputable def rankedPaths (l : Loader) (t : FileTree) (importer : String)
    (head name : List Char) :
    List ((ℕ ×ₗ ℕ) × String) :=
  (Path.directory importer :: l.loadPaths).zipIdx.flatMap fun x =>
    (rankedCandidates l.extensions head name).map fun y =>
      (toLex (x.2, y.1), Path.normalize (t.normalize x.1) y.2)

/-- `((i, j), q)` is among the `rankedPaths` exactly if
`l.IsCandidatePath t importer target i j q`. -/
theorem mem_rankedPaths_iff (h : Path.IsParted target head name) {i j : Nat} {q : String} :
    (toLex (i, j), q) ∈ l.rankedPaths t importer head name ↔
    l.IsCandidatePath t importer target i j q := by
  unfold rankedPaths
  rw [List.mem_flatMap]
  constructor
  · rintro ⟨⟨dir, i'⟩, hdir, hq⟩
    obtain ⟨⟨j', file⟩, hfile, heq⟩ := List.mem_map.mp hq
    obtain ⟨hrank, rfl⟩ := Prod.mk.inj heq
    obtain ⟨rfl, rfl⟩ := Prod.mk.inj (toLex_inj.mp hrank)
    exact ⟨dir, head, name, file, List.mk_mem_zipIdx_iff_getElem?.mp hdir, h,
      mem_rankedCandidates_iff.mp hfile, rfl⟩
  · rintro ⟨dir, head', name', file, hdir, hparted, hfile, rfl⟩
    obtain ⟨rfl, rfl⟩ := Prod.mk.inj (hparted.splitAtLastSlash_eq.symm.trans h.splitAtLastSlash_eq)
    exact ⟨(dir, i), List.mk_mem_zipIdx_iff_getElem?.mpr hdir,
      List.mem_map.mpr ⟨(j, file), mem_rankedCandidates_iff.mpr hfile, rfl⟩⟩

/-- `rankedPaths` are sorted by `(i, j)`, in lexicographic order. -/
theorem pairwise_rankedPaths (l : Loader) (t : FileTree) (importer : String)
    (head name : List Char) :
    (l.rankedPaths t importer head name).Pairwise fun x y => x.1 < y.1 := by
  refine List.pairwise_flatMap.mpr ⟨fun x _ => List.pairwise_map.mpr ?_, ?_⟩
  · refine (pairwise_rankedCandidates _ _ _).imp fun {y y'} hlt => ?_
    exact Prod.Lex.toLex_lt_toLex.mpr (.inr ⟨rfl, hlt⟩)
  · refine (pairwise_zipIdx _).imp fun {x y} hlt a ha b hb => ?_
    obtain ⟨y', -, rfl⟩ := List.mem_map.mp ha
    obtain ⟨y'', -, rfl⟩ := List.mem_map.mp hb
    exact Prod.Lex.toLex_lt_toLex.mpr (.inl hlt)

/-- The paths of `rankedPaths` are `l.candidates t importer target`. -/
theorem map_rankedPaths (h : Path.IsParted target head name) (l : Loader) (t : FileTree)
    (importer : String) :
    (l.rankedPaths t importer head name).map Prod.snd = l.candidates t importer target := by
  have hdirs := List.flatMap_map Prod.fst (fun dir => (candidateNames target l.extensions).map
    (Path.normalize (t.normalize dir))) (Path.directory importer :: l.loadPaths).zipIdx
  rw [List.zipIdx_map_fst] at hdirs
  rw [rankedPaths, candidates, hdirs, List.map_flatMap]
  refine List.flatMap_congr fun x _ => ?_
  rw [List.map_map, map_candidateNames h]
  rfl

/-- A target means the first of the files that it may mean: the one from the first directory in
which there are any, and in it the one with the least rank. It means none exactly if there is none;
and what it means is given by its canonical path. -/
theorem resolve?_isFirst (l : Loader) (t : FileTree) (importer target : String) :
    (∀ q, l.resolve? t importer target = some q ↔
      ∃ i j, l.IsCandidatePath t importer target i j q ∧ t.isFile q = true ∧
        ∀ i' j' q', l.IsCandidatePath t importer target i' j' q' → t.isFile q' = true →
          i < i' ∨ i = i' ∧ j ≤ j') ∧
    (l.resolve? t importer target = none ↔
      ∀ i j q, l.IsCandidatePath t importer target i j q → t.isFile q = false) ∧
    ∀ q, l.resolve? t importer target = some q → ∀ dir, Path.normalize dir q = q := by
  have hparted := Path.isParted_splitAtLastSlash target
  -- `rankedPaths` is the list the loader walks, in rising order of `(i, j)`
  have hlists := map_rankedPaths hparted l t importer
  have hmem : ∀ {i j q}, (toLex (i, j), q) ∈ l.rankedPaths t importer _ _ ↔
    l.IsCandidatePath t importer target i j q := mem_rankedPaths_iff hparted
  refine ⟨fun q => ?_, ?_, fun q hq dir => ?_⟩
  · rw [resolve?, ← hlists, find?_map_snd_eq_some_iff (pairwise_rankedPaths l t importer _ _)]
    constructor
    · rintro ⟨rank, hq, hfile, hleast⟩
      refine ⟨(ofLex rank).1, (ofLex rank).2, hmem.mp hq, hfile, fun i' j' q' hq' hfile' => ?_⟩
      exact Prod.Lex.toLex_le_toLex.mp (hleast _ q' (hmem.mpr hq') hfile')
    · rintro ⟨i, j, hq, hfile, hleast⟩
      refine ⟨toLex (i, j), hmem.mpr hq, hfile, fun rank q' hq' hfile' => ?_⟩
      exact Prod.Lex.toLex_le_toLex.mpr
        (hleast (ofLex rank).1 (ofLex rank).2 q' (hmem.mp hq') hfile')
  · rw [resolve?, ← hlists, List.find?_eq_none]
    constructor
    · intro hnone i j q hq
      simpa using hnone q (List.mem_map_of_mem (hmem.mpr hq))
    · intro hnone q hq
      obtain ⟨⟨rank, _⟩, hq', rfl⟩ := List.mem_map.mp hq
      simpa using hnone (ofLex rank).1 (ofLex rank).2 _ (hmem.mp hq')
  · exact (isFile_of_resolve? hq).2.normalize_eq_self dir

/-- An index file in a directory beside the importer, and a file of the very name in the load
path. -/
def nearAndFar : FileTree where
  entries := [(["s"], .directory), (["s", "b"], .directory), (["s", "b", "index.scss"], .file []),
    (["l"], .directory), (["l", "b.scss"], .file [])]

/-- The directory of the importer comes before the load path, whatever the ranks: `b` means the
index file. -/
theorem resolve?_nearAndFar :
    let l : Loader := { loadPaths := ["/l"], extensions := ["scss"] }
    l.resolve? nearAndFar "/s/a.scss" "b" = some "/s/b/index.scss" ∧
      Path.normalize "/l" "/s/b/index.scss" = "/s/b/index.scss" ∧
      ∃ i j, l.IsCandidatePath nearAndFar "/s/a.scss" "b" i j "/s/b/index.scss" ∧
        ∀ i' j', l.IsCandidatePath nearAndFar "/s/a.scss" "b" i' j' "/l/b.scss" → i < i' ∨
        i = i' ∧ j ≤ j' := by
  intro l
  have hcandidates : l.candidates nearAndFar "/s/a.scss" "b" =
      ["/s/b.scss", "/s/_b.scss", "/s/b/index.scss", "/s/b/_index.scss",
        "/l/b.scss", "/l/_b.scss", "/l/b/index.scss", "/l/b/_index.scss"] := by decide
  have hmissing : nearAndFar.isFile "/s/b.scss" = false := by cbv
  have hmissing' : nearAndFar.isFile "/s/_b.scss" = false := by cbv
  have hindex : nearAndFar.isFile "/s/b/index.scss" = true := by cbv
  have hfar : nearAndFar.isFile "/l/b.scss" = true := by cbv
  have hresolve : l.resolve? nearAndFar "/s/a.scss" "b" = some "/s/b/index.scss" := by
    rw [resolve?, hcandidates]
    simp [hmissing, hmissing', hindex]
  obtain ⟨hsome, -, hcanonical⟩ := resolve?_isFirst l nearAndFar "/s/a.scss" "b"
  obtain ⟨i, j, hpath, -, hleast⟩ := (hsome _).mp hresolve
  exact ⟨hresolve, hcanonical _ hresolve "/l", i, j, hpath, fun i' j' h => hleast i' j' _ h hfar⟩

end Loader

end Restyle
