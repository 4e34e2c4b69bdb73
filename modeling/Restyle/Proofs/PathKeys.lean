import Mathlib
import Restyle.Resolution
import Restyle.Proofs.ContainedOutput

/-! # Path keys
The canonical form of a path is the key under which it is known in the import graph and to the
watcher. It keeps of the path where it leads: its leading slashes and its components
(`Agree`). What is read from a path depends on nothing else (`Agree.join`), so that it may be read
from the key of the path as well. Main statement: `normalize_isKey`; for the imports of a stylesheet
it means that load paths may be spelled in any way (`Loader.candidates_make`). -/

namespace Restyle

namespace Path

variable {base base' dir dir' p q r rel : String}

/-! ## Texts that lead to one place -/

/-- Two path texts that have the same canonical form: their leading slashes and their components
agree. -/
structure Agree (p q : String) : Prop where
  rootSlashes_eq : rootSlashes p.toList = rootSlashes q.toList
  components_eq : components p.toList = components q.toList

/-- `Agree` is reflexive. -/
theorem Agree.refl (p : String) : Agree p p := ⟨rfl, rfl⟩

/-- `Agree` is symmetric. -/
theorem Agree.symm (h : Agree p q) : Agree q p := ⟨h.rootSlashes_eq.symm, h.components_eq.symm⟩

/-- `Agree` is transitive. -/
theorem Agree.trans (hpq : Agree p q) (hqr : Agree q r) : Agree p r :=
  ⟨hpq.rootSlashes_eq.trans hqr.rootSlashes_eq, hpq.components_eq.trans hqr.components_eq⟩

instance : Trans Agree Agree Agree := ⟨Agree.trans⟩

/-- `normalize dir p = normalize dir' q` where what is joined agrees. -/
theorem Agree.normalize_eq (h : Agree (join dir p) (join dir' q)) :
    normalize dir p = normalize dir' q := by
  unfold normalize
  simp only [h.rootSlashes_eq, h.components_eq]

/-- `normalize dir p` agrees with `join dir p`. -/
theorem agree_normalize (dir p : String) : Agree (normalize dir p) (join dir p) where
  rootSlashes_eq := by
    rw [normalize, String.toList_ofList,
      rootSlashes_render (isRoot_rootSlashes _) fun _ => isName_of_mem_components]
  components_eq := components_normalize dir p

/-! ## Reading from a path -/

/-- `rootSlashes` of a relative path are one slash, by default. -/
theorem rootSlashes_of_relative (hrel : isAbsolute rel = false) :
    rootSlashes rel.toList = ['/'] := by
  unfold rootSlashes
  split
  · rfl
  · next heq => simp [isAbsolute, heq] at hrel
  · rfl

/-- `join base rel` has the `rootSlashes` of `base`, for a relative path `rel`. -/
theorem rootSlashes_join_of_relative (base : String) (hrel : isAbsolute rel = false) :
    rootSlashes (join base rel).toList = rootSlashes base.toList := by
  by_cases hbase : base = ""
  · have hjoin : join "" rel = rel := by
      rw [join, if_neg (by simp [hrel]), if_pos (by simp), String.empty_append]
    rw [hbase, hjoin, rootSlashes_of_relative hrel]
    rfl
  · exact rootSlashes_join hbase hrel

/-- `Agree` goes through `join · rel`. -/
theorem Agree.join (h : Agree base base') (rel : String) :
    Agree (join base rel) (join base' rel) := by
  by_cases habsolute : isAbsolute rel = true
  · rw [Path.join, if_pos habsolute, Path.join, if_pos habsolute]
    exact .refl rel
  · have hrel : isAbsolute rel = false := by simpa using habsolute
    constructor
    · rw [rootSlashes_join_of_relative base hrel, rootSlashes_join_of_relative base' hrel,
        h.rootSlashes_eq]
    · rw [components_join_of_relative base hrel, components_join_of_relative base' hrel,
        h.components_eq]

/-- `join dir ""` agrees with `dir`. -/
theorem agree_join_empty (dir : String) : Agree (join dir "") dir where
  rootSlashes_eq := rootSlashes_join_of_relative dir rfl
  components_eq := by
    rw [components_join_of_relative dir rfl]
    simp

/-- `join dir (join a b)` agrees with `join (join dir a) b`. -/
theorem agree_join_join (dir a b : String) : Agree (join dir (join a b)) (join (join dir a) b) := by
  by_cases habsolute : isAbsolute b = true
  · have hself : ∀ base, join base b = b := fun base => by rw [join, if_pos habsolute]
    rw [hself, hself, hself]
    exact .refl b
  · have hrel : isAbsolute b = false := by simpa using habsolute
    by_cases ha : a = ""
    · subst ha
      have hjoin : join "" b = b := by
        rw [join, if_neg habsolute, if_pos (by simp), String.empty_append]
      rw [hjoin]
      exact ((agree_join_empty dir).join b).symm
    · rw [join_join ha hrel]
      exact .refl _

/-- `join (normalize dir a) b` agrees with `join dir (join a b)`. -/
theorem agree_join_normalize (dir a b : String) :
    Agree (join (normalize dir a) b) (join dir (join a b)) :=
  calc
    Agree (join (normalize dir a) b) (join (join dir a) b) := (agree_normalize dir a).join b
    Agree _ (join dir (join a b)) := (agree_join_join dir a b).symm

/-- `normalize dir (join (normalize dir a) b) = normalize dir (join a b)`. -/
theorem normalize_join_normalize (dir a b : String) :
    normalize dir (join (normalize dir a) b) = normalize dir (join a b) := by
  have hcanonical := isCanonical_normalize dir a
  apply Agree.normalize_eq
  calc
    Agree (join dir (join (normalize dir a) b)) (join (join dir (normalize dir a)) b) :=
      agree_join_join dir _ b
    Agree _ (join (normalize dir a) b) := by rw [hcanonical.join_eq]; exact .refl _
    Agree _ (join dir (join a b)) := agree_join_normalize dir a b

/-- The canonical form of a path is its key: absolute, made of names behind one or two slashes, and
its own canonical form. What is read from a path has the same key as what is read from its key, be
that joined to the key and spelled anew or read from the key as the working directory. -/
theorem normalize_isKey (dir a b : String) :
    isAbsolute (normalize dir a) = true ∧ IsCanonical (normalize dir a) ∧
      normalize dir (normalize dir a) = normalize dir a ∧
      normalize dir (join (normalize dir a) b) = normalize dir (join a b) ∧
      normalize (normalize dir a) b = normalize dir (join a b) := by
  have hcanonical := isCanonical_normalize dir a
  exact ⟨hcanonical.isAbsolute, hcanonical, normalize_normalize dir dir a,
    normalize_join_normalize dir a b, (agree_join_normalize dir a b).normalize_eq⟩

-- two slashes are kept, and the name that is left again was never there
example : normalize "//w" (join (normalize "//w" "a/..") "./b//c/") = "//w/b/c" := by decide

end Path

/-! ## Keys of imports -/

/-- However the load paths of a loader are spelled, the files that a target may mean are the keys of
what is read from the directory of the importer and from each load path. -/
theorem Loader.candidates_make (t : FileTree) (loadPaths extensions : List String)
    (importer target : String) :
    (Loader.make t loadPaths extensions).candidates t importer target =
      (Path.directory importer :: loadPaths).flatMap fun root =>
        (candidateNames target extensions).map fun name => t.normalize (Path.join root name) := by
  have hread : ∀ root, Path.normalize (t.normalize root) = fun name =>
      t.normalize (Path.join root name) := by
    intro root
    funext name
    exact (Path.agree_join_normalize t.workingDir root name).normalize_eq
  have hkey : ∀ root name, t.normalize (Path.join (t.normalize root) name) =
      t.normalize (Path.join root name) :=
    Path.normalize_join_normalize t.workingDir
  simp only [Loader.candidates, Loader.make, List.flatMap_cons, List.flatMap_map, hread, hkey]

end Restyle
