import Mathlib
import Restyle.Resolution
import Restyle.Proofs.CanonicalPath
import Restyle.Proofs.FreshOnes

/-! # Imported files
What one stylesheet imports: `FileTree.Imports` is the relation between a file that can be read and
the files that its targets mean. What a loader reads agrees with it (`mem_resolvedAt`), and imports
lead to files under their canonical paths (`Imports.isFile`, `Imports.isCanonical`). -/

namespace Restyle

/-- The file `p` imports the file `q`: `p` can be read, and `q` is what one of its targets means. -/
def FileTree.Imports (t : FileTree) (l : Loader) (p q : String) : Prop :=
  ∃ source, t.readText p = .ok source ∧
    ∃ target ∈ Stylesheet.imports (dialectOf p) source, l.resolve? t p target = some q

namespace Loader

variable {l : Loader} {t : FileTree} {p q importer target : String}

/-! ## Resolution -/

/-- `l.resolve? t importer target` is a canonical path with `t.isFile`. -/
theorem isFile_of_resolve? (h : l.resolve? t importer target = some q) :
    t.isFile q = true ∧ Path.IsCanonical q := by
  refine ⟨List.find?_some h, ?_⟩
  obtain ⟨dir, -, hq⟩ := List.mem_flatMap.mp (List.mem_of_find?_eq_some h)
  obtain ⟨name, -, rfl⟩ := List.mem_map.mp hq
  exact Path.isCanonical_normalize _ _

/-- `(make t loadPaths extensions).resolve?` is that of the load paths as they are given: canonical
form does not change what a target means. -/
theorem resolve?_make (t : FileTree) (loadPaths extensions : List String)
    (importer target : String) :
    (make t loadPaths extensions).resolve? t importer target =
      resolve? { loadPaths, extensions } t importer target := by
  -- the candidates are normalized when they are made, once more for those from a load path
  have hcandidates : (make t loadPaths extensions).candidates t importer target =
      candidates { loadPaths, extensions } t importer target := by
    simp [candidates, make, List.flatMap_map, FileTree.normalize]
  rw [resolve?, resolve?, hcandidates]

/-! ## What is read from one file -/

/-- The files that the file at a path imports, as far as it can be read. -/
def resolvedAt (l : Loader) (t : FileTree) (p : String) : List String :=
  match l.read t p with
  | .ok file => file.resolved
  | .error _ => []

/-- The imports of the file at a path that mean no file, as far as it can be read. -/
def unresolvedAt (l : Loader) (t : FileTree) (p : String) : List UnresolvedImport :=
  match l.read t p with
  | .ok file => file.unresolved.map (UnresolvedImport.mk p)
  | .error _ => []

/-- `l.read t p` is about `p`. -/
theorem path_of_read {file : FileImports} (h : l.read t p = .ok file) : file.path = p := by
  unfold read at h
  cases hread : t.readText (Path.tidy p) with
  | error e => simp [hread, Except.map] at h
  | ok source =>
    rw [hread] at h
    cases h
    rfl

/-- `Stylesheet.imports dialect source` has no duplicates. -/
theorem nodup_imports (dialect : Stylesheet.Dialect) (source : List Char) :
    (Stylesheet.imports dialect source).Nodup :=
  (nodup_eraseDups _).map fun _ _ => String.ofList_inj.mp

/-- `l.resolvedAt t p` has no duplicates. -/
theorem nodup_resolvedAt (l : Loader) (t : FileTree) (p : String) : (l.resolvedAt t p).Nodup := by
  unfold resolvedAt read
  cases t.readText (Path.tidy p) with
  | error e => exact List.nodup_nil
  | ok source => exact nodup_eraseDups _

/-- `l.unresolvedAt t p` has no duplicates. -/
theorem nodup_unresolvedAt (l : Loader) (t : FileTree) (p : String) :
    (l.unresolvedAt t p).Nodup := by
  unfold unresolvedAt read
  cases t.readText (Path.tidy p) with
  | error e => exact List.nodup_nil
  | ok source =>
    refine ((nodup_imports _ _).filter _).map ?_
    intro a b hab
    exact congrArg UnresolvedImport.target hab

/-- `l.unresolvedAt t p` is about `p`. -/
theorem importer_of_mem_unresolvedAt {u : UnresolvedImport} (h : u ∈ l.unresolvedAt t p) :
    u.importer = p := by
  unfold unresolvedAt at h
  split at h
  · obtain ⟨target, -, rfl⟩ := List.mem_map.mp h
    rfl
  · exact absurd h List.not_mem_nil

/-- `q ∈ l.resolvedAt t p ↔ t.Imports l p q` for a canonical path `p`. -/
theorem mem_resolvedAt (hp : Path.IsCanonical p) : q ∈ l.resolvedAt t p ↔ t.Imports l p q := by
  unfold resolvedAt read FileTree.Imports
  rw [hp.tidy_eq_self]
  cases t.readText p with
  | error e => simp [Except.map]
  | ok source => simp [Except.map, importsOf, List.mem_eraseDups]

/-- `l.unresolvedAt t p` are the targets of `p` with `l.resolve? t p target = none`, for a canonical
path `p`. -/
theorem mem_unresolvedAt (hp : Path.IsCanonical p) {u : UnresolvedImport} :
    u ∈ l.unresolvedAt t p ↔ ∃ source, t.readText p = .ok source ∧
      ∃ target ∈ Stylesheet.imports (dialectOf p) source,
        l.resolve? t p target = none ∧ u = ⟨p, target⟩ := by
  unfold unresolvedAt read
  rw [hp.tidy_eq_self]
  cases t.readText p with
  | error e => simp [Except.map]
  | ok source =>
    have hflip : ∀ target, UnresolvedImport.mk p target = u ↔ u = ⟨p, target⟩ :=
      fun target => eq_comm
    simp [Except.map, importsOf, and_assoc, hflip]

end Loader

namespace FileTree

variable {l : Loader} {t : FileTree} {p q : String}

/-- What a file imports is a file. -/
theorem Imports.isFile (h : t.Imports l p q) : t.isFile q = true := by
  obtain ⟨source, -, target, -, hresolve⟩ := h
  exact (Loader.isFile_of_resolve? hresolve).1

/-- What a file imports is given by its canonical path. -/
theorem Imports.isCanonical (h : t.Imports l p q) : Path.IsCanonical q := by
  obtain ⟨source, -, target, -, hresolve⟩ := h
  exact (Loader.isFile_of_resolve? hresolve).2

/-- `t.Imports (Loader.make t loadPaths extensions) p q` for the load paths as they are given:
canonical form does not change the imports. -/
theorem imports_make_iff (loadPaths extensions : List String) :
    t.Imports (Loader.make t loadPaths extensions) p q ↔
    t.Imports { loadPaths, extensions } p q := by
  simp only [Imports, Loader.resolve?_make]

end FileTree

end Restyle
