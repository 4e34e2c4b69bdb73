import Mathlib
import Restyle.Dispatcher
import Restyle.Proofs.ImportClosure
import Restyle.Proofs.Traversal

/-! # The rebuild set
A dispatcher renders, for a changed file of a scanned graph, what imports it directly or through
others, except for partials. The graph holds what the files import (`mem_imports_iff_of_scan_eq`),
and the search backwards through it is complete (`mem_ancestors_iff`), so that the rebuild set is
exact (`targets_exact`). -/

namespace Restyle

open Relation

variable {t : FileTree} {r : ScanRequest} {g : ImportGraph} {p q : String}

namespace FileTree

/-! ## Scanned graphs -/

/-- `t.scanRoot root = .ok dir` only if `t.IsScannable root`, with
`dir = t.directoryToScan root`. -/
theorem isScannable_of_scanRoot_eq {root dir : String} (h : t.scanRoot root = .ok dir) :
    t.IsScannable root ∧ dir = t.directoryToScan root := by
  unfold scanRoot at h
  split at h
  · cases h
  · cases h
  · next hexists =>
    simp only at h
    split at h
    · cases h
    · next hdir =>
      split at h
      · cases h
      · next hfile =>
        simp only [Bool.not_eq_true', Bool.not_eq_false, Bool.and_eq_true] at hdir
        refine ⟨⟨testExists_eq_ok_true_iff.mp hexists, ?_, hdir.1, hdir.2⟩, (Except.ok.inj h).symm⟩
        -- a root that is no file is the directory to scan
        by_cases hisFile : t.isFile root = true
        · simpa [hisFile] using hfile
        · have hreadable := hdir.1
          rwa [directoryToScan, if_neg hisFile] at hreadable

/-- `t.scan r = .ok g` only if the root can be scanned, and the search below it succeeds. -/
theorem isScannable_and_discover_of_scan_eq (h : t.scan r = .ok g) :
    t.IsScannable (t.absolute r.root) ∧
      ∃ found, t.discover (t.directoryToScan (t.absolute r.root)) r.deep r.extensions =
        .ok found := by
  unfold scan scanAll at h
  simp only at h
  cases hroot : t.scanRoot (t.absolute r.root) with
  | error failure =>
    rw [hroot] at h
    cases h
  | ok dir =>
    obtain ⟨hscannable, rfl⟩ := isScannable_of_scanRoot_eq hroot
    refine ⟨hscannable, ?_⟩
    rw [hroot] at h
    cases hfound : t.discover (t.directoryToScan (t.absolute r.root)) r.deep r.extensions with
    | ok found => exact ⟨found, rfl⟩
    | error failure =>
      have hfail : Except.map (fun s : Scan => s.graph.freeze)
          ((t.discover (t.directoryToScan (t.absolute r.root)) r.deep r.extensions).mapError
            (searchFailure (t.absolute r.root)) >>= _) = .ok g := h
      rw [hfound] at hfail
      cases hfail

/-- `t.scan r = .ok g` only if the root can be scanned. -/
theorem isScannable_of_scan_eq (h : t.scan r = .ok g) : t.IsScannable (t.absolute r.root) :=
  (isScannable_and_discover_of_scan_eq h).1

/-- `t.scan r = .ok g` only if the search below the root succeeds. -/
theorem exists_discover_of_scan_eq (h : t.scan r = .ok g) :
    ∃ found, t.discover (t.directoryToScan (t.absolute r.root)) r.deep r.extensions = .ok found :=
  (isScannable_and_discover_of_scan_eq h).2

/-- `t.scan r = .ok g` only for `g = s.graph.freeze` with a scan `s` that is `Consistent` and
`IsComplete`, and that started from canonical paths: what was found, and the root if it is a
file. -/
theorem exists_of_scan_eq (h : t.scan r = .ok g) :
    ∃ s start, g = s.graph.freeze ∧ (∀ p ∈ start, Path.IsCanonical p) ∧
      (∀ p ∈ start, t.IsDiscovered (t.directoryToScan (t.absolute r.root)) r.deep r.extensions p ∨
        t.isFile (t.absolute r.root) = true ∧ p = t.normalize (t.absolute r.root)) ∧
      Scan.Consistent t (Loader.make t r.includePaths r.extensions) start s ∧
      Scan.IsComplete t (Loader.make t r.includePaths r.extensions)
        (t.closedSets (Loader.make t r.includePaths r.extensions) r (t.absolute r.root)
          (t.directoryToScan (t.absolute r.root))) s := by
  obtain ⟨hscannable, found, hfound⟩ := isScannable_and_discover_of_scan_eq h
  have hstart : ∀ p ∈ t.scanStart (t.absolute r.root) found, Path.IsCanonical p :=
    fun p hp => isCanonical_of_mem_scanStart hfound hp
  have hscan := scan_eq_of_scanAll_eq (hscannable.scanAll_eq hfound)
  refine ⟨_, t.scanStart (t.absolute r.root) found, Except.ok.inj (h.symm.trans hscan), hstart,
    fun p hp => ?_, (t.consistent_run_beginScan r _ hstart).1, isComplete_run_beginScan _ hfound⟩
  exact (mem_scanStart.mp hp).imp_left fun hp => ⟨found, hfound, hp⟩

/-- A scanned graph is `WellFormed`. -/
theorem wellFormed_of_scan_eq (h : t.scan r = .ok g) : g.WellFormed := by
  obtain ⟨s, _, rfl, -, -, hconsistent, -⟩ := exists_of_scan_eq h
  exact hconsistent.wellFormed.freeze

/-- The files of a scanned graph are canonical paths. -/
theorem isCanonical_of_scan_eq (h : t.scan r = .ok g) (hp : p ∈ g.paths) : Path.IsCanonical p := by
  obtain ⟨s, start, rfl, hstart, -, hconsistent, -⟩ := exists_of_scan_eq h
  exact (hconsistent.inClosure p hp).isCanonical hstart

/-- A scanned graph gives a file of it as it is, `g.normalize p = p`. -/
theorem normalize_eq_of_scan_eq (h : t.scan r = .ok g) (hp : p ∈ g.paths) : g.normalize p = p :=
  (isCanonical_of_scan_eq h hp).normalize_eq_self _

/-- `g.workingDir = t.workingDir` for a scanned graph. -/
theorem workingDir_of_scan_eq (h : t.scan r = .ok g) : g.workingDir = t.workingDir := by
  obtain ⟨s, _, rfl, -, -, hconsistent, -⟩ := exists_of_scan_eq h
  exact hconsistent.workingDir_eq

/-- A scanned graph is that of a scan which `IsComplete`. -/
theorem isComplete_of_scan_eq (h : t.scan r = .ok g) :
    ∃ s, g = s.graph.freeze ∧
      Scan.IsComplete t (Loader.make t r.includePaths r.extensions)
        (t.closedSets (Loader.make t r.includePaths r.extensions) r (t.absolute r.root)
          (t.directoryToScan (t.absolute r.root))) s := by
  obtain ⟨s, -, rfl, -, -, -, hcomplete⟩ := exists_of_scan_eq h
  exact ⟨s, rfl, hcomplete⟩

/-- `{p | p ∈ g.paths}` is the least of the `closedSets`: it holds what the scan starts from, and
what its members import. -/
theorem isLeast_paths_of_scan_eq (h : t.scan r = .ok g) :
    IsLeast (t.closedSets { loadPaths := r.includePaths, extensions := r.extensions } r
      (t.absolute r.root)
      (t.directoryToScan (t.absolute r.root))) {p | p ∈ g.paths} := by
  obtain ⟨s, rfl, hcomplete⟩ := isComplete_of_scan_eq h
  have hleast := hcomplete.isLeast
  simp only [closedSets, imports_make_iff] at hleast
  exact hleast

/-- Everything that `IsDiscovered` is a file of the scanned graph. -/
theorem mem_paths_of_isDiscovered (h : t.scan r = .ok g)
    (hp : t.IsDiscovered (t.directoryToScan (t.absolute r.root)) r.deep r.extensions p) :
    p ∈ g.paths :=
  (isLeast_paths_of_scan_eq h).1.1 p hp

/-- A root that is a file is a file of the scanned graph. -/
theorem root_mem_paths_of_scan_eq (h : t.scan r = .ok g)
    (hfile : t.isFile (t.absolute r.root) = true) :
    t.normalize (t.absolute r.root) ∈ g.paths :=
  (isLeast_paths_of_scan_eq h).1.2.1 hfile

/-- `t.Imports` leads from files of a scanned graph to files of it. -/
theorem mem_paths_of_imports (h : t.scan r = .ok g) (hp : p ∈ g.paths)
    (himports : t.Imports { loadPaths := r.includePaths, extensions := r.extensions } p q) :
    q ∈ g.paths :=
  (isLeast_paths_of_scan_eq h).1.2.2 p hp q himports

/-- `q ∈ g.imports.neighbours p ↔ t.Imports … p q` for a file `p` of a scanned graph. -/
theorem mem_imports_iff_of_scan_eq (h : t.scan r = .ok g) (hp : p ∈ g.paths) :
    q ∈ g.imports.neighbours p ↔
      t.Imports { loadPaths := r.includePaths, extensions := r.extensions } p q := by
  have hcanonical := isCanonical_of_scan_eq h hp
  obtain ⟨s, rfl, hcomplete⟩ := isComplete_of_scan_eq h
  have himports : s.graph.freeze.imports.neighbours p = s.graph.importsOf p := by
    rw [ImportGraph.importsOf, ImportGraph.normalize, hcanonical.normalize_eq_self]
    rfl
  rw [himports, hcomplete.importsOf_eq p hp, Loader.mem_resolvedAt hcanonical, imports_make_iff]

/-- Walking the imports from a file of a scanned graph is walking `t.Imports`. -/
theorem reflTransGen_imports_iff_of_scan_eq (h : t.scan r = .ok g) (hp : p ∈ g.paths) :
    ReflTransGen (fun a b => b ∈ g.imports.neighbours a) p q ↔
      ReflTransGen (t.Imports { loadPaths := r.includePaths, extensions := r.extensions }) p q := by
  refine reflTransGen_iff_of_agree (· ∈ g.paths) ?_ ?_ hp
  · exact fun a b _ hb => (wellFormed_of_scan_eq h).mem_paths_of_mem_imports a b hb
  · exact fun a ha b => mem_imports_iff_of_scan_eq h ha

end FileTree

/-! ## Ancestors -/

namespace ImportGraph

/-- `p ∈ g.ancestors q` exactly if imports lead from `p` to `q`: the index of the importers is
walked the other way. -/
theorem WellFormed.mem_ancestors_iff (h : g.WellFormed)
    (hcanonical : ∀ p ∈ g.paths, g.normalize p = p) :
    p ∈ g.ancestors q ↔ ReflTransGen (fun a b => b ∈ g.imports.neighbours a) p (g.normalize q) := by
  have hnext : ∀ a, ∀ b ∈ g.importersOf a, b ∈ g.paths :=
    fun a b hb => h.mem_paths_of_mem_importersOf hb
  rw [ancestors, mem_reachFrom_iff hnext,
    ← reflTransGen_swap (r := fun a b => b ∈ g.imports.neighbours a)]
  -- every file on the way back is given by its canonical path, the start included
  have hstart : ∀ path, g.normalize (g.normalize path) = g.normalize path :=
    fun path => Path.normalize_normalize _ _ _
  refine reflTransGen_iff_of_agree (fun a => g.normalize a = a) ?_ ?_ (hstart _)
  · exact fun a b _ hb => hcanonical b (hnext a b hb)
  · intro a (ha : g.normalize a = a) b
    rw [importersOf, ha]
    exact h.mem_importers_iff b a

/-- `g.ancestors path` has no duplicates. -/
theorem WellFormed.nodup_ancestors (h : g.WellFormed) (path : String) : (g.ancestors path).Nodup :=
  nodup_reachFrom (fun _ _ hb => h.mem_paths_of_mem_importersOf hb) path

/-- The members of `g.ancestors q` are files of the graph, if `q` is one. -/
theorem WellFormed.mem_paths_of_mem_ancestors (h : g.WellFormed) (hq : g.normalize q ∈ g.paths)
    (hp : p ∈ g.ancestors q) : p ∈ g.paths := by
  have hwalk := (mem_reachFrom_iff fun _ _ hb => h.mem_paths_of_mem_importersOf hb).mp hp
  rcases ReflTransGen.cases_tail hwalk with rfl | ⟨a, -, hstep⟩
  · exact hq
  · exact h.mem_paths_of_mem_importersOf hstep

end ImportGraph

/-! ## What is rendered -/

/-- `e ∈ g.renderTargets f` exactly if `e` is a file of the graph, no partial, and `t.Imports` leads
from it to `f`. -/
theorem FileTree.mem_renderTargets_iff_of_scan_eq {e f : String} (hscan : t.scan r = .ok g)
    (hf : f ∈ g.paths) :
    e ∈ g.renderTargets f ↔ e ∈ g.paths ∧ Path.isPartial e = false ∧
      ReflTransGen (t.Imports { loadPaths := r.includePaths, extensions := r.extensions }) e f := by
  have hwell := wellFormed_of_scan_eq hscan
  have hcanonical : ∀ p ∈ g.paths, g.normalize p = p := fun p hp => normalize_eq_of_scan_eq hscan hp
  have hmem : e ∈ g.ancestors f → e ∈ g.paths :=
    hwell.mem_paths_of_mem_ancestors ((hcanonical f hf).symm ▸ hf)
  rw [ImportGraph.renderTargets, List.mem_filter, Bool.not_eq_true']
  constructor
  · rintro ⟨hancestor, hpartial⟩
    have hwalk := (hwell.mem_ancestors_iff hcanonical).mp hancestor
    rw [hcanonical f hf] at hwalk
    refine ⟨hmem hancestor, hpartial, ?_⟩
    exact (reflTransGen_imports_iff_of_scan_eq hscan (hmem hancestor)).mp hwalk
  · rintro ⟨he, hpartial, hwalk⟩
    refine ⟨(hwell.mem_ancestors_iff hcanonical).mpr ?_, hpartial⟩
    rw [hcanonical f hf]
    exact (reflTransGen_imports_iff_of_scan_eq hscan he).mpr hwalk

/-- A change of a file `f` of a scanned graph renders exactly the files `e` of it with
`ReflTransGen (t.Imports …) e f` that are no partials, each of them once. -/
theorem Dispatcher.targets_exact {ω : Type} {f : String} (d : Dispatcher ω)
    (hscan : t.scan r = .ok g) (hgraph : d.graph = g) (hf : f ∈ g.paths) :
    (d.targets f).Nodup ∧ ∀ e, e ∈ d.targets f ↔
      e ∈ g.paths ∧ Path.isPartial e = false ∧
        ReflTransGen (t.Imports { loadPaths := r.includePaths, extensions := r.extensions })
          e f := by
  have htargets : d.targets f = g.renderTargets f := by rw [targets, hgraph]
  rw [htargets]
  refine ⟨?_, fun e => FileTree.mem_renderTargets_iff_of_scan_eq hscan hf⟩
  exact ((FileTree.wellFormed_of_scan_eq hscan).nodup_ancestors f).filter _

/-- A change of the partial `/_b.scss` renders `/a.scss`, which imports it, and not the partial. -/
theorem targets_mutualImports_partial :
    ∃ g, FileTree.mutualImports.scan { root := "/a.scss" } = .ok g ∧ "/_b.scss" ∈ g.paths ∧
      ∀ d : Dispatcher Unit, d.graph = g →
        "/a.scss" ∈ d.targets "/_b.scss" ∧ "/_b.scss" ∉ d.targets "/_b.scss" := by
  obtain ⟨found, hfound⟩ := FileTree.exists_discover_mutualImports
  obtain ⟨s, hscan, hcomplete⟩ :=
    FileTree.isScannable_mutualImports.exists_scan_eq (r := { root := "/a.scss" }) hfound
  obtain ⟨hroot, hpartial⟩ :=
    FileTree.mem_of_mem_closedSets_mutualImports hcomplete.isLeast.1
  refine ⟨_, hscan, hpartial, fun d hgraph => ?_⟩
  have hmem := (d.targets_exact hscan hgraph hpartial).2
  have himports :=
    (FileTree.imports_make_iff [] stylesheetExtensions).mp FileTree.imports_mutualImports
  constructor
  · exact (hmem "/a.scss").mpr ⟨hroot, by decide, .single himports⟩
  · intro h
    have hnot : Path.isPartial "/_b.scss" = true := by decide
    exact absurd ((hmem "/_b.scss").mp h).2.1 (by simp [hnot])

end Restyle
