import Mathlib
import Restyle.ImportGraph.Scan
import Restyle.Proofs.GraphIndex
import Restyle.Proofs.ImportedFiles
import Restyle.Proofs.Traversal
import Restyle.Proofs.UnrestrictedTrees

/-! # The import closure
A scan looks at the files that it starts from and at everything that they import, each file once and
in the order in which it became known, and records every target either as an import or as
unresolved. The invariant of its turns is `Scan.Consistent`; that the turns are enough comes from
the bound on the canonical paths of files. Main statement: `scan_isComplete`, what the scan of a
root that can be read gives. -/

namespace Restyle

/-- The least set of files that holds the files `start` and everything that files of the set
import. -/
inductive FileTree.InClosure (t : FileTree) (l : Loader) (start : List String) : String → Prop
  | start {p : String} : p ∈ start → InClosure t l start p
  | imported {p q : String} : InClosure t l start p → t.Imports l p q → InClosure t l start q

namespace FileTree.InClosure

variable {t : FileTree} {l : Loader} {start : List String} {p : String}

/-- The closure of canonical paths holds canonical paths only. -/
theorem isCanonical (hstart : ∀ p ∈ start, Path.IsCanonical p) (h : t.InClosure l start p) :
    Path.IsCanonical p := by
  cases h with
  | start hp => exact hstart p hp
  | imported _ himports => exact himports.isCanonical

/-- Every member of the closure is in `t.possiblePaths`, or is one to start from. -/
theorem mem_possiblePaths_append (h : t.InClosure l start p) : p ∈ t.possiblePaths ++ start := by
  cases h with
  | start hp => exact List.mem_append_right _ hp
  | imported _ himports =>
    exact List.mem_append_left _ (mem_possiblePaths himports.isCanonical himports.isFile)

end FileTree.InClosure

namespace Scan

variable {t : FileTree} {l : Loader} {start : List String} {s : Scan} {path : String}
  {rest : List String}

/-! ## One turn -/

/-- `s.visit t l path` records `l.resolvedAt t path` and `l.unresolvedAt t path`, which are empty
for a file that cannot be read. -/
theorem visit_eq (t : FileTree) (l : Loader) (s : Scan) (path : String) :
    s.visit t l path =
      { graph := { s.graph with
          unresolved := s.graph.unresolved ++ l.unresolvedAt t path }.insertEdges path
            (l.resolvedAt t path)
        visited := s.visited ++ [path]
        waiting := s.waiting ++ (l.resolvedAt t path).filter (· ∉ s.visited ++ [path])
        notices := s.notices ++ (l.unresolvedAt t path).map UnresolvedImport.notice } := by
  unfold visit Loader.resolvedAt Loader.unresolvedAt
  cases hread : l.read t path with
  | error e => simp
  | ok file =>
    rw [← Loader.path_of_read hread]
    rfl

/-- `visit` puts `freshOnes` of `l.resolvedAt t path` behind the files. -/
theorem paths_visit (hpath : path ∈ s.graph.paths) :
    (s.visit t l path).graph.paths =
      s.graph.paths ++ freshOnes s.graph.paths (l.resolvedAt t path) := by
  rw [visit_eq]
  set g : ImportGraph :=
    { s.graph with unresolved := s.graph.unresolved ++ l.unresolvedAt t path }
  have hmem : path ∈ g.paths := hpath
  exact ImportGraph.paths_insertEdges hmem _

/-- `visit` gives a file without imports the imports `l.resolvedAt t path`, and changes those of no
other file. -/
theorem neighbours_visit (s : Scan) (hnone : s.graph.imports.neighbours path = []) (p : String) :
    (s.visit t l path).graph.imports.neighbours p =
      if p = path then l.resolvedAt t path else s.graph.imports.neighbours p := by
  have hresolved : freshOnes [] (l.resolvedAt t path) = l.resolvedAt t path := by
    have hall : (l.resolvedAt t path).filter (· ∉ ([] : List String)) = l.resolvedAt t path := by
      simp
    rw [freshOnes, hall, eraseDups_of_nodup (Loader.nodup_resolvedAt l t path)]
  rw [visit_eq]
  refine (ImportGraph.neighbours_insertEdges _ path _ p).trans ?_
  simp only
  rw [hnone, hresolved, List.nil_append]

/-- `visit` puts `l.unresolvedAt t path` behind the unresolved imports. -/
theorem unresolved_visit (t : FileTree) (l : Loader) (s : Scan) (path : String) :
    (s.visit t l path).graph.unresolved = s.graph.unresolved ++ l.unresolvedAt t path ∧
      (s.visit t l path).graph.workingDir = s.graph.workingDir := by
  rw [visit_eq]
  exact ImportGraph.unresolved_insertEdges _ path _

/-- `visit` keeps the graph `WellFormed`. -/
theorem wellFormed_visit (h : s.graph.WellFormed) : (s.visit t l path).graph.WellFormed := by
  rw [visit_eq]
  have hrecorded : ({ s.graph with
      unresolved := s.graph.unresolved ++ l.unresolvedAt t path } : ImportGraph).WellFormed :=
    h.of_indices_eq rfl rfl
  exact hrecorded.insertEdges path _

/-- What holds after every turn of a scan. -/
structure Consistent (t : FileTree) (l : Loader) (start : List String) (s : Scan) : Prop where
  /-- The indices mirror each other. -/
  wellFormed : s.graph.WellFormed
  /-- The graph reads paths from the same directory as the file tree. -/
  workingDir_eq : s.graph.workingDir = t.workingDir
  /-- The files of the graph are the ones that have been looked at and then the ones that wait, in
  order. -/
  paths_eq : s.graph.paths = s.visited ++ freshOnes s.visited s.waiting
  /-- Files that have been looked at have their imports, the others none. -/
  neighbours_eq : ∀ p, s.graph.imports.neighbours p = if p ∈ s.visited then l.resolvedAt t p else []
  /-- What means no file is recorded, in the order in which it was met. -/
  unresolved_eq : s.graph.unresolved = s.visited.flatMap (l.unresolvedAt t)
  /-- It is reported in that order too. -/
  notices_eq : s.notices = s.graph.unresolved.map UnresolvedImport.notice
  /-- The files to start from are files of the graph. -/
  start_mem : ∀ p ∈ start, p ∈ s.graph.paths
  /-- The files of the graph are in the closure. -/
  inClosure : ∀ p ∈ s.graph.paths, t.InClosure l start p

namespace Consistent

/-- No file is looked at twice. -/
theorem nodup_visited (h : Consistent t l start s) : s.visited.Nodup :=
  (h.paths_eq ▸ h.wellFormed.nodup_paths).of_append_left

/-- `Consistent` is kept when a waiting file that has been looked at is passed over. -/
theorem skip (h : Consistent t l start s) (hwaiting : s.waiting = path :: rest)
    (hpath : path ∈ s.visited) : Consistent t l start { s with waiting := rest } :=
  { h with
    paths_eq := by
      rw [h.paths_eq, hwaiting, freshOnes_cons_of_mem hpath] }

/-- `Consistent` is kept when a waiting file that has not been looked at is visited. -/
theorem visit (hstart : ∀ p ∈ start, Path.IsCanonical p) (h : Consistent t l start s)
    (hwaiting : s.waiting = path :: rest) (hpath : path ∉ s.visited) :
    Consistent t l start ({ s with waiting := rest }.visit t l path) := by
  have hfresh : freshOnes s.visited s.waiting = path :: freshOnes (s.visited ++ [path]) rest := by
    rw [hwaiting, freshOnes_cons_of_not_mem hpath]
  have hpaths : s.graph.paths = s.visited ++ [path] ++ freshOnes (s.visited ++ [path]) rest := by
    rw [h.paths_eq, hfresh]
    simp
  have hmem : path ∈ s.graph.paths := by
    rw [hpaths]
    simp
  have hclosure := h.inClosure path hmem
  have hnone : s.graph.imports.neighbours path = [] := by rw [h.neighbours_eq, if_neg hpath]
  obtain ⟨hunresolved, hdir⟩ := unresolved_visit t l { s with waiting := rest } path
  have hvisit : (({ s with waiting := rest } : Scan).visit t l path).graph.paths =
      s.graph.paths ++ freshOnes s.graph.paths (l.resolvedAt t path) := paths_visit hmem
  constructor
  · exact wellFormed_visit h.wellFormed
  · exact hdir.trans h.workingDir_eq
  · -- what is queued anew are the imported files not looked at yet, and of these the ones
    -- that were not known before are the new files of the graph
    rw [hvisit, hpaths, visit_eq]
    show _ = (s.visited ++ [path]) ++ freshOnes (s.visited ++ [path]) (rest ++ _)
    rw [freshOnes_append, freshOnes_filter fun x hx => List.mem_append_left _ hx]
    simp
  · intro p
    have hvisited : (({ s with waiting := rest } : Scan).visit t l path).visited =
        s.visited ++ [path] := by rw [visit_eq]
    rw [hvisited]
    have hneighbours : (({ s with waiting := rest } : Scan).visit t l path).graph.imports.neighbours
      p = if p = path then l.resolvedAt t path else s.graph.imports.neighbours p :=
      neighbours_visit { s with waiting := rest } hnone p
    rw [hneighbours]
    by_cases hp : p = path
    · rw [if_pos hp, hp]
      simp
    · rw [if_neg hp, h.neighbours_eq]
      simp [hp]
  · rw [hunresolved, visit_eq]
    simp [h.unresolved_eq]
  · rw [hunresolved, List.map_append, visit_eq]
    exact congrArg (· ++ _) h.notices_eq
  · intro p hp
    rw [hvisit]
    exact List.mem_append_left _ (h.start_mem p hp)
  · intro p hp
    rw [hvisit] at hp
    rcases List.mem_append.mp hp with hp | hp
    · exact h.inClosure p hp
    · have hresolved := (mem_freshOnes.mp hp).1
      exact hclosure.imported
        ((Loader.mem_resolvedAt (hclosure.isCanonical hstart)).mp hresolved)

/-- A file has at most `(t.possiblePaths ++ start).length` imports. -/
theorem length_resolvedAt_le (hstart : ∀ p ∈ start, Path.IsCanonical p) (h : Consistent t l start s)
    (hpath : path ∈ s.graph.paths) :
    (l.resolvedAt t path).length ≤ (t.possiblePaths ++ start).length := by
  have hclosure := h.inClosure path hpath
  refine length_le_of_nodup_of_subset (Loader.nodup_resolvedAt l t path) fun q hq => ?_
  exact (hclosure.imported
    ((Loader.mem_resolvedAt (hclosure.isCanonical hstart)).mp hq)).mem_possiblePaths_append

/-- At most `(t.possiblePaths ++ start).length` files have been looked at. -/
theorem length_visited_le (h : Consistent t l start s) :
    s.visited.length ≤ (t.possiblePaths ++ start).length := by
  refine length_le_of_nodup_of_subset h.nodup_visited fun p hp => ?_
  refine (h.inClosure p ?_).mem_possiblePaths_append
  rw [h.paths_eq]
  exact List.mem_append_left _ hp

end Consistent

/-- An upper bound on the turns that are left when there are at most `files` files: the ones for the
files that wait, and for every file that has not been looked at the ones for the files that it
imports. -/
def turnsLeft (files : Nat) (s : Scan) : Nat :=
  s.waiting.length + (files - s.visited.length) * files

/-- `step` keeps `Consistent`, and leaves fewer `turnsLeft`. -/
theorem Consistent.step (hstart : ∀ p ∈ start, Path.IsCanonical p) (h : Consistent t l start s)
    (hwaiting : s.waiting ≠ []) :
    Consistent t l start (s.step t l) ∧
      (s.step t l).turnsLeft (t.possiblePaths ++ start).length <
        s.turnsLeft (t.possiblePaths ++ start).length := by
  obtain ⟨path, rest, hcons⟩ := List.exists_cons_of_ne_nil hwaiting
  by_cases hpath : path ∈ s.visited
  · have hstep : s.step t l = { s with waiting := rest } := by simp [Scan.step, hcons, hpath]
    rw [hstep]
    refine ⟨h.skip hcons hpath, ?_⟩
    simp only [turnsLeft, hcons, List.length_cons]
    omega
  · have hstep : s.step t l = { s with waiting := rest }.visit t l path := by
      simp [Scan.step, hcons, hpath]
    rw [hstep]
    have hnext := h.visit hstart hcons hpath
    refine ⟨hnext, ?_⟩
    -- one more file has been looked at, and what it imports may wait
    have hmem : path ∈ s.graph.paths := by
      rw [h.paths_eq, hcons]
      simp [hpath]
    have himports := h.length_resolvedAt_le hstart hmem
    have hvisited := hnext.length_visited_le
    rw [visit_eq] at hvisited ⊢
    set files := (t.possiblePaths ++ start).length
    simp only [List.length_append, List.length_singleton] at hvisited
    have hqueued := List.length_filter_le (fun q => decide (q ∉ s.visited ++ [path]))
      (l.resolvedAt t path)
    have hleft : (files - s.visited.length) * files =
        (files - (s.visited.length + 1)) * files + files := by
      rw [← Nat.succ_mul]
      congr 1
      omega
    simp only [turnsLeft, hcons, List.length_cons, List.length_append,
      List.length_nil, Nat.zero_add]
    omega

/-- A run of at least `turnsLeft` turns ends `Consistent`, with nothing waiting. -/
theorem Consistent.run (hstart : ∀ p ∈ start, Path.IsCanonical p) (h : Consistent t l start s)
    {turns : Nat} (hturns : s.turnsLeft (t.possiblePaths ++ start).length ≤ turns) :
    Consistent t l start (s.run t l turns) ∧ (s.run t l turns).waiting = [] := by
  induction turns generalizing s with
  | zero =>
    have hwaiting : s.waiting.length = 0 := by
      simp only [turnsLeft] at hturns
      omega
    exact ⟨h, List.eq_nil_of_length_eq_zero hwaiting⟩
  | succ turns ih =>
    rw [Scan.run]
    -- either nothing waits, or the next turn uses up fuel and leaves fewer turns
    by_cases hwaiting : s.waiting = []
    · rw [if_pos hwaiting]
      exact ⟨h, hwaiting⟩
    · rw [if_neg hwaiting]
      obtain ⟨hnext, hlt⟩ := h.step hstart hwaiting
      exact ih hnext (by omega)

/-- `s.run t l turns = (step t l)^[turns] s`. -/
theorem run_eq_iterate_step (t : FileTree) (l : Loader) (turns : Nat) (s : Scan) :
    s.run t l turns = (step t l)^[turns] s := by
  induction turns generalizing s with
  | zero => rfl
  | succ turns ih =>
    -- a run stops as soon as nothing waits, and from then on a turn changes nothing
    rw [Scan.run, Function.iterate_succ_apply, ← ih]
    by_cases hwaiting : s.waiting = []
    · have hstep : s.step t l = s := by simp [Scan.step, hwaiting]
      rw [if_pos hwaiting, hstep]
      cases turns with
      | zero => rfl
      | succ turns => rw [Scan.run, if_pos hwaiting]
    · rw [if_neg hwaiting]

end Scan

namespace FileTree

variable {t : FileTree} {r : ScanRequest} {p root dir : String} {found start : List String}

/-! ## The files to start from -/

/-- `t.scanStart root found` are the found files, and `t.normalize root` if the root is a file. -/
theorem mem_scanStart :
    p ∈ t.scanStart root found ↔ p ∈ found ∨ t.isFile root = true ∧ p = t.normalize root := by
  unfold scanStart
  split
  · next h => simp [h.1]
  · next h =>
    refine ⟨.inl, fun hp => hp.elim id ?_⟩
    rintro ⟨hfile, rfl⟩
    exact Classical.not_not.mp fun hroot => h ⟨hfile, hroot⟩

/-- Every member of `t.scanStart root found` is a canonical path. -/
theorem isCanonical_of_mem_scanStart {deep : Bool} {extensions : List String}
    (hfound : t.discover dir deep extensions = .ok found) (h : p ∈ t.scanStart root found) :
    Path.IsCanonical p := by
  rcases mem_scanStart.mp h with hp | ⟨-, rfl⟩
  · exact isCanonical_of_isDiscovered ⟨found, hfound, hp⟩
  · exact Path.isCanonical_normalize _ _

/-! ## Whole scans -/

/-- `t.beginScan r root start` is `Consistent`. -/
theorem consistent_beginScan (t : FileTree) (r : ScanRequest) (root : String)
    (start : List String) :
    (t.beginScan r root start).Consistent t (Loader.make t r.includePaths r.extensions) start := by
  have hpaths : (t.beginScan r root start).graph.paths = freshOnes [] start :=
    ImportGraph.paths_foldl_insertNode _ _
  have hmem : ∀ q, q ∈ (t.beginScan r root start).graph.paths ↔ q ∈ start := by
    intro q
    rw [hpaths]
    simp
  constructor
  · exact (ImportGraph.WellFormed.of_nil rfl rfl).foldl_insertNode _
  · exact (ImportGraph.unresolved_foldl_insertNode _ _).2
  · exact hpaths
  · exact fun q => ImportGraph.neighbours_foldl_insertNode _ _ q
  · exact (ImportGraph.unresolved_foldl_insertNode _ _).1
  · show [] = _
    rw [show (t.beginScan r root start).graph.unresolved = [] from
      (ImportGraph.unresolved_foldl_insertNode _ _).1]
    rfl
  · exact fun q hq => (hmem q).mpr hq
  · exact fun q hq => .start ((hmem q).mp hq)

/-- A scan ends after `t.turnBound start.length` turns at most, consistent and with nothing
waiting. -/
theorem consistent_run_beginScan (t : FileTree) (r : ScanRequest) (root : String)
    (hstart : ∀ q ∈ start, Path.IsCanonical q) :
    let l := Loader.make t r.includePaths r.extensions
    let s := (t.beginScan r root start).run t l (t.turnBound start.length)
    s.Consistent t l start ∧ s.waiting = [] := by
  refine (t.consistent_beginScan r root start).run hstart ?_
  have hfiles : (t.possiblePaths ++ start).length ≤ t.pathBound + start.length := by
    rw [List.length_append]
    exact Nat.add_le_add_right t.length_possiblePaths_le _
  exact Nat.add_le_add (Nat.le_add_left _ _) (Nat.mul_le_mul hfiles hfiles)

/-- A root that can be scanned: it exists and may be read, and the directory of a file may be read
and passed through. -/
structure IsScannable (t : FileTree) (root : String) : Prop where
  /-- The root exists. -/
  pathExists : t.pathExists root = true
  /-- The root may be read. -/
  isReadable : t.isReadable root = true
  /-- The directory to scan may be read. -/
  directory_isReadable : t.isReadable (t.directoryToScan root) = true
  /-- Paths can pass through the directory to scan. -/
  directory_isPassable : t.isPassable (t.directoryToScan root) = true

/-- The directory to scan for a scannable root is `t.directoryToScan root`. -/
theorem IsScannable.scanRoot_eq (h : t.IsScannable root) :
    t.scanRoot root = .ok (t.directoryToScan root) := by
  simp [scanRoot, testExists_eq_ok_true_iff.mpr h.pathExists, h.isReadable, h.directory_isReadable,
    h.directory_isPassable]

/-- The sets that hold what a scan starts from and everything that files of them import. -/
def closedSets (t : FileTree) (l : Loader) (r : ScanRequest) (root dir : String) :
    Set (Set String) :=
  {S | (∀ p, t.IsDiscovered dir r.deep r.extensions p → p ∈ S) ∧
    (t.isFile root = true → t.normalize root ∈ S) ∧
    ∀ p ∈ S, ∀ q, t.Imports l p q → q ∈ S}

/-- `t.InClosure l (t.scanStart root found)` is the least member of `t.closedSets l r root dir`. -/
theorem isLeast_inClosure (l : Loader) (root : String)
    (hfound : t.discover dir r.deep r.extensions = .ok found) :
    IsLeast (t.closedSets l r root dir) {p | t.InClosure l (t.scanStart root found) p} := by
  refine ⟨⟨?_, ?_, ?_⟩, ?_⟩
  · exact fun p hp => .start (mem_scanStart.mpr (.inl ((isDiscovered_iff_mem hfound).mp hp)))
  · exact fun hfile => .start (mem_scanStart.mpr (.inr ⟨hfile, rfl⟩))
  · exact fun p hp q himports => hp.imported himports
  · rintro S ⟨hdiscover, hroot, himports⟩ p hp
    induction hp with
    | start hstart =>
      rcases mem_scanStart.mp hstart with hstart | ⟨hfile, rfl⟩
      · exact hdiscover _ ((isDiscovered_iff_mem hfound).mpr hstart)
      · exact hroot hfile
    | imported _ hq ih => exact himports _ ih _ hq

end FileTree

namespace Scan

variable {t : FileTree} {l : Loader} {start : List String} {s : Scan}

/-- A scan that has ended: its graph is the import closure, and nothing that was read is missing. -/
structure IsComplete (t : FileTree) (l : Loader) (closed : Set (Set String)) (s : Scan) : Prop where
  /-- No file waits. -/
  waiting_eq : s.waiting = []
  /-- The files of the graph are the least closed set. -/
  isLeast : IsLeast closed {p | p ∈ s.graph.paths}
  /-- Every file of the graph has been looked at once, and no other file. -/
  visited_eq : s.visited = s.graph.paths
  /-- No file is listed twice. -/
  nodup_paths : s.graph.paths.Nodup
  /-- The imports of a file are what was read from it, in order. -/
  importsOf_eq : ∀ p ∈ s.graph.paths, s.graph.importsOf p = l.resolvedAt t p
  /-- What means no file is recorded, file by file in the order in which they were looked at. -/
  unresolved_eq : s.graph.unresolved = s.visited.flatMap (l.unresolvedAt t)
  /-- It is recorded once. -/
  nodup_unresolved : s.graph.unresolved.Nodup
  /-- Each record has been reported, in the same order. -/
  notices_eq : s.notices = s.graph.unresolved.map UnresolvedImport.notice
  /-- Every target of a file that can be read is an import or a record. -/
  target_found : ∀ p ∈ s.graph.paths, ∀ source, t.readText p = .ok source →
    ∀ target ∈ Stylesheet.imports (dialectOf p) source,
      (∃ q ∈ s.graph.importsOf p, l.resolve? t p target = some q) ∨
        l.resolve? t p target = none ∧ ⟨p, target⟩ ∈ s.graph.unresolved

/-- A `Consistent` scan in which nothing waits is `IsComplete`. -/
theorem Consistent.isComplete (hstart : ∀ p ∈ start, Path.IsCanonical p)
    (h : Consistent t l start s) (hwaiting : s.waiting = []) {closed : Set (Set String)}
    (hleast : IsLeast closed {p | t.InClosure l start p}) : s.IsComplete t l closed := by
  have hvisited : s.visited = s.graph.paths := by
    rw [h.paths_eq, hwaiting, freshOnes_nil, List.append_nil]
  have hcanonical : ∀ p ∈ s.graph.paths, Path.IsCanonical p :=
    fun p hp => (h.inClosure p hp).isCanonical hstart
  have hneighbours : ∀ p ∈ s.graph.paths, s.graph.imports.neighbours p = l.resolvedAt t p := by
    intro p hp
    rw [h.neighbours_eq, if_pos (hvisited ▸ hp)]
  have himports : ∀ p ∈ s.graph.paths, s.graph.importsOf p = l.resolvedAt t p := by
    intro p hp
    rw [ImportGraph.importsOf, ImportGraph.normalize, (hcanonical p hp).normalize_eq_self]
    exact hneighbours p hp
  -- a file of the closure is a file of the graph, since what files of the graph import are files of
  -- it
  have hpaths : {p | p ∈ s.graph.paths} = {p | t.InClosure l start p} := by
    refine Set.Subset.antisymm (fun p hp => h.inClosure p hp) ?_
    intro p hp
    induction hp with
    | start hp => exact h.start_mem _ hp
    | @imported p q _ hq ih =>
      refine h.wellFormed.mem_paths_of_mem_imports p q ?_
      rw [hneighbours p ih]
      exact (Loader.mem_resolvedAt (hcanonical p ih)).mpr hq
  refine ⟨hwaiting, hpaths ▸ hleast, hvisited, h.wellFormed.nodup_paths, himports,
    h.unresolved_eq, ?_, h.notices_eq, ?_⟩
  · rw [h.unresolved_eq, List.nodup_flatMap]
    refine ⟨fun p _ => Loader.nodup_unresolvedAt l t p, ?_⟩
    refine h.nodup_visited.imp ?_
    intro p q hne u hp hq
    exact hne ((Loader.importer_of_mem_unresolvedAt hp).symm.trans
      (Loader.importer_of_mem_unresolvedAt hq))
  · intro p hp source hsource target htarget
    cases hresolve : l.resolve? t p target with
    | some q =>
      refine .inl ⟨q, ?_, rfl⟩
      rw [himports p hp]
      exact (Loader.mem_resolvedAt (hcanonical p hp)).mpr ⟨source, hsource, target,
        htarget, hresolve⟩
    | none =>
      refine .inr ⟨rfl, ?_⟩
      rw [h.unresolved_eq, hvisited]
      refine List.mem_flatMap.mpr ⟨p, hp, ?_⟩
      exact (Loader.mem_unresolvedAt (hcanonical p hp)).mpr
        ⟨source, hsource, target, htarget, hresolve, rfl⟩

end Scan

namespace FileTree

variable {t : FileTree}

/-- The run from `t.scanStart root found` ends `IsComplete`. -/
theorem isComplete_run_beginScan (root : String)
    (hfound : t.discover dir r.deep r.extensions = .ok found) :
    let l := Loader.make t r.includePaths r.extensions
    let start := t.scanStart root found
    ((t.beginScan r root start).run t l (t.turnBound start.length)).IsComplete t l
      (t.closedSets l r root dir) := by
  intro l start
  have hstart : ∀ p ∈ start, Path.IsCanonical p :=
    fun p hp => isCanonical_of_mem_scanStart hfound hp
  obtain ⟨hconsistent, hwaiting⟩ := t.consistent_run_beginScan r root hstart
  exact hconsistent.isComplete hstart hwaiting (isLeast_inClosure l root hfound)

/-- `t.scanAll r` is the run from `t.scanStart root found`, where the search succeeds with
`found`. -/
theorem IsScannable.scanAll_eq (h : t.IsScannable (t.absolute r.root))
    (hfound : t.discover (t.directoryToScan (t.absolute r.root)) r.deep r.extensions = .ok found) :
    let root := t.absolute r.root
    let start := t.scanStart root found
    t.scanAll r = .ok ((t.beginScan r root start).run t (Loader.make t r.includePaths r.extensions)
      (t.turnBound start.length)) := by
  unfold scanAll
  simp only
  rw [h.scanRoot_eq]
  show Except.mapError _ (t.discover _ _ _) >>= _ = _
  rw [hfound]
  rfl

/-- `t.scanAll r` fails with `searchFailure root failure`, where the search fails with `failure`. -/
theorem IsScannable.scanAll_eq_error {failure : Failure} (h : t.IsScannable (t.absolute r.root))
    (hfail : t.discover (t.directoryToScan (t.absolute r.root)) r.deep r.extensions =
      .error failure) :
    t.scanAll r = .error (searchFailure (t.absolute r.root) failure) := by
  unfold scanAll
  simp only
  rw [h.scanRoot_eq]
  show Except.mapError _ (t.discover _ _ _) >>= _ = _
  rw [hfail]
  rfl

/-- `t.scan r = .ok s.graph.freeze` for a scan that ends with `s`. -/
theorem scan_eq_of_scanAll_eq {s : Scan} (h : t.scanAll r = .ok s) :
    t.scan r = .ok s.graph.freeze := by
  rw [scan, h]
  rfl

/-- `t.scan r` fails as `t.scanAll r` does. -/
theorem scan_eq_error_of_scanAll_eq {failure : Failure} (h : t.scanAll r = .error failure) :
    t.scan r = .error failure := by
  rw [scan, h]
  rfl

/-- `t.scan r` is `.ok` the frozen graph of a scan that is `IsComplete`, where the search
succeeds. -/
theorem IsScannable.exists_scan_eq (h : t.IsScannable (t.absolute r.root))
    (hfound : t.discover (t.directoryToScan (t.absolute r.root)) r.deep r.extensions = .ok found) :
    let root := t.absolute r.root
    let l := Loader.make t r.includePaths r.extensions
    ∃ s, t.scan r = .ok s.graph.freeze ∧
      Scan.IsComplete t l (t.closedSets l r root (t.directoryToScan root)) s := by
  intro root l
  exact ⟨_, scan_eq_of_scanAll_eq (h.scanAll_eq hfound), isComplete_run_beginScan root hfound⟩

/-- Scanning a root that can be read searches its directory, and ends after finitely many turns if
that search succeeds. It then gives a frozen graph, whose files are exactly the import closure of
the files to start from, with every target of every file either among its imports or reported as
unresolved. If the system refuses to look at something that the search comes by, the scan fails with
the words of that error, `.scan root (e.message path)`; an extension that makes no pattern is
reported as it is. -/
theorem scan_isComplete (t : FileTree) (r : ScanRequest) (h : t.IsScannable (t.absolute r.root)) :
    let root := t.absolute r.root
    let dir := t.directoryToScan root
    let l := Loader.make t r.includePaths r.extensions
    (∀ found, t.discover dir r.deep r.extensions = .ok found →
      ∃ turns s, (Scan.step t l)^[turns] (t.beginScan r root (t.scanStart root found)) = s ∧
        s.IsComplete t l (t.closedSets l r root dir) ∧
        t.scanAll r = .ok s ∧ t.scan r = .ok s.graph.freeze ∧ s.graph.freeze.isFrozen = true) ∧
    ∀ failure, t.discover dir r.deep r.extensions = .error failure →
      (∃ e path, failure = .system e path ∧ t.scan r = .error (.scan root (e.message path))) ∨
        failure = .badPattern ∧ t.scan r = .error .badPattern := by
  intro root dir l
  constructor
  · intro found hfound
    refine ⟨t.turnBound (t.scanStart root found).length, _, rfl, ?_⟩
    rw [← Scan.run_eq_iterate_step]
    exact ⟨isComplete_run_beginScan root hfound, h.scanAll_eq hfound,
      scan_eq_of_scanAll_eq (h.scanAll_eq hfound), rfl⟩
  · intro failure hfail
    have hscan := scan_eq_error_of_scanAll_eq (h.scanAll_eq_error hfail)
    rcases isSystem_or_eq_badPattern_of_discover_eq_error hfail with ⟨e, path, rfl⟩ | rfl
    · exact .inl ⟨e, path, rfl, hscan⟩
    · exact .inr ⟨rfl, hscan⟩

/-! ## An example -/

/-- The file `/a.scss` imports `/_b.scss`, which imports it, and something that does not exist. -/
def mutualImports : FileTree where
  entries := [(["a.scss"], .file "@import '_b.scss', 'gone.scss';".toUTF8.toList),
    (["_b.scss"], .file "@import 'a.scss';".toUTF8.toList)]

/-- What `/a.scss` imports, and what it would import. -/
theorem targets_mutualImports :
    ∃ source, mutualImports.readText "/a.scss" = .ok source ∧
      Stylesheet.imports (dialectOf "/a.scss") source = ["_b.scss", "gone.scss"] := by
  refine ⟨"@import '_b.scss', 'gone.scss';".toList, ?_, ?_⟩
  · cbv
  · decide +kernel

/-- The import of `/_b.scss` means that file, and no other import of `/a.scss` means one. -/
theorem resolve?_mutualImports :
    let l := Loader.make mutualImports [] stylesheetExtensions
    l.resolve? mutualImports "/a.scss" "_b.scss" = some "/_b.scss" ∧
      l.resolve? mutualImports "/a.scss" "gone.scss" = none := by
  intro l
  have hpartial : l.candidates mutualImports "/a.scss" "_b.scss" = ["/_b.scss"] := by decide
  have hgone : l.candidates mutualImports "/a.scss" "gone.scss" =
      ["/gone.scss", "/_gone.scss"] := by
    decide
  have hfile : mutualImports.isFile "/_b.scss" = true := by cbv
  have hmissing : mutualImports.isFile "/gone.scss" = false := by cbv
  have hmissing' : mutualImports.isFile "/_gone.scss" = false := by cbv
  constructor
  · rw [Loader.resolve?, hpartial, List.find?_cons_of_pos hfile]
  · rw [Loader.resolve?, hgone]
    simp [hmissing, hmissing']

/-- `/a.scss` can be scanned in `mutualImports`. -/
theorem isScannable_mutualImports :
    mutualImports.IsScannable (mutualImports.absolute "/a.scss") where
  pathExists := by cbv
  isReadable := by cbv
  directory_isReadable := by cbv
  directory_isPassable := by cbv

/-- A search from `/` on down succeeds. -/
theorem exists_discover_mutualImports : ∃ found, mutualImports.discover
    (mutualImports.directoryToScan (mutualImports.absolute "/a.scss")) true stylesheetExtensions =
      .ok found := by
  have hopen : mutualImports.IsUnrestricted := by decide
  obtain ⟨found, hfound, -⟩ :=
    hopen.exists_discover_slash (by decide) "/a.scss" (by cbv) true
  exact ⟨found, hfound⟩

/-- `/a.scss` imports `/_b.scss`. -/
theorem imports_mutualImports :
    mutualImports.Imports (Loader.make mutualImports [] stylesheetExtensions) "/a.scss"
      "/_b.scss" := by
  obtain ⟨source, hsource, htargets⟩ := targets_mutualImports
  exact ⟨source, hsource, "_b.scss", by simp [htargets], resolve?_mutualImports.1⟩

/-- Both files are in every set that a scan of `/a.scss` could end with. -/
theorem mem_of_mem_closedSets_mutualImports {S : Set String} {dir : String}
    (h : S ∈ mutualImports.closedSets (Loader.make mutualImports [] stylesheetExtensions)
      { root := "/a.scss" } (mutualImports.absolute "/a.scss") dir) : "/a.scss" ∈ S ∧
      "/_b.scss" ∈ S := by
  obtain ⟨-, hroot, hclosed⟩ := h
  have hfile : mutualImports.isFile (mutualImports.absolute "/a.scss") = true := by cbv
  have hnormalize : mutualImports.normalize (mutualImports.absolute "/a.scss") = "/a.scss" := by
    decide
  have hmem : "/a.scss" ∈ S := hnormalize ▸ hroot hfile
  exact ⟨hmem, hclosed _ hmem _ imports_mutualImports⟩

/-- The scan of `/a.scss` finds `/_b.scss`, and reports the import that means no file. -/
theorem scan_mutualImports :
    mutualImports.IsScannable (mutualImports.absolute "/a.scss") ∧
      ∃ g, mutualImports.scan { root := "/a.scss" } = .ok g ∧ "/_b.scss" ∈ g.paths ∧
        ⟨"/a.scss", "gone.scss"⟩ ∈ g.unresolved := by
  refine ⟨isScannable_mutualImports, ?_⟩
  obtain ⟨found, hfound⟩ := exists_discover_mutualImports
  obtain ⟨-, s, -, hcomplete, -, hscan, -⟩ :=
    (scan_isComplete mutualImports { root := "/a.scss" } isScannable_mutualImports).1 found hfound
  obtain ⟨hroot, hpartial⟩ := mem_of_mem_closedSets_mutualImports hcomplete.isLeast.1
  refine ⟨_, hscan, hpartial, ?_⟩
  obtain ⟨source, hsource, htargets⟩ := targets_mutualImports
  have hfound :=
    hcomplete.target_found "/a.scss" hroot source hsource "gone.scss" (by simp [htargets])
  rcases hfound with ⟨q, -, hresolve⟩ | ⟨-, hrecord⟩
  · rw [resolve?_mutualImports.2] at hresolve
    cases hresolve
  · exact hrecord

/-- The directory `/w` exists and can be read, but no graph can be built below it: the search for
stylesheets comes by a link to a name that is too long. -/
theorem not_scan_longLink : longLink.IsScannable (longLink.absolute "/w") ∧
    longLink.scan { root := "/w" } =
      .error (.scan "/w" "[Errno 36] File name too long: '/w/a.scss'") := by
  have habsolute : longLink.absolute "/w" = "/w" := by
    show Path.tidy (Path.join "/" (Path.tidy "/w")) = "/w"
    decide
  have hfollow : longLink.follow? "/w" = some .directory := by rw [follow?, find_w_longLink]; rfl
  have hreadable : longLink.isReadable "/w" = true := by
    rw [isReadable, pathExists, hfollow, find_w_longLink]
    rfl
  have hdirectory : longLink.directoryToScan "/w" = "/w" := by
    rw [directoryToScan, isFile, hfollow]
    rfl
  have hscannable : longLink.IsScannable "/w" := by
    refine ⟨by rw [pathExists, hfollow]; rfl, hreadable, by rw [hdirectory, hreadable], ?_⟩
    rw [hdirectory, isPassable, find_w_longLink]
    rfl
  have hmessage : FileError.nameTooLong.message "/w/a.scss" =
      "[Errno 36] File name too long: '/w/a.scss'" := by
    decide +kernel
  have hfail : longLink.discover (longLink.directoryToScan (longLink.absolute "/w")) true
      stylesheetExtensions = .error (.system .nameTooLong "/w/a.scss") := by
    rw [habsolute, hdirectory]
    exact discover_longLink.1
  rw [← habsolute] at hscannable
  refine ⟨hscannable, ?_⟩
  rw [scan_eq_error_of_scanAll_eq (hscannable.scanAll_eq_error (r := { root := "/w" }) hfail),
    habsolute, searchFailure, hmessage]

end FileTree

end Restyle
