import Mathlib
import Restyle.Proofs.RebuildSet

/-! # Flat scans
A scan that stays in one directory starts from fewer files than one that goes into the directories
below, and follows imports in the same way. What it finds is a closed part of what the deep scan
finds (`isClosedPart_of_flat`): the files of it have the same imports and the same records in both
graphs, in whatever order and on whatever way they were met. -/

namespace Restyle

/-- `(keys.flatMap pieces).filter (key · = a) = pieces a`, for pieces whose members have the key
that the piece belongs to. -/
theorem filter_flatMap_of_nodup {α β : Type} [DecidableEq α] {key : β → α} {pieces : α → List β}
    (hkey : ∀ a, ∀ b ∈ pieces a, key b = a) {keys : List α} (hkeys : keys.Nodup) {a : α}
    (ha : a ∈ keys) :
    (keys.flatMap pieces).filter (key · = a) = pieces a := by
  have hown : (pieces a).filter (key · = a) = pieces a :=
    List.filter_eq_self.mpr fun b hb => decide_eq_true (hkey a b hb)
  have hother : ∀ c, c ≠ a → (pieces c).filter (key · = a) = [] := by
    intro c hc
    refine List.filter_eq_nil_iff.mpr fun b hb => ?_
    rw [hkey c b hb]
    simpa using hc
  induction keys with
  | nil => exact absurd ha List.not_mem_nil
  | cons c keys ih =>
    obtain ⟨hc, hkeys⟩ := List.nodup_cons.mp hkeys
    rw [List.flatMap_cons, List.filter_append]
    rcases List.mem_cons.mp ha with rfl | ha
    · -- the other pieces hold nothing with this key
      have hrest : (keys.flatMap pieces).filter (key · = a) = [] := by
        rw [List.filter_flatMap]
        exact List.flatMap_eq_nil_iff.mpr fun d hd => hother d fun hda => hc (hda ▸ hd)
      rw [hown, hrest, List.append_nil]
    · rw [hother c fun hca => hc (hca ▸ ha), ih hkeys ha, List.nil_append]

/-- `e ∈ pairs ix ↔ e.2 ∈ ix.neighbours e.1` for an index without repeated files. -/
theorem Index.mem_pairs_iff {ix : Index} (h : ix.keys.Nodup) {e : String × String} :
    e ∈ pairs ix ↔ e.2 ∈ ix.neighbours e.1 := by
  obtain ⟨file, neighbour⟩ := e
  induction ix with
  | nil => simp [pairs, neighbours]
  | cons p ix ih =>
    obtain ⟨hp, hix⟩ := List.nodup_cons.mp h
    have hcons : (file, neighbour) ∈ pairs (p :: ix) ↔
        file = p.1 ∧ neighbour ∈ p.2 ∨ (file, neighbour) ∈ pairs ix := by
      simp [pairs, and_comm, eq_comm]
    rw [hcons, ih hix, neighbours_cons]
    by_cases hfile : file = p.1
    · subst hfile
      simp [neighbours_of_not_mem hp]
    · simp [hfile]

namespace ImportGraph

/-- The imports of a file that could not be resolved, in the order in which they were met. -/
def unresolvedOf (g : ImportGraph) (path : String) : List UnresolvedImport :=
  g.unresolved.filter (·.importer = path)

/-- Everything in the graph `part` is in the graph `g` too, which knows no more about the files of
`part`. -/
structure IsClosedPart (part g : ImportGraph) : Prop where
  /-- The files are files of the other graph. -/
  mem_files : ∀ file ∈ part.files, file ∈ g.files
  /-- The imports are imports of the other graph. -/
  mem_edges : ∀ e ∈ part.edges, e ∈ g.edges
  /-- What is recorded is recorded in the other graph. -/
  mem_unresolved : ∀ u ∈ part.unresolved, u ∈ g.unresolved
  /-- The other graph has the same imports for a file of the part, in the same order. -/
  importsOf_eq : ∀ p ∈ part.paths, g.importsOf p = part.importsOf p
  /-- It has the same records about the file, in the same order. -/
  unresolvedOf_eq : ∀ p ∈ part.paths, g.unresolvedOf p = part.unresolvedOf p
  /-- Whatever a file of the part imports in the other graph is a file of the part. -/
  mem_of_imports : ∀ p ∈ part.paths, ∀ q ∈ g.importsOf p, q ∈ part.paths

end ImportGraph

namespace FileTree

variable {t : FileTree} {r : ScanRequest} {g part : ImportGraph} {p q root : String}

/-! ## Scanned files -/

/-- `g.importsOf p` of a scanned graph is `resolvedAt t p`, for every file of it. -/
theorem importsOf_of_scan_eq (h : t.scan r = .ok g) (hp : p ∈ g.paths) :
    g.importsOf p = (Loader.make t r.includePaths r.extensions).resolvedAt t p := by
  obtain ⟨s, rfl, hcomplete⟩ := isComplete_of_scan_eq h
  exact hcomplete.importsOf_eq p hp

/-- `g.unresolvedOf p` of a scanned graph is `unresolvedAt t p`, for every file of it. -/
theorem unresolvedOf_of_scan_eq (h : t.scan r = .ok g) (hp : p ∈ g.paths) :
    g.unresolvedOf p = (Loader.make t r.includePaths r.extensions).unresolvedAt t p := by
  obtain ⟨s, rfl, hcomplete⟩ := isComplete_of_scan_eq h
  rw [ImportGraph.unresolvedOf]
  show s.graph.unresolved.filter _ = _
  rw [hcomplete.unresolved_eq]
  refine filter_flatMap_of_nodup (fun a u hu => Loader.importer_of_mem_unresolvedAt hu) ?_ ?_
  · exact hcomplete.visited_eq ▸ hcomplete.nodup_paths
  · exact hcomplete.visited_eq ▸ hp

/-- The records of a scanned graph are about files of it. -/
theorem importer_mem_paths_of_scan_eq (h : t.scan r = .ok g) {u : UnresolvedImport}
    (hu : u ∈ g.unresolved) :
    u.importer ∈ g.paths := by
  obtain ⟨s, rfl, hcomplete⟩ := isComplete_of_scan_eq h
  have hu' : u ∈ s.graph.unresolved := hu
  rw [hcomplete.unresolved_eq, hcomplete.visited_eq] at hu'
  obtain ⟨p, hp, hu'⟩ := List.mem_flatMap.mp hu'
  exact Loader.importer_of_mem_unresolvedAt hu' ▸ hp

/-- The edges of a scanned graph lead from its files `e.1` to the members of `g.importsOf e.1`. -/
theorem mem_edges_iff_of_scan_eq (h : t.scan r = .ok g) {e : String × String} :
    e ∈ g.edges ↔ e.1 ∈ g.paths ∧ e.2 ∈ g.importsOf e.1 := by
  have hwell := wellFormed_of_scan_eq h
  rw [ImportGraph.edges, Index.mem_pairs_iff hwell.nodup_paths]
  have hsame : e.1 ∈ g.paths → g.importsOf e.1 = g.imports.neighbours e.1 := by
    intro hmem
    rw [ImportGraph.importsOf, normalize_eq_of_scan_eq h hmem]
  constructor
  · intro he
    have hmem : e.1 ∈ g.paths := ImportGraph.mem_paths_of_mem_neighbours he
    exact ⟨hmem, (hsame hmem).symm ▸ he⟩
  · rintro ⟨hmem, he⟩
    exact hsame hmem ▸ he

/-! ## Flat scans -/

/-- The files of a flat scan are files of the deep one: those are closed under `Imports`, and what
the flat scan starts from is among them. -/
theorem mem_paths_of_flat (hpart : t.scan { r with deep := false } = .ok part)
    (hscan : t.scan { r with deep := true } = .ok g) (hp : p ∈ part.paths) : p ∈ g.paths := by
  -- the files of the flat scan are the least closed set, and those of the deep scan are a closed
  -- set
  obtain ⟨hdiscover, hroot, himports⟩ := (isLeast_paths_of_scan_eq hscan).1
  obtain ⟨found, hfound⟩ := exists_discover_of_scan_eq hscan
  exact (isLeast_paths_of_scan_eq hpart).2 ⟨fun q hq => hdiscover q (hq.of_flat hfound),
    hroot, himports⟩ hp

/-- The graph of a scan with `deep := false` is a closed part of that of the same scan with
`deep := true`. -/
theorem isClosedPart_of_flat (t : FileTree) (r : ScanRequest) {part g : ImportGraph}
    (hpart : t.scan { r with deep := false } = .ok part)
    (hscan : t.scan { r with deep := true } = .ok g) :
    part.IsClosedPart g := by
  have hpaths : ∀ p ∈ part.paths, p ∈ g.paths := fun p hp => mem_paths_of_flat hpart hscan hp
  -- imports are read from the file and its loader, not from the other nodes
  have himports : ∀ p ∈ part.paths, g.importsOf p = part.importsOf p := by
    intro p hp
    rw [importsOf_of_scan_eq hpart hp, importsOf_of_scan_eq hscan (hpaths p hp)]
  have hrecords : ∀ p ∈ part.paths, g.unresolvedOf p = part.unresolvedOf p := by
    intro p hp
    rw [unresolvedOf_of_scan_eq hpart hp, unresolvedOf_of_scan_eq hscan (hpaths p hp)]
  refine ⟨?_, ?_, ?_, himports, hrecords, ?_⟩
  · intro file hfile
    obtain ⟨p, hp, rfl⟩ := List.mem_map.mp hfile
    exact List.mem_map_of_mem (hpaths p hp)
  · intro e he
    obtain ⟨hmem, he⟩ := (mem_edges_iff_of_scan_eq hpart).mp he
    exact (mem_edges_iff_of_scan_eq hscan).mpr ⟨hpaths _ hmem, himports _ hmem ▸ he⟩
  · -- a record is found again among those of its importer
    intro u hu
    have hmem := importer_mem_paths_of_scan_eq hpart hu
    have hown : u ∈ part.unresolvedOf u.importer := List.mem_filter.mpr ⟨hu, by simp⟩
    rw [← hrecords _ hmem] at hown
    exact (List.mem_filter.mp hown).1
  · intro p hp q hq
    rw [himports p hp] at hq
    exact (wellFormed_of_scan_eq hpart).mem_paths_of_mem_imports _ _ hq

/-- The file `/a.scss` imports something that does not exist, and `/d/c.scss` stands one level below
it. -/
def twoLevels : FileTree where
  entries := [(["a.scss"], .file "@import 'gone.scss';".toUTF8.toList), (["d"], .directory),
    (["d", "c.scss"], .file [])]

/-- `/` can be scanned in `twoLevels`. -/
theorem isScannable_twoLevels : twoLevels.IsScannable (twoLevels.absolute "/") where
  pathExists := by cbv
  isReadable := by cbv
  directory_isReadable := by cbv
  directory_isPassable := by cbv

/-- No import of `/a.scss` means a file. -/
theorem not_imports_twoLevels (q : String) :
    ¬twoLevels.Imports (Loader.make twoLevels [] stylesheetExtensions) "/a.scss" q := by
  rintro ⟨source, hsource, target, htarget, hresolve⟩
  have hread : twoLevels.readText "/a.scss" = .ok "@import 'gone.scss';".toList := by cbv
  obtain rfl := Except.ok.inj (hread.symm.trans hsource)
  have htargets : Stylesheet.imports (dialectOf "/a.scss") "@import 'gone.scss';".toList =
      ["gone.scss"] := by
    decide +kernel
  rw [htargets, List.mem_singleton] at htarget
  have hcandidates : (Loader.make twoLevels [] stylesheetExtensions).candidates twoLevels
      "/a.scss" "gone.scss" = ["/gone.scss", "/_gone.scss"] := by decide
  have hmissing : twoLevels.isFile "/gone.scss" = false := by cbv
  have hmissing' : twoLevels.isFile "/_gone.scss" = false := by cbv
  rw [htarget, Loader.resolve?, hcandidates] at hresolve
  simp [hmissing, hmissing'] at hresolve

/-- Directly below `/` stands `/a.scss` only, and `/d/c.scss` further down. -/
theorem exists_discover_twoLevels (deep : Bool) :
    ∃ found, twoLevels.discover (twoLevels.directoryToScan (twoLevels.absolute "/")) deep
      stylesheetExtensions =
      .ok found ∧ ∀ p, p ∈ found ↔ p ∈ twoLevels.filesBelow "/" [] deep stylesheetExtensions := by
  have hopen : twoLevels.IsUnrestricted := by decide
  exact hopen.exists_discover_slash (by decide) "/" (by cbv) deep

/-- A flat scan of `/` finds `/a.scss` only, and the deep scan `/d/c.scss` besides. -/
theorem isClosedPart_twoLevels :
    ∃ part g, twoLevels.scan { root := "/", deep := false } = .ok part ∧
      twoLevels.scan { root := "/", deep := true } = .ok g ∧ part.IsClosedPart g ∧
      "/d/c.scss" ∈ g.paths ∧ "/d/c.scss" ∉ part.paths := by
  obtain ⟨flat, hflat, honly⟩ := exists_discover_twoLevels false
  obtain ⟨found, hfound, hmore⟩ := exists_discover_twoLevels true
  obtain ⟨s, hpart, hcomplete⟩ :=
    isScannable_twoLevels.exists_scan_eq (r := { root := "/", deep := false }) hflat
  obtain ⟨s', hscan, -⟩ :=
    isScannable_twoLevels.exists_scan_eq (r := { root := "/", deep := true }) hfound
  have hnoFile : twoLevels.isFile (twoLevels.absolute "/") = false := by cbv
  refine ⟨_, _, hpart, hscan, isClosedPart_of_flat twoLevels { root := "/" } hpart hscan, ?_,
    fun hmem => ?_⟩
  · exact mem_paths_of_isDiscovered hscan ⟨found, hfound, (hmore _).mpr (by decide)⟩
  · -- the file `/a.scss` alone is what a flat scan starts from, and it imports nothing
    have hclosed : {p | p = "/a.scss"} ∈ twoLevels.closedSets
        (Loader.make twoLevels [] stylesheetExtensions)
        { root := "/", deep := false } (twoLevels.absolute "/")
        (twoLevels.directoryToScan (twoLevels.absolute "/")) := by
      refine ⟨fun p hp => ?_, fun hfile => ?_, ?_⟩
      · have hone : ∀ p ∈ twoLevels.filesBelow "/" [] false stylesheetExtensions,
            p = "/a.scss" := by decide
        exact hone p ((honly p).mp ((isDiscovered_iff_mem hflat).mp hp))
      · rw [hnoFile] at hfile
        cases hfile
      · rintro p rfl q himports
        exact absurd himports (not_imports_twoLevels q)
    exact absurd (hcomplete.isLeast.2 hclosed hmem) (by decide)

end FileTree

end Restyle
