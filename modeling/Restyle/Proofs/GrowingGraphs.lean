import Mathlib
import Restyle.Proofs.FlatScan
import Restyle.Proofs.RebuildForecast

/-! # Growing graphs
Load paths that are added at the end of the list are tried last. So an import that means a file goes
on to mean it, and the graph of a scan keeps all that it has: only imports that meant no file can
lead somewhere new (`scan_append_loadPaths`). -/

namespace Restyle

variable {t : FileTree} {l l' : Loader} {r : ScanRequest} {g g' : ImportGraph} {p q : String}

namespace Loader

/-! ## What is read from one file -/

/-- `IsExtendedBy` goes through `Loader.make`, which brings the load paths to canonical form. -/
theorem IsExtendedBy.make {given more extensions : List String}
    (h : IsExtendedBy { loadPaths := given, extensions } t { loadPaths := more, extensions }) :
    (Loader.make t given extensions).IsExtendedBy t (Loader.make t more extensions) := by
  intro importer target q
  rw [resolve?_make, resolve?_make]
  exact h importer target q

/-- A target that is resolved with `l` is resolved to the same file with `l'`. -/
theorem IsExtendedBy.mem_resolvedAt (h : l.IsExtendedBy t l') (hp : Path.IsCanonical p)
    (hq : q ∈ l.resolvedAt t p) : q ∈ l'.resolvedAt t p :=
  (Loader.mem_resolvedAt hp).mpr (((Loader.mem_resolvedAt hp).mp hq).of_isExtendedBy h)

/-- `(l'.unresolvedAt t p).Sublist (l.unresolvedAt t p)`: some imports may remain unresolved, in the
same order, and there are no others. -/
theorem IsExtendedBy.unresolvedAt_sublist (h : l.IsExtendedBy t l') (p : String) :
    (l'.unresolvedAt t p).Sublist (l.unresolvedAt t p) := by
  unfold unresolvedAt read
  cases t.readText (Path.tidy p) with
  | error e => exact .refl _
  | ok source =>
    refine List.Sublist.map _ (List.monotone_filter_right _ fun target hnone => ?_)
    -- a target that means a file with the one loader means one with the other
    cases hresolve : l.resolve? t p target with
    | none => rfl
    | some q =>
      rw [h p target q hresolve] at hnone
      cases hnone

end Loader

/-! ## Two graphs -/

/-- Everything in the graph `g` is in the graph `g'` too, which has no further unresolved imports
for the files of `g`. -/
structure ImportGraph.GrowsInto (g g' : ImportGraph) : Prop where
  /-- The files are files of the other graph. -/
  mem_files : ∀ file ∈ g.files, file ∈ g'.files
  /-- The imports are imports of the other graph. -/
  mem_edges : ∀ e ∈ g.edges, e ∈ g'.edges
  /-- What is unresolved in the other graph is unresolved in this one, and comes in the same
  order. -/
  unresolvedOf_sublist : ∀ p ∈ g.paths, (g'.unresolvedOf p).Sublist (g.unresolvedOf p)

namespace FileTree

/-- `g.GrowsInto g'` for two scans of the same root, where the loader of the one `IsExtendedBy` that
of the other. -/
theorem growsInto_of_isExtendedBy {includePaths : List String}
    (hext : r.loader.IsExtendedBy t { r with includePaths }.loader) (hscan : t.scan r = .ok g)
    (hscan' : t.scan { r with includePaths } = .ok g') : g.GrowsInto g' := by
  have hpaths : ∀ p ∈ g.paths, p ∈ g'.paths :=
    fun p hp => mem_paths_of_isExtendedBy hext hscan hscan' hp
  have hmake := Loader.IsExtendedBy.make hext
  refine ⟨?_, ?_, ?_⟩
  · intro file hfile
    obtain ⟨p, hp, rfl⟩ := List.mem_map.mp hfile
    exact List.mem_map_of_mem (hpaths p hp)
  · rintro e he
    obtain ⟨hmem, he⟩ := (mem_edges_iff_of_scan_eq hscan).mp he
    rw [importsOf_of_scan_eq hscan hmem] at he
    refine (mem_edges_iff_of_scan_eq hscan').mpr ⟨hpaths _ hmem, ?_⟩
    rw [importsOf_of_scan_eq hscan' (hpaths _ hmem)]
    exact hmake.mem_resolvedAt (isCanonical_of_scan_eq hscan hmem) he
  · intro p hp
    rw [unresolvedOf_of_scan_eq hscan hp, unresolvedOf_of_scan_eq hscan' (hpaths p hp)]
    exact hmake.unresolvedAt_sublist p

/-- Load paths at the end of the list let a graph grow: a scan that succeeds also succeeds with
them, its graph keeps its files and imports, what its files leave unresolved was unresolved before,
and an import that meant a file means the same file. -/
theorem scan_append_loadPaths (t : FileTree) (r : ScanRequest) (more : List String)
    {g : ImportGraph} (hscan : t.scan r = .ok g) :
    ∃ g', t.scan { r with includePaths := r.includePaths ++ more } = .ok g' ∧ g.GrowsInto g' ∧
      ∀ importer target q,
        (Loader.make t r.includePaths r.extensions).resolve? t importer target = some q →
        (Loader.make t (r.includePaths ++ more) r.extensions).resolve? t importer target =
          some q := by
  -- the same files are searched for
  have hscannable := isScannable_of_scan_eq hscan
  obtain ⟨found, hfound⟩ := exists_discover_of_scan_eq hscan
  obtain ⟨s, hscan', -⟩ :=
    IsScannable.exists_scan_eq (r := { r with includePaths := r.includePaths ++ more })
    hscannable hfound
  have hext := Loader.isExtendedBy_append t r.includePaths more r.extensions
  exact ⟨_, hscan', growsInto_of_isExtendedBy hext hscan hscan', hext.make⟩

end FileTree

namespace CommandLine

/-- With the load path `/l` the graph of `/` grows by `/l/_v.scss`. -/
theorem growsInto_configured :
    ∃ g g', configured.tree.scan { root := "/", deep := false } = .ok g ∧
      configured.tree.scan { root := "/", includePaths := ["/l"], deep := false } = .ok g' ∧
      g.GrowsInto g' ∧
      "/l/_v.scss" ∉ g.paths ∧ "/l/_v.scss" ∈ g'.paths := by
  obtain ⟨hnone, hsome⟩ := resolve?_configured
  obtain ⟨g, hscan⟩ := exists_scan_configured [] false
  obtain ⟨g', hscan', hgrows, -⟩ := FileTree.scan_append_loadPaths configured.tree _ ["/l"] hscan
  refine ⟨_, g', hscan, hscan', hgrows, fun hmem => ?_, ?_⟩
  · rw [mem_paths_configured_iff hscan fun q hq => by cases hnone.symm.trans hq] at hmem
    simp [hnone] at hmem
  · refine (mem_paths_configured_iff hscan' fun q hq => ?_).mpr (.inr ⟨rfl, .inr hsome⟩)
    exact Option.some.inj (hq.symm.trans hsome)

end CommandLine

end Restyle
