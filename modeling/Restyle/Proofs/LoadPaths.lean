import Mathlib
import Restyle.Proofs.RebuildSet

/-! # More load paths
What load paths at the end of the list add to an import graph. Imports that mean a file go on to
mean it, so that the graph grows (`mem_paths_of_more`), and all that is new in it comes from imports
that meant no file before. So a change renders what it rendered before, and more only if an import
that meant no file leads to the file that has changed (`length_renderTargets_of_more`). -/

namespace Restyle

open Relation

/-! ## Resolution -/

/-- `(l.eraseDups.flatMap f).find? p = (l.flatMap f).find? p`: the first match does not depend on
repetitions in `l`. -/
theorem find?_flatMap_eraseDups {α β : Type} [BEq α] [LawfulBEq α] (l : List α) (f : α → List β)
    (p : β → Bool) :
    (l.eraseDups.flatMap f).find? p = (l.flatMap f).find? p := by
  induction l using List.reverseRecOn with
  | nil => rfl
  | append_singleton l x ih =>
    rw [eraseDups_append_singleton, List.flatMap_append, List.find?_append, ← ih]
    split
    · next hx =>
      cases hfound : (l.eraseDups.flatMap f).find? p with
      | some b => rfl
      | none =>
        -- a repeated member adds nothing that has not failed to match before
        refine (List.find?_eq_none.mpr fun b hb => ?_).symm
        refine List.find?_eq_none.mp hfound b (List.mem_flatMap.mpr ⟨x, hx, ?_⟩)
        simpa using hb
    · rw [List.flatMap_append, List.find?_append]

namespace Loader

/-- `resolve?` is the same with `loadPaths.eraseDups` as load paths. -/
theorem resolve?_eraseDups (t : FileTree) (loadPaths extensions : List String)
    (importer target : String) :
    resolve? { loadPaths := loadPaths.eraseDups, extensions } t importer target =
      resolve? { loadPaths, extensions } t importer target := by
  unfold resolve? candidates
  simp only [List.flatMap_cons, List.find?_append, find?_flatMap_eraseDups]

/-- Whatever an import means with the loader `l`, it means with the loader `l'` too. -/
def IsExtendedBy (l : Loader) (t : FileTree) (l' : Loader) : Prop :=
  ∀ importer target q, l.resolve? t importer target = some q →
  l'.resolve? t importer target = some q

/-- `IsExtendedBy` holds when load paths are added at the end. -/
theorem isExtendedBy_append (t : FileTree) (given more extensions : List String) :
    IsExtendedBy { loadPaths := given, extensions } t
      { loadPaths := given ++ more, extensions } := by
  intro importer target q h
  unfold resolve? candidates at h ⊢
  rw [← List.cons_append, List.flatMap_append, List.find?_append, h]
  rfl

/-- `IsExtendedBy` holds when load paths are added at the end and repetitions left out. -/
theorem isExtendedBy_more (t : FileTree) (given more extensions : List String) :
    IsExtendedBy { loadPaths := given, extensions } t
      { loadPaths := (given ++ more).eraseDups, extensions } := by
  intro importer target q h
  rw [resolve?_eraseDups]
  exact isExtendedBy_append t given more extensions importer target q h

end Loader

namespace FileTree

variable {t : FileTree} {l l' : Loader} {p q : String}

/-- `t.Imports l p q` passes to every `l'` with `l.IsExtendedBy t l'`. -/
theorem Imports.of_isExtendedBy (h : t.Imports l p q) (hext : l.IsExtendedBy t l') :
    t.Imports l' p q := by
  obtain ⟨source, hsource, target, htarget, hresolve⟩ := h
  exact ⟨source, hsource, target, htarget, hext _ _ _ hresolve⟩

end FileTree

/-! ## Graphs -/

namespace ScanRequest

/-- What the imports are resolved with. -/
abbrev loader (r : ScanRequest) : Loader :=
  { loadPaths := r.includePaths, extensions := r.extensions }

/-- The same request with more load paths, each path once and the first ones first. -/
def withMore (r : ScanRequest) (more : List String) : ScanRequest :=
  { r with includePaths := (r.includePaths ++ more).eraseDups }

end ScanRequest

namespace FileTree

variable {t : FileTree} {more includePaths : List String} {p q : String} {r : ScanRequest}
  {g g' : ImportGraph} {e f : String}

/-- The files of `g` are files of the graph `g'` of a loader that `IsExtendedBy` describes. -/
theorem mem_paths_of_isExtendedBy (hext : r.loader.IsExtendedBy t { r with includePaths }.loader)
    (hscan : t.scan r = .ok g) (hscan' : t.scan { r with includePaths } = .ok g')
    (hp : p ∈ g.paths) :
    p ∈ g'.paths := by
  obtain ⟨hdiscover, hroot, himports⟩ := (isLeast_paths_of_scan_eq hscan').1
  -- the larger graph is closed under the imports of the smaller one
  refine (isLeast_paths_of_scan_eq hscan).2 ⟨hdiscover, hroot, fun a ha b hb => ?_⟩ hp
  exact himports a ha b (hb.of_isExtendedBy hext)

/-- The files of `g` are files of the graph with `more` load paths. -/
theorem mem_paths_of_more (hscan : t.scan r = .ok g) (hscan' : t.scan (r.withMore more) = .ok g')
    (hp : p ∈ g.paths) : p ∈ g'.paths :=
  mem_paths_of_isExtendedBy (Loader.isExtendedBy_more t _ _ _) hscan hscan' hp

/-- `resolve?` is `none` for every unresolved import of a scanned graph. -/
theorem resolve?_eq_none_of_mem_unresolved (hscan : t.scan r = .ok g) {u : UnresolvedImport}
    (hu : u ∈ g.unresolved) : r.loader.resolve? t u.importer u.target = none := by
  obtain ⟨s, rfl, hcomplete⟩ := isComplete_of_scan_eq hscan
  have hu' : u ∈ s.graph.unresolved := hu
  rw [hcomplete.unresolved_eq, hcomplete.visited_eq] at hu'
  obtain ⟨p, hp, hu'⟩ := List.mem_flatMap.mp hu'
  obtain ⟨source, -, target, -, hnone, rfl⟩ :=
    (Loader.mem_unresolvedAt (isCanonical_of_scan_eq hscan hp)).mp hu'
  rwa [Loader.resolve?_make] at hnone

/-- With another loader, an import that means no file in a graph leads to the file `f`. -/
def LeadsAnew (t : FileTree) (l : Loader) (g : ImportGraph) (f : String) : Prop :=
  ∃ u ∈ g.unresolved, ∃ q, l.resolve? t u.importer u.target = some q ∧
  ReflTransGen (t.Imports l) q f

/-- `LeadsAnew` passes along imports. -/
theorem LeadsAnew.trans {l : Loader} (h : t.LeadsAnew l g e)
    (hwalk : ReflTransGen (t.Imports l) e f) :
    t.LeadsAnew l g f := by
  obtain ⟨u, hu, q, hresolve, hq⟩ := h
  exact ⟨u, hu, q, hresolve, hq.trans hwalk⟩

/-- The loader of the scan itself leads nowhere anew. -/
theorem not_leadsAnew_loader (hscan : t.scan r = .ok g) (f : String) :
    ¬t.LeadsAnew r.loader g f := by
  rintro ⟨u, hu, q, hresolve, -⟩
  rw [resolve?_eq_none_of_mem_unresolved hscan hu] at hresolve
  cases hresolve

/-- An import with `more` load paths is one without them, or what it leads to is `LeadsAnew`. -/
theorem Imports.of_withMore (hscan : t.scan r = .ok g) (hp : p ∈ g.paths)
    (h : t.Imports (r.withMore more).loader p q) :
    t.Imports r.loader p q ∨ t.LeadsAnew (r.withMore more).loader g q := by
  obtain ⟨source, hsource, target, htarget, hresolve⟩ := h
  obtain ⟨s, rfl, hcomplete⟩ := isComplete_of_scan_eq hscan
  rcases hcomplete.target_found p hp source hsource target htarget with ⟨q', -, hfound⟩ |
    ⟨-, hrecorded⟩
  · rw [Loader.resolve?_make] at hfound
    obtain rfl : q' = q :=
      Option.some.inj ((Loader.isExtendedBy_more t _ _ _ _ _ _ hfound).symm.trans hresolve)
    exact .inl ⟨source, hsource, target, htarget, hfound⟩
  · exact .inr ⟨_, hrecorded, q, hresolve, .refl⟩

/-- A file of the graph with `more` load paths is a file of `g`, or `LeadsAnew`. -/
theorem mem_paths_or_leadsAnew (hscan : t.scan r = .ok g)
    (hscan' : t.scan (r.withMore more) = .ok g') (he : e ∈ g'.paths) :
    e ∈ g.paths ∨ t.LeadsAnew (r.withMore more).loader g e := by
  -- what the graph held and what is led to anew is closed under imports
  have hclosed : {e | e ∈ g.paths ∨ t.LeadsAnew (r.withMore more).loader g e} ∈
      t.closedSets (r.withMore more).loader (r.withMore more) (t.absolute r.root)
        (t.directoryToScan (t.absolute r.root)) := by
    refine ⟨fun p hp => .inl (mem_paths_of_isDiscovered hscan hp),
      fun hfile => .inl (root_mem_paths_of_scan_eq hscan hfile), fun p hp q himports => ?_⟩
    rcases hp with hp | hanew
    · exact (himports.of_withMore hscan hp).imp_left (mem_paths_of_imports hscan hp)
    · exact .inr (hanew.trans (.single himports))
  exact (isLeast_paths_of_scan_eq hscan').2 hclosed he

/-- What a file of `g` leads to with `more` load paths it leads to without them, or it is
`LeadsAnew`. -/
theorem reflTransGen_or_leadsAnew (hscan : t.scan r = .ok g) (he : e ∈ g.paths)
    (hwalk : ReflTransGen (t.Imports (r.withMore more).loader) e f) :
    ReflTransGen (t.Imports r.loader) e f ∨ t.LeadsAnew (r.withMore more).loader g f := by
  -- the walk is followed from its start, as long as it stays in the graph
  induction hwalk using ReflTransGen.head_induction_on with
  | refl => exact .inl .refl
  | head hstep hrest ih =>
    rcases hstep.of_withMore hscan he with hstep | hanew
    · exact (ih (mem_paths_of_imports hscan he hstep)).imp_left fun hwalk => .head hstep hwalk
    · exact .inr (hanew.trans hrest)

/-! ## What is rendered -/

/-- `g.renderTargets f` are among the targets with `more` load paths. -/
theorem mem_renderTargets_of_more (hscan : t.scan r = .ok g)
    (hscan' : t.scan (r.withMore more) = .ok g') (hf : f ∈ g.paths) (h : e ∈ g.renderTargets f) :
    e ∈ g'.renderTargets f := by
  obtain ⟨he, hpartial, hwalk⟩ := (mem_renderTargets_iff_of_scan_eq hscan hf).mp h
  refine (mem_renderTargets_iff_of_scan_eq hscan' (mem_paths_of_more hscan hscan' hf)).mpr
    ⟨mem_paths_of_more hscan hscan' he, hpartial, ?_⟩
  exact ReflTransGen.mono
    (fun a b himports => Imports.of_isExtendedBy himports (Loader.isExtendedBy_more t _ _ _)) _ _
      hwalk

/-- A target of `f` with `more` load paths is one of `g.renderTargets f`, or `f` is `LeadsAnew`. -/
theorem mem_renderTargets_or_leadsAnew (hscan : t.scan r = .ok g)
    (hscan' : t.scan (r.withMore more) = .ok g') (hf : f ∈ g.paths) (h : e ∈ g'.renderTargets f) :
    e ∈ g.renderTargets f ∨ t.LeadsAnew (r.withMore more).loader g f := by
  obtain ⟨he, hpartial, hwalk⟩ :=
    (mem_renderTargets_iff_of_scan_eq hscan' (mem_paths_of_more hscan hscan' hf)).mp h
  rcases mem_paths_or_leadsAnew hscan hscan' he with he | hanew
  · refine (reflTransGen_or_leadsAnew hscan he hwalk).imp_left fun hwalk => ?_
    exact (mem_renderTargets_iff_of_scan_eq hscan hf).mpr ⟨he, hpartial, hwalk⟩
  · exact .inr (hanew.trans hwalk)

/-- `g.renderTargets f` has no duplicates. -/
theorem nodup_renderTargets (hscan : t.scan r = .ok g) (f : String) : (g.renderTargets f).Nodup :=
  ((wellFormed_of_scan_eq hscan).nodup_ancestors f).filter _

/-- With `more` load paths there are no fewer `renderTargets f`, and as many unless `f` is
`LeadsAnew`. -/
theorem length_renderTargets_of_more (hscan : t.scan r = .ok g)
    (hscan' : t.scan (r.withMore more) = .ok g') (hf : f ∈ g.paths) :
    (g.renderTargets f).length ≤ (g'.renderTargets f).length ∧
      (¬t.LeadsAnew (r.withMore more).loader g f →
        (g.renderTargets f).length = (g'.renderTargets f).length) := by
  have hle := length_le_of_nodup_of_subset (nodup_renderTargets hscan f)
    fun e he => mem_renderTargets_of_more hscan hscan' hf he
  refine ⟨hle, fun hnone => Nat.le_antisymm hle ?_⟩
  refine length_le_of_nodup_of_subset (nodup_renderTargets hscan' f) fun e he => ?_
  exact (mem_renderTargets_or_leadsAnew hscan hscan' hf he).resolve_right hnone

end FileTree

end Restyle
