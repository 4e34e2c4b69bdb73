import Mathlib
import Restyle.Proofs.BareTrees
import Restyle.Proofs.GrowingGraphs
import Restyle.Proofs.TraversalOrder

/-! # Edited files
Where a scan starts and what an import means depends on which files there are, not on what they
hold; only the targets of a file are read from the file itself. So when one file is edited, the
files that stand elsewhere keep their imports, and a file can leave the graph only if the edited one
led to it (`scan_of_isEdit`). -/

namespace Restyle

open Relation

variable {t t' : FileTree} {place : Place} {l : Loader} {r : ScanRequest} {g g' : ImportGraph}
  {p q root : String}

namespace FileTree

/-! ## What does not depend on contents -/

namespace SameShape

/-- `t'.normalize path = t.normalize path`. -/
theorem normalize_eq (h : t.SameShape t') (path : String) :
    t'.normalize path = t.normalize path := by
  rw [normalize, normalize, h.workingDir_eq]

/-- `t'.absolute path = t.absolute path`. -/
theorem absolute_eq (h : t.SameShape t') (path : String) : t'.absolute path = t.absolute path := by
  rw [absolute, absolute, h.workingDir_eq]

/-- `t'.directoryToScan root = t.directoryToScan root`. -/
theorem directoryToScan_eq (h : t.SameShape t') (root : String) :
    t'.directoryToScan root = t.directoryToScan root := by
  rw [directoryToScan, directoryToScan, h.isFile_eq]

/-- `Loader.make` is the same for both trees. -/
theorem make_eq (h : t.SameShape t') (loadPaths extensions : List String) :
    Loader.make t' loadPaths extensions = Loader.make t loadPaths extensions := by
  rw [Loader.make, Loader.make, funext h.normalize_eq]

/-- `l.resolve? t' importer target = l.resolve? t importer target`: what an import means does not
depend on what the files hold. -/
theorem resolve?_eq (h : t.SameShape t') (l : Loader) (importer target : String) :
    l.resolve? t' importer target = l.resolve? t importer target := by
  rw [Loader.resolve?, Loader.resolve?, Loader.candidates, Loader.candidates, funext h.isFile_eq,
    funext h.normalize_eq]

/-- `t'.IsScannable root` for every root that can be scanned in `t`. -/
theorem isScannable (h : t.SameShape t') (hroot : t.IsScannable root) : t'.IsScannable root where
  pathExists := by rw [h.pathExists_eq, hroot.pathExists]
  isReadable := by rw [h.isReadable_eq, hroot.isReadable]
  directory_isReadable := by rw [h.directoryToScan_eq, h.isReadable_eq, hroot.directory_isReadable]
  directory_isPassable := by rw [h.directoryToScan_eq, h.isPassable_eq, hroot.directory_isPassable]

end SameShape

/-! ## Searches -/

/-- The ways of directories from a place on: `[]`, and `name :: way` for the ways from each
subdirectory `name` on. -/
theorem directoriesFrom_eq_cons (t : FileTree) (place : Place) :
    t.directoriesFrom place = [] :: if place ∈ t.unlistable then [] else
      (t.subdirectories place).flatMap fun name =>
        (t.directoriesFrom (place ++ [name])).map (name :: ·) := by
  rw [directoriesFrom]
  simp [List.flatMap_subtype]

namespace SameShape

/-- What is picked from the entries by their places, with `f entry.1`, is the same in both trees, in
the same order. -/
theorem filterMap_places_eq {α : Type} (h : t.SameShape t') (f : Place → Option α) :
    (t'.entries.filterMap fun entry => f entry.1) = t.entries.filterMap fun entry => f entry.1 := by
  have hmap : ∀ t : FileTree, (t.entries.filterMap fun entry => f entry.1) =
      (t.entries.map Prod.fst).filterMap f := by
    intro t
    rw [List.filterMap_map]
    rfl
  rw [hmap, hmap, h.places_eq]

/-- `t.list path` does not depend on what the files hold. -/
theorem list_eq (h : t.SameShape t') (path : String) : t'.list path = t.list path := by
  unfold list
  simp only [h.find_eq, ne_eq, h.eq_directory_iff, h.unlistable_iff, h.filterMap_places_eq]

/-- `t.subdirectories place` does not depend on what the files hold. -/
theorem subdirectories_eq (h : t.SameShape t') (place : Place) :
    t'.subdirectories place = t.subdirectories place := by
  unfold subdirectories
  simp only [h.eq_directory_iff]
  exact h.filterMap_places_eq fun other =>
    if t.entryAt? other = some .directory then nameIn? place other else none

/-- `t.directoriesFrom place` does not depend on what the files hold. -/
theorem directoriesFrom_eq (h : t.SameShape t') (place : Place) :
    t'.directoriesFrom place = t.directoriesFrom place := by
  -- by recursion on `directoriesFrom` itself, which goes down to the subdirectories
  rw [directoriesFrom_eq_cons, directoriesFrom_eq_cons t, h.subdirectories_eq]
  simp only [h.unlistable_iff]
  congr 2
  refine List.flatMap_congr fun name hname => ?_
  have hlt := length_lt_depth_of_mem_subdirectories hname
  rw [h.directoriesFrom_eq (place ++ [name])]
  termination_by t.depth - place.length
  decreasing_by
    rw [List.length_append, List.length_singleton]
    omega

/-- `t.enterable root names found` does not depend on what the files hold. -/
theorem enterable_eq (h : t.SameShape t') (names found : List String) :
    t'.enterable root names found = t.enterable root names found := by
  induction found with
  | nil => rfl
  | cons name found ih => rw [enterable, enterable, h.testDirectory_eq, ih]

/-- `t.select root steps names` does not depend on what the files hold. -/
theorem select_eq (h : t.SameShape t') (steps : List SearchStep) (names : List String) :
    t'.select root steps names = t.select root steps names := by
  induction steps generalizing names with
  | nil => rw [select, select]
  | cons step steps ih =>
    cases step with
    | stay => rw [select, select]
    | name name => simp only [select, h.testExists_eq, h.testDirectory_eq, ih]
    | matching pattern => simp only [select, h.list_eq, h.enterable_eq, ih]
    | descend => simp only [select, h.find_eq, h.directoriesFrom_eq, ih]

/-- The same is found whatever the files hold: `t'.discover root deep extensions = t.discover root
deep extensions`. -/
theorem discover_eq (h : t.SameShape t') (root : String) (deep : Bool) (extensions : List String) :
    t'.discover root deep extensions = t.discover root deep extensions := by
  have hkeep : t'.keep? (Path.tidy root) = t.keep? (Path.tidy root) := by
    funext names
    rw [keep?, keep?, h.testFile_eq, h.normalize_eq]
  have hhits : t'.hits (Path.tidy root) deep = t.hits (Path.tidy root) deep := by
    funext extension
    rw [hits, hits]
    simp only [h.testDirectory_eq, h.select_eq]
  rw [FileTree.discover_eq, FileTree.discover_eq, hkeep, hhits]

end SameShape

/-! ## Edits -/

/-- The trees differ in nothing but what the file at one place holds. -/
structure IsEdit (t t' : FileTree) (place : Place) : Prop extends t.SameShape t' where
  /-- A regular file stands at the place. -/
  exists_file : ∃ bytes, t.entryAt? place = some (.file bytes)
  /-- At any other place stands the same. -/
  entryAt?_eq : ∀ other, other ≠ place → t'.entryAt? other = t.entryAt? other

namespace IsEdit

/-- `IsEdit` is symmetric. -/
theorem symm (h : t.IsEdit t' place) : t'.IsEdit t place where
  toSameShape := h.toSameShape.symm
  exists_file := by
    obtain ⟨bytes, hfile⟩ := h.exists_file
    rcases h.entryAt?_eq_or_file place with heq | ⟨-, bytes', -, hfile'⟩
    · exact ⟨bytes, heq.trans hfile⟩
    · exact ⟨bytes', hfile'⟩
  entryAt?_eq other hother := (h.entryAt?_eq other hother).symm

/-- `t.put place (.file bytes')` is an edit of `t` where a file stands at `place`. -/
theorem put {bytes : List UInt8} (h : t.entryAt? place = some (.file bytes)) (bytes' : List UInt8) :
    t.IsEdit (t.put place (.file bytes')) place := by
  have hne : place ≠ [] := by
    rintro rfl
    cases h
  refine ⟨⟨places_put hne (by rw [h, Option.isSome_some]) _, workingDir_put t place _,
    fun path =>
      by rw [unreadable_put], fun other => by rw [unlistable_put], fun other => by rw [closed_put],
    fun other => ?_⟩, ⟨bytes, h⟩, fun other hother => ?_⟩
  · rw [entryAt?_put t hne]
    split
    · next heq =>
      rw [heq, h]
      rfl
    · rfl
  · rw [entryAt?_put t hne, if_neg hother]

/-- `t'.readText p = t.readText p` for a path that does not lead to the edited place. -/
theorem readText_eq (h : t.IsEdit t' place) (hp : t.find p ≠ .ok place) :
    t'.readText p = t.readText p := by
  have hbytes : t'.readBytes p = t.readBytes p := by
    unfold readBytes
    simp only [h.unreadable_iff, h.find_eq]
    cases hfind : t.find p with
    | error e => rfl
    | ok other =>
      rw [hfind] at hp
      have hentry := h.entryAt?_eq other fun heq => hp (congrArg Except.ok heq)
      simp only [bind, Except.bind, hentry]
  rw [readText, readText, hbytes]

/-- `l.read t' p = l.read t p` for a path that does not lead to the edited place. -/
theorem read_eq (h : t.IsEdit t' place) (l : Loader) (hp : t.find (Path.tidy p) ≠ .ok place) :
    l.read t' p = l.read t p := by
  have himports : l.importsOf t' p = l.importsOf t p := by
    funext source
    rw [Loader.importsOf, Loader.importsOf, funext (h.resolve?_eq l p)]
  rw [Loader.read, Loader.read, h.readText_eq hp, himports]

/-- `t'.Imports l p q ↔ t.Imports l p q` for a path `p` that does not lead to the edited place. -/
theorem imports_iff (h : t.IsEdit t' place) (hp : t.find p ≠ .ok place) :
    t'.Imports l p q ↔ t.Imports l p q := by
  simp only [Imports, h.readText_eq hp, h.resolve?_eq]

end IsEdit

/-! ## Graphs -/

/-- `g.descendants p` of a scanned graph are the files `q` with
`ReflTransGen (t.Imports r.loader) p q`. -/
theorem mem_descendants_iff_of_scan_eq (hscan : t.scan r = .ok g) (hp : p ∈ g.paths) :
    q ∈ g.descendants p ↔ ReflTransGen (t.Imports r.loader) p q := by
  have hcanonical : ∀ p ∈ g.paths, g.normalize p = p := fun p hp => normalize_eq_of_scan_eq hscan hp
  rw [(wellFormed_of_scan_eq hscan).mem_descendants_iff hcanonical, hcanonical p hp,
    reflTransGen_imports_iff_of_scan_eq hscan hp]

/-- In the graph a way along imports leads to the file `p` from a file that names the place, be it
through links. -/
def IsLedTo (t : FileTree) (place : Place) (g : ImportGraph) (p : String) : Prop :=
  ∃ e ∈ g.paths, t.find e = .ok place ∧ p ∈ g.descendants e

/-- `IsLedTo` passes from a file to what it imports. -/
theorem IsLedTo.of_imports (hscan : t.scan r = .ok g) (h : t.IsLedTo place g p)
    (himports : t.Imports r.loader p q) : t.IsLedTo place g q := by
  obtain ⟨e, he, hplace, hwalk⟩ := h
  rw [mem_descendants_iff_of_scan_eq hscan he] at hwalk
  exact ⟨e, he, hplace, (mem_descendants_iff_of_scan_eq hscan he).mpr (hwalk.tail himports)⟩

namespace IsEdit

/-- A file of `g` that is not in the graph `g'` after the edit is `IsLedTo` in `g`. -/
theorem isLedTo (h : t.IsEdit t' place) (hscan : t.scan r = .ok g) (hscan' : t'.scan r = .ok g')
    (hp : p ∈ g.paths) (hlost : p ∉ g'.paths) : t.IsLedTo place g p := by
  -- the files that are found again and those that are led to are together closed under imports
  have hclosed : {p | p ∈ g.paths ∧ (p ∈ g'.paths ∨ t.IsLedTo place g p)} ∈
      t.closedSets r.loader r (t.absolute r.root) (t.directoryToScan (t.absolute r.root)) := by
    obtain ⟨hdiscover, hroot, -⟩ := (isLeast_paths_of_scan_eq hscan).1
    obtain ⟨hdiscover', hroot', -⟩ := (isLeast_paths_of_scan_eq hscan').1
    simp only [h.absolute_eq, h.directoryToScan_eq, IsDiscovered, h.discover_eq] at hdiscover'
    simp only [h.absolute_eq, h.isFile_eq, h.normalize_eq] at hroot'
    refine ⟨fun p hp => ⟨hdiscover p hp, .inl (hdiscover' p hp)⟩,
      fun hfile => ⟨hroot hfile, .inl (hroot' hfile)⟩, ?_⟩
    rintro p ⟨hp, hcases⟩ q himports
    refine ⟨mem_paths_of_imports hscan hp himports, ?_⟩
    rcases hcases with hp' | hled
    · by_cases hplace : t.find p = .ok place
      · have hself : p ∈ g.descendants p := (mem_descendants_iff_of_scan_eq hscan hp).mpr .refl
        exact .inr (IsLedTo.of_imports hscan ⟨p, hp, hplace, hself⟩ himports)
      · exact .inl (mem_paths_of_imports hscan' hp' ((h.imports_iff hplace).mpr himports))
    · exact .inr (hled.of_imports hscan himports)
  exact ((isLeast_paths_of_scan_eq hscan).2 hclosed hp).2.resolve_left hlost

/-- `importsOf p` and `unresolvedOf p` are the same in `g` and `g'` for a file of both that does not
lead to the edited place. -/
theorem importsOf_and_unresolvedOf_eq (h : t.IsEdit t' place) (hscan : t.scan r = .ok g)
    (hscan' : t'.scan r = .ok g') (hp : p ∈ g.paths) (hp' : p ∈ g'.paths)
    (hplace : t.find p ≠ .ok place) :
    g'.importsOf p = g.importsOf p ∧ g'.unresolvedOf p = g.unresolvedOf p := by
  have hread : (Loader.make t r.includePaths r.extensions).read t' p =
      (Loader.make t r.includePaths r.extensions).read t p := by
    refine h.read_eq _ ?_
    rwa [(isCanonical_of_scan_eq hscan hp).tidy_eq_self]
  rw [importsOf_of_scan_eq hscan hp, importsOf_of_scan_eq hscan' hp',
    unresolvedOf_of_scan_eq hscan hp, unresolvedOf_of_scan_eq hscan' hp', h.make_eq]
  unfold Loader.resolvedAt Loader.unresolvedAt
  rw [hread]
  exact ⟨rfl, rfl⟩

end IsEdit

/-- An edit of one file is local. A scan that succeeds also succeeds after the edit. The files of
both graphs that do not name the edited file, be it through links, have the same imports and the
same unresolved targets, and a file that is in one graph only is led to from the edited file in that
graph. -/
theorem scan_of_isEdit (t t' : FileTree) (place : Place) (r : ScanRequest) {g : ImportGraph}
    (hedit : t.IsEdit t' place) (hscan : t.scan r = .ok g) :
    ∃ g', t'.scan r = .ok g' ∧
      (∀ p ∈ g.paths, p ∈ g'.paths → t.find p ≠ .ok place →
        g'.importsOf p = g.importsOf p ∧ g'.unresolvedOf p = g.unresolvedOf p) ∧
      (∀ p ∈ g.paths, p ∉ g'.paths → t.IsLedTo place g p) ∧
      ∀ p ∈ g'.paths, p ∉ g.paths → t'.IsLedTo place g' p := by
  have hscannable : t'.IsScannable (t'.absolute r.root) := by
    rw [hedit.absolute_eq]
    exact hedit.isScannable (isScannable_of_scan_eq hscan)
  obtain ⟨found, hfound⟩ := exists_discover_of_scan_eq hscan
  obtain ⟨s, hscan', -⟩ := hscannable.exists_scan_eq (r := r)
    (by rw [hedit.absolute_eq, hedit.directoryToScan_eq, hedit.discover_eq, hfound])
  exact ⟨_, hscan', fun p hp hp' hplace =>
    hedit.importsOf_and_unresolvedOf_eq hscan hscan' hp hp' hplace, fun p hp hlost =>
      hedit.isLedTo hscan hscan' hp hlost,
    fun p hp hnew => hedit.symm.isLedTo hscan' hscan hp hnew⟩

end FileTree

namespace CommandLine

/-- The tree in which `/a.scss` does not import anything. -/
def cleared : FileTree := configured.tree.put ["a.scss"] (.file [])

/-- `cleared` is an edit of the tree at `a.scss`. -/
theorem isEdit_cleared : configured.tree.IsEdit cleared ["a.scss"] := by
  have hfile : configured.tree.entryAt? ["a.scss"] =
      some (.file "@import '_v.scss';".toUTF8.toList) := rfl
  exact .put hfile []

/-- A flat scan of this tree finds no other file. -/
theorem eq_of_mem_paths_cleared {includePaths : List String} {g : ImportGraph} {p : String}
    (hscan : cleared.scan { root := "/", includePaths, deep := false } = .ok g) (hp : p ∈ g.paths) :
    p = "/a.scss" := by
  have hdir : cleared.directoryToScan (cleared.absolute "/") =
      configured.tree.directoryToScan (configured.tree.absolute "/") := by cbv
  have hfile : cleared.isFile (cleared.absolute "/") = false := by cbv
  have hsource : cleared.readText "/a.scss" = .ok [] := by cbv
  have htargets : Stylesheet.imports (dialectOf "/a.scss") [] = [] := by decide +kernel
  have hleast := (FileTree.isLeast_paths_of_scan_eq hscan).2
  simp only [FileTree.closedSets, hdir, hfile] at hleast
  refine hleast (show {p | p = "/a.scss"} ∈ _ from ⟨fun p hp => ?_, by simp, ?_⟩) hp
  · rw [FileTree.IsDiscovered, isEdit_cleared.discover_eq] at hp
    simpa using isDiscovered_configured_iff.mp hp
  · rintro p rfl q ⟨source, hread, target, htarget, -⟩
    obtain rfl := Except.ok.inj (hsource.symm.trans hread)
    rw [htargets] at htarget
    exact absurd htarget List.not_mem_nil

/-- When the import is taken out of `/a.scss`, the graph loses `/l/_v.scss`, to which `/a.scss`
led. -/
theorem isLedTo_configured :
    let r : ScanRequest := { root := "/", includePaths := ["/l"], deep := false }
    ∃ g g', configured.tree.scan r = .ok g ∧ cleared.scan r = .ok g' ∧ "/l/_v.scss" ∈ g.paths ∧
      "/l/_v.scss" ∉ g'.paths ∧ configured.tree.IsLedTo ["a.scss"] g "/l/_v.scss" := by
  intro r
  have hsome := resolve?_configured.2
  obtain ⟨g, hscan⟩ := exists_scan_configured r.includePaths r.deep
  obtain ⟨g', hscan', -, hlost, -⟩ := FileTree.scan_of_isEdit _ _ _ r isEdit_cleared hscan
  have hmem :=
    (mem_paths_configured_iff hscan fun q hq => Option.some.inj (hq.symm.trans hsome)).mpr
      (.inr ⟨rfl, .inr hsome⟩)
  have hnot : "/l/_v.scss" ∉ g'.paths :=
    fun hp => absurd (eq_of_mem_paths_cleared hscan' hp) (by decide)
  exact ⟨_, g', hscan, hscan', hmem, hnot, hlost _ hmem hnot⟩

end CommandLine

end Restyle
