import Mathlib
import Restyle.Proofs.SessionWatchers
import Restyle.Proofs.WatchedOutput

/-! # Compiling and watching agree
A compilation finds its sources by discovery, a session by the import graph; and each has a
dispatcher of its own. For a root that is a directory or a file and no partial they agree
(`Session.renews_of_compiled`): what is compiled is watched, and when it is written to later it is
rendered again, with the same options. -/

namespace Restyle

variable {ω : Type}

/-! ## Sources and options -/

/-- `p.optionsFor src` is the same with any graph that reads relative paths from the same
directory. -/
theorem Project.optionsFor_withGraph (p : Project ω) {g : ImportGraph}
    (hdir : g.workingDir = p.graph.workingDir) (src : String) :
    ({ p with graph := g } : Project ω).optionsFor src = p.optionsFor src := by
  have hnormalize : g.normalize = p.graph.normalize := by
    funext path
    rw [ImportGraph.normalize, ImportGraph.normalize, hdir]
  simp only [optionsFor, layoutFor, entryPoint?, hnormalize, hdir]

/-- `p.optionsFor (p.optionsFor src).src = p.optionsFor src`. -/
theorem Project.optionsFor_src (p : Project ω) (src : String) :
    p.optionsFor (p.optionsFor src).src = p.optionsFor src := by
  have hnormalize : Path.normalize p.graph.workingDir (p.optionsFor src).src =
      (p.optionsFor src).src :=
    p.normalize_src_optionsFor src
  have hlayout : p.layoutFor (p.optionsFor src).src = p.layoutFor src := by
    unfold layoutFor
    rw [normalize_src_optionsFor]
    rfl
  rw [optionsFor, hlayout, OutputLayout.derive, hnormalize]
  rfl

namespace CompileRequest

variable {q : CompileRequest ω} {t : FileTree} {g : ImportGraph} {src : String}

/-- The scan that a session for the same request makes. -/
def scanRequest (q : CompileRequest ω) : ScanRequest :=
  { root := q.root, includePaths := q.base.includePaths, deep := q.deep,
    extensions := q.extensions }

/-- `q.project t g` with the graph `g'` is `q.project t g'`. -/
theorem project_withGraph (q : CompileRequest ω) (t : FileTree) (g g' : ImportGraph) :
    { q.project t g with graph := g' } = q.project t g' := by
  unfold project
  cases t.rootLayout (t.absolute q.root)
  rfl

/-- `(q.project t g).optionsFor src` is what a compilation renders `src` with. -/
theorem optionsFor_project (q : CompileRequest ω) (hdir : g.workingDir = t.workingDir)
    (src : String) :
    (q.project t g).optionsFor src = (q.dispatcher t).toProject.optionsFor src := by
  obtain ⟨empty, hproject, hempty⟩ : ∃ empty, (q.dispatcher t).toProject = q.project t empty ∧
      empty.workingDir = t.workingDir := ⟨_, rfl, rfl⟩
  rw [hproject, ← q.project_withGraph t empty g]
  refine Project.optionsFor_withGraph _ ?_ src
  rw [graph_project, hdir, hempty]

/-- The members of `q.targets t` are files of the scanned graph. -/
theorem mem_paths_of_mem_targets {targets : List String} (hscan : t.scan q.scanRequest = .ok g)
    (htargets : q.targets t = .ok targets) (hsrc : src ∈ targets) : src ∈ g.paths := by
  have hroot : q.scanRequest.root = q.root := rfl
  obtain ⟨heq, hmem, -⟩ := isTargetList_of_targets_eq htargets
  by_cases hfile : t.isFile (t.absolute q.root) = true
  · rw [heq hfile, List.mem_singleton] at hsrc
    rw [← hroot] at hfile hsrc
    exact hsrc ▸ FileTree.root_mem_paths_of_scan_eq hscan hfile
  · refine FileTree.mem_paths_of_isDiscovered hscan ?_
    -- a directory is scanned itself
    rw [FileTree.directoryToScan, hroot, if_neg hfile]
    exact ((hmem (Bool.eq_false_iff.mpr hfile) src).mp hsrc).1

/-- No member of `q.targets t` is a partial, unless the root is one. -/
theorem isPartial_of_mem_targets {targets : List String}
    (hroot : ∀ entry, q.rootFile? t = some entry → Path.isPartial entry = false)
    (htargets : q.targets t = .ok targets) (hsrc : src ∈ targets) : Path.isPartial src = false := by
  obtain ⟨heq, hmem, -⟩ := isTargetList_of_targets_eq htargets
  by_cases hfile : t.isFile (t.absolute q.root) = true
  · rw [heq hfile, List.mem_singleton] at hsrc
    refine hroot src ?_
    rw [rootFile?, FileTree.rootLayout, if_pos hfile, hsrc]
  · exact ((hmem (Bool.eq_false_iff.mpr hfile) src).mp hsrc).2

end CompileRequest

/-! ## Renders that are made again -/

namespace Session

variable {s : Session ω} {o : RenderOptions ω}

/-- A session makes a render again, whenever something is written to its source. -/
structure Renews (s : Session ω) (o : RenderOptions ω) : Prop where
  /-- Whatever happens, the source is watched. -/
  isWatched : ∀ moves, ∃ w, (s.moveAll moves).watcher? = some w ∧ o.src ∈ w.watched
  /-- Whatever happens, no render of the source is ever asked for with other options. -/
  options_eq : ∀ moves parts, (s.moveAll moves).running = some parts →
    ∀ o' ∈ parts.dispatcher.asked, o'.src = o.src → o' = o
  /-- Whatever has happened, to the session and to the file tree, something is written to the
  source, and unless a window of the source is open the render is made at once. -/
  mem_calls_dispatch : ∀ moves now w, (s.moveAll moves).watcher? = some w →
    (w.window = 0 ∨ w.windowEnd? o.src = none) →
    o ∈ ((s.moveAll moves).dispatch
      { action := .modified, path := { path := o.src, tree := now } }).calls.drop
        (s.moveAll moves).calls.length
  /-- Whatever has happened, to the session and to the file tree, something is written to the
  source, and the render is made by the time that a window has passed. -/
  mem_calls_of_advance : ∀ moves now w, (s.moveAll moves).watcher? = some w →
    o ∈ ((s.moveAll moves).moveAll
        [.watch (.dispatch { action := .modified, path := { path := o.src, tree := now } }),
          .watch (.advance w.window), .catchUp]).calls.drop
      (s.moveAll moves).calls.length

/-- A session `Renews` `p.optionsFor src` for every file `src` of its graph that is no partial. -/
theorem renews_optionsFor (setup : SessionSetup ω) {g : ImportGraph} {src : String}
    (hscan : setup.tree.scan ({ toSessionSetup := setup } : Session ω).scanRequest = .ok g)
    (hstart : ({ toSessionSetup := setup } : Session ω).start = (.ok (), s)) (hsrc : src ∈ g.paths)
    (hpartial : Path.isPartial src = false) :
    s.Renews ((setup.toCompileRequest.project setup.tree g).optionsFor src) := by
  set project := setup.toCompileRequest.project setup.tree g with hproject
  set watch := WatchSetup.make setup.tree g.paths setup.window with hwatch
  have hserves : ∀ moves, (s.moveAll moves).Serves watch project := by
    obtain ⟨g', hscan', hserves⟩ := serves_moveAll setup hstart
    obtain rfl : g' = g := Except.ok.inj (hscan'.symm.trans hscan)
    exact hserves
  have hcanonical := FileTree.isCanonical_of_scan_eq hscan hsrc
  have hsame : (project.optionsFor src).src = src := project.src_optionsFor hcanonical
  have hmatch : ∀ now, watch.match? { path := src, tree := now } = some src :=
    match?_make_of_scan_eq hscan setup.window hsrc
  have htarget : src ∈ project.graph.renderTargets src := by
    rw [hproject, CompileRequest.graph_project]
    exact (FileTree.mem_renderTargets_iff_of_scan_eq hscan hsrc).mpr ⟨hsrc, hpartial, .refl⟩
  -- in every state the watcher has the same setup, and is in time
  have hwatcher : ∀ moves w, (s.moveAll moves).watcher? = some w → w.toWatchSetup = watch ∧
      w.Timely := by
    intro moves w hw
    rw [watcher?_moveAll, watcher?_of_start setup hscan hstart, Option.map_some] at hw
    obtain rfl := Option.some.inj hw
    refine ⟨(Watcher.setup_run _ _).trans (Watcher.setup_run _ _), ?_⟩
    exact ((Watcher.timely_of_new _ _).run _).run _
  refine ⟨fun moves => ?_, fun moves parts hrunning o' ho' heq => ?_,
    fun moves now w hw hclosed => ?_, fun moves now w hw => ?_⟩
  · obtain ⟨parts, hrunning, hsetup, -⟩ := hserves moves
    refine ⟨parts.watcher, by simp [watcher?, hrunning], ?_⟩
    rw [hsame, hsetup]
    exact (WatchSetup.mem_watched_make_iff hscan setup.window).mpr hsrc
  · obtain ⟨parts', hrunning', -, -, hasks⟩ := hserves moves
    obtain rfl : parts' = parts := Option.some.inj (hrunning'.symm.trans hrunning)
    obtain ⟨path, target, -, rfl⟩ := hasks o' ho'
    rw [← project.optionsFor_src target, heq, project.optionsFor_src]
  · obtain ⟨hsetup, -⟩ := hwatcher moves w hw
    rw [hsame] at hclosed ⊢
    have hdelivered : ⟨src, .changed, w.clock⟩ ∈
        (w.run [Watcher.written { path := src, tree := now }]).deliveries.drop
          w.deliveries.length :=
      Watcher.delivery_of_written (hsetup ▸ hmatch now) hclosed
    exact mem_calls_of_delivered (hserves moves) hw hdelivered rfl htarget
  · obtain ⟨hsetup, htimely⟩ := hwatcher moves w hw
    rw [hsame]
    obtain ⟨d, hd, hpath, hkind⟩ := Watcher.exists_delivery_of_written htimely (hsetup ▸ hmatch now)
    have haffected : src ∈ project.graph.renderTargets d.path := by
      rw [hpath]
      exact htarget
    exact mem_calls_of_delivered (hserves moves) hw hd hkind haffected

/-- Compiling and watching a root agree, when it is a directory, or a file and no partial: every
source that is compiled is watched by every session for the same request; and whatever happens to
the session, it renders the source with the options that it was compiled with, whenever something is
written to it. -/
theorem renews_of_compiled (setup : SessionSetup ω)
    (hroot : ∀ entry, setup.toCompileRequest.rootFile? setup.tree = some entry →
      Path.isPartial entry = false)
    (hstart : ({ toSessionSetup := setup } : Session ω).start = (.ok (), s)) (r : Renderer ω) :
    ∀ o ∈ (compileOnce r setup.tree setup.toCompileRequest).calls, s.Renews o := by
  intro o ho
  obtain ⟨targets, htargets, src, hsrc, rfl⟩ := exists_of_mem_calls_compileOnce ho
  obtain ⟨g, hscan, -⟩ := serves_moveAll setup hstart
  have hscan' : setup.tree.scan setup.toCompileRequest.scanRequest = .ok g := hscan
  rw [← CompileRequest.optionsFor_project _ (FileTree.workingDir_of_scan_eq hscan) src]
  exact renews_optionsFor setup hscan hstart
    (CompileRequest.mem_paths_of_mem_targets hscan' htargets hsrc)
    (CompileRequest.isPartial_of_mem_targets hroot htargets hsrc)

end Session

/-- What `/a.scss` is compiled to is kept up to date: `/site.css`. -/
theorem CompileRequest.renews_siteSetup :
    let request := siteSetup.toCompileRequest
    (∀ entry, request.rootFile? siteSetup.tree = some entry → Path.isPartial entry = false) ∧
      ∃ s, ({ toSessionSetup := siteSetup } : Session Unit).start = (.ok (), s) ∧
        ∃ o ∈ (compileOnce siteSetup.renderer siteSetup.tree request).calls,
          o.src = "/a.scss" ∧ o.dest = "/site.css" ∧ s.Renews o := by
  intro request
  have hroot : request.rootFile? siteSetup.tree = some "/a.scss" := by cbv
  have hnot : ∀ entry, request.rootFile? siteSetup.tree = some entry →
      Path.isPartial entry = false := by
    intro entry hentry
    obtain rfl := Option.some.inj (hroot.symm.trans hentry)
    decide
  obtain ⟨found, hfound⟩ := FileTree.exists_discover_mutualImports
  obtain ⟨s, hstart⟩ := Session.exists_start_eq siteSetup FileTree.isScannable_mutualImports hfound
  have hexists : siteSetup.tree.pathExists (siteSetup.tree.absolute request.root) = true := by cbv
  have htargets : request.targets siteSetup.tree = .ok ["/a.scss"] := by
    rw [rootFile?] at hroot
    unfold targets
    simp only
    rw [hroot]
  -- the render of the one source does not fail
  have hcalls : (compileOnce siteSetup.renderer siteSetup.tree request).calls =
      [(request.dispatcher siteSetup.tree).toProject.optionsFor "/a.scss"] := by
    rw [compileOnce_of_targets_eq hexists htargets]
    exact calls_compileAll_of_isOk (fun _ => rfl) _ _ _
  have hmem := hcalls ▸ List.mem_singleton_self _
  exact ⟨hnot, s, hstart, _, hmem,
    by cbv, by cbv, Session.renews_of_compiled siteSetup hnot hstart _ _ hmem⟩

end Restyle
