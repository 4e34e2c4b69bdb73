import Mathlib
import Restyle.CommandLine.Run
import Restyle.Proofs.FileWrites
import Restyle.Proofs.LoadPaths
import Restyle.Proofs.SessionWatchers

/-! # The forecast of rebuilds
The command that shows the import graph around a file also says how many files a change of it
rebuilds. A session for the same root renders that many files when the file changes, or more: it has
the load paths of the settings too, which the command does not look at (`forecast_le_scheduled`). -/

namespace Restyle

variable {ω : Type}

/-! ## What a session schedules -/

namespace Session

/-- A session schedules `n` renders for a change of a file. -/
structure Schedules (s : Session ω) (file : String) (n : Nat) : Prop where
  /-- Whatever has happened, so many are scheduled when the session takes up that the file has
  changed. -/
  handle_eq : ∀ moves, ∃ s', (s.moveAll moves).handle file .changed none = .ok (n, s')
  /-- Whatever has happened, to the session and to the file tree, something is written to the file,
  and unless a window of it is open so many renders are called, besides those that were due
  already. -/
  length_calls_dispatch : ∀ moves now w, (s.moveAll moves).watcher? = some w →
    (w.window = 0 ∨ w.windowEnd? file = none) →
    ((s.moveAll moves).dispatch
      { action := .modified, path := { path := file, tree := now } }).calls.length =
        (s.moveAll moves).catchUp.calls.length + n

/-- A session `Schedules` `(g.renderTargets file).length` renders for a file of its graph `g`. -/
theorem schedules_of_start (setup : SessionSetup ω) {s : Session ω} {g : ImportGraph}
    {file : String}
    (hscan : setup.tree.scan ({ toSessionSetup := setup } : Session ω).scanRequest = .ok g)
    (hstart : ({ toSessionSetup := setup } : Session ω).start = (.ok (), s))
    (hfile : file ∈ g.paths) :
    s.Schedules file (g.renderTargets file).length := by
  have hserves : ∀ moves, (s.moveAll moves).Serves (WatchSetup.make setup.tree g.paths setup.window)
      (setup.toCompileRequest.project setup.tree g) := by
    obtain ⟨g', hscan', hserves⟩ := serves_moveAll setup hstart
    obtain rfl : g' = g := Except.ok.inj (hscan'.symm.trans hscan)
    exact hserves
  refine ⟨fun moves => ?_, fun moves now w hw hclosed => ?_⟩
  · obtain ⟨parts, hrunning, -, hproject, -⟩ := hserves moves
    have htargets : parts.dispatcher.targets file = g.renderTargets file := by
      rw [Dispatcher.targets, hproject, CompileRequest.graph_project]
    refine ⟨(s.moveAll moves).withDispatcher fun d => d.schedule file, ?_⟩
    rw [handle, hrunning]
    simp only [htargets]
  · have hmatch := match?_make_of_scan_eq hscan setup.window hfile now
    rw [calls_dispatch_of_written (hserves moves) hw hmatch hclosed, List.length_append,
      List.length_map, CompileRequest.graph_project]

end Session

namespace CommandLine

/-! ## What the command shows -/

/-- `printAll` goes through `++`. -/
theorem Screen.printAll_append (s : Screen) (lines last : List String) :
    s.printAll (lines ++ last) = (s.printAll lines).printAll last :=
  List.foldl_append

/-- Complaints leave the output of a screen as it is. -/
theorem Screen.output_foldl_complain {α : Type} (f : α → String) (items : List α) (s : Screen) :
    (items.foldl (fun s item => s.complain (f item)) s).output = s.output := by
  induction items generalizing s with
  | nil => rfl
  | cons item items ih => exact ih (s.complain (f item))

/-- The last thing on the output is that a change rebuilds `n` files. -/
def Outcome.Forecasts (o : Outcome ω) (n : Nat) : Prop :=
  ∃ before, o.screen.output = before ++ "\nA change rebuilds " ++ toString n ++ " file(s).\n"

variable {env : Environment ω} {a : GraphArguments} {g : ImportGraph}

/-- `runGraph` ends with status `0`, and `Forecasts` the number of `g.renderTargets` of the file. -/
theorem runGraph_of_graphOf_eq (h : graphOf env.tree a = .ok (.ok g)) :
    (runGraph env a).ending = .status 0 ∧
      (runGraph env a).Forecasts (g.renderTargets (env.tree.normalize a.file)).length := by
  set path := env.tree.normalize a.file with hpath
  set lines := [path ++ (if Path.isPartial path then " (partial)" else ""), "Imported by:"] ++
    fileLines (g.ancestors path).tail ++ ["Imports:"] ++
      fileLines (g.descendants path).tail with hlines
  have hlast : graphLines g path = lines ++
      ["", "A change rebuilds " ++ toString (g.renderTargets path).length ++ " file(s)."] := rfl
  rw [runGraph, h]
  refine ⟨rfl, (Screen.printAll {} lines).output, ?_⟩
  simp only
  rw [Screen.output_foldl_complain, ← hpath, hlast, Screen.printAll_append]
  simp only [Screen.printAll, List.foldl_cons, List.foldl_nil, Screen.print, String.append_assoc,
    String.append_empty]
  rfl

/-- `graphOf` scans with the load paths that the command is given, and no others. -/
theorem exists_scan_of_graphOf_eq (h : graphOf env.tree a = .ok (.ok g)) :
    ∃ given, a.includePaths.mapM (resolved env.tree) = .ok given ∧
      env.tree.scan
        { root := Path.tidy (a.root.getD a.file), includePaths := given, deep := a.recursive } =
          .ok g := by
  unfold graphOf at h
  obtain ⟨given, hgiven, h⟩ := exists_of_bind_eq_ok h
  exact ⟨given, hgiven, Except.ok.inj h⟩

/-- `baseOptions` have the load paths `(given ++ more).eraseDups`: those of the settings behind the
ones that are given. -/
theorem includePaths_of_baseOptions_eq {t : FileTree} {settings : Settings} {ra : RenderArguments}
    {base : RenderOptions ω} (h : baseOptions t settings ra = .ok base) :
    ∃ given more, ra.includePaths.mapM (resolved t) = .ok given ∧
      base.includePaths = (given ++ more).eraseDups := by
  unfold baseOptions at h
  extract_lets rest at h
  have hrest : ∀ style, rest style = .ok base → ∃ given more,
      ra.includePaths.mapM (resolved t) = .ok given ∧
      base.includePaths = (given ++ more).eraseDups := by
    intro style h
    obtain ⟨given, hgiven, h⟩ := exists_of_bind_eq_ok h
    obtain ⟨listed, -, h⟩ := exists_of_bind_eq_ok h
    obtain ⟨more, -, h⟩ := exists_of_bind_eq_ok h
    obtain rfl := Except.ok.inj h
    exact ⟨given, more, hgiven, rfl⟩
  -- of the output styles only those that exist lead on
  split at h
  · split at h
    · exact hrest _ h
    · cases h
  · cases h

/-- `renderPlan` has the load paths `(given ++ more).eraseDups`, whatever reads its settings. -/
theorem includePaths_of_renderPlan_eq {t : FileTree} {file : String} {ra : RenderArguments}
    {codec : Toml.Codec} {settings : Settings} {plan : RenderPlan ω}
    (h : renderPlan t file ra codec = .ok (settings, plan)) :
    ∃ given more, ra.includePaths.mapM (resolved t) = .ok given ∧
      plan.base.includePaths = (given ++ more).eraseDups := by
  unfold renderPlan at h
  obtain ⟨settings', -, h⟩ := exists_of_bind_eq_ok h
  obtain ⟨base, hbase, h⟩ := exists_of_bind_eq_ok h
  obtain rfl : _ = plan := congrArg Prod.snd (Except.ok.inj h)
  exact includePaths_of_baseOptions_eq hbase

/-- A session with the root that the graph command scans, and with the options of a render
command. -/
def GraphArguments.sessionSetup (a : GraphArguments) (t : FileTree) (plan : RenderPlan ω)
    (rest : SessionSetup ω) :
    SessionSetup ω :=
  { rest with
    root := Path.tidy (a.root.getD a.file), base := plan.base, deep := a.recursive
    extensions := stylesheetExtensions, tree := t }

/-- The graph command says how many files a change of the file rebuilds. A session for the same
root, with the same depth and the options of a render command that is given the same load paths,
starts and schedules that many renders for it, or more; and no more unless an import that the
command reports leads to the file when the load paths of the settings are looked through as well.
This holds for every codec (`env.codec`) that reads the settings. -/
theorem forecast_le_scheduled (env : Environment ω) (a : GraphArguments) (ra : RenderArguments)
    (rest : SessionSetup ω) {g : ImportGraph} {settings : Settings} {plan : RenderPlan ω}
    (hgraph : graphOf env.tree a = .ok (.ok g)) (hfile : env.tree.normalize a.file ∈ g.paths)
    (hgiven : ra.includePaths = a.includePaths)
    (hplan : renderPlan env.tree env.settingsFile ra env.codec = .ok (settings, plan)) :
    ∃ n m s, (runGraph env a).ending = .status 0 ∧ (runGraph env a).Forecasts n ∧
      ({ toSessionSetup := a.sessionSetup env.tree plan rest } : Session ω).start = (.ok (), s) ∧
      s.Schedules (env.tree.normalize a.file) m ∧ n ≤ m ∧
      (¬env.tree.LeadsAnew { loadPaths := plan.base.includePaths } g (env.tree.normalize a.file) →
        n = m) := by
  obtain ⟨hending, hforecasts⟩ := runGraph_of_graphOf_eq hgraph
  obtain ⟨given, hresolved, hscan⟩ := exists_scan_of_graphOf_eq hgraph
  obtain ⟨given', more, hresolved', hall⟩ := includePaths_of_renderPlan_eq hplan
  rw [hgiven, hresolved] at hresolved'
  obtain rfl : given = given' := Except.ok.inj hresolved'
  -- the scan of the forecast succeeded, so the one at the start of the session does
  have hscannable := FileTree.isScannable_of_scan_eq hscan
  obtain ⟨found, hfound⟩ := FileTree.exists_discover_of_scan_eq hscan
  obtain ⟨s, hstart⟩ :=
    Session.exists_start_eq (a.sessionSetup env.tree plan rest) hscannable hfound
  obtain ⟨g', hscan', -⟩ := Session.serves_moveAll _ hstart
  set request : ScanRequest :=
    { root := Path.tidy (a.root.getD a.file), includePaths := given, deep := a.recursive }
    with hrequest
  -- both scans differ only in the load paths of the settings, which come last
  have hsame : ({ toSessionSetup := a.sessionSetup env.tree plan rest } : Session ω).scanRequest =
      request.withMore more := by
    rw [ScanRequest.withMore, Session.scanRequest, GraphArguments.sessionSetup, ← hall]
  have hmore : env.tree.scan (request.withMore more) = .ok g' := by
    rw [← hsame]
    exact hscan'
  have hschedules :=
    Session.schedules_of_start _ hscan' hstart (FileTree.mem_paths_of_more hscan hmore hfile)
  obtain ⟨hle, heq⟩ := FileTree.length_renderTargets_of_more hscan hmore hfile
  refine ⟨_, _, s, hending, hforecasts, hstart, hschedules, hle, fun hnone => heq ?_⟩
  rw [hall] at hnone
  exact hnone

/-- The command for a partial below a root without a settings file. -/
def unconfigured : Environment Unit where
  tree := FileTree.mutualImports
  settingsFile := "/config.toml"
  renderer := fun _ => { outcome := fun _ => .ok [] }

/-- Without a settings file `renderPlan` succeeds, with no load paths. -/
theorem exists_renderPlan_unconfigured : ∃ settings plan,
    renderPlan (ω := Unit) unconfigured.tree unconfigured.settingsFile {} unconfigured.codec =
      .ok (settings, plan) ∧
      plan.base.includePaths = [] := by
  have hnone : unconfigured.tree.testExists unconfigured.settingsFile = .ok false := by cbv
  have hload : Settings.load unconfigured.tree unconfigured.settingsFile unconfigured.codec =
      .ok (.ofDocument []) := by
    rw [Settings.load, Settings.loadDocument, hnone]
    rfl
  unfold renderPlan
  rw [hload]
  exact ⟨_, _, rfl, rfl⟩

/-- Without load paths in the settings the forecast for `/_b.scss` is right. -/
theorem forecast_eq_scheduled_unconfigured :
    let a : GraphArguments := { file := "/_b.scss", root := some "/a.scss" }
    ∃ settings plan n s,
      renderPlan unconfigured.tree unconfigured.settingsFile {} unconfigured.codec =
        .ok (settings, plan) ∧
      (runGraph unconfigured a).Forecasts n ∧
      ({ toSessionSetup := a.sessionSetup unconfigured.tree plan failingSetup } :
        Session Unit).start = (.ok (), s) ∧
      s.Schedules "/_b.scss" n := by
  intro a
  obtain ⟨settings, plan, hplan, hpaths⟩ := exists_renderPlan_unconfigured
  obtain ⟨found, hfound⟩ := FileTree.exists_discover_mutualImports
  obtain ⟨s, hscan, hcomplete⟩ := FileTree.IsScannable.exists_scan_eq (r := { root := "/a.scss" })
    FileTree.isScannable_mutualImports hfound
  have hfile := (FileTree.mem_of_mem_closedSets_mutualImports hcomplete.isLeast.1).2
  have hnormalize : unconfigured.tree.normalize a.file = "/_b.scss" := by decide
  have hgraph : graphOf unconfigured.tree a = .ok (.ok s.graph.freeze) := by
    have hroot : Path.tidy (a.root.getD a.file) = "/a.scss" := by decide
    rw [graphOf, hroot, ← hscan]
    rfl
  obtain ⟨n, m, s, -, hforecasts, hstart, hschedules, -, heq⟩ :=
    forecast_le_scheduled unconfigured a {} failingSetup hgraph (hnormalize ▸ hfile) rfl hplan
  rw [hnormalize] at hschedules heq
  rw [hpaths] at heq
  obtain rfl := heq (FileTree.not_leadsAnew_loader hscan "/_b.scss")
  exact ⟨settings, plan, n, s, hplan, hforecasts, hstart, hschedules⟩

/-- The settings that give a load path. -/
def pathSettings : String := "[render]\ninclude_paths = [\"/l\"]\n"

/-- The file `/a.scss` imports a partial that stands in the load path of the settings. -/
def configured : Environment Unit where
  tree :=
    { entries :=
        [(["a.scss"], .file "@import '_v.scss';".toUTF8.toList), (["l"], .directory),
          (["l", "_v.scss"], .file []), (["config.toml"], .file pathSettings.toUTF8.toList)] }
  settingsFile := "/config.toml"
  renderer := fun _ => { outcome := fun _ => .ok [] }

/-- Whether a document gives `/l` as the only load path, and no other setting. -/
def givesPath : Except Toml.ReadError Toml.Table → Bool
  | .ok [(name, .table [(key, .array [.text path])])] =>
    name = "render" && key = "include_paths" && path = "/l"
  | _ => false

/-- `givesPath x` says what `x` is, so that a reading can be evaluated. -/
theorem eq_of_givesPath {x : Except Toml.ReadError Toml.Table} (h : givesPath x = true) :
    x = .ok [("render", .table [("include_paths", .array [.text "/l"])])] := by
  unfold givesPath at h
  split at h
  · simp only [Bool.and_eq_true, decide_eq_true_eq] at h
    obtain ⟨⟨rfl, rfl⟩, rfl⟩ := h
    rfl
  · cases h

/-- `pathSettings` is read as a document with the load path `/l`. -/
theorem read_pathSettings :
    Toml.read (Text.unifyLineBreaks pathSettings.toList) =
      .ok [("render", .table [("include_paths", .array [.text "/l"])])] :=
  eq_of_givesPath (by decide +kernel)

/-- With `pathSettings`, `renderPlan` succeeds with the load path `/l`. -/
theorem exists_renderPlan_configured : ∃ settings plan,
    renderPlan (ω := Unit) configured.tree configured.settingsFile {} configured.codec =
      .ok (settings, plan) ∧
      plan.base.includePaths = ["/l"] := by
  set settings :=
    Settings.ofDocument [("render", .table [("include_paths", .array [.text "/l"])])] with hsettings
  have hexists : configured.tree.testExists configured.settingsFile = .ok true := by cbv
  have hbytes : configured.tree.readBytes configured.settingsFile =
      .ok pathSettings.toUTF8.toList := by cbv
  have hdecode : Text.decodeStrict? pathSettings.toUTF8.toList = some pathSettings.toList := by
    decide +kernel
  have hload : Settings.load configured.tree configured.settingsFile configured.codec =
      .ok settings := by
    have hread : configured.codec.read (Text.unifyLineBreaks pathSettings.toList) =
        .ok [("render", .table [("include_paths", .array [.text "/l"])])] := read_pathSettings
    rw [Settings.load, Settings.loadDocument, hexists]
    simp only [hbytes, hdecode, hread]
    rfl
  have hstyle : textOr none settings .outputStyle = .text "expanded" := by rfl
  have hlisted : listed settings .includePaths = .ok [.text "/l"] := by rfl
  have hpath : loadPath configured.tree (.text "/l") = .ok "/l" := by cbv
  have hmore : [Toml.Value.text "/l"].mapM (loadPath configured.tree) = .ok ["/l"] := by
    rw [List.mapM_cons, hpath]
    rfl
  have hknown : "expanded" ∈ outputStyles := by decide
  obtain ⟨base, hbase, hpaths⟩ : ∃ base,
      baseOptions (ω := Unit) configured.tree settings {} = .ok base ∧
      base.includePaths = ["/l"] := by
    simp only [baseOptions, hstyle, hlisted, hknown, if_true, bind, Except.bind, hmore]
    exact ⟨_, rfl, by decide⟩
  have hplan : renderPlan configured.tree configured.settingsFile {} configured.codec =
      .ok (settings,
        { base, binary := textOr none settings .sassBinary
          deep := boolOr none settings .recursive }) := by
    rw [renderPlan, hload]
    simp only [bind, Except.bind, Except.mapError, hbase]
    rfl
  exact ⟨settings, _, hplan, hpaths⟩

/-- `/` can be scanned in the tree of `configured`. -/
theorem isScannable_configured : configured.tree.IsScannable (configured.tree.absolute "/") where
  pathExists := by cbv
  isReadable := by cbv
  directory_isReadable := by cbv
  directory_isPassable := by cbv

/-- What `/a.scss` imports is found in the load path only, and `/l/_v.scss` imports nothing. -/
theorem imports_configured_iff {includePaths : List String} {p q : String}
    (hp : p = "/a.scss" ∨ p = "/l/_v.scss") :
    configured.tree.Imports { loadPaths := includePaths } p q ↔
      p = "/a.scss" ∧ Loader.resolve? { loadPaths := includePaths } configured.tree "/a.scss"
        "_v.scss" = some q := by
  rcases hp with rfl | rfl
  · obtain ⟨source, hsource, htargets⟩ : ∃ source, configured.tree.readText "/a.scss" = .ok source ∧
        Stylesheet.imports (dialectOf "/a.scss") source = ["_v.scss"] := by
      refine ⟨"@import '_v.scss';".toList, ?_, ?_⟩
      · cbv
      · decide +kernel
    simp [FileTree.Imports, hsource, htargets]
  · have hsource : configured.tree.readText "/l/_v.scss" = .ok [] := by cbv
    have htargets : Stylesheet.imports (dialectOf "/l/_v.scss") [] = [] := by decide +kernel
    simp [FileTree.Imports, hsource, htargets]

/-- `_v.scss` is resolved to `/l/_v.scss` with the load path `/l`, and to nothing without it. -/
theorem resolve?_configured :
    Loader.resolve? { loadPaths := [] } configured.tree "/a.scss" "_v.scss" = none ∧
      Loader.resolve? { loadPaths := ["/l"] } configured.tree "/a.scss" "_v.scss" =
        some "/l/_v.scss" := by
  have hhere : Loader.candidates { loadPaths := [] } configured.tree "/a.scss" "_v.scss" =
    ["/_v.scss"] := by
    decide
  have hall : Loader.candidates { loadPaths := ["/l"] } configured.tree "/a.scss" "_v.scss" =
      ["/_v.scss", "/l/_v.scss"] := by decide
  have hmissing : configured.tree.isFile "/_v.scss" = false := by cbv
  have hfile : configured.tree.isFile "/l/_v.scss" = true := by cbv
  constructor
  · rw [Loader.resolve?, hhere]
    simp [hmissing]
  · rw [Loader.resolve?, hall]
    simp [hmissing, hfile]

/-- The search below `/` succeeds; it finds `/a.scss` and, if it is deep, `/l/_v.scss`. -/
theorem exists_discover_configured (deep : Bool) :
    ∃ found, configured.tree.discover
        (configured.tree.directoryToScan (configured.tree.absolute "/")) deep
        stylesheetExtensions = .ok found ∧
      ∀ p, p ∈ found ↔ p = "/a.scss" ∨ p = "/l/_v.scss" ∧ deep = true := by
  have hopen : configured.tree.IsUnrestricted := by decide
  obtain ⟨found, hfound, hmem⟩ :=
    hopen.exists_discover_slash (by decide) "/" (by cbv) deep
  have hbelow : configured.tree.filesBelow "/" [] deep stylesheetExtensions =
      if deep = true then ["/a.scss", "/l/_v.scss"] else ["/a.scss"] := by
    cases deep <;> decide
  refine ⟨found, hfound, fun p => ?_⟩
  rw [hmem, hbelow]
  cases deep <;> simp

/-- Every scan of `/` succeeds, with whatever load paths. -/
theorem exists_scan_configured (includePaths : List String) (deep : Bool) :
    ∃ g, configured.tree.scan { root := "/", includePaths, deep } = .ok g := by
  obtain ⟨found, hfound, -⟩ := exists_discover_configured deep
  obtain ⟨s, hscan, -⟩ :=
    FileTree.IsScannable.exists_scan_eq (r := { root := "/", includePaths, deep })
      isScannable_configured hfound
  exact ⟨_, hscan⟩

/-- Below `/` there are two stylesheets, one of them directly. -/
theorem isDiscovered_configured_iff {deep : Bool} {p : String} :
    configured.tree.IsDiscovered
        (configured.tree.directoryToScan (configured.tree.absolute "/")) deep
        stylesheetExtensions p ↔ p = "/a.scss" ∨ p = "/l/_v.scss" ∧ deep = true := by
  obtain ⟨found, hfound, hmem⟩ := exists_discover_configured deep
  rw [FileTree.isDiscovered_iff_mem hfound, hmem]

/-- The graph holds `/a.scss`, and `/l/_v.scss` if directories below the root are scanned, or else
if the import is resolved. -/
theorem mem_paths_configured_iff {includePaths : List String} {deep : Bool}
    {g : ImportGraph} {p : String}
    (hscan : configured.tree.scan { root := "/", includePaths, deep } = .ok g)
    (hresolve : ∀ q, Loader.resolve? { loadPaths := includePaths } configured.tree "/a.scss"
      "_v.scss" = some q → q = "/l/_v.scss") :
    p ∈ g.paths ↔ p = "/a.scss" ∨ p = "/l/_v.scss" ∧ (deep = true ∨
      Loader.resolve? { loadPaths := includePaths } configured.tree "/a.scss" "_v.scss" =
        some "/l/_v.scss") := by
  have hfile : configured.tree.isFile (configured.tree.absolute "/") = false := by cbv
  have hleast := FileTree.isLeast_paths_of_scan_eq hscan
  simp only [FileTree.closedSets, isDiscovered_configured_iff, hfile] at hleast
  obtain ⟨hdiscover, -, himports⟩ := hleast.1
  constructor
  · refine fun hp => hleast.2 (show {p | p = "/a.scss" ∨ p = "/l/_v.scss" ∧ _} ∈ _ from
      ⟨fun p hp => hp.imp_right (And.imp_right .inl), by simp, fun p hp q hq => ?_⟩) hp
    rw [imports_configured_iff (hp.imp_right And.left)] at hq
    obtain rfl := hresolve q hq.2
    exact .inr ⟨rfl, .inr hq.2⟩
  · rintro (rfl | ⟨rfl, hdeep | hfound⟩)
    · exact hdiscover _ (.inl rfl)
    · exact hdiscover _ (.inr ⟨rfl, hdeep⟩)
    · refine himports _ (hdiscover _ (.inl rfl)) _ ?_
      exact (imports_configured_iff (.inl rfl)).mpr ⟨rfl, hfound⟩

/-- A change of `/l/_v.scss` renders `/a.scss` if the import is resolved. -/
theorem mem_renderTargets_configured_iff {includePaths : List String} {g : ImportGraph} {e : String}
    (hscan : configured.tree.scan { root := "/", includePaths } = .ok g)
    (hresolve : ∀ q, Loader.resolve? { loadPaths := includePaths } configured.tree "/a.scss"
      "_v.scss" = some q → q = "/l/_v.scss") :
    e ∈ g.renderTargets "/l/_v.scss" ↔ e = "/a.scss" ∧
      Loader.resolve? { loadPaths := includePaths } configured.tree "/a.scss" "_v.scss" =
        some "/l/_v.scss" := by
  have hpaths := fun p => mem_paths_configured_iff (p := p) hscan hresolve
  have hwhole : Path.isPartial "/a.scss" = false := by decide
  have hpartial : Path.isPartial "/l/_v.scss" = true := by decide
  rw [FileTree.mem_renderTargets_iff_of_scan_eq hscan ((hpaths _).mpr (.inr ⟨rfl, .inl rfl⟩)),
    hpaths]
  constructor
  · rintro ⟨rfl | ⟨rfl, -⟩, hnot, hwalk⟩
    · rcases Relation.ReflTransGen.cases_head hwalk with heq | ⟨q, himports, -⟩
      · exact absurd heq (by decide)
      · obtain ⟨-, hfound⟩ := (imports_configured_iff (.inl rfl)).mp himports
        exact ⟨rfl, hresolve q hfound ▸ hfound⟩
    · rw [hpartial] at hnot
      cases hnot
  · rintro ⟨rfl, hfound⟩
    exact ⟨.inl rfl, hwhole, .single ((imports_configured_iff (.inl rfl)).mpr ⟨rfl, hfound⟩)⟩

/-- Without the load path, the graph of `/` leads from `/l/_v.scss` to no file. -/
theorem renderTargets_configured_nil {g : ImportGraph}
    (hscan : configured.tree.scan { root := "/" } = .ok g) :
    "/l/_v.scss" ∈ g.paths ∧ g.renderTargets "/l/_v.scss" = [] := by
  obtain ⟨hnone, -⟩ := resolve?_configured
  have hresolve : ∀ q,
      Loader.resolve? { loadPaths := [] } configured.tree "/a.scss" "_v.scss" = some q →
      q = "/l/_v.scss" := fun q hq => by cases hnone.symm.trans hq
  refine ⟨(mem_paths_configured_iff hscan hresolve).mpr (.inr ⟨rfl, .inl rfl⟩),
    List.eq_nil_iff_forall_not_mem.mpr fun e he => ?_⟩
  have hfound := ((mem_renderTargets_configured_iff hscan hresolve).mp he).2
  cases hnone.symm.trans hfound

/-- With the load path `/l`, the graph of `/` leads from `/l/_v.scss` to `/a.scss` only. -/
theorem renderTargets_configured_singleton {g : ImportGraph}
    (hscan : configured.tree.scan { root := "/", includePaths := ["/l"] } = .ok g) :
    "/l/_v.scss" ∈ g.paths ∧ g.renderTargets "/l/_v.scss" = ["/a.scss"] := by
  obtain ⟨-, hsome⟩ := resolve?_configured
  have hresolve : ∀ q,
      Loader.resolve? { loadPaths := ["/l"] } configured.tree "/a.scss" "_v.scss" = some q →
      q = "/l/_v.scss" := fun q hq => Option.some.inj (hq.symm.trans hsome)
  refine ⟨(mem_paths_configured_iff hscan hresolve).mpr (.inr ⟨rfl, .inl rfl⟩),
    List.perm_singleton.mp ((List.perm_ext_iff_of_nodup (FileTree.nodup_renderTargets hscan _)
      (List.nodup_singleton _)).mpr fun e => ?_)⟩
  rw [mem_renderTargets_configured_iff hscan hresolve, List.mem_singleton]
  exact and_iff_left hsome

/-- The command says that a change of `/l/_v.scss` rebuilds nothing. The session finds the import in
the load path of the settings, and schedules one render. -/
theorem forecast_lt_scheduled_configured :
    let a : GraphArguments := { file := "/l/_v.scss", root := some "/" }
    ∃ settings plan g s,
      renderPlan configured.tree configured.settingsFile {} configured.codec =
        .ok (settings, plan) ∧
      graphOf configured.tree a = .ok (.ok g) ∧ configured.tree.normalize a.file ∈ g.paths ∧
      (runGraph configured a).Forecasts 0 ∧
      ({ toSessionSetup := a.sessionSetup configured.tree plan failingSetup } :
        Session Unit).start = (.ok (), s) ∧
      s.Schedules (configured.tree.normalize a.file) 1 := by
  intro a
  obtain ⟨settings, plan, hplan, hplanPaths⟩ := exists_renderPlan_configured
  have hnormalize : configured.tree.normalize a.file = "/l/_v.scss" := by decide
  have hroot : Path.tidy (a.root.getD a.file) = "/" := by decide
  -- the graph of the command
  obtain ⟨g, hscan⟩ := exists_scan_configured [] true
  have hgraph : graphOf configured.tree a = .ok (.ok g) := by
    rw [graphOf, hroot, ← hscan]
    rfl
  obtain ⟨hfile, htargets⟩ := renderTargets_configured_nil hscan
  have hforecasts := (runGraph_of_graphOf_eq hgraph).2
  rw [hnormalize, htargets] at hforecasts
  -- the graph of the session
  obtain ⟨g', hscan'⟩ := exists_scan_configured ["/l"] true
  obtain ⟨hfile', htargets'⟩ := renderTargets_configured_singleton hscan'
  have hrequest :
      ({ toSessionSetup := a.sessionSetup configured.tree plan failingSetup } :
        Session Unit).scanRequest = { root := "/", includePaths := ["/l"] } := by
    rw [Session.scanRequest, GraphArguments.sessionSetup, hplanPaths, hroot]
  have hscannable : configured.tree.IsScannable
      (configured.tree.absolute (a.sessionSetup configured.tree plan failingSetup).root) := by
    rw [GraphArguments.sessionSetup, hroot]
    exact isScannable_configured
  obtain ⟨found, hfound, -⟩ := exists_discover_configured true
  obtain ⟨s, hstart⟩ :=
    Session.exists_start_eq (a.sessionSetup configured.tree plan failingSetup) hscannable
      (by rw [GraphArguments.sessionSetup, hroot]; exact hfound)
  have hschedules := Session.schedules_of_start _ (hrequest ▸ hscan') hstart hfile'
  rw [htargets'] at hschedules
  rw [hnormalize]
  exact ⟨settings, plan, _, s, hplan, hgraph, hfile, hforecasts, hstart, hschedules⟩

end CommandLine

end Restyle
