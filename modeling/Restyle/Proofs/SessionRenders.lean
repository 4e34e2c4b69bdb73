import Mathlib
import Restyle.Proofs.EventMatching
import Restyle.Proofs.RebuildSet
import Restyle.Proofs.RenderQueue
import Restyle.Proofs.WatcherSteps
import Restyle.Session

/-! # The renders of a session
What a session renders depends on its import graph and on the events only. In whatever order the
watcher, the session and the renderer take their steps, the calls of the renderer are, event by
event, the renders of what each event affects (`calls_of_start`). The invariant of the steps is
`Session.Tracks`: the calls, the renders that are ready, and the renders that follow from the
signals in line are, in this order, the renders of all events so far. -/

namespace Restyle

variable {ω : Type}

/-! ## What is affected -/

/-- The path that an event says is changed, as it is met then: the destination of a move. -/
def FileEvent.changedPath? (e : FileEvent) : Option Sighting :=
  if e.isDirectory then none
  else
    match e.action with
    | .modified | .created => some e.path
    | .moved dest => some dest
    | .deleted | .touched => none

/-- The files to render for an event, when the watched files are those of `watch`. -/
def FileEvent.targets (watch : WatchSetup) (g : ImportGraph) (e : FileEvent) : List String :=
  (e.changedPath?.bind watch.match?).toList.flatMap g.renderTargets

/-- The files to render for a delivery. -/
def Delivery.targets (g : ImportGraph) (d : Delivery) : List String :=
  if d.kind = .changed then g.renderTargets d.path else []

/-- The files to render for a signal. -/
def Signal.targets (g : ImportGraph) : Signal → List String
  | .delivery d => d.targets g
  | .failure _ => []

/-- What `w.deliveriesFor` the changes of an event affects is `e.targets w.toWatchSetup g`. -/
theorem flatMap_targets_deliveriesFor (w : Watcher) (g : ImportGraph) (e : FileEvent) :
    (e.changes.flatMap fun c => w.deliveriesFor c.1 c.2).flatMap (Delivery.targets g) =
      e.targets w.toWatchSetup g := by
  have hremoved : ∀ path, (w.deliveriesFor path .removed).flatMap (Delivery.targets g) = [] := by
    intro path
    unfold Watcher.deliveriesFor
    cases w.match? path <;> simp [Delivery.targets]
  have hchanged : ∀ path, (w.deliveriesFor path .changed).flatMap (Delivery.targets g) =
      (w.match? path).toList.flatMap g.renderTargets := by
    intro path
    unfold Watcher.deliveriesFor
    cases w.match? path <;> simp [Delivery.targets]
  unfold FileEvent.changes FileEvent.targets FileEvent.changedPath?
  split
  · rfl
  · cases e.action <;> simp [hremoved, hchanged]

/-! ## Steps -/

/-- Something that may happen to a session while it runs. -/
inductive SessionStep (ω : Type) where
  /-- The watcher takes an event of the operating system. -/
  | event (e : FileEvent)
  /-- The watcher is told of a failure. -/
  | failure (f : Failure)
  /-- The watcher looks at its threads. -/
  | check
  /-- The observer's main thread dies. -/
  | killObserver
  /-- The session takes up the signal that has waited for longest. -/
  | takeNext
  /-- The render that has been ready for longest starts. -/
  | startNext
  /-- The session takes up every signal, and every render that is ready starts. -/
  | catchUp
  /-- A waiting render ends. -/
  | release (call : Nat) (outcome : RenderOptions ω → RenderOutcome)
  /-- From now on the renderer behaves in another way. -/
  | behave (r : Renderer ω)

/-- The files to render for a step: those of an event, and none for anything else. -/
def SessionStep.targets (watch : WatchSetup) (g : ImportGraph) : SessionStep ω → List String
  | .event e => e.targets watch g
  | _ => []

namespace Session

/-- Carry out one step. -/
def follow (s : Session ω) : SessionStep ω → Session ω
  | .event e => s.hear fun w => w.dispatch e
  | .failure f => s.hear fun w => w.report f
  | .check => s.hear fun w => w.check.2
  | .killObserver => s.hear fun w => (w.step .killObserver).2
  | .takeNext => s.takeNext
  | .startNext => s.startNext
  | .catchUp => s.catchUp
  | .release call outcome => (s.release call outcome).2
  | .behave r => { s with renderer := r }

/-- Carry out steps in order. -/
def followAll (s : Session ω) (steps : List (SessionStep ω)) : Session ω := steps.foldl follow s

/-! ## The invariant -/

variable {s : Session ω} {watch : WatchSetup} {project : Project ω}
  {renders more : List (RenderOptions ω)} {targets : List String}

/-- The session runs for a project, with the watched files of `watch`; `renders` are the calls of
the renderer and then the renders that are ready. -/
def Runs (watch : WatchSetup) (project : Project ω) (renders : List (RenderOptions ω))
    (s : Session ω) : Prop :=
  ∃ parts, s.running = some parts ∧ parts.watcher.toWatchSetup = watch ∧
    parts.dispatcher.toProject = project ∧ parts.dispatcher.renders = renders

/-- What is called, what is ready and what follows from the signals in line are the renders of
`targets`. -/
def Tracks (watch : WatchSetup) (project : Project ω) (targets : List String)
    (s : Session ω) : Prop :=
  ∃ renders, s.Runs watch project renders ∧
    renders ++ (s.inbox.flatMap (Signal.targets project.graph)).map project.optionsFor =
      targets.map project.optionsFor

/-- `withDispatcher` leaves the inbox as it is. -/
theorem inbox_withDispatcher (s : Session ω) (act : Dispatcher ω → Dispatcher ω) :
    (s.withDispatcher act).inbox = s.inbox := by
  unfold withDispatcher
  split <;> rfl

/-- `Runs` follows the dispatcher: renders that it is asked for are added. -/
theorem Runs.withDispatcher (h : s.Runs watch project renders) {act : Dispatcher ω → Dispatcher ω}
    (hact : ∀ d, d.toProject = project →
      (act d).toProject = project ∧ (act d).renders = d.renders ++ more) :
    (s.withDispatcher act).Runs watch project (renders ++ more) := by
  obtain ⟨parts, hrunning, hwatch, hproject, hrenders⟩ := h
  obtain ⟨hproject', hrenders'⟩ := hact { parts.dispatcher with notices := s.notices } hproject
  unfold Session.withDispatcher
  rw [hrunning]
  refine ⟨_, rfl, hwatch, hproject', hrenders'.trans ?_⟩
  rw [← hrenders]
  rfl

/-- `Runs` is kept by what leaves project and `renders` as they are. -/
theorem Runs.withDispatcher_of_eq (h : s.Runs watch project renders)
    {act : Dispatcher ω → Dispatcher ω}
    (hact : ∀ d, (act d).toProject = d.toProject ∧ (act d).renders = d.renders) :
    (s.withDispatcher act).Runs watch project renders := by
  have hnone : (s.withDispatcher act).Runs watch project (renders ++ []) :=
    h.withDispatcher fun d hd => ⟨(hact d).1.trans hd, by rw [(hact d).2, List.append_nil]⟩
  rwa [List.append_nil] at hnone

/-- `Runs` is kept by a notice. -/
theorem Runs.say (h : s.Runs watch project renders) (n : Notice) :
    (s.say n).Runs watch project renders := h

/-- `s.take` of a delivered change is `d.schedule path` in the dispatcher. -/
theorem take_changed {parts : Running ω} (hrunning : s.running = some parts) (path : String)
    (time : Nat) :
    s.take (.delivery ⟨path, .changed, time⟩) = s.withDispatcher fun d => d.schedule path := by
  simp [take, handle, hrunning]

/-- `Runs` grows by `d.targets` of the delivery that is taken up. -/
theorem Runs.takeDelivery (h : s.Runs watch project renders) (d : Delivery) :
    (s.take (.delivery d)).Runs watch project
      (renders ++ (d.targets project.graph).map project.optionsFor) := by
  have hsay : ∀ n, (s.say n).Runs watch project (renders ++ [].map project.optionsFor) := by
    intro n
    rw [List.map_nil, List.append_nil]
    exact h.say n
  obtain ⟨path, kind, time⟩ := d
  cases kind with
  | error => exact hsay _
  | removed => exact hsay _
  | changed =>
    obtain ⟨parts, hrunning, hrest⟩ := h
    rw [take_changed hrunning path time]
    refine Runs.withDispatcher ⟨parts, hrunning, hrest⟩ ?_
    rintro dispatcher rfl
    exact ⟨dispatcher.schedule_toProject path, dispatcher.renders_schedule path⟩

/-- `Runs` grows by `signal.targets` of the signal that is taken up. -/
theorem Runs.take (h : s.Runs watch project renders) (signal : Signal) :
    (s.take signal).Runs watch project
      (renders ++ (signal.targets project.graph).map project.optionsFor) := by
  cases signal with
  | delivery d => exact h.takeDelivery d
  | failure f =>
    have hnone : renders ++ ((Signal.failure f).targets project.graph).map project.optionsFor =
        renders := List.append_nil _
    rw [hnone]
    exact h.say _

/-- `s.take signal` leaves the inbox as it is. -/
theorem inbox_take (s : Session ω) (signal : Signal) : (s.take signal).inbox = s.inbox := by
  cases signal with
  | failure f => rfl
  | delivery d =>
    obtain ⟨path, kind, time⟩ := d
    cases kind with
    | error => rfl
    | removed => rfl
    | changed =>
      cases hrunning : s.running with
      | none => simp [take, handle, hrunning]
      | some parts => rw [take_changed hrunning path time, inbox_withDispatcher]

/-- `Runs` grows by the targets of all signals that are taken up. -/
theorem Runs.foldl_take (h : s.Runs watch project renders) (signals : List Signal) :
    (signals.foldl Session.take s).Runs watch project
      (renders ++ (signals.flatMap (Signal.targets project.graph)).map project.optionsFor) := by
  induction signals generalizing s renders with
  | nil =>
    rw [List.flatMap_nil, List.map_nil, List.append_nil]
    exact h
  | cons signal signals ih =>
    rw [List.flatMap_cons, List.map_append, ← List.append_assoc]
    exact ih (h.take signal)

/-- Taking up signals leaves the inbox as it is. -/
theorem inbox_foldl_take (signals : List Signal) (s : Session ω) :
    (signals.foldl take s).inbox = s.inbox := by
  induction signals generalizing s with
  | nil => rfl
  | cons signal signals ih => rw [List.foldl_cons, ih, inbox_take]

/-! ## Steps keep it -/

/-- `takeNext` keeps `Tracks`: what follows from the first signal is no longer in line but
`.ready`. -/
theorem Tracks.takeNext (h : s.Tracks watch project targets) :
    s.takeNext.Tracks watch project targets := by
  obtain ⟨renders, hruns, htargets⟩ := h
  unfold Session.takeNext
  cases hinbox : s.inbox with
  | nil => exact ⟨renders, hruns, htargets⟩
  | cons signal rest =>
    -- what follows from the first signal is no longer in line but ready
    have htaken : ({ s with inbox := rest } : Session ω).Runs watch project renders := hruns
    refine ⟨_, htaken.take signal, ?_⟩
    rw [inbox_take, List.append_assoc, ← List.map_append, ← List.flatMap_cons, ← hinbox]
    exact htargets

/-- `Tracks` is kept by what leaves project and `renders` as they are. -/
theorem Tracks.withDispatcher_of_eq (h : s.Tracks watch project targets)
    {act : Dispatcher ω → Dispatcher ω}
    (hact : ∀ d, (act d).toProject = d.toProject ∧ (act d).renders = d.renders) :
    (s.withDispatcher act).Tracks watch project targets := by
  obtain ⟨renders, hruns, htargets⟩ := h
  refine ⟨renders, hruns.withDispatcher_of_eq hact, ?_⟩
  rw [inbox_withDispatcher]
  exact htargets

/-- After `catchUp` the inbox is empty, nothing is `.ready`, and the calls are the renders and what
follows from the signals. -/
theorem Runs.catchUp (h : s.Runs watch project renders) :
    let all := renders ++ (s.inbox.flatMap (Signal.targets project.graph)).map project.optionsFor
    s.catchUp.Runs watch project all ∧ s.catchUp.inbox = [] ∧ s.catchUp.calls = all := by
  intro all
  set taken := s.inbox.foldl Session.take { s with inbox := [] } with htaken
  have hemptied : ({ s with inbox := [] } : Session ω).Runs watch project renders := h
  have hruns : taken.Runs watch project all := hemptied.foldl_take s.inbox
  have hinbox : taken.inbox = [] := inbox_foldl_take s.inbox _
  refine ⟨hruns.withDispatcher_of_eq fun d =>
      ⟨(d.settle_eq taken.renderer).1, d.renders_settle taken.renderer⟩,
    (inbox_withDispatcher taken _).trans hinbox, ?_⟩
  -- nothing is ready any more, so that all renders are calls
  obtain ⟨parts, hrunning, -, -, hrenders⟩ := hruns
  have hcalls := ({ parts.dispatcher with notices := taken.notices } : Dispatcher ω).settle_eq
    taken.renderer
  show taken.settle.calls = _
  unfold Session.settle Session.withDispatcher Session.calls
  simp only [hrunning]
  rw [hcalls.2.1, ← hrenders]
  rfl

/-- After `catchUp` the calls are `targets.map project.optionsFor`. -/
theorem Tracks.catchUp (h : s.Tracks watch project targets) :
    s.catchUp.Tracks watch project targets ∧ s.catchUp.calls = targets.map project.optionsFor := by
  obtain ⟨renders, hruns, htargets⟩ := h
  obtain ⟨hruns', hinbox, hcalls⟩ := hruns.catchUp
  rw [htargets] at hruns' hcalls
  refine ⟨⟨_, hruns', ?_⟩, hcalls⟩
  rw [hinbox, List.flatMap_nil, List.map_nil, List.append_nil]

/-- `Tracks` grows by the targets of what the watcher delivers. -/
theorem Tracks.hear (h : s.Tracks watch project targets) {act : Watcher → Watcher}
    {later : List String}
    (hact : ∀ w, w.toWatchSetup = watch → (act w).toWatchSetup = watch ∧
      ∃ new, (act w).deliveries = w.deliveries ++ new ∧
        new.flatMap (Delivery.targets project.graph) = later) :
    (s.hear act).Tracks watch project (targets ++ later) := by
  obtain ⟨renders, ⟨parts, hrunning, hwatch, hproject, hrenders⟩, htargets⟩ := h
  obtain ⟨hwatch', new, hdeliveries, hnew⟩ := hact parts.watcher hwatch
  unfold Session.hear
  rw [hrunning]
  refine ⟨renders, ⟨_, rfl, hwatch', hproject, hrenders⟩, ?_⟩
  simp only
  rw [hdeliveries, List.drop_left]
  -- the new signals go to the end of the line, and failures ask for nothing
  have hdelivered : (new.map Signal.delivery).flatMap (Signal.targets project.graph) = later := by
    rw [← hnew, List.flatMap_map]
    rfl
  have hfailed : ∀ failures : List Failure,
      (failures.map Signal.failure).flatMap (Signal.targets project.graph) = [] := by
    intro failures
    rw [List.flatMap_map]
    exact List.flatMap_eq_nil_iff.mpr fun f _ => rfl
  rw [List.flatMap_append, List.flatMap_append, hdelivered, hfailed, List.append_nil,
    List.map_append, List.map_append, ← List.append_assoc, htargets]

/-- `Tracks` is kept by what the watcher does without delivering anything. -/
theorem Tracks.hear_of_keepsWindows (h : s.Tracks watch project targets) {act : Watcher → Watcher}
    (hact : ∀ w, Watcher.KeepsWindows w (act w)) : (s.hear act).Tracks watch project targets := by
  have hnothing : (s.hear act).Tracks watch project (targets ++ []) := by
    refine h.hear fun w hw => ⟨(hact w).setup_eq.trans hw, [], ?_, rfl⟩
    rw [(hact w).deliveries_eq, List.append_nil]
  rwa [List.append_nil] at hnothing

/-- `Tracks` is kept by `release`, whether the render succeeds or fails. -/
theorem Tracks.release (h : s.Tracks watch project targets) (call : Nat)
    (outcome : RenderOptions ω → RenderOutcome) :
    (s.release call outcome).2.Tracks watch project targets := by
  unfold Session.release
  split
  · exact h
  · exact h.withDispatcher_of_eq fun d => d.release_eq call outcome

/-- `Tracks` grows by `step.targets watch project.graph`, behind all targets before, and by nothing
else. -/
theorem Tracks.follow (hplain : Watcher.IsPlain watch) (h : s.Tracks watch project targets)
    (step : SessionStep ω) :
    (s.follow step).Tracks watch project (targets ++ step.targets watch project.graph) := by
  have hnone : ∀ v : Session ω, v.Tracks watch project targets →
      v.Tracks watch project (targets ++ []) := fun v hv => (List.append_nil targets).symm ▸ hv
  cases step with
  | event e =>
    refine h.hear fun w hw => ?_
    obtain ⟨hsetup, hdeliveries⟩ := Watcher.dispatch_of_isPlain (hw ▸ hplain) e
    refine ⟨hsetup.trans hw, _, hdeliveries, ?_⟩
    rw [flatMap_targets_deliveriesFor, hw]
    rfl
  | failure f =>
    exact hnone _ (h.hear_of_keepsWindows fun w => Watcher.keepsWindows_report w f)
  | check => exact hnone _ (h.hear_of_keepsWindows Watcher.keepsWindows_check)
  | killObserver =>
    exact hnone _ (h.hear_of_keepsWindows fun w => ⟨rfl, rfl, rfl, rfl, rfl, rfl, rfl⟩)
  | takeNext => exact hnone _ h.takeNext
  | startNext => exact hnone _ (h.withDispatcher_of_eq fun d => d.startNext_eq s.renderer)
  | catchUp => exact hnone _ h.catchUp.1
  | release call outcome => exact hnone _ (h.release call outcome)
  | behave r => exact hnone _ h

/-- `Tracks` grows by the targets of the steps, in their order. -/
theorem Tracks.followAll (hplain : Watcher.IsPlain watch) (h : s.Tracks watch project targets)
    (steps : List (SessionStep ω)) :
    (s.followAll steps).Tracks watch project
      (targets ++ steps.flatMap (SessionStep.targets watch project.graph)) := by
  induction steps generalizing s targets with
  | nil =>
    rw [List.flatMap_nil, List.append_nil]
    exact h
  | cons step steps ih =>
    rw [List.flatMap_cons, ← List.append_assoc]
    exact ih (h.follow hplain step)

/-- `s.calls <+: targets.map project.optionsFor`. -/
theorem Tracks.calls_prefix (h : s.Tracks watch project targets) :
    s.calls <+: targets.map project.optionsFor := by
  obtain ⟨renders, ⟨parts, hrunning, -, -, hrenders⟩, htargets⟩ := h
  have hcalls : s.calls = parts.dispatcher.calls := by simp [calls, hrunning]
  rw [hcalls, ← htargets, ← hrenders, Dispatcher.renders, List.append_assoc]
  exact List.prefix_append _ _

/-! ## Started sessions -/

/-- No signal waits and no render is ready: at most there are renders that wait to be released. -/
def IsIdle (s : Session ω) : Prop :=
  s.inbox = [] ∧ ∀ parts, s.running = some parts →
    ∀ task ∈ parts.dispatcher.tasks, task.state ≠ .ready

/-- `s.calls = targets.map project.optionsFor` for a session that `IsIdle`. -/
theorem Tracks.calls_of_isIdle (h : s.Tracks watch project targets) (hidle : s.IsIdle) :
    s.calls = targets.map project.optionsFor := by
  obtain ⟨renders, ⟨parts, hrunning, -, -, hrenders⟩, htargets⟩ := h
  have hcalls : s.calls = parts.dispatcher.calls := by simp [calls, hrunning]
  have hready : Dispatcher.readyAmong parts.dispatcher.tasks = [] := by
    rw [Dispatcher.readyAmong, List.filter_eq_nil_iff.mpr, List.map_nil]
    intro task htask
    simpa using hidle.2 parts hrunning task htask
  rw [hidle.1, List.flatMap_nil, List.map_nil, List.append_nil] at htargets
  rw [hcalls, ← htargets, ← hrenders, Dispatcher.renders, hready, List.append_nil]

/-- A session starts, `.ok ()`, on a root that can be scanned, if the search below it succeeds. -/
theorem exists_start_eq (setup : SessionSetup ω) {found : List String}
    (h : setup.tree.IsScannable (setup.tree.absolute setup.root))
    (hfound : setup.tree.discover
      (setup.tree.directoryToScan (setup.tree.absolute setup.root)) setup.deep
      setup.extensions = .ok found) :
    ∃ s, ({ toSessionSetup := setup } : Session ω).start = (.ok (), s) := by
  have hscan := FileTree.IsScannable.scanAll_eq
    (r := ({ toSessionSetup := setup } : Session ω).scanRequest) h hfound
  unfold start
  simp only
  rw [hscan]
  exact ⟨_, rfl⟩

/-- A session that has started `Tracks` no targets, and its graph is the scanned one. -/
theorem tracks_of_start (setup : SessionSetup ω)
    (hstart : ({ toSessionSetup := setup } : Session ω).start = (.ok (), s)) :
    ∃ g, setup.tree.scan ({ toSessionSetup := setup } : Session ω).scanRequest = .ok g ∧
      s.Tracks (WatchSetup.make setup.tree g.paths setup.window)
        (setup.toCompileRequest.project setup.tree g) [] := by
  unfold start at hstart
  split at hstart
  · cases hstart
  · cases hstart
  · next scan hscan =>
    refine ⟨scan.graph.freeze, FileTree.scan_eq_of_scanAll_eq hscan, ?_⟩
    obtain rfl : _ = s := congrArg Prod.snd hstart
    refine (Tracks.hear_of_keepsWindows ?_ fun w => Watcher.keepsWindows_start w none).catchUp.1
    refine ⟨[], ⟨_, rfl, rfl, ?_, rfl⟩, rfl⟩
    dsimp only

end Session

/-! ## What is rendered -/

variable {t : FileTree} {r : ScanRequest} {g : ImportGraph}

/-- `match?` names every file of the scanned graph for its own path, in whatever tree it is met. -/
theorem match?_make_of_scan_eq (hscan : t.scan r = .ok g) (window : Int) {p : String}
    (hp : p ∈ g.paths) (now : FileTree) :
    (WatchSetup.make t g.paths window).match? { path := p, tree := now } = some p := by
  have hnormalize : t.normalize p = p :=
    (FileTree.isCanonical_of_scan_eq hscan hp).normalize_eq_self _
  have hmem : t.normalize p ∈ g.paths.map t.normalize := List.mem_map_of_mem hp
  rw [WatchSetup.match?_of_mem (WatchSetup.make t g.paths window) { path := p, tree := now } hmem]
  exact congrArg some hnormalize

/-- `FileEvent.targets` of a modification of a file of the graph are `g.renderTargets` of the
file. -/
theorem targets_of_modified (hscan : t.scan r = .ok g) (window : Int) {p : String}
    (hp : p ∈ g.paths) (now : FileTree) :
    FileEvent.targets (WatchSetup.make t g.paths window) g
      { action := .modified, path := { path := p, tree := now } } = g.renderTargets p := by
  have hmatch := match?_make_of_scan_eq hscan window hp now
  simp [FileEvent.targets, FileEvent.changedPath?, hmatch]

/-- The targets of an event are canonical paths. -/
theorem isCanonical_of_mem_targets (hscan : t.scan r = .ok g) {window : Int} {e : FileEvent}
    {target : String} (h : target ∈ e.targets (WatchSetup.make t g.paths window) g) :
    Path.IsCanonical target := by
  obtain ⟨file, hfile, htarget⟩ := List.mem_flatMap.mp h
  obtain ⟨path, -, hmatch⟩ := Option.bind_eq_some_iff.mp (Option.mem_toList.mp hfile)
  obtain ⟨p, hp, rfl⟩ := List.mem_map.mp (WatchSetup.mem_paths_of_match? hmatch)
  have hancestor := (List.mem_filter.mp htarget).1
  have hwell := FileTree.wellFormed_of_scan_eq hscan
  have hcanonical := FileTree.isCanonical_of_scan_eq hscan hp
  -- the watched file is a file of the graph, and so is everything that imports it
  have hnormalize : g.normalize (t.normalize p) = p := by
    rw [FileTree.normalize, hcanonical.normalize_eq_self, ImportGraph.normalize,
      hcanonical.normalize_eq_self]
  exact FileTree.isCanonical_of_scan_eq hscan
    (hwell.mem_paths_of_mem_ancestors (hnormalize.symm ▸ hp) hancestor)

/-- `(p.optionsFor src).src = src` for a canonical path. -/
theorem Project.src_optionsFor {ω : Type} (p : Project ω) {src : String}
    (h : Path.IsCanonical src) :
    (p.optionsFor src).src = src := h.normalize_eq_self _

/-- `(q.project t g).graph = g`. -/
@[simp] theorem CompileRequest.graph_project {ω : Type} (q : CompileRequest ω) (t : FileTree)
    (g : ImportGraph) : (q.project t g).graph = g := by
  unfold project
  cases t.rootLayout (t.absolute q.root)
  rfl

/-- The calls of the renderer depend on the import graph that a session starts with and on the
events only. Every event is matched in the file tree of its own time (`Sighting.tree`), so that
links may come and go between the events. Whatever else happens in between, and however the renderer
behaves, the calls are the renders of what the events affect, event by event: at any time a first
part of them, and all of them whenever nothing is left to be done or the session catches up. -/
theorem Session.calls_of_start {ω : Type} {s : Session ω} (setup : SessionSetup ω)
    (hwindow : setup.window ≤ 0)
    (hstart : ({ toSessionSetup := setup } : Session ω).start = (.ok (), s)) :
    ∃ g, setup.tree.scan ({ toSessionSetup := setup } : Session ω).scanRequest = .ok g ∧
      ∀ steps : List (SessionStep ω),
        let later := s.followAll steps
        let watch := WatchSetup.make setup.tree g.paths setup.window
        let project := setup.toCompileRequest.project setup.tree g
        let targets := steps.flatMap (SessionStep.targets watch g)
        later.calls <+: targets.map project.optionsFor ∧
          (later.IsIdle → later.calls = targets.map project.optionsFor) ∧
          later.catchUp.calls = targets.map project.optionsFor ∧
          (targets.map project.optionsFor).map (·.src) = targets := by
  obtain ⟨g, hscan, htracks⟩ := tracks_of_start setup hstart
  refine ⟨g, hscan, fun steps => ?_⟩
  intro later watch project targets
  have hplain : Watcher.IsPlain watch := ⟨Int.toNat_of_nonpos hwindow, fun path => rfl⟩
  have hlater : later.Tracks watch project targets := by
    have hfollow := htracks.followAll hplain steps
    rwa [CompileRequest.graph_project, List.nil_append] at hfollow
  refine ⟨hlater.calls_prefix, hlater.calls_of_isIdle, hlater.catchUp.2, ?_⟩
  -- what is affected stands under its canonical path, which the options keep
  have hsrc : ∀ target ∈ targets, (project.optionsFor target).src = id target := by
    intro target htarget
    obtain ⟨step, -, hstep⟩ := List.mem_flatMap.mp htarget
    cases step with
    | event e => exact project.src_optionsFor (isCanonical_of_mem_targets hscan hstep)
    | _ => exact absurd hstep List.not_mem_nil
  rw [List.map_map]
  exact (List.map_congr_left hsrc).trans (List.map_id targets)

/-- A session on `/a.scss`, whose renders all fail. -/
def failingSetup : SessionSetup Unit where
  root := "/a.scss"
  base := {}
  tree := FileTree.mutualImports
  renderer := { outcome := fun _ => .error (.unforeseen "out of memory") }

/-- When `/_b.scss` changes, `/a.scss` is rendered, which imports it. -/
theorem calls_failingSetup :
    ∃ s, failingSetup.window ≤ 0 ∧
      ({ toSessionSetup := failingSetup } : Session Unit).start = (.ok (), s) ∧
      "/a.scss" ∈ (s.followAll [.event { action := .modified, path := { path := "/_b.scss" } },
        .takeNext, .check]).catchUp.calls.map (·.src) := by
  obtain ⟨found, hfound⟩ := FileTree.exists_discover_mutualImports
  obtain ⟨s, hstart⟩ :=
    Session.exists_start_eq failingSetup FileTree.isScannable_mutualImports hfound
  refine ⟨s, Int.le_refl 0, hstart, ?_⟩
  obtain ⟨g, hscan, hcalls⟩ := Session.calls_of_start failingSetup (Int.le_refl 0) hstart
  obtain ⟨-, -, hall, hsrc⟩ :=
    hcalls [.event { action := .modified, path := { path := "/_b.scss" } }, .takeNext, .check]
  rw [hall, hsrc]
  -- both files are in the graph, and the first imports the second
  obtain ⟨scan, hscan', hcomplete⟩ := FileTree.IsScannable.exists_scan_eq
    (r := ({ toSessionSetup := failingSetup } : Session Unit).scanRequest)
    FileTree.isScannable_mutualImports hfound
  obtain rfl : scan.graph.freeze = g := Except.ok.inj (hscan'.symm.trans hscan)
  obtain ⟨hroot, hpartial⟩ := FileTree.mem_of_mem_closedSets_mutualImports hcomplete.isLeast.1
  have himports :=
    (FileTree.imports_make_iff [] stylesheetExtensions).mp FileTree.imports_mutualImports
  have hnot : Path.isPartial "/a.scss" = false := by decide
  have htarget : "/a.scss" ∈ scan.graph.freeze.renderTargets "/_b.scss" :=
    (FileTree.mem_renderTargets_iff_of_scan_eq hscan hpartial).mpr ⟨hroot, hnot, .single himports⟩
  refine List.mem_flatMap.mpr ⟨_, List.mem_cons_self, ?_⟩
  rw [← targets_of_modified hscan failingSetup.window hpartial {}] at htarget
  exact htarget

end Restyle
