import Mathlib
import Restyle.Proofs.Occurrences
import Restyle.Proofs.SessionRuns

/-! # The watcher of a session
Whatever happens to a session, its watcher runs as if it were alone (`Session.watcher?_moveAll`),
and what it delivers is rendered once the session catches up (`Session.mem_calls_of_delivered`). So
what is written to a watched file is rendered: at once, or by the time that a window has passed. -/

namespace Restyle

variable {ω : Type}

/-! ## Changes that reach the session -/

namespace Watcher

variable {w : Watcher} {path : Sighting} {file : String}

/-- Someone has written to a path. -/
def written (path : Sighting) : WatchStep := .dispatch { action := .modified, path }

/-- `written path` is noticed as a change of the file that `w.match? path` names. -/
theorem notified_written (hmatch : w.match? path = some file) :
    (file, .changed) ∈ w.notified (written path) := by
  have hall : w.notified (written path) = w.told [(path, .changed)] := rfl
  rw [hall]
  cases hraised : (w.notify path .changed).1 with
  | ok => simp [told_cons_of_ok hraised, hmatch]
  | error message => simp [told_cons_of_error hraised, hmatch]

/-- `written path` delivers one change of the file at `w.clock`, unless its window is open. -/
theorem deliveries_of_written (hmatch : w.match? path = some file)
    (hclosed : w.window = 0 ∨ w.windowEnd? file = none) :
    (w.step (written path)).2.deliveries = w.deliveries ++ [⟨file, .changed, w.clock⟩] := by
  have hheld : (w.view file).holdsBack w.window w.clock .changed = false := by
    rw [← Bool.not_eq_true, FileView.holdsBack_eq_true_iff, isOpen_view]
    rintro ⟨-, hwindow, hopen⟩
    rcases hclosed with hzero | hnone
    · exact hwindow hzero
    · rw [hnone] at hopen
      cases hopen
  have hall : (w.notifyAll [(path, .changed)]).2 = (w.notify path .changed).2 := by
    cases hraised : (w.notify path .changed).1 with
    | ok => rw [notifyAll_cons_of_ok hraised, notifyAll]
    | error message => rw [notifyAll_cons_of_error hraised]
  have hdispatch : (w.step (written path)).2.deliveries =
      (w.notifyAll [(path, .changed)]).2.deliveries :=
    (keepsWindows_dispatch w _).deliveries_eq
  rw [hdispatch, hall, notify_of_not_holdsBack hmatch hheld, deliver_snd, touch_clock,
    touch_deliveries]

/-- The change is among the new deliveries, unless the window of the file is open. -/
theorem delivery_of_written (hmatch : w.match? path = some file)
    (hclosed : w.window = 0 ∨ w.windowEnd? file = none) :
    ⟨file, .changed, w.clock⟩ ∈ (w.step (written path)).2.deliveries.drop w.deliveries.length := by
  rw [deliveries_of_written hmatch hclosed, List.drop_left]
  exact List.mem_singleton_self _

/-- `written path` and `advance w.window` deliver a change of the file in any case. -/
theorem exists_delivery_of_written (hw : w.Timely) (hmatch : w.match? path = some file) :
    ∃ d ∈ (w.run [written path, .advance w.window]).deliveries.drop w.deliveries.length,
      d.path = file ∧ d.kind = .changed := by
  rcases Nat.eq_zero_or_pos w.window with hzero | hpos
  · have hnow := delivery_of_written hmatch (.inl hzero)
    have hlater : (w.step (written path)).2.deliveries <+:
        (w.run [written path, .advance w.window]).deliveries :=
      ⟨_, append_delivery?_trace (w.step (written path)).2 [.advance w.window]⟩
    exact ⟨_, List.IsPrefix.mem hnow (hlater.drop _), rfl, rfl⟩
  · have hsteps := hw.step (written path)
    have hawaits := awaits_step_of_notified hw hpos (notified_written hmatch)
    -- the clock stands still while the change is noticed
    have hclock : (w.step (written path)).2.clock = w.clock := (tellsOnly_dispatch w _).clock_eq
    have htime : w.clock + w.window ≤ ((w.step (written path)).2.advance w.window).clock :=
      Nat.le_of_eq (congrArg (· + w.window) hclock.symm)
    obtain ⟨d, hd, hpath, hkind, -⟩ := (hawaits.advance hsteps w.window).hasDelivered
      (hsteps.step (.advance w.window)) htime
    exact ⟨d, hd, hpath, hkind⟩

/-- A new delivery of a run is one of its first step, or of the rest. -/
theorem mem_deliveries_run_cons {step : WatchStep} {steps : List WatchStep} {d : Delivery}
    (hd : d ∈ (w.run (step :: steps)).deliveries.drop w.deliveries.length) :
    d ∈ (w.step step).2.deliveries.drop w.deliveries.length ∨
      d ∈ ((w.step step).2.run steps).deliveries.drop (w.step step).2.deliveries.length := by
  obtain ⟨first, hfirst⟩ : w.deliveries <+: (w.step step).2.deliveries :=
    ⟨_, append_delivery?_trace w [step]⟩
  obtain ⟨later, hlater⟩ : (w.step step).2.deliveries <+: ((w.step step).2.run steps).deliveries :=
    ⟨_, append_delivery?_trace (w.step step).2 steps⟩
  have hall : (w.run (step :: steps)).deliveries = w.deliveries ++ (first ++ later) := by
    rw [← List.append_assoc, hfirst, hlater]
    rfl
  rw [hall, List.drop_left] at hd
  rw [← hlater, List.drop_left, ← hfirst, List.drop_left]
  exact List.mem_append.mp hd

end Watcher

/-- The step of the watcher in a move. -/
def SessionMove.watchStep? : SessionMove ω → Option WatchStep
  | .watch step => some step
  | _ => none

namespace Session

variable {s : Session ω} {parts : Running ω} {watch : WatchSetup} {project : Project ω}

/-- The watcher of a session that has started. -/
def watcher? (s : Session ω) : Option Watcher := s.running.map (·.watcher)

/-- `withDispatcher` leaves the watcher as it is. -/
@[simp] theorem watcher?_withDispatcher (s : Session ω) (act : Dispatcher ω → Dispatcher ω) :
    (s.withDispatcher act).watcher? = s.watcher? := by
  unfold withDispatcher watcher?
  cases hrunning : s.running with
  | none => simp [hrunning]
  | some parts => rfl

/-- `hear act` does `act` to the watcher. -/
theorem watcher?_hear (s : Session ω) (act : Watcher → Watcher) :
    (s.hear act).watcher? = s.watcher?.map act := by
  unfold hear watcher?
  cases hrunning : s.running with
  | none => simp [hrunning]
  | some parts => rfl

/-- A change that is handed in leaves the watcher as it is. -/
theorem watcher?_handle (s : Session ω) (path : String) (kind : ChangeKind)
    (failure : Option Failure) :
    (s.move (.handle path kind failure)).watcher? = s.watcher? := by
  cases kind with
  | error => rfl
  | removed => rfl
  | changed =>
    cases hrunning : s.running with
    | none => simp [move, handle, hrunning]
    | some parts =>
      have hmove : s.move (.handle path .changed failure) = s.withDispatcher fun d =>
          d.schedule path := by
        simp [move, handle, hrunning]
      rw [hmove, watcher?_withDispatcher]

/-- `take` leaves the watcher as it is. -/
theorem watcher?_take (s : Session ω) (signal : Signal) :
    (s.take signal).watcher? = s.watcher? := by
  cases signal with
  | delivery d => exact watcher?_handle s d.path d.kind none
  | failure f => rfl

/-- Taking up signals leaves the watcher as it is. -/
theorem watcher?_foldl_take (signals : List Signal) (s : Session ω) :
    (signals.foldl take s).watcher? = s.watcher? := by
  induction signals generalizing s with
  | nil => rfl
  | cons signal signals ih => rw [List.foldl_cons, ih, watcher?_take]

/-- A move runs `m.watchStep?` in the watcher, if it has one. -/
theorem watcher?_move (s : Session ω) (m : SessionMove ω) :
    (s.move m).watcher? = s.watcher?.map fun w => w.run m.watchStep?.toList := by
  -- every move that is no step of the watcher runs it for no step at all
  have hkeep : s.watcher? = s.watcher?.map fun w => w.run [] := by
    cases s.watcher? <;> rfl
  cases m with
  | watch step => exact watcher?_hear s _
  | handle path kind failure => exact (watcher?_handle s path kind failure).trans hkeep
  | takeNext =>
    refine Eq.trans ?_ hkeep
    show s.takeNext.watcher? = _
    unfold takeNext
    split
    · rfl
    · exact watcher?_take _ _
  | startNext => exact (watcher?_withDispatcher s _).trans hkeep
  | settle => exact (watcher?_withDispatcher s _).trans hkeep
  | catchUp =>
    refine Eq.trans ?_ hkeep
    exact (watcher?_withDispatcher _ _).trans (watcher?_foldl_take _ _)
  | release call outcome =>
    refine Eq.trans ?_ hkeep
    show (s.release call outcome).2.watcher? = _
    unfold release
    split
    · rfl
    · exact watcher?_withDispatcher _ _
  | cancel index => exact (watcher?_withDispatcher s _).trans hkeep
  | behave r => exact hkeep
  | say n => exact hkeep

/-- Moves run their `watchStep?`s in the watcher, as if it were alone. -/
theorem watcher?_moveAll (s : Session ω) (moves : List (SessionMove ω)) :
    (s.moveAll moves).watcher? = s.watcher?.map fun w =>
      w.run (moves.filterMap SessionMove.watchStep?) := by
  induction moves generalizing s with
  | nil => cases h : s.watcher? <;> simp [moveAll, Watcher.run, h]
  | cons m moves ih =>
    have hrest : s.moveAll (m :: moves) = (s.move m).moveAll moves := rfl
    rw [hrest, ih, watcher?_move, Option.map_map]
    refine congrArg (Option.map · s.watcher?) (funext fun w => ?_)
    cases hstep : m.watchStep? <;> simp [hstep, Watcher.run]

/-- `hear act` puts every new delivery of the watcher in line, as `.delivery d`. -/
theorem inbox_hear (hrunning : s.running = some parts) (act : Watcher → Watcher) :
    ∃ new, (s.hear act).inbox = s.inbox ++ new ∧
      ∀ d ∈ (act parts.watcher).deliveries.drop parts.watcher.deliveries.length,
      Signal.delivery d ∈ new := by
  have hinbox : (s.hear act).inbox = s.inbox ++
      (((act parts.watcher).deliveries.drop parts.watcher.deliveries.length).map Signal.delivery ++
        ((act parts.watcher).errors.drop parts.watcher.errors.length).map Signal.failure) := by
    simp [hear, hrunning]
  exact ⟨_, hinbox, fun d hd => List.mem_append_left _ (List.mem_map_of_mem hd)⟩

/-- Steps of the watcher leave the dispatcher as it is, and every new delivery gets in line. -/
theorem hears_watch (hrunning : s.running = some parts) (steps : List WatchStep) :
    (s.moveAll (steps.map .watch)).running =
      some { parts with watcher := parts.watcher.run steps } ∧
      ∃ new, (s.moveAll (steps.map .watch)).inbox = s.inbox ++ new ∧
        ∀ d ∈ (parts.watcher.run steps).deliveries.drop parts.watcher.deliveries.length,
          Signal.delivery d ∈ new := by
  induction steps generalizing s parts with
  | nil => exact ⟨hrunning, [], (List.append_nil _).symm, by simp [Watcher.run]⟩
  | cons step steps ih =>
    have hrest : s.moveAll ((step :: steps).map .watch) =
        (s.hear fun w => (w.step step).2).moveAll (steps.map .watch) := rfl
    have hhear : (s.hear fun w => (w.step step).2).running =
        some { parts with watcher := (parts.watcher.step step).2 } := by
      simp [hear, hrunning]
    obtain ⟨first, hfirst, hnow⟩ := inbox_hear hrunning fun w => (w.step step).2
    obtain ⟨hrun, later, hlater, hrestLine⟩ := ih hhear
    refine ⟨hrest ▸ hrun, first ++ later,
      by rw [hrest, hlater, hfirst, List.append_assoc], fun d hd => ?_⟩
    -- what this step delivers gets in line before the rest
    rcases Watcher.mem_deliveries_run_cons hd with hd | hd
    · exact List.mem_append_left _ (hnow d hd)
    · exact List.mem_append_right _ (hrestLine d hd)

/-- After a delivered change and `catchUp`, the targets of the change are among the new calls. -/
theorem mem_calls_of_delivered (h : s.Serves watch project) {w : Watcher} (hw : s.watcher? = some w)
    {steps : List WatchStep} {d : Delivery}
    (hd : d ∈ (w.run steps).deliveries.drop w.deliveries.length) (hkind : d.kind = .changed)
    {target : String} (htarget : target ∈ project.graph.renderTargets d.path) :
    project.optionsFor target ∈
      (s.moveAll (steps.map .watch ++ [.catchUp])).calls.drop s.calls.length := by
  obtain ⟨parts, hrunning, hwatch, hproject, -⟩ := h
  obtain rfl : parts.watcher = w := by simpa [watcher?, hrunning] using hw
  obtain ⟨hrun, new, hinbox, hnew⟩ := hears_watch hrunning steps
  have hruns : (s.moveAll (steps.map .watch)).Runs (parts.watcher.run steps).toWatchSetup project
      parts.dispatcher.renders := ⟨_, hrun, rfl, hproject, rfl⟩
  have hcalls : s.calls = parts.dispatcher.calls := by simp [calls, hrunning]
  rw [moveAll_append]
  show _ ∈ (s.moveAll (steps.map .watch)).catchUp.calls.drop s.calls.length
  rw [hruns.catchUp.2.2, hinbox, hcalls, Dispatcher.renders, List.append_assoc, List.drop_left]
  -- it follows from a signal in line
  refine List.mem_append_right _ (List.mem_map_of_mem (List.mem_flatMap.mpr ⟨.delivery d, ?_, ?_⟩))
  · exact List.mem_append_right _ (hnew d hd)
  · rw [Signal.targets, Delivery.targets, if_pos hkind]
    exact htarget

/-- `dispatch` of a modification adds the renders of the file to the calls, behind those that were
asked for before, unless its window is open. -/
theorem calls_dispatch_of_written (h : s.Serves watch project) {w : Watcher}
    (hw : s.watcher? = some w) {path : Sighting} {file : String}
    (hmatch : watch.match? path = some file)
    (hclosed : w.window = 0 ∨ w.windowEnd? file = none) :
    (s.dispatch { action := .modified, path }).calls =
      s.catchUp.calls ++ (project.graph.renderTargets file).map project.optionsFor := by
  obtain ⟨parts, hrunning, rfl, hproject, -⟩ := h
  obtain rfl : parts.watcher = w := by simpa [watcher?, hrunning] using hw
  set heard := s.hear fun w => w.dispatch { action := .modified, path } with hheard
  have hruns : s.Runs parts.watcher.toWatchSetup project parts.dispatcher.renders :=
    ⟨parts, hrunning, rfl, hproject, rfl⟩
  have hruns' : heard.Runs (parts.watcher.step (Watcher.written path)).2.toWatchSetup project
      parts.dispatcher.renders :=
        ⟨_, (hears_watch hrunning [Watcher.written path]).1, rfl, hproject, rfl⟩
  have hdelivered : (parts.watcher.dispatch { action := .modified, path }).deliveries =
      parts.watcher.deliveries ++ [⟨file, .changed, parts.watcher.clock⟩] :=
    Watcher.deliveries_of_written hmatch hclosed
  obtain ⟨failures, hinbox⟩ : ∃ failures : List Failure, heard.inbox =
      s.inbox ++ .delivery ⟨file, .changed, parts.watcher.clock⟩ :: failures.map .failure := by
    refine ⟨(parts.watcher.dispatch { action := .modified, path }).errors.drop
      parts.watcher.errors.length, ?_⟩
    simp [hheard, hear, hrunning, hdelivered]
  -- failures ask for nothing
  have hnothing : (failures.map Signal.failure).flatMap (Signal.targets project.graph) = [] := by
    rw [List.flatMap_map]
    exact List.flatMap_eq_nil_iff.mpr fun f _ => rfl
  have htargets : heard.inbox.flatMap (Signal.targets project.graph) =
      s.inbox.flatMap (Signal.targets project.graph) ++ project.graph.renderTargets file := by
    rw [hinbox, List.flatMap_append, List.flatMap_cons, hnothing, List.append_nil, Signal.targets,
      Delivery.targets, if_pos rfl]
  show heard.catchUp.calls = _
  rw [hruns'.catchUp.2.2, hruns.catchUp.2.2, htargets, List.map_append, List.append_assoc]

/-- A session that has started has the watcher of its graph, with nothing done but `start`. -/
theorem watcher?_of_start (setup : SessionSetup ω) {g : ImportGraph}
    (hscan : setup.tree.scan ({ toSessionSetup := setup } : Session ω).scanRequest = .ok g)
    (hstart : ({ toSessionSetup := setup } : Session ω).start = (.ok (), s)) :
    let new : Watcher :=
      { toWatchSetup := WatchSetup.make setup.tree g.paths setup.window
        observer := setup.observer }
    s.watcher? = some (new.run [.start none]) := by
  intro new
  unfold start at hstart
  split at hstart
  · cases hstart
  · cases hstart
  · next scan hscan' =>
    obtain rfl : scan.graph.freeze = g :=
      Except.ok.inj ((FileTree.scan_eq_of_scanAll_eq hscan').symm.trans hscan)
    obtain rfl : _ = s := congrArg Prod.snd hstart
    show (catchUp (hear _ _)).watcher? = _
    unfold catchUp settle
    rw [watcher?_withDispatcher, watcher?_foldl_take]
    exact watcher?_hear _ _

end Session

end Restyle
