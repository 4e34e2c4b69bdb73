import Mathlib
import Restyle.Proofs.SessionRenders

/-! # Runs of a session
Anything may happen to a session that has started (`SessionMove`): the watcher takes steps of any
kind while time passes, changes of any path are handed in, and renders start, end and are cancelled
in any order. The session goes on to watch what it watches, and all that it ever renders is what
some change affects, with the options of its project (`Session.serves_moveAll`). -/

namespace Restyle

variable {ω : Type}

/-! ## What a dispatcher is asked for -/

/-- The project asks for a render: some change affects a file that is rendered like this. -/
def Project.AsksFor (p : Project ω) (o : RenderOptions ω) : Prop :=
  ∃ path, ∃ target ∈ p.graph.renderTargets path, o = p.optionsFor target

namespace Dispatcher

variable {d d' : Dispatcher ω} {r : Renderer ω}

/-- Everything that was ever scheduled, and everything that the renderer has been called with. -/
def asked (d : Dispatcher ω) : List (RenderOptions ω) := d.tasks.map (·.options) ++ d.calls

/-- `d.renders` are among `d.asked`. -/
theorem mem_asked_of_mem_renders {o : RenderOptions ω} (h : o ∈ d.renders) : o ∈ d.asked := by
  rcases List.mem_append.mp h with h | h
  · exact List.mem_append_right _ h
  · obtain ⟨task, htask, rfl⟩ := List.mem_map.mp h
    exact List.mem_append_left _ (List.mem_map_of_mem (List.mem_filter.mp htask).1)

/-- `d'.asked` has nothing new if the options of the tasks and `renders` are those of `d`. -/
theorem mem_asked_of_renders_eq (htasks : d'.tasks.map (·.options) = d.tasks.map (·.options))
    (hrenders : d'.renders = d.renders) {o : RenderOptions ω} (h : o ∈ d'.asked) : o ∈ d.asked := by
  rcases List.mem_append.mp h with h | h
  · exact List.mem_append_left _ (htasks ▸ h)
  · exact mem_asked_of_mem_renders (hrenders ▸ List.mem_append_left _ h)

/-- `settleFrom` leaves the options of the tasks as they are. -/
theorem options_settleFrom (r : Renderer ω) (d : Dispatcher ω) (done rest : List (Task ω)) :
    (settleFrom r d done rest).tasks.map (·.options) = (done ++ rest).map (·.options) := by
  induction rest generalizing d done with
  | nil => rw [settleFrom, List.append_nil]
  | cons task rest ih =>
    unfold settleFrom
    split <;> simp [ih]

/-- `startFirst` leaves the options of the tasks as they are. -/
theorem options_startFirst (r : Renderer ω) (d : Dispatcher ω) (done rest : List (Task ω))
    (htasks : d.tasks = done ++ rest) :
    (startFirst r d done rest).tasks.map (·.options) = d.tasks.map (·.options) := by
  induction rest generalizing done with
  | nil => rfl
  | cons task rest ih =>
    unfold startFirst
    split
    · simp [htasks]
    · exact ih _ (by simp [htasks])

/-- `release` leaves the options of the tasks as they are. -/
theorem options_release (d : Dispatcher ω) (call : Nat)
    (outcome : RenderOptions ω → RenderOutcome) :
    (d.release call outcome).2.tasks.map (·.options) = d.tasks.map (·.options) := by
  unfold release
  split
  · rfl
  · split
    · rfl
    · next task htask =>
      rw [← (d.finish_eq task.options (outcome task.options)).2.2]
      exact map_options_modify _ _ _

/-- `cancel` leaves the project, the calls and the options of the tasks as they are. -/
theorem cancel_eq (d : Dispatcher ω) (index : Nat) :
    (d.cancel index).2.toProject = d.toProject ∧ (d.cancel index).2.calls = d.calls ∧
      (d.cancel index).2.tasks.map (·.options) = d.tasks.map (·.options) := by
  unfold cancel
  split
  · split
    · exact ⟨rfl, rfl, map_options_modify _ _ _⟩
    · exact ⟨rfl, rfl, rfl⟩
  · exact ⟨rfl, rfl, rfl⟩

/-- A dispatcher that works for a project, and was asked for nothing that the project does not ask
for. -/
structure Serves (project : Project ω) (d : Dispatcher ω) : Prop where
  /-- It works for the project. -/
  toProject_eq : d.toProject = project
  /-- The project asks for all of its renders. -/
  asksFor : ∀ o ∈ d.asked, project.AsksFor o

namespace Serves

variable {project : Project ω}

/-- `Serves` is kept by what leaves the project, `renders` and the options of the tasks as they
are. -/
theorem of_renders_eq (h : d.Serves project) (hproject : d'.toProject = d.toProject)
    (htasks : d'.tasks.map (·.options) = d.tasks.map (·.options))
    (hrenders : d'.renders = d.renders) :
    d'.Serves project :=
  ⟨hproject.trans h.toProject_eq,
    fun o ho => h.asksFor o (mem_asked_of_renders_eq htasks hrenders ho)⟩

/-- `Serves` is kept by `schedule`: every new task is `p.optionsFor` of a target of the change. -/
theorem schedule (h : d.Serves project) (path : String) : (d.schedule path).Serves project where
  toProject_eq := h.toProject_eq
  asksFor o ho := by
    rcases List.mem_append.mp ho with ho | ho
    · rw [Dispatcher.schedule, List.map_append, List.map_map] at ho
      rcases List.mem_append.mp ho with ho | ho
      · exact h.asksFor o (List.mem_append_left _ ho)
      · obtain ⟨target, htarget, rfl⟩ := List.mem_map.mp ho
        exact h.toProject_eq ▸ ⟨path, target, htarget, rfl⟩
    · exact h.asksFor o (List.mem_append_right _ ho)

/-- `Serves` is kept by `settle`. -/
theorem settle (h : d.Serves project) (r : Renderer ω) : (d.settle r).Serves project :=
  h.of_renders_eq (d.settle_eq r).1 (options_settleFrom r d [] d.tasks) (d.renders_settle r)

/-- `Serves` is kept by `startNext`. -/
theorem startNext (h : d.Serves project) (r : Renderer ω) : (d.startNext r).Serves project :=
  h.of_renders_eq (d.startNext_eq r).1 (options_startFirst r d [] d.tasks rfl) (d.startNext_eq r).2

/-- `Serves` is kept by `release`. -/
theorem release (h : d.Serves project) (call : Nat) (outcome : RenderOptions ω → RenderOutcome) :
    (d.release call outcome).2.Serves project :=
  h.of_renders_eq (d.release_eq call outcome).1 (d.options_release call outcome)
    (d.release_eq call outcome).2

/-- `Serves` is kept by `cancel`. -/
theorem cancel (h : d.Serves project) (index : Nat) : (d.cancel index).2.Serves project := by
  obtain ⟨hproject, hcalls, htasks⟩ := d.cancel_eq index
  refine ⟨hproject.trans h.toProject_eq, fun o ho => h.asksFor o ?_⟩
  rwa [asked, hcalls, htasks] at ho

end Serves

end Dispatcher

/-! ## Moves -/

/-- Anything that may happen to a session that has started. -/
inductive SessionMove (ω : Type) where
  /-- The watcher takes a step. -/
  | watch (step : WatchStep)
  /-- A change is handed in by someone else. -/
  | handle (path : String) (kind : ChangeKind) (failure : Option Failure)
  /-- The session takes up the signal that has waited for longest. -/
  | takeNext
  /-- The render that has been ready for longest starts. -/
  | startNext
  /-- Every render that is ready starts. -/
  | settle
  /-- The session takes up every signal, and every render that is ready starts. -/
  | catchUp
  /-- A waiting render ends. -/
  | release (call : Nat) (outcome : RenderOptions ω → RenderOutcome)
  /-- A render is cancelled. -/
  | cancel (index : Nat)
  /-- From now on the renderer behaves in another way. -/
  | behave (r : Renderer ω)
  /-- Something is reported. -/
  | say (n : Notice)

namespace Session

/-- Make one move. -/
def move (s : Session ω) : SessionMove ω → Session ω
  | .watch step => s.hear fun w => (w.step step).2
  | .handle path kind failure =>
    match s.handle path kind failure with
    | .ok (_, s) => s
    | .error _ => s
  | .takeNext => s.takeNext
  | .startNext => s.startNext
  | .settle => s.settle
  | .catchUp => s.catchUp
  | .release call outcome => (s.release call outcome).2
  | .cancel index => s.withDispatcher fun d => (d.cancel index).2
  | .behave r => { s with renderer := r }
  | .say n => s.say n

/-- Make moves in order. -/
def moveAll (s : Session ω) (moves : List (SessionMove ω)) : Session ω := moves.foldl move s

/-- `moveAll` goes through `++`. -/
theorem moveAll_append (s : Session ω) (moves others : List (SessionMove ω)) :
    s.moveAll (moves ++ others) = (s.moveAll moves).moveAll others := List.foldl_append

/-- `dispatch e` is the moves `.watch (.dispatch e)` and `.catchUp`. -/
theorem dispatch_eq_moveAll (s : Session ω) (e : FileEvent) :
    s.dispatch e = s.moveAll [.watch (.dispatch e), .catchUp] := rfl

/-- `check` is the moves `.watch .check` and `.catchUp`. -/
theorem check_eq_moveAll (s : Session ω) : s.check.2 = s.moveAll [.watch .check, .catchUp] := rfl

/-- `close` is a sequence of moves. -/
theorem exists_close_eq_moveAll (s : Session ω) : ∃ moves, s.close = s.moveAll moves := by
  unfold close
  simp only
  split
  · exact ⟨[.watch .stop, .catchUp], rfl⟩
  · exact ⟨[.watch .stop, .catchUp], rfl⟩
  · exact ⟨[.watch .stop, .catchUp, .say _], rfl⟩

/-- `run events checks` of a session that has started is a sequence of moves. -/
theorem exists_run_eq_moveAll {s started : Session ω} (hstart : s.start = (.ok (), started))
    (events : List FileEvent) (checks : Nat) :
    ∃ moves, (s.run events checks).2 = started.moveAll moves := by
  -- each event is one step of the watcher and a dispatcher that catches up
  have hevents : ∀ s : Session ω, ∃ moves, events.foldl dispatch s = s.moveAll moves := by
    induction events with
    | nil => exact fun s => ⟨[], rfl⟩
    | cons e events ih =>
      intro s
      obtain ⟨moves, hmoves⟩ := ih (s.dispatch e)
      exact ⟨[.watch (.dispatch e), .catchUp] ++ moves, by
        rw [List.foldl_cons, hmoves, dispatch_eq_moveAll, moveAll_append]⟩
  -- the checks follow the events, each again one step and a catching up
  have hchecks : ∀ s : Session ω, ∃ moves,
      checks.fold (fun _ _ s => s.check.2) s = s.moveAll moves := by
    intro s
    induction checks with
    | zero => exact ⟨[], rfl⟩
    | succ checks ih =>
      obtain ⟨moves, hmoves⟩ := ih
      exact ⟨moves ++ [.watch .check, .catchUp], by
        rw [Nat.fold_succ, hmoves, check_eq_moveAll, moveAll_append]⟩
  obtain ⟨first, hfirst⟩ := hevents started
  obtain ⟨second, hsecond⟩ := hchecks (started.moveAll first)
  obtain ⟨third, hthird⟩ := exists_close_eq_moveAll ((started.moveAll first).moveAll second)
  refine ⟨first ++ second ++ third, ?_⟩
  rw [moveAll_append, moveAll_append, ← hthird, ← hsecond, ← hfirst]
  unfold run
  rw [hstart]

/-! ## What moves keep -/

variable {s : Session ω} {watch : WatchSetup} {project : Project ω}

/-- A session that watches and renders for a project. -/
def Serves (watch : WatchSetup) (project : Project ω) (s : Session ω) : Prop :=
  ∃ parts, s.running = some parts ∧ parts.watcher.toWatchSetup = watch ∧
  parts.dispatcher.Serves project

namespace Serves

/-- `Serves` is kept by what keeps it in the dispatcher. -/
theorem withDispatcher (h : s.Serves watch project) {act : Dispatcher ω → Dispatcher ω}
    (hact : ∀ d, d.Serves project → (act d).Serves project) :
    (s.withDispatcher act).Serves watch project := by
  obtain ⟨parts, hrunning, hwatch, hserves⟩ := h
  -- the dispatcher reports where its session does
  have hsame : ({ parts.dispatcher with notices := s.notices } : Dispatcher ω).Serves project :=
    ⟨hserves.toProject_eq, hserves.asksFor⟩
  unfold Session.withDispatcher
  rw [hrunning]
  exact ⟨_, rfl, hwatch, hact _ hsame⟩

/-- `Serves` is kept by a step of the watcher. -/
theorem hear (h : s.Serves watch project) (step : WatchStep) :
    (s.hear fun w => (w.step step).2).Serves watch project := by
  obtain ⟨parts, hrunning, hwatch, hserves⟩ := h
  unfold Session.hear
  rw [hrunning]
  exact ⟨_, rfl, (Watcher.setup_step parts.watcher step).trans hwatch, hserves⟩

/-- `Serves` is kept by a change that is handed in. -/
theorem handle (h : s.Serves watch project) (path : String) (kind : ChangeKind)
    (failure : Option Failure) :
    (s.move (.handle path kind failure)).Serves watch project := by
  cases kind with
  | error => exact h
  | removed => exact h
  | changed =>
    obtain ⟨parts, hrunning, hrest⟩ := h
    have hmove : s.move (.handle path .changed failure) = s.withDispatcher fun d =>
        d.schedule path := by
      simp [Session.move, Session.handle, hrunning]
    rw [hmove]
    exact withDispatcher ⟨parts, hrunning, hrest⟩ fun d hd => hd.schedule path

/-- `Serves` is kept by `take`. -/
theorem take (h : s.Serves watch project) (signal : Signal) :
    (s.take signal).Serves watch project := by
  cases signal with
  | delivery d => exact h.handle d.path d.kind none
  | failure f => exact h

/-- `Serves` is kept when signals are taken up one after the other. -/
theorem foldl_take (h : s.Serves watch project) (signals : List Signal) :
    (signals.foldl Session.take s).Serves watch project := by
  induction signals generalizing s with
  | nil => exact h
  | cons signal signals ih => exact ih (h.take signal)

/-- `Serves` is kept by `takeNext`. -/
theorem takeNext (h : s.Serves watch project) : s.takeNext.Serves watch project := by
  unfold Session.takeNext
  split
  · exact h
  · next signal rest _ =>
    have hrest : ({ s with inbox := rest } : Session ω).Serves watch project := h
    exact hrest.take signal

/-- `Serves` is kept by `settle`. -/
theorem settle (h : s.Serves watch project) : s.settle.Serves watch project :=
  h.withDispatcher fun _ hd => hd.settle s.renderer

/-- `Serves` is kept by `catchUp`. -/
theorem catchUp (h : s.Serves watch project) : s.catchUp.Serves watch project := by
  have hemptied : ({ s with inbox := [] } : Session ω).Serves watch project := h
  exact (hemptied.foldl_take s.inbox).settle

/-- `Serves` is kept by every move. -/
theorem move (h : s.Serves watch project) (m : SessionMove ω) :
    (s.move m).Serves watch project := by
  cases m with
  | watch step => exact h.hear step
  | handle path kind failure => exact h.handle path kind failure
  | takeNext => exact h.takeNext
  | startNext => exact h.withDispatcher fun _ hd => hd.startNext s.renderer
  | settle => exact h.settle
  | catchUp => exact h.catchUp
  | release call outcome =>
    show (s.release call outcome).2.Serves watch project
    unfold Session.release
    split
    · exact h
    · exact h.withDispatcher fun _ hd => hd.release call outcome
  | cancel index => exact h.withDispatcher fun _ hd => hd.cancel index
  | behave r => exact h
  | say n => exact h

/-- `Serves` is kept by every sequence of moves. -/
theorem moveAll (h : s.Serves watch project) (moves : List (SessionMove ω)) :
    (s.moveAll moves).Serves watch project := by
  induction moves generalizing s with
  | nil => exact h
  | cons m moves ih => exact ih (h.move m)

end Serves

/-- A session that has started `Serves` its project after every sequence of moves. -/
theorem serves_moveAll (setup : SessionSetup ω)
    (hstart : ({ toSessionSetup := setup } : Session ω).start = (.ok (), s)) :
    ∃ g, setup.tree.scan ({ toSessionSetup := setup } : Session ω).scanRequest = .ok g ∧
      ∀ moves, (s.moveAll moves).Serves (WatchSetup.make setup.tree g.paths setup.window)
        (setup.toCompileRequest.project setup.tree g) := by
  unfold start at hstart
  split at hstart
  · cases hstart
  · cases hstart
  · next scan hscan =>
    refine ⟨scan.graph.freeze, FileTree.scan_eq_of_scanAll_eq hscan,
      fun moves => Serves.moveAll ?_ moves⟩
    obtain rfl : _ = s := congrArg Prod.snd hstart
    -- the dispatcher has just been made, and was asked for nothing
    refine (Serves.hear ?_ (.start none)).catchUp
    refine ⟨_, rfl, rfl, ?_, fun o ho => absurd ho List.not_mem_nil⟩
    dsimp only

end Session

end Restyle
