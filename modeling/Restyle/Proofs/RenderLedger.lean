import Mathlib
import Restyle.Proofs.RenderQueue

/-! # The ledger of renders
Every render that a dispatcher schedules is announced, starts, and ends once, in success, in failure
or by being cancelled; until then it is pending. The ledger of a run (`ledger`) says in which order
that happens. What is reported and what is called are read off it, and of every render it holds
nothing but its own course (`Course`); both hold after every step (`Accounts.followAll`). -/

namespace Restyle

variable {ω : Type}

/-! ## Courses -/

/-- What happens to a scheduled render. -/
inductive Stage where
  /-- It is announced, under the name of the file that it renders. -/
  | announced (target : String)
  /-- The renderer is called. -/
  | started
  /-- The call returns or fails. -/
  | ended (outcome : RenderOutcome)
  /-- The call is cancelled. -/
  | cancelled

namespace Stage

/-- Whether a stage is the end of a render in success. -/
def isSuccess : Stage → Bool
  | .ended (.ok _) => true
  | _ => false

/-- Whether a stage is the end of a render in failure. -/
def isFailure : Stage → Bool
  | .ended (.error _) => true
  | _ => false

end Stage

/-- What has happened to a render that has come so far. -/
inductive Course (target : String) : TaskState → List Stage → Prop where
  | ready : Course target .ready [.announced target]
  | waiting (call : Nat) : Course target (.waiting call) [.announced target, .started]
  | succeeded (reports : List Report) :
    Course target .succeeded [.announced target, .started, .ended (.ok reports)]
  | failed (fault : RenderFault) :
    Course target .failed [.announced target, .started, .ended (.error fault)]
  | cancelled : Course target .cancelled [.announced target, .started, .cancelled]

/-- An entry of the ledger: what happens to one of the renders. -/
structure Milestone (ω : Type) where
  /-- The number of the render, in the order in which renders are scheduled. -/
  task : Nat
  /-- What is rendered. -/
  options : RenderOptions ω
  /-- What happens. -/
  stage : Stage

namespace Milestone

/-- What is reported when it happens. -/
def notices (m : Milestone ω) : List Notice :=
  match m.stage with
  | .announced target => [.warn ("=> changed: " ++ target)]
  | .started => []
  | .ended outcome => endNotices m.options outcome
  | .cancelled => [.done m.options.dest]

/-- What the renderer is called with when it happens. -/
def calls (m : Milestone ω) : List (RenderOptions ω) :=
  match m.stage with
  | .started => [m.options]
  | _ => []

end Milestone

/-- A task that is pending and not `.ready` is `.waiting` as some call. -/
theorem Task.exists_call_of_isPending {task : Task ω} (h : task.isPending = true)
    (hready : task.state ≠ .ready) : ∃ call, task.state = .waiting call := by
  unfold Task.isPending at h
  cases hstate : task.state with
  | waiting call => exact ⟨call, rfl⟩
  | ready => exact absurd hstate hready
  | _ => simp [hstate] at h

/-! ## Steps -/

/-- A step in the life of a dispatcher. -/
inductive DispatchStep (ω : Type) where
  /-- A file has changed. -/
  | change (path : String)
  /-- A waiting render ends. -/
  | release (call : Nat) (outcome : RenderOptions ω → RenderOutcome)
  /-- A render is cancelled. -/
  | cancel (index : Nat)
  /-- Someone waits for the renders. -/
  | wait

/-- The files that a step schedules a render for. -/
def DispatchStep.targets (g : ImportGraph) : DispatchStep ω → List String
  | .change path => g.renderTargets path
  | _ => []

namespace Dispatcher

/-- Carry out one step, before the renders that it schedules have started. -/
def perform (d : Dispatcher ω) : DispatchStep ω → Dispatcher ω
  | .change path => d.schedule path
  | .release call outcome => (d.release call outcome).2
  | .cancel index => (d.cancel index).2
  | .wait => d

/-- Carry out one step, and start everything that is ready, with the renderer as it behaves by
then. -/
def follow (d : Dispatcher ω) (step : Renderer ω × DispatchStep ω) : Dispatcher ω :=
  (d.perform step.2).settle step.1

/-- Carry out steps in order. -/
def followAll (d : Dispatcher ω) (steps : List (Renderer ω × DispatchStep ω)) : Dispatcher ω :=
  steps.foldl follow d

/-- `(first ++ x :: rest).modify first.length f = first ++ f x :: rest`. -/
theorem modify_length_append {α : Type} (first : List α) (x : α) (rest : List α) (f : α → α) :
    (first ++ x :: rest).modify first.length f = first ++ f x :: rest := by
  induction first with
  | nil => rfl
  | cons y first ih =>
    rw [List.cons_append, List.length_cons, List.modify_succ_cons, ih, List.cons_append]

/-- `settleFrom` starts a task that is `.ready`, and goes on behind it. -/
theorem settleFrom_cons_of_ready {r : Renderer ω} {d : Dispatcher ω} {task : Task ω}
    (h : task.state = .ready) {done rest : List (Task ω)} :
    settleFrom r d done (task :: rest) = settleFrom r (d.start r task.options).1
      (done ++ [{ task with state := (d.start r task.options).2 }]) rest := by
  rw [settleFrom]
  simp only [h]

/-- `settleFrom` passes over a task that is not `.ready`. -/
theorem settleFrom_cons_of_not_ready {r : Renderer ω} {d : Dispatcher ω} {task : Task ω}
    (h : task.state ≠ .ready) {done rest : List (Task ω)} :
    settleFrom r d done (task :: rest) = settleFrom r d (done ++ [task]) rest := by
  rw [settleFrom]
  split
  · next hready => exact absurd hready h
  · rfl

/-! ## The ledger of a run -/

/-- What a step does to the renders, before the ones that it schedules have started. -/
def entries (d : Dispatcher ω) : DispatchStep ω → List (Milestone ω)
  | .change path =>
    ((d.targets path).zipIdx d.tasks.length).map fun (target, task) =>
      { task, options := d.options target, stage := .announced target }
  | .release call outcome =>
    match d.waitingTask? call with
    | none => []
    | some task =>
      match d.tasks[task]? with
      | none => []
      | some { options, .. } => [{ task, options, stage := .ended (outcome options) }]
  | .cancel task =>
    match d.tasks[task]? with
    | none => []
    | some t => if t.isPending then [{ task, options := t.options, stage := .cancelled }] else []
  | .wait => []

/-- What happens when a render starts: it ends at once, or waits. -/
def startStages (r : Renderer ω) (o : RenderOptions ω) : List Stage :=
  .started :: if r.waits o then [] else [.ended (r.outcome o)]

/-- What happens when everything among some tasks starts that is ready; `index` is the number of the
first one. -/
def startEntries (r : Renderer ω) (index : Nat) : List (Task ω) → List (Milestone ω)
  | [] => []
  | task :: rest =>
    (if task.state = .ready then
      (startStages r task.options).map fun stage => ⟨index, task.options, stage⟩
    else []) ++ startEntries r (index + 1) rest

/-- The ledger of a run. -/
def ledger (d : Dispatcher ω) : List (Renderer ω × DispatchStep ω) → List (Milestone ω)
  | [] => []
  | step :: steps =>
    d.entries step.2 ++ startEntries step.1 0 (d.perform step.2).tasks ++
      (d.follow step).ledger steps

end Dispatcher

/-! ## Accounts -/

/-- The ledger accounts for the state of a dispatcher that had reported
`before` when it began, and has scheduled a render for each of `scheduled`. -/
structure Accounts (p : Project ω) (before : List Notice) (scheduled : List String)
    (log : List (Milestone ω)) (d : Dispatcher ω) : Prop where
  /-- The dispatcher works for the project. -/
  toProject_eq : d.toProject = p
  /-- Every scheduled file has its task. -/
  options_eq : d.tasks.map (·.options) = scheduled.map p.optionsFor
  /-- What has been reported. -/
  notices_eq : d.notices = before ++ log.flatMap Milestone.notices
  /-- What the renderer has been called with. -/
  calls_eq : d.calls = log.flatMap Milestone.calls
  /-- The successful renders have been counted. -/
  renderCount_eq : d.renderCount = log.countP (·.stage.isSuccess)
  /-- So have the failed ones. -/
  failureCount_eq : d.failureCount = log.countP (·.stage.isFailure)
  /-- Of every task the ledger holds the course, in order. -/
  course : ∀ i task, d.tasks[i]? = some task → ∃ target stages, scheduled[i]? = some target ∧
    Course target task.state stages ∧
    log.filter (·.task = i) = stages.map fun stage => ⟨i, task.options, stage⟩
  /-- It holds nothing else. -/
  task_lt : ∀ m ∈ log, m.task < d.tasks.length

namespace Accounts

variable {p : Project ω} {before : List Notice} {scheduled : List String} {log : List (Milestone ω)}
  {d : Dispatcher ω} {r : Renderer ω}

/-- A new dispatcher accounts for an empty ledger. -/
theorem init (p : Project ω) (before : List Notice) :
    Accounts p before [] [] { toProject := p, notices := before } where
  toProject_eq := rfl
  options_eq := rfl
  notices_eq := (List.append_nil _).symm
  calls_eq := rfl
  renderCount_eq := rfl
  failureCount_eq := rfl
  course i task htask := by simp at htask
  task_lt m hm := absurd hm List.not_mem_nil

/-- `scheduled.length = d.tasks.length`: every scheduled file has one task. -/
theorem length_scheduled (h : Accounts p before scheduled log d) :
    scheduled.length = d.tasks.length := by
  simpa using (congrArg List.length h.options_eq).symm

/-- Of entries of task `i`, all belong to `j` if `i = j`, and none otherwise. -/
theorem filter_map_stage (i j : Nat) (o : RenderOptions ω) (stages : List Stage) :
    (stages.map fun stage => (⟨i, o, stage⟩ : Milestone ω)).filter (·.task = j) =
      if i = j then stages.map fun stage => ⟨i, o, stage⟩ else [] := by
  by_cases hij : i = j
  · simp [hij]
  · simp [hij]

/-- `Accounts` is kept when one task goes on along its `Course` by the stages `more`, with their
notices and calls. -/
theorem advance (h : Accounts p before scheduled log d) {i : Nat} {task : Task ω}
    {state : TaskState} {more : List Stage} {d' : Dispatcher ω} (htask : d.tasks[i]? = some task)
    (hcourse : ∀ target stages, Course target task.state stages →
      Course target state (stages ++ more))
    (hproject : d'.toProject = d.toProject)
    (htasks : d'.tasks = d.tasks.modify i fun t => { t with state })
    (hnotices : d'.notices = d.notices ++
      (more.map fun stage => (⟨i, task.options, stage⟩ : Milestone ω)).flatMap Milestone.notices)
    (hcalls : d'.calls = d.calls ++
      (more.map fun stage => (⟨i, task.options, stage⟩ : Milestone ω)).flatMap Milestone.calls)
    (hrenders : d'.renderCount = d.renderCount + more.countP Stage.isSuccess)
    (hfailures : d'.failureCount = d.failureCount + more.countP Stage.isFailure) :
    Accounts p before scheduled (log ++ more.map fun stage => ⟨i, task.options, stage⟩) d' where
  toProject_eq := hproject.trans h.toProject_eq
  options_eq := by rw [htasks, Dispatcher.map_options_modify, h.options_eq]
  notices_eq := by rw [hnotices, h.notices_eq, List.flatMap_append, List.append_assoc]
  calls_eq := by rw [hcalls, h.calls_eq, List.flatMap_append]
  renderCount_eq := by
    rw [hrenders, h.renderCount_eq, List.countP_append, List.countP_map]
    rfl
  failureCount_eq := by
    rw [hfailures, h.failureCount_eq, List.countP_append, List.countP_map]
    rfl
  course j other hother := by
    rw [htasks, List.getElem?_modify] at hother
    rw [List.filter_append, filter_map_stage]
    -- the new stages are those of task `i`, so every other course is as before
    by_cases hij : i = j
    · subst hij
      rw [htask] at hother
      obtain rfl : { task with state } = other := by simpa using hother
      obtain ⟨target, stages, htarget, hstages, hlog⟩ := h.course i task htask
      refine ⟨target, stages ++ more, htarget, hcourse target stages hstages, ?_⟩
      rw [if_pos rfl, hlog, List.map_append]
    · rw [if_neg hij, List.append_nil]
      have hsame : d.tasks[j]? = some other := by simpa [hij] using hother
      exact h.course j other hsame
  task_lt m hm := by
    rw [htasks, List.length_modify]
    rcases List.mem_append.mp hm with hm | hm
    · exact h.task_lt m hm
    · obtain ⟨stage, -, rfl⟩ := List.mem_map.mp hm
      exact (List.getElem?_eq_some_iff.mp htask).1

/-! ## Steps keep the accounts -/

/-- `Accounts` is kept when one more render is announced. -/
theorem announce (h : Accounts p before scheduled log d) (target : String) (d' : Dispatcher ω)
    (hproject : d'.toProject = d.toProject)
    (htasks : d'.tasks = d.tasks ++ [{ options := p.optionsFor target }])
    (hnotices : d'.notices = d.notices ++ [.warn ("=> changed: " ++ target)])
    (hcalls : d'.calls = d.calls) (hrenders : d'.renderCount = d.renderCount)
    (hfailures : d'.failureCount = d.failureCount) :
    Accounts p before (scheduled ++ [target])
      (log ++ [⟨d.tasks.length, p.optionsFor target, .announced target⟩]) d' where
  toProject_eq := hproject.trans h.toProject_eq
  options_eq := by rw [htasks, List.map_append, List.map_append, h.options_eq]; rfl
  notices_eq := by
    rw [hnotices, h.notices_eq, List.flatMap_append, List.append_assoc]
    rfl
  calls_eq := by
    rw [hcalls, h.calls_eq, List.flatMap_append]
    exact (List.append_nil _).symm
  renderCount_eq := by
    rw [hrenders, h.renderCount_eq, List.countP_append]
    rfl
  failureCount_eq := by
    rw [hfailures, h.failureCount_eq, List.countP_append]
    rfl
  course i task htask := by
    have hlength := h.length_scheduled
    rw [htasks] at htask
    rcases Nat.lt_trichotomy i d.tasks.length with hlt | rfl | hgt
    · -- the other tasks stay as they are
      rw [List.getElem?_append_left hlt] at htask
      obtain ⟨other, stages, hother, hstages, hlog⟩ := h.course i task htask
      refine ⟨other, stages, ?_, hstages, ?_⟩
      · rwa [List.getElem?_append_left (by omega)]
      · rw [List.filter_append, hlog, List.filter_cons_of_neg (by simp; omega), List.filter_nil,
          List.append_nil]
    · -- nothing has happened to the new one before
      rw [List.getElem?_append_right (Nat.le_refl _), Nat.sub_self] at htask
      obtain rfl : ({ options := p.optionsFor target } : Task ω) = task := by simpa using htask
      refine ⟨target, [.announced target], ?_, .ready, ?_⟩
      · rw [List.getElem?_append_right (by omega), hlength, Nat.sub_self]
        rfl
      · have hnone : log.filter (·.task = d.tasks.length) = [] := by
          refine List.filter_eq_nil_iff.mpr fun m hm => ?_
          have hlt := h.task_lt m hm
          simp only [decide_eq_true_eq]
          omega
        rw [List.filter_append, hnone, List.nil_append, List.filter_cons_of_pos (by simp)]
        rfl
    · rw [List.getElem?_eq_none (by simp; omega)] at htask
      cases htask
  task_lt m hm := by
    rw [htasks, List.length_append, List.length_singleton]
    rcases List.mem_append.mp hm with hm | hm
    · exact Nat.lt_succ_of_lt (h.task_lt m hm)
    · rw [List.mem_singleton.mp hm]
      exact Nat.lt_succ_self _

/-- `Accounts` is kept by `d.schedule path`, which announces the renders of `d.targets path`. -/
theorem schedule (h : Accounts p before scheduled log d) (path : String) :
    Accounts p before (scheduled ++ d.targets path) (log ++ d.entries (.change path))
      (d.schedule path) := by
  have hall : ∀ (targets scheduled : List String) (log : List (Milestone ω)) (d : Dispatcher ω),
      Accounts p before scheduled log d →
      Accounts p before (scheduled ++ targets)
        (log ++ (targets.zipIdx d.tasks.length).map fun (target, task) =>
          ⟨task, p.optionsFor target, .announced target⟩)
        { d with
          tasks := d.tasks ++ targets.map fun target => { options := p.optionsFor target }
          notices := d.notices ++ targets.map fun target => .warn ("=> changed: " ++ target) } := by
    intro targets
    induction targets with
    | nil => exact fun scheduled log d h => by simpa using h
    | cons target targets ih =>
      intro scheduled log d h
      have hfirst := h.announce target
        { d with
          tasks := d.tasks ++ [{ options := p.optionsFor target }]
          notices := d.notices ++ [.warn ("=> changed: " ++ target)] } rfl rfl rfl rfl rfl rfl
      simpa using ih _ _ _ hfirst
  obtain rfl := h.toProject_eq
  exact hall _ _ _ _ h

/-- `d.start r o` adds the notices, calls and counts of `startStages r o`. -/
theorem start_accounts (r : Renderer ω) (d : Dispatcher ω) (i : Nat) (o : RenderOptions ω) :
    (d.start r o).1.notices = d.notices ++ ((Dispatcher.startStages r o).map fun stage =>
        (⟨i, o, stage⟩ : Milestone ω)).flatMap Milestone.notices ∧
      (d.start r o).1.calls = d.calls ++ ((Dispatcher.startStages r o).map fun stage =>
        (⟨i, o, stage⟩ : Milestone ω)).flatMap Milestone.calls ∧
      (d.start r o).1.renderCount =
        d.renderCount + (Dispatcher.startStages r o).countP Stage.isSuccess ∧
      (d.start r o).1.failureCount =
        d.failureCount + (Dispatcher.startStages r o).countP Stage.isFailure := by
  unfold Dispatcher.start Dispatcher.startStages
  by_cases hwaits : r.waits o = true
  · simp [hwaits, Milestone.notices, Milestone.calls, Stage.isSuccess, Stage.isFailure]
  · cases r.outcome o <;>
      simp [hwaits, Dispatcher.finish, Milestone.notices, Milestone.calls, Stage.isSuccess,
        Stage.isFailure]

/-- `d.start r o` goes on along the `Course` of a `.ready` task by `startStages r o`. -/
theorem course_start (r : Renderer ω) (d : Dispatcher ω) (o : RenderOptions ω) {target : String}
    {stages : List Stage} (h : Course target .ready stages) :
    Course target (d.start r o).2 (stages ++ Dispatcher.startStages r o) := by
  cases h
  unfold Dispatcher.start Dispatcher.startStages
  by_cases hwaits : r.waits o = true
  · simp only [if_pos hwaits]
    exact .waiting _
  · simp only [if_neg hwaits]
    cases r.outcome o with
    | ok reports => exact .succeeded reports
    | error fault => exact .failed fault

/-- `Accounts` is kept by `settleFrom`, which starts what is `.ready`, behind tasks that are not. -/
theorem settleFrom (r : Renderer ω) (done rest : List (Task ω))
    (h : Accounts p before scheduled log { d with tasks := done ++ rest }) :
    Accounts p before scheduled (log ++ Dispatcher.startEntries r done.length rest)
      (Dispatcher.settleFrom r d done rest) := by
  -- the first of the tasks that are left settles, and joins those that have settled
  induction rest generalizing d done log with
  | nil => simpa [Dispatcher.settleFrom, Dispatcher.startEntries] using h
  | cons task rest ih =>
    have hmove : ∀ t : Task ω, done ++ t :: rest = done ++ [t] ++ rest := by simp
    have hlength : ∀ t : Task ω, done.length + 1 = (done ++ [t]).length := by simp
    by_cases hready : task.state = .ready
    · set started : Task ω := { task with state := (d.start r task.options).2 } with hstarted
      obtain ⟨hnotices, hcalls, hrenders, hfailures⟩ :=
        start_accounts r d done.length task.options
      have htasks : done ++ started :: rest = (done ++ task :: rest).modify done.length fun t =>
          { t with state := (d.start r task.options).2 } := by
        rw [Dispatcher.modify_length_append]
      have hadvance : Accounts p before scheduled _
          { (d.start r task.options).1 with tasks := done ++ started :: rest } :=
        h.advance (by simp)
          (fun target stages hstages => course_start r d task.options (hready ▸ hstages))
          (Dispatcher.start_eq r d task.options).1 htasks hnotices hcalls hrenders hfailures
      rw [Dispatcher.settleFrom_cons_of_ready hready, Dispatcher.startEntries, if_pos hready,
        ← List.append_assoc, hlength started]
      refine ih _ ?_
      rw [← hmove]
      exact hadvance
    · rw [Dispatcher.settleFrom_cons_of_not_ready hready, Dispatcher.startEntries, if_neg hready,
        List.nil_append, hlength task]
      refine ih _ ?_
      rw [← hmove]
      exact h

/-- `Accounts` is kept by `d.release call outcome`. -/
theorem release (h : Accounts p before scheduled log d) (call : Nat)
    (outcome : RenderOptions ω → RenderOutcome) :
    Accounts p before scheduled (log ++ d.entries (.release call outcome))
      (d.release call outcome).2 := by
  have hnothing : d.entries (.release call outcome) = [] → (d.release call outcome).2 = d →
      Accounts p before scheduled (log ++ d.entries (.release call outcome))
        (d.release call outcome).2 := by
    intro hentries hsame
    rwa [hentries, hsame, List.append_nil]
  cases hwaiting : d.waitingTask? call with
  | none =>
    exact hnothing (by simp [Dispatcher.entries, hwaiting]) (by simp [Dispatcher.release, hwaiting])
  | some i =>
    cases htask : d.tasks[i]? with
    | none =>
      exact hnothing (by simp [Dispatcher.entries, hwaiting, htask])
        (by simp [Dispatcher.release, hwaiting, htask])
    | some task =>
      -- the task that has been found waits, so that it has started
      have hstate : task.state = .waiting call := Dispatcher.state_of_waitingTask? hwaiting htask
      have hcourse : ∀ target stages, Course target task.state stages →
          Course target (Dispatcher.endState (outcome task.options))
            (stages ++ [.ended (outcome task.options)]) := by
        intro target stages hstages
        rw [hstate] at hstages
        cases hstages
        cases outcome task.options with
        | ok reports => exact .succeeded reports
        | error fault => exact .failed fault
      have hentries : d.entries (.release call outcome) =
          [Stage.ended (outcome task.options)].map fun stage => ⟨i, task.options, stage⟩ := by
        simp [Dispatcher.entries, hwaiting, htask]
      have hrelease : (d.release call outcome).2 =
          (d.finish task.options (outcome task.options)).setState i
          (Dispatcher.endState (outcome task.options)) := by
        simp [Dispatcher.release, hwaiting, htask]
      rw [hentries, hrelease]
      obtain ⟨hproject, hcalls, htasks⟩ := d.finish_eq task.options (outcome task.options)
      refine h.advance htask hcourse hproject (congrArg (List.modify · _ _) htasks) ?_ ?_ ?_ ?_
      · cases outcome task.options <;>
          simp [Dispatcher.setState, Dispatcher.finish, Milestone.notices]
      · simpa [Milestone.calls, Dispatcher.setState] using hcalls
      · cases outcome task.options <;>
          simp [Dispatcher.setState, Dispatcher.finish, Stage.isSuccess]
      · cases outcome task.options <;>
          simp [Dispatcher.setState, Dispatcher.finish, Stage.isFailure]

/-- `Accounts` is kept by `d.cancel i`, if nothing is `.ready`. -/
theorem cancel (h : Accounts p before scheduled log d)
    (hready : ∀ task ∈ d.tasks, task.state ≠ .ready) (i : Nat) :
    Accounts p before scheduled (log ++ d.entries (.cancel i)) (d.cancel i).2 := by
  have hnothing : d.entries (.cancel i) = [] → (d.cancel i).2 = d →
      Accounts p before scheduled (log ++ d.entries (.cancel i)) (d.cancel i).2 := by
    intro hentries hsame
    rwa [hentries, hsame, List.append_nil]
  cases htask : d.tasks[i]? with
  | none =>
    exact hnothing (by simp [Dispatcher.entries, htask]) (by simp [Dispatcher.cancel, htask])
  | some task =>
    -- a task that is no longer pending cannot be cancelled, and the ledger stays
    by_cases hpending : task.isPending = true
    · obtain ⟨call, hstate⟩ :=
        Task.exists_call_of_isPending hpending (hready task (List.mem_of_getElem? htask))
      have hcourse : ∀ target stages, Course target task.state stages →
          Course target .cancelled (stages ++ [.cancelled]) := by
        intro target stages hstages
        rw [hstate] at hstages
        cases hstages
        exact .cancelled
      have hentries : d.entries (.cancel i) =
          [Stage.cancelled].map fun stage => ⟨i, task.options, stage⟩ := by
        simp [Dispatcher.entries, htask, hpending]
      have hcancel : (d.cancel i).2 =
          { d with notices := d.notices ++ [Notice.done task.options.dest] }.setState i
            .cancelled := by
        simp [Dispatcher.cancel, htask, hpending]
      rw [hentries, hcancel]
      exact h.advance htask hcourse rfl rfl rfl (List.append_nil _).symm rfl rfl
    · exact hnothing (by simp [Dispatcher.entries, htask, hpending])
        (by simp [Dispatcher.cancel, htask, hpending])

/-- `Accounts` is kept by `d.perform step`, if nothing is `.ready`. -/
theorem perform (h : Accounts p before scheduled log d)
    (hready : ∀ task ∈ d.tasks, task.state ≠ .ready) (step : DispatchStep ω) :
    Accounts p before (scheduled ++ step.targets p.graph) (log ++ d.entries step)
      (d.perform step) := by
  have hnone : scheduled ++ [] = scheduled := List.append_nil _
  cases step with
  | change path =>
    have hschedule := h.schedule path
    rwa [Dispatcher.targets, h.toProject_eq] at hschedule
  | release call outcome => exact hnone.symm ▸ h.release call outcome
  | cancel index => exact hnone.symm ▸ h.cancel hready index
  | wait =>
    have hlog : log ++ d.entries .wait = log := List.append_nil _
    exact hnone.symm ▸ hlog.symm ▸ h

/-- No task of `d.settle r` is `.ready`. -/
theorem ne_ready_of_mem_settle {task : Task ω} (h : task ∈ (d.settle r).tasks) :
    task.state ≠ .ready := by
  intro hready
  have hnone := (Dispatcher.settle_eq r d).2.2
  have hmem : task.options ∈ Dispatcher.readyAmong (d.settle r).tasks :=
    List.mem_map_of_mem (List.mem_filter.mpr ⟨h, decide_eq_true hready⟩)
  rw [hnone] at hmem
  exact List.not_mem_nil hmem

/-- `Accounts` is kept by `d.follow step`. -/
theorem follow (h : Accounts p before scheduled log d)
    (hready : ∀ task ∈ d.tasks, task.state ≠ .ready) (step : Renderer ω × DispatchStep ω) :
    Accounts p before (scheduled ++ step.2.targets p.graph)
      (log ++ (d.entries step.2 ++ Dispatcher.startEntries step.1 0 (d.perform step.2).tasks))
      (d.follow step) := by
  rw [← List.append_assoc]
  exact settleFrom step.1 [] _ (h.perform hready step.2)

/-- `Accounts` is kept by `d.followAll steps`, and nothing is `.ready` afterwards. -/
theorem followAll (h : Accounts p before scheduled log d)
    (hready : ∀ task ∈ d.tasks, task.state ≠ .ready) (steps : List (Renderer ω × DispatchStep ω)) :
    Accounts p before (scheduled ++ steps.flatMap fun step => step.2.targets p.graph)
      (log ++ d.ledger steps) (d.followAll steps) ∧
      ∀ task ∈ (d.followAll steps).tasks, task.state ≠ .ready := by
  induction steps generalizing d scheduled log with
  | nil => exact ⟨by simpa [Dispatcher.ledger, Dispatcher.followAll] using h, hready⟩
  | cons step steps ih =>
    rw [List.flatMap_cons, Dispatcher.ledger, ← List.append_assoc, ← List.append_assoc]
    exact ih (h.follow hready step) fun task htask => ne_ready_of_mem_settle htask

end Accounts

end Restyle
