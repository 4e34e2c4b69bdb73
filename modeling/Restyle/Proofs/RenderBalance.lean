import Mathlib
import Restyle.Proofs.RenderLedger

/-! # The balance of renders
No render is lost, and none is reported twice: the renders that a dispatcher has scheduled are those
that it has counted, those that were cancelled, and those that wait; and of what it has reported,
each ended render has exactly its own share (`Dispatcher.isBalanced_followAll`). -/

namespace Restyle

variable {ω : Type}

/-! ## Courses -/

namespace Course

variable {target : String} {state : TaskState} {stages : List Stage}

/-- A `Course` begins with `.announced target`, and has no other announcement. -/
theorem exists_cons (h : Course target state stages) :
    ∃ later, stages = .announced target :: later ∧ ∀ other, Stage.announced other ∉ later := by
  cases h <;> exact ⟨_, rfl, by simp⟩

/-- A `Course` with `.ended (.error fault)` is that of a task in the state `.failed`. -/
theorem eq_failed_of_mem (h : Course target state stages) {fault : RenderFault}
    (hfault : Stage.ended (.error fault) ∈ stages) : state = .failed := by
  cases h with
  | failed fault => rfl
  | _ => simp at hfault

end Course

/-! ## The ledger, task by task -/

/-- The entries of the tasks `0`, …, `n - 1`, one task after the other, are a permutation of the
ledger. -/
theorem perm_flatMap_filter_task {log : List (Milestone ω)} {n : Nat} (h : ∀ m ∈ log, m.task < n) :
    ((List.range n).flatMap fun i => log.filter (·.task = i)).Perm log := by
  induction n generalizing log with
  | zero =>
    cases log with
    | nil => exact .refl _
    | cons m log => exact absurd (h m (.head _)) (Nat.not_lt_zero _)
  | succ n ih =>
    -- the last task on one side, and all others on the other
    set others := log.filter fun m => !decide (m.task = n) with hothers
    have hlt : ∀ m ∈ others, m.task < n := by
      intro m hm
      obtain ⟨hm, hne⟩ := List.mem_filter.mp hm
      have hlt := h m hm
      simp only [Bool.not_eq_true', decide_eq_false_iff_not] at hne
      omega
    have hsame : ∀ i ∈ List.range n, log.filter (·.task = i) = others.filter (·.task = i) := by
      intro i hi
      rw [hothers, List.filter_filter]
      refine List.filter_congr fun m _ => ?_
      have hlt := List.mem_range.mp hi
      by_cases hmi : m.task = i
      · simp [hmi, Nat.ne_of_lt hlt]
      · simp [hmi]
    rw [List.range_succ, List.flatMap_append, List.flatMap_singleton, List.flatMap_congr hsame]
    exact ((ih hlt).append_right _).trans
      (List.perm_append_comm.trans (List.filter_append_perm (fun m => decide (m.task = n)) log))

namespace Accounts

variable {p : Project ω} {before : List Notice} {scheduled : List String} {log : List (Milestone ω)}
  {d : Dispatcher ω}

/-- What `f` makes of the ledger is a permutation of what `g` makes of the tasks, if it is so for
every `Course`. -/
theorem perm_flatMap (h : Accounts p before scheduled log d) {α : Type} (f : Milestone ω → List α)
    (g : Task ω → List α)
    (hcourse : ∀ i (task : Task ω) target stages, Course target task.state stages →
      (stages.map fun stage => (⟨i, task.options, stage⟩ : Milestone ω)).flatMap f = g task) :
    (log.flatMap f).Perm (d.tasks.flatMap g) := by
  -- the entries of each task are its course, and that makes of them what `g` makes of the task
  have hparts : (List.range d.tasks.length).map (fun i => (log.filter (·.task = i)).flatMap f) =
      d.tasks.map g := by
    refine List.ext_getElem (by simp) fun i hi hi' => ?_
    have hlt : i < d.tasks.length := by simpa using hi
    obtain ⟨target, stages, -, hstages, hlog⟩ := h.course i _ (List.getElem?_eq_getElem hlt)
    simp only [List.getElem_map, List.getElem_range]
    rw [hlog, hcourse i _ target stages hstages]
  have hperm := (perm_flatMap_filter_task h.task_lt).flatMap_right f
  rw [List.flatMap_assoc, List.flatMap_def, hparts, ← List.flatMap_def] at hperm
  exact hperm.symm

/-- As many entries of the ledger satisfy `q` as tasks satisfy `g`, if it is one or none for every
`Course`. -/
theorem countP_stage (h : Accounts p before scheduled log d) (q : Stage → Bool)
    (g : TaskState → Bool) (hcourse : ∀ target state stages, Course target state stages →
      stages.countP q = if g state then 1 else 0) :
    log.countP (q ·.stage) = d.tasks.countP (g ·.state) := by
  -- to count is to collect one unit for everything that is counted
  have hunits : ∀ {α : Type} (test : α → Bool) (xs : List α),
      (xs.flatMap fun x => List.replicate (if test x then 1 else 0) ()).length =
        xs.countP test := by
    intro α test xs
    induction xs with
    | nil => rfl
    | cons x xs ih =>
      rw [List.flatMap_cons, List.length_append, ih, List.length_replicate,
        List.countP_cons, Nat.add_comm]
  have hperm := h.perm_flatMap (fun m => List.replicate (if q m.stage then 1 else 0) ())
    (fun task => List.replicate (if g task.state then 1 else 0) ())
      fun i task target stages hstages => by
      rw [← hcourse target _ stages hstages, List.eq_replicate_iff]
      refine ⟨?_, fun _ _ => rfl⟩
      rw [List.flatMap_map, hunits q]
  rw [← hunits, ← hunits]
  exact hperm.length_eq

/-- Every task is in one of the states `.succeeded`, `.failed` and `.cancelled`, or `isPending`. -/
theorem length_tasks (tasks : List (Task ω)) :
    tasks.length = tasks.countP (·.state = .succeeded) + tasks.countP (·.state = .failed) +
      tasks.countP (·.state = .cancelled) + tasks.countP Task.isPending := by
  induction tasks with
  | nil => rfl
  | cons task tasks ih =>
    obtain ⟨o, state⟩ := task
    rw [List.length_cons, ih]
    simp only [List.countP_cons, Task.isPending]
    cases state <;> simp <;> omega

/-- `d.renderCount` is the number of tasks in the state `.succeeded`. -/
theorem renderCount_eq_countP (h : Accounts p before scheduled log d) :
    d.renderCount = d.tasks.countP (·.state = .succeeded) := by
  rw [h.renderCount_eq]
  refine h.countP_stage Stage.isSuccess (· = .succeeded) fun target state stages hstages => ?_
  cases hstages <;> rfl

/-- `d.failureCount` is the number of tasks in the state `.failed`. -/
theorem failureCount_eq_countP (h : Accounts p before scheduled log d) :
    d.failureCount = d.tasks.countP (·.state = .failed) := by
  rw [h.failureCount_eq]
  refine h.countP_stage Stage.isFailure (· = .failed) fun target state stages hstages => ?_
  cases hstages <;> rfl

end Accounts

/-! ## What is reported -/

/-- The notice of a report is neither an `.error` nor a `.done`. -/
theorem Report.kind_notice (report : Report) :
    report.notice.kind ≠ .error ∧ report.notice.kind ≠ .done := by
  cases report <;> simp [Report.notice, Notice.log, Notice.warn, Notice.write]

namespace Milestone

/-- `endNotices o outcome` has one `.done`, that of `o.dest`. -/
theorem filter_done_endNotices (o : RenderOptions ω) (outcome : RenderOutcome) :
    (endNotices o outcome).filter (·.kind = .done) = [.done o.dest] := by
  cases outcome with
  | ok reports =>
    have hnone : (reports.map Report.notice).filter (·.kind = .done) = [] := by
      refine List.filter_eq_nil_iff.mpr fun n hn => ?_
      obtain ⟨report, -, rfl⟩ := List.mem_map.mp hn
      simpa using report.kind_notice.2
    rw [endNotices, List.filter_append, hnone]
    rfl
  | error fault => rfl

/-- The notices of one entry hold no `.error`, unless it is `.ended (.error fault)`: then they are
that failure and `.done`. -/
theorem notices_cases (m : Milestone ω) :
    (m.stage.isFailure = false ∧ ∀ n ∈ m.notices, n.kind ≠ .error) ∨
      ∃ fault, m.stage = .ended (.error fault) ∧
        m.notices = [.error (fault.failure m.options.src), .done m.options.dest] := by
  obtain ⟨i, o, stage⟩ := m
  cases stage with
  | announced target => exact .inl ⟨rfl, by simp [notices, Notice.warn]⟩
  | started => exact .inl ⟨rfl, by simp [notices]⟩
  | cancelled => exact .inl ⟨rfl, by simp [notices, Notice.done]⟩
  | ended outcome =>
    cases outcome with
    | error fault => exact .inr ⟨fault, rfl, rfl⟩
    | ok reports =>
      refine .inl ⟨rfl, fun n hn => ?_⟩
      rcases List.mem_append.mp hn with hn | hn
      · obtain ⟨report, -, rfl⟩ := List.mem_map.mp hn
        exact report.kind_notice.1
      · rw [List.mem_singleton.mp hn]
        simp [Notice.done]

/-- There are as many `.error`s among the notices of a ledger as failed renders in it. -/
theorem countP_error_flatMap_notices (log : List (Milestone ω)) :
    (log.flatMap notices).countP (·.kind = .error) = log.countP (·.stage.isFailure) := by
  induction log with
  | nil => rfl
  | cons m log ih =>
    rw [List.flatMap_cons, List.countP_append, ih, List.countP_cons, Nat.add_comm]
    congr 1
    rcases m.notices_cases with ⟨hstage, hnone⟩ | ⟨fault, hstage, hnotices⟩
    · rw [hstage, List.countP_eq_zero.mpr (by simpa using hnone)]
      rfl
    · rw [hstage, hnotices]
      rfl

/-- Every `.error` among the notices of a ledger is the failure of a render, with the `.done` of
that render right behind it. -/
theorem exists_failed_of_error (log : List (Milestone ω)) {l₁ l₂ : List Notice} {n : Notice}
    (h : log.flatMap notices = l₁ ++ n :: l₂) (hn : n.kind = .error) :
    ∃ first m rest fault, log = first ++ m :: rest ∧ m.stage = .ended (.error fault) ∧
      l₁ = first.flatMap notices ∧ n = .error (fault.failure m.options.src) ∧
      l₂ = .done m.options.dest :: rest.flatMap notices := by
  induction log generalizing l₁ with
  | nil => simp at h
  | cons m log ih =>
    rw [List.flatMap_cons] at h
    rcases List.append_eq_append_iff.mp h with ⟨l₁', rfl, hlog⟩ | ⟨own, hown, hbehind⟩
    · -- the failure is reported behind everything that is reported of the first event
      obtain ⟨first, m', rest, fault, rfl, hstage, rfl, hfailure, hdone⟩ := ih hlog
      exact ⟨m :: first, m', rest, fault, rfl, hstage, rfl, hfailure, hdone⟩
    · cases own with
      | nil =>
        obtain ⟨first, m', rest, fault, rfl, hstage, hfirst, hfailure, hdone⟩ := @ih [] hbehind.symm
        refine ⟨m :: first, m', rest, fault, rfl, hstage, ?_, hfailure, hdone⟩
        rw [List.flatMap_cons, ← hfirst, hown, List.append_nil, List.append_nil]
      | cons n' own =>
        obtain ⟨rfl, hrest⟩ : n = n' ∧ l₂ = own ++ log.flatMap notices := by simpa using hbehind
        rcases m.notices_cases with ⟨-, hnone⟩ | ⟨fault, hstage, hnotices⟩
        · exact absurd hn (hnone n (by simp [hown]))
        · rw [hnotices] at hown
          cases l₁ with
          | nil =>
            obtain ⟨rfl, rfl⟩ : n = .error (fault.failure m.options.src) ∧
                own = [.done m.options.dest] := by
              simpa [eq_comm] using hown
            exact ⟨[], m, log, fault, rfl, hstage, rfl, rfl, hrest⟩
          | cons n' l₁ =>
            -- what follows the failure is no failure
            have hlast : n ∈ [Notice.done m.options.dest] := by
              obtain ⟨-, hown⟩ := List.cons.inj hown
              rw [hown]
              simp
            rw [List.mem_singleton.mp hlast] at hn
            cases hn

end Milestone

/-! ## The balance -/

/-- The balance of a dispatcher that had reported `before` when it began, and has scheduled a render
for each of `scheduled`. -/
structure IsBalanced (p : Project ω) (before : List Notice) (scheduled : List String)
    (log : List (Milestone ω)) (d : Dispatcher ω) : Prop
    extends Accounts p before scheduled log d where
  /-- Every scheduled render has succeeded, has failed, was cancelled, or is pending. -/
  length_eq : scheduled.length =
    d.renderCount + d.failureCount + d.tasks.countP (·.state = .cancelled) + d.pending
  /-- What is pending waits for its release. -/
  waiting : ∀ task ∈ d.tasks, task.isPending → ∃ call, task.state = .waiting call
  /-- Every render has been announced once, before anything else happened to it. -/
  announced : ∀ i task, d.tasks[i]? = some task → ∃ target first rest, scheduled[i]? = some target ∧
    log = first ++ ⟨i, task.options, .announced target⟩ :: rest ∧ (∀ m ∈ first, m.task ≠ i) ∧
    ∀ m ∈ rest, m.task = i → ∀ other, m.stage ≠ .announced other
  /-- The end of every render that has ended is reported once, and no other. -/
  done_perm : ((log.flatMap Milestone.notices).filter (·.kind = .done)).Perm
    ((d.tasks.filter (!·.isPending)).map fun task => .done task.options.dest)
  /-- There are as many reports of failures as there are failed renders. -/
  countP_error : (log.flatMap Milestone.notices).countP (·.kind = .error) = d.failureCount
  /-- Each of them is that of a failed render, and next is reported the end of the same render. -/
  error_done : ∀ l₁ n l₂, log.flatMap Milestone.notices = l₁ ++ n :: l₂ → n.kind = .error →
    ∃ i task fault first rest, d.tasks[i]? = some task ∧ task.state = .failed ∧
      log = first ++ ⟨i, task.options, .ended (.error fault)⟩ :: rest ∧
      l₁ = first.flatMap Milestone.notices ∧ n = .error (fault.failure task.options.src) ∧
      l₂ = .done task.options.dest :: rest.flatMap Milestone.notices

namespace Accounts

variable {p : Project ω} {before : List Notice} {scheduled : List String} {log : List (Milestone ω)}
  {d : Dispatcher ω}

/-- Every entry of the ledger stands in the `Course` of its task. -/
theorem exists_task (h : Accounts p before scheduled log d) {m : Milestone ω} (hm : m ∈ log) :
    ∃ task target stages, d.tasks[m.task]? = some task ∧ m.options = task.options ∧
      Course target task.state stages ∧ m.stage ∈ stages := by
  have htask := List.getElem?_eq_getElem (h.task_lt m hm)
  obtain ⟨target, stages, -, hstages, hlog⟩ := h.course _ _ htask
  have hown : m ∈ log.filter (·.task = m.task) := List.mem_filter.mpr ⟨hm, by simp⟩
  rw [hlog] at hown
  obtain ⟨stage, hstage, hm'⟩ := List.mem_map.mp hown
  exact ⟨_, target, stages, htask, (congrArg Milestone.options hm').symm, hstages,
    congrArg Milestone.stage hm' ▸ hstage⟩

/-- The first entry of every task is `.announced` of what was scheduled, and it has no other
announcement. -/
theorem announced (h : Accounts p before scheduled log d) {i : Nat} {task : Task ω}
    (htask : d.tasks[i]? = some task) : ∃ target first rest, scheduled[i]? = some target ∧
      log = first ++ ⟨i, task.options, .announced target⟩ :: rest ∧ (∀ m ∈ first, m.task ≠ i) ∧
      ∀ m ∈ rest, m.task = i → ∀ other, m.stage ≠ .announced other := by
  obtain ⟨target, stages, htarget, hstages, hlog⟩ := h.course i task htask
  obtain ⟨later, rfl, hlater⟩ := hstages.exists_cons
  rw [List.map_cons] at hlog
  obtain ⟨first, rest, rfl, hfirst, -, hrest⟩ := List.filter_eq_cons_iff.mp hlog
  refine ⟨target, first, rest, htarget, rfl, fun m hm => by simpa using hfirst m hm, ?_⟩
  intro m hm hmi other hstage
  have hown : m ∈ rest.filter (·.task = i) := List.mem_filter.mpr ⟨hm, by simpa using hmi⟩
  rw [hrest] at hown
  obtain ⟨stage, hmem, rfl⟩ := List.mem_map.mp hown
  exact hlater other (hstage ▸ hmem)

/-- `(log.flatMap Milestone.notices).filter (·.kind = .done)` is a permutation of
`.done task.options.dest` for the tasks that are not pending. -/
theorem done_perm (h : Accounts p before scheduled log d) :
    ((log.flatMap Milestone.notices).filter (·.kind = .done)).Perm
      ((d.tasks.filter (!·.isPending)).map fun task => .done task.options.dest) := by
  have hperm := h.perm_flatMap (fun m => m.notices.filter (·.kind = .done))
    (fun task => if task.isPending then [] else [.done task.options.dest]) ?_
  · rw [← List.filter_flatMap] at hperm
    convert hperm using 1
    induction d.tasks with
    | nil => rfl
    | cons task tasks ih =>
      rw [List.flatMap_cons, ← ih]
      by_cases hpending : task.isPending = true <;> simp [hpending]
  · rintro i ⟨o, state⟩ target stages hstages
    cases hstages <;>
      simp [Milestone.notices, Milestone.filter_done_endNotices, Task.isPending,
        Notice.warn, Notice.done]

/-- `Accounts` of a dispatcher in which nothing is `.ready` gives `IsBalanced`. -/
theorem isBalanced (h : Accounts p before scheduled log d)
    (hready : ∀ task ∈ d.tasks, task.state ≠ .ready) : IsBalanced p before scheduled log d where
  toAccounts := h
  length_eq := by
    rw [h.length_scheduled, h.renderCount_eq_countP, h.failureCount_eq_countP, Dispatcher.pending]
    exact length_tasks d.tasks
  waiting task htask hpending := Task.exists_call_of_isPending hpending (hready task htask)
  announced i task htask := h.announced htask
  done_perm := h.done_perm
  countP_error := (Milestone.countP_error_flatMap_notices log).trans h.failureCount_eq.symm
  error_done l₁ n l₂ hsplit hn := by
    obtain ⟨first, m, rest, fault, hlog, hstage, hfirst, hfailure, hdone⟩ :=
      Milestone.exists_failed_of_error log hsplit hn
    obtain ⟨task, target, stages, htask, hoptions, hstages, hmem⟩ :=
      h.exists_task (m := m) (by simp [hlog])
    have hfailed : task.state = .failed := hstages.eq_failed_of_mem (hstage ▸ hmem)
    refine ⟨m.task, task, fault, first, rest, htask, hfailed, ?_, hfirst, hoptions ▸ hfailure,
      hoptions ▸ hdone⟩
    rw [hlog, ← hoptions, ← hstage]

end Accounts

/-- Every sequence of `DispatchStep`s leaves a dispatcher balanced, however the renderer behaves. -/
theorem Dispatcher.isBalanced_followAll (p : Project ω) (before : List Notice)
    (steps : List (Renderer ω × DispatchStep ω)) :
    let start : Dispatcher ω := { toProject := p, notices := before }
    IsBalanced p before (steps.flatMap fun step => step.2.targets p.graph) (start.ledger steps)
      (start.followAll steps) := by
  obtain ⟨haccounts, hready⟩ :=
    (Accounts.init p before).followAll (fun task htask => absurd htask List.not_mem_nil) steps
  exact haccounts.isBalanced hready

end Restyle
