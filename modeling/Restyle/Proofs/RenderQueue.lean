import Mathlib
import Restyle.Dispatcher

/-! # The queue of renders
Renders start in the order in which they were scheduled. What a dispatcher has called and what is
ready make one list (`Dispatcher.renders`): scheduling adds to its end, and neither starting a
render nor its end, in success or in failure, changes it. -/

namespace Restyle.Dispatcher

variable {ω : Type} {d : Dispatcher ω} {r : Renderer ω}

/-! ## What is ready -/

/-- The renders among some tasks that are ready, in order. -/
def readyAmong (tasks : List (Task ω)) : List (RenderOptions ω) :=
  (tasks.filter (·.state = .ready)).map (·.options)

/-- `readyAmong [] = []`. -/
@[simp] theorem readyAmong_nil : readyAmong ([] : List (Task ω)) = [] := rfl

/-- `readyAmong` goes through `++`. -/
theorem readyAmong_append (tasks others : List (Task ω)) :
    readyAmong (tasks ++ others) = readyAmong tasks ++ readyAmong others := by
  rw [readyAmong, List.filter_append, List.map_append]
  rfl

/-- `readyAmong (task :: tasks) = task.options :: readyAmong tasks` for a task that is `.ready`. -/
theorem readyAmong_cons_of_ready {task : Task ω} (h : task.state = .ready) (tasks : List (Task ω)) :
    readyAmong (task :: tasks) = task.options :: readyAmong tasks := by
  rw [readyAmong, List.filter_cons_of_pos (by simp [h]), List.map_cons]
  rfl

/-- `readyAmong (task :: tasks) = readyAmong tasks` for a task that is not `.ready`. -/
theorem readyAmong_cons_of_not_ready {task : Task ω} (h : task.state ≠ .ready)
    (tasks : List (Task ω)) : readyAmong (task :: tasks) = readyAmong tasks := by
  rw [readyAmong, List.filter_cons_of_neg (by simp [h])]
  rfl

/-- The calls of the renderer, and then the renders that are ready: all renders that were ever asked
for, in order. -/
def renders (d : Dispatcher ω) : List (RenderOptions ω) := d.calls ++ readyAmong d.tasks

/-! ## Scheduling -/

/-- `schedule` leaves the project as it is. -/
@[simp] theorem schedule_toProject (d : Dispatcher ω) (path : String) :
    (d.schedule path).toProject = d.toProject := rfl

/-- `(d.schedule path).renders = d.renders ++ (d.targets path).map d.options`. -/
theorem renders_schedule (d : Dispatcher ω) (path : String) :
    (d.schedule path).renders = d.renders ++ (d.targets path).map d.options := by
  have hready : readyAmong ((d.targets path).map fun target => { options := d.options target }) =
      (d.targets path).map d.options := by
    induction d.targets path with
    | nil => rfl
    | cons target targets ih =>
      rw [List.map_cons, readyAmong_cons_of_ready rfl, ih, List.map_cons]
  unfold renders schedule
  simp only
  rw [readyAmong_append, hready, List.append_assoc]

/-! ## Starting -/

/-- `d.finish o outcome` leaves project, calls and tasks as they are. -/
theorem finish_eq (d : Dispatcher ω) (o : RenderOptions ω) (outcome : RenderOutcome) :
    (d.finish o outcome).toProject = d.toProject ∧ (d.finish o outcome).calls = d.calls ∧
      (d.finish o outcome).tasks = d.tasks := by
  unfold finish
  cases outcome <;> exact ⟨rfl, rfl, rfl⟩

/-- No outcome makes a task `.ready`. -/
theorem endState_ne_ready (outcome : RenderOutcome) : endState outcome ≠ .ready := by
  cases outcome <;> exact nofun

/-- `d.start r o` calls the renderer with `o` behind all other calls, and leaves a task that is not
`.ready`. -/
theorem start_eq (r : Renderer ω) (d : Dispatcher ω) (o : RenderOptions ω) :
    (d.start r o).1.toProject = d.toProject ∧ (d.start r o).1.calls = d.calls ++ [o] ∧
      (d.start r o).2 ≠ .ready := by
  unfold start
  simp only
  split
  · exact ⟨rfl, rfl, nofun⟩
  · obtain ⟨hproject, hcalls, -⟩ :=
      finish_eq { d with calls := d.calls ++ [o] } o (r.outcome o)
    exact ⟨hproject, hcalls, endState_ne_ready _⟩

/-- `settleFrom r d done rest` calls the renderer for `readyAmong rest`, in order. -/
theorem settleFrom_eq (r : Renderer ω) (d : Dispatcher ω) (done rest : List (Task ω))
    (hdone : readyAmong done = []) :
    (settleFrom r d done rest).toProject = d.toProject ∧
      (settleFrom r d done rest).calls = d.calls ++ readyAmong rest ∧
      readyAmong (settleFrom r d done rest).tasks = [] := by
  -- what has been passed over stays behind and is not ready, so that the calls follow the tasks in
  -- order
  induction rest generalizing d done with
  | nil => exact ⟨rfl, (List.append_nil _).symm, hdone⟩
  | cons task rest ih =>
    unfold settleFrom
    split
    · next hready =>
      obtain ⟨hproject, hcalls, hstate⟩ := start_eq r d task.options
      have hdone' : readyAmong (done ++ [{ task with state := (d.start r task.options).2 }]) =
        [] := by
        rw [readyAmong_append, hdone, readyAmong_cons_of_not_ready hstate]
        rfl
      obtain ⟨hproject', hcalls', hrest⟩ := ih (d.start r task.options).1 _ hdone'
      refine ⟨hproject'.trans hproject, ?_, hrest⟩
      rw [hcalls', hcalls, readyAmong_cons_of_ready hready, List.append_assoc]
      rfl
    · next hready =>
      have hdone' : readyAmong (done ++ [task]) = [] := by
        rw [readyAmong_append, hdone, readyAmong_cons_of_not_ready hready]
        rfl
      rw [readyAmong_cons_of_not_ready hready]
      exact ih d _ hdone'

/-- `(d.settle r).calls = d.renders`, and nothing is `.ready` afterwards. -/
theorem settle_eq (r : Renderer ω) (d : Dispatcher ω) :
    (d.settle r).toProject = d.toProject ∧ (d.settle r).calls = d.renders ∧
      readyAmong (d.settle r).tasks = [] :=
  settleFrom_eq r d [] d.tasks rfl

/-- `(d.settle r).renders = d.renders`. -/
theorem renders_settle (r : Renderer ω) (d : Dispatcher ω) : (d.settle r).renders = d.renders := by
  obtain ⟨-, hcalls, hready⟩ := settle_eq r d
  rw [renders, hcalls, hready, List.append_nil]

/-- `startFirst` moves the first task that is `.ready` to the calls: `renders` stay. -/
theorem startFirst_eq (r : Renderer ω) (d : Dispatcher ω) (done rest : List (Task ω))
    (htasks : d.tasks = done ++ rest) (hdone : readyAmong done = []) :
    (startFirst r d done rest).toProject = d.toProject ∧
      (startFirst r d done rest).renders = d.renders := by
  induction rest generalizing done with
  | nil => exact ⟨rfl, rfl⟩
  | cons task rest ih =>
    unfold startFirst
    split
    · next hready =>
      obtain ⟨hproject, hcalls, hstate⟩ := start_eq r d task.options
      refine ⟨hproject, ?_⟩
      unfold renders
      simp only
      rw [hcalls, htasks, readyAmong_append, readyAmong_append, hdone,
        readyAmong_cons_of_ready hready, readyAmong_cons_of_not_ready hstate]
      simp
    · next hready =>
      refine ih _ ?_ ?_
      · rw [htasks, List.append_assoc]
        rfl
      · rw [readyAmong_append, hdone, readyAmong_cons_of_not_ready hready]
        rfl

/-- `startNext` moves the first task that is `.ready` to the calls: `renders` stay. -/
theorem startNext_eq (r : Renderer ω) (d : Dispatcher ω) :
    (d.startNext r).toProject = d.toProject ∧ (d.startNext r).renders = d.renders :=
  startFirst_eq r d [] d.tasks rfl rfl

/-! ## Waiting renders -/

/-- `readyAmong` stays when a task that is not `.ready` is given another state that is not
`.ready`. -/
theorem readyAmong_modify {tasks : List (Task ω)} {index : Nat} {state : TaskState}
    (hstate : state ≠ .ready) (hbefore : ∀ task, tasks[index]? = some task → task.state ≠ .ready) :
    readyAmong (tasks.modify index fun task => { task with state }) = readyAmong tasks := by
  induction tasks generalizing index with
  | nil => simp
  | cons task tasks ih =>
    cases index with
    | zero =>
      have hhead : task.state ≠ .ready := hbefore task rfl
      rw [List.modify_zero_cons, readyAmong_cons_of_not_ready hhead,
        readyAmong_cons_of_not_ready hstate]
    | succ index =>
      have htail := ih fun other hother => hbefore other (by simpa using hother)
      rw [List.modify_succ_cons]
      by_cases hready : task.state = .ready
      · rw [readyAmong_cons_of_ready hready, readyAmong_cons_of_ready hready, htail]
      · rw [readyAmong_cons_of_not_ready hready, readyAmong_cons_of_not_ready hready, htail]

/-- Tasks keep their options when one of them is given another state. -/
theorem map_options_modify (tasks : List (Task ω)) (index : Nat) (state : TaskState) :
    (tasks.modify index fun task => { task with state }).map (·.options) =
      tasks.map (·.options) := by
  refine List.ext_getElem? fun j => ?_
  simp only [List.getElem?_map, List.getElem?_modify]
  cases tasks[j]? with
  | none => rfl
  | some task => by_cases hj : index = j <;> simp [hj]

/-- `d.waitingTask? call` is the index of a task in the state `.waiting call`. -/
theorem state_of_waitingTask? {call index : Nat} {task : Task ω}
    (h : d.waitingTask? call = some index) (htask : d.tasks[index]? = some task) :
    task.state = .waiting call := by
  obtain ⟨hlt, hstate, -⟩ := List.findIdx?_eq_some_iff_getElem.mp h
  rw [List.getElem?_eq_getElem hlt] at htask
  cases htask
  exact of_decide_eq_true hstate

/-- `d.release call outcome` leaves project and `renders` as they are. -/
theorem release_eq (d : Dispatcher ω) (call : Nat) (outcome : RenderOptions ω → RenderOutcome) :
    (d.release call outcome).2.toProject = d.toProject ∧
      (d.release call outcome).2.renders = d.renders := by
  unfold release
  split
  · exact ⟨rfl, rfl⟩
  · next index hindex =>
    split
    · exact ⟨rfl, rfl⟩
    · next task htask =>
      obtain ⟨hproject, hcalls, htasks⟩ := finish_eq d task.options (outcome task.options)
      refine ⟨hproject, ?_⟩
      -- the task that has been found waits, so that it was not ready before either
      have hwaits : task.state = .waiting call := state_of_waitingTask? hindex htask
      unfold renders setState
      simp only
      rw [hcalls, htasks, readyAmong_modify (endState_ne_ready _)]
      intro other hother
      rw [htask] at hother
      cases hother
      rw [hwaits]
      exact nofun

end Restyle.Dispatcher
