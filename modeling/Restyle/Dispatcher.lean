import Restyle.ImportGraph.Traversal
import Restyle.Render.Destination
import Restyle.Render.Renderer

/-! # The rebuild dispatcher
A change of one file renders every file that is affected by it and is no partial. The renders of a
change are announced and scheduled first; they start once the change has been dealt with, in the
order in which they were scheduled, and those that have to wait end when they are released or
cancelled. -/

namespace Restyle

/-- How far a scheduled render has come. -/
inductive TaskState where
  /-- It is scheduled, but has not started. -/
  | ready
  /-- It has started as the renderer's call number `call` and waits to be released. -/
  | waiting (call : Nat)
  /-- It has ended in success. -/
  | succeeded
  /-- It has failed. -/
  | failed
  /-- It has been cancelled. -/
  | cancelled
  deriving DecidableEq, Repr

/-- A scheduled render. -/
structure Task (ω : Type) where
  /-- What is to be rendered. -/
  options : RenderOptions ω
  /-- How far the render has come. -/
  state : TaskState := .ready

/-- Whether a task has neither ended nor been cancelled. -/
def Task.isPending {ω : Type} (t : Task ω) : Bool :=
  match t.state with
  | .ready | .waiting _ => true
  | _ => false

/-- What a dispatcher works for. -/
structure Project (ω : Type) where
  /-- The import graph. -/
  graph : ImportGraph
  /-- The options that all renders share. -/
  base : RenderOptions ω
  /-- Where output goes. -/
  layout : OutputLayout := {}
  /-- The one file that the output file belongs to. -/
  entryFile : Option String := none

namespace Project

variable {ω : Type}

/-- The entry file in canonical form; an empty path counts as none. -/
def entryPoint? (p : Project ω) : Option String := (givenPath p.entryFile).map p.graph.normalize

/-- The output layout for one stylesheet: where there is an entry file, the output file belongs to
no other. -/
def layoutFor (p : Project ω) (src : String) : OutputLayout :=
  match p.entryPoint? with
  | some entry =>
    if p.graph.normalize src = entry then p.layout else { p.layout with outputFile := none }
  | none => p.layout

/-- The options for rendering one stylesheet. -/
def optionsFor (p : Project ω) (src : String) : RenderOptions ω :=
  (p.layoutFor src).derive p.graph.workingDir p.base src

end Project

/-- The state of a dispatcher. -/
structure Dispatcher (ω : Type) extends Project ω where
  /-- The scheduled renders, oldest first. -/
  tasks : List (Task ω) := []
  /-- The calls of the renderer, oldest first. -/
  calls : List (RenderOptions ω) := []
  /-- The number of successful renders. -/
  renderCount : Nat := 0
  /-- The number of failed renders. -/
  failureCount : Nat := 0
  /-- The notices so far, oldest first. -/
  notices : List Notice := []

namespace Dispatcher

variable {ω : Type}

/-- The number of scheduled renders that have not ended. -/
def pending (d : Dispatcher ω) : Nat := d.tasks.countP Task.isPending

/-- The files to render for a change of one file. -/
def targets (d : Dispatcher ω) (path : String) : List String := d.graph.renderTargets path

/-- The options for rendering one stylesheet. -/
def options (d : Dispatcher ω) (src : String) : RenderOptions ω := d.toProject.optionsFor src

/-- Count a render that has ended, and report it. -/
def finish (d : Dispatcher ω) (o : RenderOptions ω) (outcome : RenderOutcome) : Dispatcher ω :=
  let d := { d with notices := d.notices ++ endNotices o outcome }
  match outcome with
  | .ok _ => { d with renderCount := d.renderCount + 1 }
  | .error _ => { d with failureCount := d.failureCount + 1 }

/-- The state of a task whose render has ended. -/
def endState : RenderOutcome → TaskState
  | .ok _ => .succeeded
  | .error _ => .failed

/-! ## Scheduling -/

/-- Announce and schedule the renders of a change. -/
def schedule (d : Dispatcher ω) (path : String) : Dispatcher ω :=
  let targets := d.targets path
  { d with
    tasks := d.tasks ++ targets.map fun target => { options := d.options target }
    notices := d.notices ++ targets.map fun target => .warn ("=> changed: " ++ target) }

/-- Start one render: it ends at once, or waits. -/
def start (r : Renderer ω) (d : Dispatcher ω) (o : RenderOptions ω) : Dispatcher ω × TaskState :=
  let call := d.calls.length
  let d := { d with calls := d.calls ++ [o] }
  if r.waits o then (d, .waiting call)
  else (d.finish o (r.outcome o), endState (r.outcome o))

/-- Start every render that is ready, in the order in which they were scheduled: the tasks in `done`
have been looked at, those in the second list have not. -/
def settleFrom (r : Renderer ω) (d : Dispatcher ω) (done : List (Task ω)) :
    List (Task ω) → Dispatcher ω
  | [] => { d with tasks := done }
  | task :: rest =>
    match task.state with
    | .ready =>
      let (d, state) := d.start r task.options
      settleFrom r d (done ++ [{ task with state }]) rest
    | _ => settleFrom r d (done ++ [task]) rest

/-- Start every render that is ready. -/
def settle (r : Renderer ω) (d : Dispatcher ω) : Dispatcher ω := settleFrom r d [] d.tasks

/-- Start the first render that is ready, if there is one: the tasks in `done` are not ready. -/
def startFirst (r : Renderer ω) (d : Dispatcher ω) (done : List (Task ω)) :
    List (Task ω) → Dispatcher ω
  | [] => d
  | task :: rest =>
    match task.state with
    | .ready =>
      let (d, state) := d.start r task.options
      { d with tasks := done ++ { task with state } :: rest }
    | _ => startFirst r d (done ++ [task]) rest

/-- Start the first render that is ready. -/
def startNext (r : Renderer ω) (d : Dispatcher ω) : Dispatcher ω := startFirst r d [] d.tasks

/-- Deal with a change of one file: schedule the renders, and start them. -/
def change (r : Renderer ω) (d : Dispatcher ω) (path : String) : Dispatcher ω :=
  (d.schedule path).settle r

/-! ## Waiting renders -/

/-- The position of the task that waits as the given call. -/
def waitingTask? (d : Dispatcher ω) (call : Nat) : Option Nat :=
  d.tasks.findIdx? fun task => task.state = .waiting call

/-- Give a task another state. -/
def setState (d : Dispatcher ω) (index : Nat) (state : TaskState) : Dispatcher ω :=
  { d with tasks := d.tasks.modify index fun task => { task with state } }

/-- Let a waiting call of the renderer end. The answer is `false` when no such call waits. -/
def release (d : Dispatcher ω) (call : Nat) (outcome : RenderOptions ω → RenderOutcome) :
    Bool × Dispatcher ω :=
  match d.waitingTask? call with
  | none => (false, d)
  | some index =>
    match d.tasks[index]? with
    | none => (false, d)
    | some task =>
      let ended := outcome task.options
      (true, (d.finish task.options ended).setState index (endState ended))

/-- Cancel a scheduled render, counting from the first one. The answer is `false` when it has ended
or was never scheduled. -/
def cancel (d : Dispatcher ω) (index : Nat) : Bool × Dispatcher ω :=
  match d.tasks[index]? with
  | some task =>
    if task.isPending then
      let d := { d with notices := d.notices ++ [Notice.done task.options.dest] }
      (true, d.setState index .cancelled)
    else (false, d)
  | none => (false, d)

/-! ## Direct renders -/

/-- Render one file at once. The answer tells whether the render succeeded. -/
def renderNow (r : Renderer ω) (d : Dispatcher ω) (src : String) : Bool × Dispatcher ω :=
  let o := d.options src
  let outcome := r.outcome o
  (outcome.isOk, { d with calls := d.calls ++ [o] }.finish o outcome)

end Dispatcher

end Restyle
