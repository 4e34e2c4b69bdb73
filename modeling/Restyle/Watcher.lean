import Restyle.Failure
import Restyle.FileTree
import Restyle.Watcher.Event
import Restyle.Watcher.Observer

/-! # The watcher
A watcher follows a fixed set of files. The first change of a file is delivered at once; further
changes within the window are collapsed into one delivery when the window closes. With an empty
window every change is delivered. Time is a clock of whole units, and the timers that close windows
fire when the clock reaches them. -/

namespace Restyle

/-- A delivery to the watcher's client. -/
structure Delivery where
  /-- The watched file. -/
  path : String
  /-- What happened to it. -/
  kind : ChangeKind
  /-- When it was delivered. -/
  time : Nat
  deriving DecidableEq, Repr

/-- A timer that closes the window of a file. -/
structure Timer where
  /-- The number of the timer, in order of creation. -/
  id : Nat
  /-- When the timer fires. -/
  deadline : Nat
  /-- The file whose window closes. -/
  path : String
  deriving DecidableEq, Repr

/-- What a watcher is made with. -/
structure WatchSetup where
  /-- The watched files, in canonical form. -/
  paths : List String
  /-- The file tree as it is at the start, for the links that lead to the files. -/
  tree : FileTree := {}
  /-- The length of the window. -/
  window : Nat := 0
  /-- The text of the error that the client raises, after it has taken a delivery for a file. -/
  raises : String → Option String := fun _ => none
  /-- The deliveries, by number, after which the client raises no error. -/
  spared : Nat → Bool := fun _ => false
  /-- Whether the client wants to hear of failures. -/
  wantsErrors : Bool := true
  /-- Whether every timer that is cancelled still fires, because the cancellation comes too late. -/
  lateTimers : Bool := false
  /-- The timers, by number, that still fire when they are cancelled. -/
  isLate : Nat → Bool := fun _ => false

namespace WatchSetup

/-- The setup for files in any spelling. A negative window counts as empty. -/
def make (tree : FileTree) (paths : List String) (window : Int) : WatchSetup :=
  { paths := paths.map tree.normalize, tree, window := window.toNat }

/-- Paths in increasing order, each of them once. -/
def inOrder (paths : List String) : List String :=
  paths.eraseDups.mergeSort fun a b => decide (a ≤ b)

/-- The watched files, in order. -/
def watched (s : WatchSetup) : List String := inOrder s.paths

/-- The directories of the watched files, in order. -/
def directories (s : WatchSetup) : List String := inOrder (s.paths.map Path.directory)

/-- The watched file that a real path stands for: the last one that leads there. -/
def alias? (s : WatchSetup) (real : String) : Option String :=
  s.paths.reverse.find? fun path => s.tree.realPath path = real

/-- The watched file that a path means, by its canonical form or else by the real path that is
behind it when it is met. -/
def match? (s : WatchSetup) (sighting : Sighting) : Option String :=
  let path := s.tree.normalize sighting.path
  if path ∈ s.paths then some path else s.alias? (sighting.tree.realPath path)

end WatchSetup

/-- The state of a watcher. -/
structure Watcher extends WatchSetup where
  /-- The time. -/
  clock : Nat := 0
  /-- When the window of a file was opened, latest first for each file. -/
  lastSeen : List (String × Nat) := []
  /-- The files with a delivery outstanding, each with the timer that is to bring it. -/
  trailing : List (String × Nat) := []
  /-- The timers that have not fired. -/
  timers : List Timer := []
  /-- The number of timers made so far. -/
  timerCount : Nat := 0
  /-- The observer that was obtained last, or that the platform will hand out first. -/
  observer : Observer := {}
  /-- Whether the watcher holds its observer. -/
  isHolding : Bool := false
  /-- The threads whose death has been reported, by name. -/
  reportedDead : List String := []
  /-- The deliveries so far, oldest first. -/
  deliveries : List Delivery := []
  /-- The failures that the client has been told of, oldest first. -/
  errors : List Failure := []
  /-- The directories that observers have been told to watch, oldest first. -/
  scheduled : List String := []

namespace Watcher

/-- Whether the watcher holds an observer whose main thread runs. -/
def isRunning (w : Watcher) : Bool := w.isHolding && w.observer.isAlive

/-- Tell the client of a failure, if it wants to hear of failures. -/
def report (w : Watcher) (f : Failure) : Watcher :=
  if w.wantsErrors then { w with errors := w.errors ++ [f] } else w

/-- Hand a delivery to the client. The error is what the client raises. -/
def deliver (w : Watcher) (path : String) (kind : ChangeKind) : Except String Unit × Watcher :=
  let delivered := { w with deliveries := w.deliveries ++ [⟨path, kind, w.clock⟩] }
  match if w.spared w.deliveries.length then none else w.raises path with
  | some message => (.error message, delivered)
  | none => (.ok (), delivered)

/-! ## Windows -/

/-- Cancel a timer. -/
def cancelTimer (w : Watcher) (id : Nat) : Watcher :=
  if w.lateTimers || w.isLate id then w else { w with timers := w.timers.filter (·.id ≠ id) }

/-- Give up the outstanding delivery of one file. -/
def dropTrailing (w : Watcher) (path : String) : Watcher :=
  match w.trailing.lookup path with
  | some id => { w with trailing := w.trailing.filter (·.1 ≠ path) }.cancelTimer id
  | none => w

/-- Give up every outstanding delivery. -/
def dropAllTrailing (w : Watcher) : Watcher :=
  w.trailing.foldl (fun w p => w.cancelTimer p.2) { w with trailing := [] }

/-- Open the window of a file. -/
def openWindow (w : Watcher) (path : String) : Watcher :=
  { w with lastSeen := (path, w.clock) :: w.lastSeen.filter (·.1 ≠ path) }

/-- Forget the window of a file. -/
def forgetWindow (w : Watcher) (path : String) : Watcher :=
  { w with lastSeen := w.lastSeen.filter (·.1 ≠ path) }

/-- When the open window of a file closes; `none` when no window is open. -/
def windowEnd? (w : Watcher) (path : String) : Option Nat :=
  (w.lastSeen.lookup path).bind fun opened =>
    if w.clock < opened + w.window then some (opened + w.window) else none

/-- Have a change of a file delivered when its window closes. -/
def postpone (w : Watcher) (path : String) (deadline : Nat) : Watcher :=
  if (w.trailing.lookup path).isSome then w
  else
    { w with
      trailing := w.trailing ++ [(path, w.timerCount)]
      timers := w.timers ++ [⟨w.timerCount, deadline, path⟩]
      timerCount := w.timerCount + 1 }

/-! ## Notifications -/

/-- Take notice of what happened to a path. The error is what the client raises. -/
def notify (w : Watcher) (path : Sighting) (kind : ChangeKind) : Except String Unit × Watcher :=
  match w.match? path with
  | none => (.ok (), w)
  | some file =>
    match kind with
    | .changed =>
      if w.window = 0 then w.deliver file .changed
      else
        match w.windowEnd? file with
        | some deadline => (.ok (), w.postpone file deadline)
        | none => (w.openWindow file).deliver file .changed
    | .removed => ((w.dropTrailing file).forgetWindow file).deliver file .removed
    | .error => w.deliver file .error

/-- Take notice of several things in order, until the client raises an error. -/
def notifyAll (w : Watcher) : List (Sighting × ChangeKind) → Except String Unit × Watcher
  | [] => (.ok (), w)
  | (path, kind) :: rest =>
    match w.notify path kind with
    | (.ok (), w) => w.notifyAll rest
    | (.error message, w) => (.error message, w)

/-- Take an event of the operating system. What the client raises is reported. -/
def dispatch (w : Watcher) (e : FileEvent) : Watcher :=
  match w.notifyAll e.changes with
  | (.ok (), w) => w
  | (.error message, w) =>
    w.report (.watch ("Watch handler failed: " ++ message) (some (w.tree.normalize e.path.path)))

/-! ## Time -/

/-- Let a timer fire: the outstanding delivery of its file is made, if there still is one, and opens
a window of its own. What the client raises is reported. -/
def fire (w : Watcher) (timer : Timer) : Watcher :=
  let w := { w with clock := max w.clock timer.deadline, timers := w.timers.erase timer }
  if (w.trailing.lookup timer.path).isSome then
    let w := { w with trailing := w.trailing.filter (·.1 ≠ timer.path) }.openWindow timer.path
    match w.deliver timer.path .changed with
    | (.ok (), w) => w
    | (.error message, w) =>
      w.report (.watch ("Change callback failed: " ++ message) (some timer.path))
  else w

/-- The timers that fire up to a time, in the order in which they fire. -/
def due (w : Watcher) (time : Nat) : List Timer :=
  (w.timers.filter (·.deadline ≤ time)).mergeSort fun a b =>
    a.deadline < b.deadline || (a.deadline == b.deadline && a.id ≤ b.id)

/-- Let time pass. -/
def advance (w : Watcher) (amount : Nat) : Watcher :=
  let time := w.clock + amount
  { (w.due time).foldl fire w with clock := time }

/-! ## Observers -/

/-- Have the held observer watch a directory. -/
def scheduleDirectory (w : Watcher) (dir : String) : Watcher :=
  match w.observer.failing.lookup dir with
  | some reason => w.report (.watch ("Cannot watch " ++ dir ++ ": " ++ reason) (some dir))
  | none => { w with scheduled := w.scheduled ++ [dir] }

/-- Obtain an observer and have it watch the directories of the files, unless one is held already.
The platform hands out `fresh`, or the same observer again. -/
def start (w : Watcher) (fresh : Option Observer) : Watcher :=
  if w.isHolding then w
  else
    w.directories.foldl scheduleDirectory
      { w with observer := (fresh.getD w.observer).launch, isHolding := true }

/-- Give up the outstanding deliveries and the observer. -/
def stop (w : Watcher) : Watcher :=
  let w := w.dropAllTrailing
  if w.isHolding then { w with observer := w.observer.halt, isHolding := false } else w

/-- The name under which the death of a thread is reported, once. -/
def threadName : Option String → String
  | some dir => if dir = "" then "observer" else dir
  | none => "observer"

/-- Report the death of a thread, unless one of that name has been reported. -/
def checkThread (w : Watcher) (thread : Option String × Bool) : Watcher :=
  let name := threadName thread.1
  if thread.2 ∨ name ∈ w.reportedDead then w
  else
    { w with reportedDead := w.reportedDead ++ [name] }.report
      (.watch ("Watch thread for " ++ name ++ " stopped") thread.1)

/-- Report the threads that have died. The answer tells whether an observer is held and all of its
threads run. -/
def check (w : Watcher) : Bool × Watcher :=
  if w.isHolding then (w.observer.isHealthy, w.observer.threads.foldl checkThread w)
  else (false, w)

end Watcher

/-! ## Runs -/

/-- One step in the life of a watcher. -/
inductive WatchStep where
  /-- An event of the operating system. -/
  | dispatch (e : FileEvent)
  /-- A notification. -/
  | notify (path : Sighting) (kind : ChangeKind)
  /-- The passing of time. -/
  | advance (amount : Nat)
  /-- A failure that someone else has found. -/
  | report (f : Failure)
  /-- The start of watching, with the observer that the platform hands out if it is a new one. -/
  | start (fresh : Option Observer)
  /-- The end of watching. -/
  | stop
  /-- A look at the threads. -/
  | check
  /-- The death of a thread for a single directory. -/
  | killEmitter (index : Nat)
  /-- The death of the observer's main thread. -/
  | killObserver

/-- What a step answers. -/
inductive WatchAnswer where
  /-- Nothing. -/
  | nothing
  /-- The error that the client raised. -/
  | raised (message : String)
  /-- Whether all threads run. -/
  | healthy (b : Bool)
  deriving DecidableEq, Repr

namespace Watcher

/-- Carry out one step. -/
def step (w : Watcher) : WatchStep → WatchAnswer × Watcher
  | .dispatch e => (.nothing, w.dispatch e)
  | .notify path kind =>
    match w.notify path kind with
    | (.ok (), w) => (.nothing, w)
    | (.error message, w) => (.raised message, w)
  | .advance amount => (.nothing, w.advance amount)
  | .report f => (.nothing, w.report f)
  | .start fresh => (.nothing, w.start fresh)
  | .stop => (.nothing, w.stop)
  | .check => let (b, w) := w.check; (.healthy b, w)
  | .killEmitter index => (.nothing, { w with observer := w.observer.killEmitter index })
  | .killObserver => (.nothing, { w with observer := w.observer.halt })

/-- Carry out steps in order. -/
def run (w : Watcher) (steps : List WatchStep) : Watcher :=
  steps.foldl (fun w s => (w.step s).2) w

end Watcher

end Restyle
