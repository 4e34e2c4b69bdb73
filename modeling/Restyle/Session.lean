import Restyle.Compilation
import Restyle.Watcher

/-! # Watch sessions
A session builds the import graph of a root once, watches every file in it, and has the dispatcher
deal with the changes. The graph stays as it is until the session ends: files that are removed are
only reported, and new files are not noticed. What the watcher has to tell waits in line and is
taken up one by one, in order; the renders that follow from it start in the order in which they were
scheduled. -/

namespace Restyle

/-- What a session is made with. -/
structure SessionSetup (ω : Type) extends CompileRequest ω where
  /-- The file tree. -/
  tree : FileTree
  /-- The renderer. -/
  renderer : Renderer ω
  /-- The length of the window in which changes of one file are collapsed. -/
  window : Int := 0
  /-- The observer that the platform hands out. -/
  observer : Observer := {}

/-- The parts of a session that has started. -/
structure Running (ω : Type) where
  /-- The dispatcher. -/
  dispatcher : Dispatcher ω
  /-- The watcher. -/
  watcher : Watcher

/-- What the watcher tells the session. -/
inductive Signal where
  /-- Something happened to a watched file. -/
  | delivery (d : Delivery)
  /-- Watching failed. -/
  | failure (f : Failure)
  deriving DecidableEq, Repr

/-- The state of a session. -/
structure Session (ω : Type) extends SessionSetup ω where
  /-- The parts that exist once the session has started. -/
  running : Option (Running ω) := none
  /-- What the watcher has told and the session has not taken up, oldest first. -/
  inbox : List Signal := []
  /-- The notices so far, oldest first. -/
  notices : List Notice := []

namespace Session

variable {ω : Type}

/-- The directory whose layout the root stands for, and the root itself if it is a file. -/
def layout (s : Session ω) : String × Option String := s.tree.rootLayout (s.tree.absolute s.root)

/-- Add a notice. -/
def say (s : Session ω) (n : Notice) : Session ω := { s with notices := s.notices ++ [n] }

/-- Let the dispatcher do something, its notices becoming those of the session. -/
def withDispatcher (s : Session ω) (act : Dispatcher ω → Dispatcher ω) : Session ω :=
  match s.running with
  | none => s
  | some parts =>
    let d := act { parts.dispatcher with notices := s.notices }
    { s with running := some { parts with dispatcher := d }, notices := d.notices }

/-- The calls of the renderer so far. -/
def calls (s : Session ω) : List (RenderOptions ω) :=
  match s.running with
  | none => []
  | some parts => parts.dispatcher.calls

/-- The number of renders that have not ended; `none` before the session has started. -/
def pending (s : Session ω) : Option Nat := s.running.map (·.dispatcher.pending)

/-! ## What the watcher tells -/

/-- Why a session cannot deal with a change. -/
inductive EventError where
  /-- It has not started. -/
  | notStarted
  deriving DecidableEq, Repr

/-- Take up one change: render what it affects, or report it. The answer is the number of renders
that are scheduled. -/
def handle (s : Session ω) (path : String) (kind : ChangeKind) (failure : Option Failure) :
    Except EventError (Nat × Session ω) :=
  match kind with
  | .error =>
    .ok (0, s.say (.error (failure.getD (.watch "Unknown watcher error" (some path)))))
  | .removed =>
    .ok (0, s.say (.warn
      ("=> removed: " ++ path ++ " (restart the watcher to refresh the import graph)")))
  | .changed =>
    match s.running with
    | none => .error .notStarted
    | some parts =>
      .ok ((parts.dispatcher.targets path).length, s.withDispatcher fun d => d.schedule path)

/-- Start the renders that are ready. -/
def settle (s : Session ω) : Session ω := s.withDispatcher fun d => d.settle s.renderer

/-- Take up one signal of the watcher. -/
def take (s : Session ω) : Signal → Session ω
  | .delivery d =>
    match s.handle d.path d.kind none with
    | .ok (_, s) => s
    | .error _ => s
  | .failure f => s.say (.error f)

/-- Let the watcher do something. What it has to tell waits in line. -/
def hear (s : Session ω) (act : Watcher → Watcher) : Session ω :=
  match s.running with
  | none => s
  | some parts =>
    let w := act parts.watcher
    { s with
      running := some { parts with watcher := w }
      inbox := s.inbox ++ (w.deliveries.drop parts.watcher.deliveries.length).map .delivery ++
        (w.errors.drop parts.watcher.errors.length).map .failure }

/-- Take up the signal that has waited for longest. -/
def takeNext (s : Session ω) : Session ω :=
  match s.inbox with
  | [] => s
  | signal :: rest => { s with inbox := rest }.take signal

/-- Start the render that has been ready for longest. -/
def startNext (s : Session ω) : Session ω := s.withDispatcher fun d => d.startNext s.renderer

/-- Take up every signal that waits, and start every render that is ready. -/
def catchUp (s : Session ω) : Session ω := (s.inbox.foldl take { s with inbox := [] }).settle

/-- Let the watcher do something, and take up what it has to tell. -/
def withWatcher (s : Session ω) (act : Watcher → Watcher) : Session ω := (s.hear act).catchUp

/-! ## Start and end -/

/-- What to scan for the import graph. -/
def scanRequest (s : Session ω) : ScanRequest :=
  { root := s.root, includePaths := s.base.includePaths, deep := s.deep,
    extensions := s.extensions }

/-- Start: build the graph, report the imports that mean no file, and watch every file. A graph that
cannot be built is reported. -/
def start (s : Session ω) : Except Failure Unit × Session ω :=
  match s.tree.scanAll s.scanRequest with
  | .error (.scan root reason) => (.error (.scan root reason), s.say (.error (.scan root reason)))
  | .error failure => (.error failure, s)
  | .ok scan =>
    let graph := scan.graph.freeze
    let summary := Notice.log
      ("Watching " ++ toString graph.size ++ " file(s) under " ++ s.layout.1)
    let watcher : Watcher :=
      { WatchSetup.make s.tree graph.paths s.window with observer := s.observer }
    let dispatcher : Dispatcher ω :=
      { s.toCompileRequest.project s.tree graph with calls := s.calls }
    let s := { s with
      running := some { dispatcher, watcher }
      notices := s.notices ++ scan.notices ++ [summary] }
    (.ok (), s.withWatcher fun w => w.start none)

/-- End: stop watching, and report the renders that have not ended. -/
def close (s : Session ω) : Session ω :=
  let s := s.withWatcher Watcher.stop
  match s.pending with
  | none | some 0 => s
  | some n => s.say (.warn ("Stopped with " ++ toString n ++ " render(s) still running"))

/-! ## Steps of a running session -/

/-- Take an event of the operating system. -/
def dispatch (s : Session ω) (e : FileEvent) : Session ω := s.withWatcher fun w => w.dispatch e

/-- Take up a change, and start the renders that follow from it. -/
def handleAndSettle (s : Session ω) (path : String) (kind : ChangeKind) (failure : Option Failure) :
    Except EventError (Nat × Session ω) :=
  (s.handle path kind failure).map fun (n, s) => (n, s.settle)

/-- Report a failure to watch. -/
def watchError (s : Session ω) (f : Failure) : Session ω := s.withWatcher fun w => w.report f

/-- Look at the threads of the watcher. The answer is `none` before the session has started. -/
def check (s : Session ω) : Option Bool × Session ω :=
  (s.running.map fun parts => parts.watcher.check.1, s.withWatcher fun w => w.check.2)

/-- The death of the observer's main thread. -/
def killObserver (s : Session ω) : Session ω :=
  s.withWatcher fun w => (w.step .killObserver).2

/-- Let a waiting call of the renderer end. -/
def release (s : Session ω) (call : Nat) (outcome : RenderOptions ω → RenderOutcome) :
    Bool × Session ω :=
  match s.running with
  | none => (false, s)
  | some parts =>
    ((parts.dispatcher.release call outcome).1,
      s.withDispatcher fun d => (d.release call outcome).2)

/-- A whole session: start, take the events, look at the threads a number of times, and end. -/
def run (s : Session ω) (events : List FileEvent) (checks : Nat) :
    Except Failure Unit × Session ω :=
  match s.start with
  | (.error failure, s) => (.error failure, s)
  | (.ok (), s) =>
    let s := events.foldl dispatch s
    let s := checks.fold (fun _ _ s => s.check.2) s
    (.ok (), s.close)

end Session

end Restyle
