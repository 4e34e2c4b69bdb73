/-! # Observers
The part of the platform that watches directories: a thread that hands out events, and one thread
for every directory that it has been told to watch. -/

namespace Restyle

/-- The thread that watches one directory. -/
structure WatchThread where
  /-- The directory. -/
  directory : String
  /-- Whether the thread runs. -/
  isAlive : Bool := true
  deriving DecidableEq, Repr

/-- The state of an observer. -/
structure Observer where
  /-- Whether its main thread runs. -/
  isAlive : Bool := false
  /-- Whether its main thread can run at all. -/
  canRun : Bool := true
  /-- Its threads for single directories. -/
  emitters : List WatchThread := []
  /-- The directories that it cannot watch, with the reasons. -/
  failing : List (String × String) := []
  deriving DecidableEq, Repr, Inhabited

namespace Observer

/-- Start the main thread. -/
def launch (o : Observer) : Observer := { o with isAlive := o.canRun }

/-- End the main thread. -/
def halt (o : Observer) : Observer := { o with isAlive := false }

/-- The death of the thread for one directory, counted from the first. -/
def killEmitter (o : Observer) (index : Nat) : Observer :=
  { o with emitters := o.emitters.modify index fun thread => { thread with isAlive := false } }

/-- All threads, the main thread first, with the directories that they watch. -/
def threads (o : Observer) : List (Option String × Bool) :=
  (none, o.isAlive) :: o.emitters.map fun thread => (some thread.directory, thread.isAlive)

/-- Whether all threads run. -/
def isHealthy (o : Observer) : Bool := o.threads.all (·.2)

end Observer

end Restyle
