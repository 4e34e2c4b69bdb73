import Restyle.Notice

/-! # The notice bus
Listeners register for a kind of notice and are called with every message of that kind. A listener
may register and unregister listeners and emit further messages while it is called, and it may fail:
the message still reaches every registration that was present when it was emitted, in order, before
the emission ends. Nested emissions are delivered at once, inside the one that caused them. What
happens on the bus is written to a log. -/

namespace Restyle

variable {μ : Type}

/-! ## Requests -/

/-- What can be asked of a bus. Kinds are given by name, so that a request can name an unknown
one. -/
inductive BusRequest (μ : Type) where
  /-- Register a listener for a kind of notice. -/
  | on (kind listener : String)
  /-- Take back one registration of a listener for a kind of notice. -/
  | off (kind listener : String)
  /-- Emit a message of some kind. -/
  | emit (kind : String) (message : μ)

/-- Why a request fails. -/
inductive BusError where
  /-- There is no kind of notice with this name. -/
  | unknownKind (name : String)
  /-- Emissions are nested too deep. -/
  | nestedTooDeep
  deriving DecidableEq, Repr

/-- The text of an error. -/
def BusError.message : BusError → String
  | .unknownKind name => "Unknown event kind '" ++ name ++ "'"
  | .nestedTooDeep => "maximum recursion depth exceeded"

/-! ## The state of a bus -/

/-- A message that is emitted. -/
structure Emission (μ : Type) where
  /-- How many messages were emitted before it. -/
  number : Nat
  /-- The kind of notice. -/
  kind : NoticeKind
  /-- The message. -/
  message : μ

/-- What happens on a bus. -/
inductive BusEvent (μ : Type) where
  /-- A listener is registered. -/
  | registered (kind : NoticeKind) (listener : String)
  /-- A registration is taken back, if there is one. -/
  | unregistered (kind : NoticeKind) (listener : String)
  /-- A request fails. -/
  | refused (request : BusRequest μ) (error : BusError)
  /-- A message is emitted. -/
  | emitted (e : Emission μ)
  /-- A listener is called with the message. -/
  | called (e : Emission μ) (listener : String)
  /-- The call of a listener has failed. -/
  | failed (e : Emission μ) (listener : String)
  /-- All listeners have been called with the message. -/
  | ended (e : Emission μ)

namespace BusEvent

/-- The message that is emitted. -/
def emission? : BusEvent μ → Option (Emission μ)
  | .emitted e => some e
  | _ => none

/-- The listener that is called, and the message that it is called with. -/
def call? : BusEvent μ → Option (Emission μ × String)
  | .called e listener => some (e, listener)
  | _ => none

/-- The messages that are emitted according to a log. -/
def emissions (log : List (BusEvent μ)) : List (Emission μ) := log.filterMap emission?

end BusEvent

/-- The state of a bus. -/
structure NoticeBus (μ : Type) where
  /-- Whether emitted messages are remembered. -/
  keepsHistory : Bool := true
  /-- The registrations, oldest first. -/
  registrations : List (NoticeKind × String) := []
  /-- The remembered messages with their kinds, oldest first. -/
  history : List (NoticeKind × μ) := []
  /-- What has happened, oldest first. -/
  log : List (BusEvent μ) := []

namespace NoticeBus

/-- The listeners registered for a kind, oldest registration first. -/
def listeners (b : NoticeBus μ) (kind : NoticeKind) : List String :=
  (b.registrations.filter (·.1 = kind)).map (·.2)

/-- The calls of listeners so far, oldest first, each with the message that was handed over. -/
def calls (b : NoticeBus μ) : List (String × μ) :=
  (b.log.filterMap BusEvent.call?).map fun c => (c.2, c.1.message)

/-- Write something to the log. -/
def record (b : NoticeBus μ) (event : BusEvent μ) : NoticeBus μ :=
  { b with log := b.log ++ [event] }

/-- Add a registration. -/
def register (b : NoticeBus μ) (kind : NoticeKind) (listener : String) : NoticeBus μ :=
  { b with registrations := b.registrations ++ [(kind, listener)] }.record
    (.registered kind listener)

/-- Take back the oldest registration of a listener for a kind, if there is one. -/
def unregister (b : NoticeBus μ) (kind : NoticeKind) (listener : String) : NoticeBus μ :=
  { b with registrations := b.registrations.erase (kind, listener) }.record
    (.unregistered kind listener)

/-- Remember a message, if messages are remembered. -/
def remember (b : NoticeBus μ) (kind : NoticeKind) (message : μ) : NoticeBus μ :=
  if b.keepsHistory then { b with history := b.history ++ [(kind, message)] } else b

/-- The emission of a message that would be the next one. -/
def nextEmission (b : NoticeBus μ) (kind : NoticeKind) (message : μ) : Emission μ :=
  { number := (BusEvent.emissions b.log).length, kind, message }

/-- The remembered messages of a kind; none for an unknown kind. -/
def messages (b : NoticeBus μ) (kind : String) : List μ :=
  (b.history.filter (·.1.name = kind)).map (·.2)

end NoticeBus

/-! ## Programs -/

/-- What someone does who uses a bus: make requests, each of them in view of the answers to the ones
before and of the bus, and end or fail. Users in several threads, of which only one at a time has
the bus to itself, are one program: it makes their requests in the order in which they get the
bus. -/
inductive Program (μ : Type) where
  /-- End. -/
  | finish
  /-- Fail. -/
  | fail
  /-- Make a request, and go on with its answer and with the bus as it is then. -/
  | ask (request : BusRequest μ) (next : Except BusError Unit → NoticeBus μ → Program μ)

/-- What each listener does, by name, when it is called with a message while the bus is in some
state. Since every call is written to the log, a listener can do something else each time. -/
abbrev Behaviours (μ : Type) := String → μ → NoticeBus μ → Program μ

/-- A listener with a script: it makes its requests in order until one of them fails. A listener
that `fails` does so after its last request. -/
structure Listener (μ : Type) where
  /-- The requests that the listener makes. -/
  requests : List (BusRequest μ) := []
  /-- Whether the listener fails in the end. -/
  fails : Bool := false

/-- Make some requests in order until one of them fails. -/
def Program.script (fails : Bool) : List (BusRequest μ) → Program μ
  | [] => if fails then .fail else .finish
  | r :: rs => .ask r fun answer _ =>
    match answer with
    | .ok () => script fails rs
    | .error _ => .fail

/-- The scripts of the listeners, by name. -/
abbrev Listeners (μ : Type) := String → Listener μ

/-- Listeners that follow their scripts. -/
def Listeners.behave (table : Listeners μ) : Behaviours μ := fun listener _ _ =>
  .script (table listener).fails (table listener).requests

/-! ## Carrying out requests -/

namespace NoticeBus

/-- How one request is carried out. -/
abbrev Runner (μ : Type) := BusRequest μ → NoticeBus μ → Except BusError Unit × NoticeBus μ

/-- Do what a program does. The answer is whether it ends without failing. -/
def follow (run : Runner μ) : Program μ → NoticeBus μ → Bool × NoticeBus μ
  | .finish, b => (true, b)
  | .fail, b => (false, b)
  | .ask r next, b =>
    let (answer, b) := run r b
    follow run (next answer b) b

/-- Call one listener with a message. A failure ends its call, is noted, and goes no further. -/
def call (run : Runner μ) (behave : Behaviours μ) (e : Emission μ) (b : NoticeBus μ)
    (listener : String) : NoticeBus μ :=
  let b := b.record (.called e listener)
  match follow run (behave listener e.message b) b with
  | (true, b) => b
  | (false, b) => b.record (.failed e listener)

/-- Refuse a request. -/
def refuse (b : NoticeBus μ) (r : BusRequest μ) (error : BusError) :
    Except BusError Unit × NoticeBus μ :=
  (.error error, b.record (.refused r error))

/-- Remember a message, and call every listener that is registered for its kind. -/
def emit (run : Runner μ) (behave : Behaviours μ) (kind : NoticeKind) (message : μ)
    (b : NoticeBus μ) : NoticeBus μ :=
  let e := b.nextEmission kind message
  let b := (b.remember kind message).record (.emitted e)
  ((b.listeners kind).foldl (call run behave e) b).record (.ended e)

/-- Carry out one request; emissions may be nested up to `depth` deep. -/
def run (behave : Behaviours μ) : Nat → Runner μ
  | _, .on kind listener, b =>
    match NoticeKind.ofName? kind with
    | some k => (.ok (), b.register k listener)
    | none => b.refuse (.on kind listener) (.unknownKind kind)
  | _, .off kind listener, b =>
    match NoticeKind.ofName? kind with
    | some k => (.ok (), b.unregister k listener)
    | none => (.ok (), b)
  | 0, .emit kind message, b =>
    match NoticeKind.ofName? kind with
    | some _ => b.refuse (.emit kind message) .nestedTooDeep
    | none => b.refuse (.emit kind message) (.unknownKind kind)
  | depth + 1, .emit kind message, b =>
    match NoticeKind.ofName? kind with
    | some k => (.ok (), b.emit (run behave depth) behave k message)
    | none => b.refuse (.emit kind message) (.unknownKind kind)

/-- How deep emissions may be nested. -/
def nestingLimit : Nat := 200

/-- Carry out one request, with listeners that follow their scripts. -/
def perform (table : Listeners μ) (r : BusRequest μ) (b : NoticeBus μ) :
    Except BusError Unit × NoticeBus μ :=
  run table.behave nestingLimit r b

end NoticeBus

end Restyle
