import Restyle.Notice
import Restyle.Render.Options

/-! # Renderers
What a renderer does with one stylesheet: it reports while it works, it may fail, and it may take
its time. -/

namespace Restyle

/-- What a renderer reports while it works. -/
inductive Report where
  /-- Something that deserves attention. -/
  | warning (s : String)
  /-- Something that happened. -/
  | progress (s : String)
  /-- A file that is about to be written. -/
  | writing (dest : String)
  deriving DecidableEq, Repr

/-- The notice that passes a report on. -/
def Report.notice : Report → Notice
  | .warning s => .warn s
  | .progress s => .log s
  | .writing dest => .write dest

/-- Why a render fails. -/
inductive RenderFault where
  /-- The renderer says so, and which stylesheet is to blame. -/
  | reported (source message : String)
  /-- Something unforeseen went wrong. -/
  | unforeseen (message : String)
  deriving DecidableEq, Repr

/-- The failure that a fault in rendering `src` amounts to. -/
def RenderFault.failure (src : String) : RenderFault → Failure
  | .reported source message => .render source message
  | .unforeseen message => .render src message

/-- How a render ends: with reports, or with a fault. -/
abbrev RenderOutcome := Except RenderFault (List Report)

/-- A renderer, as a function of what it is asked to render. -/
structure Renderer (ω : Type) where
  /-- How a render ends. -/
  outcome : RenderOptions ω → RenderOutcome
  /-- Whether a render waits until it is released. -/
  waits : RenderOptions ω → Bool := fun _ => false

/-- The notices at the end of a render: its reports or its failure, and that it is done. -/
def endNotices {ω : Type} (o : RenderOptions ω) : RenderOutcome → List Notice
  | .ok reports => reports.map Report.notice ++ [.done o.dest]
  | .error fault => [.error (fault.failure o.src), .done o.dest]

end Restyle
