import Mathlib
import Restyle.NoticeBus

/-! # Keeping the history
Nothing that a bus does depends on what it remembers: forgetting the history commutes with every
operation (`…_withoutHistory`). So a bus that remembers its messages and one that does not go
through the same run, whoever uses them, as long as nobody looks at the history
(`NoticeBus.course_eq_of_ignoresHistory`). -/

namespace Restyle

variable {μ : Type}

namespace NoticeBus

/-! ## Forgetting -/

/-- A bus without what it remembers. -/
def withoutHistory (b : NoticeBus μ) : NoticeBus μ :=
  { b with keepsHistory := false, history := [] }

variable (b : NoticeBus μ)

/-- `b.withoutHistory.log = b.log`. -/
@[simp] theorem log_withoutHistory : b.withoutHistory.log = b.log := rfl

/-- `b.withoutHistory.calls = b.calls`. -/
@[simp] theorem calls_withoutHistory : b.withoutHistory.calls = b.calls := rfl

/-- `b.withoutHistory.listeners kind = b.listeners kind`. -/
@[simp] theorem listeners_withoutHistory (kind : NoticeKind) :
    b.withoutHistory.listeners kind = b.listeners kind :=
  rfl

/-- `b.withoutHistory.nextEmission kind message = b.nextEmission kind message`: emissions are
numbered by the log. -/
@[simp] theorem nextEmission_withoutHistory (kind : NoticeKind) (message : μ) :
    b.withoutHistory.nextEmission kind message = b.nextEmission kind message := rfl

/-- `withoutHistory` goes through `record`. -/
@[simp] theorem record_withoutHistory (event : BusEvent μ) :
    b.withoutHistory.record event = (b.record event).withoutHistory := rfl

/-- `withoutHistory` goes through `register`. -/
@[simp] theorem register_withoutHistory (kind : NoticeKind) (listener : String) :
    b.withoutHistory.register kind listener = (b.register kind listener).withoutHistory := rfl

/-- `withoutHistory` goes through `unregister`. -/
@[simp] theorem unregister_withoutHistory (kind : NoticeKind) (listener : String) :
    b.withoutHistory.unregister kind listener = (b.unregister kind listener).withoutHistory := rfl

/-- `withoutHistory` goes through `refuse`. -/
@[simp] theorem refuse_withoutHistory (r : BusRequest μ) (error : BusError) :
    b.withoutHistory.refuse r error = ((b.refuse r error).1, (b.refuse r error).2.withoutHistory) :=
      rfl

/-- `withoutHistory` goes through `remember`: what is remembered is forgotten again. -/
@[simp] theorem remember_withoutHistory (kind : NoticeKind) (message : μ) :
    b.withoutHistory.remember kind message = (b.remember kind message).withoutHistory := by
  have hnone : b.withoutHistory.remember kind message = b.withoutHistory :=
    if_neg Bool.false_ne_true
  rw [hnone, remember]
  split <;> rfl

end NoticeBus

open NoticeBus

/-! ## Programs that do not look at the history -/

/-- Whether a program goes on in the same way whatever the bus remembers. -/
inductive Program.IgnoresHistory : Program μ → Prop where
  | finish : IgnoresHistory .finish
  | fail : IgnoresHistory .fail
  | ask {r : BusRequest μ} {next : Except BusError Unit → NoticeBus μ → Program μ}
      (same : ∀ answer b, next answer b.withoutHistory = next answer b)
      (rest : ∀ answer b, IgnoresHistory (next answer b)) : IgnoresHistory (.ask r next)

/-- Whether listeners do the same whatever the bus remembers. -/
structure Behaviours.IgnoreHistory (behave : Behaviours μ) : Prop where
  /-- What a listener does when it is called does not depend on the history. -/
  same : ∀ listener message b, behave listener message b.withoutHistory = behave listener message b
  /-- Neither does it later on. -/
  rest : ∀ listener message b, (behave listener message b).IgnoresHistory

/-- A `script` does not look at the bus at all, so that it ignores the history. -/
theorem Program.ignoresHistory_script (fails : Bool) (requests : List (BusRequest μ)) :
    (script fails requests).IgnoresHistory := by
  induction requests with
  | nil => cases fails <;> constructor
  | cons r requests ih =>
    refine .ask (fun _ _ => rfl) ?_
    intro answer b
    cases answer with
    | ok => exact ih
    | error => exact .fail

/-- Listeners that are given by a table of scripts ignore the history. -/
theorem Listeners.ignoreHistory_behave (table : Listeners μ) : table.behave.IgnoreHistory where
  same _ _ _ := rfl
  rest listener _ _ :=
    Program.ignoresHistory_script (table listener).fails (table listener).requests

namespace NoticeBus

/-! ## Carrying out requests -/

/-- Whether carrying out requests does not depend on the history. -/
def Runner.IgnoresHistory (run : Runner μ) : Prop :=
  ∀ r b, run r b.withoutHistory = ((run r b).1, (run r b).2.withoutHistory)

section Carrying

variable {run : Runner μ} {behave : Behaviours μ}

/-- `follow run p` ignores the history if the runner and the program do. -/
theorem Runner.IgnoresHistory.follow (hrun : Runner.IgnoresHistory run) {p : Program μ}
    (hp : p.IgnoresHistory) (b : NoticeBus μ) :
    NoticeBus.follow run p b.withoutHistory =
      ((NoticeBus.follow run p b).1, (NoticeBus.follow run p b).2.withoutHistory) := by
  induction hp generalizing b with
  | finish => rfl
  | fail => rfl
  | @ask r next same rest ih =>
    simp only [NoticeBus.follow]
    rw [hrun r b]
    simp only [same]
    exact ih (run r b).1 (run r b).2 (run r b).2

/-- `call run behave e` ignores the history if the runner and the listeners do. -/
theorem Runner.IgnoresHistory.call (hrun : Runner.IgnoresHistory run)
    (hbehave : behave.IgnoreHistory) (e : Emission μ) (b : NoticeBus μ) (listener : String) :
    NoticeBus.call run behave e b.withoutHistory listener =
      (NoticeBus.call run behave e b listener).withoutHistory := by
  simp only [NoticeBus.call, record_withoutHistory, hbehave.same, hrun.follow (hbehave.rest _ _ _)]
  cases NoticeBus.follow run (behave listener e.message (b.record (.called e listener)))
    (b.record (.called e listener)) with
  | mk ends b' => cases ends <;> rfl

/-- Calling some listeners ignores the history if the runner and the listeners do. -/
theorem Runner.IgnoresHistory.foldl_call (hrun : Runner.IgnoresHistory run)
    (hbehave : behave.IgnoreHistory) (e : Emission μ) (listeners : List String) (b : NoticeBus μ) :
    listeners.foldl (NoticeBus.call run behave e) b.withoutHistory =
      (listeners.foldl (NoticeBus.call run behave e) b).withoutHistory := by
  induction listeners generalizing b with
  | nil => rfl
  | cons listener listeners ih => rw [List.foldl_cons, List.foldl_cons, hrun.call hbehave, ih]

/-- `emit run behave kind message` ignores the history if the runner and the listeners do. -/
theorem Runner.IgnoresHistory.emit (hrun : Runner.IgnoresHistory run)
    (hbehave : behave.IgnoreHistory) (kind : NoticeKind) (message : μ) (b : NoticeBus μ) :
    NoticeBus.emit run behave kind message b.withoutHistory =
      (NoticeBus.emit run behave kind message b).withoutHistory := by
  simp only [NoticeBus.emit, nextEmission_withoutHistory, remember_withoutHistory,
    record_withoutHistory, listeners_withoutHistory, hrun.foldl_call hbehave]

/-- `run behave depth` ignores the history if the listeners do, however deep emissions are
nested. -/
theorem ignoresHistory_run (hbehave : behave.IgnoreHistory) (depth : Nat) :
    Runner.IgnoresHistory (NoticeBus.run behave depth) := by
  induction depth with
  | zero =>
    intro r b
    cases r with
    | on kind _ | off kind _ | emit kind _ =>
      cases hkind : NoticeKind.ofName? kind <;> simp [NoticeBus.run, hkind]
  | succ depth ih =>
    intro r b
    cases r with
    | on kind _ | off kind _ =>
      cases hkind : NoticeKind.ofName? kind <;> simp [NoticeBus.run, hkind]
    | emit kind message =>
      cases hkind : NoticeKind.ofName? kind with
      | none => simp [NoticeBus.run, hkind]
      | some k => simp [NoticeBus.run, hkind, Runner.IgnoresHistory.emit ih hbehave]

end Carrying

/-! ## Runs -/

/-- What a program asks of a bus, in order: each request with its answer, and with all that has
happened on the bus by then. -/
def course (run : Runner μ) :
    Program μ → NoticeBus μ → List (BusRequest μ × Except BusError Unit × List (BusEvent μ))
  | .finish, _ => []
  | .fail, _ => []
  | .ask r next, b =>
    let (answer, b) := run r b
    (r, answer, b.log) :: course run (next answer b) b

/-- `course run p b.withoutHistory = course run p b` if the runner and the program ignore the
history. -/
theorem Runner.IgnoresHistory.course_eq {run : Runner μ} (hrun : Runner.IgnoresHistory run)
    {p : Program μ} (hp : p.IgnoresHistory) (b : NoticeBus μ) :
    course run p b.withoutHistory = course run p b := by
  induction hp generalizing b with
  | finish => rfl
  | fail => rfl
  | @ask r next same rest ih =>
    simp only [course]
    rw [hrun r b]
    simp only [same, log_withoutHistory]
    rw [ih (run r b).1 (run r b).2 (run r b).2]

/-- `b.messages kind` are the messages of that kind in `b.history`, in order. -/
theorem filter_history (b : NoticeBus μ) (kind : String) :
    (b.history.map fun entry => (entry.1.name, entry.2)).filter (·.1 = kind) =
      (b.messages kind).map fun message => (kind, message) := by
  rw [messages, List.filter_map, List.map_map]
  refine List.map_congr_left ?_
  intro entry hentry
  have hkind : entry.1.name = kind := by simpa using (List.mem_filter.mp hentry).2
  rw [Function.comp_apply, hkind]

/-- A bus that remembers its messages and one that does not answer every request alike, and
everything happens on them in the same order, the calls of the listeners among it, as long as nobody
looks at the history. And what is remembered of a kind of notice is always the part of the history
that has this kind. -/
theorem course_eq_of_ignoresHistory {behave : Behaviours μ} (hbehave : behave.IgnoreHistory)
    {p : Program μ} (hp : p.IgnoresHistory) (limit : Nat) :
    course (run behave limit) p { keepsHistory := true } =
      course (run behave limit) p { keepsHistory := false } ∧
      (follow (run behave limit) p { keepsHistory := true }).1 =
        (follow (run behave limit) p { keepsHistory := false }).1 ∧
      (follow (run behave limit) p { keepsHistory := true }).2.calls =
        (follow (run behave limit) p { keepsHistory := false }).2.calls ∧
      ∀ (b : NoticeBus μ) (kind : String),
        (b.history.map fun entry => (entry.1.name, entry.2)).filter (·.1 = kind) =
          (b.messages kind).map fun message => (kind, message) := by
  have hrun := ignoresHistory_run hbehave limit
  have hnew : ({ keepsHistory := false } : NoticeBus μ) = withoutHistory { keepsHistory := true } :=
    rfl
  rw [hnew, hrun.course_eq hp, hrun.follow hp]
  exact ⟨rfl, rfl, (calls_withoutHistory _).symm, filter_history⟩

/-- A relay that takes itself off, answers what it hears, registers another listener and fails; all
other listeners do nothing. -/
def failingRelay : Listeners String := fun listener =>
  if listener = "relay" then
    { requests := [.off "log" "relay", .emit "log" "second", .on "log" "late"], fails := true }
  else {}

/-- The listeners of a bus that remembers nothing are called as they are if it does. -/
theorem course_eq_of_ignoresHistory_failingRelay :
    failingRelay.behave.IgnoreHistory ∧
      (Program.script false [.on "log" "relay", .on "log" "screen", .emit "log" "first",
        .emit "log" "third"] :
        Program String).IgnoresHistory ∧
      (follow (run failingRelay.behave nestingLimit)
        (.script false [.on "log" "relay", .on "log" "screen", .emit "log" "first",
          .emit "log" "third"])
        { keepsHistory := false }).2.calls =
          [("relay", "first"), ("screen", "second"), ("screen", "first"), ("screen", "third"),
            ("late", "third")] := by
  have hbehave := failingRelay.ignoreHistory_behave
  have hp := Program.ignoresHistory_script (μ := String) false
    [.on "log" "relay", .on "log" "screen", .emit "log" "first", .emit "log" "third"]
  refine ⟨hbehave, hp, ?_⟩
  rw [← (course_eq_of_ignoresHistory hbehave hp nestingLimit).2.2.1]
  rfl

end NoticeBus

end Restyle
