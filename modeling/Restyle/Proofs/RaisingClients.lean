import Mathlib
import Restyle.Proofs.FileViews
import Restyle.Proofs.Timers

/-! # Clients that raise errors
A watcher whose client raises errors is in lockstep with one whose client raises none (`calm_run`),
but for one kind of event: if the client raises an error when it is told that the source of a move
is gone, the change at the destination is not noticed (`WatchSetup.heard`). So two clients get the
same deliveries if they raise errors at the sources of the same moves
(`deliveries_eq_of_raise_alike`), and a client is told once of each error that it raises
(`ReportsAll.run`). -/

namespace Restyle

variable {e : FileEvent}

/-! ## Moves that are given up halfway -/

namespace WatchSetup

/-- What the client raises when it is told of the file that a path means. -/
def raisedAt (s : WatchSetup) (path : Sighting) : Option String := (s.match? path).bind s.raises

/-- Whether an error of the client keeps the change at the destination of a move from being
noticed. -/
def cutsShort (s : WatchSetup) (e : FileEvent) : Bool :=
  match e.changes with
  | [(source, _), (dest, _)] => (s.raisedAt source).isSome && (s.match? dest).isSome
  | _ => false

/-- `cutsShort` depends on `match?`, and on what the client raises at the source of a move, only. -/
theorem cutsShort_congr {s s' : WatchSetup} (hmatch : s'.match? = s.match?)
    (h : ∀ source dest : Sighting, e = { action := .moved dest, path := source } →
      (s.match? dest).isSome = true → ∀ file, s.match? source = some file →
        ((s'.raises file).isSome ↔ (s.raises file).isSome)) :
    s'.cutsShort e = s.cutsShort e := by
  obtain ⟨action, source, isDirectory⟩ := e
  cases isDirectory with
  | true => rfl
  | false =>
    cases action with
    | modified => rfl
    | created => rfl
    | deleted => rfl
    | touched => rfl
    | moved dest =>
      -- only a move has a second notification to cut short
      show (((s'.match? source).bind s'.raises).isSome && (s'.match? dest).isSome) =
        (((s.match? source).bind s.raises).isSome && (s.match? dest).isSome)
      rw [hmatch]
      cases hdest : s.match? dest with
      | none => rw [Option.isSome_none, Bool.and_false, Bool.and_false]
      | some target =>
        cases hsource : s.match? source with
        | none => rfl
        | some file =>
          have hsame := h source dest rfl (by rw [hdest, Option.isSome_some]) file hsource
          rw [Option.bind_some, Option.bind_some, Bool.eq_iff_iff.mpr hsame]

/-- What is noticed of an event: of a move that is given up halfway, only that the source is
gone. -/
def heard (s : WatchSetup) (e : FileEvent) : FileEvent :=
  if s.cutsShort e then { e with action := .deleted } else e

/-- What is noticed of a step. -/
def heardStep (s : WatchSetup) : WatchStep → WatchStep
  | .dispatch e => .dispatch (s.heard e)
  | step => step

/-- The failure that tells the client of the error that it has raised after a delivery. It names the
file if its window has closed, or else the path of the event that concerned the file. -/
def IsReportOf (s : WatchSetup) (steps : List WatchStep) (d : Delivery) (f : Failure) : Prop :=
  ∃ message, s.raises d.path = some message ∧
    (f = .watch ("Change callback failed: " ++ message) (some d.path) ∨
      ∃ e, .dispatch e ∈ steps ∧ (∃ c ∈ e.changes, s.match? c.1 = some d.path) ∧
        f = .watch ("Watch handler failed: " ++ message) (some (s.tree.normalize e.path.path)))

/-- There is one failure for every delivery after which the client has raised an error, in order. -/
def AllReported (s : WatchSetup) (steps : List WatchStep) (ds : List Delivery) (fs : List Failure) :
    Prop :=
  List.Forall₂ (s.IsReportOf steps) (ds.filter fun d => (s.raises d.path).isSome) fs

variable {s : WatchSetup} {steps : List WatchStep} {ds : List Delivery} {fs : List Failure}
  {d : Delivery}

/-- `AllReported` is kept by a delivery for which the client raises nothing. -/
theorem AllReported.append_of_none (h : s.AllReported steps ds fs) (hd : s.raises d.path = none) :
    s.AllReported steps (ds ++ [d]) fs := by
  unfold AllReported
  rwa [List.filter_append, List.filter_cons_of_neg (by simp [hd]), List.filter_nil, List.append_nil]

/-- `AllReported` is kept by a delivery together with its report. -/
theorem AllReported.append {f : Failure} (h : s.AllReported steps ds fs)
    (hf : s.IsReportOf steps d f) :
    s.AllReported steps (ds ++ [d]) (fs ++ [f]) := by
  obtain ⟨message, hraises, -⟩ := id hf
  unfold AllReported
  rw [List.filter_append, List.filter_cons_of_pos (by simp [hraises]), List.filter_nil]
  exact List.rel_append h (.cons hf .nil)

end WatchSetup

namespace Watcher

variable {w v : Watcher} {path : Sighting} {file message : String} {kind : ChangeKind}
  {timer : Timer}

/-! ## Watchers with a client that raises no errors -/

/-- The same watcher with a client that raises no errors, and does not want to hear of failures. -/
def calm (w : Watcher) : Watcher :=
  { w with raises := fun _ => none, wantsErrors := false, errors := [] }

/-- A calm watcher reports nothing. -/
@[simp] theorem report_calm (w : Watcher) (f : Failure) : w.calm.report f = w.calm := rfl

/-- `calm` forgets a report. -/
@[simp] theorem calm_report (w : Watcher) (f : Failure) : (w.report f).calm = w.calm := by
  unfold report
  split <;> rfl

/-- `calm` goes through `cancelTimer`. -/
theorem calm_cancelTimer (w : Watcher) (id : Nat) :
    (w.cancelTimer id).calm = w.calm.cancelTimer id :=
  apply_ite calm _ _ _

/-- `calm` goes through `dropTrailing`. -/
theorem calm_dropTrailing (w : Watcher) (path : String) :
    (w.dropTrailing path).calm = w.calm.dropTrailing path := by
  have hlookup : w.calm.trailing.lookup path = w.trailing.lookup path := rfl
  unfold dropTrailing
  rw [hlookup]
  cases w.trailing.lookup path with
  | none => rfl
  | some id => exact calm_cancelTimer _ id

/-- `calm` goes through `touch`. -/
theorem calm_touch (w : Watcher) (file : String) (kind : ChangeKind) :
    (w.touch file kind).calm = w.calm.touch file kind := by
  cases kind with
  | changed => exact apply_ite calm _ _ _
  | removed =>
    unfold touch
    simp only
    rw [← calm_dropTrailing]
    rfl
  | error => rfl

/-- `calm` goes through `postpone`. -/
theorem calm_postpone (w : Watcher) (path : String) (deadline : Nat) :
    (w.postpone path deadline).calm = w.calm.postpone path deadline :=
  apply_ite calm _ _ _

/-- `calm` goes through `deliver`, and a calm client raises nothing. -/
theorem deliver_calm (w : Watcher) (path : String) (kind : ChangeKind) :
    w.calm.deliver path kind = (.ok (), (w.deliver path kind).2.calm) := by
  have hnone : (if w.calm.spared w.calm.deliveries.length then none else w.calm.raises path) =
      none :=
    ite_self none
  rw [deliver_snd]
  unfold deliver
  simp only [hnone]
  rfl

/-- `calm` goes through `notify`: the state afterwards does not depend on what the client raises. -/
theorem notify_calm (w : Watcher) (path : Sighting) (kind : ChangeKind) :
    w.calm.notify path kind = (.ok (), (w.notify path kind).2.calm) := by
  cases hmatch : w.match? path with
  | none =>
    have hmatch' : w.calm.match? path = none := hmatch
    rw [notify_of_match?_eq_none hmatch, notify_of_match?_eq_none hmatch']
  | some file =>
    have hmatch' : w.calm.match? path = some file := hmatch
    cases hheld : (w.view file).holdsBack w.window w.clock kind with
    | true =>
      have hheld' : (w.calm.view file).holdsBack w.calm.window w.calm.clock kind = true := hheld
      obtain ⟨-, closing, -, hclosing, hnotify⟩ := notify_of_holdsBack hmatch hheld
      obtain ⟨-, closing', -, hclosing', hnotify'⟩ := notify_of_holdsBack hmatch' hheld'
      obtain rfl : closing = closing' := Option.some.inj (hclosing.symm.trans hclosing')
      rw [hnotify, hnotify', calm_postpone]
    | false =>
      have hheld' : (w.calm.view file).holdsBack w.calm.window w.calm.clock kind = false := hheld
      rw [notify_of_not_holdsBack hmatch hheld,
        notify_of_not_holdsBack hmatch' hheld', ← calm_touch, deliver_calm]

/-- A calm watcher goes on to the rest of the notifications in any case. -/
theorem notifyAll_calm_cons (w : Watcher) (path : Sighting) (kind : ChangeKind)
    (rest : List (Sighting × ChangeKind)) :
    w.calm.notifyAll ((path, kind) :: rest) = (w.notify path kind).2.calm.notifyAll rest := by
  rw [notifyAll, notify_calm]

/-- A calm watcher takes an event as its notifications, and reports nothing. -/
theorem dispatch_calm (w : Watcher) (e : FileEvent) :
    w.calm.dispatch e = (w.calm.notifyAll e.changes).2 := by
  have hok : ∀ (changes : List (Sighting × ChangeKind)) (w : Watcher),
      (w.calm.notifyAll changes).1 = .ok () := by
    intro changes
    induction changes with
    | nil => exact fun w => rfl
    | cons change changes ih =>
      intro w
      rw [notifyAll_calm_cons]
      exact ih _
  unfold dispatch
  split
  · next v hnotify => rw [hnotify]
  · next message v hnotify =>
    have hraised := hok e.changes w
    rw [hnotify] at hraised
    cases hraised

/-- The state after an event is that after its notifications, up to `calm`. -/
theorem calm_dispatch_eq (w : Watcher) (e : FileEvent) :
    (w.dispatch e).calm = (w.notifyAll e.changes).2.calm := by
  unfold dispatch
  split
  · next v hnotify => rw [hnotify]
  · next message v hnotify => rw [hnotify, calm_report]

/-! ## Events -/

/-- A delivery for a file with `w.raises file = none` is answered by `.ok ()`. -/
theorem deliver_of_raises_eq_none (hspared : w.spared = fun _ => false) (h : w.raises file = none) :
    w.deliver file kind =
      (.ok (), { w with deliveries := w.deliveries ++ [⟨file, kind, w.clock⟩] }) := by
  simp [deliver, hspared, h]

/-- A delivery for a file with `w.raises file = some message` is made, and then answered by
`.error message`. -/
theorem deliver_of_raises_eq_some
    (hspared : w.spared = fun _ => false) (h : w.raises file = some message) :
    w.deliver file kind =
      (.error message, { w with deliveries := w.deliveries ++ [⟨file, kind, w.clock⟩] }) := by
  simp [deliver, hspared, h]

/-- `notify path .removed` answers with what the client raises at `path`: a removal is never held
back. -/
theorem notify_removed_fst (hspared : w.spared = fun _ => false) (path : Sighting) :
    (w.notify path .removed).1 = (w.raisedAt path).elim (.ok ()) .error := by
  unfold WatchSetup.raisedAt
  cases hmatch : w.match? path with
  | none => rw [notify_of_match?_eq_none hmatch, Option.bind_none, Option.elim_none]
  | some file =>
    have hspared' : (w.touch file .removed).spared = fun _ => false := by rw [touch_setup, hspared]
    have hsame : (w.touch file .removed).raises file = w.raises file := by rw [touch_setup]
    rw [notify_of_not_holdsBack hmatch rfl, Option.bind_some]
    cases hraises : w.raises file with
    | none => rw [deliver_of_raises_eq_none hspared' (hsame.trans hraises), Option.elim_none]
    | some message =>
      rw [deliver_of_raises_eq_some hspared' (hsame.trans hraises), Option.elim_some]

/-- `calm` goes through `notifyAll` of a single change. -/
theorem calm_notifyAll_singleton (w : Watcher) (change : Sighting × ChangeKind) :
    (w.notifyAll [change]).2.calm = (w.calm.notifyAll [change]).2 := by
  obtain ⟨path, kind⟩ := change
  rw [notifyAll_calm_cons]
  cases hraised : (w.notify path kind).1 with
  | ok =>
    rw [notifyAll_cons_of_ok hraised]
    rfl
  | error message =>
    rw [notifyAll_cons_of_error hraised]
    rfl

/-- `calm` goes through `notifyAll` of a move, unless the client raises at the source and the
destination is watched: then the second change is left out. -/
theorem calm_notifyAll_moved (hspared : w.spared = fun _ => false) (source dest : Sighting) :
    (w.notifyAll [(source, .removed), (dest, .changed)]).2.calm =
      if (w.raisedAt source).isSome && (w.match? dest).isSome then
        (w.calm.notifyAll [(source, .removed)]).2
      else (w.calm.notifyAll [(source, .removed), (dest, .changed)]).2 := by
  have hfst := notify_removed_fst hspared source
  have hsetup := (tellsOnly_notify w source .removed).setup_eq
  rw [notifyAll_calm_cons, notifyAll_calm_cons]
  cases hraises : w.raisedAt source with
  | none =>
    rw [hraises, Option.elim_none] at hfst
    rw [notifyAll_cons_of_ok hfst]
    exact calm_notifyAll_singleton _ _
  | some message =>
    rw [hraises, Option.elim_some] at hfst
    rw [notifyAll_cons_of_error hfst]
    cases hdest : w.match? dest with
    | none =>
      -- there is nothing to notice at the destination
      have hdest' : (w.notify source .removed).2.match? dest = none := by rw [hsetup, hdest]
      rw [notifyAll_calm_cons, notify_of_match?_eq_none hdest']
      rfl
    | some file => rfl

/-- `(w.dispatch e).calm = w.calm.dispatch (w.heard e)`. -/
theorem calm_dispatch (hspared : w.spared = fun _ => false) (e : FileEvent) :
    (w.dispatch e).calm = w.calm.dispatch (w.heard e) := by
  rw [calm_dispatch_eq, dispatch_calm]
  obtain ⟨action, source, isDirectory⟩ := e
  cases isDirectory with
  | true => cases action <;> rfl
  | false =>
    cases action with
    | modified => exact calm_notifyAll_singleton w (source, .changed)
    | created => exact calm_notifyAll_singleton w (source, .changed)
    | deleted => exact calm_notifyAll_singleton w (source, .removed)
    | touched => rfl
    | moved dest =>
      have hcut : w.cutsShort { action := .moved dest, path := source } =
          ((w.raisedAt source).isSome && (w.match? dest).isSome) := rfl
      refine (calm_notifyAll_moved hspared source dest).trans ?_
      rw [WatchSetup.heard, hcut]
      split <;> rfl

/-! ## Runs -/

/-- The delivery for the file of a timer is about to be made, and the window of the file has been
opened anew. -/
def reopened (w : Watcher) (timer : Timer) : Watcher :=
  { w with
    clock := max w.clock timer.deadline
    timers := w.timers.erase timer
    trailing := w.trailing.filter (·.1 ≠ timer.path) }.openWindow timer.path

/-- `fire timer` reopens the window and delivers, if a delivery is outstanding; an error of the
client is reported. -/
theorem fire_eq_of_eq_some {id : Nat} (h : w.trailing.lookup timer.path = some id) :
    w.fire timer =
      match (w.reopened timer).deliver timer.path .changed with
      | (.ok (), v) => v
      | (.error message, v) =>
        v.report (.watch ("Change callback failed: " ++ message) (some timer.path)) := by
  have hout : (w.trailing.lookup timer.path).isSome = true := by rw [h, Option.isSome_some]
  exact if_pos hout

/-- `calm` goes through `fire`. -/
theorem calm_fire (w : Watcher) (timer : Timer) : (w.fire timer).calm = w.calm.fire timer := by
  cases hlookup : w.trailing.lookup timer.path with
  | none =>
    have hlookup' : w.calm.trailing.lookup timer.path = none := hlookup
    rw [fire_eq_of_eq_none hlookup, fire_eq_of_eq_none hlookup']
    rfl
  | some id =>
    have hlookup' : w.calm.trailing.lookup timer.path = some id := hlookup
    have hreopened : w.calm.reopened timer = (w.reopened timer).calm := rfl
    rw [fire_eq_of_eq_some hlookup, fire_eq_of_eq_some hlookup', hreopened, deliver_calm]
    split
    · next v hdeliver => rw [hdeliver]
    · next message v hdeliver => rw [hdeliver, calm_report]

/-- `calm` goes through `advance`. -/
theorem calm_advance (w : Watcher) (amount : Nat) :
    (w.advance amount).calm = w.calm.advance amount := by
  have hfold : (w.due (w.clock + amount)).foldl fire w.calm =
      ((w.due (w.clock + amount)).foldl fire w).calm :=
    List.foldl_hom calm fun w timer => (calm_fire w timer).symm
  have hdue : w.calm.due (w.calm.clock + amount) = w.due (w.clock + amount) := rfl
  unfold advance
  simp only [hdue, hfold]
  rfl

/-- `calm` goes through `start`. -/
theorem calm_start (w : Watcher) (fresh : Option Observer) :
    (w.start fresh).calm = w.calm.start fresh := by
  have hschedule : ∀ (w : Watcher) (dir : String),
      w.calm.scheduleDirectory dir = (w.scheduleDirectory dir).calm := by
    intro w dir
    have hlookup : w.calm.observer.failing.lookup dir = w.observer.failing.lookup dir := rfl
    unfold scheduleDirectory
    rw [hlookup]
    cases w.observer.failing.lookup dir with
    | none => rfl
    | some reason => simp only [report_calm, calm_report]
  refine (apply_ite calm _ _ _).trans ?_
  rw [← List.foldl_hom calm hschedule]
  rfl

/-- `calm` goes through `stop`. -/
theorem calm_stop (w : Watcher) : w.stop.calm = w.calm.stop := by
  have hfold : w.dropAllTrailing.calm = w.calm.dropAllTrailing :=
    (List.foldl_hom calm fun w p => (calm_cancelTimer w p.2).symm).symm
  unfold stop
  simp only [← hfold]
  exact apply_ite calm _ _ _

/-- `calm` goes through `check`. -/
theorem calm_check (w : Watcher) : w.check.2.calm = w.calm.check.2 := by
  have hcheck : ∀ (w : Watcher) (thread : Option String × Bool),
      w.calm.checkThread thread = (w.checkThread thread).calm := by
    intro w thread
    refine Eq.trans ?_ (apply_ite calm _ _ _).symm
    rw [calm_report]
    rfl
  have hhold : w.calm.isHolding = w.isHolding := rfl
  unfold check
  rw [hhold]
  cases w.isHolding with
  | true => exact (List.foldl_hom calm hcheck).symm
  | false => rfl

/-- `(w.step s).2.calm = (w.calm.step (w.heardStep s)).2`. -/
theorem calm_step (hspared : w.spared = fun _ => false) (s : WatchStep) :
    (w.step s).2.calm = (w.calm.step (w.heardStep s)).2 := by
  cases s with
  | dispatch e => exact calm_dispatch hspared e
  | notify path kind =>
    show _ = (w.calm.step (.notify path kind)).2
    rw [step_notify_snd, step_notify_snd, notify_calm]
  | advance amount => exact calm_advance w amount
  | report f => exact calm_report w f
  | start fresh => exact calm_start w fresh
  | stop => exact calm_stop w
  | check => exact calm_check w
  | killEmitter index => rfl
  | killObserver => rfl

/-- `(w.run steps).calm = w.calm.run (steps.map w.heardStep)`. -/
theorem calm_run (hspared : w.spared = fun _ => false) (steps : List WatchStep) :
    (w.run steps).calm = w.calm.run (steps.map w.heardStep) := by
  induction steps generalizing w with
  | nil => rfl
  | cons s steps ih =>
    have hsetup := setup_step w s
    have hspared' : (w.step s).2.spared = fun _ => false := by rw [hsetup, hspared]
    have hrest := ih hspared'
    rw [hsetup, calm_step hspared] at hrest
    exact hrest

/-! ## Reports -/

/-- The client has been told of every error that it has raised, once and in order. -/
structure ReportsAll (w : Watcher) (steps : List WatchStep) : Prop where
  /-- The client raises an error after every delivery for a file, or after none. -/
  spared_eq : w.spared = fun _ => false
  /-- The client wants to hear of failures. -/
  wantsErrors_eq : w.wantsErrors = true
  /-- There is one failure for every error. -/
  allReported : w.AllReported steps w.deliveries w.errors

/-- The client has been told of every error but the one that it has raised just now. -/
structure HasRaised (w : Watcher) (steps : List WatchStep) (file message : String) : Prop where
  /-- The client raises an error after every delivery for a file, or after none. -/
  spared_eq : w.spared = fun _ => false
  /-- The client wants to hear of failures. -/
  wantsErrors_eq : w.wantsErrors = true
  /-- It has raised this error. -/
  raises_eq : w.raises file = some message
  /-- It has done so after the last delivery. -/
  exists_last : ∃ before d, w.deliveries = before ++ [d] ∧ d.path = file ∧
    w.AllReported steps before w.errors

/-- The client has been told of every error, but for one that it may have raised just now, for one
of the given files. -/
def IsAccounted (steps : List WatchStep) (concerned : String → Prop) :
    Except String Unit × Watcher → Prop
  | (.ok (), w) => w.ReportsAll steps
  | (.error message, w) => ∃ file, concerned file ∧ w.HasRaised steps file message

variable {steps : List WatchStep} {concerned : String → Prop}

/-- `IsAccounted` is kept when more files are concerned. -/
theorem IsAccounted.imp {concerned' : String → Prop} {result : Except String Unit × Watcher}
    (h : IsAccounted steps concerned result) (himp : ∀ file, concerned file → concerned' file) :
    IsAccounted steps concerned' result := by
  obtain ⟨message | _, w⟩ := result
  · obtain ⟨file, hfile, hraised⟩ := h
    exact ⟨file, himp file hfile, hraised⟩
  · exact h

/-- Reporting the error that has been raised just now completes `ReportsAll`. -/
theorem HasRaised.report (h : w.HasRaised steps file message) {f : Failure}
    (hf : ∀ d : Delivery, d.path = file → w.IsReportOf steps d f) :
    (w.report f).ReportsAll steps := by
  obtain ⟨before, d, hlast, hpath, hreported⟩ := h.exists_last
  unfold Watcher.report
  rw [if_pos h.wantsErrors_eq]
  refine ⟨h.spared_eq, h.wantsErrors_eq, ?_⟩
  show w.AllReported steps w.deliveries (w.errors ++ [f])
  rw [hlast]
  exact hreported.append (hf d hpath)

/-- `deliver path` keeps the account, where only `path` is concerned. -/
theorem ReportsAll.deliver (h : w.ReportsAll steps) (path : String) (kind : ChangeKind) :
    IsAccounted steps (· = path) (w.deliver path kind) := by
  cases hraises : w.raises path with
  | none =>
    rw [deliver_of_raises_eq_none h.spared_eq hraises]
    exact ⟨h.spared_eq, h.wantsErrors_eq, h.allReported.append_of_none hraises⟩
  | some message =>
    rw [deliver_of_raises_eq_some h.spared_eq hraises]
    exact ⟨path, rfl, h.spared_eq, h.wantsErrors_eq, hraises, w.deliveries, _, rfl, rfl,
      h.allReported⟩

/-- `notify path` keeps the account, where only `w.match? path` is concerned. -/
theorem ReportsAll.notify (h : w.ReportsAll steps) (path : Sighting) (kind : ChangeKind) :
    IsAccounted steps (w.match? path = some ·) (w.notify path kind) := by
  cases hmatch : w.match? path with
  | none =>
    rw [notify_of_match?_eq_none hmatch]
    exact h
  | some file =>
    cases hheld : (w.view file).holdsBack w.window w.clock kind with
    | true =>
      obtain ⟨-, closing, -, -, hnotify⟩ := notify_of_holdsBack hmatch hheld
      rw [hnotify]
      unfold postpone
      split
      · exact h
      · exact ⟨h.spared_eq, h.wantsErrors_eq, h.allReported⟩
    | false =>
      have htouch : (w.touch file kind).ReportsAll steps := by
        obtain ⟨lastSeen, trailing, timers, heq⟩ := touch_eq w file kind
        rw [heq]
        exact ⟨h.spared_eq, h.wantsErrors_eq, h.allReported⟩
      -- what is touched before the delivery is neither delivered nor reported
      rw [notify_of_not_holdsBack hmatch hheld]
      refine (htouch.deliver file kind).imp ?_
      rintro _ rfl
      rfl

/-- `notifyAll changes` keeps the account, where only the files that `changes` match are
concerned. -/
theorem ReportsAll.notifyAll (h : w.ReportsAll steps) (changes : List (Sighting × ChangeKind)) :
    IsAccounted steps (fun file => ∃ c ∈ changes, w.match? c.1 = some file)
      (w.notifyAll changes) := by
  induction changes generalizing w with
  | nil => exact h
  | cons change changes ih =>
    obtain ⟨path, kind⟩ := change
    have hfirst := h.notify path kind
    have hsetup := (tellsOnly_notify w path kind).setup_eq
    rw [Watcher.notifyAll]
    split
    · next v hnotify =>
      rw [hnotify] at hfirst hsetup
      refine (ih hfirst).imp ?_
      rintro file ⟨c, hc, hmatch⟩
      exact ⟨c, List.mem_cons_of_mem _ hc, hsetup ▸ hmatch⟩
    · next message v hnotify =>
      -- nothing else is noticed, so that this error stays the last one
      rw [hnotify] at hfirst
      obtain ⟨file, hmatch, hraised⟩ := hfirst
      exact ⟨file, ⟨(path, kind), List.mem_cons_self, hmatch⟩, hraised⟩

/-- `dispatch e` keeps `ReportsAll`: what the client raises is reported with the path of the
event. -/
theorem ReportsAll.dispatch (h : w.ReportsAll steps) {e : FileEvent} (he : .dispatch e ∈ steps) :
    (w.dispatch e).ReportsAll steps := by
  have hall := h.notifyAll e.changes
  have hsetup := (tellsOnly_notifyAll w e.changes).setup_eq
  unfold Watcher.dispatch
  split
  · next v hnotify =>
    rw [hnotify] at hall
    exact hall
  · next message v hnotify =>
    rw [hnotify] at hall hsetup
    obtain ⟨file, ⟨c, hc, hmatch⟩, hraised⟩ := hall
    refine hraised.report ?_
    rintro d rfl
    exact ⟨message, hraised.raises_eq, .inr ⟨e, he, ⟨c, hc, hsetup ▸ hmatch⟩, rfl⟩⟩

/-- `fire timer` keeps `ReportsAll`: what the client raises is reported with the file. -/
theorem ReportsAll.fire (h : w.ReportsAll steps) (timer : Timer) :
    (w.fire timer).ReportsAll steps := by
  cases hlookup : w.trailing.lookup timer.path with
  | none =>
    rw [fire_eq_of_eq_none hlookup]
    exact ⟨h.spared_eq, h.wantsErrors_eq, h.allReported⟩
  | some id =>
    have hreopened : (w.reopened timer).ReportsAll steps :=
      ⟨h.spared_eq, h.wantsErrors_eq, h.allReported⟩
    have hdeliver := hreopened.deliver timer.path .changed
    rw [fire_eq_of_eq_some hlookup]
    split
    · next v hresult =>
      rw [hresult] at hdeliver
      exact hdeliver
    · next message v hresult =>
      rw [hresult] at hdeliver
      obtain ⟨file, rfl, hraised⟩ := hdeliver
      refine hraised.report fun d hd => ⟨message, ?_, .inl ?_⟩
      · rw [hd, hraised.raises_eq]
      · rw [hd]

/-- `advance` keeps `ReportsAll`. -/
theorem ReportsAll.advance (h : w.ReportsAll steps) (amount : Nat) :
    (w.advance amount).ReportsAll steps := by
  have hfold : ((w.due (w.clock + amount)).foldl Watcher.fire w).ReportsAll steps :=
    List.foldlRecOn (motive := fun v : Watcher => v.ReportsAll steps) _ _ h
      fun v hv timer _ => hv.fire timer
  exact ⟨hfold.spared_eq, hfold.wantsErrors_eq, hfold.allReported⟩

/-- A run of events and of time that passes keeps `ReportsAll`. -/
theorem ReportsAll.run (h : w.ReportsAll steps) {next : List WatchStep} (hnext : next ⊆ steps)
    (hkind : ∀ s ∈ next, (∃ e, s = .dispatch e) ∨ ∃ amount, s = .advance amount) :
    (w.run next).ReportsAll steps := by
  refine List.foldlRecOn (motive := fun v : Watcher => v.ReportsAll steps) _ _ h fun v hv s hs => ?_
  rcases hkind s hs with ⟨e, rfl⟩ | ⟨amount, rfl⟩
  · exact hv.dispatch (hnext hs)
  · exact hv.advance amount

/-! ## What a client's errors change -/

/-- Errors of a client have no effect on what is delivered, but that a move may be given up halfway:
two clients get the same deliveries if they raise errors at the sources of the same moves from one
watched file to another. A client is told of each error that it raises, once and in order. -/
theorem deliveries_eq_of_raise_alike (setup : WatchSetup) (observer : Observer)
    (steps : List WatchStep) (first second : String → Option String)
    (hmoves : ∀ source dest : Sighting,
      .dispatch { action := .moved dest, path := source } ∈ steps →
      (setup.match? dest).isSome = true → ∀ file, setup.match? source = some file →
        ((first file).isSome ↔ (second file).isSome)) :
    let watcher (raises : String → Option String) : Watcher :=
      { setup with raises, spared := fun _ => false, wantsErrors := true, observer }
    ((watcher first).run steps).deliveries = ((watcher second).run steps).deliveries ∧
      ((∀ s ∈ steps, (∃ e, s = .dispatch e) ∨ ∃ amount, s = .advance amount) →
        ∀ raises, (watcher raises).AllReported steps ((watcher raises).run steps).deliveries
          ((watcher raises).run steps).errors) := by
  intro watcher
  constructor
  · -- both watchers are in lockstep with the same calm one, which notices the same
    have hsteps : steps.map (watcher first).heardStep = steps.map (watcher second).heardStep := by
      refine List.map_congr_left fun s hs => ?_
      cases s with
      | dispatch e =>
        have hcut : (watcher first).cutsShort e = (watcher second).cutsShort e := by
          refine WatchSetup.cutsShort_congr rfl ?_
          rintro source dest rfl
          exact hmoves source dest hs
        show WatchStep.dispatch ((watcher first).heard e) = .dispatch ((watcher second).heard e)
        rw [WatchSetup.heard, WatchSetup.heard, hcut]
      | _ => rfl
    have hsame : ((watcher first).run steps).calm = ((watcher second).run steps).calm := by
      rw [calm_run rfl, calm_run rfl, hsteps]
      rfl
    have hdeliveries := congrArg Watcher.deliveries hsame
    exact hdeliveries
  · intro hkind raises
    -- a client that has been told of nothing has raised nothing
    have hnew : (watcher raises).ReportsAll steps := ⟨rfl, rfl, .nil⟩
    have hsetup := setup_run (watcher raises) steps
    have hend := (hnew.run (List.Subset.refl _) hkind).allReported
    rwa [hsetup] at hend

/-- A client that raises an error for one file, and a client that raises another one for it and an
error for the file to which it is moved. -/
theorem deliveries_eq_of_raise_alike_moved :
    let setup : WatchSetup := { paths := ["/a.scss", "/b.scss"], window := 10 }
    let first : String → Option String := fun file => if file = "/a.scss" then some "busy" else none
    let second : String → Option String := fun _ => some "down"
    let steps : List WatchStep :=
      [.dispatch { action := .modified, path := { path := "/b.scss" } },
        .dispatch { action := .modified, path := { path := "/b.scss" } },
        .dispatch { action := .moved { path := "/b.scss" }, path := { path := "/a.scss" } },
        .advance 20]
    let watcher (raises : String → Option String) : Watcher :=
      { setup with raises, spared := fun _ => false, wantsErrors := true, observer := {} }
    (∀ source dest : Sighting, .dispatch { action := .moved dest, path := source } ∈ steps →
      (setup.match? dest).isSome = true → ∀ file, setup.match? source = some file →
        ((first file).isSome ↔ (second file).isSome)) ∧
      (∀ s ∈ steps, (∃ e, s = .dispatch e) ∨ ∃ amount, s = .advance amount) ∧
      ((watcher first).run steps).deliveries = ((watcher second).run steps).deliveries ∧
      (watcher second).AllReported steps ((watcher second).run steps).deliveries
        ((watcher second).run steps).errors := by
  intro setup first second steps watcher
  have hmoves : ∀ source dest : Sighting,
      .dispatch { action := .moved dest, path := source } ∈ steps →
      (setup.match? dest).isSome = true → ∀ file, setup.match? source = some file →
        ((first file).isSome ↔ (second file).isSome) := by
    intro source dest hmem _ file hfile
    obtain ⟨rfl, rfl⟩ : dest = { path := "/b.scss" } ∧ source = { path := "/a.scss" } := by
      simpa [steps] using hmem
    have hmatch : setup.match? { path := "/a.scss" } = some "/a.scss" := by decide
    obtain rfl := Option.some.inj (hmatch.symm.trans hfile)
    decide
  have hkind : ∀ s ∈ steps, (∃ e, s = .dispatch e) ∨ ∃ amount, s = .advance amount := by
    simp [steps]
  have hmain := deliveries_eq_of_raise_alike setup {} steps first second hmoves
  exact ⟨hmoves, hkind, hmain.1, hmain.2 hkind second⟩

/-- A file that is moved to another one. If the client raises an error when it is told that the
first one is gone, the change of the second one is lost. -/
theorem deliveries_ne_of_raise_at_moved :
    let setup : WatchSetup := { paths := ["/a.scss", "/b.scss"] }
    let steps : List WatchStep :=
      [.dispatch { action := .moved { path := "/b.scss" }, path := { path := "/a.scss" } }]
    let raising : Watcher :=
      { setup with raises := fun file => if file = "/a.scss" then some "busy" else none }
    let silent : Watcher := { setup with raises := fun _ => none }
    (raising.run steps).deliveries = [⟨"/a.scss", .removed, 0⟩] ∧
      (silent.run steps).deliveries = [⟨"/a.scss", .removed, 0⟩, ⟨"/b.scss", .changed, 0⟩] ∧
      (raising.run steps).deliveries ≠ (silent.run steps).deliveries := by
  decide

end Watcher

end Restyle
