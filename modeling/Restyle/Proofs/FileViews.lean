import Mathlib
import Restyle.Proofs.Timers
import Restyle.Proofs.WatcherSteps

/-! # Single files
Watched files do not get into each other's way. What a watcher knows about one file and has told of
it (`FileView`) changes when something that happens to this file is noticed (`notice`), when a timer
of this file fires (`close`) and when the watcher stops (`giveUp`), and each time the new view is a
function of the old one: `view_notify`, `view_advance` and `view_stop`. -/

namespace Restyle

/-- What a watcher knows about one file, and what it has told of it. -/
structure FileView where
  /-- When the window of the file was opened. -/
  opened : Option Nat
  /-- Whether a delivery is outstanding. -/
  isOutstanding : Bool
  /-- The deliveries for the file, oldest first. -/
  deliveries : List Delivery
  deriving DecidableEq

namespace FileView

variable {v : FileView} {window time : Nat} {file : String} {kind : ChangeKind}

/-- When the last window of the file closes, or has closed. -/
def closing? (v : FileView) (window : Nat) : Option Nat := v.opened.map (· + window)

/-- Whether a window is open. -/
def isOpen (v : FileView) (window time : Nat) : Bool := (v.closing? window).any (time < ·)

/-- Whether something that happens to the file is kept until its window closes. -/
def holdsBack (v : FileView) (window time : Nat) (kind : ChangeKind) : Bool :=
  kind = .changed && window ≠ 0 && v.isOpen window time

/-- A delivery is made. -/
def deliver (v : FileView) (d : Delivery) : FileView := { v with deliveries := v.deliveries ++ [d] }

/-- What is delivered at once opens a window, or ends what there was of the file before. -/
def touch (v : FileView) (window time : Nat) : ChangeKind → FileView
  | .changed => if window = 0 then v else { v with opened := some time }
  | .removed => { v with opened := none, isOutstanding := false }
  | .error => v

/-- It is noticed that something has happened to the file. -/
def notice (v : FileView) (window time : Nat) (file : String) (kind : ChangeKind) : FileView :=
  if v.holdsBack window time kind then { v with isOutstanding := true }
  else (v.touch window time kind).deliver ⟨file, kind, time⟩

/-- A timer of the file fires. -/
def close (v : FileView) (file : String) (time : Nat) : FileView :=
  if v.isOutstanding then
    { v with opened := some time, isOutstanding := false }.deliver ⟨file, .changed, time⟩
  else v

/-- What is outstanding is given up. -/
def giveUp (v : FileView) : FileView := { v with isOutstanding := false }

/-- `holdsBack` is true exactly of a change, at a `window ≠ 0` that is open. -/
theorem holdsBack_eq_true_iff :
    v.holdsBack window time kind = true ↔ kind = .changed ∧ window ≠ 0 ∧
    v.isOpen window time = true := by
  simp [holdsBack, and_assoc]

/-- `isOpen` is true exactly before the time `closing?` names. -/
theorem isOpen_eq_true_iff :
    v.isOpen window time = true ↔ ∃ closing, v.closing? window = some closing ∧ time < closing := by
  simp [isOpen, Option.any_eq_true]

/-- `closing?` is `opened + window`, if the window has been opened. -/
theorem closing?_eq_some_iff {closing : Nat} :
    v.closing? window = some closing ↔ ∃ opened, v.opened = some opened ∧
    opened + window = closing := by
  simp [closing?]

/-- `close` delivers what is outstanding, and opens a new window at `time`. -/
theorem close_of_isOutstanding (h : v.isOutstanding = true) (file : String) (time : Nat) :
    v.close file time =
      { v with opened := some time, isOutstanding := false }.deliver ⟨file, .changed, time⟩ :=
  if_pos h

/-- `v.close file time = v` when nothing is outstanding. -/
theorem close_of_not_isOutstanding (h : v.isOutstanding = false) (file : String) (time : Nat) :
    v.close file time = v := by
  simp [close, h]

/-- A delivery leaves `isOutstanding` as it is. -/
@[simp] theorem isOutstanding_deliver (d : Delivery) :
    (v.deliver d).isOutstanding = v.isOutstanding := rfl

/-- Nothing is outstanding after `close`. -/
@[simp] theorem isOutstanding_close : (v.close file time).isOutstanding = false := by
  unfold close
  split
  · rfl
  · next h => simpa using h

end FileView

namespace Watcher

variable {w w' : Watcher} {path : Sighting} {file : String} {kind : ChangeKind} {timer : Timer}

/-- What a watcher knows about a file, and what it has told of it. -/
def view (w : Watcher) (file : String) : FileView where
  opened := w.lastSeen.lookup file
  isOutstanding := (w.trailing.lookup file).isSome
  deliveries := w.deliveries.filter (·.path = file)

/-- `KeepsWindows w w'` leaves every view as it is. -/
theorem KeepsWindows.view_eq (h : KeepsWindows w w') (file : String) :
    w'.view file = w.view file := by
  unfold view
  rw [h.lastSeen_eq, h.trailing_eq, h.deliveries_eq]

/-! ## Notifications -/

/-- `(w.view file).isOpen w.window w.clock` is whether `w.windowEnd? file` names a time. -/
theorem isOpen_view (w : Watcher) (file : String) :
    (w.view file).isOpen w.window w.clock = (w.windowEnd? file).isSome := by
  unfold windowEnd? FileView.isOpen FileView.closing? view
  cases w.lastSeen.lookup file with
  | none => rfl
  | some opened => by_cases h : w.clock < opened + w.window <;> simp [h]

/-- What is delivered at once opens the window of its file, or ends what there was of the file
before. -/
def touch (w : Watcher) (file : String) : ChangeKind → Watcher
  | .changed => if w.window = 0 then w else w.openWindow file
  | .removed => (w.dropTrailing file).forgetWindow file
  | .error => w

/-- `w.notify path kind = (.ok (), w.postpone file closing)` when `holdsBack`: the change waits
until the window of `file` closes at `closing`. -/
theorem notify_of_holdsBack (hmatch : w.match? path = some file)
    (hheld : (w.view file).holdsBack w.window w.clock kind = true) :
    kind = .changed ∧ ∃ closing, w.clock < closing ∧
      (w.view file).closing? w.window = some closing ∧
      w.notify path kind = (.ok (), w.postpone file closing) := by
  obtain ⟨rfl, hwindow, hopen⟩ := FileView.holdsBack_eq_true_iff.mp hheld
  rw [isOpen_view] at hopen
  obtain ⟨closing, hend⟩ := Option.isSome_iff_exists.mp hopen
  obtain ⟨opened, hlookup, hlt, rfl⟩ := windowEnd?_eq_some hend
  refine ⟨rfl, _, hlt, FileView.closing?_eq_some_iff.mpr ⟨opened, hlookup, rfl⟩, ?_⟩
  unfold notify
  simp only [hmatch, hwindow, hend, if_false]

/-- `w.notify path kind = (w.touch file kind).deliver file kind` unless `holdsBack`: the news is
delivered at once. -/
theorem notify_of_not_holdsBack (hmatch : w.match? path = some file)
    (hheld : (w.view file).holdsBack w.window w.clock kind = false) :
    w.notify path kind = (w.touch file kind).deliver file kind := by
  unfold notify touch
  rw [hmatch]
  cases kind with
  | changed =>
    by_cases hwindow : w.window = 0
    · simp only [hwindow, if_true]
    · have hclosed : w.windowEnd? file = none := by
        rw [← Option.not_isSome_iff_eq_none, ← isOpen_view]
        intro hopen
        rw [FileView.holdsBack_eq_true_iff.mpr ⟨rfl, hwindow, hopen⟩] at hheld
        cases hheld
      simp only [hwindow, hclosed, if_false]
  | removed => rfl
  | error => rfl

/-- `w.notify path kind = (.ok (), w)` when `path` means no watched file. -/
theorem notify_of_match?_eq_none (hmatch : w.match? path = none) :
    w.notify path kind = (.ok (), w) := by
  unfold notify
  rw [hmatch]

/-- `deliver path` adds `⟨path, kind, w.clock⟩` to the view of `path`, and leaves the other
views. -/
theorem view_deliver (w : Watcher) (path : String) (kind : ChangeKind) (file : String) :
    (w.deliver path kind).2.view file =
      if path = file then (w.view file).deliver ⟨path, kind, w.clock⟩ else w.view file := by
  rw [deliver_snd]
  unfold view FileView.deliver
  by_cases h : path = file <;> simp [h, List.filter_append]

/-- `postpone path` makes a delivery outstanding in the view of `path`, and leaves the other
views. -/
theorem view_postpone (w : Watcher) (path : String) (deadline : Nat) (file : String) :
    (w.postpone path deadline).view file =
      if path = file then { w.view file with isOutstanding := true } else w.view file := by
  unfold postpone
  split
  · next hsome =>
    split
    · next heq =>
      subst heq
      simp [view, hsome]
    · rfl
  · unfold view
    have hnew : (w.trailing ++ [(path, w.timerCount)]).lookup file =
        (w.trailing.lookup file).or (if file == path then some w.timerCount else none) := by
      rw [List.lookup_append, List.lookup_cons, List.lookup_nil]
      split <;> simp_all
    simp only [hnew, Option.isSome_or]
    by_cases h : path = file
    · simp [h]
    · have hne : (file == path) = false := by simpa using Ne.symm h
      simp [h, hne]

/-- `openWindow path` sets `opened` to the clock in the view of `path`, and leaves the other
views. -/
theorem view_openWindow (w : Watcher) (path file : String) :
    (w.openWindow path).view file =
      if path = file then { w.view file with opened := some w.clock } else w.view file := by
  unfold openWindow view
  by_cases h : path = file
  · subst h
    simp
  · have hne : (file == path) = false := by simpa using Ne.symm h
    simp only [List.lookup_cons, hne, lookup_filter_ne (Ne.symm h), h, if_false]

/-- `forgetWindow path` sets `opened` to `none` in the view of `path`, and leaves the other
views. -/
theorem view_forgetWindow (w : Watcher) (path file : String) :
    (w.forgetWindow path).view file =
      if path = file then { w.view file with opened := none } else w.view file := by
  unfold forgetWindow view
  by_cases h : path = file
  · subst h
    simp only [lookup_filter_self, if_true]
  · simp only [lookup_filter_ne (Ne.symm h), h, if_false]

/-- `dropTrailing path` gives up what is outstanding in the view of `path`, and leaves the other
views. -/
theorem view_dropTrailing (w : Watcher) (path file : String) :
    (w.dropTrailing path).view file = if path = file then (w.view file).giveUp
      else w.view file := by
  obtain ⟨timers, heq, -, -⟩ := dropTrailing_eq w path
  rw [heq]
  unfold view FileView.giveUp
  by_cases h : path = file
  · subst h
    simp only [lookup_filter_self, if_true, Option.isSome_none]
  · simp only [lookup_filter_ne (Ne.symm h), h, if_false]

/-- `touch path kind` is `FileView.touch` in the view of `path`, and leaves the other views. -/
theorem view_touch (w : Watcher) (path file : String) (kind : ChangeKind) :
    (w.touch path kind).view file =
      if path = file then (w.view file).touch w.window w.clock kind else w.view file := by
  cases kind with
  | changed =>
    unfold touch FileView.touch
    simp only
    split
    · split <;> rfl
    · exact view_openWindow w path file
  | removed =>
    unfold touch FileView.touch
    simp only
    rw [view_forgetWindow, view_dropTrailing]
    split <;> rfl
  | error => exact (ite_self _).symm

/-- `touch` changes `lastSeen`, `trailing` and `timers` only. -/
theorem touch_eq (w : Watcher) (path : String) (kind : ChangeKind) :
    ∃ lastSeen trailing timers, w.touch path kind = { w with lastSeen, trailing, timers } := by
  cases kind with
  | changed =>
    unfold touch
    simp only
    split
    · exact ⟨w.lastSeen, w.trailing, w.timers, rfl⟩
    · exact ⟨_, w.trailing, w.timers, rfl⟩
  | removed =>
    obtain ⟨timers, heq, -, -⟩ := dropTrailing_eq w path
    unfold touch
    simp only
    rw [heq]
    exact ⟨_, _, timers, rfl⟩
  | error => exact ⟨w.lastSeen, w.trailing, w.timers, rfl⟩

/-- `touch` leaves the setup as it is. -/
@[simp] theorem touch_setup (w : Watcher) (path : String) (kind : ChangeKind) :
    (w.touch path kind).toWatchSetup = w.toWatchSetup := by
  obtain ⟨lastSeen, trailing, timers, heq⟩ := touch_eq w path kind
  rw [heq]

/-- `touch` leaves the clock as it is. -/
@[simp] theorem touch_clock (w : Watcher) (path : String) (kind : ChangeKind) :
    (w.touch path kind).clock = w.clock := by
  obtain ⟨lastSeen, trailing, timers, heq⟩ := touch_eq w path kind
  rw [heq]

/-- `touch` delivers nothing. -/
@[simp] theorem touch_deliveries (w : Watcher) (path : String) (kind : ChangeKind) :
    (w.touch path kind).deliveries = w.deliveries := by
  obtain ⟨lastSeen, trailing, timers, heq⟩ := touch_eq w path kind
  rw [heq]

/-- `notify path kind` is `FileView.notice` in the view of the file that `w.match? path` names, and
leaves the other views. -/
theorem view_notify (w : Watcher) (path : Sighting) (kind : ChangeKind) (file : String) :
    (w.notify path kind).2.view file =
      if w.match? path = some file then (w.view file).notice w.window w.clock file kind
      else w.view file := by
  cases hmatch : w.match? path with
  | none => simp [notify_of_match?_eq_none hmatch]
  | some other =>
    simp only [Option.some.injEq]
    cases hheld : (w.view other).holdsBack w.window w.clock kind with
    | true =>
      obtain ⟨-, closing, -, -, hnotify⟩ := notify_of_holdsBack hmatch hheld
      rw [hnotify, view_postpone]
      split
      · next heq =>
        subst heq
        rw [FileView.notice, if_pos hheld]
      · rfl
    | false =>
      rw [notify_of_not_holdsBack hmatch hheld, view_deliver, view_touch, touch_clock]
      split
      · next heq =>
        subst heq
        rw [FileView.notice, hheld, if_neg Bool.false_ne_true]
      · rfl

/-! ## The passing of time -/

/-- `fire timer` is `FileView.close` in the view of `timer.path`, not before `timer.deadline`, and
leaves the other views. -/
theorem view_fire (w : Watcher) (timer : Timer) (file : String) :
    (w.fire timer).view file =
      if timer.path = file then (w.view file).close file (max w.clock timer.deadline)
      else w.view file := by
  -- only the entry of the path counts, whichever timer fires
  cases hlookup : w.trailing.lookup timer.path with
  | none =>
    rw [fire_eq_of_eq_none hlookup]
    split
    · next heq =>
      subst heq
      have hnone : (w.view timer.path).isOutstanding = false := by simp [view, hlookup]
      rw [FileView.close_of_not_isOutstanding hnone]
      rfl
    · rfl
  | some id =>
    rw [(keepsWindows_fire hlookup).view_eq]
    split
    · next heq =>
      subst heq
      have hsome : (w.view timer.path).isOutstanding = true := by simp [view, hlookup]
      rw [FileView.close_of_isOutstanding hsome]
      unfold view FileView.deliver
      simp only [List.filter_append, List.lookup_cons, beq_self_eq_true, lookup_filter_self]
      simp
    · next hne =>
      unfold view
      have hlater : (file == timer.path) = false := by simpa using Ne.symm hne
      simp only [List.lookup_cons, hlater, lookup_filter_ne (Ne.symm hne), List.filter_append]
      simp [hne]

/-- Of `timers` in the order of their deadlines that fire, only the first one of a file changes its
view, by `close` at its deadline. -/
theorem view_foldl_fire {timers : List Timer} (w : Watcher)
    (hsorted : timers.Pairwise fun a b => a.deadline ≤ b.deadline)
    (hclock : ∀ timer ∈ timers, w.clock ≤ timer.deadline) (file : String) :
    (timers.foldl fire w).view file = (timers.find? (·.path = file)).elim (w.view file)
      fun timer => (w.view file).close file timer.deadline := by
  induction timers generalizing w with
  | nil => rfl
  | cons timer timers ih =>
    obtain ⟨hfirst, hrest⟩ := List.pairwise_cons.mp hsorted
    have hnow : max w.clock timer.deadline = timer.deadline :=
      Nat.max_eq_right (hclock timer List.mem_cons_self)
    -- the clock never passes a deadline still to come, by the order of the timers
    have hclock' : ∀ other ∈ timers, (w.fire timer).clock ≤ other.deadline := by
      intro other hother
      rw [fire_clock, hnow]
      exact hfirst other hother
    rw [List.foldl_cons, ih (w.fire timer) hrest hclock', view_fire, hnow]
    by_cases hpath : timer.path = file
    · -- nothing is outstanding any more, whatever fires later
      rw [List.find?_cons_of_pos (by simpa using hpath), if_pos hpath]
      have hdone : ((w.view file).close file timer.deadline).isOutstanding = false :=
        FileView.isOutstanding_close
      cases timers.find? (·.path = file) with
      | none => rfl
      | some later => exact FileView.close_of_not_isOutstanding hdone _ _
    · rw [List.find?_cons_of_neg (by simpa using hpath), if_neg hpath]

/-- `advance amount` closes the view of a file at the deadline of its first timer that is due up to
`w.clock + amount`, and leaves it if there is none. -/
theorem Timely.view_advance (hw : w.Timely) (amount : Nat) (file : String) :
    (w.advance amount).view file =
      ((w.due (w.clock + amount)).find? (·.path = file)).elim (w.view file)
        fun timer => (w.view file).close file timer.deadline :=
  view_foldl_fire w (pairwise_due w _)
    (fun timer htimer => (hw.clock_lt timer (mem_due.mp htimer).1).le) file

/-! ## The end of watching -/

/-- `stop` is `giveUp` in every view. -/
theorem view_stop (w : Watcher) (file : String) : w.stop.view file = (w.view file).giveUp := by
  obtain ⟨timers, hkeeps, -⟩ := stop_eq w
  exact hkeeps.view_eq file

/-! ## What every step keeps -/

/-- What every notification keeps, `notifyAll` keeps. -/
theorem notifyAll_induction {P : Watcher → Prop} (h : P w)
    (hnotify : ∀ v path kind, TellsOnly w v → P v → P (v.notify path kind).2)
    (changes : List (Sighting × ChangeKind)) : P (w.notifyAll changes).2 := by
  induction changes generalizing w with
  | nil => exact h
  | cons change changes ih =>
    obtain ⟨path, kind⟩ := change
    have hfirst := hnotify w path kind (.refl w) h
    cases hraised : (w.notify path kind).1 with
    | ok =>
      have htells := tellsOnly_notify w path kind
      rw [notifyAll_cons_of_ok hraised]
      exact ih hfirst fun v path kind hv => hnotify v path kind (htells.trans hv)
    | error message =>
      rw [notifyAll_cons_of_error hraised]
      exact hfirst

/-- What `FileView.notice` keeps of the view of `file`, one notification keeps. -/
theorem view_notify_induction {P : FileView → Prop} (h : P (w.view file))
    (hnotice : ∀ v kind, P v → P (v.notice w.window w.clock file kind)) (path : Sighting)
    (kind : ChangeKind) : P ((w.notify path kind).2.view file) := by
  rw [view_notify]
  split
  · exact hnotice _ kind h
  · exact h

/-- What `FileView.notice` keeps of the view of `file`, `notifyAll` keeps. -/
theorem view_notifyAll_induction {P : FileView → Prop} (h : P (w.view file))
    (hnotice : ∀ v kind, P v → P (v.notice w.window w.clock file kind))
    (changes : List (Sighting × ChangeKind)) : P ((w.notifyAll changes).2.view file) := by
  refine notifyAll_induction (P := fun v => P (v.view file)) h ?_ changes
  intro v path kind htells hv
  refine view_notify_induction hv ?_ path kind
  rwa [htells.clock_eq, htells.setup_eq]

/-- A property of the view of `file` outlives a step if it is kept by `notice`, by `close` at the
deadline of a timer of the file, and by `giveUp`. -/
theorem Timely.view_step_induction (hw : w.Timely) {P : FileView → Prop} (h : P (w.view file))
    (hnotice : ∀ v kind, P v → P (v.notice w.window w.clock file kind))
    (hclose : ∀ timer ∈ w.timers, timer.path = file → P ((w.view file).close file timer.deadline))
    (hgiveUp : P (w.view file).giveUp) (s : WatchStep) : P ((w.step s).2.view file) := by
  have hkept : ∀ {v : Watcher}, KeepsWindows w v → P (v.view file) := by
    intro v hkeeps
    rw [hkeeps.view_eq]
    exact h
  cases s with
  | dispatch e =>
    show P ((w.dispatch e).view file)
    rw [(keepsWindows_dispatch w e).view_eq]
    exact view_notifyAll_induction h hnotice e.changes
  | notify path kind =>
    rw [step_notify_snd]
    exact view_notify_induction h hnotice path kind
  | advance amount =>
    show P ((w.advance amount).view file)
    rw [hw.view_advance]
    -- of the timers due, the first of the file closes its window, the others find it closed
    cases hfound : (w.due (w.clock + amount)).find? (·.path = file) with
    | none => exact h
    | some timer =>
      have hpath : timer.path = file := by simpa using List.find?_some hfound
      exact hclose timer (mem_due.mp (List.mem_of_find?_eq_some hfound)).1 hpath
  | report f => exact hkept (keepsWindows_report w f)
  | start fresh => exact hkept (keepsWindows_start w fresh)
  | stop => exact view_stop w file ▸ hgiveUp
  | check => exact hkept (keepsWindows_check w)
  | killEmitter index => exact h
  | killObserver => exact h

/-! ## Windows and their timers -/

/-- Every outstanding delivery has a timer that fires when the window of its file closes. -/
def IsAligned (w : Watcher) : Prop :=
  ∀ file, (w.view file).isOutstanding = true →
    ∃ timer ∈ w.timers, timer.path = file ∧ (w.view file).closing? w.window = some timer.deadline

/-- While a delivery is outstanding the window of its file is open: `holdsBack` is true of further
changes. -/
theorem IsAligned.holdsBack (h : w.IsAligned) (hw : w.Timely)
    (hout : (w.view file).isOutstanding = true) :
    (w.view file).holdsBack w.window w.clock .changed = true := by
  obtain ⟨timer, htimer, -, hclosing⟩ := h file hout
  have hlt := hw.clock_lt timer htimer
  have hle := hw.deadline_le timer htimer
  rw [FileView.holdsBack_eq_true_iff]
  exact ⟨rfl, by omega, FileView.isOpen_eq_true_iff.mpr ⟨_, hclosing, hlt⟩⟩

/-- A change that is not held back leaves `isOutstanding = false`: it would not have been delivered
at once otherwise. -/
theorem IsAligned.isOutstanding_eq_false (h : w.IsAligned) (hw : w.Timely)
    (hheld : (w.view file).holdsBack w.window w.clock .changed = false) :
    (w.view file).isOutstanding = false := by
  by_contra hout
  rw [h.holdsBack hw (by simpa using hout)] at hheld
  cases hheld

/-- `touch path` keeps the timers of all other files. -/
theorem mem_timers_touch {path : String} (h : w.Coherent) (htimer : timer ∈ w.timers)
    (hne : timer.path ≠ path) (kind : ChangeKind) : timer ∈ (w.touch path kind).timers := by
  cases kind with
  | changed =>
    unfold touch
    simp only
    split <;> exact htimer
  | removed =>
    obtain ⟨timers, heq, -, hkeep⟩ := dropTrailing_eq w path
    have hkept := hkeep timer htimer (h.lookup_ne_id htimer hne)
    unfold touch
    simp only
    rw [heq]
    exact hkept
  | error => exact htimer

/-- `postpone` takes no timer away. -/
theorem subset_timers_postpone (w : Watcher) (path : String) (deadline : Nat) :
    w.timers ⊆ (w.postpone path deadline).timers := by
  unfold postpone
  split
  · exact List.Subset.refl _
  · exact List.subset_append_left _ _

/-- `postpone path closing` keeps `IsAligned` if `closing` is when the window closes: it starts a
timer for that time, if there was none. -/
theorem IsAligned.postpone {path : String} (h : w.IsAligned) {closing : Nat}
    (hclosing : (w.view path).closing? w.window = some closing) :
    (w.postpone path closing).IsAligned := by
  have hwindow : (w.postpone path closing).window = w.window := by
    unfold Watcher.postpone
    split <;> rfl
  intro file hout
  rw [view_postpone] at hout
  rw [view_postpone, hwindow]
  by_cases hfile : path = file
  · subst hfile
    rw [if_pos rfl]
    -- an outstanding change keeps its timer, otherwise one is set for the closing
    cases hbefore : (w.view path).isOutstanding with
    | true =>
      obtain ⟨timer, htimer, hfacts⟩ := h path hbefore
      exact ⟨timer, subset_timers_postpone w path closing htimer, hfacts⟩
    | false =>
      have hnone : ¬(w.trailing.lookup path).isSome = true := Bool.eq_false_iff.mp hbefore
      refine ⟨⟨w.timerCount, closing, path⟩, ?_, rfl, hclosing⟩
      unfold Watcher.postpone
      rw [if_neg hnone]
      exact List.mem_append_right _ List.mem_cons_self
  · rw [if_neg hfile] at hout ⊢
    obtain ⟨timer, htimer, hfacts⟩ := h file hout
    exact ⟨timer, subset_timers_postpone w path closing htimer, hfacts⟩

/-- `deliver` keeps `IsAligned`: it changes no timer and no window. -/
theorem IsAligned.deliver (h : w.IsAligned) (path : String) (kind : ChangeKind) :
    (w.deliver path kind).2.IsAligned := by
  intro file hout
  rw [view_deliver] at hout
  rw [view_deliver]
  have hbefore : (w.view file).isOutstanding = true := by
    split at hout <;> exact hout
  obtain ⟨timer, htimer, hpath, hclosing⟩ := h file hbefore
  refine ⟨timer, ?_, hpath, ?_⟩
  · rw [deliver_snd]
    exact htimer
  · rw [deliver_snd]
    split <;> exact hclosing

/-- `touch` keeps `IsAligned` when nothing is held back, since then nothing is outstanding for
`path`. -/
theorem IsAligned.touch {path : String} (h : w.IsAligned) (hw : w.Timely)
    (hheld : (w.view path).holdsBack w.window w.clock kind = false) :
    (w.touch path kind).IsAligned := by
  intro file hout
  rw [view_touch] at hout
  rw [view_touch, touch_setup]
  by_cases hfile : path = file
  · subst hfile
    rw [if_pos rfl] at hout ⊢
    cases kind with
    | changed =>
      have hnone := h.isOutstanding_eq_false hw hheld
      unfold FileView.touch at hout
      simp only at hout
      split at hout <;> cases hnone.symm.trans hout
    | removed => cases hout
    | error => exact h path hout
  · rw [if_neg hfile] at hout ⊢
    obtain ⟨timer, htimer, hpath, hclosing⟩ := h file hout
    exact ⟨timer, mem_timers_touch hw.toCoherent htimer (hpath ▸ Ne.symm hfile) kind,
      hpath, hclosing⟩

/-- A notification keeps `IsAligned`. -/
theorem IsAligned.notify (h : w.IsAligned) (hw : w.Timely) (path : Sighting) (kind : ChangeKind) :
    (w.notify path kind).2.IsAligned := by
  cases hmatch : w.match? path with
  | none =>
    rw [notify_of_match?_eq_none hmatch]
    exact h
  | some file =>
    cases hheld : (w.view file).holdsBack w.window w.clock kind with
    | true =>
      obtain ⟨-, closing, -, hclosing, hnotify⟩ := notify_of_holdsBack hmatch hheld
      rw [hnotify]
      exact h.postpone hclosing
    | false =>
      rw [notify_of_not_holdsBack hmatch hheld]
      exact (h.touch hw hheld).deliver file kind

/-- Several notifications keep `IsAligned`. -/
theorem IsAligned.notifyAll (h : w.IsAligned) (hw : w.Timely)
    (changes : List (Sighting × ChangeKind)) :
    (w.notifyAll changes).2.IsAligned := by
  have hboth : (w.notifyAll changes).2.Timely ∧ (w.notifyAll changes).2.IsAligned := by
    refine notifyAll_induction (P := fun v => v.Timely ∧ v.IsAligned) ⟨hw, h⟩ ?_ changes
    rintro v path kind - ⟨hv, haligned⟩
    exact ⟨hv.notify path kind, haligned.notify hv path kind⟩
  exact hboth.2

/-- `KeepsWindows w w'` keeps `IsAligned`. -/
theorem KeepsWindows.isAligned (hkeeps : KeepsWindows w w') (h : w.IsAligned) : w'.IsAligned := by
  have hwindow : w'.window = w.window := congrArg WatchSetup.window hkeeps.setup_eq
  intro file hout
  rw [hkeeps.view_eq] at hout
  rw [hkeeps.view_eq, hkeeps.timers_eq, hwindow]
  exact h file hout

/-- A timer that fires keeps `IsAligned`: its own file has nothing outstanding afterwards. -/
theorem IsAligned.fire (h : w.IsAligned) (timer : Timer) : (w.fire timer).IsAligned := by
  intro file hout
  rw [view_fire] at hout
  by_cases hfile : timer.path = file
  · rw [if_pos hfile, FileView.isOutstanding_close] at hout
    cases hout
  · rw [if_neg hfile] at hout
    obtain ⟨own, hown, hpath, hclosing⟩ := h file hout
    have hdiffers : own ≠ timer := by
      rintro rfl
      exact hfile hpath
    refine ⟨own, ?_, hpath, ?_⟩
    · rw [fire_timers]
      exact (List.mem_erase_of_ne hdiffers).mpr hown
    · rw [view_fire, if_neg hfile, fire_setup]
      exact hclosing

/-- Timers that fire one after the other keep `IsAligned`. -/
theorem IsAligned.foldl_fire (h : w.IsAligned) (timers : List Timer) :
    (timers.foldl Watcher.fire w).IsAligned := by
  induction timers generalizing w with
  | nil => exact h
  | cons timer timers ih => exact ih (h.fire timer)

/-- A watcher that has been stopped is `IsAligned`: nothing is outstanding. -/
theorem IsAligned.stop (w : Watcher) : w.stop.IsAligned := by
  intro file hout
  rw [view_stop] at hout
  cases hout

/-- Every step of the watcher keeps `IsAligned`. -/
theorem IsAligned.step (h : w.IsAligned) (hw : w.Timely) (s : WatchStep) :
    (w.step s).2.IsAligned := by
  cases s with
  | dispatch e => exact (keepsWindows_dispatch w e).isAligned (h.notifyAll hw e.changes)
  | notify path kind => exact step_notify_snd w path kind ▸ h.notify hw path kind
  | advance amount => exact h.foldl_fire _
  | report f => exact (keepsWindows_report w f).isAligned h
  | start fresh => exact (keepsWindows_start w fresh).isAligned h
  | stop => exact .stop w
  | check => exact (keepsWindows_check w).isAligned h
  | killEmitter index => exact h
  | killObserver => exact h

/-- A new watcher is `IsAligned`: nothing is outstanding. -/
theorem isAligned_of_new (setup : WatchSetup) (observer : Observer) :
    ({ toWatchSetup := setup, observer } : Watcher).IsAligned :=
  fun _ hout => nomatch hout

end Watcher

end Restyle
