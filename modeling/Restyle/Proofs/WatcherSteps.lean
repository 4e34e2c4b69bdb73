import Mathlib
import Restyle.Watcher

/-! # Watcher steps
What the single operations of a watcher change. Most of them concern the observer and leave windows
and deliveries alone (`KeepsWindows`); giving up an outstanding delivery takes its timer away at
most (`dropTrailing_eq`, `dropAllTrailing_eq`). -/

namespace Restyle.Watcher

variable {w w' : Watcher} {path : String}

/-! ## What does not concern windows -/

/-- From `w` to `w'` neither the time nor the windows, timers and deliveries have changed. -/
structure KeepsWindows (w w' : Watcher) : Prop where
  /-- The setup is the same. -/
  setup_eq : w'.toWatchSetup = w.toWatchSetup
  /-- So is the time. -/
  clock_eq : w'.clock = w.clock
  /-- So are the windows. -/
  lastSeen_eq : w'.lastSeen = w.lastSeen
  /-- So are the outstanding deliveries. -/
  trailing_eq : w'.trailing = w.trailing
  /-- So are the timers. -/
  timers_eq : w'.timers = w.timers
  /-- No timer has been made. -/
  timerCount_eq : w'.timerCount = w.timerCount
  /-- Nothing has been delivered. -/
  deliveries_eq : w'.deliveries = w.deliveries

/-- `KeepsWindows` is reflexive. -/
theorem KeepsWindows.refl (w : Watcher) : KeepsWindows w w := ⟨rfl, rfl, rfl, rfl, rfl, rfl, rfl⟩

/-- `KeepsWindows` is transitive. -/
theorem KeepsWindows.trans {w'' : Watcher} (h : KeepsWindows w w') (h' : KeepsWindows w' w'') :
    KeepsWindows w w'' where
  setup_eq := h'.setup_eq.trans h.setup_eq
  clock_eq := h'.clock_eq.trans h.clock_eq
  lastSeen_eq := h'.lastSeen_eq.trans h.lastSeen_eq
  trailing_eq := h'.trailing_eq.trans h.trailing_eq
  timers_eq := h'.timers_eq.trans h.timers_eq
  timerCount_eq := h'.timerCount_eq.trans h.timerCount_eq
  deliveries_eq := h'.deliveries_eq.trans h.deliveries_eq

/-- `KeepsWindows` passes from one act to a row of them. -/
theorem keepsWindows_foldl {α : Type} {act : Watcher → α → Watcher}
    (hact : ∀ w a, KeepsWindows w (act w a)) (as : List α) (w : Watcher) :
    KeepsWindows w (as.foldl act w) := by
  induction as generalizing w with
  | nil => exact .refl w
  | cons a as ih => exact (hact w a).trans (ih _)

/-- `report` is `KeepsWindows`. -/
theorem keepsWindows_report (w : Watcher) (f : Failure) : KeepsWindows w (w.report f) := by
  unfold report
  split <;> exact ⟨rfl, rfl, rfl, rfl, rfl, rfl, rfl⟩

/-- `start` is `KeepsWindows`. -/
theorem keepsWindows_start (w : Watcher) (fresh : Option Observer) :
    KeepsWindows w (w.start fresh) := by
  unfold start
  split
  · exact .refl w
  · have hlaunch : KeepsWindows w
        { w with observer := (fresh.getD w.observer).launch, isHolding := true } :=
      ⟨rfl, rfl, rfl, rfl, rfl, rfl, rfl⟩
    refine hlaunch.trans (keepsWindows_foldl ?_ _ _)
    intro w dir
    unfold scheduleDirectory
    split
    · exact keepsWindows_report w _
    · exact ⟨rfl, rfl, rfl, rfl, rfl, rfl, rfl⟩

/-- `check` is `KeepsWindows`. -/
theorem keepsWindows_check (w : Watcher) : KeepsWindows w w.check.2 := by
  unfold check
  split
  · refine keepsWindows_foldl ?_ _ _
    intro w thread
    unfold checkThread
    simp only
    split
    · exact .refl w
    · have hreported : KeepsWindows w
          { w with reportedDead := w.reportedDead ++ [threadName thread.1] } :=
        ⟨rfl, rfl, rfl, rfl, rfl, rfl, rfl⟩
      exact hreported.trans (keepsWindows_report _ _)
  · exact .refl w

/-! ## Deliveries -/

/-- `deliver` adds `⟨path, kind, w.clock⟩` to the deliveries, whatever the client raises. -/
theorem deliver_snd (w : Watcher) (path : String) (kind : ChangeKind) :
    (w.deliver path kind).2 = { w with deliveries := w.deliveries ++ [⟨path, kind, w.clock⟩] } := by
  unfold deliver
  simp only
  split <;> rfl

/-! ## Outstanding deliveries -/

/-- Taking a key away changes nothing where it does not occur. -/
theorem filter_eq_self_of_lookup_eq_none {l : List (String × Nat)} (h : l.lookup path = none) :
    l.filter (·.1 ≠ path) = l := by
  rw [List.filter_eq_self]
  intro p hp
  have hne : path ≠ p.1 := by simpa using List.lookup_eq_none_iff.mp h p hp
  simpa using hne.symm

/-- Taking a key away leaves the look-up of every other key. -/
theorem lookup_filter_ne {l : List (String × Nat)} {other : String} (h : other ≠ path) :
    (l.filter (·.1 ≠ path)).lookup other = l.lookup other := by
  induction l with
  | nil => rfl
  | cons p l ih =>
    by_cases hp : p.1 = path
    · have hother : (other == p.1) = false := by simp [hp, h]
      rw [List.filter_cons_of_neg (by simp [hp]), ih, List.lookup_cons, hother]
    · rw [List.filter_cons_of_pos (by simp [hp]), List.lookup_cons, List.lookup_cons, ih]

/-- Taking a key away leaves nothing to look up for it. -/
theorem lookup_filter_self {l : List (String × Nat)} :
    (l.filter (·.1 ≠ path)).lookup path = none := by
  rw [List.lookup_eq_none_iff]
  intro p hp
  have hne : p.1 ≠ path := by simpa using (List.mem_filter.mp hp).2
  simpa using hne.symm

/-- `cancelTimer id` takes at most the timer `id` away. -/
theorem cancelTimer_eq (w : Watcher) (id : Nat) :
    ∃ timers, w.cancelTimer id = { w with timers } ∧ timers.Sublist w.timers ∧
      ∀ timer ∈ w.timers, timer.id ≠ id → timer ∈ timers := by
  unfold cancelTimer
  split
  · exact ⟨w.timers, rfl, .refl _, fun timer htimer _ => htimer⟩
  · refine ⟨_, rfl, List.filter_sublist, fun timer htimer hid => ?_⟩
    exact List.mem_filter.mpr ⟨htimer, by simp [hid]⟩

/-- `dropTrailing path` forgets the outstanding delivery of `path`, and takes at most its timer
away. -/
theorem dropTrailing_eq (w : Watcher) (path : String) :
    ∃ timers, w.dropTrailing path =
        { w with trailing := w.trailing.filter (·.1 ≠ path), timers } ∧
      timers.Sublist w.timers ∧
      ∀ timer ∈ w.timers, w.trailing.lookup path ≠ some timer.id → timer ∈ timers := by
  unfold dropTrailing
  split
  · next id hid =>
    obtain ⟨timers, heq, hsub, hkeep⟩ :=
      cancelTimer_eq { w with trailing := w.trailing.filter (·.1 ≠ path) } id
    refine ⟨timers, heq, hsub, fun timer htimer hne => hkeep timer htimer ?_⟩
    intro hsame
    rw [hsame] at hne
    exact hne hid
  · next hnone =>
    refine ⟨w.timers, ?_, .refl _, fun timer htimer _ => htimer⟩
    rw [filter_eq_self_of_lookup_eq_none hnone]

/-- `dropAllTrailing` forgets every outstanding delivery, and adds no timer. -/
theorem dropAllTrailing_eq (w : Watcher) :
    ∃ timers, w.dropAllTrailing = { w with trailing := [], timers } ∧ timers.Sublist w.timers := by
  have hfold : ∀ (ps : List (String × Nat)) (v : Watcher), ∃ timers,
      ps.foldl (fun v p => v.cancelTimer p.2) v = { v with timers } ∧ timers.Sublist v.timers := by
    intro ps
    -- one timer after the other, while nothing is outstanding any more
    induction ps with
    | nil => exact fun v => ⟨v.timers, rfl, .refl _⟩
    | cons p ps ih =>
      intro v
      obtain ⟨timers, heq, hsub, -⟩ := cancelTimer_eq v p.2
      obtain ⟨fewer, hrest, hfewer⟩ := ih { v with timers }
      refine ⟨fewer, ?_, hfewer.trans hsub⟩
      rw [List.foldl_cons, heq, hrest]
  exact hfold w.trailing { w with trailing := [] }

/-- `stop` is `dropAllTrailing` up to `KeepsWindows`: it delivers nothing. -/
theorem stop_eq (w : Watcher) :
    ∃ timers, KeepsWindows { w with trailing := [], timers } w.stop ∧
      timers.Sublist w.timers := by
  obtain ⟨timers, heq, hsub⟩ := dropAllTrailing_eq w
  refine ⟨timers, ?_, hsub⟩
  unfold stop
  simp only
  rw [heq]
  split <;> exact ⟨rfl, rfl, rfl, rfl, rfl, rfl, rfl⟩

/-! ## Notifications -/

/-- `notifyAll` goes on behind a notification that is answered `.ok ()`. -/
theorem notifyAll_cons_of_ok {sighting : Sighting} {kind : ChangeKind}
    (h : (w.notify sighting kind).1 = .ok ()) (rest : List (Sighting × ChangeKind)) :
    w.notifyAll ((sighting, kind) :: rest) = (w.notify sighting kind).2.notifyAll rest := by
  rw [notifyAll]
  split
  · next v hnotify => rw [hnotify]
  · next message v hnotify =>
    rw [hnotify] at h
    cases h

/-- `notifyAll` ends with a notification for which the client raises. -/
theorem notifyAll_cons_of_error {sighting : Sighting} {kind : ChangeKind} {message : String}
    (h : (w.notify sighting kind).1 = .error message) (rest : List (Sighting × ChangeKind)) :
    w.notifyAll ((sighting, kind) :: rest) = w.notify sighting kind := by
  rw [notifyAll]
  split
  · next v hnotify =>
    rw [hnotify] at h
    cases h
  · next message v hnotify => rw [hnotify]

/-- `dispatch e` is `notifyAll e.changes`, up to `KeepsWindows`: an error of the client is
reported. -/
theorem keepsWindows_dispatch (w : Watcher) (e : FileEvent) :
    KeepsWindows (w.notifyAll e.changes).2 (w.dispatch e) := by
  unfold dispatch
  split
  · next v hnotify =>
    rw [hnotify]
    exact .refl v
  · next message v hnotify =>
    rw [hnotify]
    exact keepsWindows_report v _

/-- The step `.notify sighting kind` is `notify`. -/
@[simp] theorem step_notify_snd (w : Watcher) (sighting : Sighting) (kind : ChangeKind) :
    (w.step (.notify sighting kind)).2 = (w.notify sighting kind).2 := by
  unfold step
  simp only
  split
  · next v hnotify => rw [hnotify]
  · next message v hnotify => rw [hnotify]

/-- From `w` to `w'` no time passes; deliveries may have been made. -/
structure TellsOnly (w w' : Watcher) : Prop where
  /-- The setup is the same. -/
  setup_eq : w'.toWatchSetup = w.toWatchSetup
  /-- So is the time. -/
  clock_eq : w'.clock = w.clock
  /-- Deliveries are not taken back. -/
  prefix_deliveries : w.deliveries <+: w'.deliveries

/-- `TellsOnly` is reflexive. -/
theorem TellsOnly.refl (w : Watcher) : TellsOnly w w := ⟨rfl, rfl, List.prefix_refl _⟩

/-- `TellsOnly` is transitive. -/
theorem TellsOnly.trans {w'' : Watcher} (h : TellsOnly w w') (h' : TellsOnly w' w'') :
    TellsOnly w w'' where
  setup_eq := h'.setup_eq.trans h.setup_eq
  clock_eq := h'.clock_eq.trans h.clock_eq
  prefix_deliveries := h.prefix_deliveries.trans h'.prefix_deliveries

/-- `KeepsWindows w w'` gives `TellsOnly w w'`. -/
theorem KeepsWindows.tellsOnly (h : KeepsWindows w w') : TellsOnly w w' :=
  ⟨h.setup_eq, h.clock_eq, by rw [h.deliveries_eq]⟩

/-- `deliver` is `TellsOnly`. -/
theorem tellsOnly_deliver (w : Watcher) (path : String) (kind : ChangeKind) :
    TellsOnly w (w.deliver path kind).2 := by
  rw [deliver_snd]
  exact ⟨rfl, rfl, List.prefix_append _ _⟩

/-- `notify` is `TellsOnly`. -/
theorem tellsOnly_notify (w : Watcher) (sighting : Sighting) (kind : ChangeKind) :
    TellsOnly w (w.notify sighting kind).2 := by
  unfold notify
  cases w.match? sighting with
  | none => exact .refl w
  | some file =>
    cases kind with
    | changed =>
      simp only
      split
      · exact tellsOnly_deliver w file .changed
      · split
        · unfold postpone
          split <;> exact ⟨rfl, rfl, List.prefix_refl _⟩
        · have hopen : TellsOnly w (w.openWindow file) := ⟨rfl, rfl, List.prefix_refl _⟩
          exact hopen.trans (tellsOnly_deliver _ file .changed)
    | removed =>
      obtain ⟨timers, heq, -, -⟩ := dropTrailing_eq w file
      have hforget : TellsOnly w ((w.dropTrailing file).forgetWindow file) := by
        rw [heq]
        exact ⟨rfl, rfl, List.prefix_refl _⟩
      exact hforget.trans (tellsOnly_deliver _ file .removed)
    | error => exact tellsOnly_deliver w file .error

/-- `notifyAll` is `TellsOnly`. -/
theorem tellsOnly_notifyAll (w : Watcher) (changes : List (Sighting × ChangeKind)) :
    TellsOnly w (w.notifyAll changes).2 := by
  induction changes generalizing w with
  | nil => exact .refl w
  | cons change changes ih =>
    obtain ⟨sighting, kind⟩ := change
    have hnext := tellsOnly_notify w sighting kind
    cases hraised : (w.notify sighting kind).1 with
    | ok =>
      rw [notifyAll_cons_of_ok hraised]
      exact hnext.trans (ih _)
    | error message =>
      rw [notifyAll_cons_of_error hraised]
      exact hnext

/-- `dispatch` is `TellsOnly`. -/
theorem tellsOnly_dispatch (w : Watcher) (e : FileEvent) : TellsOnly w (w.dispatch e) :=
  (tellsOnly_notifyAll w e.changes).trans (keepsWindows_dispatch w e).tellsOnly

/-! ## Watchers without windows -/

/-- With an empty window, and a client that raises no errors, every change is delivered. -/
structure IsPlain (s : WatchSetup) : Prop where
  /-- The window is empty. -/
  window_eq : s.window = 0
  /-- The client raises no errors. -/
  raises_eq : ∀ path, s.raises path = none

/-- What is delivered when something happens to a path: one delivery, for a watched file. -/
def deliveriesFor (w : Watcher) (sighting : Sighting) (kind : ChangeKind) : List Delivery :=
  (w.match? sighting).toList.map fun file => ⟨file, kind, w.clock⟩

/-- `deliver` answers `.ok ()` and adds one delivery, on a plain watcher. -/
theorem deliver_of_isPlain (w : Watcher) (h : IsPlain w.toWatchSetup) (path : String)
    (kind : ChangeKind) : w.deliver path kind =
      (.ok (), { w with deliveries := w.deliveries ++ [⟨path, kind, w.clock⟩] }) := by
  simp [deliver, h.raises_eq]

/-- `notify` adds `w.deliveriesFor sighting kind`, on a plain watcher. -/
theorem notify_of_isPlain (h : IsPlain w.toWatchSetup) (sighting : Sighting) (kind : ChangeKind) :
    ∃ v, w.notify sighting kind = (.ok (), v) ∧ v.toWatchSetup = w.toWatchSetup ∧
    v.clock = w.clock ∧
      v.deliveries = w.deliveries ++ w.deliveriesFor sighting kind := by
  unfold notify deliveriesFor
  cases w.match? sighting with
  | none => exact ⟨w, rfl, rfl, rfl, (List.append_nil _).symm⟩
  | some file =>
    cases kind with
    | changed =>
      simp only
      rw [if_pos h.window_eq]
      exact ⟨_, deliver_of_isPlain _ h file .changed, rfl, rfl, rfl⟩
    | removed =>
      obtain ⟨timers, heq, -, -⟩ := dropTrailing_eq w file
      simp only
      rw [heq]
      refine ⟨_, deliver_of_isPlain _ ?_ file .removed, rfl, rfl, rfl⟩
      exact h
    | error => exact ⟨_, deliver_of_isPlain _ h file .error, rfl, rfl, rfl⟩

/-- `notifyAll` adds `w.deliveriesFor` of every change, on a plain watcher. -/
theorem notifyAll_of_isPlain (h : IsPlain w.toWatchSetup) (changes : List (Sighting × ChangeKind)) :
    ∃ v, w.notifyAll changes = (.ok (), v) ∧ v.toWatchSetup = w.toWatchSetup ∧
      v.deliveries = w.deliveries ++ changes.flatMap fun c => w.deliveriesFor c.1 c.2 := by
  induction changes generalizing w with
  | nil => exact ⟨w, rfl, rfl, (List.append_nil _).symm⟩
  | cons change changes ih =>
    obtain ⟨v, hnotify, hsetup, hclock, hdeliveries⟩ := notify_of_isPlain h change.1 change.2
    obtain ⟨u, hall, husetup, hrest⟩ := ih (w := v) (hsetup ▸ h)
    -- later notifications are matched and timed as the first one was
    have hsame : ∀ c : Sighting × ChangeKind, v.deliveriesFor c.1 c.2 =
        w.deliveriesFor c.1 c.2 := by
      intro c
      rw [deliveriesFor, deliveriesFor, hsetup, hclock]
    refine ⟨u, ?_, husetup.trans hsetup, ?_⟩
    · unfold notifyAll
      rw [hnotify]
      exact hall
    · rw [hrest, hdeliveries, List.flatMap_cons, List.append_assoc]
      simp only [hsame]

/-- `dispatch e` adds `w.deliveriesFor` of every change of the event, on a plain watcher. -/
theorem dispatch_of_isPlain (h : IsPlain w.toWatchSetup) (e : FileEvent) :
    (w.dispatch e).toWatchSetup = w.toWatchSetup ∧ (w.dispatch e).deliveries =
      w.deliveries ++ e.changes.flatMap fun c => w.deliveriesFor c.1 c.2 := by
  obtain ⟨v, hall, hsetup, hdeliveries⟩ := notifyAll_of_isPlain h e.changes
  unfold dispatch
  rw [hall]
  exact ⟨hsetup, hdeliveries⟩

end Restyle.Watcher
