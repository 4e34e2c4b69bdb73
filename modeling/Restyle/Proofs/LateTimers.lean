import Mathlib
import Restyle.Proofs.FileViews
import Restyle.Proofs.RateLimit

/-! # Timers that are cancelled too late
A timer that fires although it has been cancelled may bring a delivery that is outstanding for its
file by then before the window closes (`deliveries_ne_punctual`). That is all the harm that it can
do: the deliveries for a file are those of a run in which timers are cancelled in time, exactly if
they are spaced (`deliveries_eq_punctual_iff`), and this is so for every file that is not removed.
-/

namespace Restyle

/-- The same setup, but timers that are cancelled do not fire. -/
def WatchSetup.punctual (s : WatchSetup) : WatchSetup :=
  { s with lateTimers := false, isLate := fun _ => false }

/-- `s.punctual` cancels in time. -/
theorem WatchSetup.cancelsInTime_punctual (s : WatchSetup) : s.punctual.CancelsInTime :=
  ⟨rfl, fun _ => rfl⟩

/-- What is outstanding is delivered when the window closes, if that is so by the given time. -/
def FileView.closeBy (v : FileView) (window : Nat) (file : String) (time : Nat) : FileView :=
  match v.closing? window with
  | some closing => if closing ≤ time then v.close file closing else v
  | none => v

namespace Watcher

variable {w w' : Watcher} {path : Sighting} {file : String} {kind : ChangeKind} {timer : Timer}

/-! ## Spaced deliveries are made when windows close -/

/-- The first timer of a file in `w.due time` has the least deadline among those of the file. -/
theorem deadline_le_of_find?_due {time : Nat} {own : Timer}
    (h : (w.due time).find? (·.path = file) = some timer) (hown : own ∈ w.due time)
    (hpath : own.path = file) : timer.deadline ≤ own.deadline := by
  obtain ⟨-, front, back, hdue, hfront⟩ := List.find?_eq_some_iff_append.mp h
  have hsorted := pairwise_due w time
  rw [hdue] at hown hsorted
  rcases List.mem_append.mp hown with hbefore | hafter
  · have hother := hfront own hbefore
    simp [hpath] at hother
  · rcases List.mem_cons.mp hafter with rfl | hback
    · exact Nat.le_refl _
    · exact (List.pairwise_cons.mp (List.pairwise_append.mp hsorted).2.1).1 own hback

/-- If the deliveries for a file are spaced after `advance amount`, its view is `closeBy` the time
`w.clock + amount`: what was outstanding has been delivered when the window closed. -/
theorem Timely.view_advance_of_isSpaced (hw : w.Timely) (haligned : w.IsAligned)
    (hfaithful : (w.view file).IsFaithful) (amount : Nat)
    (hspaced : IsSpaced w.window ((w.advance amount).view file).deliveries) :
    (w.advance amount).view file = (w.view file).closeBy w.window file (w.clock + amount) := by
  rw [hw.view_advance] at hspaced ⊢
  unfold FileView.closeBy
  cases hout : (w.view file).isOutstanding with
  | false =>
    -- nothing is delivered, whatever fires and whenever the window closes
    have hsame := FileView.close_of_not_isOutstanding hout file
    have hleft : ((w.due (w.clock + amount)).find? (·.path = file)).elim (w.view file)
        (fun timer => (w.view file).close file timer.deadline) = w.view file := by
      cases (w.due (w.clock + amount)).find? (·.path = file) with
      | none => rfl
      | some timer => exact hsame timer.deadline
    rw [hleft]
    split
    · rw [hsame, ite_self]
    · rfl
  | true =>
    obtain ⟨own, hown, hpath, hclosing⟩ := haligned file hout
    rw [hclosing]
    simp only
    cases hfound : (w.due (w.clock + amount)).find? (·.path = file) with
    | none =>
      have hnot : ¬own.deadline ≤ w.clock + amount := by
        intro hdue
        have hother := List.find?_eq_none.mp hfound own (mem_due.mpr ⟨hown, hdue⟩)
        simp [hpath] at hother
      rw [if_neg hnot]
      rfl
    | some timer =>
      rw [hfound, Option.elim_some, FileView.close_of_isOutstanding hout] at hspaced
      obtain ⟨opened, hopened, hdeadline⟩ := FileView.closing?_eq_some_iff.mp hclosing
      -- not before the window closes, since the delivery is spaced from the latest change
      have hle : own.deadline ≤ timer.deadline :=
        hdeadline ▸ (isSpaced_append_singleton.mp hspaced).2 rfl opened
          (hfaithful.symm.trans hopened)
      have hdue : own.deadline ≤ w.clock + amount :=
        hle.trans (mem_due.mp (List.mem_of_find?_eq_some hfound)).2
      -- nor after it, since the timer of the delivery fires then
      have hge := deadline_le_of_find?_due hfound (mem_due.mpr ⟨hown, hdue⟩) hpath
      rw [if_pos hdue, Option.elim_some, Nat.le_antisymm hge hle]

/-! ## Two runs -/

/-- Two watchers know the same about a file, but the timers that the second one cancels do not
fire. -/
structure Alike (file : String) (w w' : Watcher) : Prop where
  /-- The second one cancels in time. -/
  setup_eq : w'.toWatchSetup = w.toWatchSetup.punctual
  /-- The time is the same. -/
  clock_eq : w'.clock = w.clock
  /-- So is what they know of the file. -/
  view_eq : w'.view file = w.view file

/-- Alike watchers have the same `window`. -/
theorem Alike.window_eq (h : Alike file w w') : w'.window = w.window := by
  rw [h.setup_eq]
  rfl

/-- `KeepsWindows` on both sides keeps `Alike`. -/
theorem Alike.of_keepsWindows {v v' : Watcher} (h : Alike file w w') (hkeeps : KeepsWindows w v)
    (hkeeps' : KeepsWindows w' v') : Alike file v v' where
  setup_eq := by rw [hkeeps'.setup_eq, h.setup_eq, hkeeps.setup_eq]
  clock_eq := by rw [hkeeps'.clock_eq, h.clock_eq, hkeeps.clock_eq]
  view_eq := by rw [hkeeps'.view_eq, h.view_eq, hkeeps.view_eq]

/-- `notify` on both sides keeps `Alike`. -/
theorem Alike.notify (h : Alike file w w') (path : Sighting) (kind : ChangeKind) :
    Alike file (w.notify path kind).2 (w'.notify path kind).2 where
  setup_eq := by rw [(tellsOnly_notify w' path kind).setup_eq, h.setup_eq,
    (tellsOnly_notify w path kind).setup_eq]
  clock_eq := by rw [(tellsOnly_notify w' path kind).clock_eq, h.clock_eq,
    (tellsOnly_notify w path kind).clock_eq]
  view_eq := by
    have hmatch : w'.match? path = w.match? path := by
      rw [h.setup_eq]
      rfl
    rw [view_notify, view_notify, hmatch, h.window_eq, h.clock_eq, h.view_eq]

/-- `stop` on both sides keeps `Alike`. -/
theorem Alike.stop (h : Alike file w w') : Alike file w.stop w'.stop := by
  obtain ⟨timers, hkeeps, -⟩ := stop_eq w
  obtain ⟨timers', hkeeps', -⟩ := stop_eq w'
  refine ⟨?_, ?_, ?_⟩
  · rw [hkeeps'.setup_eq, hkeeps.setup_eq]
    exact h.setup_eq
  · rw [hkeeps'.clock_eq, hkeeps.clock_eq]
    exact h.clock_eq
  · rw [view_stop, view_stop, h.view_eq]

/-- `advance amount` on both sides keeps `Alike file`, as long as the deliveries for `file` are at
least `window` apart in both. -/
theorem Alike.advance (h : Alike file w w') (hw : w.Timely) (haligned : w.IsAligned)
    (hfaithful : (w.view file).IsFaithful) (hpunctual : w'.Punctual) (amount : Nat)
    (hspaced : IsSpaced w.window ((w.advance amount).view file).deliveries)
    (hspaced' : IsSpaced w'.window ((w'.advance amount).view file).deliveries) :
    Alike file (w.advance amount) (w'.advance amount) where
  setup_eq := (setup_foldl_fire _ w').trans
    (h.setup_eq.trans (congrArg WatchSetup.punctual (setup_foldl_fire _ w).symm))
  clock_eq := congrArg (· + amount) h.clock_eq
  view_eq := by
    have hfaithful' : (w'.view file).IsFaithful := h.view_eq ▸ hfaithful
    rw [hw.view_advance_of_isSpaced haligned hfaithful amount hspaced,
      hpunctual.timely.view_advance_of_isSpaced hpunctual.isAligned hfaithful' amount hspaced',
      h.view_eq, h.clock_eq, h.window_eq]

/-- Every step but `.dispatch` on both sides keeps `Alike file`, as long as the deliveries for
`file` are at least `window` apart in both. -/
theorem Alike.step (h : Alike file w w') (hw : w.Timely) (haligned : w.IsAligned)
    (hfaithful : (w.view file).IsFaithful) (hpunctual : w'.Punctual) {s : WatchStep}
    (hs : ∀ e, s ≠ .dispatch e) (hspaced : IsSpaced w.window ((w.step s).2.view file).deliveries)
    (hspaced' : IsSpaced w'.window ((w'.step s).2.view file).deliveries) :
    Alike file (w.step s).2 (w'.step s).2 := by
  cases s with
  | dispatch e => exact absurd rfl (hs e)
  | notify path kind =>
    rw [step_notify_snd, step_notify_snd]
    exact h.notify path kind
  | advance amount => exact h.advance hw haligned hfaithful hpunctual amount hspaced hspaced'
  | report f => exact h.of_keepsWindows (keepsWindows_report w f) (keepsWindows_report w' f)
  | start fresh =>
    exact h.of_keepsWindows (keepsWindows_start w fresh) (keepsWindows_start w' fresh)
  | stop => exact h.stop
  | check => exact h.of_keepsWindows (keepsWindows_check w) (keepsWindows_check w')
  | killEmitter index => exact ⟨h.setup_eq, h.clock_eq, h.view_eq⟩
  | killObserver => exact ⟨h.setup_eq, h.clock_eq, h.view_eq⟩

/-- Deliveries that are spaced at the end of a run were spaced at its start, since `run` only adds
to them. -/
theorem isSpaced_of_run {window : Nat} {steps : List WatchStep}
    (h : IsSpaced window ((w.run steps).view file).deliveries) :
    IsSpaced window (w.view file).deliveries := by
  have hprefix : w.deliveries <+: (w.run steps).deliveries := ⟨_, append_delivery?_trace w steps⟩
  obtain ⟨rest, hrest⟩ := hprefix.filter (·.path = file)
  unfold view at h ⊢
  rw [← hrest] at h
  exact h.of_append

/-- Runs from `Alike file` watchers end `Alike file`, if the deliveries of the first one for `file`
are spaced. -/
theorem Alike.run (h : Alike file w w') (hw : w.Timely) (haligned : w.IsAligned)
    (hwindow : 0 < w.window) (hfaithful : (w.view file).IsFaithful) (hpunctual : w'.Punctual)
    {steps : List WatchStep} (hsteps : ∀ e, .dispatch e ∉ steps)
    (hspaced : IsSpaced w.window ((w.run steps).view file).deliveries) :
    Alike file (w.run steps) (w'.run steps) := by
  induction steps generalizing w w' with
  | nil => exact h
  | cons s steps ih =>
    have hs : ∀ e, s ≠ .dispatch e := by
      rintro e rfl
      exact hsteps e List.mem_cons_self
    have hlength : (w.step s).2.window = w.window := congrArg WatchSetup.window (setup_step w s)
    -- the deliveries up to now are spaced, and so are those that are made in time
    have hrest : IsSpaced w.window (((w.step s).2.run steps).view file).deliveries := hspaced
    have hnow := isSpaced_of_run hrest
    have hbefore : IsSpaced w.window (w.view file).deliveries := isSpaced_of_run hspaced
    have hnow' : IsSpaced w'.window ((w'.step s).2.view file).deliveries := by
      refine (hpunctual.closesInTime file).isSpaced_step hpunctual.timely ?_ ?_ ?_ s
      · rwa [h.window_eq]
      · rwa [h.view_eq]
      · rwa [h.view_eq, h.window_eq]
    have hcancels : w'.CancelsInTime := h.setup_eq ▸ w.toWatchSetup.cancelsInTime_punctual
    refine ih (h.step hw haligned hfaithful hpunctual hs hnow hnow') (hw.step s)
      (haligned.step hw s) (hlength ▸ hwindow) (isFaithful_run hw hwindow hfaithful [s])
      (hpunctual.step hcancels s) (fun e he => hsteps e (List.mem_cons_of_mem _ he)) ?_
    rwa [hlength]

/-! ## Files that are not removed -/

/-- `touch` takes timers away at most. -/
theorem touch_timers_sublist (w : Watcher) (path : String) (kind : ChangeKind) :
    (w.touch path kind).timers.Sublist w.timers := by
  cases kind with
  | changed =>
    unfold touch
    simp only
    split <;> exact .refl _
  | removed =>
    obtain ⟨timers, heq, hsub, -⟩ := dropTrailing_eq w path
    unfold touch
    simp only
    rw [heq]
    exact hsub
  | error => exact .refl _

/-- `KeepsWindows w w'` keeps `ClosesInTime`. -/
theorem KeepsWindows.closesInTime (hkeeps : KeepsWindows w w') (h : w.ClosesInTime file) :
    w'.ClosesInTime file := by
  intro timer htimer hpath
  have hwindow : w'.window = w.window := congrArg WatchSetup.window hkeeps.setup_eq
  rw [hkeeps.timers_eq] at htimer
  rw [hkeeps.view_eq, hwindow]
  exact h timer htimer hpath

/-- `notify` keeps `ClosesInTime file` unless it removes the file: while a timer of the file is
left, its window is open, so that a change only adds a timer for the end of the window. -/
theorem ClosesInTime.notify (h : w.ClosesInTime file) (hw : w.Timely) (hwindow : 0 < w.window)
    (hkept : kind = .removed → w.match? path ≠ some file) :
    (w.notify path kind).2.ClosesInTime file := by
  cases hmatch : w.match? path with
  | none =>
    rw [notify_of_match?_eq_none hmatch]
    exact h
  | some other =>
    have hsetup := (tellsOnly_notify w path kind).setup_eq
    intro timer htimer hpath
    rw [hsetup]
    cases hheld : (w.view other).holdsBack w.window w.clock kind with
    | true =>
      obtain ⟨-, closing, -, hclosing, hnotify⟩ := notify_of_holdsBack hmatch hheld
      have hsame : ((w.notify path kind).2.view file).closing? w.window =
          (w.view file).closing? w.window := by
        rw [hnotify, view_postpone]
        split <;> rfl
      rw [hsame]
      rw [hnotify] at htimer
      unfold Watcher.postpone at htimer
      split at htimer
      · exact h timer htimer hpath
      · rcases List.mem_append.mp htimer with hold | hnew
        · exact h timer hold hpath
        · obtain rfl := List.mem_singleton.mp hnew
          exact hpath ▸ hclosing
    | false =>
      rw [notify_of_not_holdsBack hmatch hheld, deliver_snd] at htimer
      have hold : timer ∈ w.timers := (touch_timers_sublist w other kind).subset htimer
      have hclosing := h timer hold hpath
      rw [view_notify, hmatch]
      split
      · next heq =>
        obtain rfl := Option.some.inj heq
        rw [FileView.notice, hheld, if_neg Bool.false_ne_true]
        cases kind with
        | changed =>
          -- the timer has not fired, so the window is open and the change would be held back
          have hopen := FileView.isOpen_eq_true_iff.mpr ⟨_, hclosing, hw.clock_lt timer hold⟩
          have htrue := FileView.holdsBack_eq_true_iff.mpr ⟨rfl, Nat.ne_of_gt hwindow, hopen⟩
          cases hheld.symm.trans htrue
        | removed => exact absurd hmatch (hkept rfl)
        | error => exact hclosing
      · exact hclosing

/-- `advance` keeps `ClosesInTime`. -/
theorem ClosesInTime.advance (h : w.ClosesInTime file) (hw : w.Timely) (amount : Nat) :
    (w.advance amount).ClosesInTime file := by
  intro timer htimer hpath
  have hleft : timer ∈ w.timers.diff (w.due (w.clock + amount)) := by
    rw [← timers_foldl_fire]
    exact htimer
  rw [hw.nodup_timers.mem_sdiff_iff, mem_due] at hleft
  have hclosing := h timer hleft.1 hpath
  have hsetup : (w.advance amount).toWatchSetup = w.toWatchSetup := setup_foldl_fire _ w
  rw [hsetup, hw.view_advance]
  cases hfound : (w.due (w.clock + amount)).find? (·.path = file) with
  | none => exact hclosing
  | some first =>
    -- a timer of the file that is due fires at the same time as the one that is left
    obtain ⟨hfirst, hdue⟩ := mem_due.mp (List.mem_of_find?_eq_some hfound)
    have hsame := h first hfirst (by simpa using List.find?_some hfound)
    rw [hclosing, Option.some.injEq] at hsame
    exact absurd ⟨hleft.1, hsame ▸ hdue⟩ hleft.2

/-- Every step but `.dispatch` and the removal of the file keeps `ClosesInTime file`. -/
theorem ClosesInTime.step (h : w.ClosesInTime file) (hw : w.Timely) (hwindow : 0 < w.window)
    {s : WatchStep} (hs : ∀ e, s ≠ .dispatch e)
    (hkept : ∀ path, s = .notify path .removed → w.match? path ≠ some file) :
    (w.step s).2.ClosesInTime file := by
  cases s with
  | dispatch e => exact absurd rfl (hs e)
  | notify path kind =>
    rw [step_notify_snd]
    exact h.notify hw hwindow fun hkind => hkept path (hkind ▸ rfl)
  | advance amount => exact h.advance hw amount
  | report f => exact (keepsWindows_report w f).closesInTime h
  | start fresh => exact (keepsWindows_start w fresh).closesInTime h
  | stop =>
    obtain ⟨timers, hkeeps, hsub⟩ := stop_eq w
    refine hkeeps.closesInTime fun timer htimer hpath => ?_
    exact h timer (hsub.subset htimer) hpath
  | check => exact (keepsWindows_check w).closesInTime h
  | killEmitter index => exact h
  | killObserver => exact h

/-- The deliveries of a run for a file that is not removed are spaced, whether or not timers are
cancelled in time. -/
theorem ClosesInTime.isSpaced_run (h : w.ClosesInTime file) (hw : w.Timely) (hwindow : 0 < w.window)
    (hfaithful : (w.view file).IsFaithful) (hspaced : IsSpaced w.window (w.view file).deliveries)
    {steps : List WatchStep} (hsteps : ∀ e, .dispatch e ∉ steps)
    (hkept : ∀ path, .notify path .removed ∈ steps → w.match? path ≠ some file) :
    IsSpaced w.window ((w.run steps).view file).deliveries := by
  induction steps generalizing w with
  | nil => exact hspaced
  | cons s steps ih =>
    have hsetup := setup_step w s
    have hlength : (w.step s).2.window = w.window := congrArg WatchSetup.window hsetup
    have hs : ∀ e, s ≠ .dispatch e := by
      rintro e rfl
      exact hsteps e List.mem_cons_self
    have hnext := h.step hw hwindow hs fun path heq => hkept path (heq ▸ List.mem_cons_self)
    have hrest := ih hnext (hw.step s) (hlength ▸ hwindow) (isFaithful_run hw hwindow hfaithful [s])
      (hlength ▸ h.isSpaced_step hw hwindow hfaithful hspaced s)
      (fun e he => hsteps e (List.mem_cons_of_mem _ he))
      (fun path hpath => hsetup ▸ hkept path (List.mem_cons_of_mem _ hpath))
    rwa [hlength] at hrest

/-! ## What late timers change -/

/-- Timers that fire although they have been cancelled change the deliveries for a file exactly if
they bring a change before the window closes that the change before has opened. They do not for a
file that is not removed, however often watching is ended and started again. -/
theorem deliveries_eq_punctual_iff (setup : WatchSetup) (observer : Observer)
    (hwindow : 0 < setup.window) (steps : List WatchStep) (hsteps : ∀ e, .dispatch e ∉ steps)
    (file : String) :
    let late := ({ toWatchSetup := setup, observer } : Watcher).run steps
    let punctual := ({ toWatchSetup := setup.punctual, observer } : Watcher).run steps
    (late.deliveries.filter (·.path = file) = punctual.deliveries.filter (·.path = file) ↔
      IsSpaced setup.window (late.deliveries.filter (·.path = file))) ∧
    ((∀ path, .notify path .removed ∈ steps → setup.match? path ≠ some file) →
      late.deliveries.filter (·.path = file) = punctual.deliveries.filter (·.path = file)) := by
  intro late punctual
  have hnew := punctual_of_new setup observer
  have hnew' := punctual_of_new setup.punctual observer
  have halike : Alike file ({ toWatchSetup := setup, observer } : Watcher)
      { toWatchSetup := setup.punctual, observer } := ⟨rfl, rfl, rfl⟩
  have hsame : IsSpaced setup.window (late.deliveries.filter (·.path = file)) →
      late.deliveries.filter (·.path = file) = punctual.deliveries.filter (·.path = file) := by
    intro hspaced
    have hend := halike.run hnew.timely hnew.isAligned hwindow rfl hnew' hsteps hspaced
    exact (congrArg FileView.deliveries hend.view_eq).symm
  -- if both runs deliver the same, the first is as spaced as the second
  have hpunctual : IsSpaced setup.window (punctual.deliveries.filter (·.path = file)) :=
    hnew'.isSpaced_run setup.cancelsInTime_punctual hwindow rfl (isSpaced_nil _) steps
  refine ⟨⟨fun heq => heq ▸ hpunctual, hsame⟩, fun hkept => hsame ?_⟩
  exact (hnew.closesInTime file).isSpaced_run hnew.timely hwindow rfl (isSpaced_nil _) hsteps hkept

/-- A file that changes twice within its window before watching is ended, and once more after it.
Two timers fire when the window closes, and the first one brings the change. -/
theorem deliveries_eq_punctual_stopped :
    let setup : WatchSetup := { paths := ["/a.scss"], window := 10, lateTimers := true }
    let steps : List WatchStep :=
      [.notify { path := "/a.scss" } .changed, .advance 1, .notify { path := "/a.scss" } .changed,
        .stop, .start none, .advance 1, .notify { path := "/a.scss" } .changed, .advance 20]
    let late := ({ toWatchSetup := setup } : Watcher).run steps
    let punctual := ({ toWatchSetup := setup.punctual } : Watcher).run steps
    0 < setup.window ∧ (∀ e, .dispatch e ∉ steps) ∧
      (∀ path, .notify path .removed ∈ steps → setup.match? path ≠ some "/a.scss") ∧
      late.deliveries.filter (·.path = "/a.scss") =
        punctual.deliveries.filter (·.path = "/a.scss") := by
  intro setup steps late punctual
  have hsteps : ∀ e, .dispatch e ∉ steps := by simp [steps]
  have hkept : ∀ path, .notify path .removed ∈ steps → setup.match? path ≠ some "/a.scss" := by
    simp [steps]
  refine ⟨by decide, hsteps, hkept, ?_⟩
  exact (deliveries_eq_punctual_iff setup {} (by decide) steps hsteps "/a.scss").2 hkept

/-- A file that is removed just before a change of it is delivered, and then changes twice. The
timer of the delivery that was given up brings the last change at 10, but the window closes at
19. -/
theorem deliveries_ne_punctual :
    let setup : WatchSetup := { paths := ["/a.scss"], window := 10, lateTimers := true }
    let steps : List WatchStep :=
      [.notify { path := "/a.scss" } .changed, .advance 1,
        .notify { path := "/a.scss" } .changed, .advance 8, .notify { path := "/a.scss" } .removed,
        .notify { path := "/a.scss" } .changed, .notify { path := "/a.scss" } .changed, .advance 1,
        .advance 9]
    let late := ({ toWatchSetup := setup } : Watcher).run steps
    let punctual := ({ toWatchSetup := setup.punctual } : Watcher).run steps
    late.deliveries = [⟨"/a.scss", .changed, 0⟩, ⟨"/a.scss", .removed, 9⟩, ⟨"/a.scss", .changed, 9⟩,
        ⟨"/a.scss", .changed, 10⟩] ∧
      punctual.deliveries = [⟨"/a.scss", .changed, 0⟩, ⟨"/a.scss", .removed, 9⟩,
        ⟨"/a.scss", .changed, 9⟩, ⟨"/a.scss", .changed, 19⟩] ∧
      late.deliveries ≠ punctual.deliveries := by
  decide +kernel

end Watcher

end Restyle
