import Mathlib
import Restyle.Proofs.Timers
import Restyle.Proofs.WatcherSteps

/-! # Coalescing
Changes of a file within its window are collapsed into one delivery, and the last of them is never
lost: whenever a change is noticed, the client is told within one window of time
(`exists_delivery_of_changed`). What is outstanding when a change is noticed stays so until it is
delivered (`Awaits`), unless the file is removed or the watcher stops. -/

namespace Restyle.Watcher

variable {w w' : Watcher} {path : Sighting} {file : String} {timer : Timer}

/-! ## What is awaited -/

/-- After the first `n` deliveries, a change of a file has been delivered at a time from `earliest`
to `latest`. -/
def HasDelivered (w : Watcher) (n : Nat) (file : String) (earliest latest : Nat) : Prop :=
  ∃ d ∈ w.deliveries.drop n, d.path = file ∧ d.kind = .changed ∧ earliest ≤ d.time ∧ d.time ≤ latest

/-- A delivery is outstanding for a file, and a timer will bring it by `latest`. -/
def IsOutstanding (w : Watcher) (file : String) (latest : Nat) : Prop :=
  (w.trailing.lookup file).isSome ∧ ∃ timer ∈ w.timers, timer.path = file ∧ timer.deadline ≤ latest

/-- After the first `n` deliveries, a change of a file has been delivered in time, or will be. -/
structure Awaits (w : Watcher) (n : Nat) (file : String) (earliest latest : Nat) : Prop where
  /-- It is not too early for a delivery. -/
  earliest_le : earliest ≤ w.clock
  /-- The deliveries that do not count have been made. -/
  le_length : n ≤ w.deliveries.length
  /-- The delivery that counts has been made, or is outstanding. -/
  outcome : w.HasDelivered n file earliest latest ∨ w.IsOutstanding file latest

variable {n earliest latest : Nat}

/-- `HasDelivered` lasts: deliveries are added to the list and not taken back. -/
theorem HasDelivered.mono (h : w.HasDelivered n file earliest latest)
    (hdeliveries : w.deliveries <+: w'.deliveries) : w'.HasDelivered n file earliest latest := by
  obtain ⟨d, hd, hfacts⟩ := h
  obtain ⟨new, hnew⟩ := hdeliveries
  refine ⟨d, ?_, hfacts⟩
  rw [← hnew, List.drop_append]
  exact List.mem_append_left _ hd

/-- `Awaits` is kept by what only adds deliveries and time, as long as what is outstanding stays so
or is delivered. -/
theorem Awaits.mono (h : w.Awaits n file earliest latest) (hclock : w.clock ≤ w'.clock)
    (hdeliveries : w.deliveries <+: w'.deliveries)
    (houtstanding : w.IsOutstanding file latest →
      w'.HasDelivered n file earliest latest ∨ w'.IsOutstanding file latest) :
    w'.Awaits n file earliest latest where
  earliest_le := h.earliest_le.trans hclock
  le_length := h.le_length.trans hdeliveries.length_le
  outcome := h.outcome.elim (fun hdelivered => .inl (hdelivered.mono hdeliveries)) houtstanding

/-- `KeepsWindows w w'` keeps `Awaits`. -/
theorem Awaits.of_keepsWindows (h : w.Awaits n file earliest latest) (hkeeps : KeepsWindows w w') :
    w'.Awaits n file earliest latest := by
  refine h.mono hkeeps.clock_eq.ge (by rw [hkeeps.deliveries_eq]) fun houtstanding => .inr ?_
  rw [IsOutstanding, hkeeps.trailing_eq, hkeeps.timers_eq]
  exact houtstanding

/-- `deliver` keeps `Awaits`: it adds to the deliveries. -/
theorem Awaits.deliver (h : w.Awaits n file earliest latest) (path : String) (kind : ChangeKind) :
    (w.deliver path kind).2.Awaits n file earliest latest := by
  rw [deliver_snd]
  exact h.mono (Nat.le_refl _) (List.prefix_append _ _) .inr

/-- `dropTrailing path` keeps `Awaits` for every other file. -/
theorem Awaits.dropTrailing {path : String} (hw : w.Timely) (h : w.Awaits n file earliest latest)
    (hne : file ≠ path) : (w.dropTrailing path).Awaits n file earliest latest := by
  obtain ⟨timers, heq, -, hkeep⟩ := dropTrailing_eq w path
  rw [heq]
  refine h.mono (Nat.le_refl _) (List.prefix_refl _) ?_
  rintro ⟨hsome, timer, htimer, hpath, hdeadline⟩
  refine .inr ⟨?_, timer, hkeep timer htimer (hw.lookup_ne_id htimer (hpath ▸ hne)),
    hpath, hdeadline⟩
  show ((w.trailing.filter (·.1 ≠ path)).lookup file).isSome
  rw [lookup_filter_ne hne]
  exact hsome

/-- `postpone` keeps `Awaits`: it adds to the timers. -/
theorem Awaits.postpone (h : w.Awaits n file earliest latest) (path : String) (deadline : Nat) :
    (w.postpone path deadline).Awaits n file earliest latest := by
  unfold Watcher.postpone
  split
  · exact h
  · refine h.mono (Nat.le_refl _) (List.prefix_refl _) ?_
    rintro ⟨hsome, timer, htimer, hpath, hdeadline⟩
    refine .inr ⟨?_, timer, List.mem_append_left _ htimer, hpath, hdeadline⟩
    show ((w.trailing ++ [(path, w.timerCount)]).lookup file).isSome
    rw [List.lookup_append, Option.isSome_or, hsome, Bool.true_or]

/-- `notify path kind` keeps `Awaits` for `file`, unless it removes that file. -/
theorem Awaits.notify (hw : w.Timely) (h : w.Awaits n file earliest latest) {kind : ChangeKind}
    (hkind : kind = .removed → w.match? path ≠ some file) :
    (w.notify path kind).2.Awaits n file earliest latest := by
  unfold Watcher.notify
  cases hmatch : w.match? path with
  | none => exact h
  | some other =>
    cases kind with
    | changed =>
      simp only
      split
      · exact h.deliver other .changed
      · split
        · next deadline _ => exact h.postpone other deadline
        · have hopen : (w.openWindow other).Awaits n file earliest latest :=
            h.mono (Nat.le_refl _) (List.prefix_refl _) .inr
          exact hopen.deliver other .changed
    | removed =>
      -- the removal is of another file, so it drops another timer
      have hne : file ≠ other := by
        rintro rfl
        exact hkind rfl hmatch
      have hdrop := h.dropTrailing hw hne
      have hforget : ((w.dropTrailing other).forgetWindow other).Awaits n file earliest latest :=
        hdrop.mono (Nat.le_refl _) (List.prefix_refl _) .inr
      exact hforget.deliver other .removed
    | error => exact h.deliver other .error

/-- A change of `file` that is noticed is awaited from then on, for `w.window`: it is delivered at
once, or when the window closes. -/
theorem awaits_notify_changed (hw : w.Timely) (hwindow : 0 < w.window)
    (hmatch : w.match? path = some file) :
    (w.notify path .changed).2.Awaits w.deliveries.length file w.clock (w.clock + w.window) := by
  unfold Watcher.notify
  rw [hmatch]
  simp only
  rw [if_neg (Nat.ne_of_gt hwindow)]
  split
  · next deadline hend =>
    obtain ⟨opened, hlookup, hlt, rfl⟩ := windowEnd?_eq_some hend
    have hopened := hw.opened_le file opened hlookup
    simp only
    -- the window is open: the delivery is postponed, if it is not outstanding already
    unfold Watcher.postpone
    split
    · next hsome =>
      -- the timer that was set for an earlier change brings this one too
      obtain ⟨id, hid⟩ := Option.isSome_iff_exists.mp hsome
      obtain ⟨timer, htimer, -, hpath⟩ := hw.has_timer file id hid
      exact ⟨Nat.le_refl _, Nat.le_refl _,
        .inr ⟨hsome, timer, htimer, hpath, hw.deadline_le timer htimer⟩⟩
    · refine ⟨Nat.le_refl _, Nat.le_refl _, .inr ⟨?_, ⟨w.timerCount, opened + w.window, file⟩, ?_⟩⟩
      · show ((w.trailing ++ [(file, w.timerCount)]).lookup file).isSome
        rw [List.lookup_append, Option.isSome_or]
        simp
      · refine ⟨by simp, rfl, ?_⟩
        show opened + w.window ≤ w.clock + w.window
        omega
  · rw [deliver_snd]
    refine ⟨Nat.le_refl _, by simp [openWindow], .inl ⟨⟨file, .changed, w.clock⟩, ?_, rfl, rfl, ?_⟩⟩
    · simp [openWindow]
    · exact ⟨Nat.le_refl _, Nat.le_add_right _ _⟩

/-! ## Waiting for time to pass -/

/-- A timer that fires adds to the deliveries at most. -/
theorem prefix_fire (w : Watcher) (timer : Timer) : w.deliveries <+: (w.fire timer).deliveries := by
  cases hlookup : w.trailing.lookup timer.path with
  | none => rw [fire_eq_of_eq_none hlookup]
  | some id =>
    rw [(keepsWindows_fire hlookup).deliveries_eq]
    exact List.prefix_append _ _

/-- `fire timer` leaves what is outstanding for a file other than `timer.path`. -/
theorem IsOutstanding.fire_of_ne (h : w.IsOutstanding file latest) (hne : timer.path ≠ file) :
    (w.fire timer).IsOutstanding file latest := by
  obtain ⟨hsome, own, hown, hpath, hdeadline⟩ := h
  have hdiffers : own ≠ timer := by
    rintro rfl
    exact hne hpath
  refine ⟨?_, own, ?_, hpath, hdeadline⟩
  · cases hlookup : w.trailing.lookup timer.path with
    | none =>
      rw [fire_eq_of_eq_none hlookup]
      exact hsome
    | some id =>
      rw [(keepsWindows_fire hlookup).trailing_eq]
      show ((w.trailing.filter (·.1 ≠ timer.path)).lookup file).isSome
      rw [lookup_filter_ne hne.symm]
      exact hsome
  · rw [fire_timers]
    exact (List.mem_erase_of_ne hdiffers).mpr hown

/-- What is outstanding after `fire timer` was so before, and `timer.path ≠ file`. -/
theorem IsOutstanding.of_fire (h : (w.fire timer).IsOutstanding file latest) :
    timer.path ≠ file ∧ w.IsOutstanding file latest := by
  obtain ⟨hsome, own, hown, hpath, hdeadline⟩ := h
  rw [fire_timers] at hown
  have hmem := List.mem_of_mem_erase hown
  cases hlookup : w.trailing.lookup timer.path with
  | none =>
    rw [fire_eq_of_eq_none hlookup] at hsome
    refine ⟨?_, hsome, own, hmem, hpath, hdeadline⟩
    rintro rfl
    rw [hlookup] at hsome
    cases hsome
  | some id =>
    rw [(keepsWindows_fire hlookup).trailing_eq] at hsome
    have hne : timer.path ≠ file := by
      rintro rfl
      rw [lookup_filter_self] at hsome
      cases hsome
    rw [lookup_filter_ne hne.symm] at hsome
    exact ⟨hne, hsome, own, hmem, hpath, hdeadline⟩

/-- `fire timer`, cancelled or not, brings what is outstanding for `timer.path`, at its deadline. -/
theorem Awaits.hasDelivered_fire (h : w.Awaits n timer.path earliest latest)
    (hsome : (w.trailing.lookup timer.path).isSome) (hclock : w.clock ≤ timer.deadline)
    (hlatest : timer.deadline ≤ latest) :
    (w.fire timer).HasDelivered n timer.path earliest latest := by
  obtain ⟨id, hlookup⟩ := Option.isSome_iff_exists.mp hsome
  refine ⟨⟨timer.path, .changed, max w.clock timer.deadline⟩, ?_, rfl, rfl,
    h.earliest_le.trans (Nat.le_max_left _ _), ?_⟩
  · rw [(keepsWindows_fire hlookup).deliveries_eq, List.drop_append_of_le_length h.le_length]
    exact List.mem_append_right _ List.mem_cons_self
  · rw [Nat.max_eq_right hclock]
    exact hlatest

/-- `Awaits` is kept while `timers` fire in the order of their deadlines: the first one of the file
is not later than the one that is to bring its delivery. -/
theorem Awaits.foldl_fire {timers : List Timer} (h : w.Awaits n file earliest latest)
    (hsorted : timers.Pairwise fun a b => a.deadline ≤ b.deadline)
    (hclock : ∀ timer ∈ timers, w.clock ≤ timer.deadline)
    (hlatest : w.IsOutstanding file latest → (∀ timer ∈ timers, timer.deadline ≤ latest) ∨
      ∃ timer ∈ timers, timer.path = file ∧ timer.deadline ≤ latest) :
    (timers.foldl Watcher.fire w).Awaits n file earliest latest := by
  -- The first timer of the file that fires may be a cancelled one. It fires before the timer that
  -- is noted, so that it is not too late either, and nothing of the file is outstanding after it.
  induction timers generalizing w with
  | nil => exact h
  | cons timer timers ih =>
    obtain ⟨hfirst, hrest⟩ := List.pairwise_cons.mp hsorted
    have hnow := hclock timer List.mem_cons_self
    have hclock' : ∀ other ∈ timers, (w.fire timer).clock ≤ other.deadline := by
      intro other hother
      rw [fire_clock, Nat.max_eq_right hnow]
      exact hfirst other hother
    have hnext : (w.fire timer).Awaits n file earliest latest := by
      refine h.mono ?_ (prefix_fire w timer) fun houtstanding => ?_
      · rw [fire_clock]
        exact Nat.le_max_left _ _
      · by_cases hfile : timer.path = file
        · subst hfile
          refine .inl (h.hasDelivered_fire houtstanding.1 hnow ?_)
          rcases hlatest houtstanding with hall | ⟨own, hown, -, hdeadline⟩
          · exact hall timer List.mem_cons_self
          · rcases List.mem_cons.mp hown with rfl | hown
            · exact hdeadline
            · exact (hfirst own hown).trans hdeadline
        · exact .inr (houtstanding.fire_of_ne hfile)
    refine ih hnext hrest hclock' fun houtstanding => ?_
    obtain ⟨hne, hbefore⟩ := houtstanding.of_fire
    rcases hlatest hbefore with hall | ⟨own, hown, hpath, hdeadline⟩
    · exact .inl fun other hother => hall other (List.mem_cons_of_mem _ hother)
    · rcases List.mem_cons.mp hown with rfl | hown
      · exact absurd hpath hne
      · exact .inr ⟨own, hown, hpath, hdeadline⟩

/-- `advance amount` keeps `Awaits`: what is outstanding is delivered, or its timer is not due
yet. -/
theorem Awaits.advance (hw : w.Timely) (h : w.Awaits n file earliest latest) (amount : Nat) :
    (w.advance amount).Awaits n file earliest latest := by
  have hfired : ((w.due (w.clock + amount)).foldl Watcher.fire w).Awaits n file
      earliest latest := by
    refine h.foldl_fire (pairwise_due w _) ?_ ?_
    · exact fun timer htimer => (hw.clock_lt timer (mem_due.mp htimer).1).le
    · rintro ⟨-, own, hown, hpath, hdeadline⟩
      -- if the timer of the delivery is not due, then all that are due are earlier
      by_cases hdue : own.deadline ≤ w.clock + amount
      · exact .inr ⟨own, mem_due.mpr ⟨hown, hdue⟩, hpath, hdeadline⟩
      · refine .inl fun timer htimer => ?_
        have hbefore := (mem_due.mp htimer).2
        omega
  refine hfired.mono ?_ (List.prefix_refl _) .inr
  exact clock_foldl_fire_le (Nat.le_add_right _ _) fun timer htimer => (mem_due.mp htimer).2

/-! ## Runs -/

/-- The watched files among the changes of an event, with what happened to them, up to the first one
for which the client raises an error. -/
def told (w : Watcher) : List (Sighting × ChangeKind) → List (String × ChangeKind)
  | [] => []
  | (path, kind) :: rest =>
    (w.match? path).toList.map (·, kind) ++
      match w.notify path kind with
      | (.ok (), w) => w.told rest
      | (.error _, _) => []

/-- `w.told` goes on behind a change for which `notify` answers `.ok ()`. -/
theorem told_cons_of_ok {kind : ChangeKind} (h : (w.notify path kind).1 = .ok ())
    (rest : List (Sighting × ChangeKind)) :
    w.told ((path, kind) :: rest) =
      (w.match? path).toList.map (·, kind) ++ (w.notify path kind).2.told rest := by
  rw [told]
  split
  · next v hnotify => rw [hnotify]
  · next message v hnotify =>
    rw [hnotify] at h
    cases h

/-- `w.told` ends with a change for which the client raises. -/
theorem told_cons_of_error {kind : ChangeKind} {message : String}
    (h : (w.notify path kind).1 = .error message) (rest : List (Sighting × ChangeKind)) :
    w.told ((path, kind) :: rest) = (w.match? path).toList.map (·, kind) := by
  rw [told]
  split
  · next v hnotify =>
    rw [hnotify] at h
    cases h
  · exact List.append_nil _

/-- The notifications of watched files in one step, in order. -/
def notified (w : Watcher) : WatchStep → List (String × ChangeKind)
  | .notify path kind => (w.match? path).toList.map (·, kind)
  | .dispatch e => w.told e.changes
  | _ => []

/-- In a run the watcher is not stopped, and no notification removes the file. -/
def IsQuiet (file : String) (w : Watcher) : List WatchStep → Prop
  | [] => True
  | s :: steps => s ≠ .stop ∧ (file, .removed) ∉ w.notified s ∧ (w.step s).2.IsQuiet file steps

/-- `notifyAll changes` keeps `Awaits` for a file that it does not tell as removed. -/
theorem Awaits.notifyAll (hw : w.Timely) (h : w.Awaits n file earliest latest)
    {changes : List (Sighting × ChangeKind)} (hquiet : (file, .removed) ∉ w.told changes) :
    (w.notifyAll changes).2.Awaits n file earliest latest := by
  induction changes generalizing w with
  | nil => exact h
  | cons change changes ih =>
    obtain ⟨path, kind⟩ := change
    have hkind : (file, .removed) ∉ (w.match? path).toList.map (·, kind) →
        kind = .removed → w.match? path ≠ some file := by
      rintro hnot rfl hmatch
      exact hnot (by simp [hmatch])
    cases hraised : (w.notify path kind).1 with
    | ok =>
      rw [told_cons_of_ok hraised, List.mem_append, not_or] at hquiet
      rw [notifyAll_cons_of_ok hraised]
      exact ih (hw.notify path kind) (h.notify hw (hkind hquiet.1)) hquiet.2
    | error message =>
      rw [told_cons_of_error hraised] at hquiet
      rw [notifyAll_cons_of_error hraised]
      exact h.notify hw (hkind hquiet)

/-- A step that is not `.stop`, and does not tell `file` as removed, keeps `Awaits`. -/
theorem Awaits.step (hw : w.Timely) (h : w.Awaits n file earliest latest) {s : WatchStep}
    (hstop : s ≠ .stop) (hquiet : (file, .removed) ∉ w.notified s) :
    (w.step s).2.Awaits n file earliest latest := by
  cases s with
  | dispatch e => exact (h.notifyAll hw hquiet).of_keepsWindows (keepsWindows_dispatch w e)
  | notify path kind =>
    rw [step_notify_snd]
    refine h.notify hw ?_
    rintro rfl hmatch
    exact hquiet (by simp [notified, hmatch])
  | advance amount => exact h.advance hw amount
  | report f => exact h.of_keepsWindows (keepsWindows_report w f)
  | start fresh => exact h.of_keepsWindows (keepsWindows_start w fresh)
  | stop => exact absurd rfl hstop
  | check => exact h.of_keepsWindows (keepsWindows_check w)
  | killEmitter index => exact h.mono (Nat.le_refl _) (List.prefix_refl _) .inr
  | killObserver => exact h.mono (Nat.le_refl _) (List.prefix_refl _) .inr

/-- A run that `IsQuiet file` keeps `Awaits`, step by step. -/
theorem Awaits.run (hw : w.Timely) (h : w.Awaits n file earliest latest) {steps : List WatchStep}
    (hquiet : w.IsQuiet file steps) : (w.run steps).Awaits n file earliest latest := by
  induction steps generalizing w with
  | nil => exact h
  | cons s steps ih =>
    obtain ⟨hstop, hnotified, hrest⟩ := hquiet
    exact ih (hw.step s) (h.step hw hstop hnotified) hrest

/-- `Awaits` up to a time that has passed is `HasDelivered`: by then no timer for it is left. -/
theorem Awaits.hasDelivered (hw : w.Timely) (h : w.Awaits n file earliest latest)
    (htime : latest ≤ w.clock) : w.HasDelivered n file earliest latest := by
  rcases h.outcome with hdelivered | ⟨-, timer, htimer, -, hdeadline⟩
  · exact hdelivered
  · have hlt := hw.clock_lt timer htimer
    omega

/-! ## No change is lost -/

/-- Deliveries that count after the first `m` count after fewer. -/
theorem Awaits.anti {m : Nat} (h : w.Awaits m file earliest latest) (hle : n ≤ m) :
    w.Awaits n file earliest latest where
  earliest_le := h.earliest_le
  le_length := hle.trans h.le_length
  outcome := by
    refine h.outcome.imp_left ?_
    rintro ⟨d, hd, hfacts⟩
    exact ⟨d, (List.drop_sublist_drop_left _ hle).subset hd, hfacts⟩

/-- What `w.told changes` names stands among `changes`. -/
theorem exists_mem_of_mem_told {changes : List (Sighting × ChangeKind)} {kind : ChangeKind}
    (h : (file, kind) ∈ w.told changes) : ∃ path, (path, kind) ∈ changes := by
  induction changes generalizing w with
  | nil => exact absurd h List.not_mem_nil
  | cons change changes ih =>
    obtain ⟨path, kind'⟩ := change
    have hhead : (file, kind) ∈ (w.match? path).toList.map (·, kind') →
        ∃ q, (q, kind) ∈ (path, kind') :: changes := by
      intro hmem
      obtain ⟨other, -, heq⟩ := List.mem_map.mp hmem
      cases heq
      exact ⟨path, List.mem_cons_self⟩
    cases hraised : (w.notify path kind').1 with
    | ok =>
      rw [told_cons_of_ok hraised, List.mem_append] at h
      rcases h with hmem | hrest
      · exact hhead hmem
      · obtain ⟨q, hq⟩ := ih hrest
        exact ⟨q, List.mem_cons_of_mem _ hq⟩
    | error message =>
      rw [told_cons_of_error hraised] at h
      exact hhead h

/-- In `e.changes` of one event, no `.removed` stands behind a `.changed`. -/
theorem pairwise_changes (e : FileEvent) :
    e.changes.Pairwise fun a b => a.2 = .changed → b.2 ≠ .removed := by
  unfold FileEvent.changes
  split
  · exact .nil
  · split <;> simp

/-- A change of `file` in `w.told changes` is awaited from then on, for `w.window`, if no removal
stands behind a change. -/
theorem awaits_notifyAll_of_told (hw : w.Timely) (hwindow : 0 < w.window)
    {changes : List (Sighting × ChangeKind)}
    (horder : changes.Pairwise fun a b => a.2 = .changed → b.2 ≠ .removed)
    (h : (file, .changed) ∈ w.told changes) :
    (w.notifyAll changes).2.Awaits w.deliveries.length file w.clock (w.clock + w.window) := by
  induction changes generalizing w with
  | nil => exact absurd h List.not_mem_nil
  | cons change changes ih =>
    obtain ⟨path, kind⟩ := change
    obtain ⟨hafter, hrest⟩ := List.pairwise_cons.mp horder
    -- the first notification may be the one that counts
    have hnow : (file, .changed) ∈ (w.match? path).toList.map (·, kind) → kind = .changed ∧
        (w.notify path kind).2.Awaits w.deliveries.length file w.clock (w.clock + w.window) := by
      intro hmem
      obtain ⟨other, hother, heq⟩ := List.mem_map.mp hmem
      cases heq
      exact ⟨rfl, awaits_notify_changed hw hwindow (Option.mem_toList.mp hother)⟩
    cases hraised : (w.notify path kind).1 with
    | error message =>
      rw [told_cons_of_error hraised] at h
      rw [notifyAll_cons_of_error hraised]
      exact (hnow h).2
    | ok =>
      rw [told_cons_of_ok hraised, List.mem_append] at h
      rw [notifyAll_cons_of_ok hraised]
      have htimely := hw.notify path kind
      rcases h with hhead | htail
      · -- nothing after it removes the file
        obtain ⟨rfl, hawaits⟩ := hnow hhead
        refine hawaits.notifyAll htimely fun hremoved => ?_
        obtain ⟨q, hq⟩ := exists_mem_of_mem_told hremoved
        exact hafter (q, .removed) hq rfl rfl
      · -- a later one counts, at the same time and with no fewer deliveries made
        have htells := tellsOnly_notify w path kind
        have hlength : (w.notify path kind).2.window = w.window :=
          congrArg WatchSetup.window htells.setup_eq
        have hlater := ih htimely (hlength ▸ hwindow) hrest htail
        rw [htells.clock_eq, hlength] at hlater
        exact hlater.anti htells.prefix_deliveries.length_le

/-- A change of `file` in `w.notified s` is awaited after the step `s`, for `w.window`. -/
theorem awaits_step_of_notified (hw : w.Timely) (hwindow : 0 < w.window) {s : WatchStep}
    (h : (file, .changed) ∈ w.notified s) :
    (w.step s).2.Awaits w.deliveries.length file w.clock (w.clock + w.window) := by
  cases s with
  | dispatch e =>
    have hall := awaits_notifyAll_of_told hw hwindow (pairwise_changes e) h
    exact hall.of_keepsWindows (keepsWindows_dispatch w e)
  | notify path kind =>
    obtain ⟨other, hother, heq⟩ := List.mem_map.mp h
    cases heq
    rw [step_notify_snd]
    exact awaits_notify_changed hw hwindow (Option.mem_toList.mp hother)
  | _ => exact absurd h List.not_mem_nil

/-- In every run of a watcher with `0 < setup.window`: a change of `file` that a step notices at the
time `t` is delivered between `t` and `t + setup.window`, unless the file is removed or the watcher
stopped in between; whether or not cancelled timers fire, and whatever the client raises. -/
theorem exists_delivery_of_changed (setup : WatchSetup) (observer : Observer)
    (hwindow : 0 < setup.window) (before after : List WatchStep) (s : WatchStep) (file : String) :
    let new : Watcher := { toWatchSetup := setup, observer }
    let noticed := new.run before
    let later := (noticed.step s).2.run after
    (file, .changed) ∈ noticed.notified s → (noticed.step s).2.IsQuiet file after →
    noticed.clock + setup.window ≤ later.clock →
    ∃ d ∈ later.deliveries.drop noticed.deliveries.length, d.path = file ∧ d.kind = .changed ∧
      noticed.clock ≤ d.time ∧ d.time ≤ noticed.clock + setup.window := by
  intro new noticed later hchanged hquiet htime
  have htimely : noticed.Timely := (timely_of_new setup observer).run before
  have hsetup : noticed.toWatchSetup = setup := setup_run new before
  have hlength : noticed.window = setup.window := congrArg WatchSetup.window hsetup
  rw [← hlength] at hwindow htime ⊢
  have hnoticed : (noticed.step s).2.Awaits noticed.deliveries.length file noticed.clock
      (noticed.clock + noticed.window) := awaits_step_of_notified htimely hwindow hchanged
  exact (hnoticed.run (htimely.step s) hquiet).hasDelivered ((htimely.step s).run after) htime

/-- A file that changes twice at once, for a client that raises an error each time and with timers
that cannot be cancelled: the second change is delivered too. -/
theorem exists_delivery_of_changed_twice :
    let setup : WatchSetup :=
      { paths := ["/a.scss"], window := 2, raises := fun _ => some "busy", lateTimers := true }
    let noticed :=
      ({ toWatchSetup := setup } : Watcher).run [.notify { path := "/a.scss" } .changed]
    let later := (noticed.step (.notify { path := "/a.scss" } .changed)).2.run
      [.report (.watch "dead" none), .advance 3]
    0 < setup.window ∧ ("/a.scss", .changed) ∈ noticed.notified
      (.notify { path := "/a.scss" } .changed) ∧
      noticed.clock + setup.window ≤ later.clock ∧
      ∃ d ∈ later.deliveries.drop 1, d.path = "/a.scss" ∧ d.kind = .changed ∧ d.time ≤ 2 := by
  intro setup noticed later
  have hchanged : ("/a.scss", .changed) ∈ noticed.notified
      (.notify { path := "/a.scss" } .changed) := by
    decide
  have htime : noticed.clock + setup.window ≤ later.clock := by decide
  have hone : noticed.deliveries.length = 1 := by decide
  have hend : noticed.clock + setup.window = 2 := by decide
  refine ⟨by decide, hchanged, htime, ?_⟩
  obtain ⟨d, hd, hpath, hkind, -, htwo⟩ :=
    exists_delivery_of_changed setup {} (by decide) [.notify { path := "/a.scss" } .changed]
      [.report (.watch "dead" none), .advance 3] (.notify { path := "/a.scss" } .changed)
        "/a.scss" hchanged
      ⟨nofun, List.not_mem_nil, nofun, List.not_mem_nil, trivial⟩ htime
  exact ⟨d, hone ▸ hd, hpath, hkind, hend ▸ htwo⟩

end Restyle.Watcher
