import Mathlib
import Restyle.Proofs.WatcherSteps

/-! # Timers and windows
The timers of a watcher, the windows of its files and the deliveries that are outstanding belong
together in a way that every step keeps: `Timely`. In particular a timer fires within one window
from the time at which it was made, and every outstanding delivery has a timer, although timers that
have been cancelled may still fire. -/

namespace Restyle.Watcher

variable {w w' : Watcher} {path file : String} {timer : Timer}

/-! ## The invariant -/

/-- Timers, windows and outstanding deliveries belong together. -/
structure Coherent (w : Watcher) : Prop where
  /-- No two timers have the same number. -/
  nodup_ids : (w.timers.map Timer.id).Nodup
  /-- The numbers of timers are used up. -/
  id_lt : ∀ timer ∈ w.timers, timer.id < w.timerCount
  /-- Timers fire within one window from now. -/
  deadline_le : ∀ timer ∈ w.timers, timer.deadline ≤ w.clock + w.window
  /-- Windows have been opened in the past. -/
  opened_le : ∀ path opened, w.lastSeen.lookup path = some opened → opened ≤ w.clock
  /-- Every outstanding delivery has its timer. -/
  has_timer : ∀ path id, w.trailing.lookup path = some id →
    ∃ timer ∈ w.timers, timer.id = id ∧ timer.path = path

/-- Moreover, every timer that is due has fired. -/
structure Timely (w : Watcher) : Prop extends Coherent w where
  /-- Timers fire in the future. -/
  clock_lt : ∀ timer ∈ w.timers, w.clock < timer.deadline

/-- `w.timers` has no duplicates. -/
theorem Coherent.nodup_timers (h : w.Coherent) : w.timers.Nodup := h.nodup_ids.of_map _

/-- Timers with the same `id` are the same. -/
theorem Coherent.eq_of_id_eq (h : w.Coherent) {a b : Timer} (ha : a ∈ w.timers) (hb : b ∈ w.timers)
    (hid : a.id = b.id) : a = b :=
  List.inj_on_of_nodup_map h.nodup_ids ha hb hid

/-- `KeepsWindows w w'` keeps `Coherent`. -/
theorem Coherent.of_keepsWindows (h : KeepsWindows w w') (hw : w.Coherent) : w'.Coherent := by
  have hwindow : w'.window = w.window := congrArg WatchSetup.window h.setup_eq
  constructor
  · rw [h.timers_eq]
    exact hw.nodup_ids
  · rw [h.timers_eq, h.timerCount_eq]
    exact hw.id_lt
  · rw [h.timers_eq, h.clock_eq, hwindow]
    exact hw.deadline_le
  · rw [h.lastSeen_eq, h.clock_eq]
    exact hw.opened_le
  · rw [h.trailing_eq, h.timers_eq]
    exact hw.has_timer

/-- `KeepsWindows w w'` keeps `Timely`. -/
theorem KeepsWindows.timely (h : KeepsWindows w w') (hw : w.Timely) : w'.Timely := by
  refine ⟨.of_keepsWindows h hw.toCoherent, ?_⟩
  rw [h.timers_eq, h.clock_eq]
  exact hw.clock_lt

/-- A new watcher is `Timely`: it has no timers and no windows. -/
theorem timely_of_new (setup : WatchSetup) (observer : Observer) :
    ({ toWatchSetup := setup, observer } : Watcher).Timely := by
  constructor
  · constructor
    · exact List.nodup_nil
    · exact fun timer h => absurd h List.not_mem_nil
    · exact fun timer h => absurd h List.not_mem_nil
    · exact fun path opened h => nomatch h
    · exact fun path id h => nomatch h
  · exact fun timer h => absurd h List.not_mem_nil

/-- `Timely` is kept when timers are taken away, as long as outstanding deliveries keep theirs. -/
theorem Timely.withFewer (h : w.Timely) {trailing : List (String × Nat)} {timers : List Timer}
    (hsub : timers.Sublist w.timers)
    (htimer : ∀ path id, trailing.lookup path = some id →
      ∃ timer ∈ timers, timer.id = id ∧ timer.path = path) :
    ({ w with trailing, timers } : Watcher).Timely where
  nodup_ids := h.nodup_ids.sublist (hsub.map _)
  id_lt timer ht := h.id_lt timer (hsub.subset ht)
  deadline_le timer ht := h.deadline_le timer (hsub.subset ht)
  opened_le := h.opened_le
  has_timer := htimer
  clock_lt timer ht := h.clock_lt timer (hsub.subset ht)

/-- The number that is noted for `path` is not that of a timer of another file. -/
theorem Coherent.lookup_ne_id (h : w.Coherent) (htimer : timer ∈ w.timers)
    (hne : timer.path ≠ path) :
    w.trailing.lookup path ≠ some timer.id := by
  intro hlookup
  obtain ⟨other, hother, hid, hpath⟩ := h.has_timer path timer.id hlookup
  have hsame := h.eq_of_id_eq hother htimer hid
  exact hne (hsame ▸ hpath)

/-- `dropTrailing` keeps `Timely`. -/
theorem Timely.dropTrailing (h : w.Timely) (path : String) : (w.dropTrailing path).Timely := by
  obtain ⟨timers, heq, hsub, hkeep⟩ := dropTrailing_eq w path
  rw [heq]
  refine h.withFewer hsub fun other id hlookup => ?_
  by_cases hother : other = path
  · rw [hother, lookup_filter_self] at hlookup
    cases hlookup
  · rw [lookup_filter_ne hother] at hlookup
    obtain ⟨timer, htimer, hid, hpath⟩ := h.has_timer other id hlookup
    have hne : timer.path ≠ path := hpath ▸ hother
    exact ⟨timer, hkeep timer htimer (h.lookup_ne_id htimer hne), hid, hpath⟩

/-- `stop` keeps `Timely`. -/
theorem Timely.stop (h : w.Timely) : w.stop.Timely := by
  obtain ⟨timers, hkeeps, hsub⟩ := stop_eq w
  exact hkeeps.timely (h.withFewer hsub fun path id hlookup => nomatch hlookup)

/-- `deliver` keeps `Timely`. -/
theorem Timely.deliver (h : w.Timely) (path : String) (kind : ChangeKind) :
    (w.deliver path kind).2.Timely := by
  rw [deliver_snd]
  exact ⟨⟨h.nodup_ids, h.id_lt, h.deadline_le, h.opened_le, h.has_timer⟩, h.clock_lt⟩

/-- `forgetWindow` keeps `Timely`. -/
theorem Timely.forgetWindow (h : w.Timely) (path : String) : (w.forgetWindow path).Timely := by
  refine ⟨⟨h.nodup_ids, h.id_lt, h.deadline_le, ?_, h.has_timer⟩, h.clock_lt⟩
  intro other opened hlookup
  have hseen : (w.lastSeen.filter (·.1 ≠ path)).lookup other = some opened := hlookup
  by_cases hother : other = path
  · rw [hother, lookup_filter_self] at hseen
    cases hseen
  · rw [lookup_filter_ne hother] at hseen
    exact h.opened_le other opened hseen

/-- `openWindow` keeps `Coherent`: the window is opened now, and not later. -/
theorem Coherent.openWindow (h : w.Coherent) (path : String) : (w.openWindow path).Coherent := by
  refine ⟨h.nodup_ids, h.id_lt, h.deadline_le, ?_, h.has_timer⟩
  intro other opened hlookup
  have hseen : ((path, w.clock) :: w.lastSeen.filter (·.1 ≠ path)).lookup other = some opened :=
    hlookup
  rw [List.lookup_cons] at hseen
  by_cases hother : other = path
  · have htrue : (other == path) = true := by simp [hother]
    rw [htrue] at hseen
    cases hseen
    exact Nat.le_refl _
  · have hfalse : (other == path) = false := by simp [hother]
    rw [hfalse, lookup_filter_ne hother] at hseen
    exact h.opened_le other opened hseen

/-- `w.windowEnd? path = some deadline` only if the window was opened at `deadline - w.window`, and
`w.clock < deadline`. -/
theorem windowEnd?_eq_some {deadline : Nat} (h : w.windowEnd? path = some deadline) :
    ∃ opened, w.lastSeen.lookup path = some opened ∧ w.clock < opened + w.window ∧
      deadline = opened + w.window := by
  unfold windowEnd? at h
  obtain ⟨opened, hlookup, hopen⟩ := Option.bind_eq_some_iff.mp h
  split at hopen
  · next hlt =>
    cases hopen
    exact ⟨opened, hlookup, hlt, rfl⟩
  · cases hopen

/-- `postpone` until a `deadline` within the next `w.window` keeps `Timely`. -/
theorem Timely.postpone (h : w.Timely) {deadline : Nat} (hlt : w.clock < deadline)
    (hle : deadline ≤ w.clock + w.window) : (w.postpone path deadline).Timely := by
  unfold Watcher.postpone
  split
  · exact h
  · have hnew : ∀ timer ∈ w.timers ++ [⟨w.timerCount, deadline, path⟩], timer ∈ w.timers ∨
        timer = ⟨w.timerCount, deadline, path⟩ := by
      intro timer htimer
      simpa using htimer
    constructor
    · constructor
      · rw [List.map_append, List.nodup_append']
        refine ⟨h.nodup_ids, List.nodup_singleton _, ?_⟩
        intro id hid hcount
        obtain ⟨timer, htimer, rfl⟩ := List.mem_map.mp hid
        have hlt := h.id_lt timer htimer
        rw [List.map_singleton, List.mem_singleton] at hcount
        simp only at hcount
        omega
      · intro timer htimer
        rcases hnew timer htimer with hold | rfl
        · exact Nat.lt_succ_of_lt (h.id_lt timer hold)
        · exact Nat.lt_succ_self _
      · intro timer htimer
        rcases hnew timer htimer with hold | rfl
        · exact h.deadline_le timer hold
        · exact hle
      · exact h.opened_le
      · intro other id hother
        -- a delivery that was outstanding keeps its timer, the new one has the new timer
        have happend : (w.trailing ++ [(path, w.timerCount)]).lookup other = some id := hother
        rw [List.lookup_append] at happend
        cases hold : w.trailing.lookup other with
        | some id' =>
          rw [hold] at happend
          cases happend
          obtain ⟨timer, htimer, hid, hpath⟩ := h.has_timer other id hold
          exact ⟨timer, List.mem_append_left _ htimer, hid, hpath⟩
        | none =>
          rw [hold, Option.none_or, List.lookup_cons, List.lookup_nil] at happend
          split at happend
          · next heq =>
            cases happend
            exact ⟨⟨w.timerCount, deadline, path⟩, by simp, rfl, (eq_of_beq heq).symm⟩
          · cases happend
    · intro timer htimer
      rcases hnew timer htimer with hold | rfl
      · exact h.clock_lt timer hold
      · exact hlt

/-! ## Steps keep it -/

/-- `notify` keeps `Timely`. -/
theorem Timely.notify (h : w.Timely) (path : Sighting) (kind : ChangeKind) :
    (w.notify path kind).2.Timely := by
  unfold Watcher.notify
  cases w.match? path with
  | none => exact h
  | some file =>
    cases kind with
    | changed =>
      simp only
      split
      · exact h.deliver file .changed
      · split
        · next deadline hend =>
          -- an open window ends in the future, and at most one window from now
          obtain ⟨opened, hlookup, hlt, rfl⟩ := windowEnd?_eq_some hend
          have hopened := h.opened_le file opened hlookup
          exact h.postpone hlt (by omega)
        · have hopen : (w.openWindow file).Timely := ⟨h.openWindow file, h.clock_lt⟩
          exact hopen.deliver file .changed
    | removed => exact ((h.dropTrailing file).forgetWindow file).deliver file .removed
    | error => exact h.deliver file .error

/-- `notifyAll` keeps `Timely`. -/
theorem Timely.notifyAll (h : w.Timely) (changes : List (Sighting × ChangeKind)) :
    (w.notifyAll changes).2.Timely := by
  induction changes generalizing w with
  | nil => exact h
  | cons change changes ih =>
    obtain ⟨path, kind⟩ := change
    cases hraised : (w.notify path kind).1 with
    | ok =>
      rw [notifyAll_cons_of_ok hraised]
      exact ih (h.notify path kind)
    | error message =>
      rw [notifyAll_cons_of_error hraised]
      exact h.notify path kind

/-- `dispatch` keeps `Timely`. -/
theorem Timely.dispatch (h : w.Timely) (e : FileEvent) : (w.dispatch e).Timely :=
  (keepsWindows_dispatch w e).timely (h.notifyAll e.changes)

/-- `fire timer` takes the timer away and moves the clock, if nothing is outstanding for its
file. -/
theorem fire_eq_of_eq_none (h : w.trailing.lookup timer.path = none) :
    w.fire timer =
      { w with clock := max w.clock timer.deadline, timers := w.timers.erase timer } := by
  simp [fire, h]

/-- `fire timer` opens a window and delivers, up to `KeepsWindows`, if a delivery is outstanding for
its file. -/
theorem keepsWindows_fire {id : Nat} (h : w.trailing.lookup timer.path = some id) :
    KeepsWindows
      { w with
        clock := max w.clock timer.deadline
        timers := w.timers.erase timer
        trailing := w.trailing.filter (·.1 ≠ timer.path)
        lastSeen := (timer.path, max w.clock timer.deadline) ::
          w.lastSeen.filter (·.1 ≠ timer.path)
        deliveries := w.deliveries ++ [⟨timer.path, .changed, max w.clock timer.deadline⟩] }
      (w.fire timer) := by
  unfold fire
  simp only [h, Option.isSome_some, if_true]
  split
  · next v hdeliver =>
    obtain rfl : v = _ := (congrArg Prod.snd hdeliver).symm.trans (deliver_snd _ _ _)
    exact ⟨rfl, rfl, rfl, rfl, rfl, rfl, rfl⟩
  · next message v hdeliver =>
    obtain rfl : v = _ := (congrArg Prod.snd hdeliver).symm.trans (deliver_snd _ _ _)
    exact keepsWindows_report _ _

/-- `Coherent` is kept when time passes, whether or not the timers that are due have fired. -/
theorem Coherent.withClock (h : w.Coherent) {time : Nat} (htime : w.clock ≤ time) :
    ({ w with clock := time } : Watcher).Coherent where
  nodup_ids := h.nodup_ids
  id_lt := h.id_lt
  deadline_le timer ht := (h.deadline_le timer ht).trans (Nat.add_le_add_right htime _)
  opened_le path opened hlookup := (h.opened_le path opened hlookup).trans htime
  has_timer := h.has_timer

/-- `fire` keeps `Coherent`. -/
theorem Coherent.fire (h : w.Coherent) (timer : Timer) : (w.fire timer).Coherent := by
  have hclock : w.clock ≤ max w.clock timer.deadline := Nat.le_max_left _ _
  have hlater := h.withClock hclock
  have hsub : (w.timers.erase timer).Sublist w.timers := List.erase_sublist
  -- the timers of other files are still there
  have hother : ∀ path id, path ≠ timer.path → w.trailing.lookup path = some id →
      ∃ other ∈ w.timers.erase timer, other.id = id ∧ other.path = path := by
    intro path id hne hlookup
    obtain ⟨other, hmem, hid, hpath⟩ := h.has_timer path id hlookup
    have hdiffers : other ≠ timer := fun hsame => hne (hpath ▸ hsame ▸ rfl)
    exact ⟨other, (List.mem_erase_of_ne hdiffers).mpr hmem, hid, hpath⟩
  cases hlookup : w.trailing.lookup timer.path with
  | none =>
    rw [fire_eq_of_eq_none hlookup]
    refine ⟨h.nodup_ids.sublist (hsub.map _), fun t ht => h.id_lt t (hsub.subset ht),
      fun t ht => hlater.deadline_le t (hsub.subset ht), hlater.opened_le, ?_⟩
    intro path id hid
    refine hother path id ?_ hid
    rintro rfl
    cases hlookup.symm.trans hid
  | some id =>
    -- the delivery is made, and the window of the file opens anew
    refine Coherent.of_keepsWindows (keepsWindows_fire hlookup) ?_
    refine ⟨h.nodup_ids.sublist (hsub.map _), fun t ht => h.id_lt t (hsub.subset ht),
      fun t ht => hlater.deadline_le t (hsub.subset ht),
      (hlater.openWindow timer.path).opened_le, ?_⟩
    intro path id hid
    by_cases hpath : path = timer.path
    · have hnone : (w.trailing.filter (·.1 ≠ timer.path)).lookup path = none :=
        hpath ▸ lookup_filter_self
      cases hnone.symm.trans hid
    · have hkept : w.trailing.lookup path = some id := (lookup_filter_ne hpath).symm.trans hid
      exact hother path id hpath hkept

/-! ## The passing of time -/

/-- `(w.fire timer).timers = w.timers.erase timer`. -/
@[simp] theorem fire_timers (w : Watcher) (timer : Timer) :
    (w.fire timer).timers = w.timers.erase timer := by
  cases hlookup : w.trailing.lookup timer.path with
  | none => rw [fire_eq_of_eq_none hlookup]
  | some id => exact (keepsWindows_fire hlookup).timers_eq

/-- `(w.fire timer).clock = max w.clock timer.deadline`. -/
@[simp] theorem fire_clock (w : Watcher) (timer : Timer) :
    (w.fire timer).clock = max w.clock timer.deadline := by
  cases hlookup : w.trailing.lookup timer.path with
  | none => rw [fire_eq_of_eq_none hlookup]
  | some id => exact (keepsWindows_fire hlookup).clock_eq

/-- `fire` leaves the setup as it is. -/
@[simp] theorem fire_setup (w : Watcher) (timer : Timer) :
    (w.fire timer).toWatchSetup = w.toWatchSetup := by
  cases hlookup : w.trailing.lookup timer.path with
  | none => rw [fire_eq_of_eq_none hlookup]
  | some id => exact (keepsWindows_fire hlookup).setup_eq

/-- `(timers.foldl fire w).timers = w.timers.diff timers`. -/
theorem timers_foldl_fire (timers : List Timer) (w : Watcher) :
    (timers.foldl fire w).timers = w.timers.diff timers := by
  induction timers generalizing w with
  | nil => rfl
  | cons timer timers ih => rw [List.foldl_cons, ih, fire_timers, List.diff_cons]

/-- Timers that fire leave the setup as it is. -/
theorem setup_foldl_fire (timers : List Timer) (w : Watcher) :
    (timers.foldl fire w).toWatchSetup = w.toWatchSetup := by
  induction timers generalizing w with
  | nil => rfl
  | cons timer timers ih => rw [List.foldl_cons, ih, fire_setup]

/-- The clock does not run ahead of `time` while timers fire that are due by `time`. -/
theorem clock_foldl_fire_le {time : Nat} {timers : List Timer} (hclock : w.clock ≤ time)
    (htimers : ∀ timer ∈ timers, timer.deadline ≤ time) : (timers.foldl fire w).clock ≤ time := by
  induction timers generalizing w with
  | nil => exact hclock
  | cons timer timers ih =>
    refine ih ?_ fun other hother => htimers other (List.mem_cons_of_mem _ hother)
    rw [fire_clock]
    exact Nat.max_le.mpr ⟨hclock, htimers timer List.mem_cons_self⟩

/-- Timers that fire one after the other keep `Coherent`. -/
theorem Coherent.foldl_fire (h : w.Coherent) (timers : List Timer) :
    (timers.foldl Watcher.fire w).Coherent := by
  induction timers generalizing w with
  | nil => exact h
  | cons timer timers ih => exact ih (h.fire timer)

/-- `timer ∈ w.due time` exactly if it is one of the timers, with `timer.deadline ≤ time`. -/
theorem mem_due {time : Nat} : timer ∈ w.due time ↔ timer ∈ w.timers ∧ timer.deadline ≤ time := by
  rw [due, List.mem_mergeSort, List.mem_filter]
  simp

/-- `w.due time` is sorted by deadline. -/
theorem pairwise_due (w : Watcher) (time : Nat) :
    (w.due time).Pairwise fun a b => a.deadline ≤ b.deadline := by
  have hsorted : (w.due time).Pairwise fun a b =>
      (a.deadline < b.deadline || (a.deadline == b.deadline && a.id ≤ b.id)) = true := by
    refine List.pairwise_mergeSort ?_ ?_ _
    · intro a b c hab hbc
      simp at hab hbc ⊢
      omega
    · intro a b
      simp
      omega
  refine hsorted.imp ?_
  intro a b hab
  simp at hab
  omega

/-- `advance` keeps `Timely`: every timer that is due has fired. -/
theorem Timely.advance (h : w.Timely) (amount : Nat) : (w.advance amount).Timely := by
  have hclock : ((w.due (w.clock + amount)).foldl Watcher.fire w).clock ≤ w.clock + amount :=
    clock_foldl_fire_le (Nat.le_add_right _ _) fun timer htimer => (mem_due.mp htimer).2
  refine ⟨(h.toCoherent.foldl_fire _).withClock hclock, ?_⟩
  intro timer htimer
  -- what is left was not due, since no timer stands in the list twice
  have hleft : timer ∈ w.timers.diff (w.due (w.clock + amount)) := by
    rw [← timers_foldl_fire]
    exact htimer
  rw [h.nodup_timers.mem_sdiff_iff, mem_due] at hleft
  show w.clock + amount < timer.deadline
  by_contra hdue
  exact hleft.2 ⟨hleft.1, Nat.le_of_not_lt hdue⟩

/-- Every step keeps `Timely`. -/
theorem Timely.step (h : w.Timely) (s : WatchStep) : (w.step s).2.Timely := by
  cases s with
  | dispatch e => exact h.dispatch e
  | notify path kind => exact step_notify_snd w path kind ▸ h.notify path kind
  | advance amount => exact h.advance amount
  | report f => exact (keepsWindows_report w f).timely h
  | start fresh => exact (keepsWindows_start w fresh).timely h
  | stop => exact h.stop
  | check => exact (keepsWindows_check w).timely h
  | killEmitter index =>
    exact ⟨⟨h.nodup_ids, h.id_lt, h.deadline_le, h.opened_le, h.has_timer⟩, h.clock_lt⟩
  | killObserver =>
    exact ⟨⟨h.nodup_ids, h.id_lt, h.deadline_le, h.opened_le, h.has_timer⟩, h.clock_lt⟩

/-- Every run keeps `Timely`. -/
theorem Timely.run (h : w.Timely) (steps : List WatchStep) : (w.run steps).Timely := by
  induction steps generalizing w with
  | nil => exact h
  | cons s steps ih => exact ih (h.step s)

/-- A step leaves the setup as it is. -/
theorem setup_step (w : Watcher) (s : WatchStep) : (w.step s).2.toWatchSetup = w.toWatchSetup := by
  cases s with
  | dispatch e => exact (tellsOnly_dispatch w e).setup_eq
  | notify path kind => exact step_notify_snd w path kind ▸ (tellsOnly_notify w path kind).setup_eq
  | advance amount => exact setup_foldl_fire _ w
  | report f => exact (keepsWindows_report w f).setup_eq
  | start fresh => exact (keepsWindows_start w fresh).setup_eq
  | stop =>
    obtain ⟨timers, hkeeps, -⟩ := stop_eq w
    exact hkeeps.setup_eq
  | check => exact (keepsWindows_check w).setup_eq
  | killEmitter index => rfl
  | killObserver => rfl

/-- A run leaves the setup as it is. -/
theorem setup_run (w : Watcher) (steps : List WatchStep) :
    (w.run steps).toWatchSetup = w.toWatchSetup := by
  induction steps generalizing w with
  | nil => rfl
  | cons s steps ih => exact (ih _).trans (setup_step w s)

end Restyle.Watcher
