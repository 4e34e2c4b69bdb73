import Mathlib
import Restyle.Proofs.FileViews
import Restyle.Proofs.Occurrences

/-! # Rate limit
When timers are cancelled in time, two changes of a file are delivered one after the other only if
at least one window lies between them, or a removal (`window_le_of_consecutive_changes`). A change
that is delivered at once comes after the last window, one that waits comes when the window closes
(`ClosesInTime`), since every timer that is left is that of an outstanding delivery (`HasOnlyLive`).
-/

namespace Restyle

/-- Timers that are cancelled do not fire. -/
structure WatchSetup.CancelsInTime (s : WatchSetup) : Prop where
  /-- Not all of them do. -/
  lateTimers_eq : s.lateTimers = false
  /-- Nor does any single one. -/
  isLate_eq : ∀ id, s.isLate id = false

variable {ds : List Delivery} {d : Delivery} {window time : Nat} {file : String}

/-! ## The latest change -/

/-- When the file last changed, if it has not been removed since, after one more delivery. -/
def latestAfter (latest : Option Nat) (d : Delivery) : Option Nat :=
  match d.kind with
  | .changed => some d.time
  | .removed => none
  | .error => latest

/-- When the file last changed, if it has not been removed since, according to its deliveries. -/
def latestChange (ds : List Delivery) : Option Nat := ds.foldl latestAfter none

/-- `latestChange (ds ++ [d]) = latestAfter (latestChange ds) d`. -/
@[simp] theorem latestChange_append_singleton (ds : List Delivery) (d : Delivery) :
    latestChange (ds ++ [d]) = latestAfter (latestChange ds) d := by
  rw [latestChange, List.foldl_append]
  rfl

/-- A member `y` of `l ++ [x]` is the last one, `x`, or stands in `l`. -/
theorem append_singleton_eq_append_cons_iff {α : Type} {l a b : List α} {x y : α} :
    l ++ [x] = a ++ y :: b ↔ (b = [] ∧ y = x ∧ a = l) ∨ ∃ c, b = c ++ [x] ∧ l = a ++ y :: c := by
  constructor
  · intro h
    rcases List.eq_nil_or_concat' b with rfl | ⟨c, z, rfl⟩
    · obtain ⟨rfl, hxy⟩ := List.append_inj' h rfl
      exact .inl ⟨rfl, (List.singleton_inj.mp hxy).symm, rfl⟩
    · rw [← List.cons_append, ← List.append_assoc] at h
      obtain ⟨rfl, hxz⟩ := List.append_inj' h rfl
      exact .inr ⟨c, by rw [List.singleton_inj.mp hxz], rfl⟩
  · rintro (⟨rfl, rfl, rfl⟩ | ⟨c, rfl, rfl⟩)
    · rfl
    · rw [← List.cons_append, ← List.append_assoc]

/-- `latestChange ds = some time` exactly if a change at `time` has nothing but `.error`s behind
it. -/
theorem latestChange_eq_some_iff :
    latestChange ds = some time ↔
      ∃ (a : List Delivery) (d : Delivery) (b : List Delivery), ds = a ++ d :: b ∧
        d.kind = .changed ∧ d.time = time ∧ ∀ x ∈ b, x.kind = .error := by
  -- from the last delivery backwards, since the latest one decides
  induction ds using List.reverseRecOn with
  | nil => simp [latestChange]
  | append_singleton ds x ih =>
    simp only [latestChange_append_singleton, append_singleton_eq_append_cons_iff]
    cases hkind : x.kind with
    | changed =>
      rw [latestAfter, hkind]
      constructor
      · intro htime
        exact ⟨ds, x, [], .inl ⟨rfl, rfl, rfl⟩, hkind, Option.some.inj htime, by simp⟩
      · rintro ⟨a, d, b, ⟨rfl, rfl, rfl⟩ | ⟨c, rfl, rfl⟩, -, rfl, hrest⟩
        · rfl
        · cases hkind.symm.trans (hrest x (by simp))
    | removed =>
      rw [latestAfter, hkind]
      constructor
      · intro htime
        cases htime
      · rintro ⟨a, d, b, ⟨rfl, rfl, rfl⟩ | ⟨c, rfl, rfl⟩, hchanged, -, hrest⟩
        · cases hkind.symm.trans hchanged
        · cases hkind.symm.trans (hrest x (by simp))
    | error =>
      -- an error is passed over: the change looked for is an earlier one
      rw [latestAfter, hkind]
      simp only
      rw [ih]
      constructor
      · rintro ⟨a, d, b, rfl, hchanged, htime, hrest⟩
        refine ⟨a, d, b ++ [x], .inr ⟨b, rfl, rfl⟩, hchanged, htime, fun y hy => ?_⟩
        rcases List.mem_append.mp hy with hy | hy
        · exact hrest y hy
        · rwa [List.mem_singleton.mp hy]
      · rintro ⟨a, d, b, ⟨rfl, rfl, rfl⟩ | ⟨c, rfl, rfl⟩, hchanged, htime, hrest⟩
        · cases hkind.symm.trans hchanged
        · exact ⟨a, d, c, rfl, hchanged, htime, fun y hy => hrest y (by simp [hy])⟩

/-! ## Spaced deliveries -/

/-- Among the deliveries for a file, at least one window lies between two changes with no other
change and no removal in between. -/
def IsSpaced (window : Nat) (ds : List Delivery) : Prop :=
  ∀ (a b c : List Delivery) (d d' : Delivery), ds = a ++ d :: (b ++ d' :: c) →
    d.kind = .changed → d'.kind = .changed → (∀ x ∈ b, x.kind = .error) → d.time + window ≤ d'.time

/-- `IsSpaced window []`. -/
theorem isSpaced_nil (window : Nat) : IsSpaced window [] := by
  intro a b c d d' h
  simp at h

/-- `IsSpaced window (ds ++ [d])` exactly if `ds` is spaced, and a change `d` comes at least
`window` after `latestChange ds`. -/
theorem isSpaced_append_singleton :
    IsSpaced window (ds ++ [d]) ↔ IsSpaced window ds ∧
      (d.kind = .changed → ∀ latest, latestChange ds = some latest → latest + window ≤ d.time) := by
  constructor
  · intro h
    refine ⟨fun a b c x y heq => h a b (c ++ [d]) x y (by simp [heq]),
      fun hkind latest hlatest => ?_⟩
    obtain ⟨a, x, b, rfl, hchanged, rfl, hrest⟩ := latestChange_eq_some_iff.mp hlatest
    exact h a b [] x d (by simp) hchanged hkind hrest
  · rintro ⟨h, hlast⟩ a b c x y heq hx hy hrest
    rw [← List.cons_append, ← List.append_assoc] at heq
    rcases append_singleton_eq_append_cons_iff.mp heq with ⟨rfl, rfl, rfl⟩ | ⟨c', rfl, rfl⟩
    · exact hlast hy x.time (latestChange_eq_some_iff.mpr ⟨a, x, b, rfl, hx, rfl, hrest⟩)
    · exact h a b c' x y (by simp) hx hy hrest

/-- `IsSpaced` passes to a start of the deliveries. -/
theorem IsSpaced.of_append {rest : List Delivery} (h : IsSpaced window (ds ++ rest)) :
    IsSpaced window ds :=
  fun a b c x y heq => h a b (c ++ rest) x y (by simp [heq])

namespace FileView

variable {v : FileView} {kind : ChangeKind}

/-- The window of the file was opened by the latest change. -/
def IsFaithful (v : FileView) : Prop := v.opened = latestChange v.deliveries

/-- `FileView.notice` keeps `IsFaithful` for a `window ≠ 0`. -/
theorem IsFaithful.notice (h : v.IsFaithful) (hwindow : window ≠ 0) (time : Nat) (file : String)
    (kind : ChangeKind) : (v.notice window time file kind).IsFaithful := by
  unfold FileView.notice
  split
  · exact h
  · unfold IsFaithful FileView.deliver FileView.touch
    simp only [latestChange_append_singleton, latestAfter]
    cases kind with
    | changed => simp only [hwindow, if_false]
    | removed => rfl
    | error => exact h

/-- `FileView.close` keeps `IsFaithful`. -/
theorem IsFaithful.close (h : v.IsFaithful) (file : String) (time : Nat) :
    (v.close file time).IsFaithful := by
  unfold FileView.close
  split
  · unfold IsFaithful FileView.deliver
    simp only [latestChange_append_singleton, latestAfter]
  · exact h

/-- `FileView.notice` keeps the deliveries spaced: a change within the open window is held back. -/
theorem IsFaithful.isSpaced_notice (h : v.IsFaithful) (hwindow : window ≠ 0)
    (hspaced : IsSpaced window v.deliveries) (time : Nat) (file : String) (kind : ChangeKind) :
    IsSpaced window (v.notice window time file kind).deliveries := by
  unfold FileView.notice
  cases hheld : v.holdsBack window time kind with
  | true => exact hspaced
  | false =>
    have hsame : ((v.touch window time kind).deliver ⟨file, kind, time⟩).deliveries =
        v.deliveries ++ [⟨file, kind, time⟩] := by
      unfold FileView.deliver FileView.touch
      cases kind with
      | changed => simp only [hwindow, if_false]
      | removed => rfl
      | error => rfl
    rw [if_neg Bool.false_ne_true, hsame, isSpaced_append_singleton]
    refine ⟨hspaced, fun hkind latest hlatest => Nat.le_of_not_lt fun hlt => ?_⟩
    -- otherwise the window that the latest change has opened would be open
    have hopen : v.isOpen window time = true := by
      refine isOpen_eq_true_iff.mpr ⟨latest + window, ?_, hlt⟩
      exact closing?_eq_some_iff.mpr ⟨latest, h.trans hlatest, rfl⟩
    rw [holdsBack_eq_true_iff.mpr ⟨hkind, hwindow, hopen⟩] at hheld
    cases hheld

/-- `FileView.close` at the end of the window keeps the deliveries spaced. -/
theorem IsFaithful.isSpaced_close (h : v.IsFaithful) (hspaced : IsSpaced window v.deliveries)
    (hclosing : v.isOutstanding = true → v.closing? window = some time) (file : String) :
    IsSpaced window (v.close file time).deliveries := by
  cases hout : v.isOutstanding with
  | false =>
    rw [close_of_not_isOutstanding hout]
    exact hspaced
  | true =>
    rw [close_of_isOutstanding hout]
    refine isSpaced_append_singleton.mpr ⟨hspaced, fun _ latest hlatest => ?_⟩
    obtain ⟨opened, hopened, rfl⟩ := closing?_eq_some_iff.mp (hclosing hout)
    have hsame : some opened = some latest := hopened.symm.trans (h.trans hlatest)
    exact Nat.le_of_eq (congrArg (· + window) (Option.some.inj hsame).symm)

end FileView

namespace Watcher

variable {w w' : Watcher} {path : Sighting} {kind : ChangeKind} {timer : Timer}

/-- Every run keeps the view of a file `IsFaithful`: windows are opened by the changes that are
delivered. -/
theorem isFaithful_run (hw : w.Timely) (hwindow : 0 < w.window) (h : (w.view file).IsFaithful)
    (steps : List WatchStep) : ((w.run steps).view file).IsFaithful := by
  induction steps generalizing w with
  | nil => exact h
  | cons s steps ih =>
    refine ih (hw.step s) ?_ ?_
    · rwa [setup_step]
    · exact hw.view_step_induction h (fun v kind hv => hv.notice (Nat.ne_of_gt hwindow) _ _ _)
        (fun timer _ _ => h.close _ _) h s

/-- Every timer of a file fires when the window of the file closes. -/
def ClosesInTime (w : Watcher) (file : String) : Prop :=
  ∀ timer ∈ w.timers, timer.path = file → (w.view file).closing? w.window = some timer.deadline

/-- A step keeps the deliveries for a file spaced while its timers fire when its window closes. -/
theorem ClosesInTime.isSpaced_step (h : w.ClosesInTime file) (hw : w.Timely)
    (hwindow : 0 < w.window) (hfaithful : (w.view file).IsFaithful)
    (hspaced : IsSpaced w.window (w.view file).deliveries)
    (s : WatchStep) : IsSpaced w.window ((w.step s).2.view file).deliveries := by
  have hpositive := Nat.ne_of_gt hwindow
  have hboth : ((w.step s).2.view file).IsFaithful ∧
      IsSpaced w.window ((w.step s).2.view file).deliveries := by
    refine hw.view_step_induction (P := fun v => v.IsFaithful ∧ IsSpaced w.window v.deliveries)
      ⟨hfaithful, hspaced⟩ ?_ ?_ ⟨hfaithful, hspaced⟩ s
    · rintro v kind ⟨hv, hvspaced⟩
      exact ⟨hv.notice hpositive _ _ _, hv.isSpaced_notice hpositive hvspaced _ _ _⟩
    · intro timer htimer hpath
      exact ⟨hfaithful.close _ _,
        hfaithful.isSpaced_close hspaced (fun _ => h timer htimer hpath) _⟩
  exact hboth.2

/-! ## Timers that are left -/

/-- Every timer that is left is that of an outstanding delivery. -/
def HasOnlyLive (w : Watcher) : Prop :=
  ∀ timer ∈ w.timers, w.trailing.lookup timer.path = some timer.id

/-- Where every timer is that of an outstanding delivery, the timers fire when windows close. -/
theorem HasOnlyLive.closesInTime (h : w.HasOnlyLive) (hw : w.Coherent) (ha : w.IsAligned)
    (file : String) : w.ClosesInTime file := by
  rintro timer htimer rfl
  have hlive := h timer htimer
  have hout : (w.view timer.path).isOutstanding = true := Option.isSome_of_eq_some hlive
  obtain ⟨own, hown, hpath, hclosing⟩ := ha timer.path hout
  have hlive' := h own hown
  rw [hpath, hlive] at hlive'
  rw [hclosing, hw.eq_of_id_eq htimer hown (Option.some.inj hlive')]

/-- `KeepsWindows w w'` keeps `HasOnlyLive`. -/
theorem KeepsWindows.hasOnlyLive (hkeeps : KeepsWindows w w') (h : w.HasOnlyLive) :
    w'.HasOnlyLive := by
  intro timer htimer
  rw [hkeeps.timers_eq] at htimer
  rw [hkeeps.trailing_eq]
  exact h timer htimer

/-- `cancelTimer id` takes the timer away, if the watcher `CancelsInTime`. -/
theorem cancelTimer_of_cancelsInTime (hc : w.CancelsInTime) (id : Nat) :
    w.cancelTimer id = { w with timers := w.timers.filter (·.id ≠ id) } := by
  unfold cancelTimer
  rw [hc.lateTimers_eq, hc.isLate_eq]
  rfl

/-- `dropTrailing` keeps `HasOnlyLive`: the timer of the delivery goes with it. -/
theorem HasOnlyLive.dropTrailing (h : w.HasOnlyLive) (hc : w.CancelsInTime) (path : String) :
    (w.dropTrailing path).HasOnlyLive := by
  unfold Watcher.dropTrailing
  split
  · next id hid =>
    have hcancels : ({ w with trailing := w.trailing.filter (·.1 ≠ path) } :
      Watcher).CancelsInTime :=
      ⟨hc.lateTimers_eq, hc.isLate_eq⟩
    rw [cancelTimer_of_cancelsInTime hcancels]
    intro timer htimer
    obtain ⟨hmem, hne⟩ := List.mem_filter.mp htimer
    have hlive := h timer hmem
    -- the only live timer of the file is the one that has been cancelled
    have hother : timer.path ≠ path := by
      intro heq
      rw [heq, hid] at hlive
      simp [Option.some.inj hlive] at hne
    show (w.trailing.filter (·.1 ≠ path)).lookup timer.path = some timer.id
    rw [lookup_filter_ne hother]
    exact hlive
  · exact h

/-- `touch` keeps `HasOnlyLive`. -/
theorem HasOnlyLive.touch (h : w.HasOnlyLive) (hc : w.CancelsInTime) (path : String)
    (kind : ChangeKind) : (w.touch path kind).HasOnlyLive := by
  cases kind with
  | changed =>
    unfold Watcher.touch
    simp only
    split <;> exact h
  | removed => exact h.dropTrailing hc path
  | error => exact h

/-- `postpone` keeps `HasOnlyLive`: the new timer is that of the new outstanding delivery. -/
theorem HasOnlyLive.postpone (h : w.HasOnlyLive) (path : String) (deadline : Nat) :
    (w.postpone path deadline).HasOnlyLive := by
  unfold Watcher.postpone
  split
  · exact h
  · next hnone =>
    intro timer htimer
    show (w.trailing ++ [(path, w.timerCount)]).lookup timer.path = some timer.id
    rw [List.lookup_append]
    rcases List.mem_append.mp htimer with hold | hnew
    · rw [h timer hold, Option.some_or]
    · obtain rfl := List.mem_singleton.mp hnew
      rw [Option.not_isSome_iff_eq_none.mp hnone, Option.none_or, List.lookup_cons,
        beq_self_eq_true]

/-- `notify` keeps `HasOnlyLive`. -/
theorem HasOnlyLive.notify (h : w.HasOnlyLive) (hc : w.CancelsInTime) (path : Sighting)
    (kind : ChangeKind) : (w.notify path kind).2.HasOnlyLive := by
  cases hmatch : w.match? path with
  | none =>
    rw [notify_of_match?_eq_none hmatch]
    exact h
  | some file =>
    cases hheld : (w.view file).holdsBack w.window w.clock kind with
    | true =>
      obtain ⟨-, closing, -, -, hnotify⟩ := notify_of_holdsBack hmatch hheld
      rw [hnotify]
      exact h.postpone file closing
    | false =>
      rw [notify_of_not_holdsBack hmatch hheld, deliver_snd]
      exact h.touch hc file kind

/-- `notifyAll` keeps `HasOnlyLive`. -/
theorem HasOnlyLive.notifyAll (h : w.HasOnlyLive) (hc : w.CancelsInTime)
    (changes : List (Sighting × ChangeKind)) : (w.notifyAll changes).2.HasOnlyLive :=
  notifyAll_induction h
    (fun _ path kind htells hv => hv.notify (htells.setup_eq ▸ hc) path kind) changes

/-- `fire` keeps `HasOnlyLive`: the timer goes with its outstanding delivery, and no other timer of
the file is left. -/
theorem HasOnlyLive.fire (h : w.HasOnlyLive) (hw : w.Coherent) (htimer : timer ∈ w.timers) :
    (w.fire timer).HasOnlyLive := by
  intro other hother
  rw [fire_timers] at hother
  obtain ⟨hdiffers, hmem⟩ := hw.nodup_timers.mem_erase_iff.mp hother
  have hlive := h timer htimer
  have hlive' := h other hmem
  -- two live timers of one file would have the same number
  have hne : other.path ≠ timer.path := by
    intro heq
    rw [heq, hlive] at hlive'
    exact hdiffers (hw.eq_of_id_eq hmem htimer (Option.some.inj hlive').symm)
  rw [(keepsWindows_fire hlive).trailing_eq]
  show (w.trailing.filter (·.1 ≠ timer.path)).lookup other.path = some other.id
  rw [lookup_filter_ne hne]
  exact hlive'

/-- Timers that fire one after the other keep `HasOnlyLive`. -/
theorem HasOnlyLive.foldl_fire {timers : List Timer} (h : w.HasOnlyLive) (hw : w.Coherent)
    (hnodup : timers.Nodup) (hsub : timers ⊆ w.timers) :
    (timers.foldl Watcher.fire w).HasOnlyLive := by
  induction timers generalizing w with
  | nil => exact h
  | cons timer timers ih =>
    obtain ⟨hnot, hrest⟩ := List.nodup_cons.mp hnodup
    refine ih (h.fire hw (hsub List.mem_cons_self)) (hw.fire timer) hrest fun other hother => ?_
    have hdiffers : other ≠ timer := by
      rintro rfl
      exact hnot hother
    rw [fire_timers]
    exact (List.mem_erase_of_ne hdiffers).mpr (hsub (List.mem_cons_of_mem _ hother))

/-- `advance` keeps `HasOnlyLive`. -/
theorem HasOnlyLive.advance (h : w.HasOnlyLive) (hw : w.Coherent) (amount : Nat) :
    (w.advance amount).HasOnlyLive := by
  refine h.foldl_fire hw ?_ fun timer htimer => (mem_due.mp htimer).1
  unfold due
  rw [List.Perm.nodup_iff (List.mergeSort_perm _ _)]
  exact hw.nodup_timers.filter _

/-- Timers that are cancelled one after the other are gone, if the watcher `CancelsInTime`. -/
theorem mem_timers_foldl_cancelTimer (hc : w.CancelsInTime) (ps : List (String × Nat))
    (h : timer ∈ (ps.foldl (fun v p => v.cancelTimer p.2) w).timers) :
    timer ∈ w.timers ∧ ∀ p ∈ ps, timer.id ≠ p.2 := by
  induction ps generalizing w with
  | nil => exact ⟨h, fun p hp => absurd hp List.not_mem_nil⟩
  | cons p ps ih =>
    rw [List.foldl_cons, cancelTimer_of_cancelsInTime hc] at h
    have hcancels : ({ w with timers := w.timers.filter (·.id ≠ p.2) } : Watcher).CancelsInTime :=
      ⟨hc.lateTimers_eq, hc.isLate_eq⟩
    obtain ⟨hmem, hrest⟩ := ih hcancels h
    obtain ⟨hmem, hne⟩ := List.mem_filter.mp hmem
    refine ⟨hmem, fun q hq => ?_⟩
    rcases List.mem_cons.mp hq with rfl | hq
    · simpa using hne
    · exact hrest q hq

/-- `stop` keeps `HasOnlyLive`, with no timer left. -/
theorem HasOnlyLive.stop (h : w.HasOnlyLive) (hc : w.CancelsInTime) : w.stop.HasOnlyLive := by
  intro timer htimer
  have hdropped : timer ∈ w.dropAllTrailing.timers := by
    unfold Watcher.stop at htimer
    simp only at htimer
    split at htimer <;> exact htimer
  have hcancels : ({ w with trailing := [] } : Watcher).CancelsInTime :=
    ⟨hc.lateTimers_eq, hc.isLate_eq⟩
  obtain ⟨hmem, hne⟩ := mem_timers_foldl_cancelTimer hcancels w.trailing hdropped
  obtain ⟨front, back, htrailing, -⟩ := List.lookup_eq_some_iff.mp (h timer hmem)
  exact absurd rfl (hne (timer.path, timer.id)
    (htrailing ▸ List.mem_append_right _ List.mem_cons_self))

/-- Every step keeps `HasOnlyLive`. -/
theorem HasOnlyLive.step (h : w.HasOnlyLive) (hc : w.CancelsInTime) (hw : w.Timely)
    (s : WatchStep) :
    (w.step s).2.HasOnlyLive := by
  cases s with
  | dispatch e => exact (keepsWindows_dispatch w e).hasOnlyLive (h.notifyAll hc e.changes)
  | notify path kind => exact step_notify_snd w path kind ▸ h.notify hc path kind
  | advance amount => exact h.advance hw.toCoherent amount
  | report f => exact (keepsWindows_report w f).hasOnlyLive h
  | start fresh => exact (keepsWindows_start w fresh).hasOnlyLive h
  | stop => exact h.stop hc
  | check => exact (keepsWindows_check w).hasOnlyLive h
  | killEmitter index => exact h
  | killObserver => exact h

/-! ## Spaced runs -/

/-- What holds of a watcher at any time if timers are cancelled in time. -/
structure Punctual (w : Watcher) : Prop where
  /-- Timers and windows belong together. -/
  timely : w.Timely
  /-- Outstanding deliveries are made when windows close. -/
  isAligned : w.IsAligned
  /-- No timer is left without a delivery. -/
  hasOnlyLive : w.HasOnlyLive

/-- Every step keeps `Punctual`, if timers are cancelled in time. -/
theorem Punctual.step (h : w.Punctual) (hc : w.CancelsInTime) (s : WatchStep) :
    (w.step s).2.Punctual where
  timely := h.timely.step s
  isAligned := h.isAligned.step h.timely s
  hasOnlyLive := h.hasOnlyLive.step hc h.timely s

/-- A new watcher is `Punctual`: it has no timers. -/
theorem punctual_of_new (setup : WatchSetup) (observer : Observer) :
    ({ toWatchSetup := setup, observer } : Watcher).Punctual where
  timely := timely_of_new setup observer
  isAligned := isAligned_of_new setup observer
  hasOnlyLive _ htimer := absurd htimer List.not_mem_nil

/-- The timers of a `Punctual` watcher fire when windows close. -/
theorem Punctual.closesInTime (h : w.Punctual) (file : String) : w.ClosesInTime file :=
  h.hasOnlyLive.closesInTime h.timely.toCoherent h.isAligned file

/-- A run of a `Punctual` watcher keeps the deliveries for a file spaced, if timers are cancelled in
time. -/
theorem Punctual.isSpaced_run (h : w.Punctual) (hc : w.CancelsInTime) (hwindow : 0 < w.window)
    (hfaithful : (w.view file).IsFaithful) (hspaced : IsSpaced w.window (w.view file).deliveries)
    (steps : List WatchStep) : IsSpaced w.window ((w.run steps).view file).deliveries := by
  induction steps generalizing w with
  | nil => exact hspaced
  | cons s steps ih =>
    have hsetup := setup_step w s
    have hnext := (h.closesInTime file).isSpaced_step h.timely hwindow hfaithful hspaced s
    have hfaithful' := isFaithful_run h.timely hwindow hfaithful [s]
    have hlength : (w.step s).2.window = w.window := congrArg WatchSetup.window hsetup
    have hrest := ih (h.step hc s) (hsetup ▸ hc) (hlength ▸ hwindow) hfaithful' (hlength ▸ hnext)
    rwa [hlength] at hrest

/-- `((new.run steps).view file).deliveries` are the deliveries for `file` in the trace. -/
theorem deliveries_view_run (setup : WatchSetup) (observer : Observer) (steps : List WatchStep)
    (file : String) :
    let new : Watcher := { toWatchSetup := setup, observer }
    ((new.run steps).view file).deliveries =
      ((new.trace steps).filterMap Occurrence.delivery?).filter (·.path = file) := by
  intro new
  have hall : (new.trace steps).filterMap Occurrence.delivery? = (new.run steps).deliveries :=
    append_delivery?_trace new steps
  rw [hall]
  rfl

/-- When timers are cancelled in time, two changes of a file that are delivered one after the other
are at least one window apart, unless the file is removed in between; whatever the client raises,
and however often watching is ended and started again. -/
theorem window_le_of_consecutive_changes (setup : WatchSetup) (observer : Observer)
    (hwindow : 0 < setup.window) (hcancels : setup.CancelsInTime) (steps : List WatchStep)
    (before between after : List Occurrence) (d d' : Delivery)
    (htrace : ({ toWatchSetup := setup, observer } : Watcher).trace steps =
      before ++ .delivered d :: (between ++ .delivered d' :: after))
    (hkind : d.kind = .changed) (hkind' : d'.kind = .changed) (hpath : d'.path = d.path)
    (hconsecutive : ∀ x, .delivered x ∈ between → x.path = d.path → x.kind ≠ .changed)
    (hkept : .noticed d.path .removed ∉ between) : d.time + setup.window ≤ d'.time := by
  have hwarranted := allWarranted_trace setup observer steps
  rw [htrace] at hwarranted
  -- the spacing is kept in the view of the one file, where only its deliveries are
  have hspaced : IsSpaced setup.window
      ((({ toWatchSetup := setup, observer } : Watcher).run steps).view d.path).deliveries :=
    (punctual_of_new setup observer).isSpaced_run hcancels hwindow rfl (isSpaced_nil _) steps
  rw [deliveries_view_run, htrace] at hspaced
  simp only [List.filterMap_append, List.filterMap_cons, Occurrence.delivery?, List.filter_append,
    List.filter_cons, hpath, decide_true, if_true] at hspaced
  refine hspaced _ _ _ d d' rfl hkind hkind' fun x hx => ?_
  obtain ⟨hmem, hfile⟩ := List.mem_filter.mp hx
  obtain ⟨o, ho, hdelivery⟩ := List.mem_filterMap.mp hmem
  obtain rfl := Occurrence.delivery?_eq_some_iff.mp hdelivery
  have hsame : x.path = d.path := by simpa using hfile
  -- a removal delivered in between was noticed there, against `hkept`
  cases hxkind : x.kind with
  | changed => exact absurd hxkind (hconsecutive x ho hsame)
  | removed => exact absurd (hsame ▸ hwarranted.mem_of_removed ho hxkind) hkept
  | error => rfl

/-- Changes at the times 0, 1 and 12 with a window of 10: the second one is held back until 10, and
so is the third one until 20, although watching has been ended and started again before. -/
theorem window_le_of_consecutive_changes_restarted :
    let setup : WatchSetup := { paths := ["/a.scss"], window := 10 }
    let steps : List WatchStep :=
      [.notify { path := "/a.scss" } .changed, .advance 1, .notify { path := "/a.scss" } .changed,
        .advance 10, .stop, .start none, .advance 1,
        .notify { path := "/a.scss" } .changed, .advance 8]
    let before : List Occurrence :=
      [.noticed "/a.scss" .changed, .delivered ⟨"/a.scss", .changed, 0⟩,
        .noticed "/a.scss" .changed]
    let between : List Occurrence := [.stopped, .noticed "/a.scss" .changed]
    0 < setup.window ∧ setup.CancelsInTime ∧
      ({ toWatchSetup := setup } : Watcher).trace steps =
        before ++ .delivered ⟨"/a.scss", .changed, 10⟩ ::
          (between ++ .delivered ⟨"/a.scss", .changed, 20⟩ :: []) ∧
      10 + setup.window ≤ 20 := by
  intro setup steps before between
  have hcancels : setup.CancelsInTime := ⟨rfl, fun _ => rfl⟩
  have htrace : ({ toWatchSetup := setup } : Watcher).trace steps =
      before ++ .delivered ⟨"/a.scss", .changed, 10⟩ ::
        (between ++ .delivered ⟨"/a.scss", .changed, 20⟩ :: []) := by
    decide +kernel
  refine ⟨by decide, hcancels, htrace, ?_⟩
  exact window_le_of_consecutive_changes setup {} (by decide) hcancels steps before between []
    ⟨"/a.scss", .changed, 10⟩ ⟨"/a.scss", .changed, 20⟩ htrace rfl rfl rfl (by simp [between])
    (by simp [between])

end Watcher

end Restyle
