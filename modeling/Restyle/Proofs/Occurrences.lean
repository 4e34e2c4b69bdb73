import Mathlib
import Restyle.Proofs.Coalescing
import Restyle.Proofs.FileViews

/-! # Occurrences
What happens in a run, in order: what is noticed of watched files, what is delivered, and when
watching ends (`trace`). Nothing is delivered without a reason (`IsWarranted`). In particular a
change of a file is delivered only if it has been noticed after the last delivery for the file and
after the last stop (`exists_notice_of_delivered`): a delivery is outstanding only as long as such a
change waits for it, so that a timer that fires although it has been cancelled finds nothing to
deliver, or a change that has been noticed in the meantime. -/

namespace Restyle

/-- Something that happens in a run of a watcher. -/
inductive Occurrence where
  /-- It is noticed that something has happened to a watched file. -/
  | noticed (file : String) (kind : ChangeKind)
  /-- The client is told. -/
  | delivered (d : Delivery)
  /-- Watching ends. -/
  | stopped
  deriving DecidableEq, Repr

namespace Occurrence

/-- The delivery, if it is one. -/
def delivery? : Occurrence → Option Delivery
  | .delivered d => some d
  | _ => none

/-- `o.delivery? = some d ↔ o = .delivered d`. -/
theorem delivery?_eq_some_iff {o : Occurrence} {d : Delivery} :
    o.delivery? = some d ↔ o = .delivered d := by
  cases o <;> simp [delivery?]

/-- Whether a change of the file that was noticed before does not wait for its delivery any more:
the file has been told of or removed, or watching has ended. -/
def Settles (file : String) : Occurrence → Prop
  | .noticed other kind => other = file ∧ kind = .removed
  | .delivered d => d.path = file ∧ d.kind ≠ .error
  | .stopped => True

end Occurrence

variable {past new : List Occurrence} {file : String} {d : Delivery}

/-- A change of the file has been noticed, and waits for its delivery. -/
def IsPending (past : List Occurrence) (file : String) : Prop :=
  ∃ earlier since : List Occurrence,
    past = earlier ++ .noticed file .changed :: since ∧ ∀ o ∈ since, ¬o.Settles file

/-- A change that has just been noticed is pending. -/
theorem isPending_noticed (past : List Occurrence) (file : String) :
    IsPending (past ++ [.noticed file .changed]) file :=
  ⟨past, [], rfl, fun _ ho => absurd ho List.not_mem_nil⟩

/-- What is pending stays so until something `Settles` it. -/
theorem IsPending.append (h : IsPending past file) (hnew : ∀ o ∈ new, ¬o.Settles file) :
    IsPending (past ++ new) file := by
  obtain ⟨earlier, since, rfl, hsince⟩ := h
  refine ⟨earlier, since ++ new, by rw [List.append_assoc, List.cons_append], fun o ho => ?_⟩
  exact (List.mem_append.mp ho).elim (hsince o) (hnew o)

/-- There is a reason for a delivery: for a change one that waits for it, for anything else that it
has been noticed just now. -/
def IsWarranted (past : List Occurrence) (d : Delivery) : Prop :=
  match d.kind with
  | .changed => IsPending past d.path
  | kind => past.getLast? = some (.noticed d.path kind)

/-- A delivery of what has just been noticed is warranted. -/
theorem isWarranted_noticed (past : List Occurrence) (d : Delivery) :
    IsWarranted (past ++ [.noticed d.path d.kind]) d := by
  unfold IsWarranted
  split
  · next hkind =>
    rw [hkind]
    exact isPending_noticed past d.path
  · next kind _ => exact List.getLast?_concat

/-- After what is past, there is a reason for every delivery. -/
def AllWarranted (past : List Occurrence) : List Occurrence → Prop
  | [] => True
  | o :: rest => (∀ d, o = .delivered d → IsWarranted past d) ∧ AllWarranted (past ++ [o]) rest

/-- `AllWarranted` goes through `++`. -/
theorem allWarranted_append {rest : List Occurrence} :
    AllWarranted past (new ++ rest) ↔ AllWarranted past new ∧ AllWarranted (past ++ new) rest := by
  induction new generalizing past with
  | nil => simp [AllWarranted]
  | cons o new ih =>
    have hshift : past ++ [o] ++ new = past ++ o :: new := by simp
    rw [List.cons_append, AllWarranted, AllWarranted, ih, hshift, and_assoc]

/-- Each delivery of a trace with `AllWarranted` is warranted by what stands in front of it. -/
theorem AllWarranted.isWarranted {before after : List Occurrence}
    (h : AllWarranted past (before ++ .delivered d :: after)) : IsWarranted (past ++ before) d :=
  (allWarranted_append.mp h).2.1 d rfl

/-- The delivery of a removal stands behind its `.noticed`, also in the part of a trace that starts
with another delivery. -/
theorem AllWarranted.mem_of_removed {before between after : List Occurrence} {x : Delivery}
    (h : AllWarranted past (before ++ .delivered d :: (between ++ after)))
    (hx : .delivered x ∈ between) (hkind : x.kind = .removed) :
    .noticed x.path .removed ∈ between := by
  obtain ⟨front, back, rfl⟩ := List.append_of_mem hx
  have hsplit : before ++ .delivered d :: (front ++ .delivered x :: back ++ after) =
      (before ++ .delivered d :: front) ++ .delivered x :: (back ++ after) := by simp
  rw [hsplit] at h
  have hlast := h.isWarranted
  unfold IsWarranted at hlast
  rw [hkind] at hlast
  rcases List.eq_nil_or_concat' front with rfl | ⟨front, o, rfl⟩
  · simp at hlast
  · have hend : past ++ (before ++ .delivered d :: (front ++ [o])) =
        (past ++ (before ++ .delivered d :: front)) ++ [o] := by simp
    rw [hend, List.getLast?_concat] at hlast
    simp [Option.some.inj hlast]

namespace Watcher

variable {w w' w'' : Watcher} {path : Sighting} {kind : ChangeKind} {timer : Timer}

/-! ## The trace of a run -/

/-- The deliveries that have been made from `w` to `w'`. -/
def deliveredSince (w w' : Watcher) : List Occurrence :=
  (w'.deliveries.drop w.deliveries.length).map .delivered

/-- What happens when something that has happened to a path is noticed. -/
def noticing (w : Watcher) (path : Sighting) (kind : ChangeKind) : List Occurrence :=
  (w.match? path).toList.map (.noticed · kind) ++ w.deliveredSince (w.notify path kind).2

/-- What happens when several things are noticed, until the client raises an error. -/
def noticingAll (w : Watcher) : List (Sighting × ChangeKind) → List Occurrence
  | [] => []
  | (path, kind) :: rest =>
    w.noticing path kind ++
      match w.notify path kind with
      | (.ok (), w) => w.noticingAll rest
      | (.error _, _) => []

/-- What happens in one step, in order. -/
def occurrences (w : Watcher) : WatchStep → List Occurrence
  | .notify path kind => w.noticing path kind
  | .dispatch e => w.noticingAll e.changes
  | .advance amount => w.deliveredSince (w.advance amount)
  | .stop => [.stopped]
  | _ => []

/-- What happens in a run, in order. -/
def trace (w : Watcher) : List WatchStep → List Occurrence
  | [] => []
  | s :: steps => w.occurrences s ++ (w.step s).2.trace steps

/-- `noticingAll` goes on behind a notification that is answered `.ok ()`. -/
theorem noticingAll_cons_of_ok (h : (w.notify path kind).1 = .ok ())
    (rest : List (Sighting × ChangeKind)) :
    w.noticingAll ((path, kind) :: rest) =
      w.noticing path kind ++ (w.notify path kind).2.noticingAll rest := by
  rw [noticingAll]
  split
  · next v hnotify => rw [hnotify]
  · next message v hnotify =>
    rw [hnotify] at h
    cases h

/-- `noticingAll` ends with a notification for which the client raises. -/
theorem noticingAll_cons_of_error {message : String} (h : (w.notify path kind).1 = .error message)
    (rest : List (Sighting × ChangeKind)) :
    w.noticingAll ((path, kind) :: rest) = w.noticing path kind := by
  rw [noticingAll]
  split
  · next v hnotify =>
    rw [hnotify] at h
    cases h
  · exact List.append_nil _

/-- `w.deliveredSince w'` are the deliveries `ds` by which `w'` has more. -/
theorem deliveredSince_of_eq {ds : List Delivery} (h : w'.deliveries = w.deliveries ++ ds) :
    w.deliveredSince w' = ds.map .delivered := by
  rw [deliveredSince, h, List.drop_left]

/-- `deliveredSince` goes through an intermediate watcher. -/
theorem deliveredSince_trans (h : w.deliveries <+: w'.deliveries)
    (h' : w'.deliveries <+: w''.deliveries) :
    w.deliveredSince w'' = w.deliveredSince w' ++ w'.deliveredSince w'' := by
  obtain ⟨ds, hds⟩ := h
  obtain ⟨ds', hds'⟩ := h'
  have hboth : w''.deliveries = w.deliveries ++ (ds ++ ds') := by
    rw [← List.append_assoc, hds, hds']
  rw [deliveredSince_of_eq hboth, deliveredSince_of_eq hds.symm, deliveredSince_of_eq hds'.symm,
    List.map_append]

/-- `w.noticing path kind = []` when `path` means no watched file. -/
theorem noticing_of_match?_eq_none (hmatch : w.match? path = none) : w.noticing path kind = [] := by
  have hdelivered : (w.notify path kind).2.deliveries = w.deliveries ++ [] := by
    rw [notify_of_match?_eq_none hmatch, List.append_nil]
  rw [noticing, deliveredSince_of_eq hdelivered, hmatch]
  rfl

/-- `w.noticing path kind = [.noticed file kind]` when `holdsBack`. -/
theorem noticing_of_holdsBack (hmatch : w.match? path = some file)
    (hheld : (w.view file).holdsBack w.window w.clock kind = true) :
    w.noticing path kind = [.noticed file kind] := by
  obtain ⟨-, closing, -, -, hnotify⟩ := notify_of_holdsBack hmatch hheld
  have hdelivered : (w.notify path kind).2.deliveries = w.deliveries ++ [] := by
    rw [hnotify, List.append_nil]
    unfold postpone
    split <;> rfl
  rw [noticing, deliveredSince_of_eq hdelivered, hmatch]
  rfl

/-- `w.noticing path kind` is `.noticed file kind` and its delivery at `w.clock`, unless
`holdsBack`. -/
theorem noticing_of_not_holdsBack (hmatch : w.match? path = some file)
    (hheld : (w.view file).holdsBack w.window w.clock kind = false) :
    w.noticing path kind = [.noticed file kind, .delivered ⟨file, kind, w.clock⟩] := by
  have hdelivered : (w.notify path kind).2.deliveries =
      w.deliveries ++ [⟨file, kind, w.clock⟩] := by
    rw [notify_of_not_holdsBack hmatch hheld, deliver_snd, touch_clock, touch_deliveries]
  rw [noticing, deliveredSince_of_eq hdelivered, hmatch]
  rfl

/-- `fire timer` adds a delivery at `max w.clock timer.deadline` if one is outstanding, and none
otherwise. -/
theorem deliveries_fire (w : Watcher) (timer : Timer) :
    (w.fire timer).deliveries = w.deliveries ++
      if (w.view timer.path).isOutstanding then
        [⟨timer.path, .changed, max w.clock timer.deadline⟩]
      else [] := by
  unfold view
  cases hlookup : w.trailing.lookup timer.path with
  | none => simp [fire_eq_of_eq_none hlookup]
  | some id => simp [(keepsWindows_fire hlookup).deliveries_eq]

/-- Timers that fire add to the deliveries at most. -/
theorem prefix_foldl_fire (timers : List Timer) (w : Watcher) :
    w.deliveries <+: (timers.foldl fire w).deliveries := by
  induction timers generalizing w with
  | nil => exact List.prefix_refl _
  | cons timer timers ih => exact (prefix_fire w timer).trans (ih _)

/-! ## What is delivered stands in the trace -/

/-- The deliveries of `w` and those in `w.deliveredSince w'` are those of `w'`. -/
theorem append_delivery?_deliveredSince (h : w.deliveries <+: w'.deliveries) :
    w.deliveries ++ (w.deliveredSince w').filterMap Occurrence.delivery? = w'.deliveries := by
  obtain ⟨ds, hds⟩ := h
  have hall : Occurrence.delivery? ∘ .delivered = (some : Delivery → Option Delivery) := rfl
  rw [deliveredSince_of_eq hds.symm, List.filterMap_map, hall, List.filterMap_some, hds]

/-- The deliveries of `w` and those in `w.noticing path kind` are those after `notify`. -/
theorem append_delivery?_noticing (w : Watcher) (path : Sighting) (kind : ChangeKind) :
    w.deliveries ++ (w.noticing path kind).filterMap Occurrence.delivery? =
      (w.notify path kind).2.deliveries := by
  have hnone : ((w.match? path).toList.map (.noticed · kind)).filterMap Occurrence.delivery? =
      [] := by
    cases w.match? path <;> rfl
  rw [noticing, List.filterMap_append, hnone, List.nil_append]
  exact append_delivery?_deliveredSince (tellsOnly_notify w path kind).prefix_deliveries

/-- The deliveries of `w` and those in `w.noticingAll changes` are those after `notifyAll`. -/
theorem append_delivery?_noticingAll (w : Watcher) (changes : List (Sighting × ChangeKind)) :
    w.deliveries ++ (w.noticingAll changes).filterMap Occurrence.delivery? =
      (w.notifyAll changes).2.deliveries := by
  induction changes generalizing w with
  | nil => exact List.append_nil _
  | cons change changes ih =>
    obtain ⟨path, kind⟩ := change
    cases hraised : (w.notify path kind).1 with
    | ok =>
      rw [noticingAll_cons_of_ok hraised, notifyAll_cons_of_ok hraised, List.filterMap_append,
        ← List.append_assoc, append_delivery?_noticing, ih]
    | error message =>
      rw [noticingAll_cons_of_error hraised, notifyAll_cons_of_error hraised,
        append_delivery?_noticing]

/-- The deliveries of `w` and those in `w.occurrences s` are those after the step. -/
theorem append_delivery?_occurrences (w : Watcher) (s : WatchStep) :
    w.deliveries ++ (w.occurrences s).filterMap Occurrence.delivery? = (w.step s).2.deliveries := by
  have hkept : ∀ {v : Watcher}, KeepsWindows w v → w.deliveries ++ [] = v.deliveries := by
    intro v hkeeps
    rw [List.append_nil, hkeeps.deliveries_eq]
  cases s with
  | dispatch e =>
    show _ = (w.dispatch e).deliveries
    rw [(keepsWindows_dispatch w e).deliveries_eq]
    exact append_delivery?_noticingAll w e.changes
  | notify path kind =>
    rw [step_notify_snd]
    exact append_delivery?_noticing w path kind
  | advance amount => exact append_delivery?_deliveredSince (prefix_foldl_fire _ w)
  | report f => exact hkept (keepsWindows_report w f)
  | start fresh => exact hkept (keepsWindows_start w fresh)
  | stop =>
    obtain ⟨timers, hkeeps, -⟩ := stop_eq w
    exact (List.append_nil _).trans hkeeps.deliveries_eq.symm
  | check => exact hkept (keepsWindows_check w)
  | killEmitter index => exact List.append_nil _
  | killObserver => exact List.append_nil _

/-- The deliveries of `w` and those in `w.trace steps` are those after the run. -/
theorem append_delivery?_trace (w : Watcher) (steps : List WatchStep) :
    w.deliveries ++ (w.trace steps).filterMap Occurrence.delivery? = (w.run steps).deliveries := by
  induction steps generalizing w with
  | nil => exact List.append_nil _
  | cons s steps ih =>
    rw [trace, List.filterMap_append, ← List.append_assoc, append_delivery?_occurrences, ih]
    rfl

/-! ## Reasons -/

/-- Every outstanding delivery is that of a change that waits for it. -/
def Owes (w : Watcher) (past : List Occurrence) : Prop :=
  ∀ file, (w.view file).isOutstanding = true → IsPending past file

/-- What happens from `w` to `w'` has its reasons, and so has what is outstanding then. -/
def IsJust (w : Watcher) (new : List Occurrence) (w' : Watcher) : Prop :=
  ∀ past, w.Owes past → AllWarranted past new ∧ w'.Owes (past ++ new)

/-- Nothing happens justly when `isOutstanding` stays as it is in every view. -/
theorem IsJust.of_view_eq (h : ∀ file, (w'.view file).isOutstanding = (w.view file).isOutstanding) :
    IsJust w [] w' := by
  intro past howes
  refine ⟨trivial, fun file hout => ?_⟩
  rw [List.append_nil]
  exact howes file ((h file).symm.trans hout)

/-- Nothing happens justly when `KeepsWindows w w'`. -/
theorem KeepsWindows.isJust (h : KeepsWindows w w') : IsJust w [] w' :=
  .of_view_eq fun file => by rw [h.view_eq]

/-- `IsJust` goes through `++` of the occurrences. -/
theorem IsJust.trans {rest : List Occurrence} (h : IsJust w new w') (h' : IsJust w' rest w'') :
    IsJust w (new ++ rest) w'' := by
  intro past howes
  obtain ⟨hnew, howes'⟩ := h past howes
  obtain ⟨hrest, howes''⟩ := h' (past ++ new) howes'
  refine ⟨allWarranted_append.mpr ⟨hnew, hrest⟩, ?_⟩
  rwa [← List.append_assoc]

/-- What is outstanding after `notify` has delivered at once was outstanding before, for another
file unless the news was an `.error`. -/
theorem IsAligned.isOutstanding_of_notify (haligned : w.IsAligned) (hw : w.Timely)
    (hmatch : w.match? path = some file)
    (hheld : (w.view file).holdsBack w.window w.clock kind = false)
    {other : String} (hout : ((w.notify path kind).2.view other).isOutstanding = true) :
    (w.view other).isOutstanding = true ∧ (file = other → kind = .error) := by
  rw [view_notify, hmatch] at hout
  by_cases hother : file = other
  · subst hother
    rw [if_pos rfl, FileView.notice, hheld, if_neg Bool.false_ne_true] at hout
    cases kind with
    | changed =>
      -- a change is outstanding only while the window is open, when the next one is held back
      have hnone := haligned.isOutstanding_eq_false hw hheld
      rw [FileView.isOutstanding_deliver, FileView.touch] at hout
      split at hout <;> cases hnone.symm.trans hout
    | removed => cases hout
    | error => exact ⟨hout, fun _ => rfl⟩
  · rw [if_neg (by simpa using hother)] at hout
    exact ⟨hout, fun hsame => absurd hsame hother⟩

/-- `notify` is just: a change that is held back is pending, and what is delivered at once leaves
nothing outstanding. -/
theorem isJust_noticing (hw : w.Timely) (haligned : w.IsAligned) (path : Sighting)
    (kind : ChangeKind) :
    IsJust w (w.noticing path kind) (w.notify path kind).2 := by
  cases hmatch : w.match? path with
  | none =>
    rw [noticing_of_match?_eq_none hmatch, notify_of_match?_eq_none hmatch]
    exact .of_view_eq fun _ => rfl
  | some file =>
    cases hheld : (w.view file).holdsBack w.window w.clock kind with
    | true =>
      obtain ⟨rfl, -, -⟩ := FileView.holdsBack_eq_true_iff.mp hheld
      rw [noticing_of_holdsBack hmatch hheld]
      intro past howes
      refine ⟨⟨fun d hd => (nomatch hd), trivial⟩, fun other hout => ?_⟩
      -- a held-back change is pending for its own file, and settles nothing elsewhere
      by_cases hother : file = other
      · subst hother
        exact isPending_noticed past file
      · rw [view_notify, hmatch, if_neg (by simpa using hother)] at hout
        refine (howes other hout).append fun o ho => ?_
        obtain rfl := List.mem_singleton.mp ho
        exact fun hsettles => hother hsettles.1
    | false =>
      rw [noticing_of_not_holdsBack hmatch hheld]
      intro past howes
      refine ⟨⟨fun d hd => (nomatch hd), ?_, trivial⟩, fun other hout => ?_⟩
      · rintro d ⟨⟩
        exact isWarranted_noticed past ⟨file, kind, w.clock⟩
      · -- what is outstanding afterwards was so before, and its own file got an error at most
        obtain ⟨hbefore, hleft⟩ := haligned.isOutstanding_of_notify hw hmatch hheld hout
        refine (howes other hbefore).append fun o ho => ?_
        rcases List.mem_cons.mp ho with rfl | ho
        · rintro ⟨hfile, hremoved⟩
          cases (hleft hfile).symm.trans hremoved
        · obtain rfl := List.mem_singleton.mp ho
          rintro ⟨hfile, hkind⟩
          exact hkind (hleft hfile)

/-- `notifyAll` is just. -/
theorem isJust_noticingAll (hw : w.Timely) (haligned : w.IsAligned)
    (changes : List (Sighting × ChangeKind)) :
    IsJust w (w.noticingAll changes) (w.notifyAll changes).2 := by
  induction changes generalizing w with
  | nil => exact .of_view_eq fun _ => rfl
  | cons change changes ih =>
    obtain ⟨path, kind⟩ := change
    have hfirst := isJust_noticing hw haligned path kind
    cases hraised : (w.notify path kind).1 with
    | ok =>
      rw [noticingAll_cons_of_ok hraised, notifyAll_cons_of_ok hraised]
      exact hfirst.trans (ih (hw.notify path kind) (haligned.notify hw path kind))
    | error message =>
      rw [noticingAll_cons_of_error hraised, notifyAll_cons_of_error hraised]
      exact hfirst

/-- `fire` is just: it delivers a change that is pending, whether or not the timer has been
cancelled. -/
theorem isJust_fire (w : Watcher) (timer : Timer) :
    IsJust w (w.deliveredSince (w.fire timer)) (w.fire timer) := by
  rw [deliveredSince_of_eq (deliveries_fire w timer)]
  intro past howes
  -- a timer that fires too late finds nothing outstanding and delivers nothing
  cases hout : (w.view timer.path).isOutstanding with
  | false =>
    rw [if_neg Bool.false_ne_true, List.map_nil, List.append_nil]
    refine ⟨trivial, fun file hafter => howes file ?_⟩
    rw [view_fire] at hafter
    split at hafter
    · next heq =>
      subst heq
      rw [FileView.isOutstanding_close] at hafter
      cases hafter
    · exact hafter
  | true =>
    rw [if_pos rfl, List.map_singleton]
    refine ⟨⟨?_, trivial⟩, fun file hafter => ?_⟩
    · rintro d ⟨⟩
      exact howes timer.path hout
    · rw [view_fire] at hafter
      split at hafter
      · rw [FileView.isOutstanding_close] at hafter
        cases hafter
      · next hne =>
        refine (howes file hafter).append fun o ho => ?_
        obtain rfl := List.mem_singleton.mp ho
        exact fun hsettles => hne hsettles.1

/-- Timers that fire one after the other are just. -/
theorem isJust_foldl_fire (timers : List Timer) (w : Watcher) :
    IsJust w (w.deliveredSince (timers.foldl fire w)) (timers.foldl fire w) := by
  induction timers generalizing w with
  | nil =>
    rw [List.foldl_nil, deliveredSince, List.drop_length, List.map_nil]
    exact .of_view_eq fun _ => rfl
  | cons timer timers ih =>
    rw [List.foldl_cons, deliveredSince_trans (prefix_fire w timer) (prefix_foldl_fire timers _)]
    exact (isJust_fire w timer).trans (ih _)

/-- Every step is just. -/
theorem isJust_occurrences (hw : w.Timely) (haligned : w.IsAligned) (s : WatchStep) :
    IsJust w (w.occurrences s) (w.step s).2 := by
  cases s with
  | dispatch e =>
    have hall := isJust_noticingAll hw haligned e.changes
    have hend := hall.trans (keepsWindows_dispatch w e).isJust
    rwa [List.append_nil] at hend
  | notify path kind =>
    rw [step_notify_snd]
    exact isJust_noticing hw haligned path kind
  | advance amount => exact isJust_foldl_fire _ w
  | report f => exact (keepsWindows_report w f).isJust
  | start fresh => exact (keepsWindows_start w fresh).isJust
  | stop =>
    intro past _
    refine ⟨⟨fun d hd => (nomatch hd), trivial⟩, fun file hout => ?_⟩
    have hnone : (w.stop.view file).isOutstanding = false := by
      rw [view_stop]
      rfl
    cases hnone.symm.trans hout
  | check => exact (keepsWindows_check w).isJust
  | killEmitter index => exact .of_view_eq fun _ => rfl
  | killObserver => exact .of_view_eq fun _ => rfl

/-- Every run is just. -/
theorem isJust_trace (hw : w.Timely) (haligned : w.IsAligned) (steps : List WatchStep) :
    IsJust w (w.trace steps) (w.run steps) := by
  induction steps generalizing w with
  | nil => exact .of_view_eq fun _ => rfl
  | cons s steps ih =>
    exact (isJust_occurrences hw haligned s).trans (ih (hw.step s) (haligned.step hw s))

/-- `AllWarranted []` of the trace of a new watcher: there is a reason for every delivery. -/
theorem allWarranted_trace (setup : WatchSetup) (observer : Observer) (steps : List WatchStep) :
    AllWarranted [] (({ toWatchSetup := setup, observer } : Watcher).trace steps) := by
  have hjust := isJust_trace (timely_of_new setup observer) (isAligned_of_new setup observer) steps
  exact (hjust [] fun _ hout => nomatch hout).1

/-- A change of a file is delivered only after it has been noticed, and since it was noticed there
has been no other delivery of a change or a removal of the file, the file has not been removed and
watching has not ended; whether or not timers that have been cancelled fire, and whatever the client
raises. The deliveries meant are all those of the run. -/
theorem exists_notice_of_delivered (setup : WatchSetup) (observer : Observer)
    (steps : List WatchStep) :
    let new : Watcher := { toWatchSetup := setup, observer }
    (new.trace steps).filterMap Occurrence.delivery? = (new.run steps).deliveries ∧
      ∀ (before after : List Occurrence) (d : Delivery),
        new.trace steps = before ++ .delivered d :: after → d.kind = .changed →
        ∃ earlier since : List Occurrence, before = earlier ++ .noticed d.path .changed :: since ∧
          ∀ o ∈ since, ¬o.Settles d.path := by
  intro new
  refine ⟨append_delivery?_trace new steps, fun before after d htrace hkind => ?_⟩
  have hall := allWarranted_trace setup observer steps
  rw [show ({ toWatchSetup := setup, observer } : Watcher) = new from rfl, htrace] at hall
  have hwarranted := hall.isWarranted
  unfold IsWarranted at hwarranted
  rwa [List.nil_append, hkind] at hwarranted

/-- A file that is removed while a change of it waits for its delivery, and then changes twice. The
timer of the delivery that was given up fires all the same, and brings the last change. -/
theorem exists_notice_of_delivered_lateTimer :
    let new : Watcher :=
      { toWatchSetup := { paths := ["/a.scss"], window := 10, lateTimers := true } }
    let steps : List WatchStep :=
      [.notify { path := "/a.scss" } .changed, .advance 1,
        .notify { path := "/a.scss" } .changed, .advance 4, .notify { path := "/a.scss" } .removed,
        .advance 1, .notify { path := "/a.scss" } .changed,
        .notify { path := "/a.scss" } .changed, .advance 4]
    let before : List Occurrence :=
      [.noticed "/a.scss" .changed, .delivered ⟨"/a.scss", .changed, 0⟩,
        .noticed "/a.scss" .changed, .noticed "/a.scss" .removed,
        .delivered ⟨"/a.scss", .removed, 5⟩, .noticed "/a.scss" .changed,
        .delivered ⟨"/a.scss", .changed, 6⟩, .noticed "/a.scss" .changed]
    new.trace steps = before ++ [.delivered ⟨"/a.scss", .changed, 10⟩] ∧
      ∃ earlier since : List Occurrence, before = earlier ++ .noticed "/a.scss" .changed :: since ∧
        ∀ o ∈ since, ¬o.Settles "/a.scss" := by
  intro new steps before
  have htrace : new.trace steps = before ++ [.delivered ⟨"/a.scss", .changed, 10⟩] := by
    decide +kernel
  exact ⟨htrace, (exists_notice_of_delivered _ {} steps).2 before [] ⟨"/a.scss", .changed, 10⟩
    htrace rfl⟩

end Watcher

end Restyle
