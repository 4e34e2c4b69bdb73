import Mathlib
import Restyle.Proofs.FreshOnes
import Restyle.Proofs.RaisingClients

/-! # Deaths of threads
A check finds the threads of the held observer that are dead (`Watcher.found`), and reports those
whose name no thread has had that was found before: names outlive the observers. So of all the
threads that a run finds dead, the first of each name is reported (`deathReports_run`), and every
thread is reported exactly once if no two of them have one name. -/

namespace Restyle

/-- Whether a failure is the report of the death of a thread. -/
def Failure.isDeathReport : Failure → Bool
  | .watch message _ => "Watch thread for ".toList.isPrefixOf message.toList
  | _ => false

/-- A thread that has been found dead. Every start that obtains an observer makes new threads. -/
structure DeadThread where
  /-- The number of the start that obtained the observer, counted from one. -/
  start : Nat
  /-- The number of the thread among those of its observer, the main thread being the first. -/
  index : Nat
  /-- The directory that the thread watched, if it watched a single one. -/
  directory : Option String
  deriving DecidableEq, Repr

namespace DeadThread

variable {names : List String} {d : DeadThread} {ds es : List DeadThread}

/-- The name under which the death is reported. -/
def name (d : DeadThread) : String := Watcher.threadName d.directory

/-- The report of the death. -/
def report (d : DeadThread) : Failure :=
  .watch ("Watch thread for " ++ d.name ++ " stopped") d.directory

/-- `d.report` is a death report. -/
theorem isDeathReport_report (d : DeadThread) : d.report.isDeathReport = true := by
  simp [report, Failure.isDeathReport]

/-! ## The first thread of each name -/

/-- The threads whose names are not among `names`, the first one of each name. -/
def firstOfEachName (names : List String) : List DeadThread → List DeadThread
  | [] => []
  | d :: ds =>
    if d.name ∈ names then firstOfEachName names ds
    else d :: firstOfEachName (names ++ [d.name]) ds

/-- `firstOfEachName` goes through `++`: the names that have been kept are taken behind. -/
theorem firstOfEachName_append (names : List String) (ds es : List DeadThread) :
    firstOfEachName names (ds ++ es) =
      firstOfEachName names ds ++
        firstOfEachName (names ++ (firstOfEachName names ds).map name) es := by
  induction ds generalizing names with
  | nil => simp [firstOfEachName]
  | cons d ds ih =>
    rw [List.cons_append, firstOfEachName, firstOfEachName]
    split
    · exact ih names
    · rw [ih, List.cons_append, List.map_cons, List.append_assoc, List.singleton_append]

/-- The names of `firstOfEachName names ds` are `freshOnes names (ds.map name)`. -/
theorem map_name_firstOfEachName (names : List String) (ds : List DeadThread) :
    (firstOfEachName names ds).map name = freshOnes names (ds.map name) := by
  induction ds generalizing names with
  | nil => rfl
  | cons d ds ih =>
    rw [firstOfEachName, List.map_cons]
    split
    · next hd => rw [ih, freshOnes_cons_of_mem hd]
    · next hd => rw [List.map_cons, ih, freshOnes_cons_of_not_mem hd]

/-- `firstOfEachName` is `freshOnes` where names tell threads apart. -/
theorem firstOfEachName_eq_freshOnes (seen : List DeadThread)
    (h : ∀ d ∈ seen ++ ds, ∀ e ∈ seen ++ ds, d.name = e.name → d = e) :
    firstOfEachName (seen.map name) ds = freshOnes seen ds := by
  induction ds generalizing seen with
  | nil => rfl
  | cons d ds ih =>
    have hd : d.name ∈ seen.map name ↔ d ∈ seen := by
      refine ⟨fun hmem => ?_, List.mem_map_of_mem⟩
      obtain ⟨e, he, hname⟩ := List.mem_map.mp hmem
      exact h e (List.mem_append_left _ he) d (by simp) hname ▸ he
    rw [firstOfEachName]
    by_cases hmem : d ∈ seen
    · rw [if_pos (hd.mpr hmem), freshOnes_cons_of_mem hmem]
      exact ih seen fun d hd e he => h d (by grind) e (by grind)
    · rw [if_neg (mt hd.mp hmem), freshOnes_cons_of_not_mem hmem]
      have hseen : seen.map name ++ [d.name] = (seen ++ [d]).map name := by simp
      rw [hseen, ih (seen ++ [d]) fun d hd e he => h d (by grind) e (by grind)]

/-- `firstOfEachName [] ds` has one report for every thread exactly if names tell the threads of
`ds` apart. -/
theorem map_report_eq_iff :
    (firstOfEachName [] ds).map report = ds.eraseDups.map report ↔
      ∀ d ∈ ds, ∀ e ∈ ds, d.name = e.name → d = e := by
  constructor
  · intro h
    -- there are as many names as threads
    have hlength : (ds.map name).eraseDups.length = ds.eraseDups.length := by
      have hnames := congrArg List.length (map_name_firstOfEachName [] ds)
      have hreports := congrArg List.length h
      simp only [List.length_map] at hnames hreports
      rw [← hreports, hnames, freshOnes]
      simp
    have hcard : (ds.toFinset.image name).card = ds.toFinset.card := by
      have himage : ds.toFinset.image name = (ds.map name).eraseDups.toFinset := by
        ext n
        simp [List.mem_eraseDups]
      have hthreads : ds.toFinset = ds.eraseDups.toFinset := by
        ext d
        simp [List.mem_eraseDups]
      rw [himage, List.toFinset_card_of_nodup (nodup_eraseDups _), hlength, hthreads,
        List.toFinset_card_of_nodup (nodup_eraseDups _)]
    intro d hd e he hname
    exact Finset.card_image_iff.mp hcard (by simpa using hd) (by simpa using he) hname
  · intro h
    have hfirst : firstOfEachName [] ds = freshOnes [] ds :=
      firstOfEachName_eq_freshOnes [] (by simpa using h)
    rw [hfirst, freshOnes]
    simp

end DeadThread

/-! ## What checks find -/

/-- The threads that are dead among the last ones of an observer, from number `n` on. -/
def deadAmong (start n : Nat) : List (Option String × Bool) → List DeadThread
  | [] => []
  | (_, true) :: threads => deadAmong start (n + 1) threads
  | (directory, false) :: threads => ⟨start, n, directory⟩ :: deadAmong start (n + 1) threads

/-- The threads of an observer that are dead. -/
def Observer.deadThreads (o : Observer) (start : Nat) : List DeadThread :=
  deadAmong start 0 o.threads

namespace Watcher

variable {w w' : Watcher} {starts : Nat} {path : String}

/-- The number of starts that have obtained an observer, after one more step. -/
def startsAfter (w : Watcher) (starts : Nat) : WatchStep → Nat
  | .start _ => if w.isHolding then starts else starts + 1
  | _ => starts

/-- The threads that a step finds dead: those of the held observer, if the step is a check. -/
def foundAt (w : Watcher) (starts : Nat) : WatchStep → List DeadThread
  | .check => if w.isHolding then w.observer.deadThreads starts else []
  | _ => []

/-- The threads that the checks of a run find dead, in order and as often as they are found, when
`starts` starts have obtained observers before. -/
def found : Watcher → Nat → List WatchStep → List DeadThread
  | _, _, [] => []
  | w, starts, s :: steps =>
    w.foundAt starts s ++ (w.step s).2.found (w.startsAfter starts s) steps

/-- The reports of deaths among the failures that the client has been told of. -/
def deathReports (w : Watcher) : List Failure := w.errors.filter (·.isDeathReport)

/-! ## What does not concern threads -/

/-- From `w` to `w'` no death has been reported. -/
structure KeepsReports (w w' : Watcher) : Prop where
  /-- The client wants to hear of failures as before. -/
  wantsErrors_eq : w'.wantsErrors = w.wantsErrors
  /-- No name has been reported. -/
  reportedDead_eq : w'.reportedDead = w.reportedDead
  /-- The client has been told of no death. -/
  deathReports_eq : w'.deathReports = w.deathReports

/-- `KeepsReports` is reflexive. -/
theorem KeepsReports.refl (w : Watcher) : KeepsReports w w := ⟨rfl, rfl, rfl⟩

/-- `KeepsReports` is transitive. -/
theorem KeepsReports.trans {w'' : Watcher} (h : KeepsReports w w') (h' : KeepsReports w' w'') :
    KeepsReports w w'' where
  wantsErrors_eq := h'.wantsErrors_eq.trans h.wantsErrors_eq
  reportedDead_eq := h'.reportedDead_eq.trans h.reportedDead_eq
  deathReports_eq := h'.deathReports_eq.trans h.deathReports_eq

/-- `KeepsReports` passes from one act to a row of them. -/
theorem keepsReports_foldl {α : Type} {act : Watcher → α → Watcher}
    (hact : ∀ w a, KeepsReports w (act w a)) (as : List α) (w : Watcher) :
    KeepsReports w (as.foldl act w) :=
  List.foldlRecOn (motive := KeepsReports w) as act (.refl w) fun v hv a _ => hv.trans (hact v a)

/-- Reporting anything but a death is `KeepsReports`. -/
theorem keepsReports_report (w : Watcher) {f : Failure} (hf : f.isDeathReport = false) :
    KeepsReports w (w.report f) := by
  unfold report
  split
  · exact ⟨rfl, rfl, by simp [deathReports, hf]⟩
  · exact .refl w

/-- `start` is `KeepsReports`. -/
theorem keepsReports_start (w : Watcher) (fresh : Option Observer) :
    KeepsReports w (w.start fresh) := by
  unfold start
  split
  · exact .refl w
  · have hlaunch : KeepsReports w
        { w with observer := (fresh.getD w.observer).launch, isHolding := true } := ⟨rfl, rfl, rfl⟩
    refine hlaunch.trans (keepsReports_foldl ?_ _ _)
    intro w dir
    unfold scheduleDirectory
    split
    · exact keepsReports_report w (by simp [Failure.isDeathReport, List.isPrefixOf])
    · exact ⟨rfl, rfl, rfl⟩

/-- `stop` is `KeepsReports`. -/
theorem keepsReports_stop (w : Watcher) : KeepsReports w w.stop := by
  obtain ⟨timers, heq, -⟩ := dropAllTrailing_eq w
  unfold stop
  simp only
  rw [heq]
  split <;> exact ⟨rfl, rfl, rfl⟩

/-- `deliver` is `KeepsReports`. -/
theorem keepsReports_deliver (w : Watcher) (path : String) (kind : ChangeKind) :
    KeepsReports w (w.deliver path kind).2 := by
  rw [deliver_snd]
  exact ⟨rfl, rfl, rfl⟩

/-- `notify` is `KeepsReports`. -/
theorem keepsReports_notify (w : Watcher) (path : Sighting) (kind : ChangeKind) :
    KeepsReports w (w.notify path kind).2 := by
  cases hmatch : w.match? path with
  | none =>
    rw [notify_of_match?_eq_none hmatch]
    exact .refl w
  | some file =>
    cases hheld : (w.view file).holdsBack w.window w.clock kind with
    | true =>
      obtain ⟨-, closing, -, -, hnotify⟩ := notify_of_holdsBack hmatch hheld
      rw [hnotify]
      unfold postpone
      split <;> exact ⟨rfl, rfl, rfl⟩
    | false =>
      rw [notify_of_not_holdsBack hmatch hheld]
      obtain ⟨lastSeen, trailing, timers, htouch⟩ := touch_eq w file kind
      have htouched : KeepsReports w { w with lastSeen, trailing, timers } := ⟨rfl, rfl, rfl⟩
      rw [htouch]
      exact htouched.trans (keepsReports_deliver _ file kind)

/-- `dispatch` is `KeepsReports`. -/
theorem keepsReports_dispatch (w : Watcher) (e : FileEvent) : KeepsReports w (w.dispatch e) := by
  have hall : KeepsReports w (w.notifyAll e.changes).2 :=
    notifyAll_induction (P := KeepsReports w) (.refl w)
      (fun v path kind _ hv => hv.trans (keepsReports_notify v path kind)) e.changes
  unfold dispatch
  split
  · next v hnotify => rwa [hnotify] at hall
  · next message v hnotify =>
    rw [hnotify] at hall
    exact hall.trans (keepsReports_report v (by simp [Failure.isDeathReport, List.isPrefixOf]))

/-- `fire` is `KeepsReports`. -/
theorem keepsReports_fire (w : Watcher) (timer : Timer) : KeepsReports w (w.fire timer) := by
  cases hlookup : w.trailing.lookup timer.path with
  | none =>
    rw [fire_eq_of_eq_none hlookup]
    exact ⟨rfl, rfl, rfl⟩
  | some id =>
    have hreopened : KeepsReports w (w.reopened timer) := ⟨rfl, rfl, rfl⟩
    have htold := hreopened.trans (keepsReports_deliver _ timer.path .changed)
    rw [fire_eq_of_eq_some hlookup]
    split
    · next v hdeliver => rwa [hdeliver] at htold
    · next message v hdeliver =>
      rw [hdeliver] at htold
      exact htold.trans (keepsReports_report v (by simp [Failure.isDeathReport, List.isPrefixOf]))

/-- `advance` is `KeepsReports`. -/
theorem keepsReports_advance (w : Watcher) (amount : Nat) : KeepsReports w (w.advance amount) := by
  have hfold := keepsReports_foldl keepsReports_fire (w.due (w.clock + amount)) w
  exact ⟨hfold.wantsErrors_eq, hfold.reportedDead_eq, hfold.deathReports_eq⟩

/-! ## Checks -/

/-- `checkThread` reports, thread by thread, `firstOfEachName` of the dead ones. -/
theorem foldl_checkThread (hwants : w.wantsErrors = true) (start n : Nat)
    (threads : List (Option String × Bool)) :
    threads.foldl checkThread w =
      { w with
        reportedDead := w.reportedDead ++
          (DeadThread.firstOfEachName w.reportedDead (deadAmong start n threads)).map
            DeadThread.name
        errors := w.errors ++
          (DeadThread.firstOfEachName w.reportedDead (deadAmong start n threads)).map
            DeadThread.report } := by
  induction threads generalizing w n with
  | nil => simp [deadAmong, DeadThread.firstOfEachName]
  | cons thread threads ih =>
    obtain ⟨directory, isAlive⟩ := thread
    rw [List.foldl_cons]
    cases isAlive with
    | true =>
      have hcheck : w.checkThread (directory, true) = w := by simp [checkThread]
      rw [hcheck, deadAmong]
      exact ih hwants (n + 1)
    | false =>
      rw [deadAmong, DeadThread.firstOfEachName]
      -- a name already reported is passed over, with nothing written down
      by_cases hmem : (⟨start, n, directory⟩ : DeadThread).name ∈ w.reportedDead
      · have hcheck : w.checkThread (directory, false) = w := if_pos (.inr hmem)
        rw [hcheck, if_pos hmem]
        exact ih hwants (n + 1)
      · have hcheck : w.checkThread (directory, false) =
            { w with
              reportedDead := w.reportedDead ++ [(⟨start, n, directory⟩ : DeadThread).name]
              errors := w.errors ++ [(⟨start, n, directory⟩ : DeadThread).report] } :=
          (if_neg (not_or.mpr ⟨Bool.false_ne_true, hmem⟩)).trans (if_pos hwants)
        rw [hcheck, if_neg hmem]
        refine (ih (by exact hwants) (n + 1)).trans ?_
        simp only [List.map_cons, List.append_assoc, List.singleton_append]

/-- `w.check.1` is whether an observer is held and all its threads run. -/
theorem check_fst_eq_true_iff :
    w.check.1 = true ↔ w.isHolding = true ∧ ∀ thread ∈ w.observer.threads, thread.2 = true := by
  unfold check
  split
  · next h => simp [h, Observer.isHealthy]
  · next h => simp [h]

/-! ## Runs -/

/-- A step reports `firstOfEachName` of the threads that it finds dead, among those whose names have
not been reported. -/
theorem deathReports_step (hwants : w.wantsErrors = true) (s : WatchStep)
    (hforeign : ∀ f, s = .report f → f.isDeathReport = false) (starts : Nat) :
    let first := DeadThread.firstOfEachName w.reportedDead (w.foundAt starts s)
    (w.step s).2.wantsErrors = true ∧
      (w.step s).2.reportedDead = w.reportedDead ++ first.map DeadThread.name ∧
      (w.step s).2.deathReports = w.deathReports ++ first.map DeadThread.report := by
  -- every step but `check` leaves the reports of dead threads alone
  have hkept : ∀ {v : Watcher}, KeepsReports w v → v.wantsErrors = true ∧
      v.reportedDead = w.reportedDead ++ [] ∧ v.deathReports = w.deathReports ++ [] := by
    intro v hv
    rw [List.append_nil, List.append_nil]
    exact ⟨hv.wantsErrors_eq.trans hwants, hv.reportedDead_eq, hv.deathReports_eq⟩
  cases s with
  | dispatch e => exact hkept (keepsReports_dispatch w e)
  | notify path kind =>
    rw [step_notify_snd]
    exact hkept (keepsReports_notify w path kind)
  | advance amount => exact hkept (keepsReports_advance w amount)
  | report f => exact hkept (keepsReports_report w (hforeign f rfl))
  | start fresh => exact hkept (keepsReports_start w fresh)
  | stop => exact hkept (keepsReports_stop w)
  | killEmitter index => exact hkept ⟨rfl, rfl, rfl⟩
  | killObserver => exact hkept ⟨rfl, rfl, rfl⟩
  | check =>
    show w.check.2.wantsErrors = true ∧ w.check.2.reportedDead = _ ∧ w.check.2.deathReports = _
    unfold check foundAt
    split
    · simp only
      rw [foldl_checkThread hwants starts 0]
      refine ⟨hwants, rfl, ?_⟩
      refine (List.filter_append ..).trans (congrArg _ (List.filter_eq_self.mpr ?_))
      simp only [List.forall_mem_map]
      exact fun d _ => d.isDeathReport_report
    · exact hkept (.refl w)

/-- A run reports `firstOfEachName` of the threads that it finds dead, among those whose names have
not been reported. -/
theorem deathReports_run (hwants : w.wantsErrors = true) (steps : List WatchStep)
    (hforeign : ∀ f, .report f ∈ steps → f.isDeathReport = false) (starts : Nat) :
    let first := DeadThread.firstOfEachName w.reportedDead (w.found starts steps)
    (w.run steps).reportedDead = w.reportedDead ++ first.map DeadThread.name ∧
      (w.run steps).deathReports = w.deathReports ++ first.map DeadThread.report := by
  induction steps generalizing w starts with
  | nil => simp [run, found, DeadThread.firstOfEachName]
  | cons s steps ih =>
    obtain ⟨hwants', hnames, hreports⟩ := deathReports_step hwants s
      (fun f hf => hforeign f (hf ▸ List.mem_cons_self)) starts
    obtain ⟨hrestNames, hrestReports⟩ :=
      ih hwants' (fun f hf => hforeign f (List.mem_cons_of_mem _ hf))
      (w.startsAfter starts s)
    -- the names of the step have been reported when the rest of the run begins
    rw [hnames] at hrestNames hrestReports
    rw [hreports] at hrestReports
    simp only [found]
    rw [DeadThread.firstOfEachName_append, List.map_append, List.map_append, ← List.append_assoc,
      ← List.append_assoc]
    exact ⟨hrestNames, hrestReports⟩

/-- Of the threads that the checks of a run find dead, the first of each name is reported, as soon
as it is found, and no other death. So every thread that is found dead is reported once, in the
order in which they are found, exactly if no two of them have one name. A check answers whether an
observer is held and all its threads run. -/
theorem deathReports_eq_each_once_iff (setup : WatchSetup) (observer : Observer)
    (steps : List WatchStep) (hforeign : ∀ f, .report f ∈ steps → f.isDeathReport = false) :
    let new : Watcher := { toWatchSetup := { setup with wantsErrors := true }, observer }
    let dead := new.found 0 steps
    (new.run steps).deathReports = (DeadThread.firstOfEachName [] dead).map DeadThread.report ∧
      ((new.run steps).deathReports = dead.eraseDups.map DeadThread.report ↔
        ∀ d ∈ dead, ∀ e ∈ dead, d.name = e.name → d = e) ∧
      ((new.run steps).check.1 = true ↔ (new.run steps).isHolding = true ∧
        ∀ thread ∈ (new.run steps).observer.threads, thread.2 = true) := by
  intro new dead
  have hreports : (new.run steps).deathReports =
      (DeadThread.firstOfEachName [] dead).map DeadThread.report :=
    (deathReports_run (w := new) rfl steps hforeign 0).2
  refine ⟨hreports, ?_, check_fst_eq_true_iff⟩
  rw [hreports]
  exact DeadThread.map_report_eq_iff

/-- Two directories of which the threads die one after the other, the main thread in between, and a
failure that someone else has found. -/
theorem deathReports_eq_each_once_oneStart :
    let setup : WatchSetup := { paths := ["/a/m.scss"] }
    let observer : Observer := { emitters := [{ directory := "/a" }, { directory := "/b" }] }
    let steps : List WatchStep :=
      [.start none, .check, .killEmitter 1, .check, .report (.watch "busy" none),
        .killObserver, .check, .killEmitter 0, .stop, .check]
    let new : Watcher := { toWatchSetup := { setup with wantsErrors := true }, observer }
    let dead := new.found 0 steps
    dead = [⟨1, 2, some "/b"⟩, ⟨1, 0, none⟩, ⟨1, 2, some "/b"⟩] ∧
      (∀ f, .report f ∈ steps → f.isDeathReport = false) ∧
      (new.run steps).deathReports = dead.eraseDups.map DeadThread.report := by
  intro setup observer steps new dead
  have hdead : dead = [⟨1, 2, some "/b"⟩, ⟨1, 0, none⟩, ⟨1, 2, some "/b"⟩] := by decide +kernel
  have hforeign : ∀ f, .report f ∈ steps → f.isDeathReport = false := by
    intro f hf
    obtain rfl : f = .watch "busy" none := by simpa [steps] using hf
    decide
  have hnames : ∀ d ∈ dead, ∀ e ∈ dead, d.name = e.name → d = e := by
    rw [hdead]
    decide
  exact ⟨hdead, hforeign,
    (deathReports_eq_each_once_iff setup observer steps hforeign).2.1.mpr hnames⟩

/-- The main threads of two observers that die one after the other. Only the first death is
reported. -/
theorem deathReports_ne_each_once :
    let new : Watcher := { toWatchSetup := { paths := ["/a.scss"] } }
    let steps : List WatchStep :=
      [.start none, .killObserver, .check, .stop, .start none, .killObserver, .check]
    let dead := new.found 0 steps
    dead.eraseDups = [⟨1, 0, none⟩, ⟨2, 0, none⟩] ∧
      (new.run steps).deathReports = [.watch "Watch thread for observer stopped" none] ∧
      (new.run steps).deathReports ≠ dead.eraseDups.map DeadThread.report := by
  decide +kernel

end Watcher

end Restyle
