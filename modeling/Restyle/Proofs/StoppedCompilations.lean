import Mathlib
import Restyle.Proofs.DiscoveredFiles
import Restyle.Proofs.SessionRenders

/-! # Stopped compilations
A compilation renders its targets in order. As long as they succeed it counts them and reports no
error; it stops at the first one that fails. Main statement: what is rendered, which status is
returned and what is reported last follow from the targets and from which of them fail
(`CompileRequest.compileOnce_stopsAtFailure`). -/

namespace Restyle

variable {ω : Type} {r : Renderer ω} {d : Dispatcher ω} {p : Project ω}
  {before after targets : List String} {src target : String}

/-- The errors among some notices. -/
def errorsAmong (notices : List Notice) : List Notice := notices.filter (·.kind = .error)

/-- `errorsAmong` goes through `++`. -/
@[simp] theorem errorsAmong_append (notices others : List Notice) :
    errorsAmong (notices ++ others) = errorsAmong notices ++ errorsAmong others :=
      List.filter_append _ _

/-- The renderer succeeds with a source of a project. -/
def Project.Succeeds (p : Project ω) (r : Renderer ω) (src : String) : Prop :=
  (r.outcome (p.optionsFor src)).isOk = true

/-! ## One render after the other -/

/-- `errorsAmong (endNotices o (.ok reports)) = []`. -/
theorem errorsAmong_endNotices_ok (o : RenderOptions ω) (reports : List Report) :
    errorsAmong (endNotices o (.ok reports)) = [] := by
  have hreport : ∀ report : Report, report.notice.kind ≠ .error := by
    intro report
    cases report <;> exact nofun
  simp only [errorsAmong, endNotices, List.filter_eq_nil_iff, List.mem_append, List.mem_map,
    List.mem_singleton, decide_eq_true_eq]
  rintro notice (⟨report, -, rfl⟩ | rfl)
  · exact hreport report
  · exact nofun

/-- `d.renderNow r src` calls the renderer with `optionsFor src`, and leaves the project as it
is. -/
theorem renderNow_eq (r : Renderer ω) (d : Dispatcher ω) (src : String) :
    (d.renderNow r src).2.toProject = d.toProject ∧
      (d.renderNow r src).2.calls = d.calls ++ [d.toProject.optionsFor src] := by
  obtain ⟨hproject, hcalls, -⟩ :=
    Dispatcher.finish_eq { d with calls := d.calls ++ [d.options src] }
    (d.options src) (r.outcome (d.options src))
  exact ⟨hproject, hcalls⟩

/-- `d.renderNow r src` of a render that `Succeeds` answers `true`, counts it, and reports no
error. -/
theorem renderNow_of_succeeds (h : d.toProject.Succeeds r src) :
    (d.renderNow r src).1 = true ∧ (d.renderNow r src).2.renderCount = d.renderCount + 1 ∧
      errorsAmong (d.renderNow r src).2.notices = errorsAmong d.notices := by
  refine ⟨h, ?_⟩
  unfold Project.Succeeds at h
  unfold Dispatcher.renderNow Dispatcher.finish Dispatcher.options
  cases hends : r.outcome (d.optionsFor src) with
  | error fault =>
    rw [hends] at h
    cases h
  | ok reports =>
    simp only [hends]
    refine ⟨trivial, ?_⟩
    rw [errorsAmong_append, errorsAmong_endNotices_ok, List.append_nil]

/-- `d.renderNow r src` of a render that fails answers `false`, and does not count it. -/
theorem renderNow_of_not_succeeds (h : ¬ d.toProject.Succeeds r src) :
    (d.renderNow r src).1 = false ∧ (d.renderNow r src).2.renderCount = d.renderCount := by
  refine ⟨Bool.eq_false_iff.mpr h, ?_⟩
  unfold Project.Succeeds at h
  unfold Dispatcher.renderNow Dispatcher.finish Dispatcher.options
  cases hends : r.outcome (d.optionsFor src) with
  | error fault => simp only [hends]
  | ok reports =>
    rw [hends] at h
    exact absurd rfl h

/-- `compileAll` on `before ++ rest` is `compileAll` on `rest` from a dispatcher that has called and
counted `before`, if every member of `before` `Succeeds`. -/
theorem exists_compileAll_append
    (hbefore : ∀ src ∈ before, d.toProject.Succeeds r src) (total : Nat) (rest : List String) :
    ∃ d' : Dispatcher ω, compileAll r total d (before ++ rest) = compileAll r total d' rest ∧
      d'.toProject = d.toProject ∧ d'.calls = d.calls ++ before.map d.toProject.optionsFor ∧
      d'.renderCount = d.renderCount + before.length ∧ errorsAmong d'.notices =
        errorsAmong d.notices := by
  induction before generalizing d with
  | nil => exact ⟨d, rfl, rfl, (List.append_nil _).symm, rfl, rfl⟩
  | cons src before ih =>
    obtain ⟨hproject, hcalls⟩ := renderNow_eq r d src
    obtain ⟨hends, hcount, herrors⟩ := renderNow_of_succeeds (hbefore src List.mem_cons_self)
    have hstep : compileAll r total d (src :: (before ++ rest)) =
        compileAll r total (d.renderNow r src).2 (before ++ rest) := by
      have hrender : d.renderNow r src = (true, (d.renderNow r src).2) := Prod.ext hends rfl
      rw [compileAll, hrender]
    -- the project stays the same, so that the others succeed from there as well
    obtain ⟨d', hrest, hproject', hcalls', hcount', herrors'⟩ := ih (d := (d.renderNow r src).2) (by
      rw [hproject]
      exact fun other hother => hbefore other (List.mem_cons_of_mem _ hother))
    refine ⟨d', hstep.trans hrest, hproject'.trans hproject, ?_, ?_, herrors'.trans herrors⟩
    · rw [hcalls', hproject, hcalls, List.map_cons, List.append_assoc]
      rfl
    · rw [hcount', hcount, List.length_cons]
      omega

/-- `compileAll` calls the renderer for all targets if no render fails. -/
theorem calls_compileAll_of_isOk (h : ∀ o, (r.outcome o).isOk = true) (total : Nat)
    (d : Dispatcher ω) (targets : List String) :
    (compileAll r total d targets).calls = d.calls ++ targets.map d.toProject.optionsFor := by
  have hall : ∀ src ∈ targets, d.toProject.Succeeds r src := fun src _ => h _
  obtain ⟨d', hrest, -, hcalls, -⟩ := exists_compileAll_append hall total []
  rw [List.append_nil] at hrest
  rw [hrest, ← hcalls]
  rfl

/-! ## Whole compilations -/

namespace Compilation

/-- The compilation renders all targets, and reports how many there are and no error. -/
structure Completes (c : Compilation ω) (p : Project ω) (targets : List String) : Prop where
  calls_eq : c.calls = targets.map p.optionsFor
  status_eq : c.status = .ok 0
  errorsAmong_eq : errorsAmong c.notices = []
  getLast?_eq : c.notices.getLast? =
    some (.log ("Compiled " ++ toString targets.length ++ " file(s)"))

/-- The compilation renders the targets in `before` and then `target`, and reports as its last error
that it stopped there, and how many out of `total` targets had been compiled. -/
structure StopsAt (c : Compilation ω) (p : Project ω) (before : List String) (target : String)
    (total : Nat) :
    Prop where
  calls_eq : c.calls = (before ++ [target]).map p.optionsFor
  status_eq : c.status = .ok 1
  getLast?_eq : (errorsAmong c.notices).getLast? =
    some (.error (.render target ("Compilation stopped at " ++
    target ++ " (" ++ toString before.length ++ " of " ++ toString total ++ " file(s) compiled)")))

end Compilation

/-- A dispatcher that has not rendered anything yet. -/
structure Dispatcher.IsFresh (d : Dispatcher ω) : Prop where
  calls_eq : d.calls = []
  renderCount_eq : d.renderCount = 0
  notices_eq : d.notices = []

/-- `q.dispatcher t` is fresh. -/
theorem CompileRequest.isFresh_dispatcher (q : CompileRequest ω) (t : FileTree) :
    (q.dispatcher t).IsFresh :=
  ⟨rfl, rfl, rfl⟩

/-- `compileAll` `Completes` if every target `Succeeds`. -/
theorem completes_compileAll (hfresh : d.IsFresh) (h : ∀ src ∈ targets, d.toProject.Succeeds r src)
    (total : Nat) :
    (compileAll r total d targets).Completes d.toProject targets := by
  obtain ⟨d', hrest, -, hcalls, hcount, herrors⟩ := exists_compileAll_append h total []
  rw [List.append_nil] at hrest
  rw [hfresh.calls_eq, List.nil_append] at hcalls
  rw [hfresh.renderCount_eq, Nat.zero_add] at hcount
  rw [hfresh.notices_eq] at herrors
  rw [hrest, compileAll]
  refine ⟨hcalls, rfl, ?_, ?_⟩
  · simp only
    rw [errorsAmong_append, herrors]
    rfl
  · simp only
    rw [hcount, List.getLast?_concat]

/-- `compileAll` `StopsAt` the first target that fails. -/
theorem stopsAt_compileAll (hfresh : d.IsFresh)
    (hbefore : ∀ src ∈ before, d.toProject.Succeeds r src)
    (htarget : ¬ d.toProject.Succeeds r target) (total : Nat) :
    (compileAll r total d (before ++ target :: after)).StopsAt d.toProject before target total := by
  obtain ⟨d', hrest, hproject, hcalls, hcount, -⟩ :=
    exists_compileAll_append hbefore total (target :: after)
  rw [hfresh.calls_eq, List.nil_append] at hcalls
  rw [hfresh.renderCount_eq, Nat.zero_add] at hcount
  rw [← hproject] at htarget
  obtain ⟨-, hlast⟩ := renderNow_eq r d' target
  obtain ⟨hends, hcount'⟩ := renderNow_of_not_succeeds htarget
  have hrender : d'.renderNow r target = (false, (d'.renderNow r target).2) := Prod.ext hends rfl
  rw [hrest, compileAll, hrender]
  refine ⟨?_, rfl, ?_⟩
  · simp only
    rw [hlast, hcalls, hproject, List.map_append, List.map_singleton]
  · simp only
    rw [hcount', hcount, errorsAmong_append]
    exact List.getLast?_concat

/-- All `targets` succeed, or `targets = before ++ target :: after` where `target` is the first that
fails. -/
theorem succeeds_or_exists_first (p : Project ω) (r : Renderer ω) (targets : List String) :
    (∀ src ∈ targets, p.Succeeds r src) ∨ ∃ before target after,
    targets = before ++ target :: after ∧
      (∀ src ∈ before, p.Succeeds r src) ∧ ¬ p.Succeeds r target := by
  induction targets with
  | nil => exact .inl fun src hsrc => absurd hsrc List.not_mem_nil
  | cons src rest ih =>
    by_cases hsrc : p.Succeeds r src
    · rcases ih with hall | ⟨before, target, after, rfl, hbefore, htarget⟩
      · exact .inl (List.forall_mem_cons.mpr ⟨hsrc, hall⟩)
      · exact .inr ⟨src :: before, target, after, rfl,
          List.forall_mem_cons.mpr ⟨hsrc, hbefore⟩, htarget⟩
    · exact .inr ⟨[], src, rest, rfl, fun src hsrc => absurd hsrc List.not_mem_nil, hsrc⟩

/-- A root that exists is compiled target by target: with `q.targets t = .ok targets`, a compilation
is `compileAll r targets.length (q.dispatcher t) targets`. -/
theorem compileOnce_of_targets_eq {t : FileTree} {q : CompileRequest ω}
    (hexists : t.pathExists (t.absolute q.root) = true) (htargets : q.targets t = .ok targets) :
    compileOnce r t q = compileAll r targets.length (q.dispatcher t) targets := by
  have htest := FileTree.testExists_eq_ok_true_iff.mpr hexists
  unfold compileOnce
  simp only
  rw [htest]
  simp only
  rw [htargets]

/-- Every call of `compileOnce` is `optionsFor` a member of `q.targets t`. -/
theorem exists_of_mem_calls_compileOnce {t : FileTree} {q : CompileRequest ω} {o : RenderOptions ω}
    (ho : o ∈ (compileOnce r t q).calls) :
    ∃ targets, q.targets t = .ok targets ∧ ∃ src ∈ targets,
    o = (q.dispatcher t).toProject.optionsFor src := by
  have hfresh := q.isFresh_dispatcher t
  unfold compileOnce at ho
  simp only at ho
  split at ho
  · exact absurd ho List.not_mem_nil
  · exact absurd ho List.not_mem_nil
  · split at ho
    · exact absurd ho List.not_mem_nil
    · next targets htargets =>
      refine ⟨targets, htargets, ?_⟩
      -- all targets are rendered, or those up to the first that fails
      rcases succeeds_or_exists_first (q.dispatcher t).toProject r targets with
        hall | ⟨before, target, after, rfl, hbefore, htarget⟩
      · rw [(completes_compileAll hfresh hall _).calls_eq] at ho
        obtain ⟨src, hsrc, rfl⟩ := List.mem_map.mp ho
        exact ⟨src, hsrc, rfl⟩
      · rw [(stopsAt_compileAll hfresh hbefore htarget _).calls_eq] at ho
        obtain ⟨src, hsrc, rfl⟩ := List.mem_map.mp ho
        have hprefix : before ++ [target] <+: before ++ target :: after :=
          ⟨after, by rw [List.append_assoc, List.singleton_append]⟩
        exact ⟨src, hprefix.subset hsrc, rfl⟩

namespace CompileRequest

variable {q : CompileRequest ω} {t : FileTree}

/-- The targets of a request: the root alone if it is a file, and otherwise the discovered files
that are no partials, in increasing order. -/
structure IsTargetList (q : CompileRequest ω) (t : FileTree) (targets : List String) : Prop where
  eq_of_isFile : t.isFile (t.absolute q.root) = true → targets = [t.normalize (t.absolute q.root)]
  mem_iff : t.isFile (t.absolute q.root) = false → ∀ src, src ∈ targets ↔
    t.IsDiscovered (t.absolute q.root) q.deep q.extensions src ∧ Path.isPartial src = false
  pairwise : targets.Pairwise (· < ·)

/-- The target of a root that is a file is `t.normalize (t.absolute q.root)`. -/
theorem targets_eq_of_isFile (hfile : t.isFile (t.absolute q.root) = true) :
    q.targets t = .ok [t.normalize (t.absolute q.root)] := by
  unfold CompileRequest.targets FileTree.rootLayout
  simp only
  rw [if_pos hfile]

/-- The targets of any other root are the discovered files `p` with `Path.isPartial p = false`. -/
theorem targets_eq_of_not_isFile (hfile : ¬ t.isFile (t.absolute q.root) = true) :
    q.targets t = (t.discover (t.absolute q.root) q.deep q.extensions).map fun found =>
      found.filter fun p => !Path.isPartial p := by
  unfold CompileRequest.targets FileTree.rootLayout
  simp only
  rw [if_neg hfile]

/-- Unless the search for them fails, the targets are as `IsTargetList` says. -/
theorem isTargetList_of_targets_eq (htargets : q.targets t = .ok targets) :
    q.IsTargetList t targets := by
  by_cases hfile : t.isFile (t.absolute q.root) = true
  · rw [targets_eq_of_isFile hfile] at htargets
    obtain rfl := Except.ok.inj htargets
    exact ⟨fun _ => rfl, fun hnot => absurd hfile (by rw [hnot]; exact Bool.false_ne_true),
      List.pairwise_singleton _ _⟩
  · rw [targets_eq_of_not_isFile hfile] at htargets
    cases hfound : t.discover (t.absolute q.root) q.deep q.extensions with
    | error failure =>
      rw [hfound] at htargets
      cases htargets
    | ok found =>
      rw [hfound] at htargets
      obtain rfl := Except.ok.inj htargets
      refine ⟨fun h => absurd h hfile, fun _ src => ?_,
        (FileTree.pairwise_of_discover_eq_ok hfound).filter _⟩
      rw [List.mem_filter, FileTree.isDiscovered_iff_mem hfound, Bool.not_eq_true']

/-- `q.targets t` fails exactly as the search does, if the root is no file. -/
theorem targets_eq_error_iff {failure : Failure} : q.targets t = .error failure ↔
    t.isFile (t.absolute q.root) = false ∧
      t.discover (t.absolute q.root) q.deep q.extensions = .error failure := by
  by_cases hfile : t.isFile (t.absolute q.root) = true
  · simp [targets_eq_of_isFile hfile, hfile]
  · rw [targets_eq_of_not_isFile hfile, Bool.eq_false_iff.mpr hfile]
    cases t.discover (t.absolute q.root) q.deep q.extensions <;> simp [Except.map]

/-- `(p.optionsFor src).src = src` for a member of `q.targets t`. -/
theorem src_optionsFor_of_mem_targets (htargets : q.targets t = .ok targets)
    (hsrc : src ∈ targets) :
    (p.optionsFor src).src = src := by
  refine p.src_optionsFor ?_
  obtain ⟨heq, hmem, -⟩ := isTargetList_of_targets_eq htargets
  by_cases hfile : t.isFile (t.absolute q.root) = true
  · rw [heq hfile, List.mem_singleton] at hsrc
    exact hsrc ▸ Path.isCanonical_normalize _ _
  · exact FileTree.isCanonical_of_isDiscovered ((hmem (Bool.eq_false_iff.mpr hfile) src).mp hsrc).1

/-- A root that exists is compiled up to the first target that fails: everything before it and the
target itself are rendered, under their own names and in order, and nothing else. If there is none,
everything is rendered. A search for the targets that fails is the end of the compilation: then
nothing is rendered, and no status returned. -/
theorem compileOnce_stopsAtFailure (r : Renderer ω) (q : CompileRequest ω) (t : FileTree)
    (hexists : t.pathExists (t.absolute q.root) = true) :
    let p := (q.dispatcher t).toProject
    (∀ targets, q.targets t = .ok targets →
      q.IsTargetList t targets ∧ (∀ src ∈ targets, (p.optionsFor src).src = src) ∧
        ((∀ src ∈ targets, p.Succeeds r src) → (compileOnce r t q).Completes p targets) ∧
        (∀ before target after, targets = before ++ target :: after →
          (∀ src ∈ before, p.Succeeds r src) →
          ¬ p.Succeeds r target → (compileOnce r t q).StopsAt p before target targets.length) ∧
        ((compileOnce r t q).status = .ok 0 ↔ ∀ src ∈ targets, p.Succeeds r src) ∧
        ((compileOnce r t q).status = .ok 1 ↔ ∃ src ∈ targets, ¬ p.Succeeds r src)) ∧
      ∀ failure, q.targets t = .error failure →
        t.discover (t.absolute q.root) q.deep q.extensions = .error failure ∧
          (compileOnce r t q).calls = [] ∧ (compileOnce r t q).status = .error failure := by
  intro p
  constructor
  · intro targets htargets
    have hcompile := compileOnce_of_targets_eq (r := r) hexists htargets
    have hall (h : ∀ src ∈ targets, p.Succeeds r src) :
        (compileOnce r t q).Completes p targets := by
      rw [hcompile]
      exact completes_compileAll (isFresh_dispatcher q t) h _
    have hfirst : ∀ before target after, targets = before ++ target :: after →
        (∀ src ∈ before, p.Succeeds r src) → ¬ p.Succeeds r target →
          (compileOnce r t q).StopsAt p before target targets.length := by
      intro before target after heq hbefore htarget
      rw [hcompile]
      -- the number of targets stays as it is written
      generalize targets.length = total
      rw [heq]
      exact stopsAt_compileAll (isFresh_dispatcher q t) hbefore htarget total
    refine ⟨isTargetList_of_targets_eq htargets, fun src => src_optionsFor_of_mem_targets htargets,
      hall, hfirst, ?_⟩
    rcases succeeds_or_exists_first p r targets with hsucceed |
      ⟨before, target, after, heq, hbefore, htarget⟩
    · have hstatus := (hall hsucceed).status_eq
      rw [hstatus]
      refine ⟨⟨fun _ => hsucceed, fun _ => rfl⟩,
        fun h => absurd (Except.ok.inj h) Nat.zero_ne_one, ?_⟩
      rintro ⟨src, hsrc, hfails⟩
      exact absurd (hsucceed src hsrc) hfails
    · have hstatus := (hfirst before target after heq hbefore htarget).status_eq
      have hmem : target ∈ targets := by rw [heq]; simp
      rw [hstatus]
      refine ⟨⟨fun h => absurd (Except.ok.inj h) Nat.one_ne_zero,
        fun h => absurd (h target hmem) htarget⟩, ?_⟩
      exact ⟨fun _ => ⟨target, hmem, htarget⟩, fun _ => rfl⟩
  · intro failure htargets
    have htest := FileTree.testExists_eq_ok_true_iff.mpr hexists
    have hcompile : compileOnce r t q =
        { notices := [], calls := [], status := .error failure } := by
      unfold compileOnce
      simp only
      rw [htest]
      simp only
      rw [htargets]
    rw [hcompile]
    exact ⟨(targets_eq_error_iff.mp htargets).2, rfl, rfl⟩

/-- Two files without imports in one directory. -/
def twoFiles : FileTree where
  entries := [(["s"], .directory), (["s", "a.scss"], .file []), (["s", "b.scss"], .file [])]

/-- Everything below `/s`. -/
def wholeDirectory : CompileRequest Unit where
  root := "/s"
  base := {}

/-- `wholeDirectory.targets twoFiles` are both files. -/
theorem targets_wholeDirectory :
    wholeDirectory.targets twoFiles = .ok ["/s/a.scss", "/s/b.scss"] := by
  have habsolute : twoFiles.absolute wholeDirectory.root = "/s" := by decide
  have hdirectory : twoFiles.isFile "/s" = false := by cbv
  have hfile : ¬ twoFiles.isFile (twoFiles.absolute wholeDirectory.root) = true := by
    rw [habsolute, hdirectory]
    decide
  have hroot : Path.IsCanonical "/s" := by
    have hself : Path.normalize "/" "/s" = "/s" := by decide
    exact Path.isCanonical_of_normalize_eq hself
  have hopen : twoFiles.IsUnrestricted := by decide
  obtain ⟨found, hfound, hmem⟩ := hopen.exists_discover_eq_ok (by decide) hroot
    (show twoFiles.find "/s" = .ok ["s"] by cbv)
      rfl isExtension_of_mem_stylesheetExtensions true
  have hbelow : twoFiles.filesBelow "/s" ["s"] true stylesheetExtensions =
      ["/s/a.scss", "/s/b.scss"] := by
    decide
  obtain rfl : found = ["/s/a.scss", "/s/b.scss"] :=
    (FileTree.pairwise_of_discover_eq_ok hfound).eq_of_mem_iff (by decide) fun p =>
      by rw [hmem, hbelow]
  rw [targets_eq_of_not_isFile hfile, habsolute]
  show (twoFiles.discover "/s" true stylesheetExtensions).map _ = _
  rw [hfound, Except.map]
  exact congrArg Except.ok (by decide)

/-- A renderer that cannot read one source. -/
def unreadable (source : String) : Renderer Unit where
  outcome o := if o.src = source then .error (.unforeseen "cannot be read") else .ok []

/-- Below `/s` the first file is rendered and the second one fails. -/
theorem compileOnce_stopsAtSecond :
    twoFiles.pathExists (twoFiles.absolute wholeDirectory.root) = true ∧
      let c := compileOnce (unreadable "/s/b.scss") twoFiles wholeDirectory
      c.calls.map (·.src) = ["/s/a.scss", "/s/b.scss"] ∧ c.status = .ok 1 ∧
        (errorsAmong c.notices).getLast? = some (.error (.render "/s/b.scss"
          "Compilation stopped at /s/b.scss (1 of 2 file(s) compiled)")) := by
  have hexists : twoFiles.pathExists (twoFiles.absolute wholeDirectory.root) = true := by cbv
  refine ⟨hexists, ?_⟩
  obtain ⟨-, hsrc, -, hfirst, -⟩ :=
    (compileOnce_stopsAtFailure (unreadable "/s/b.scss") wholeDirectory twoFiles
    hexists).1 _ targets_wholeDirectory
  have ha := hsrc "/s/a.scss" (by simp)
  have hb := hsrc "/s/b.scss" (by simp)
  obtain ⟨hcalls, hstatus, herror⟩ := hfirst ["/s/a.scss"] "/s/b.scss" [] rfl
    (by simp [Project.Succeeds, unreadable, ha, Except.isOk, Except.toBool])
    (by simp [Project.Succeeds, unreadable, hb, Except.isOk, Except.toBool])
  refine ⟨?_, hstatus, ?_⟩
  · rw [hcalls]
    simp [ha, hb]
  · rw [herror]
    decide

end CompileRequest

end Restyle
