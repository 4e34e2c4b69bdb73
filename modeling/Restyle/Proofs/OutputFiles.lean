import Mathlib
import Restyle.Proofs.SessionRuns
import Restyle.Proofs.StoppedCompilations

/-! # The explicit output file
An explicit output file belongs to the root when the root is a file, and no other source takes it.
Below a directory there is no such entry, and every source takes it: so the renders that go to the
output file have one source exactly if the root is a file, or if only one source is rendered
(`CompileRequest.handsOut_outputFile`). This holds of a compilation and of everything that may
happen to a session. -/

namespace Restyle

variable {ω : Type}

/-! ## Who takes it -/

namespace Project

variable {p : Project ω} {file src : String} {renders : List (RenderOptions ω)}

/-- The destination of a source is the explicit output file. -/
def TakesOutputFile (p : Project ω) (src : String) : Prop :=
  (givenPath (p.layoutFor src).outputFile).isSome

/-- All renders that go to the explicit output file have one source. -/
def OutputFileHasOneSource (p : Project ω) (renders : List (RenderOptions ω)) : Prop :=
  ∀ o ∈ renders, ∀ o' ∈ renders, p.TakesOutputFile o.src → p.TakesOutputFile o'.src → o.src = o'.src

/-- `p.TakesOutputFile src` unless there is an entry file, and it is another one than `src`. -/
theorem takesOutputFile_iff (hfile : givenPath p.layout.outputFile = some file) :
    p.TakesOutputFile src ↔ ∀ entry, p.entryPoint? = some entry →
    p.graph.normalize src = entry := by
  unfold TakesOutputFile layoutFor
  cases p.entryPoint? with
  | none => simp [hfile]
  | some entry =>
    by_cases hentry : p.graph.normalize src = entry
    · simp [hentry, hfile]
    · simp [hentry, givenPath]

/-- `(p.optionsFor src).src` is a canonical path. -/
theorem normalize_src_optionsFor (p : Project ω) (src : String) :
    p.graph.normalize (p.optionsFor src).src = (p.optionsFor src).src :=
  Path.normalize_normalize _ _ _

/-- `(p.optionsFor src).dest` is the destination that the layout for the canonical path of `src`
gives. -/
theorem dest_optionsFor (p : Project ω) (src : String) :
    (p.optionsFor src).dest =
      (p.layoutFor (p.optionsFor src).src).destination p.graph.workingDir
        (p.optionsFor src).src := by
  have hlayout : p.layoutFor (p.optionsFor src).src = p.layoutFor src := by
    unfold layoutFor
    rw [normalize_src_optionsFor]
    rfl
  rw [hlayout]
  rfl

/-- How the explicit output file `file` is handed out among renders, when `root?` is the root if
that is a file. -/
structure HandsOut (p : Project ω) (file : String) (root? : Option String)
    (renders : List (RenderOptions ω)) : Prop where
  /-- A render takes the output file unless the root is a file, and another one. -/
  takes_iff : ∀ o ∈ renders, p.TakesOutputFile o.src ↔ ∀ root, root? = some root → o.src = root
  /-- A render that takes it goes there. -/
  dest_eq : ∀ o ∈ renders, p.TakesOutputFile o.src → o.dest = Path.normalize p.graph.workingDir file
  /-- Any other goes where it would go if no output file were given. -/
  dest_eq_of_not_takes : ∀ o ∈ renders, ¬ p.TakesOutputFile o.src →
    o.dest = { p.layout with outputFile := none }.destination p.graph.workingDir o.src
  /-- The output file has one source exactly if the root is a file, or one source is rendered. -/
  hasOneSource_iff : p.OutputFileHasOneSource renders ↔
    root?.isSome ∨ ∀ o ∈ renders, ∀ o' ∈ renders, o.src = o'.src

/-- `p.HandsOut file p.entryPoint?` holds of all renders that are `p.optionsFor src` for some
`src`. -/
theorem handsOut (hfile : givenPath p.layout.outputFile = some file)
    (hrenders : ∀ o ∈ renders, ∃ src, o = p.optionsFor src) :
    p.HandsOut file p.entryPoint? renders := by
  have htakes : ∀ o ∈ renders,
      (p.TakesOutputFile o.src ↔ ∀ root, p.entryPoint? = some root → o.src = root) := by
    intro o ho
    obtain ⟨src, rfl⟩ := hrenders o ho
    rw [takesOutputFile_iff hfile, normalize_src_optionsFor]
  refine ⟨htakes, ?_, ?_, ?_⟩
  · intro o ho htaken
    obtain ⟨src, rfl⟩ := hrenders o ho
    -- the layout of whatever takes the output file still names it
    have hgiven : givenPath (p.layoutFor (p.optionsFor src).src).outputFile = some file := by
      unfold TakesOutputFile at htaken
      unfold layoutFor at htaken ⊢
      cases hentry : p.entryPoint? with
      | none => exact hfile
      | some entry =>
        simp only [hentry] at htaken ⊢
        by_cases hsrc : p.graph.normalize (p.optionsFor src).src = entry
        · rw [if_pos hsrc]
          exact hfile
        · rw [if_neg hsrc] at htaken
          cases htaken
    rw [dest_optionsFor, OutputLayout.destination, hgiven]
  · intro o ho hnot
    obtain ⟨src, rfl⟩ := hrenders o ho
    rw [dest_optionsFor]
    rw [takesOutputFile_iff hfile] at hnot
    push Not at hnot
    obtain ⟨entry, hentry, hsrc⟩ := hnot
    unfold layoutFor
    simp only [hentry]
    rw [if_neg hsrc]
  · constructor
    · intro hone
      cases hentry : p.entryPoint? with
      | some entry => exact .inl rfl
      | none =>
        -- without an entry file everything takes the output file
        have hall : ∀ o ∈ renders, p.TakesOutputFile o.src := fun o ho =>
          (htakes o ho).mpr fun root hroot => by rw [hentry] at hroot; cases hroot
        exact .inr fun o ho o' ho' => hone o ho o' ho' (hall o ho) (hall o' ho')
    · rintro (hroot | hsame) o ho o' ho' htaken htaken'
      · obtain ⟨root, hroot⟩ := Option.isSome_iff_exists.mp hroot
        exact ((htakes o ho).mp htaken root hroot).trans
          ((htakes o' ho').mp htaken' root hroot).symm
      · exact hsame o ho o' ho'

end Project

/-! ## Compilations -/

namespace CompileRequest

/-- The root, if it is a file. -/
def rootFile? (q : CompileRequest ω) (t : FileTree) : Option String :=
  (t.rootLayout (t.absolute q.root)).2

/-- The output file of `q.project t g` is that of the request. -/
@[simp] theorem outputFile_project (q : CompileRequest ω) (t : FileTree) (g : ImportGraph) :
    (q.project t g).layout.outputFile = q.outputFile := by
  unfold project
  cases t.rootLayout (t.absolute q.root)
  rfl

/-- `(q.project t g).entryPoint? = q.rootFile? t`: the entry file is the root, if that is a file. -/
theorem entryPoint?_project (q : CompileRequest ω) (t : FileTree) (g : ImportGraph) :
    (q.project t g).entryPoint? = q.rootFile? t := by
  unfold Project.entryPoint? rootFile? project FileTree.rootLayout
  by_cases hfile : t.isFile (t.absolute q.root) = true
  · -- an empty entry file would count as none
    have hne : Path.normalize t.workingDir (t.absolute q.root) ≠ "" := by
      intro hnil
      have habsolute := (Path.isCanonical_normalize t.workingDir (t.absolute q.root)).isAbsolute
      rw [hnil] at habsolute
      cases habsolute
    simp [hfile, givenPath, hne, ImportGraph.normalize, FileTree.normalize]
  · simp [hfile, givenPath]

/-- Every compilation and every session with the explicit output file `file` `HandsOut` it alike: to
the root alone when that is a file, and to everything that is rendered when it is a directory. -/
theorem handsOut_outputFile (q : CompileRequest ω) (t : FileTree) {file : String}
    (hfile : givenPath q.outputFile = some file) :
    (∀ r, (q.dispatcher t).toProject.HandsOut file (q.rootFile? t) (compileOnce r t q).calls) ∧
      ∀ (setup : SessionSetup ω) (s : Session ω), setup.toCompileRequest = q → setup.tree = t →
        ({ toSessionSetup := setup } : Session ω).start = (.ok (), s) →
        ∀ moves, ∃ parts, (s.moveAll moves).running = some parts ∧
          parts.dispatcher.toProject.HandsOut file (q.rootFile? t) parts.dispatcher.asked := by
  constructor
  · intro r
    -- every call renders some source with the options of the one project
    have hcalls : ∀ o ∈ (compileOnce r t q).calls, ∃ src,
        o = (q.dispatcher t).toProject.optionsFor src := by
      intro o ho
      obtain ⟨-, -, src, -, hsrc⟩ := exists_of_mem_calls_compileOnce ho
      exact ⟨src, hsrc⟩
    obtain ⟨g, hproject⟩ : ∃ g, (q.dispatcher t).toProject = q.project t g := ⟨_, rfl⟩
    rw [hproject] at hcalls ⊢
    rw [← q.entryPoint?_project t g]
    exact Project.handsOut (by rw [outputFile_project, hfile]) hcalls
  · rintro setup s rfl rfl hstart moves
    obtain ⟨g, -, hserves⟩ := Session.serves_moveAll setup hstart
    obtain ⟨parts, hrunning, -, hproject, hasks⟩ := hserves moves
    refine ⟨parts, hrunning, ?_⟩
    rw [hproject, ← setup.toCompileRequest.entryPoint?_project setup.tree g]
    refine Project.handsOut ?_ fun o ho => ?_
    · rw [outputFile_project, hfile]
    · obtain ⟨path, src, -, hsrc⟩ := hasks o ho
      exact ⟨src, hsrc⟩

/-! ## Examples -/

/-- The root `/a.scss`, with an explicit output file. -/
def siteSetup : SessionSetup Unit where
  root := "/a.scss"
  base := {}
  outputFile := some "/site.css"
  tree := FileTree.mutualImports
  renderer := { outcome := fun _ => .ok [] }

/-- Whatever is rendered below `/a.scss`, only that file goes to `/site.css`. -/
theorem handsOut_siteSetup :
    ∃ s, ({ toSessionSetup := siteSetup } : Session Unit).start = (.ok (), s) ∧
      ∀ moves, ∃ parts, (s.moveAll moves).running = some parts ∧
        ∀ o ∈ parts.dispatcher.asked, parts.dispatcher.TakesOutputFile o.src ↔
        o.src = "/a.scss" := by
  obtain ⟨found, hfound⟩ := FileTree.exists_discover_mutualImports
  obtain ⟨s, hstart⟩ := Session.exists_start_eq siteSetup FileTree.isScannable_mutualImports hfound
  refine ⟨s, hstart, fun moves => ?_⟩
  have hgiven : givenPath siteSetup.outputFile = some "/site.css" := by decide
  obtain ⟨parts, hrunning, hhands⟩ :=
    (handsOut_outputFile siteSetup.toCompileRequest siteSetup.tree hgiven).2
    siteSetup s rfl rfl hstart moves
  refine ⟨parts, hrunning, fun o ho => ?_⟩
  have hroot : siteSetup.toCompileRequest.rootFile? siteSetup.tree = some "/a.scss" := by cbv
  rw [hhands.takes_iff o ho, hroot]
  simp

/-- The root `/s`, with an explicit output file. -/
def intoOneFile : CompileRequest Unit where
  root := "/s"
  base := {}
  outputFile := some "/out.css"

/-- Both files below `/s` are rendered. -/
theorem targets_intoOneFile : intoOneFile.targets twoFiles = .ok ["/s/a.scss", "/s/b.scss"] :=
  targets_wholeDirectory

/-- Below a directory both files are rendered to the one output file. -/
theorem not_outputFileHasOneSource_intoOneFile :
    let renders := (compileOnce { outcome := fun _ => .ok [] } twoFiles intoOneFile).calls
    (∃ o ∈ renders, o.src = "/s/a.scss" ∧ o.dest = "/out.css") ∧
      (∃ o ∈ renders, o.src = "/s/b.scss" ∧ o.dest = "/out.css") ∧
      ¬ (intoOneFile.dispatcher twoFiles).OutputFileHasOneSource renders := by
  intro renders
  obtain ⟨p, hp⟩ : ∃ p, p = (intoOneFile.dispatcher twoFiles).toProject := ⟨_, rfl⟩
  obtain ⟨g, hproject⟩ : ∃ g, p = intoOneFile.project twoFiles g := ⟨_, hp⟩
  have hexists : twoFiles.pathExists (twoFiles.absolute intoOneFile.root) = true := by cbv
  -- no render fails, so that none is left out
  have hrenders : renders = ["/s/a.scss", "/s/b.scss"].map p.optionsFor := by
    show (compileOnce _ twoFiles intoOneFile).calls = _
    rw [compileOnce_of_targets_eq hexists targets_intoOneFile, hp]
    exact calls_compileAll_of_isOk (fun _ => rfl) _ _ _
  have hgiven : givenPath p.layout.outputFile = some "/out.css" := by
    rw [hproject, outputFile_project]
    decide
  have hhands : p.HandsOut "/out.css" none renders := by
    have hroot : p.entryPoint? = none := by
      rw [hproject, entryPoint?_project]
      cbv
    rw [← hroot]
    refine Project.handsOut hgiven fun o ho => ?_
    rw [hrenders] at ho
    obtain ⟨src, -, rfl⟩ := List.mem_map.mp ho
    exact ⟨src, rfl⟩
  have hall : ∀ src, Path.normalize "/" src = src → src ∈ ["/s/a.scss", "/s/b.scss"] →
      ∃ o ∈ renders, o.src = src ∧ o.dest = "/out.css" := by
    intro src hsrc htarget
    have hmem : p.optionsFor src ∈ renders := hrenders ▸ List.mem_map_of_mem htarget
    have hout : Path.normalize "/" "/out.css" = "/out.css" := by decide
    refine ⟨_, hmem, p.src_optionsFor (Path.isCanonical_of_normalize_eq hsrc), ?_⟩
    rw [hhands.dest_eq _ hmem ((hhands.takes_iff _ hmem).mpr (by simp))]
    exact (Path.isCanonical_of_normalize_eq hout).normalize_eq_self _
  have ha := hall "/s/a.scss" (by decide) (by simp)
  have hb := hall "/s/b.scss" (by decide) (by simp)
  refine ⟨ha, hb, fun hone => ?_⟩
  obtain ⟨a, hmem, hsrc, -⟩ := ha
  obtain ⟨b, hmem', hsrc', -⟩ := hb
  rcases hhands.hasOneSource_iff.mp (hp ▸ hone) with hroot | hsame
  · cases hroot
  · have heq := hsame a hmem b hmem'
    rw [hsrc, hsrc'] at heq
    exact absurd heq (by decide)

end CompileRequest

end Restyle
