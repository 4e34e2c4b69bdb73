import Mathlib
import Restyle.Proofs.FileViews
import Restyle.Proofs.RealPaths

/-! # Matching of events
Which watched files a path means (`WatchSetup.Means`), and which of them a change of the path is
delivered for. A file that stands at a place of its own is told of every change of a path that means
it; of the files that stand at one place, at least one is (`exists_told_of_changed`). -/

namespace Restyle

namespace WatchSetup

/-- A path that is met while every link is as it was at the start. -/
def sighting (s : WatchSetup) (path : String) : Sighting := { path, tree := s.tree }

/-- `(s.sighting path).path = path`. -/
@[simp] theorem path_sighting (s : WatchSetup) (path : String) :
    (s.sighting path).path = path := rfl

variable {s : WatchSetup} {path file real : String}

/-! ## What a path means -/

/-- Whether a path means a file: its canonical form is the path of the file, or leads to the same
place. -/
def Means (s : WatchSetup) (path file : String) : Prop :=
  s.tree.normalize path = file ∨
    s.tree.realPath (s.tree.normalize path) = s.tree.realPath file

/-- Whether no other watched file stands at the place of a file. -/
def StandsAlone (s : WatchSetup) (file : String) : Prop :=
  ∀ other ∈ s.paths, s.tree.realPath other = s.tree.realPath file → other = file

/-! ## Real paths of watched files -/

/-- `s.alias? real` is one of the watched files. -/
theorem mem_paths_of_alias? (h : s.alias? real = some file) : file ∈ s.paths :=
  List.mem_reverse.mp (List.mem_of_find?_eq_some h)

/-- `s.tree.realPath file = real` for the file that `s.alias? real` names. -/
theorem realPath_of_alias? (h : s.alias? real = some file) : s.tree.realPath file = real := by
  have hfound := List.find?_some h
  simpa using hfound

/-- `s.alias? real` names a file if `real` is the real path of any watched file. -/
theorem isSome_alias? (hfile : file ∈ s.paths) (hreal : s.tree.realPath file = real) :
    (s.alias? real).isSome = true := by
  rw [alias?, List.find?_isSome]
  exact ⟨file, List.mem_reverse.mpr hfile, by simp [hreal]⟩

/-! ## Matched files -/

/-- `s.match? x = some (s.tree.normalize x.path)` where that is a watched file. -/
theorem match?_of_mem (s : WatchSetup) (x : Sighting) (h : s.tree.normalize x.path ∈ s.paths) :
    s.match? x = some (s.tree.normalize x.path) := by
  unfold match?
  simp only
  rw [if_pos h]

/-- `s.match? x = s.alias? (x.tree.realPath …)` where `s.tree.normalize x.path` is no watched file:
the real path counts, in the tree of the sighting. -/
theorem match?_of_not_mem (s : WatchSetup) (x : Sighting) (h : s.tree.normalize x.path ∉ s.paths) :
    s.match? x = s.alias? (x.tree.realPath (s.tree.normalize x.path)) := by
  unfold match?
  simp only
  rw [if_neg h]

/-- Only watched files are matched: `s.match? x = some file` only if `file ∈ s.paths`. -/
theorem mem_paths_of_match? {x : Sighting} (h : s.match? x = some file) : file ∈ s.paths := by
  by_cases hmem : s.tree.normalize x.path ∈ s.paths
  · rw [match?_of_mem s x hmem] at h
    exact Option.some.inj h ▸ hmem
  · rw [match?_of_not_mem s x hmem] at h
    exact mem_paths_of_alias? h

/-- The file that `s.match? (s.sighting path)` names is one with `s.Means path file`. -/
theorem means_of_match? (h : s.match? (s.sighting path) = some file) : s.Means path file := by
  by_cases hmem : s.tree.normalize path ∈ s.paths
  · rw [match?_of_mem s (s.sighting path) hmem] at h
    exact .inl (Option.some.inj h)
  · rw [match?_of_not_mem s (s.sighting path) hmem] at h
    exact .inr (realPath_of_alias? h).symm

/-- `s.Means path file` gives a match: `file`, or another one with the same real path. -/
theorem exists_match?_of_means (hfile : file ∈ s.paths) (hmeans : s.Means path file) :
    ∃ other, s.match? (s.sighting path) = some other ∧
      (other = file ∨ s.tree.realPath other = s.tree.realPath file) := by
  by_cases hmem : s.tree.normalize path ∈ s.paths
  · exact ⟨_, match?_of_mem s (s.sighting path) hmem, hmeans⟩
  · rcases hmeans with rfl | hreal
    · exact absurd hfile hmem
    · obtain ⟨other, halias⟩ := Option.isSome_iff_exists.mp (isSome_alias? hfile hreal.symm)
      rw [match?_of_not_mem s (s.sighting path) hmem]
      exact ⟨other, halias, .inr ((realPath_of_alias? halias).trans hreal)⟩

/-- `s.match? (s.sighting path) = some file ↔ s.Means path file` for a file that `StandsAlone`. -/
theorem StandsAlone.match?_eq_some_iff (h : s.StandsAlone file) (hfile : file ∈ s.paths) :
    s.match? (s.sighting path) = some file ↔ s.Means path file := by
  refine ⟨means_of_match?, fun hmeans => ?_⟩
  obtain ⟨other, hmatch, hsame⟩ := exists_match?_of_means hfile hmeans
  have hother : other = file := hsame.elim id (h other (mem_paths_of_match? hmatch))
  rw [hmatch, hother]

/-- `s.Means (s.tree.realPath file) file`, unless a link on the way leads back to itself. -/
theorem means_realPath (h : s.tree.IsResolvable file) : s.Means (s.tree.realPath file) file := by
  have hcanonical : s.tree.normalize (s.tree.realPath file) = s.tree.realPath file :=
    Path.normalize_normalize _ _ _
  refine .inr ?_
  rw [hcanonical, FileTree.realPath_realPath h]

end WatchSetup

namespace Watcher

variable {w : Watcher}

/-- With `w.window = 0`, `notify x .changed` delivers to `w.match? x` at once, in any state of the
watcher and whatever the client raises. -/
theorem deliveries_notify_changed (hwindow : w.window = 0) (x : Sighting) :
    (w.notify x .changed).2.deliveries =
      w.deliveries ++ (w.match? x).toList.map (⟨·, .changed, w.clock⟩) := by
  cases hmatch : w.match? x with
  | none => rw [notify_of_match?_eq_none hmatch, Option.toList_none, List.map_nil, List.append_nil]
  | some file =>
    have hheld : (w.view file).holdsBack w.window w.clock .changed = false := by
      rw [← Bool.not_eq_true, FileView.holdsBack_eq_true_iff]
      exact fun h => h.2.1 hwindow
    rw [notify_of_not_holdsBack hmatch hheld, deliver_snd, touch_clock, touch_deliveries,
      Option.toList_some, List.map_singleton]

/-! ## A tree with links -/

/-- A file with two names, and a file beside the directory to which a link leads. -/
def linkedFiles : FileTree :=
  { entries :=
      [(["a.scss"], .file []), (["b.scss"], .link "a.scss"), (["v"], .directory),
        (["v", "c.scss"], .file []), (["v", "x"], .directory), (["d"], .link "v/x")] }

open FileTree in
/-- The real paths of the files in `linkedFiles`, and of a path that goes back from behind a
link. -/
theorem realPath_linkedFiles :
    linkedFiles.realPath "/a.scss" = "/a.scss" ∧ linkedFiles.realPath "/b.scss" = "/a.scss" ∧
      linkedFiles.realPath "/c.scss" = "/c.scss" ∧ linkedFiles.realPath "/v/c.scss" = "/v/c.scss" ∧
      linkedFiles.realPath "/d/../c.scss" = "/v/c.scss" := by
  have hname : ∀ name ∈ ["a.scss", "b.scss", "c.scss", "v", "x", "d"], Path.IsName name.toList := by
    intro name hname
    fin_cases hname <;> exact ⟨by decide, by decide, by decide, by decide⟩
  have hlink : ∀ place ∈ [["a.scss"], ["c.scss"], ["v"], ["v", "c.scss"], ["v", "x"]],
      ∀ target, linkedFiles.entrySeen? place ≠ some (.link target) := by
    intro place hplace target
    fin_cases hplace <;> exact fun h => nomatch h
  have ha := (isReal_root linkedFiles).append_singleton (hname "a.scss" (by simp))
    (hlink _ (by simp))
  have hc := (isReal_root linkedFiles).append_singleton (hname "c.scss" (by simp))
    (hlink _ (by simp))
  have hv := (isReal_root linkedFiles).append_singleton (hname "v" (by simp)) (hlink _ (by simp))
  have hvc := hv.append_singleton (hname "c.scss" (by simp)) (hlink _ (by simp))
  have hvx := hv.append_singleton (hname "x" (by simp)) (hlink _ (by simp))
  have htargets : namesOf "a.scss" = ["a.scss"] ∧ namesOf "v/x" = ["v", "x"] := by decide
  -- the second name leads to the place of the first, and the way back from behind the link to the
  -- file there
  have hb : linkedFiles.resolve [] [] ["", "b.scss"] = (["a.scss"], true) := by
    rw [resolve, if_pos (.inl rfl), resolve_cons_of_link (hname "b.scss" (by simp)) rfl (by simp)
      (by rw [ite_self, htargets.1]; exact resolve_of_isReal _ ha), resolve]
    rfl
  have hback : linkedFiles.resolve [] [] ["", "d", "..", "c.scss"] = (["v", "c.scss"], true) := by
    rw [resolve, if_pos (.inl rfl), resolve_cons_of_link (hname "d" (by simp)) rfl (by simp)
      (by rw [ite_self, htargets.2]; exact resolve_of_isReal _ hvx), resolve,
      if_neg (by simp), if_pos rfl]
    exact resolve_of_isReal _ hvc
  have hreal : ∀ {place : Place}, linkedFiles.IsReal place →
      linkedFiles.resolve [] [] ("" :: place) = (place, true) := by
    intro place hplace
    rw [resolve, if_pos (.inl rfl)]
    exact resolve_of_isReal [] hplace
  refine ⟨realPath_of_resolve ?_ (hreal ha) ?_, realPath_of_resolve ?_ hb ?_,
    realPath_of_resolve ?_ (hreal hc) ?_, realPath_of_resolve ?_ (hreal hvc) ?_,
    realPath_of_resolve ?_ hback ?_⟩ <;> decide

/-! ## What a change is delivered for -/

/-- As long as no link changes, and without windows, a change of a path is delivered at once, and
for none but watched files that the path means: for the file at the path itself if that is watched,
and else for a watched file at the place to which the path leads, if there is one. So a file that
stands alone is told of exactly the changes of the paths that mean it, and its real path is one of
them. -/
theorem exists_told_of_changed (w : Watcher) (hwindow : w.window = 0) (path : String) :
    ∃ told : List String,
      (w.notify (w.sighting path) .changed).2.deliveries =
        w.deliveries ++ told.map (⟨·, .changed, w.clock⟩) ∧
      (∀ file ∈ told, file ∈ w.paths ∧ w.Means path file) ∧
      (w.tree.normalize path ∈ w.paths → told = [w.tree.normalize path]) ∧
      (∀ file ∈ w.paths, w.Means path file → told ≠ []) ∧
      (∀ file ∈ w.paths, w.StandsAlone file → (file ∈ told ↔ w.Means path file)) ∧
      (∀ file ∈ w.paths, w.tree.IsResolvable file → w.tree.realPath file = path →
        w.Means path file) := by
  refine ⟨(w.match? (w.sighting path)).toList, deliveries_notify_changed hwindow _,
    ?_, ?_, ?_, ?_, ?_⟩
  · intro file hfile
    have hmatch := Option.mem_toList.mp hfile
    exact ⟨WatchSetup.mem_paths_of_match? hmatch, WatchSetup.means_of_match? hmatch⟩
  · intro hmem
    rw [WatchSetup.match?_of_mem _ (w.sighting path) hmem, Option.toList_some,
      WatchSetup.path_sighting]
  · intro file hfile hmeans
    obtain ⟨other, hmatch, -⟩ := WatchSetup.exists_match?_of_means hfile hmeans
    rw [hmatch, Option.toList_some]
    exact List.cons_ne_nil other []
  · -- a file that shares its real path with no other is the one found
    intro file hfile halone
    rw [Option.mem_toList]
    exact halone.match?_eq_some_iff hfile
  · rintro file - hresolvable rfl
    exact WatchSetup.means_realPath hresolvable

/-- A file that is watched under its second name is told of a change under the first one. -/
theorem told_of_changed_otherName :
    let w : Watcher := { toWatchSetup := WatchSetup.make linkedFiles ["/b.scss", "/v/c.scss"] 0 }
    w.window = 0 ∧ "/b.scss" ∈ w.paths ∧ w.StandsAlone "/b.scss" ∧ w.Means "/a.scss" "/b.scss" ∧
      ⟨"/b.scss", .changed, 0⟩ ∈ (w.notify (w.sighting "/a.scss") .changed).2.deliveries := by
  intro w
  obtain ⟨ha, hb, -, hc, -⟩ := realPath_linkedFiles
  have hpaths : w.paths = ["/b.scss", "/v/c.scss"] := by decide
  have hnormal : w.tree.normalize "/a.scss" = "/a.scss" := by decide
  have hmem : "/b.scss" ∈ w.paths := by simp [hpaths]
  have halone : w.StandsAlone "/b.scss" := by
    intro other hother hsame
    rw [hpaths] at hother
    fin_cases hother
    · rfl
    · exact absurd (hc.symm.trans (hsame.trans hb)) (by decide)
  have hmeans : w.Means "/a.scss" "/b.scss" := .inr (by rw [hnormal]; exact ha.trans hb.symm)
  obtain ⟨told, htold, -, -, -, hiff, -⟩ := exists_told_of_changed w rfl "/a.scss"
  refine ⟨rfl, hmem, halone, hmeans, ?_⟩
  rw [htold]
  exact List.mem_append_right _ (List.mem_map_of_mem ((hiff "/b.scss" hmem halone).mpr hmeans))

/-- Of two watched names of one file only the one is told of that the path spells, and a path that
goes back from behind a link is not read as the system reads it. -/
theorem not_told_iff_realPath_eq :
    let w : Watcher :=
      { toWatchSetup := WatchSetup.make linkedFiles ["/a.scss", "/b.scss", "/v/c.scss"] 0 }
    let told (path file : String) : Prop :=
      ⟨file, .changed, 0⟩ ∈ (w.notify (w.sighting path) .changed).2.deliveries
    let isSame (path file : String) : Prop :=
      file ∈ w.paths ∧ (w.tree.normalize path = file ∨ w.tree.realPath path = w.tree.realPath file)
    (isSame "/a.scss" "/b.scss" ∧ ¬told "/a.scss" "/b.scss") ∧
      (isSame "/d/../c.scss" "/v/c.scss" ∧ ¬told "/d/../c.scss" "/v/c.scss") := by
  intro w told isSame
  obtain ⟨ha, hb, hcaway, hc, hback⟩ := realPath_linkedFiles
  have hpaths : w.paths = ["/a.scss", "/b.scss", "/v/c.scss"] := by decide
  have hspelled : w.tree.normalize "/a.scss" = "/a.scss" ∧
      w.tree.normalize "/d/../c.scss" = "/c.scss" := by
    decide
  have hwindow : w.window = 0 := rfl
  -- without a window a change is delivered to the file it matches and to no other
  have hmatch : ∀ {path file : String}, told path file →
      w.match? (w.sighting path) = some file := by
    intro path file h
    have hmem : (⟨file, .changed, 0⟩ : Delivery) ∈
        (w.notify (w.sighting path) .changed).2.deliveries := h
    rw [deliveries_notify_changed hwindow _] at hmem
    obtain ⟨other, hother, heq⟩ := List.mem_map.mp hmem
    have hsame : other = file := congrArg Delivery.path heq
    exact hsame ▸ Option.mem_toList.mp hother
  refine ⟨⟨⟨by simp [hpaths], .inr (ha.trans hb.symm)⟩, fun h => ?_⟩,
    ⟨by simp [hpaths], .inr (hback.trans hc.symm)⟩, fun h => ?_⟩
  · have hmem : w.tree.normalize "/a.scss" ∈ w.paths := by simp [hspelled, hpaths]
    have hfirst := WatchSetup.match?_of_mem w.toWatchSetup (w.sighting "/a.scss") hmem
    rw [WatchSetup.path_sighting, hspelled.1, hmatch h] at hfirst
    exact absurd hfirst (by decide)
  · rcases WatchSetup.means_of_match? (hmatch h) with hsame | hsame
    · exact absurd (hspelled.2.symm.trans hsame) (by decide)
    · rw [hspelled.2] at hsame
      exact absurd (hcaway.symm.trans (hsame.trans hc)) (by decide)

end Watcher

end Restyle
