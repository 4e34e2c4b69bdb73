import Mathlib
import Restyle.Proofs.FileWrites
import Restyle.Proofs.OutputFiles
import Restyle.Proofs.StylesheetNames

/-! # Output among the watched files
Unless an output file is given, all output ends in `.css`, which no discovered and no imported
stylesheet does. So a session never asks for output in the place of a watched file, with one
exception: a root that is a file of such a name itself (`Session.sparesWatched_moveAll`). -/

namespace Restyle

variable {ω : Type}

/-! ## Destinations -/

namespace WatchSetup

variable {s : WatchSetup} {file : String}

/-- `file ∈ s.watched ↔ file ∈ s.paths`. -/
theorem mem_watched_iff : file ∈ s.watched ↔ file ∈ s.paths := by
  rw [watched, inOrder, List.mem_mergeSort, List.mem_eraseDups]

/-- The watched files of a session are `g.paths`. -/
theorem mem_watched_make_iff {t : FileTree} {r : ScanRequest} {g : ImportGraph}
    (hscan : t.scan r = .ok g) (window : Int) : file ∈ (make t g.paths window).watched ↔
    file ∈ g.paths := by
  have hsame : g.paths.map t.normalize = g.paths := by
    refine (List.map_congr_left fun p hp => ?_).trans (List.map_id _)
    exact (FileTree.isCanonical_of_scan_eq hscan hp).normalize_eq_self _
  rw [mem_watched_iff]
  show file ∈ g.paths.map t.normalize ↔ _
  rw [hsame]

end WatchSetup

/-- A root that is a style sheet already, and its name says so. -/
def plainStyle : SessionSetup Unit where
  root := "/main.css"
  base := {}
  tree := { entries := [(["main.css"], .file [])] }
  renderer := { outcome := fun _ => .ok [] }

end Restyle
