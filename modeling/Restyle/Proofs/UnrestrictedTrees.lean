import Mathlib
import Restyle.Proofs.DiscoveredFiles

/-! # Trees without restrictions
In a file system without links, closed directories and unlistable ones, the system refuses nothing,
and what stands at a place is what its path leads to. So a search succeeds, and what it finds can be
read off the entries (`FileTree.filesBelow`, `IsUnrestricted.exists_discover_eq_ok`). -/

namespace Restyle

namespace FileTree

variable {t : FileTree} {start : Place} {dirs extensions : List String} {name root p : String}
  {deep : Bool}

/-- Whatever stands in a file tree can be reached by its own names, and looked at. -/
structure IsUnrestricted (t : FileTree) : Prop where
  no_link : ∀ entry ∈ t.entries, ∀ target, t.entryAt? entry.1 ≠ some (.link target)
  closed_eq_nil : t.closed = []
  unlistable_eq_nil : t.unlistable = []

instance (e : Option Entry) : Decidable (∀ target, e ≠ some (.link target)) :=
  match e with
  | none | some (.file _) | some .directory => isTrue nofun
  | some (.link target) => isFalse fun h => h target rfl

instance (t : FileTree) : Decidable t.IsUnrestricted :=
  decidable_of_iff ((∀ entry ∈ t.entries, ∀ target, t.entryAt? entry.1 ≠ some (.link target)) ∧
      t.closed = [] ∧ t.unlistable = [])
    ⟨fun h => ⟨h.1, h.2.1, h.2.2⟩, fun h => ⟨h.no_link, h.closed_eq_nil, h.unlistable_eq_nil⟩⟩

/-- The paths of the stylesheets that stand below the place `start`, in the order of the entries. -/
def filesBelow (t : FileTree) (root : String) (start : Place) (deep : Bool)
    (extensions : List String) : List String :=
  t.entries.filterMap fun entry =>
    match namesBelow? start entry.1 with
    | none => none
    | some names =>
      if (t.entryAt? entry.1).any Entry.isFile ∧ (deep = false → names.length ≤ 1) ∧
          (∀ d ∈ names.dropLast, d ∉ skippedDirectories) ∧
          (names.getLast?.any fun name => extensions.any fun e =>
            Glob.accepts (Glob.read (namePattern e)) name.toList) = true then
        some (pathTo root names)
      else none

/-- Without restrictions, every entry below `start` whose name `MatchesExtension` is a hit. -/
theorem IsUnrestricted.isHit (hopen : t.IsUnrestricted) (h : t.IsFileSystem)
    (hsome : (t.entryAt? (start ++ dirs ++ [name])).isSome = true)
    (hflat : deep = false → dirs = [])
    (hmatches : ∃ e ∈ extensions, MatchesExtension e name) :
    t.IsHit deep extensions start dirs name where
  isDirectory := by
    rintro above ⟨rest, rfl⟩
    have hbelow : (t.entryAt? (start ++ above ++ (rest ++ [name]))).isSome = true := by
      simpa using hsome
    exact h.entryAt?_of_append (by simp) hbelow
  isPassable := by simp [hopen.closed_eq_nil]
  isListable := by simp [hopen.unlistable_eq_nil]
  dirs_eq_nil := hflat
  isSome := hsome
  matches_extension := hmatches

/-- Without restrictions, `t.find` of the path of every hit is its place. -/
theorem IsUnrestricted.find_pathTo (hopen : t.IsUnrestricted) (h : t.IsFileSystem)
    (hroot : Path.IsCanonical root) (hstart : t.find root = .ok start)
    (hhit : t.IsHit deep extensions start dirs name) :
    t.find (pathTo root (dirs ++ [name])) = .ok (start ++ dirs ++ [name]) := by
  refine hhit.find_pathTo h hroot hstart (by simp [hopen.closed_eq_nil]) fun target htarget => ?_
  obtain ⟨entry, hentry, heq⟩ := exists_mem_of_entryAt? (by simp) htarget
  exact hopen.no_link entry hentry target (heq ▸ htarget)

/-- Without restrictions, `t.filesBelow` lists the regular files among the hits of a search that lie
in no skipped directory. -/
theorem IsUnrestricted.mem_filesBelow_iff (hopen : t.IsUnrestricted) (h : t.IsFileSystem) :
    p ∈ t.filesBelow root start deep extensions ↔ ∃ dirs name,
    t.IsHit deep extensions start dirs name ∧
      (∀ d ∈ dirs, d ∉ skippedDirectories) ∧
      (t.entryAt? (start ++ dirs ++ [name])).any Entry.isFile = true ∧
      p = pathTo root (dirs ++ [name]) := by
  unfold filesBelow
  rw [List.mem_filterMap]
  constructor
  · -- the names of an entry split off the last one, which is the file's
    rintro ⟨entry, hentry, hp⟩
    split at hp
    · cases hp
    · next names hnames =>
      rw [Option.ite_none_right_eq_some] at hp
      obtain ⟨⟨hfile, hflat, hskipped, hmatches⟩, hp⟩ := hp
      obtain ⟨name, hname, hmatches⟩ := (Option.any_eq_true _ _).mp hmatches
      obtain ⟨dirs, rfl⟩ := List.getLast?_eq_some_iff.mp hname
      have heq := namesBelow?_eq_some_iff.mp hnames
      rw [← List.append_assoc] at heq
      have hsome := isSome_entryAt?_of_mem hentry
      rw [heq] at hsome hfile
      rw [List.dropLast_concat] at hskipped
      exact ⟨dirs, name, hopen.isHit h hsome (fun hd => by simpa using hflat hd)
        (by simpa [MatchesExtension] using hmatches), hskipped, hfile, (Option.some.inj hp).symm⟩
  · rintro ⟨dirs, name, hhit, hskipped, hfile, rfl⟩
    obtain ⟨e, he⟩ := Option.isSome_iff_exists.mp hhit.isSome
    obtain ⟨entry, hentry, heq⟩ := exists_mem_of_entryAt? (by simp) he
    refine ⟨entry, hentry, ?_⟩
    rw [namesBelow?_eq_some_iff.mpr (heq.trans (List.append_assoc _ _ _))]
    simp only
    rw [if_pos]
    obtain ⟨e', he', hmatches⟩ := hhit.matches_extension
    refine ⟨heq ▸ hfile, fun hflat =>
      by simp [hhit.dirs_eq_nil hflat], by rwa [List.dropLast_concat], ?_⟩
    simpa using ⟨e', he', hmatches⟩

/-- Without restrictions, `t.discover` succeeds with the members of
`t.filesBelow root start deep extensions`. -/
theorem IsUnrestricted.exists_discover_eq_ok (hopen : t.IsUnrestricted) (h : t.IsFileSystem)
    (hroot : Path.IsCanonical root) (hstart : t.find root = .ok start)
    (hdir : t.entryAt? start = some .directory)
    (hextensions : ∀ e ∈ extensions, IsExtension e) (deep : Bool) :
    ∃ found, t.discover root deep extensions = .ok found ∧
      ∀ p, p ∈ found ↔ p ∈ t.filesBelow root start deep extensions := by
  obtain ⟨found, hfound⟩ : ∃ found, t.discover root deep extensions = .ok found :=
    (h.exists_discover_eq_ok_iff hroot hstart hdir hextensions).mpr fun dirs name hhit e htest => by
      have hfail := (testFile_eq_error_iff.mp htest).1
      rw [hopen.find_pathTo h hroot hstart hhit] at hfail
      cases hfail
  refine ⟨found, hfound, fun p => ?_⟩
  rw [h.mem_iff_of_discover_eq_ok hroot hstart hdir hextensions hfound, hopen.mem_filesBelow_iff h]
  -- what stands at the place of a hit is what its path leads to
  have hfile : ∀ {dirs name}, t.IsHit deep extensions start dirs name →
      (t.isFile (pathTo root (dirs ++ [name])) = true ↔
        (t.entryAt? (start ++ dirs ++ [name])).any Entry.isFile = true) := by
    intro dirs name hhit
    rw [← testFile_eq_ok_true_iff, testFile, look, hopen.find_pathTo h hroot hstart hhit]
    simp [Except.map]
  constructor
  · rintro ⟨dirs, name, hhit, hskipped, hisFile, hp⟩
    exact ⟨dirs, name, hhit, hskipped, (hfile hhit).mp hisFile, hp⟩
  · rintro ⟨dirs, name, hhit, hskipped, hisFile, hp⟩
    exact ⟨dirs, name, hhit, hskipped, (hfile hhit).mpr hisFile, hp⟩

/-- Without restrictions, a search from `/` on down succeeds with the members of
`t.filesBelow "/" [] deep stylesheetExtensions`. -/
theorem IsUnrestricted.exists_discover_slash (hopen : t.IsUnrestricted) (h : t.IsFileSystem)
    (root : String) (hslash : t.directoryToScan (t.absolute root) = "/") (deep : Bool) :
    ∃ found, t.discover (t.directoryToScan (t.absolute root)) deep stylesheetExtensions =
      .ok found ∧ ∀ p, p ∈ found ↔ p ∈ t.filesBelow "/" [] deep stylesheetExtensions := by
  rw [hslash]
  exact hopen.exists_discover_eq_ok h isCanonical_slash t.find_slash t.entryAt?_root
    isExtension_of_mem_stylesheetExtensions deep

end FileTree

end Restyle
