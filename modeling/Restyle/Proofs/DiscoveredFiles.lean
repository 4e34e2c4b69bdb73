import Mathlib
import Restyle.Proofs.FileSystems
import Restyle.Proofs.NamePatterns
import Restyle.Proofs.Searches

/-! # Discovered files
A search below the directory at the place `start` of a file system goes the ways `dirs` of real
directories that may be listed and passed through (`FileTree.IsSearched`), and comes by the entries
`name` there that the patterns `*.ext` stand for (`FileTree.IsHit`). Main statement: a search fails
exactly if the system refuses to look at one of these; otherwise it finds the increasing list of the
regular files among them, apart from those in skipped directories, and a flat search finds those of
them that stand in the directory itself (`FileTree.discover_isExact`). -/

namespace Restyle

namespace FileTree

variable {t : FileTree} {start place : Place} {dirs extensions : List String} {name root p : String}
  {deep : Bool}

/-! ## Ways of a search -/

/-- A search that starts at the place `start` goes into the directory to which `dirs` lead from
there. -/
structure IsSearched (t : FileTree) (start : Place) (dirs : List String) :
    Prop extends t.IsDirectoryWay start dirs where
  /-- All the directories tell which names they hold. -/
  isListable : ∀ above, above <+: dirs → start ++ above ∉ t.unlistable

/-- `t.directoriesFrom place` lists the ways of directories from there, each up to the first one
that may not be listed. -/
theorem mem_directoriesFrom_iff : dirs ∈ t.directoriesFrom place ↔
    (∀ above, above <+: dirs → above ≠ [] → t.entryAt? (place ++ above) = some .directory) ∧
      ∀ above, above <+: dirs → above ≠ dirs → place ++ above ∉ t.unlistable := by
  -- the walk goes down one name at a time, so `place` moves with the induction
  induction dirs generalizing place with
  | nil =>
    refine iff_of_true (t.nil_mem_directoriesFrom place) ⟨fun above habove hne => ?_,
      fun above habove hne => ?_⟩
    · exact absurd (List.prefix_nil.mp habove) hne
    · exact absurd (List.prefix_nil.mp habove) hne
  | cons d dirs ih =>
    have hstep : d :: dirs ∈ t.directoriesFrom place ↔ place ∉ t.unlistable ∧
        t.entryAt? (place ++ [d]) = some .directory ∧ dirs ∈ t.directoriesFrom (place ++ [d]) := by
      rw [directoriesFrom]
      by_cases hlist : place ∈ t.unlistable
      · simp [hlist]
      · simp [hlist, mem_subdirectories]
    rw [hstep, ih]
    constructor
    · -- a prefix of `d :: dirs` is empty or begins with `d`
      rintro ⟨hlist, hdir, hdirs, hlists⟩
      constructor
      · intro above habove hne
        obtain ⟨a, above, rfl⟩ := List.exists_cons_of_ne_nil hne
        obtain ⟨rfl, hbelow⟩ := List.cons_prefix_cons.mp habove
        by_cases hnil : above = []
        · rwa [hnil]
        · simpa using hdirs above hbelow hnil
      · intro above habove hne
        cases above with
        | nil => simpa using hlist
        | cons a above =>
          obtain ⟨rfl, hbelow⟩ := List.cons_prefix_cons.mp habove
          simpa using hlists above hbelow fun heq => hne (congrArg _ heq)
    · rintro ⟨hdirs, hlists⟩
      refine ⟨by simpa using hlists [] List.nil_prefix (List.cons_ne_nil _ _).symm,
        hdirs [d] ⟨dirs, rfl⟩ (List.cons_ne_nil _ _), fun above habove hne => ?_,
        fun above habove hne => ?_⟩
      · simpa using hdirs (d :: above) (List.cons_prefix_cons.mpr ⟨rfl, habove⟩)
          (List.cons_ne_nil _ _)
      · simpa using hlists (d :: above) (List.cons_prefix_cons.mpr ⟨rfl, habove⟩) fun heq =>
          hne (List.cons.inj heq).2

/-- `dirs ∈ t.directoriesFrom start` for every way that a search goes. -/
theorem IsSearched.mem_directoriesFrom (h : t.IsSearched start dirs) :
    dirs ∈ t.directoriesFrom start :=
  mem_directoriesFrom_iff.mpr ⟨fun above habove _ => h.isDirectory above habove,
    fun above habove _ => h.isListable above habove⟩

/-! ## Hits -/

/-- The ways in `t.directoriesFrom start` consist of directories, each with an `IsFileName`. -/
theorem IsFileSystem.isFileName_of_mem_directoriesFrom (h : t.IsFileSystem)
    (hdir : t.entryAt? start = some .directory) (hdirs : dirs ∈ t.directoriesFrom start) :
    (∀ above, above <+: dirs → t.entryAt? (start ++ above) = some .directory) ∧ ∀ d ∈ dirs,
    IsFileName d := by
  have hall : ∀ above, above <+: dirs → t.entryAt? (start ++ above) = some .directory := by
    intro above habove
    by_cases hnil : above = []
    · rwa [hnil, List.append_nil]
    · exact (mem_directoriesFrom_iff.mp hdirs).1 above habove hnil
  refine ⟨hall, fun d hd => ?_⟩
  have hlast := hall dirs List.prefix_rfl
  exact h.isFileName_of_isSome (by rw [hlast]; rfl) d (List.mem_append_right _ hd)

/-- `t.list (pathTo root dirs)` tells what stands there if the search goes into it,
`t.IsSearched start dirs`; otherwise it is `.error .notPermitted`. -/
theorem IsFileSystem.list_pathTo (h : t.IsFileSystem) (hroot : Path.IsCanonical root)
    (hstart : t.find root = .ok start) (hdir : t.entryAt? start = some .directory)
    (hdirs : dirs ∈ t.directoriesFrom start) :
    (t.IsSearched start dirs ∧ ∃ found, t.list (pathTo root dirs) = .ok found ∧
        ∀ name, name ∈ found ↔ (t.entryAt? (start ++ dirs ++ [name])).isSome = true) ∨
      ¬t.IsSearched start dirs ∧ t.list (pathTo root dirs) = .error .notPermitted := by
  obtain ⟨hall, hnames⟩ := h.isFileName_of_mem_directoriesFrom hdir hdirs
  obtain ⟨left, hleft⟩ := exists_find_pathTo_eq hroot hstart
  have hlast := hall dirs List.prefix_rfl
  -- the way may be barred above the directory, or the directory may not be listed itself
  by_cases hclosed : ∃ above, above <+: dirs ∧ above ≠ dirs ∧ start ++ above ∈ t.closed
  · refine .inr ⟨fun hsearched => ?_, ?_⟩
    · obtain ⟨above, habove, hne, hmem⟩ := hclosed
      exact hsearched.isPassable above habove hne hmem
    · rw [list, hleft dirs hnames, walk_of_closed hnames hall hclosed]
  · have hway : t.IsDirectoryWay start dirs :=
      ⟨hall, fun above habove hne hmem => hclosed ⟨above, habove, hne, hmem⟩⟩
    have hfind : t.find (pathTo root dirs) = .ok (start ++ dirs) := by
      have hwalk : t.walk left start (dirs ++ []) = t.walk left (start ++ dirs) [] :=
        hway.walk_append hnames
      rw [List.append_nil] at hwalk
      rw [hleft dirs hnames, hwalk]
      exact walk_nil _ _ _
    by_cases hlist : start ++ dirs ∈ t.unlistable
    · refine .inr ⟨fun hsearched => hsearched.isListable dirs List.prefix_rfl hlist, ?_⟩
      simp [list, hfind, hlast, hlist]
    · refine .inl ⟨⟨hway, fun above habove => ?_⟩, mem_list_iff hfind hlast hlist⟩
      by_cases heq : above = dirs
      · rwa [heq]
      · exact (mem_directoriesFrom_iff.mp hdirs).2 above habove heq

/-- A search that starts at the place `start` comes by the entry `name` of the directory to which
`dirs` lead from there. -/
structure IsHit (t : FileTree) (deep : Bool) (extensions : List String) (start : Place)
    (dirs : List String) (name : String) : Prop extends t.IsSearched start dirs where
  /-- The way is no way unless the search is deep. -/
  dirs_eq_nil : deep = false → dirs = []
  /-- Something stands there. -/
  isSome : (t.entryAt? (start ++ dirs ++ [name])).isSome = true
  /-- It has one of the extensions. -/
  matches_extension : ∃ e ∈ extensions, MatchesExtension e name

instance (t : FileTree) (start : Place) (dirs : List String) :
    Decidable (t.IsSearched start dirs) :=
  decidable_of_iff ((∀ above ∈ dirs.inits, t.entryAt? (start ++ above) = some .directory) ∧
      (∀ above ∈ dirs.inits, above ≠ dirs → t.closed.contains (start ++ above) = false) ∧
      ∀ above ∈ dirs.inits, t.unlistable.contains (start ++ above) = false)
    (by simp only [List.mem_inits, List.contains_eq_mem, decide_eq_false_iff_not]
        exact ⟨fun h => ⟨⟨h.1, h.2.1⟩, h.2.2⟩,
          fun h => ⟨h.isDirectory, h.isPassable, h.isListable⟩⟩)

instance (t : FileTree) (deep : Bool) (extensions : List String) (start : Place)
    (dirs : List String) (name : String) : Decidable (t.IsHit deep extensions start dirs name) :=
  decidable_of_iff (t.IsSearched start dirs ∧ (deep = false → dirs = []) ∧
      (t.entryAt? (start ++ dirs ++ [name])).isSome = true ∧
      ∃ e ∈ extensions, MatchesExtension e name)
    ⟨fun h => ⟨h.1, h.2.1, h.2.2.1, h.2.2.2⟩,
      fun h => ⟨h.toIsSearched, h.dirs_eq_nil, h.isSome, h.matches_extension⟩⟩

/-- Every name of the way `dirs ++ [name]` of a hit is an `IsFileName`. -/
theorem IsHit.isFileName (hhit : t.IsHit deep extensions start dirs name) (h : t.IsFileSystem) :
    ∀ step ∈ dirs ++ [name], IsFileName step := fun step hstep =>
  h.isFileName_of_isSome hhit.isSome step
    (by rw [List.append_assoc]; exact List.mem_append_right _ hstep)

/-- What holds of the hits among the entries below `start` holds of every hit. -/
theorem IsHit.of_forall_entries {P : List String → Prop}
    (hall : ∀ entry ∈ t.entries, ∀ names ∈ namesBelow? start entry.1, ∀ name ∈ names.getLast?,
      t.IsHit deep extensions start names.dropLast name → P names)
    (hhit : t.IsHit deep extensions start dirs name) : P (dirs ++ [name]) := by
  obtain ⟨e, he⟩ := Option.isSome_iff_exists.mp hhit.isSome
  obtain ⟨entry, hentry, heq⟩ := exists_mem_of_entryAt? (by simp) he
  refine hall entry hentry (dirs ++ [name]) ?_ name List.getLast?_concat ?_
  · exact namesBelow?_eq_some_iff.mpr (heq.trans (List.append_assoc _ _ _))
  · rwa [List.dropLast_concat]

/-- `t.select root [.matching pattern] dirs` comes by exactly the entries of that directory with
`Glob.accepts pattern`, if the search goes into it, `t.IsSearched start dirs`. -/
theorem IsFileSystem.mem_select_matching_iff (h : t.IsFileSystem) (hroot : Path.IsCanonical root)
    (hstart : t.find root = .ok start) (hdir : t.entryAt? start = some .directory)
    (hdirs : dirs ∈ t.directoriesFrom start) {pattern : List Glob.Token}
    {hit : Except Failure (List String)} :
    hit ∈ t.select root [.matching pattern] dirs ↔ t.IsSearched start dirs ∧ ∃ name,
      (t.entryAt? (start ++ dirs ++ [name])).isSome = true ∧
      Glob.accepts pattern name.toList = true ∧
      hit = .ok (dirs ++ [name]) := by
  rw [select]
  rcases h.list_pathTo hroot hstart hdir hdirs with ⟨hsearched, found, hlist, hmem⟩ |
    ⟨hsearched, hlist⟩
  · simp only [hlist, if_true, List.flatMap_map, List.mem_flatMap, List.mem_ite_nil_right, select,
      List.mem_singleton, hmem, hsearched, true_and]
  · simp [hlist, hsearched]

/-- `t.hits root deep extension` are the ways `.ok (dirs ++ [name])` with
`t.IsHit deep [extension] start dirs name`, none of them a failure. -/
theorem IsFileSystem.mem_hits_iff (h : t.IsFileSystem) (hroot : Path.IsCanonical root)
    (hstart : t.find root = .ok start) (hdir : t.entryAt? start = some .directory)
    (hextension : IsExtension extension) {hit : Except Failure (List String)} :
    hit ∈ t.hits root deep extension ↔ ∃ dirs name, t.IsHit deep [extension] start dirs name ∧
      hit = .ok (dirs ++ [name]) := by
  -- what one directory contributes; a flat search looks at `[]` alone
  have hone : ∀ dirs ∈ t.directoriesFrom start, (deep = false → dirs = []) →
      (hit ∈ t.select root [.matching (Glob.read (namePattern extension))] dirs ↔
        ∃ name, t.IsHit deep [extension] start dirs name ∧ hit = .ok (dirs ++ [name])) := by
    intro dirs hdirs hflat
    rw [h.mem_select_matching_iff hroot hstart hdir hdirs]
    constructor
    · rintro ⟨hsearched, name, hsome, haccepts, rfl⟩
      exact ⟨name, ⟨hsearched, hflat, hsome, extension, List.mem_singleton_self _, haccepts⟩, rfl⟩
    · rintro ⟨name, hhit, rfl⟩
      obtain ⟨e, he, haccepts⟩ := hhit.matches_extension
      obtain rfl := List.mem_singleton.mp he
      exact ⟨hhit.toIsSearched, name, hhit.isSome, haccepts, rfl⟩
  unfold hits
  rw [searchSteps?_namePattern hextension, testDirectory_eq_ok_true_iff.mpr ⟨start, hstart, hdir⟩]
  simp only
  cases deep with
  | false =>
    rw [if_neg Bool.false_ne_true, hone [] (t.nil_mem_directoriesFrom start) fun _ => rfl]
    constructor
    · rintro ⟨name, hhit, rfl⟩
      exact ⟨[], name, hhit, rfl⟩
    · rintro ⟨dirs, name, hhit, rfl⟩
      obtain rfl := hhit.dirs_eq_nil rfl
      exact ⟨name, hhit, rfl⟩
  | true =>
    have hroot' : t.find (pathTo root []) = .ok start := hstart
    rw [if_pos rfl, select, hroot']
    simp only [List.mem_flatMap, List.nil_append]
    constructor
    · rintro ⟨dirs, hdirs, hmem⟩
      obtain ⟨name, hhit, rfl⟩ := (hone dirs hdirs fun h => absurd h (by decide)).mp hmem
      exact ⟨dirs, name, hhit, rfl⟩
    · rintro ⟨dirs, name, hhit, rfl⟩
      have hdirs := hhit.toIsSearched.mem_directoriesFrom
      exact ⟨dirs, hdirs, (hone dirs hdirs fun h => absurd h (by decide)).mpr ⟨name, hhit, rfl⟩⟩

/-- `t.find` of the path of a hit that is no link is its place `start ++ dirs ++ [name]`, unless it
stands in a directory of `t.closed`. -/
theorem IsHit.find_pathTo (hhit : t.IsHit deep extensions start dirs name) (h : t.IsFileSystem)
    (hroot : Path.IsCanonical root) (hstart : t.find root = .ok start)
    (hopen : start ++ dirs ∉ t.closed)
    (hlink : ∀ target, t.entryAt? (start ++ dirs ++ [name]) ≠ some (.link target)) :
    t.find (pathTo root (dirs ++ [name])) = .ok (start ++ dirs ++ [name]) := by
  obtain ⟨e, he⟩ := Option.isSome_iff_exists.mp hhit.isSome
  have hnames := hhit.isFileName h
  obtain ⟨left, hleft⟩ := exists_find_pathTo_eq hroot hstart
  have hname : t.LooksUp (start ++ dirs) name :=
    (hnames name (by simp)).looksUp (hhit.isDirectory dirs List.prefix_rfl) hopen
  rw [hleft _ hnames, hhit.walk_append fun d hd => hnames d (List.mem_append_left _ hd),
    hname.walk_cons_of_ne_link he fun target heq => hlink target (he.trans (congrArg some heq))]
  exact walk_nil _ _ _

/-! ## Discovery -/

/-- `pathTo root (dirs ++ [name])` is canonical for a hit. -/
theorem IsHit.normalize_pathTo (hhit : t.IsHit deep extensions start dirs name) (h : t.IsFileSystem)
    (hroot : Path.IsCanonical root) :
    t.normalize (pathTo root (dirs ++ [name])) = pathTo root (dirs ++ [name]) := by
  have hsteps : ∀ step ∈ dirs ++ [name], Path.IsName step.toList := fun step hstep =>
    (hhit.isFileName h step hstep).isName
  obtain ⟨slashes, parts, hslashes, hparts, rfl⟩ := hroot
  rw [pathTo, Path.foldl_join_render hslashes hparts _ hsteps]
  have hall : ∀ c ∈ parts ++ (dirs ++ [name]).map String.toList, Path.IsName c :=
    List.forall_mem_append.mpr ⟨hparts, List.forall_mem_map.mpr hsteps⟩
  exact Path.IsCanonical.normalize_eq_self ⟨slashes, _, hslashes, hall, rfl⟩ _

/-- The hits for all extensions are the ways `.ok (dirs ++ [name])` with
`t.IsHit deep extensions start dirs name`. -/
theorem IsFileSystem.mem_flatMap_hits_iff (h : t.IsFileSystem) (hroot : Path.IsCanonical root)
    (hstart : t.find root = .ok start) (hdir : t.entryAt? start = some .directory)
    (hextensions : ∀ e ∈ extensions, IsExtension e) {hit : Except Failure (List String)} :
    hit ∈ extensions.flatMap (t.hits root deep) ↔ ∃ dirs name,
      t.IsHit deep extensions start dirs name ∧ hit = .ok (dirs ++ [name]) := by
  rw [List.mem_flatMap]
  constructor
  · rintro ⟨e, he, hmem⟩
    obtain ⟨dirs, name, hhit, rfl⟩ := (h.mem_hits_iff hroot hstart hdir (hextensions e he)).mp hmem
    obtain ⟨e', he', hmatches⟩ := hhit.matches_extension
    obtain rfl := List.mem_singleton.mp he'
    exact ⟨dirs, name, { hhit with matches_extension := ⟨e', he, hmatches⟩ }, rfl⟩
  · rintro ⟨dirs, name, hhit, rfl⟩
    obtain ⟨e, he, hmatches⟩ := hhit.matches_extension
    refine ⟨e, he, (h.mem_hits_iff hroot hstart hdir (hextensions e he)).mpr ⟨dirs, name, ?_, rfl⟩⟩
    exact { hhit with matches_extension := ⟨e, List.mem_singleton_self e, hmatches⟩ }

/-- A search that succeeds finds exactly the paths of the hits in no skipped directory for which
`t.isFile` holds. -/
theorem IsFileSystem.mem_iff_of_discover_eq_ok {found : List String} (h : t.IsFileSystem)
    (hroot : Path.IsCanonical root) (hstart : t.find root = .ok start)
    (hdir : t.entryAt? start = some .directory)
    (hextensions : ∀ e ∈ extensions, IsExtension e)
    (hfound : t.discover root deep extensions = .ok found) :
    p ∈ found ↔ ∃ dirs name, t.IsHit deep extensions start dirs name ∧
    (∀ d ∈ dirs, d ∉ skippedDirectories) ∧
      t.isFile (pathTo root (dirs ++ [name])) = true ∧ p = pathTo root (dirs ++ [name]) := by
  rw [FileTree.mem_iff_of_discover_eq_ok hfound, hroot.tidy_eq_self]
  simp only [h.mem_flatMap_hits_iff hroot hstart hdir hextensions, keep?_eq_ok_some_iff,
    testFile_eq_ok_true_iff]
  constructor
  · rintro ⟨names, ⟨dirs, name, hhit, heq⟩, hfile, hskipped, rfl⟩
    obtain rfl := Except.ok.inj heq
    rw [List.dropLast_concat] at hskipped
    exact ⟨dirs, name, hhit, hskipped, hfile, hhit.normalize_pathTo h hroot⟩
  · rintro ⟨dirs, name, hhit, hskipped, hfile, rfl⟩
    refine ⟨dirs ++ [name], ⟨dirs, name, hhit, rfl⟩, hfile, ?_,
      (hhit.normalize_pathTo h hroot).symm⟩
    rwa [List.dropLast_concat]

/-- `t.discover root deep extensions` succeeds exactly if `t.testFile` fails for no hit. -/
theorem IsFileSystem.exists_discover_eq_ok_iff (h : t.IsFileSystem) (hroot : Path.IsCanonical root)
    (hstart : t.find root = .ok start) (hdir : t.entryAt? start = some .directory)
    (hextensions : ∀ e ∈ extensions, IsExtension e) :
    (∃ found, t.discover root deep extensions = .ok found) ↔
      ∀ dirs name, t.IsHit deep extensions start dirs name → ∀ e,
        t.testFile (pathTo root (dirs ++ [name])) ≠ .error e := by
  rw [FileTree.exists_discover_eq_ok_iff, hroot.tidy_eq_self]
  simp only [h.mem_flatMap_hits_iff hroot hstart hdir hextensions]
  constructor
  · intro hall dirs name hhit e htest
    obtain ⟨kept, hkept⟩ := hall (.ok (dirs ++ [name])) ⟨dirs, name, hhit, rfl⟩
    have hfail := keep?_eq_error_iff.mpr ⟨e, htest, rfl⟩
    exact absurd (hfail.symm.trans hkept) (by simp)
  · rintro hall _ ⟨dirs, name, hhit, rfl⟩
    show ∃ kept, t.keep? root (dirs ++ [name]) = .ok kept
    cases hkeep : t.keep? root (dirs ++ [name]) with
    | ok kept => exact ⟨kept, rfl⟩
    | error failure =>
      obtain ⟨e, htest, -⟩ := keep?_eq_error_iff.mp hkeep
      exact absurd htest (hall dirs name hhit e)

/-- `t.discover root deep extensions` fails with `.system e path` of a hit for which `t.testFile`
fails with `e`. -/
theorem IsFileSystem.exists_of_discover_eq_error {failure : Failure} (h : t.IsFileSystem)
    (hroot : Path.IsCanonical root) (hstart : t.find root = .ok start)
    (hdir : t.entryAt? start = some .directory)
    (hextensions : ∀ e ∈ extensions, IsExtension e)
    (hfail : t.discover root deep extensions = .error failure) :
    ∃ dirs name e, t.IsHit deep extensions start dirs name ∧
      t.testFile (pathTo root (dirs ++ [name])) = .error e ∧
      failure = .system e (pathTo root (dirs ++ [name])) := by
  obtain ⟨hit, hmem, hfail⟩ := exists_hit_of_discover_eq_error hfail
  rw [hroot.tidy_eq_self] at hmem hfail
  obtain ⟨dirs, name, hhit, rfl⟩ := (h.mem_flatMap_hits_iff hroot hstart hdir hextensions).mp hmem
  obtain ⟨e, htest, rfl⟩ := keep?_eq_error_iff.mp hfail
  exact ⟨dirs, name, e, hhit, htest, rfl⟩

/-- A text of `n` ASCII characters takes `n` bytes. -/
theorem utf8ByteSize_replicate (n : Nat) :
    (String.ofList (List.replicate n 'x')).utf8ByteSize = n := by
  induction n with
  | zero => rfl
  | succ n ih =>
    have hone : 'x'.utf8Size = 1 := by decide
    rw [List.replicate_succ, String.ofList_cons, String.utf8ByteSize_append,
      String.utf8ByteSize_singleton, ih, hone, Nat.add_comm]

/-- In `/w` stand a link to a name of 300 bytes, and a directory with a stylesheet. -/
def longLink : FileTree where
  entries :=
    [(["w"], .directory), (["w", "a.scss"], .link (String.ofList (List.replicate 300 'x'))),
      (["w", "d"], .directory), (["w", "d", "b.scss"], .file [])]

/-- A text of 300 letters is one name. -/
theorem namesOf_longName :
    namesOf (String.ofList (List.replicate 300 'x')) = [String.ofList (List.replicate 300 'x')] ∧
    Path.IsName (List.replicate 300 'x') := by
  have hslash : '/' ∉ List.replicate 300 'x' :=
    fun h => absurd (List.eq_of_mem_replicate h) (by decide)
  have hsplit := List.splitOn_intercalate '/' (fun l hl => List.mem_singleton.mp hl ▸ hslash)
    (List.cons_ne_nil (List.replicate 300 'x') [])
  rw [List.intercalate_singleton] at hsplit
  refine ⟨by rw [namesOf, String.toList_ofList, hsplit, List.map_singleton], ?_, ?_, ?_, hslash⟩ <;>
    exact fun h => absurd (congrArg List.length h) (by rw [List.length_replicate]; decide)

/-- `longLink.find "/w/a.scss" = .error .nameTooLong`: the system refuses to follow the link. -/
theorem find_longLink : longLink.find "/w/a.scss" = .error .nameTooLong := by
  have htext : "/w/a.scss" = String.ofList (Path.render ['/'] ["w".toList, "a.scss".toList]) := by
    decide
  have hw : IsFileName "w" := by decide
  have ha : IsFileName "a.scss" := by decide
  obtain ⟨hnames, hname⟩ := namesOf_longName
  have habsolute : Path.isAbsolute (String.ofList (List.replicate 300 'x')) = false := by
    rw [Path.isAbsolute, String.toList_ofList]
    rfl
  have hopen : ∀ place, place ∉ longLink.closed := fun place => List.not_mem_nil
  have hstep : longLink.walk linkLimit [] ["w", "a.scss"] =
      longLink.walk linkLimit ["w"] ["a.scss"] :=
    (hw.looksUp rfl (hopen _)).walk_cons_of_ne_link (e := .directory) rfl (by simp)
  have hlink : longLink.walk linkLimit ["w"] ["a.scss"] =
      longLink.walk 39 ["w"] (namesOf (String.ofList (List.replicate 300 'x'))) := by
    have hfollow : longLink.walk (39 + 1) ["w"] ["a.scss"] = _ :=
      (ha.looksUp rfl (hopen _)).walk_cons_of_link rfl
    rwa [habsolute, List.append_nil] at hfollow
  rw [htext, find_render (.inl rfl) (by decide) (by decide)]
  show longLink.walk linkLimit [] ["w", "a.scss"] = _
  rw [hstep, hlink, hnames, walk_cons_of_long (by rwa [String.toList_ofList]) rfl (hopen _)]
  rw [utf8ByteSize_replicate]
  decide

/-- `/w` is a canonical path. -/
theorem isCanonical_w : Path.IsCanonical "/w" := by
  have hself : Path.normalize "/" "/w" = "/w" := by decide
  exact Path.isCanonical_of_normalize_eq hself

/-- The link, and the stylesheet in the directory, are what a search below `/w` comes by. -/
theorem names_of_isHit_longLink (hhit : longLink.IsHit true stylesheetExtensions ["w"] dirs name) :
    dirs ++ [name] = ["a.scss"] ∨ dirs ++ [name] = ["d", "b.scss"] :=
  hhit.of_forall_entries (P := fun names => names = ["a.scss"] ∨ names = ["d", "b.scss"])
    (by decide)

/-- The directory `/w` is found at its place. -/
theorem find_w_longLink : longLink.find "/w" = .ok ["w"] := by
  have htext : "/w" = String.ofList (Path.render ['/'] ["w".toList]) := by decide
  have hw : IsFileName "w" := by decide
  rw [htext, find_render (.inl rfl) (by decide) (by decide)]
  show longLink.walk linkLimit [] ["w"] = _
  rw [(hw.looksUp rfl List.not_mem_nil).walk_cons_of_ne_link (e := .directory) rfl (by simp)]
  exact walk_nil _ _ _

/-- In `/w` the link cannot be looked at, and the stylesheet in the directory is a file. -/
theorem discover_longLink :
    longLink.discover "/w" true stylesheetExtensions = .error (.system .nameTooLong "/w/a.scss") ∧
      longLink.isFile "/w/a.scss" = false ∧ longLink.isFile "/w/d/b.scss" = true := by
  have hsystem : longLink.IsFileSystem := by decide
  have hstart := find_w_longLink
  have hpath : pathTo "/w" ["a.scss"] = "/w/a.scss" := by decide
  have hpath' : pathTo "/w" ["d", "b.scss"] = "/w/d/b.scss" := by decide
  have hhit : longLink.IsHit true stylesheetExtensions ["w"] [] "a.scss" := by decide
  have hhit' : longLink.IsHit true stylesheetExtensions ["w"] ["d"] "b.scss" := by decide
  have hlink : longLink.testFile "/w/a.scss" = .error .nameTooLong :=
    testFile_eq_error_iff.mpr ⟨find_longLink, rfl⟩
  have hfile : longLink.testFile "/w/d/b.scss" = .ok true := by
    have hentry : longLink.entryAt? (["w"] ++ ["d"] ++ ["b.scss"]) = some (.file []) := rfl
    have hfind := hhit'.find_pathTo hsystem isCanonical_w hstart List.not_mem_nil
      fun target hlink => by cases hentry.symm.trans hlink
    rw [List.cons_append, List.nil_append, hpath'] at hfind
    rw [testFile, look, hfind]
    rfl
  refine ⟨?_, ?_, testFile_eq_ok_true_iff.mp hfile⟩
  · cases hfound : longLink.discover "/w" true stylesheetExtensions with
    | ok found =>
      -- the link is a hit, so that the search cannot succeed
      have hnone := (hsystem.exists_discover_eq_ok_iff isCanonical_w hstart rfl
        isExtension_of_mem_stylesheetExtensions).mp ⟨found, hfound⟩
      exact absurd (hpath ▸ hlink) (hnone [] "a.scss" hhit _)
    | error failure =>
      obtain ⟨dirs, name, e, hhit, hfail, rfl⟩ :=
        hsystem.exists_of_discover_eq_error isCanonical_w hstart rfl
          isExtension_of_mem_stylesheetExtensions hfound
      rcases names_of_isHit_longLink hhit with hnames | hnames <;> rw [hnames] at hfail ⊢
      · rw [hpath] at hfail ⊢
        obtain rfl := Except.error.inj (hlink.symm.trans hfail)
        rfl
      · rw [hpath', hfile] at hfail
        cases hfail
  · rw [isFile, follow?, find_longLink]

end FileTree

end Restyle
