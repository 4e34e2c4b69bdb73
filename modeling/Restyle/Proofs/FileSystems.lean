import Mathlib
import Restyle.Discovery
import Restyle.Proofs.FilePaths
import Restyle.Proofs.PathParts
import Restyle.Proofs.RealPaths

/-! # File systems
In a file system everything stands in a directory, under a name of its own
(`FileTree.IsFileSystem`). A walk goes from one directory to the next unless it comes by a link, by
a directory that is closed or by a name that is too long; along a way of directories it comes to the
last one (`IsDirectoryWay.walk_append`). Below a path that is found, every path leads where its
names do (`exists_find_pathTo_eq`). -/

namespace Restyle

namespace FileTree

variable {t : FileTree} {here start above rest place : Place} {names dirs more : List String}
  {name root : String} {links : Nat}

/-! ## Names and places -/

/-- A name that something in a file system can have. -/
structure IsFileName (name : String) : Prop where
  isName : Path.IsName name.toList
  no_nul : '\x00' ∉ name.toList
  size_le : name.utf8ByteSize ≤ nameLimit

/-- A file tree is a file system: every entry has such names only on the way to it, and stands in a
directory. -/
structure IsFileSystem (t : FileTree) : Prop where
  isFileName : ∀ entry ∈ t.entries, ∀ name ∈ entry.1, IsFileName name
  entryAt?_dropLast : ∀ entry ∈ t.entries, t.entryAt? entry.1.dropLast = some .directory

instance (name : String) : Decidable (IsFileName name) :=
  decidable_of_iff (Path.IsName name.toList ∧ '\x00' ∉ name.toList ∧ name.utf8ByteSize ≤ nameLimit)
    ⟨fun h => ⟨h.1, h.2.1, h.2.2⟩, fun h => ⟨h.isName, h.no_nul, h.size_le⟩⟩

instance (t : FileTree) : Decidable t.IsFileSystem :=
  decidable_of_iff ((∀ entry ∈ t.entries, ∀ name ∈ entry.1, IsFileName name) ∧
      ∀ entry ∈ t.entries, t.entryAt? entry.1.dropLast = some .directory)
    ⟨fun h => ⟨h.1, h.2⟩, fun h => ⟨h.isFileName, h.entryAt?_dropLast⟩⟩

/-- Every name of a place at which something stands is an `IsFileName`. -/
theorem IsFileSystem.isFileName_of_isSome (h : t.IsFileSystem)
    (hsome : (t.entryAt? place).isSome = true) :
    ∀ name ∈ place, IsFileName name := by
  intro name hname
  obtain ⟨e, he⟩ := Option.isSome_iff_exists.mp hsome
  obtain ⟨entry, hentry, rfl⟩ := exists_mem_of_entryAt? (List.ne_nil_of_mem hname) he
  exact h.isFileName entry hentry name hname

/-- `t.entryAt? above = some .directory` above everything in a file system. -/
theorem IsFileSystem.entryAt?_of_append (h : t.IsFileSystem) (hne : rest ≠ [])
    (hsome : (t.entryAt? (above ++ rest)).isSome = true) : t.entryAt? above = some .directory := by
  induction rest using List.reverseRecOn with
  | nil => exact absurd rfl hne
  | append_singleton rest name ih =>
    obtain ⟨e, he⟩ := Option.isSome_iff_exists.mp hsome
    obtain ⟨entry, hentry, hplace⟩ := exists_mem_of_entryAt? (by simp) he
    have hparent := h.entryAt?_dropLast entry hentry
    rw [hplace, ← List.append_assoc, List.dropLast_concat] at hparent
    by_cases hrest : rest = []
    · rwa [hrest, List.append_nil] at hparent
    · exact ih hrest (by rw [hparent]; rfl)

/-! ## Walking on -/

/-- A walk that ends at `place` can be continued: `t.walk links here (names ++ more) = t.walk left
place more`, with the links that are `left`. -/
theorem exists_walk_append (h : t.walk links here names = .ok place) :
    ∃ left, ∀ more, t.walk links here (names ++ more) = t.walk left place more := by
  rw [← walks_false_iff] at h
  -- only a walk that follows a link spends one, so `left` comes from the rest of the walk
  induction h with
  | @done links here => exact ⟨links, fun more => rfl⟩
  | stay hdir hpass hblank _ ih =>
    obtain ⟨left, hleft⟩ := ih
    exact ⟨left, fun more => (walk_cons_of_blank hdir hpass hblank).trans (hleft more)⟩
  | up hdir hopen _ ih =>
    obtain ⟨left, hleft⟩ := ih
    exact ⟨left, fun more => (walk_cons_of_dots hdir hopen).trans (hleft more)⟩
  | follow hname hentry _ ih =>
    obtain ⟨left, hleft⟩ := ih
    refine ⟨left, fun more => ?_⟩
    rw [List.cons_append, hname.walk_cons_of_link hentry, ← hleft more, List.append_assoc]
  | down hname hentry hlink _ ih =>
    obtain ⟨left, hleft⟩ := ih
    exact ⟨left, fun more => (hname.walk_cons_of_ne_link hentry hlink).trans (hleft more)⟩
  | new hfree => cases hfree

/-- `t.walk links here (name :: more) = .error .notPermitted` in a directory of `t.closed`. -/
theorem walk_cons_of_closed (hname : IsFileName name) (hdir : t.entryAt? here = some .directory)
    (hclosed : here ∈ t.closed) : t.walk links here (name :: more) = .error .notPermitted := by
  have hne : name ≠ "" := fun h => not_blank_of_isName hname.isName (.inl h)
  rw [walk.eq_def]
  simp only
  rw [if_neg (not_not.mpr hdir), if_pos ⟨hclosed, hne⟩]

/-- The name of something in a file system is looked up in every directory that can be passed
through. -/
theorem IsFileName.looksUp (hname : IsFileName name) (hdir : t.entryAt? here = some .directory)
    (hopen : here ∉ t.closed) : t.LooksUp here name where
  isDirectory := hdir
  not_closed := hopen
  isStep := ⟨fun h => not_blank_of_isName hname.isName (.inl h),
    fun h => not_blank_of_isName hname.isName (.inr h), ne_dots_of_isName hname.isName⟩
  size_le := hname.size_le

/-- A name of more than `nameLimit` bytes is refused in every directory that can be passed
through. -/
theorem walk_cons_of_long (hname : Path.IsName name.toList)
    (hdir : t.entryAt? here = some .directory) (hopen : here ∉ t.closed)
    (hlong : nameLimit < name.utf8ByteSize) :
    t.walk links here (name :: more) = .error .nameTooLong := by
  rw [walk.eq_def]
  simp only
  rw [if_neg (not_not.mpr hdir), if_neg (fun h => hopen h.1), if_neg (not_blank_of_isName hname),
    if_neg (ne_dots_of_isName hname), if_pos hlong]

/-- A way of directories leads from `here` down to `here ++ dirs`. -/
structure IsDirectoryWay (t : FileTree) (here : Place) (dirs : List String) : Prop where
  /-- It is a way of directories, none of them a link. -/
  isDirectory : ∀ above, above <+: dirs → t.entryAt? (here ++ above) = some .directory
  /-- None of the directories before the last one is closed. -/
  isPassable : ∀ above, above <+: dirs → above ≠ dirs → here ++ above ∉ t.closed

/-- A way of directories without its first one is one from there on. -/
theorem IsDirectoryWay.tail (h : t.IsDirectoryWay here (name :: dirs)) :
    t.IsDirectoryWay (here ++ [name]) dirs where
  isDirectory above habove := by
    rw [List.append_assoc]
    exact h.isDirectory (name :: above) (List.cons_prefix_cons.mpr ⟨rfl, habove⟩)
  isPassable above habove hne := by
    rw [List.append_assoc]
    exact h.isPassable (name :: above) (List.cons_prefix_cons.mpr ⟨rfl, habove⟩) fun heq =>
      hne (List.cons.inj heq).2

/-- `t.walk links here (dirs ++ more) = t.walk links (here ++ dirs) more` along a way of
directories. -/
theorem IsDirectoryWay.walk_append (h : t.IsDirectoryWay here dirs)
    (hnames : ∀ d ∈ dirs, IsFileName d) :
    t.walk links here (dirs ++ more) = t.walk links (here ++ dirs) more := by
  induction dirs generalizing here with
  | nil => rw [List.append_nil, List.nil_append]
  | cons d dirs ih =>
    have hhere : t.entryAt? here = some .directory := by
      simpa using h.isDirectory [] List.nil_prefix
    have hopen : here ∉ t.closed := by
      simpa using h.isPassable [] List.nil_prefix (List.cons_ne_nil _ _).symm
    have hd : t.LooksUp here d := (hnames d List.mem_cons_self).looksUp hhere hopen
    have hnext := h.isDirectory [d] ⟨dirs, rfl⟩
    rw [List.cons_append, hd.walk_cons_of_ne_link hnext (by simp),
      ih h.tail fun d' hd' => hnames d' (List.mem_cons_of_mem _ hd'), List.append_assoc]
    rfl

/-- A character other than `'/'` stands in `Path.render slashes parts` exactly if it stands in one
of `parts`. -/
theorem mem_render_iff {c : Char} {slashes : List Char} {parts : List Path.Component}
    (hslashes : Path.IsRoot slashes) (hc : c ≠ '/') :
    c ∈ Path.render slashes parts ↔ ∃ part ∈ parts, c ∈ part := by
  have hnone : c ∉ slashes := by rcases hslashes with rfl | rfl <;> simp [hc]
  have hrest : c ∈ List.intercalate ['/'] parts ↔ ∃ part ∈ parts, c ∈ part := by
    induction parts with
    | nil => simp
    | cons part parts ih =>
      cases parts with
      | nil => simp
      | cons next parts =>
        rw [List.intercalate_cons_cons]
        simp only [List.mem_append, List.mem_singleton, hc, or_false, ih, List.exists_mem_cons_iff]
  rw [Path.render, List.mem_append, hrest]
  simp [hnone]

/-- `t.find` of a canonical path without NUL is `t.walk linkLimit []` along its names. -/
theorem find_render {slashes : List Char} {parts : List Path.Component}
    (hslashes : Path.IsRoot slashes) (hparts : ∀ c ∈ parts, Path.IsName c)
    (hnul : ∀ c ∈ parts, '\x00' ∉ c) :
    t.find (String.ofList (Path.render slashes parts)) =
      t.walk linkLimit [] (parts.map String.ofList) := by
  have hcanonical : Path.IsCanonical (String.ofList (Path.render slashes parts)) :=
    ⟨slashes, parts, hslashes, hparts, rfl⟩
  have hnone : '\x00' ∉ Path.render slashes parts := by
    rw [mem_render_iff hslashes (by decide)]
    rintro ⟨part, hpart, hmem⟩
    exact hnul part hpart hmem
  have hempty : String.ofList (Path.render slashes parts) ≠ "" := fun h =>
    Path.render_ne_nil hslashes parts (String.ofList_inj.mp (h.trans rfl))
  rw [find, String.toList_ofList, if_neg hnone, if_neg hempty, hcanonical.join_eq,
    walk_namesOf_render hslashes hparts]

/-- `/` is a canonical path. -/
theorem isCanonical_slash : Path.IsCanonical "/" :=
  ⟨['/'], [], .inl rfl, nofun, rfl⟩

/-- `t.find "/" = .ok []`. -/
theorem find_slash (t : FileTree) : t.find "/" = .ok [] := by
  have hfind : t.find (String.ofList (Path.render ['/'] [])) = t.walk linkLimit [] [] :=
    find_render (.inl rfl) nofun nofun
  exact hfind.trans (walk_nil _ _ _)

/-- `t.find (pathTo root names) = t.walk left start names` for all names, with the links that are
`left` at the place `start` of `root`. -/
theorem exists_find_pathTo_eq (hroot : Path.IsCanonical root) (hstart : t.find root = .ok start) :
    ∃ left, ∀ names, (∀ name ∈ names, IsFileName name) → t.find (pathTo root names) =
      t.walk left start names := by
  obtain ⟨slashes, parts, hslashes, hparts, rfl⟩ := hroot
  obtain ⟨left, hleft⟩ := exists_walk_append (walk_of_find_render hslashes hparts hstart)
  refine ⟨left, fun names hnames => ?_⟩
  have hsteps : ∀ name ∈ names, Path.IsName name.toList :=
    fun name hname => (hnames name hname).isName
  have hnul : ∀ c ∈ parts, '\x00' ∉ c := by
    intro c hc hmem
    have hroot : '\x00' ∈ (String.ofList (Path.render slashes parts)).toList := by
      rw [String.toList_ofList]
      exact (mem_render_iff hslashes (by decide)).mpr ⟨c, hc, hmem⟩
    rw [find, if_pos hroot] at hstart
    cases hstart
  have htoList : (names.map String.toList).map String.ofList = names := by simp [Function.comp_def]
  rw [pathTo, Path.foldl_join_render hslashes hparts names hsteps, find_render hslashes,
    List.map_append, htoList, hleft names]
  · exact List.forall_mem_append.mpr ⟨hparts, List.forall_mem_map.mpr hsteps⟩
  · exact List.forall_mem_append.mpr ⟨hnul, List.forall_mem_map.mpr fun name hname =>
      (hnames name hname).no_nul⟩

/-- `t.walk links here dirs = .error .notPermitted` along directories of which one before the last
is in `t.closed`. -/
theorem walk_of_closed (hnames : ∀ d ∈ dirs, IsFileName d)
    (hdirs : ∀ above, above <+: dirs → t.entryAt? (here ++ above) = some .directory)
    (hclosed : ∃ above, above <+: dirs ∧ above ≠ dirs ∧ here ++ above ∈ t.closed) :
    t.walk links here dirs = .error .notPermitted := by
  induction dirs generalizing here with
  | nil =>
    obtain ⟨above, habove, hne, -⟩ := hclosed
    exact absurd (List.prefix_nil.mp habove) hne
  | cons d dirs ih =>
    have hhere : t.entryAt? here = some .directory := by simpa using hdirs [] List.nil_prefix
    by_cases hopen : here ∈ t.closed
    · exact walk_cons_of_closed (hnames d List.mem_cons_self) hhere hopen
    · obtain ⟨above, habove, hne, hclosed⟩ := hclosed
      cases above with
      | nil => exact absurd (by simpa using hclosed) hopen
      | cons a above =>
        obtain ⟨rfl, hbelow⟩ := List.cons_prefix_cons.mp habove
        rw [((hnames a List.mem_cons_self).looksUp hhere hopen).walk_cons_of_ne_link
          (hdirs [a] ⟨dirs, rfl⟩) (by simp)]
        refine ih (fun d hd => hnames d (List.mem_cons_of_mem _ hd)) (fun next hnext => ?_)
          ⟨above, hbelow, fun heq => hne (congrArg _ heq), by simpa using hclosed⟩
        simpa using hdirs (a :: next) (List.cons_prefix_cons.mpr ⟨rfl, hnext⟩)

/-- `t.list path` names exactly what stands one level below its place, where that is a directory and
not in `t.unlistable`. -/
theorem mem_list_iff {path : String} (hfind : t.find path = .ok place)
    (hdir : t.entryAt? place = some .directory) (hlist : place ∉ t.unlistable) :
    ∃ found, t.list path = .ok found ∧ ∀ name, name ∈ found ↔
    (t.entryAt? (place ++ [name])).isSome = true := by
  refine ⟨t.entries.filterMap fun entry => nameIn? place entry.1,
    by simp [list, hfind, hdir, hlist], fun name => ?_⟩
  simp only [List.mem_filterMap, nameIn?_eq_some_iff]
  constructor
  · rintro ⟨⟨other, e⟩, hentry, rfl⟩
    exact isSome_entryAt?_of_mem hentry
  · intro hsome
    obtain ⟨e, he⟩ := Option.isSome_iff_exists.mp hsome
    exact exists_mem_of_entryAt? (by simp) he

end FileTree

end Restyle
