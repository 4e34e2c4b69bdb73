import Mathlib
import Restyle.ImportGraph.Scan
import Restyle.Proofs.Walks

/-! # Canonical paths of files
A file tree with links has more canonical paths than places, but not infinitely many: a look-up
follows few links, and between two of them it goes down one level with every name. Main statements:
every canonical path that leads to a file is one of the `possiblePaths` (`mem_possiblePaths`), and
these are no more than `pathBound` (`length_possiblePaths_le`). -/

namespace Restyle

/-! ## Sequences over an alphabet -/

section Sequences

variable {α : Type}

/-- The sequences of at most `n` members of an alphabet. -/
def sequences (alphabet : List α) : Nat → List (List α)
  | 0 => [[]]
  | n + 1 => [] :: alphabet.flatMap fun a => (sequences alphabet n).map (a :: ·)

/-- Every list of members of `alphabet` that is no longer than `n` is among
`sequences alphabet n`. -/
theorem mem_sequences {alphabet l : List α} {n : Nat} (hlength : l.length ≤ n)
    (hmem : ∀ a ∈ l, a ∈ alphabet) : l ∈ sequences alphabet n := by
  induction n generalizing l with
  | zero =>
    rw [List.eq_nil_of_length_eq_zero (Nat.le_zero.mp hlength)]
    exact List.mem_cons_self
  | succ n ih =>
    cases l with
    | nil => exact List.mem_cons_self
    | cons a l =>
      have hl : l ∈ sequences alphabet n :=
        ih (Nat.le_of_succ_le_succ hlength) fun b hb => hmem b (List.mem_cons_of_mem _ hb)
      refine List.mem_cons_of_mem _ (List.mem_flatMap.mpr ⟨a, hmem a List.mem_cons_self, ?_⟩)
      exact List.mem_map_of_mem hl

/-- `(sequences alphabet n).length ≤ (alphabet.length + 1) ^ n`. -/
theorem length_sequences_le (alphabet : List α) (n : Nat) :
    (sequences alphabet n).length ≤ (alphabet.length + 1) ^ n := by
  induction n with
  | zero => exact Nat.le_refl 1
  | succ n ih =>
    have hpos : 1 ≤ (sequences alphabet n).length := by cases n <;> simp [sequences]
    have hlength : (sequences alphabet (n + 1)).length
        = alphabet.length * (sequences alphabet n).length + 1 := by
      simp [sequences, List.length_flatMap]
    calc (sequences alphabet (n + 1)).length
        ≤ (alphabet.length + 1) * (sequences alphabet n).length := by
          rw [hlength, Nat.add_mul]; omega
      _ ≤ (alphabet.length + 1) * (alphabet.length + 1) ^ n := Nat.mul_le_mul_left _ ih
      _ = (alphabet.length + 1) ^ (n + 1) := by rw [pow_succ, Nat.mul_comm]

end Sequences

namespace FileTree

/-! ## Names and depth of entries -/

/-- The names that entries have in their directories. -/
def entryNames (t : FileTree) : List String := t.entries.filterMap (·.1.getLast?)

/-- There are no more names of entries than entries. -/
theorem length_entryNames_le (t : FileTree) : t.entryNames.length ≤ t.entries.length :=
  List.length_filterMap_le _ _

/-- `t.entryAt? place` is something for the place of an entry. -/
theorem isSome_entryAt?_of_mem {t : FileTree} {place : Place} {e : Entry}
    (h : (place, e) ∈ t.entries) :
    (t.entryAt? place).isSome = true := by
  cases place with
  | nil => rfl
  | cons name names => exact List.lookup_isSome_iff.mpr ⟨_, h, beq_self_eq_true _⟩

/-- The last name of a place at which something stands is the name of an entry. -/
theorem mem_entryNames {t : FileTree} {here : Place} {name : String} {e : Entry}
    (h : t.entryAt? (here ++ [name]) = some e) : name ∈ t.entryNames := by
  obtain ⟨p, hp, hplace⟩ := exists_mem_of_entryAt? (by simp) h
  exact List.mem_filterMap.mpr ⟨p, hp, by simp [hplace]⟩

/-- `place.length ≤ t.depth` for a place at which something stands. -/
theorem length_le_depth {t : FileTree} {place : Place} {e : Entry} (h : t.entryAt? place = some e) :
    place.length ≤ t.depth := by
  by_cases hne : place = []
  · simp [hne]
  · obtain ⟨p, hp, rfl⟩ := exists_mem_of_entryAt? hne h
    exact (le_foldl_max _ 0).2 _ (List.mem_map_of_mem hp)

/-! ## What a look-up walks through -/

/-- The number of names that a look-up with the given number of links to follow can walk through. -/
def reach (t : FileTree) (links : Nat) : Nat := links * (t.depth + 1) + t.depth

/-- The names that a successful look-up walks through, apart from those of links, are names of
entries and not too many. -/
structure Walked (t : FileTree) (links : Nat) (names : List String) : Prop where
  mem_entryNames : ∀ name ∈ names, name ∈ t.entryNames
  length_le : names.length ≤ t.reach links

/-- `t.Walked links []`. -/
theorem Walked.nil (t : FileTree) (links : Nat) : t.Walked links [] := ⟨by simp, by simp⟩

/-- A walk that succeeds is `Walked` on its last names `rest`. Whatever comes before them, blank
names or the names of a link, may lead anywhere; when nothing comes before them, the place that has
been reached counts too. -/
theorem walked_of_walk {t : FileTree} {links : Nat} {here place : Place} {names : List String}
    (h : t.walk links here names = .ok place) (before rest : List String)
    (hnames : names = before ++ rest) (hrest : ∀ name ∈ rest, IsStep name) :
    t.Walked links rest ∧
      (before = [] → here.length ≤ t.depth → here.length + rest.length ≤ t.reach links) := by
  rw [← walks_false_iff] at h
  induction h generalizing before rest with
  | @done links here =>
    obtain ⟨rfl, rfl⟩ := List.append_eq_nil_iff.mp hnames.symm
    exact ⟨Walked.nil t links, fun _ hdepth => by simp [reach]; omega⟩
  | stay hdir hpass hblank h ih =>
    -- a blank name is none of the last ones
    rcases List.cons_eq_append_iff.mp hnames with ⟨rfl, rfl⟩ | ⟨before, rfl, rfl⟩
    · have hstep := hrest _ List.mem_cons_self
      exact absurd hblank (not_or.mpr ⟨hstep.1, hstep.2.1⟩)
    · exact ⟨(ih _ _ rfl hrest).1, fun hnil => absurd hnil (List.cons_ne_nil _ _)⟩
  | up hdir hopen h ih =>
    rcases List.cons_eq_append_iff.mp hnames with ⟨rfl, rfl⟩ | ⟨before, rfl, rfl⟩
    · exact absurd rfl (hrest ".." List.mem_cons_self).2.2
    · exact ⟨(ih _ _ rfl hrest).1, fun hnil => absurd hnil (List.cons_ne_nil _ _)⟩
  | @follow links here place name target names hname hentry h ih =>
    -- a link: one name is spent, and one link
    have hlinks : t.reach links + t.depth + 1 = t.reach (links + 1) := by
      simp [reach, Nat.add_mul]; omega
    rcases List.cons_eq_append_iff.mp hnames with ⟨rfl, rfl⟩ | ⟨before, rfl, rfl⟩
    · obtain ⟨hwalked, -⟩ := ih (namesOf target) _ rfl
        fun name hname => hrest name (List.mem_cons_of_mem _ hname)
      have hlength := hwalked.length_le
      refine ⟨⟨?_, ?_⟩, fun _ hdepth => ?_⟩
      · exact List.forall_mem_cons.mpr ⟨mem_entryNames hentry, hwalked.mem_entryNames⟩
      · rw [List.length_cons]; omega
      · rw [List.length_cons]; omega
    · obtain ⟨hwalked, -⟩ := ih (namesOf target ++ before) _ (by simp) hrest
      have hlength := hwalked.length_le
      refine ⟨⟨hwalked.mem_entryNames, ?_⟩, fun hnil => absurd hnil (List.cons_ne_nil _ _)⟩
      omega
  | down hname hentry hlink h ih =>
    -- anything else: one name is spent, and one level
    have hdeep := length_le_depth hentry
    rcases List.cons_eq_append_iff.mp hnames with ⟨rfl, rfl⟩ | ⟨before, rfl, rfl⟩
    · obtain ⟨hwalked, hlevel⟩ := ih [] _ rfl
        fun name hname => hrest name (List.mem_cons_of_mem _ hname)
      have hlength := hlevel rfl hdeep
      rw [List.length_append, List.length_singleton] at hlength
      refine ⟨⟨?_, ?_⟩, fun _ _ => ?_⟩
      · exact List.forall_mem_cons.mpr ⟨mem_entryNames hentry, hwalked.mem_entryNames⟩
      · rw [List.length_cons]; omega
      · rw [List.length_cons]; omega
    · exact ⟨(ih _ _ rfl hrest).1, fun hnil => absurd hnil (List.cons_ne_nil _ _)⟩
  | new hfree => cases hfree

/-! ## Canonical paths that lead somewhere -/

/-- Blank names, which the leading slashes of a path give, are walked through without going
anywhere. -/
theorem walk_blanks_append {t : FileTree} {here : Place} {blanks : List Path.Component}
    (h : ∀ c ∈ blanks, c = []) (hdir : t.entryAt? here = some .directory) (links : Nat)
    (names : List String) :
    t.walk links here (blanks.map String.ofList ++ names) = t.walk links here names := by
  induction blanks with
  | nil => rfl
  | cons c blanks ih =>
    have hc : String.ofList c = "" := by rw [h c List.mem_cons_self]
    rw [List.map_cons, List.cons_append, walk_cons_of_blank hdir (fun _ => hc) (.inl hc),
      ih fun d hd => h d (List.mem_cons_of_mem _ hd)]

/-- From the root, the leading slashes of a canonical path are walked through without going
anywhere. -/
theorem walk_namesOf_render {t : FileTree} {links : Nat} {slashes : List Char}
    {parts : List Path.Component} (hslashes : Path.IsRoot slashes)
    (hparts : ∀ c ∈ parts, Path.IsName c) :
    t.walk links [] (namesOf (String.ofList (Path.render slashes parts))) =
      t.walk links [] (parts.map String.ofList) := by
  obtain ⟨blanks, hblanks, hsplit⟩ := Path.splitOn_render hslashes hparts
  rw [namesOf, String.toList_ofList, hsplit, List.map_append, walk_blanks_append hblanks rfl]

/-- `t.find` of a canonical path is `t.walk linkLimit []` along its names. -/
theorem walk_of_find_render {t : FileTree} {place : Place} {slashes : List Char}
    {parts : List Path.Component} (hslashes : Path.IsRoot slashes)
    (hparts : ∀ c ∈ parts, Path.IsName c)
    (h : t.find (String.ofList (Path.render slashes parts)) = .ok place) :
    t.walk linkLimit [] (parts.map String.ofList) = .ok place := by
  have hcanonical : Path.IsCanonical (String.ofList (Path.render slashes parts)) :=
    ⟨slashes, parts, hslashes, hparts, rfl⟩
  obtain ⟨-, -, hwalks⟩ := find_eq_ok_iff.mp h
  rw [hcanonical.join_eq, walks_false_iff, walk_namesOf_render hslashes hparts] at hwalks
  exact hwalks

/-- `t.find p` succeeds where `t.isFile p`. -/
theorem exists_find_of_isFile {t : FileTree} {p : String} (h : t.isFile p = true) :
    ∃ place, t.find p = .ok place := by
  cases hfind : t.find p with
  | ok place => exact ⟨place, rfl⟩
  | error e => simp [isFile, follow?, hfind] at h

/-- The canonical paths that a look-up may walk through: their names are names of entries, and not
too many. -/
def possiblePaths (t : FileTree) : List String :=
  (sequences t.entryNames (t.reach linkLimit)).flatMap fun names =>
    [['/'], ['/', '/']].map fun root => String.ofList (Path.render root (names.map String.toList))

/-- `p ∈ t.possiblePaths` for every canonical path with `t.isFile p`. -/
theorem mem_possiblePaths {t : FileTree} {p : String} (hp : Path.IsCanonical p)
    (hfile : t.isFile p = true) : p ∈ t.possiblePaths := by
  obtain ⟨place, hfind⟩ := exists_find_of_isFile hfile
  obtain ⟨root, parts, hroot, hparts, rfl⟩ := hp
  obtain ⟨hwalked, -⟩ :=
    walked_of_walk (walk_of_find_render hroot hparts hfind) [] _ rfl fun name hname => by
    obtain ⟨c, hc, rfl⟩ := List.mem_map.mp hname
    exact isStep_ofList (hparts c hc)
  refine List.mem_flatMap.mpr ⟨parts.map String.ofList,
    mem_sequences hwalked.length_le hwalked.mem_entryNames, List.mem_map.mpr ⟨root, ?_, ?_⟩⟩
  · rcases hroot with rfl | rfl <;> simp
  · simp [Function.comp_def]

/-- `t.pathBound`, with one factor set apart. -/
theorem pathBound_eq (t : FileTree) :
    t.pathBound = 2 * ((t.entries.length + 1) ^ t.reach linkLimit * (t.entries.length + 1)) := by
  have hexponent : (linkLimit + 1) * (t.depth + 1) = t.reach linkLimit + 1 := by
    simp [reach, Nat.add_mul]; omega
  rw [pathBound, hexponent, ← pow_succ]
  rfl

/-- There are two `possiblePaths` for every sequence of names up to `t.reach linkLimit`. -/
theorem length_possiblePaths_le_pow (t : FileTree) :
    t.possiblePaths.length ≤ 2 * (t.entries.length + 1) ^ t.reach linkLimit := by
  have hsequences := length_sequences_le t.entryNames (t.reach linkLimit)
  have hnames : (t.entryNames.length + 1) ^ t.reach linkLimit ≤
      (t.entries.length + 1) ^ t.reach linkLimit :=
    Nat.pow_le_pow_left (Nat.succ_le_succ t.length_entryNames_le) _
  simp only [possiblePaths, List.length_flatMap, List.length_map, List.length_cons,
    List.length_nil, List.map_const', List.sum_replicate, smul_eq_mul]
  omega

/-- `t.possiblePaths.length ≤ t.pathBound`. -/
theorem length_possiblePaths_le (t : FileTree) : t.possiblePaths.length ≤ t.pathBound := by
  have hlength := t.length_possiblePaths_le_pow
  have hfactor : (t.entries.length + 1) ^ t.reach linkLimit ≤
      (t.entries.length + 1) ^ t.reach linkLimit * (t.entries.length + 1) :=
    Nat.le_mul_of_pos_right _ (Nat.succ_pos _)
  rw [pathBound_eq]
  omega

end FileTree

end Restyle
