import Mathlib
import Restyle.Discovery
import Restyle.Proofs.FreshOnes
import Restyle.Proofs.PathParts

/-! # Searches
A search that succeeds has looked at everything it came by: `found` holds `p` exactly if `.ok names`
is among the hits and `t.keep? root names = .ok (some p)` (`mem_iff_of_discover_eq_ok`), and a
search fails exactly as one of its hits does (`exists_hit_of_discover_eq_error`). A flat search
comes by nothing that a deep one does not come by (`hits_flat_subset`). -/

namespace Restyle

/-! ## Fallible lists -/

/-- `xs.mapM f = .ok ys` holds exactly if `f x = .ok y` for the members `x` and `y` at the same
positions. -/
theorem mapM_eq_ok_iff {ε α β : Type} {f : α → Except ε β} {xs : List α} {ys : List β} :
    xs.mapM f = .ok ys ↔ List.Forall₂ (fun x y => f x = .ok y) xs ys := by
  induction xs generalizing ys with
  | nil => cases ys <;> simp [pure, Except.pure]
  | cons x xs ih =>
    rw [List.mapM_cons]
    cases hx : f x with
    | error e => cases ys <;> simp [bind, Except.bind, hx]
    | ok y =>
      cases hxs : xs.mapM f with
      | error e => cases ys <;> simp [bind, Except.bind, ← ih, hxs, hx]
      | ok rest => cases ys <;> simp [bind, Except.bind, pure, Except.pure, ← ih, hxs, hx]

/-- `xs.mapM f = .error e` only if `f x = .error e` for a member `x`. -/
theorem exists_of_mapM_eq_error {ε α β : Type} {f : α → Except ε β} {xs : List α} {e : ε}
    (h : xs.mapM f = .error e) : ∃ x ∈ xs, f x = .error e := by
  induction xs with
  | nil => cases h
  | cons x xs ih =>
    rw [List.mapM_cons] at h
    cases hx : f x with
    | error e' =>
      rw [hx] at h
      obtain rfl : e' = e := Except.error.inj h
      exact ⟨x, List.mem_cons_self, hx⟩
    | ok y =>
      rw [hx] at h
      cases hxs : xs.mapM f with
      | error e' =>
        rw [hxs] at h
        obtain rfl : e' = e := Except.error.inj h
        obtain ⟨x', hmem, hx'⟩ := ih hxs
        exact ⟨x', List.mem_cons_of_mem x hmem, hx'⟩
      | ok rest =>
        rw [hxs] at h
        cases h

/-- `xs.mapM f` succeeds exactly if `f` does on every member of `xs`. -/
theorem exists_mapM_eq_ok_iff {ε α β : Type} {f : α → Except ε β} {xs : List α} :
    (∃ ys, xs.mapM f = .ok ys) ↔ ∀ x ∈ xs, ∃ y, f x = .ok y := by
  constructor
  · rintro ⟨ys, h⟩ x hx
    obtain ⟨n, hn, rfl⟩ := List.getElem_of_mem hx
    obtain ⟨hlength, hget⟩ := List.forall₂_iff_get.mp (mapM_eq_ok_iff.mp h)
    exact ⟨_, hget n hn (hlength ▸ hn)⟩
  · intro hall
    cases h : xs.mapM f with
    | ok ys => exact ⟨ys, rfl⟩
    | error e =>
      obtain ⟨x, hx, hfail⟩ := exists_of_mapM_eq_error h
      obtain ⟨y, hok⟩ := hall x hx
      rw [hfail] at hok
      cases hok

/-- The members of `ys` in `xs.mapM f = .ok ys` are the answers of `f` to members of `xs`. -/
theorem mem_iff_of_mapM_eq_ok {ε α β : Type} {f : α → Except ε β} {xs : List α} {ys : List β}
    (h : xs.mapM f = .ok ys) {y : β} : y ∈ ys ↔ ∃ x ∈ xs, f x = .ok y := by
  obtain ⟨hlength, hget⟩ := List.forall₂_iff_get.mp (mapM_eq_ok_iff.mp h)
  constructor
  · intro hy
    obtain ⟨n, hn, rfl⟩ := List.getElem_of_mem hy
    exact ⟨_, List.getElem_mem (hlength ▸ hn), hget n (hlength ▸ hn) hn⟩
  · rintro ⟨x, hx, hok⟩
    obtain ⟨n, hn, rfl⟩ := List.getElem_of_mem hx
    have hsame := (hget n hn (hlength ▸ hn)).symm.trans hok
    rw [← Except.ok.inj hsame]
    exact List.getElem_mem _

namespace FileTree

variable {t : FileTree} {root p : String} {deep : Bool} {extensions names found : List String}
  {failure : Failure}

/-! ## What is found -/

/-- The search below `root` succeeds, and finds `p`. -/
def IsDiscovered (t : FileTree) (root : String) (deep : Bool) (extensions : List String)
    (p : String) : Prop :=
  ∃ found, t.discover root deep extensions = .ok found ∧ p ∈ found

/-- `t.IsDiscovered root deep extensions p` means `p ∈ found` once the search has found `found`. -/
theorem isDiscovered_iff_mem (h : t.discover root deep extensions = .ok found) :
    t.IsDiscovered root deep extensions p ↔ p ∈ found := by
  constructor
  · rintro ⟨found', hfound', hp⟩
    obtain rfl := Except.ok.inj (h.symm.trans hfound')
    exact hp
  · exact fun hp => ⟨found, h, hp⟩

/-- `t.discover` is the sorted list of what `t.keep?` keeps of the hits, unless `t.keep?` fails for
one of them. -/
theorem discover_eq (t : FileTree) (root : String) (deep : Bool) (extensions : List String) :
    t.discover root deep extensions =
      ((extensions.flatMap (t.hits (Path.tidy root) deep)).mapM fun hit =>
        hit >>= t.keep? (Path.tidy root)).map fun kept =>
          (kept.filterMap id).eraseDups.mergeSort fun a b => decide (a ≤ b) := by
  unfold discover
  simp only
  cases (extensions.flatMap (t.hits (Path.tidy root) deep)).mapM fun hit =>
    hit >>= t.keep? (Path.tidy root) <;> rfl

/-- The files that are found are the ones that are kept: `p ∈ found` exactly if `.ok names` is a hit
for one of the extensions and `t.keep? root names = .ok (some p)`. -/
theorem mem_iff_of_discover_eq_ok (h : t.discover root deep extensions = .ok found) :
    p ∈ found ↔ ∃ names, .ok names ∈ extensions.flatMap (t.hits (Path.tidy root) deep) ∧
      t.keep? (Path.tidy root) names = .ok (some p) := by
  rw [discover_eq] at h
  cases hkept : (extensions.flatMap (t.hits (Path.tidy root) deep)).mapM fun hit =>
      hit >>= t.keep? (Path.tidy root) with
  | error e =>
    rw [hkept] at h
    cases h
  | ok kept =>
    rw [hkept] at h
    obtain rfl := Except.ok.inj h
    rw [List.mem_mergeSort, List.mem_eraseDups, List.mem_filterMap]
    simp only [id, exists_eq_right]
    rw [mem_iff_of_mapM_eq_ok hkept]
    constructor
    · rintro ⟨hit, hmem, hkeep⟩
      cases hit with
      | error e => cases hkeep
      | ok names => exact ⟨names, hmem, hkeep⟩
    · rintro ⟨names, hmem, hkeep⟩
      exact ⟨.ok names, hmem, hkeep⟩

/-- A search fails with `failure` as one of its hits does, or as `t.keep?` does for one of them. -/
theorem exists_hit_of_discover_eq_error (h : t.discover root deep extensions = .error failure) :
    ∃ hit ∈ extensions.flatMap (t.hits (Path.tidy root) deep),
      hit >>= t.keep? (Path.tidy root) = .error failure := by
  rw [discover_eq] at h
  cases hkept : (extensions.flatMap (t.hits (Path.tidy root) deep)).mapM fun hit =>
      hit >>= t.keep? (Path.tidy root) with
  | error e =>
    rw [hkept] at h
    obtain rfl := Except.error.inj h
    exact exists_of_mapM_eq_error hkept
  | ok kept =>
    rw [hkept] at h
    cases h

/-- A search succeeds exactly if no hit is a failure and `t.keep?` fails for none of them. -/
theorem exists_discover_eq_ok_iff :
    (∃ found, t.discover root deep extensions = .ok found) ↔
      ∀ hit ∈ extensions.flatMap (t.hits (Path.tidy root) deep), ∃ kept,
      hit >>= t.keep? (Path.tidy root) = .ok kept := by
  rw [← exists_mapM_eq_ok_iff, discover_eq]
  constructor
  · rintro ⟨found, h⟩
    cases hkept : (extensions.flatMap (t.hits (Path.tidy root) deep)).mapM fun hit =>
        hit >>= t.keep? (Path.tidy root) with
    | error e =>
      rw [hkept] at h
      cases h
    | ok kept => exact ⟨kept, rfl⟩
  · rintro ⟨kept, hkept⟩
    exact ⟨_, by rw [hkept]; rfl⟩

/-- `found.Pairwise (· < ·)`: found files are listed in increasing order, each once. -/
theorem pairwise_of_discover_eq_ok (h : t.discover root deep extensions = .ok found) :
    found.Pairwise (· < ·) := by
  rw [discover_eq] at h
  cases hkept : (extensions.flatMap (t.hits (Path.tidy root) deep)).mapM fun hit =>
      hit >>= t.keep? (Path.tidy root) with
  | error e =>
    rw [hkept] at h
    cases h
  | ok kept =>
    rw [hkept] at h
    obtain rfl := Except.ok.inj h
    have hsorted :=
      List.pairwise_mergeSort' (fun a b : String => a ≤ b) ((kept.filterMap id).eraseDups)
    refine (List.Pairwise.and hsorted ?_).imp fun hab => lt_of_le_of_ne hab.1 hab.2
    exact (List.Perm.nodup_iff (List.mergeSort_perm _ _)).mpr (nodup_eraseDups _)

/-! ## What is kept -/

/-- A hit is kept as `t.normalize (pathTo root names)` if it leads to a file, past no skipped
directory. -/
theorem keep?_eq_ok_some_iff : t.keep? root names = .ok (some p) ↔
    t.testFile (pathTo root names) = .ok true ∧ (∀ d ∈ names.dropLast, d ∉ skippedDirectories) ∧
      p = t.normalize (pathTo root names) := by
  unfold keep?
  cases t.testFile (pathTo root names) with
  | error e => simp
  | ok isFile =>
    simp only [Except.ok.injEq, Option.ite_none_right_eq_some, Bool.and_eq_true, List.all_eq_true,
      Bool.not_eq_true', List.contains_eq_mem, decide_eq_false_iff_not, and_assoc,
      Option.some.injEq, @eq_comm _ p]

/-- `t.keep? root names` fails exactly as `t.testFile (pathTo root names)` does, with
`.system e path`. -/
theorem keep?_eq_error_iff : t.keep? root names = .error failure ↔
    ∃ e, t.testFile (pathTo root names) = .error e ∧ failure = .system e (pathTo root names) := by
  unfold keep?
  cases t.testFile (pathTo root names) with
  | error e => simp [eq_comm]
  | ok isFile => simp

/-- Everything that is `IsDiscovered` is a canonical path. -/
theorem isCanonical_of_isDiscovered (h : t.IsDiscovered root deep extensions p) :
    Path.IsCanonical p := by
  obtain ⟨found, hfound, hp⟩ := h
  obtain ⟨names, -, hkeep⟩ := (mem_iff_of_discover_eq_ok hfound).mp hp
  obtain ⟨-, -, rfl⟩ := keep?_eq_ok_some_iff.mp hkeep
  exact Path.isCanonical_normalize _ _

/-! ## Tests -/

/-- `t.testExists path = .ok true` says that the path is seen to lead to something. -/
theorem testExists_eq_ok_true_iff {path : String} :
    t.testExists path = .ok true ↔ t.pathExists path = true := by
  unfold testExists look pathExists follow?
  cases t.find path with
  | ok place => simp [Except.map]
  | error e => cases he : e.isRefusal <;> simp [Except.map, he]

/-- `t.testFile path = .ok true` says that the path is seen to lead to a regular file. -/
theorem testFile_eq_ok_true_iff {path : String} :
    t.testFile path = .ok true ↔ t.isFile path = true := by
  unfold testFile look isFile follow?
  cases t.find path with
  | ok place =>
    simp only [Except.map, Except.ok.injEq]
    cases t.entryAt? place with
    | none => simp
    | some e => cases e <;> simp [Entry.isFile]
  | error e => cases he : e.isRefusal <;> simp [Except.map, he]

/-- `t.testDirectory path = .ok true` says that the path is seen to lead to a directory. -/
theorem testDirectory_eq_ok_true_iff {path : String} :
    t.testDirectory path = .ok true ↔ ∃ place, t.find path = .ok place ∧
    t.entryAt? place = some .directory := by
  unfold testDirectory look
  cases t.find path with
  | ok place => simp [Except.map]
  | error e => cases he : e.isRefusal <;> simp [Except.map, he]

/-- `t.testFile path = .error e` exactly if `t.find path` fails with an `e` that is a refusal. -/
theorem testFile_eq_error_iff {path : String} {e : FileError} :
    t.testFile path = .error e ↔ t.find path = .error e ∧ e.isRefusal = true := by
  unfold testFile look
  cases t.find path with
  | ok place => simp [Except.map]
  | error e' =>
    simp only [Except.error.injEq]
    by_cases he : e'.isRefusal = true
    · simp only [if_pos he, Except.map, Except.error.injEq]
      exact ⟨fun h => ⟨h, h ▸ he⟩, And.left⟩
    · simp only [if_neg he, Except.map, reduceCtorEq, false_iff, not_and]
      exact fun h => h ▸ he

/-! ## Failures -/

/-- The members of `t.enterable root names found` are names out of `found`, or failures
`.system e path`. -/
theorem mem_enterable {hit : Except Failure String} (h : hit ∈ t.enterable root names found) :
    (∃ name ∈ found, hit = .ok name) ∨ ∃ e path, hit = .error (.system e path) := by
  induction found with
  | nil => exact absurd h List.not_mem_nil
  | cons name found ih =>
    have hrest (h : hit ∈ t.enterable root names found) :
        (∃ name' ∈ name :: found, hit = .ok name') ∨ ∃ e path, hit = .error (.system e path) :=
      (ih h).imp_left fun ⟨name', hmem, heq⟩ => ⟨name', List.mem_cons_of_mem name hmem, heq⟩
    unfold enterable at h
    simp only at h
    split at h
    · rcases List.mem_cons.mp h with rfl | h
      · exact .inl ⟨name, List.mem_cons_self, rfl⟩
      · exact hrest h
    · exact hrest h
    · exact absurd h List.not_mem_nil
    · exact .inr ⟨_, _, List.mem_singleton.mp h⟩

/-- Every failure that `t.select` comes by is a `.system e path`. -/
theorem isSystem_of_mem_select {steps : List SearchStep}
    (h : .error failure ∈ t.select root steps names) :
    ∃ e path, failure = .system e path := by
  -- `names` grows along the search, the steps left to do get fewer
  induction steps generalizing names with
  | nil =>
    rw [select, List.mem_singleton] at h
    cases h
  | cons step steps ih =>
    cases step with
    | stay =>
      rw [select, List.mem_singleton] at h
      cases h
    | name name =>
      rw [select] at h
      split at h
      · exact ih h
      · exact absurd h List.not_mem_nil
      · exact absurd h List.not_mem_nil
      · exact ⟨_, _, Except.error.inj (List.mem_singleton.mp h)⟩
    | matching pattern =>
      rw [select] at h
      split at h
      · exact absurd h List.not_mem_nil
      · exact ⟨_, _, Except.error.inj (List.mem_singleton.mp h)⟩
      · next found hlist =>
        obtain ⟨hit, hhit, h⟩ := List.mem_flatMap.mp h
        cases hit with
        | error failure' =>
          -- a failed hit is handed through as it is
          obtain rfl := Except.error.inj (List.mem_singleton.mp h)
          split at hhit
          · simp at hhit
          · rcases mem_enterable hhit with ⟨name, -, heq⟩ | ⟨e, path, heq⟩
            · cases heq
            · exact ⟨e, path, Except.error.inj heq⟩
        | ok name =>
          simp only at h
          split at h
          · exact ih h
          · exact absurd h List.not_mem_nil
    | descend =>
      rw [select] at h
      split at h
      · exact ⟨_, _, Except.error.inj (List.mem_singleton.mp h)⟩
      · obtain ⟨more, -, h⟩ := List.mem_flatMap.mp h
        exact ih h

/-- A search fails with `.system e path`, or with `.badPattern` for an extension that makes no
pattern. -/
theorem isSystem_or_eq_badPattern_of_discover_eq_error
    (h : t.discover root deep extensions = .error failure) :
    (∃ e path, failure = .system e path) ∨ failure = .badPattern := by
  obtain ⟨hit, hhit, hfail⟩ := exists_hit_of_discover_eq_error h
  obtain ⟨extension, -, hhit⟩ := List.mem_flatMap.mp hhit
  cases hit with
  | ok names =>
    obtain ⟨e, -, rfl⟩ := keep?_eq_error_iff.mp hfail
    exact .inl ⟨e, _, rfl⟩
  | error failure' =>
    obtain rfl : failure' = failure := Except.error.inj hfail
    unfold hits at hhit
    split at hhit
    · exact .inr (Except.error.inj (List.mem_singleton.mp hhit))
    · split at hhit
      · exact .inl (isSystem_of_mem_select hhit)
      · exact absurd hhit List.not_mem_nil
      · exact .inl ⟨_, _, Except.error.inj (List.mem_singleton.mp hhit)⟩

/-! ## Flat searches -/

/-- `[] ∈ t.directoriesFrom place`: the directory itself is the first one. -/
theorem nil_mem_directoriesFrom (t : FileTree) (place : Place) : [] ∈ t.directoriesFrom place := by
  rw [directoriesFrom]
  exact List.mem_cons_self

/-- A deep search comes by everything that a flat one comes by, `t.hits root false e ⊆ t.hits root
true e`. -/
theorem hits_flat_subset (t : FileTree) (root extension : String) :
    t.hits root false extension ⊆ t.hits root true extension := by
  intro hit hhit
  unfold hits at hhit ⊢
  split at hhit
  · exact hhit
  · next steps hsteps =>
    split at hhit
    · next htest =>
      obtain ⟨place, hfind, -⟩ := testDirectory_eq_ok_true_iff.mp htest
      simp only [if_true, select, pathTo, List.foldl_nil, hfind]
      exact List.mem_flatMap.mpr ⟨[], t.nil_mem_directoriesFrom place, hhit⟩
    · exact hhit
    · exact hhit

/-- What a flat search finds, a deep search finds, if it succeeds. -/
theorem IsDiscovered.of_flat (h : t.IsDiscovered root false extensions p)
    (hdeep : t.discover root true extensions = .ok found) :
    t.IsDiscovered root true extensions p := by
  obtain ⟨flat, hflat, hp⟩ := h
  obtain ⟨names, hhit, hkeep⟩ := (mem_iff_of_discover_eq_ok hflat).mp hp
  refine ⟨found, hdeep, (mem_iff_of_discover_eq_ok hdeep).mpr ⟨names, ?_, hkeep⟩⟩
  obtain ⟨extension, hextension, hhit⟩ := List.mem_flatMap.mp hhit
  exact List.mem_flatMap.mpr ⟨extension, hextension, t.hits_flat_subset _ extension hhit⟩

end FileTree

end Restyle
