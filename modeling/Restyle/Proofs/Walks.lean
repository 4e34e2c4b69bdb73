import Mathlib
import Restyle.FileTree
import Restyle.Proofs.CanonicalPath

/-! # Walks along names
What a look-up walks through (`FileTree.Walks`), with one constructor for every way on: a name that
goes nowhere, the way up, a link, and anything else that stands there. `t.walk links here names =
.ok place` exactly if there is such a walk (`walks_false_iff`), and `t.walkToWrite` answers the same
where the last name may be free (`walks_true_iff`). So `t.find path` and `t.findToWrite path` are
walks from the root (`find_eq_ok_iff`, `findToWrite_eq_ok_iff`). -/

namespace Restyle.FileTree

/-- A name that leads one level down. -/
def IsStep (name : String) : Prop := name ≠ "" ∧ name ≠ "." ∧ name ≠ ".."

/-- A name is a step of a walk. -/
theorem isStep_ofList {c : Path.Component} (h : Path.IsName c) : IsStep (String.ofList c) := by
  refine ⟨?_, ?_, ?_⟩ <;> rw [ne_eq, ← String.toList_inj, String.toList_ofList]
  · exact h.ne_nil
  · exact h.ne_dot
  · exact h.ne_dots

/-- A walk that has come to `here` looks for something that stands there as `name`. -/
structure LooksUp (t : FileTree) (here : Place) (name : String) : Prop where
  isDirectory : t.entryAt? here = some .directory
  not_closed : here ∉ t.closed
  isStep : IsStep name
  size_le : name.utf8ByteSize ≤ nameLimit

/-- A walk from `here` along `names` to `place`, which follows no more than `links` links. With
`free`, nothing needs to stand under the last name. -/
inductive Walks (t : FileTree) (free : Bool) : Nat → Place → List String → Place → Prop
  /-- There are no more names. -/
  | done {links : Nat} {here : Place} : t.Walks free links here [] here
  /-- A name that goes nowhere. A closed directory lets the empty one pass. -/
  | stay {links : Nat} {here place : Place} {name : String} {names : List String}
      (hdir : t.entryAt? here = some .directory) (hpass : here ∈ t.closed → name = "")
      (hblank : name = "" ∨ name = ".") (h : t.Walks free links here names place) :
      t.Walks free links here (name :: names) place
  /-- The way up. -/
  | up {links : Nat} {here place : Place} {names : List String}
      (hdir : t.entryAt? here = some .directory) (hopen : here ∉ t.closed)
      (h : t.Walks free links here.dropLast names place) :
      t.Walks free links here (".." :: names) place
  /-- A link takes one of the `links`, and its names are walked from the directory that it stands
  in, or from the root if its target is absolute. -/
  | follow {links : Nat} {here place : Place} {name target : String} {names : List String}
      (hname : t.LooksUp here name) (hentry : t.entryAt? (here ++ [name]) = some (.link target))
      (h : t.Walks free links (if Path.isAbsolute target then [] else here)
        (namesOf target ++ names) place) :
      t.Walks free (links + 1) here (name :: names) place
  /-- Anything else is where the walk comes to next. -/
  | down {links : Nat} {here place : Place} {name : String} {names : List String} {e : Entry}
      (hname : t.LooksUp here name) (hentry : t.entryAt? (here ++ [name]) = some e)
      (hlink : ∀ target, e ≠ .link target) (h : t.Walks free links (here ++ [name]) names place) :
      t.Walks free links here (name :: names) place
  /-- The last name is free. -/
  | new {links : Nat} {here : Place} {name : String} (hfree : free = true)
      (hname : t.LooksUp here name) (hnone : t.entryAt? (here ++ [name]) = none) :
      t.Walks free links here [name] (here ++ [name])

variable {t : FileTree} {links : Nat} {here place : Place} {name target : String}
  {names : List String} {e : Entry}

/-! ## Tests of a name -/

/-- A name that is looked up has passed every test of the walk. -/
theorem LooksUp.ite_eq {α : Type} (h : t.LooksUp here name)
    (notDirectory notPermitted blank dots tooLong found : α) :
    (if t.entryAt? here ≠ some .directory then notDirectory
      else if here ∈ t.closed ∧ name ≠ "" then notPermitted
      else if name = "" ∨ name = "." then blank
      else if name = ".." then dots
      else if nameLimit < name.utf8ByteSize then tooLong
      else found) = found := by
  rw [if_neg (not_not.mpr h.isDirectory), if_neg fun hclosed => h.not_closed hclosed.1,
    if_neg (not_or.mpr ⟨h.isStep.1, h.isStep.2.1⟩), if_neg h.isStep.2.2,
    if_neg (Nat.not_lt.mpr h.size_le)]

/-- A name that has passed every test of the walk is looked up. -/
theorem LooksUp.of_tests (hdir : ¬t.entryAt? here ≠ some .directory)
    (hpass : ¬(here ∈ t.closed ∧ name ≠ "")) (hblank : ¬(name = "" ∨ name = "."))
    (hdots : name ≠ "..") (hshort : ¬nameLimit < name.utf8ByteSize) : t.LooksUp here name where
  isDirectory := not_not.mp hdir
  not_closed hclosed := hpass ⟨hclosed, (not_or.mp hblank).1⟩
  isStep := ⟨(not_or.mp hblank).1, (not_or.mp hblank).2, hdots⟩
  size_le := Nat.not_lt.mp hshort

/-! ## Looking up -/

/-- `t.walk links here (name :: names) = t.walk links here names` for a name that is empty or a
dot. -/
theorem walk_cons_of_blank (hdir : t.entryAt? here = some .directory)
    (hpass : here ∈ t.closed → name = "") (hblank : name = "" ∨ name = ".") :
    t.walk links here (name :: names) = t.walk links here names := by
  rw [walk.eq_def]
  simp only
  rw [if_neg (not_not.mpr hdir), if_neg fun h => h.2 (hpass h.1), if_pos hblank]

/-- `t.walk links here (".." :: names) = t.walk links here.dropLast names`. -/
theorem walk_cons_of_dots (hdir : t.entryAt? here = some .directory) (hopen : here ∉ t.closed) :
    t.walk links here (".." :: names) = t.walk links here.dropLast names := by
  rw [walk.eq_def]
  simp only
  rw [if_neg (not_not.mpr hdir), if_neg fun h => hopen h.1, if_neg (by decide), if_pos trivial]

/-- `t.walk (links + 1) here (name :: names)` goes on with the names of a link. -/
theorem LooksUp.walk_cons_of_link (h : t.LooksUp here name)
    (hentry : t.entryAt? (here ++ [name]) = some (.link target)) :
    t.walk (links + 1) here (name :: names) =
      t.walk links (if Path.isAbsolute target then [] else here) (namesOf target ++ names) := by
  rw [walk.eq_def]
  simp only
  rw [h.ite_eq, hentry]

/-- `t.walk links here (name :: names) = t.walk links (here ++ [name]) names` past anything but a
link. -/
theorem LooksUp.walk_cons_of_ne_link (h : t.LooksUp here name)
    (hentry : t.entryAt? (here ++ [name]) = some e) (hlink : ∀ target, e ≠ .link target) :
    t.walk links here (name :: names) = t.walk links (here ++ [name]) names := by
  rw [walk.eq_def]
  simp only
  rw [h.ite_eq, hentry]
  cases e with
  | file | directory => rfl
  | link target => exact absurd rfl (hlink target)

/-- `t.Walks false links here names place` exactly if `t.walk links here names = .ok place`. -/
theorem walks_false_iff :
    t.Walks false links here names place ↔ t.walk links here names = .ok place := by
  constructor
  · intro h
    induction h with
    | done => exact walk_nil _ _ _
    | stay hdir hpass hblank _ ih => rw [walk_cons_of_blank hdir hpass hblank, ih]
    | up hdir hopen _ ih => rw [walk_cons_of_dots hdir hopen, ih]
    | follow hname hentry _ ih => rw [hname.walk_cons_of_link hentry, ih]
    | down hname hentry hlink _ ih => rw [hname.walk_cons_of_ne_link hentry hlink, ih]
    | new hfree => cases hfree
  · intro h
    fun_induction walk t links here names with
    | case1 links here => exact Except.ok.inj h ▸ .done
    | case2 | case3 | case6 | case7 | case8 => cases h
    | case4 links here name names hdir hpass hblank ih =>
      exact .stay (not_not.mp hdir) (fun h => not_not.mp fun hne => hpass ⟨h, hne⟩) hblank (ih h)
    | case5 links here names hdir hpass hblank ih =>
      exact .up (not_not.mp hdir) (fun h => hpass ⟨h, by decide⟩) (ih h)
    | case9 here name names hdir hpass hblank hdots hshort target links hentry ih =>
      exact .follow (.of_tests hdir hpass hblank hdots hshort) hentry (ih h)
    | case10 here name names hdir hpass hblank hdots hshort e links hzero hsucc hentry ih =>
      refine .down (.of_tests hdir hpass hblank hdots hshort) hentry (fun target he => ?_) (ih h)
      cases links with
      | zero => exact hzero target rfl he
      | succ links => exact hsucc target links rfl he

/-- `t.find path` is where the names of `path` lead from the root. -/
theorem find_eq_ok_iff {path : String} : t.find path = .ok place ↔
    '\x00' ∉ path.toList ∧ path ≠ "" ∧
      t.Walks false linkLimit [] (namesOf (Path.join t.workingDir path)) place := by
  rw [find, walks_false_iff]
  by_cases hnul : '\x00' ∈ path.toList
  · simp [hnul]
  · by_cases hempty : path = "" <;> simp [hnul, hempty]

/-! ## Looking up what is written to -/

/-- `t.Walks true links here names place` exactly if
`t.walkToWrite links here names = .ok place`. -/
theorem walks_true_iff :
    t.Walks true links here names place ↔ t.walkToWrite links here names = .ok place := by
  constructor
  · intro h
    induction h with
    | done => exact walkToWrite_nil _ _ _
    | stay hdir hpass hblank _ ih =>
      rw [walkToWrite.eq_def]
      simp only
      rw [if_neg (not_not.mpr hdir), if_neg fun h => h.2 (hpass h.1), if_pos hblank, ih]
    | up hdir hopen _ ih =>
      rw [walkToWrite.eq_def]
      simp only
      rw [if_neg (not_not.mpr hdir), if_neg fun h => hopen h.1, if_neg (by decide), if_pos trivial,
        ih]
    | follow hname hentry _ ih =>
      rw [walkToWrite.eq_def]
      simp only
      rw [hname.ite_eq, hentry]
      exact ih
    | @down links here place name names e hname hentry hlink _ ih =>
      rw [walkToWrite.eq_def]
      simp only
      rw [hname.ite_eq, hentry]
      cases e with
      | file | directory => exact ih
      | link target => exact absurd rfl (hlink target)
    | new _ hname hnone =>
      rw [walkToWrite.eq_def]
      simp only
      rw [hname.ite_eq, hnone]
      exact if_pos trivial
  · intro h
    fun_induction walkToWrite t links here names with
    | case1 links here => exact Except.ok.inj h ▸ .done
    | case2 | case3 | case6 | case8 | case9 => cases h
    | case4 links here name names hdir hpass hblank ih =>
      exact .stay (not_not.mp hdir) (fun h => not_not.mp fun hne => hpass ⟨h, hne⟩) hblank (ih h)
    | case5 links here names hdir hpass hblank ih =>
      exact .up (not_not.mp hdir) (fun h => hpass ⟨h, by decide⟩) (ih h)
    | case7 links here name hdir hpass hblank hdots hshort hnone =>
      exact Except.ok.inj h ▸ .new rfl (.of_tests hdir hpass hblank hdots hshort) hnone
    | case10 here name names hdir hpass hblank hdots hshort target links hentry ih =>
      exact .follow (.of_tests hdir hpass hblank hdots hshort) hentry (ih h)
    | case11 here name names hdir hpass hblank hdots hshort e links hzero hsucc hentry ih =>
      refine .down (.of_tests hdir hpass hblank hdots hshort) hentry (fun target he => ?_) (ih h)
      cases links with
      | zero => exact hzero target rfl he
      | succ links => exact hsucc target links rfl he

/-- `t.findToWrite path` is where the names of `path` lead from the root, if the last one may be
free. -/
theorem findToWrite_eq_ok_iff {path : String} : t.findToWrite path = .ok place ↔
    '\x00' ∉ path.toList ∧ path ≠ "" ∧
      t.Walks true linkLimit [] (namesOf (Path.join t.workingDir path)) place := by
  rw [findToWrite, walks_true_iff]
  by_cases hnul : '\x00' ∈ path.toList
  · simp [hnul]
  · by_cases hempty : path = "" <;> simp [hnul, hempty]

end Restyle.FileTree
