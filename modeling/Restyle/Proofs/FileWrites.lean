import Mathlib
import Restyle.Proofs.FilePaths
import Restyle.Proofs.KeyedLists

/-! # Writing files
Writing a file changes what stands at one place, where a file stood or nothing. Whatever could be
looked up before is found at the same place afterwards, so that every file that stands elsewhere
keeps its content (`readBytes_of_writeFile`), and the path leads to what has been written
(`follow?_of_writeFile`). -/

namespace Restyle

/-- `x >>= f` answers `.ok b` exactly through some `a` with `x = .ok a` and `f a = .ok b`. -/
theorem exists_of_bind_eq_ok {ε α β : Type} {x : Except ε α} {f : α → Except ε β} {b : β}
    (h : x >>= f = .ok b) : ∃ a, x = .ok a ∧ f a = .ok b := by
  cases x with
  | error e => cases h
  | ok a => exact ⟨a, rfl, h⟩

/-- `x >>= f` fails in `x`, or in `f a` for the answer `a` of `x`. -/
theorem eq_error_or_of_bind_eq_error {ε α β : Type} {x : Except ε α} {f : α → Except ε β} {e : ε}
    (h : x >>= f = .error e) : x = .error e ∨ ∃ a, x = .ok a ∧ f a = .error e := by
  cases x with
  | error e' => exact .inl (congrArg Except.error (Except.error.inj h))
  | ok a => exact .inr ⟨a, rfl, h⟩

/-- `Except.mapError` keeps what is `.ok`. -/
theorem eq_ok_of_mapError_eq_ok {ε ε' α : Type} {f : ε → ε'} {x : Except ε α} {a : α}
    (h : x.mapError f = .ok a) : x = .ok a := by
  cases x with
  | error e => cases h
  | ok a' => exact congrArg Except.ok (Except.ok.inj h)

namespace FileTree

variable {t t' : FileTree} {here place : Place} {names : List String} {links : Nat}
  {path file : String} {content : List UInt8}

/-! ## Places that are found -/

/-- No link stands at the place, and none on the way to it. -/
def IsUnlinked (t : FileTree) (place : Place) : Prop :=
  ∀ n target, t.entryAt? (place.take n) ≠ some (.link target)

/-- The root is no link: `t.IsUnlinked []`. -/
theorem isUnlinked_root (t : FileTree) : t.IsUnlinked [] := by
  intro n target
  rw [List.take_nil, entryAt?_root]
  exact fun h => nomatch h

/-- The directory that an unlinked place lies in is unlinked, `place.dropLast`. -/
theorem IsUnlinked.dropLast (h : t.IsUnlinked place) : t.IsUnlinked place.dropLast := by
  intro n target
  rw [List.dropLast_eq_take, List.take_take]
  exact h _ target

/-- `here ++ [name]` is unlinked if `here` is, and no link stands there. -/
theorem IsUnlinked.append_singleton {name : String} (h : t.IsUnlinked here)
    (hlink : ∀ target, t.entryAt? (here ++ [name]) ≠ some (.link target)) :
    t.IsUnlinked (here ++ [name]) := by
  intro n target
  rcases Nat.lt_or_ge here.length n with hn | hn
  · rw [List.take_of_length_le (by simpa using hn)]
    exact hlink target
  · rw [List.take_append_of_le_length hn]
    exact h n target

/-- A walk leads from an unlinked place to another. -/
theorem Walks.isUnlinked (h : t.Walks false links here names place) (hhere : t.IsUnlinked here) :
    t.IsUnlinked place := by
  induction h with
  | done => exact hhere
  | stay _ _ _ _ ih => exact ih hhere
  | up _ _ _ ih => exact ih hhere.dropLast
  | follow _ _ _ ih =>
    -- a link is read from the root or from where it stands
    refine ih ?_
    split
    · exact isUnlinked_root t
    · exact hhere
  | down _ hentry hlink _ ih =>
    refine ih (hhere.append_singleton fun target heq => ?_)
    exact hlink target (Option.some.inj (hentry.symm.trans heq))
  | new hfree => cases hfree

/-- A path leads to no link: where `t.find path = .ok place`, the place is unlinked. -/
theorem isUnlinked_of_find (h : t.find path = .ok place) : t.IsUnlinked place := by
  obtain ⟨-, -, hwalks⟩ := find_eq_ok_iff.mp h
  exact hwalks.isUnlinked (isUnlinked_root t)

/-! ## Putting files -/

/-- The entries of `t.put place e`: the one at `place` is changed, or a new one stands behind the
others. -/
theorem entries_put (t : FileTree) (place : Place) (e : Entry) :
    (t.put place e).entries = if (t.entries.lookup place).isSome then
      t.entries.map fun p => if p.1 = place then (place, e) else p
        else t.entries ++ [(place, e)] := by
  unfold put
  split <;> rfl

/-- `(t.put place e).entryAt? other` is `e` at `place` itself, and `t.entryAt? other` elsewhere. -/
theorem entryAt?_put (t : FileTree) (hne : place ≠ []) (e : Entry) (other : Place) :
    (t.put place e).entryAt? other = if other = place then some e else t.entryAt? other := by
  cases other with
  | nil => rw [entryAt?_root, entryAt?_root, if_neg (Ne.symm hne)]
  | cons name names =>
    simp only [entryAt?]
    rw [entries_put, lookup_set]

/-- A place where a file may be put: a file stands there, or nothing. -/
structure IsOpen (t : FileTree) (place : Place) : Prop where
  /-- The root is a directory. -/
  ne_root : place ≠ []
  /-- Whatever stands there is a file. -/
  eq_file : ∀ e, t.entryAt? place = some e → ∃ bytes, e = .file bytes

/-- What is no file is kept when a file is put at an `IsOpen` place. -/
theorem IsOpen.entryAt?_put_of_ne_file (h : t.IsOpen place) (content : List UInt8)
    {other : Place} {e : Entry} (he : t.entryAt? other = some e)
    (hfile : ∀ bytes, e ≠ .file bytes) :
    (t.put place (.file content)).entryAt? other = some e := by
  rw [t.entryAt?_put h.ne_root, if_neg, he]
  rintro rfl
  obtain ⟨bytes, hbytes⟩ := h.eq_file e he
  exact hfile bytes hbytes

/-- Where something stands that is no link, such a thing stands after a file is put at an `IsOpen`
place. -/
theorem IsOpen.exists_entryAt?_put (h : t.IsOpen place) (content : List UInt8)
    {other : Place} {e : Entry} (he : t.entryAt? other = some e)
    (hlink : ∀ target, e ≠ .link target) :
    ∃ e', (t.put place (.file content)).entryAt? other = some e' ∧ ∀ target, e' ≠ .link target := by
  rw [t.entryAt?_put h.ne_root]
  split
  · exact ⟨_, rfl, by simp⟩
  · exact ⟨e, he, hlink⟩

/-- `t.put place e` has the places of `t`, in the same order, where something stood at `place`. -/
theorem places_put (hne : place ≠ []) (h : (t.entryAt? place).isSome = true) (e : Entry) :
    (t.put place e).entries.map Prod.fst = t.entries.map Prod.fst := by
  have hlookup : (t.entries.lookup place).isSome = true := by
    obtain ⟨name, names, rfl⟩ := List.exists_cons_of_ne_nil hne
    exact h
  rw [entries_put, if_pos hlookup, List.map_map]
  refine List.map_congr_left fun p _ => ?_
  simp only [Function.comp_apply]
  split
  · next heq => exact heq.symm
  · rfl

/-- `put` leaves the working directory as it is. -/
@[simp] theorem workingDir_put (t : FileTree) (place : Place) (e : Entry) :
    (t.put place e).workingDir = t.workingDir := by
  unfold put
  split <;> rfl

/-- `put` leaves `unreadable` as it is. -/
@[simp] theorem unreadable_put (t : FileTree) (place : Place) (e : Entry) :
    (t.put place e).unreadable = t.unreadable := by
  unfold put
  split <;> rfl

/-- `put` leaves `unlistable` as it is. -/
@[simp] theorem unlistable_put (t : FileTree) (place : Place) (e : Entry) :
    (t.put place e).unlistable = t.unlistable := by
  unfold put
  split <;> rfl

/-- `put` leaves `closed` as it is. -/
@[simp] theorem closed_put (t : FileTree) (place : Place) (e : Entry) :
    (t.put place e).closed = t.closed := by
  unfold put
  split <;> rfl

/-- What a walk looks up, it looks up after a file is put at an `IsOpen` place. -/
theorem LooksUp.put {name : String} (h : t.LooksUp here name) (hopen : t.IsOpen place) :
    (t.put place (.file content)).LooksUp here name where
  isDirectory := hopen.entryAt?_put_of_ne_file content h.isDirectory (by simp)
  not_closed := by rw [closed_put]; exact h.not_closed
  isStep := h.isStep
  size_le := h.size_le

/-- A walk ends at the same place after a file is put at an `IsOpen` place. -/
theorem Walks.put {free : Bool} {reached : Place} (h : t.Walks free links here names reached)
    (hopen : t.IsOpen place) :
    (t.put place (.file content)).Walks free links here names reached := by
  have hdir : ∀ {other : Place}, t.entryAt? other = some .directory →
      (t.put place (.file content)).entryAt? other = some .directory := fun h =>
    hopen.entryAt?_put_of_ne_file content h (by simp)
  induction h with
  | done => exact .done
  | stay hhere hpass hblank _ ih => exact .stay (hdir hhere) (by rwa [closed_put]) hblank ih
  | up hhere hclosed _ ih => exact .up (hdir hhere) (by rwa [closed_put]) ih
  | follow hname hentry _ ih =>
    exact .follow (hname.put hopen) (hopen.entryAt?_put_of_ne_file content hentry (by simp)) ih
  | down hname hentry hlink _ ih =>
    -- whatever stands there now, it is still something, and no link
    obtain ⟨e, he, hlink⟩ := hopen.exists_entryAt?_put content hentry hlink
    exact .down (hname.put hopen) he hlink ih
  | @new links here name hfree hname hnone =>
    by_cases heq : here ++ [name] = place
    · -- what was missing is the file now
      refine .down (e := .file content) (hname.put hopen) ?_ (by simp) .done
      rw [t.entryAt?_put hopen.ne_root, if_pos heq]
    · refine .new hfree (hname.put hopen) ?_
      rw [t.entryAt?_put hopen.ne_root, if_neg heq, hnone]

/-- A walk that may end at what is free ends at something that is found, or where nothing
stands. -/
theorem Walks.false_or_new {free : Bool} (h : t.Walks free links here names place) :
    t.Walks false links here names place ∨ place ≠ [] ∧ t.entryAt? place = none := by
  induction h with
  | done => exact .inl .done
  | stay hdir hpass hblank _ ih => exact ih.imp_left (.stay hdir hpass hblank)
  | up hdir hopen _ ih => exact ih.imp_left (.up hdir hopen)
  | follow hname hentry _ ih => exact ih.imp_left (.follow hname hentry)
  | down hname hentry hlink _ ih => exact ih.imp_left (.down hname hentry hlink)
  | new _ _ hnone => exact .inr ⟨by simp, hnone⟩

/-! ## Making directories -/

/-- `makeDirectory` leaves `unreadable` as it is. -/
theorem unreadable_makeDirectory (h : t.makeDirectory path = .ok t') :
    t'.unreadable = t.unreadable := by
  unfold makeDirectory at h
  cases hplace : t.newPlace path with
  | error e =>
    rw [hplace] at h
    cases h
  | ok place =>
    rw [hplace] at h
    obtain rfl := Except.ok.inj h
    exact unreadable_put t place .directory

/-- `passThrough` leaves `unreadable` as it is. -/
theorem unreadable_passThrough (h : t.passThrough path = .ok t') :
    t'.unreadable = t.unreadable := by
  unfold passThrough at h
  split at h
  · exact congrArg unreadable (Except.ok.inj h).symm
  · split at h
    · exact congrArg unreadable (Except.ok.inj h).symm
    · exact unreadable_makeDirectory h

/-- A row of `passThrough`s leaves `unreadable` as it is. -/
theorem unreadable_foldlM_passThrough {ways : List String}
    (h : ways.foldlM passThrough t = .ok t') :
    t'.unreadable = t.unreadable := by
  induction ways generalizing t with
  | nil => exact congrArg unreadable (Except.ok.inj h).symm
  | cons way ways ih =>
    rw [List.foldlM_cons] at h
    obtain ⟨between, hway, h⟩ := exists_of_bind_eq_ok h
    exact (ih h).trans (unreadable_passThrough hway)

/-- `makeDirectories` leaves `unreadable` as it is. -/
theorem unreadable_makeDirectories (h : t.makeDirectories path = .ok t') :
    t'.unreadable = t.unreadable := by
  unfold makeDirectories at h
  obtain ⟨between, hways, h⟩ := exists_of_bind_eq_ok h
  have hbetween := unreadable_foldlM_passThrough hways
  split at h
  · exact Except.ok.inj h ▸ hbetween
  · split at h
    · exact Except.ok.inj h ▸ hbetween
    · exact (unreadable_makeDirectory h).trans hbetween

/-! ## Writing -/

/-- `t.readBytes file = .ok bytes` needs a readable `.file bytes` at `t.find file`. -/
theorem exists_of_readBytes {bytes : List UInt8} (h : t.readBytes file = .ok bytes) :
    file ∉ t.unreadable ∧ ∃ place, t.find file = .ok place ∧
    t.entryAt? place = some (.file bytes) := by
  unfold readBytes at h
  simp only [bind, Except.bind, pure, Except.pure] at h
  by_cases hreadable : file ∈ t.unreadable
  · simp [hreadable, throw, throwThe, MonadExceptOf.throw] at h
  · refine ⟨hreadable, ?_⟩
    simp only [hreadable, if_false] at h
    cases hfind : t.find file with
    | error e => simp [hfind] at h
    | ok place =>
      refine ⟨place, rfl, ?_⟩
      simp only [hfind] at h
      split at h
      · next content hentry => rw [hentry, Except.ok.inj h]
      · cases h
      · cases h

/-- `t.readBytes file = .ok bytes` for a readable `.file bytes` at `t.find file`. -/
theorem readBytes_of_find {bytes : List UInt8} (hreadable : file ∉ t.unreadable)
    (hfind : t.find file = .ok place) (hentry : t.entryAt? place = some (.file bytes)) :
    t.readBytes file = .ok bytes := by
  unfold readBytes
  simp [hreadable, hfind, hentry, bind, Except.bind, pure, Except.pure]

/-- `t.findToWrite path` is the place `t.find path`, or one where nothing stands. -/
theorem find_or_new_of_findToWrite (h : t.findToWrite path = .ok place) :
    t.find path = .ok place ∨ place ≠ [] ∧ t.entryAt? place = none := by
  obtain ⟨hnul, hempty, hwalks⟩ := findToWrite_eq_ok_iff.mp h
  exact hwalks.false_or_new.imp_left fun hfound => find_eq_ok_iff.mpr ⟨hnul, hempty, hfound⟩

/-- `findToWrite` ends at the same place after a file has been put there. -/
theorem findToWrite_put (hopen : t.IsOpen place) (h : t.findToWrite path = .ok place)
    (content : List UInt8) :
    (t.put place (.file content)).findToWrite path = .ok place := by
  obtain ⟨hnul, hempty, hwalks⟩ := findToWrite_eq_ok_iff.mp h
  refine findToWrite_eq_ok_iff.mpr ⟨hnul, hempty, ?_⟩
  rw [workingDir_put]
  exact hwalks.put hopen

/-- `t.writeFile path content` is `t.put place (.file content)` at the `IsOpen` place
`t.findToWrite path`. -/
theorem exists_findToWrite_of_writeFile (h : t.writeFile path content = .ok t') :
    ∃ place, t.findToWrite path = .ok place ∧ t.IsOpen place ∧
    t' = t.put place (.file content) := by
  unfold writeFile at h
  split at h
  · next place hfind =>
    split at h
    · cases h
    · next hdir =>
      refine ⟨place, hfind, ?_, (Except.ok.inj h).symm⟩
      rcases find_or_new_of_findToWrite hfind with hfound | ⟨hne, hnone⟩
      · refine ⟨?_, ?_⟩
        · rintro rfl
          exact hdir t.entryAt?_root
        · intro e he
          cases e with
          | file bytes => exact ⟨bytes, rfl⟩
          | directory => exact absurd he hdir
          | link target =>
            -- a path is followed through the links, and leads to none
            have hlink := isUnlinked_of_find hfound place.length target
            rw [List.take_length] at hlink
            exact absurd he hlink
      · refine ⟨hne, fun e he => ?_⟩
        rw [hnone] at he
        cases he
  · cases h

/-- `t.writeFile path content` puts the file at `t.find path`, or where nothing stood. -/
theorem exists_put_of_writeFile (h : t.writeFile path content = .ok t') :
    ∃ place, t.IsOpen place ∧ t' = t.put place (.file content) ∧
      (t.find path = .ok place ∨ t.entryAt? place = none) := by
  obtain ⟨place, hfind, hopen, rfl⟩ := exists_findToWrite_of_writeFile h
  exact ⟨place, hopen, rfl, (find_or_new_of_findToWrite hfind).imp_right And.right⟩

/-- `writeFile` leaves `unreadable` as it is. -/
theorem unreadable_of_writeFile (h : t.writeFile path content = .ok t') :
    t'.unreadable = t.unreadable := by
  obtain ⟨place, -, rfl, -⟩ := exists_put_of_writeFile h
  exact unreadable_put t place (.file content)

/-- After `writeFile path content`, `find path` and `findToWrite path` lead to `.file content`. -/
theorem find_of_writeFile (h : t.writeFile path content = .ok t') :
    ∃ place, t'.findToWrite path = .ok place ∧ t'.find path = .ok place ∧
      t'.entryAt? place = some (.file content) := by
  obtain ⟨place, hfind, hopen, rfl⟩ := exists_findToWrite_of_writeFile h
  have hentry : (t.put place (.file content)).entryAt? place = some (.file content) := by
    rw [t.entryAt?_put hopen.ne_root, if_pos rfl]
  have hagain := findToWrite_put hopen hfind content
  refine ⟨place, hagain, ?_, hentry⟩
  rcases find_or_new_of_findToWrite hagain with hfound | ⟨-, hnone⟩
  · exact hfound
  · rw [hentry] at hnone
    cases hnone

/-- After `writeFile path content`, `follow? path = some (.file content)`. -/
theorem follow?_of_writeFile (h : t.writeFile path content = .ok t') :
    t'.follow? path = some (.file content) := by
  obtain ⟨place, -, hfind, hentry⟩ := find_of_writeFile h
  rw [follow?, hfind]
  exact hentry

/-- After `writeFile path content`, `readBytes path = .ok content`, unless `path` may not be
read. -/
theorem readBytes_of_written (h : t.writeFile path content = .ok t')
    (hreadable : path ∉ t.unreadable) :
    t'.readBytes path = .ok content := by
  obtain ⟨place, -, hfind, hentry⟩ := find_of_writeFile h
  exact readBytes_of_find (by rwa [unreadable_of_writeFile h]) hfind hentry

/-- A file that has been written can be written again. -/
theorem exists_writeFile_of_writeFile (h : t.writeFile path content = .ok t') (next : List UInt8) :
    ∃ t'', t'.writeFile path next = .ok t'' := by
  obtain ⟨place, hfind, -, hentry⟩ := find_of_writeFile h
  refine ⟨t'.put place (.file next), ?_⟩
  rw [writeFile, hfind]
  simp only
  rw [if_neg (by simp [hentry])]

end FileTree

end Restyle
