import Mathlib
import Restyle.Proofs.KeyedLists
import Restyle.Toml.ReadError
import Restyle.Toml.Value

/-! # Tables up to the order of their entries
A table that has been written and read again may hold its entries in another order, in which the
tables come after everything else. `Value.Alike` compares values without regard to that order, at
any depth. Alike tables have alike values for every key (`Table.Alike.get?`), and stay alike when
the same entry is set in both (`Table.Alike.put`). -/

namespace Restyle.Toml

/-! ## Alike values -/

/-- Values that differ at most in the order of the entries of the tables in them. -/
inductive Value.Alike : Value → Value → Prop where
  /-- A value is alike to itself. -/
  | refl (v : Value) : Alike v v
  /-- Arrays are alike element by element. -/
  | array {vs ws : List Value} (hlength : vs.length = ws.length)
    (h : ∀ (i : Nat) (v w : Value), vs[i]? = some v → ws[i]? = some w → Alike v w) :
    Alike (.array vs) (.array ws)
  /-- Tables are alike key by key. -/
  | table {es fs : Table} (hkeys : (es.map Prod.fst).Perm (fs.map Prod.fst))
    (h : ∀ key v w, es.get? key = some v → fs.get? key = some w → Alike v w) :
    Alike (.table es) (.table fs)

/-- Tables that differ at most in the order of the entries, in them and in the tables in them. -/
abbrev Table.Alike (es fs : Table) : Prop := Value.Alike (.table es) (.table fs)

/-- `t.get? key` is some value exactly if `key` is among the keys `t.map Prod.fst`. -/
theorem Table.exists_get?_iff {t : Table} {key : String} :
    (∃ v, t.get? key = some v) ↔ key ∈ t.map Prod.fst := by
  rw [Table.get?, ← Option.isSome_iff_exists, List.lookup_isSome_iff, List.mem_map]
  simp only [beq_iff_eq]
  exact exists_congr fun p => and_congr_right fun _ => eq_comm

namespace Value.Alike

variable {u v w : Value} {es fs : Table}

/-- `Alike` is symmetric. -/
theorem symm (h : Alike v w) : Alike w v := by
  induction h with
  | refl v => exact refl v
  | array hlength _ ih => exact array hlength.symm fun i w v hw hv => ih i v w hv hw
  | table hkeys _ ih => exact table hkeys.symm fun key w v hw hv => ih key v w hv hw

/-- `Alike` is transitive. -/
theorem trans (h : Alike u v) (h' : Alike v w) : Alike u w := by
  induction h generalizing w with
  | refl => exact h'
  | @array us vs hlength hall ih =>
    cases h' with
    | refl => exact array hlength hall
    | array hlength' hall' =>
      refine array (hlength.trans hlength') fun i a c ha hc => ?_
      -- the element between the two exists because the lists are of one length
      have hi : i < vs.length := hlength ▸ (List.getElem?_eq_some_iff.mp ha).1
      have hb : vs[i]? = some vs[i] := List.getElem?_eq_getElem hi
      exact ih i a _ ha hb (hall' i _ c hb hc)
  | @table es fs hkeys hall ih =>
    cases h' with
    | refl => exact table hkeys hall
    | table hkeys' hall' =>
      refine table (hkeys.trans hkeys') fun key a c ha hc => ?_
      -- the value between the two exists because the tables have the same keys
      obtain ⟨b, hb⟩ :=
        Table.exists_get?_iff.mpr (hkeys.mem_iff.mp (Table.exists_get?_iff.mp ⟨a, ha⟩))
      exact ih key a b ha hb (hall' key b c hb hc)

/-- `Option.Rel Alike found found`: whatever is looked up, found or not, is alike to itself. -/
theorem rel_refl (found : Option Value) : Option.Rel Alike found found := by
  cases found with
  | none => exact .none
  | some v => exact .some (refl v)

/-- Of two look-ups with `Option.Rel Alike`, one finds something exactly if the other does. -/
theorem isSome_eq_of_rel {a b : Option Value} (h : Option.Rel Alike a b) : a.isSome = b.isSome := by
  cases h <;> rfl

end Value.Alike

/-! ## Alike tables -/

namespace Table

variable {t u es fs : Table} {key : String} {v w : Value}

/-- Alike tables have the same keys, up to their order. -/
theorem Alike.keys_perm (h : Alike es fs) : (es.map Prod.fst).Perm (fs.map Prod.fst) := by
  cases h with
  | refl => exact .refl _
  | table hkeys => exact hkeys

/-- `Option.Rel Value.Alike (es.get? key) (fs.get? key)` for alike tables and every key. -/
theorem Alike.get? (h : Alike es fs) (key : String) :
    Option.Rel Value.Alike (es.get? key) (fs.get? key) := by
  have hiff : (∃ v, es.get? key = some v) ↔ ∃ w, fs.get? key = some w := by
    rw [exists_get?_iff, exists_get?_iff, h.keys_perm.mem_iff]
  cases hv : es.get? key with
  | none =>
    cases hw : fs.get? key with
    | none => exact .none
    | some w =>
      obtain ⟨v, hv'⟩ := hiff.mpr ⟨w, hw⟩
      rw [hv] at hv'
      cases hv'
  | some v =>
    obtain ⟨w, hw⟩ := hiff.mp ⟨v, hv⟩
    rw [hw]
    cases h with
    | refl =>
      rw [hv] at hw
      exact Option.some.inj hw ▸ .some (.refl v)
    | table _ hall => exact .some (hall key v w hv hw)

/-- Tables whose keys are the same up to their order, and whose look-ups are
`Option.Rel Value.Alike`, are alike. -/
theorem alike_of_get? (hkeys : (es.map Prod.fst).Perm (fs.map Prod.fst))
    (h : ∀ key, Option.Rel Value.Alike (es.get? key) (fs.get? key)) : Alike es fs := by
  refine .table hkeys fun key v w hv hw => ?_
  have hrel := h key
  rw [hv, hw] at hrel
  cases hrel with
  | some hvw => exact hvw

/-! ## Setting entries -/

/-- `(t.put key v).get? other` is `v` for the key itself, and `t.get? other` for every other key. -/
@[simp] theorem get?_put (t : Table) (key : String) (v : Value) (other : String) :
    (t.put key v).get? other = if other = key then some v else t.get? other :=
  lookup_set t key v other

/-- The keys of `t.put key v` are those of `t`, with `key` behind them if it is new. -/
theorem keys_put (t : Table) (key : String) (v : Value) :
    (t.put key v).map Prod.fst = if (t.get? key).isSome then t.map Prod.fst
      else t.map Prod.fst ++ [key] := by
  unfold put
  split
  · rw [List.map_map]
    refine List.map_congr_left fun e _ => ?_
    by_cases he : e.1 = key
    · rw [Function.comp_apply, if_pos he, he]
    · rw [Function.comp_apply, if_neg he]
  · rw [List.map_append]
    rfl

/-- `put` keeps the keys apart. -/
theorem nodup_keys_put (h : (t.map Prod.fst).Nodup) (key : String) (v : Value) :
    ((t.put key v).map Prod.fst).Nodup := by
  rw [keys_put]
  split
  · exact h
  · next hnone =>
    rw [Option.isSome_iff_exists, exists_get?_iff] at hnone
    exact List.nodup_append.mpr ⟨h, List.nodup_singleton key, by
      rintro k hk _ hkey rfl
      exact hnone (List.mem_singleton.mp hkey ▸ hk)⟩

/-- `put` keeps tables alike when alike values are set for the same key. -/
theorem Alike.put (h : Alike es fs) (key : String) (hvw : Value.Alike v w) :
    Alike (es.put key v) (fs.put key w) := by
  have hsome := Value.Alike.isSome_eq_of_rel (h.get? key)
  refine alike_of_get? ?_ fun other => ?_
  · rw [keys_put, keys_put, hsome]
    split
    · exact h.keys_perm
    · exact h.keys_perm.append_right [key]
  · rw [get?_put, get?_put]
    split
    · exact .some hvw
    · exact h.get? other

/-- `(t.put key v).put key w` is alike to `t.put key w`: of two values for a key the last one
counts. -/
theorem alike_put_put_self (t : Table) (key : String) (v w : Value) :
    Alike ((t.put key v).put key w) (t.put key w) := by
  refine alike_of_get? ?_ fun k => ?_
  · have hsome : ((t.put key v).get? key).isSome = true := by
      rw [get?_put, if_pos rfl, Option.isSome_some]
    rw [keys_put, if_pos hsome, keys_put, keys_put]
  · have heq : ((t.put key v).put key w).get? k = (t.put key w).get? k := by
      rw [get?_put, get?_put, get?_put]
      by_cases h : k = key
      · rw [if_pos h, if_pos h]
      · rw [if_neg h, if_neg h, if_neg h]
    exact heq ▸ Value.Alike.rel_refl _

/-- `put` at two different keys can be done in either order, up to `Alike`. -/
theorem alike_put_put {key other : String} (hne : key ≠ other) (t : Table) (v w : Value) :
    Alike ((t.put key v).put other w) ((t.put other w).put key v) := by
  refine alike_of_get? ?_ fun k => ?_
  · -- only where both keys are new do they stand in different order
    simp only [keys_put, get?_put, if_neg hne, if_neg hne.symm]
    by_cases h : (t.get? key).isSome
    · by_cases h' : (t.get? other).isSome
      · simp [h, h']
      · simp [h, h']
    · by_cases h' : (t.get? other).isSome
      · simp [h, h']
      · simpa [h, h'] using (List.Perm.swap other key []).append_left _
  · have heq : ((t.put key v).put other w).get? k = ((t.put other w).put key v).get? k := by
      simp only [get?_put]
      by_cases h : k = key
      · rw [if_pos h, if_pos h, if_neg (h ▸ hne)]
      · rw [if_neg h, if_neg h]
    exact heq ▸ Value.Alike.rel_refl _

/-- `(t.putAll u).get? key = (u.get? key).or (t.get? key)`: what has been set comes before what the
table held. -/
theorem get?_putAll (hu : (u.map Prod.fst).Nodup) (t : Table) (key : String) :
    (t.putAll u).get? key = (u.get? key).or (t.get? key) := by
  induction u generalizing t with
  | nil => rfl
  | cons e u ih =>
    obtain ⟨k, v⟩ := e
    rw [List.map_cons, List.nodup_cons] at hu
    have hcons : t.putAll ((k, v) :: u) = (t.put k v).putAll u := rfl
    rw [hcons, ih hu.2, get?_put, get?_cons]
    by_cases h : key = k
    · -- the key does not come again, so nothing later hides the value
      have hnone : Table.get? u k = none := by
        rw [← Option.not_isSome_iff_eq_none, Option.isSome_iff_exists, exists_get?_iff]
        exact hu.1
      rw [if_pos h, if_pos h, h, hnone, Option.none_or, Option.some_or]
    · rw [if_neg h, if_neg h]

end Table

/-! ## Comparing values -/

mutual

/-- Whether two values are equal and hold neither numbers with a floating point nor moments. -/
def Value.isSame : Value → Value → Bool
  | .text s, .text s' => s == s'
  | .integer n, .integer n' => n == n'
  | .boolean b, .boolean b' => b == b'
  | .array vs, .array ws => areSame vs ws
  | .table es, .table fs => areSameEntries es fs
  | _, _ => false

/-- Whether lists of such values are equal. -/
def areSame : List Value → List Value → Bool
  | [], [] => true
  | v :: vs, w :: ws => v.isSame w && areSame vs ws
  | _, _ => false

/-- Whether tables of such values are equal, also in the order of their entries. -/
def areSameEntries : List (String × Value) → List (String × Value) → Bool
  | [], [] => true
  | e :: es, f :: fs => e.1 == f.1 && e.2.isSame f.2 && areSameEntries es fs
  | _, _ => false

end

mutual

/-- `v.isSame w` decides equality of values in one direction: `v = w`. -/
theorem eq_of_isSame (v w : Value) (h : v.isSame w = true) : v = w := by
  cases v <;> cases w <;> simp only [Value.isSame, beq_iff_eq, Bool.false_eq_true] at h
  case text.text => rw [h]
  case integer.integer => rw [h]
  case boolean.boolean => rw [h]
  case array.array vs ws => rw [eq_of_areSame vs ws h]
  case table.table es fs => rw [eq_of_areSameEntries es fs h]

/-- `areSame vs ws` gives `vs = ws`. -/
theorem eq_of_areSame (vs ws : List Value) (h : areSame vs ws = true) : vs = ws := by
  cases vs <;> cases ws <;> simp only [areSame, Bool.and_eq_true, Bool.false_eq_true] at h
  case nil.nil => rfl
  case cons.cons v vs w ws => rw [eq_of_isSame v w h.1, eq_of_areSame vs ws h.2]

/-- `areSameEntries es fs` gives `es = fs`. -/
theorem eq_of_areSameEntries (es fs : List (String × Value)) (h : areSameEntries es fs = true) :
    es = fs := by
  cases es <;> cases fs <;>
    simp only [areSameEntries, Bool.and_eq_true, beq_iff_eq, Bool.false_eq_true] at h
  case nil.nil => rfl
  case cons.cons e es f fs =>
    rw [Prod.ext h.1.1 (eq_of_isSame e.2 f.2 h.1.2), eq_of_areSameEntries es fs h.2]

end

/-- Whether a document has been read, and is the given one. -/
def isReadAs (x : Except ReadError Table) (doc : Table) : Bool :=
  match x with
  | .ok read => areSameEntries read doc
  | .error _ => false

/-- `isReadAs x doc` gives `x = .ok doc`, so that a reading can be evaluated. -/
theorem eq_ok_of_isReadAs {x : Except ReadError Table} {doc : Table} (h : isReadAs x doc = true) :
    x = .ok doc := by
  cases x with
  | error e => cases h
  | ok read => exact congrArg Except.ok (eq_of_areSameEntries read doc h)

end Restyle.Toml
