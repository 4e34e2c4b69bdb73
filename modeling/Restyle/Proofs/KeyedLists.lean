import Mathlib

/-! # Lists with keys
File trees and documents hold their entries in lists of pairs, in which the first pair with a key
counts. To set the value of a key, every pair with that key is replaced, or a new pair is put at the
end; then the key has that value and all other keys keep theirs (`lookup_set`). -/

namespace Restyle

variable {κ ν : Type} [BEq κ] [LawfulBEq κ] {k other : κ} {entries : List (κ × ν)}

/-- An entry for `k` does not matter for the look-up of another key. -/
theorem lookup_cons_of_ne (h : other ≠ k) (v : ν) (entries : List (κ × ν)) :
    ((k, v) :: entries).lookup other = entries.lookup other := by
  have hbeq : (other == k) = false := by simpa using h
  rw [List.lookup_cons, hbeq]

variable [DecidableEq κ]

/-- `((k, v) :: entries).lookup other` is `v` for `k`, and `entries.lookup other` otherwise. -/
theorem lookup_cons_eq_ite (k : κ) (v : ν) (entries : List (κ × ν)) (other : κ) :
    ((k, v) :: entries).lookup other = if other = k then some v else entries.lookup other := by
  by_cases h : other = k
  · rw [if_pos h, h, List.lookup_cons_self]
  · rw [if_neg h, lookup_cons_of_ne h]

/-- Replacing the values of `k` leaves the look-up of every other key as it is. -/
theorem lookup_replace_of_ne (h : other ≠ k) (v : ν) (entries : List (κ × ν)) :
    (entries.map fun p => if p.1 = k then (k, v) else p).lookup other = entries.lookup other := by
  induction entries with
  | nil => rfl
  | cons p entries ih =>
    obtain ⟨q, old⟩ := p
    rw [List.map_cons]
    by_cases hq : q = k
    · subst hq
      rw [if_pos rfl, lookup_cons_of_ne h, lookup_cons_of_ne h, ih]
    · rw [if_neg hq, List.lookup_cons, List.lookup_cons, ih]

/-- Replacing the values of `k` by `v` makes `v` what is found for `k`, if the key occurs. -/
theorem lookup_replace_self (v : ν) (h : (entries.lookup k).isSome = true) :
    (entries.map fun p => if p.1 = k then (k, v) else p).lookup k = some v := by
  induction entries with
  | nil => cases h
  | cons p entries ih =>
    obtain ⟨q, old⟩ := p
    rw [List.map_cons]
    by_cases hq : q = k
    · rw [if_pos hq, List.lookup_cons_self]
    · rw [if_neg hq, lookup_cons_of_ne (Ne.symm hq)]
      exact ih (lookup_cons_of_ne (Ne.symm hq) old entries ▸ h)

/-- Setting `k` to `v`, in its place or at the end, makes `v` what is found for `k`, and changes no
other look-up. -/
theorem lookup_set (entries : List (κ × ν)) (k : κ) (v : ν) (other : κ) :
    (if (entries.lookup k).isSome then entries.map fun p => if p.1 = k then (k, v) else p
      else entries ++ [(k, v)]).lookup other = if other = k then some v
        else entries.lookup other := by
  by_cases hsome : (entries.lookup k).isSome = true
  · rw [if_pos hsome]
    by_cases hother : other = k
    · rw [if_pos hother, hother, lookup_replace_self v hsome]
    · rw [if_neg hother, lookup_replace_of_ne hother]
  · have hnone : entries.lookup k = none := Option.not_isSome_iff_eq_none.mp hsome
    rw [if_neg hsome, List.lookup_append, lookup_cons_eq_ite]
    by_cases hother : other = k
    · rw [if_pos hother, if_pos hother, hother, hnone, Option.none_or]
    · rw [if_neg hother, if_neg hother, List.lookup_nil, Option.or_none]

end Restyle
