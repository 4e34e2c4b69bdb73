import Mathlib
import Restyle.ImportGraph.Traversal

/-! # First occurrences
`List.eraseDups` and `freshOnes` keep the first occurrence of every member. What they keep, that
they keep it once, and how they go through a list from its start and through two lists one after the
other. -/

namespace Restyle

variable {α : Type}

/-! ## Without repetitions -/

section EraseDups

variable [BEq α] [LawfulBEq α]

/-- `l.eraseDups` has no duplicates. -/
theorem nodup_eraseDups (l : List α) : l.eraseDups.Nodup := by
  -- `eraseDups` goes on with what a filter leaves of the tail, so the induction is on the length
  generalize hn : l.length = n
  induction n using Nat.strong_induction_on generalizing l with
  | _ n ih =>
    cases l with
    | nil => simp
    | cons a l =>
      have hlength : (l.filter fun b => !b == a).length < n := by
        have hle := List.length_filter_le (fun b => !b == a) l
        simp only [List.length_cons] at hn
        omega
      rw [List.eraseDups_cons, List.nodup_cons]
      exact ⟨by simp [List.mem_eraseDups], ih _ hlength _ rfl⟩

/-- `l.eraseDups = l` for a list without duplicates. -/
theorem eraseDups_of_nodup {l : List α} (h : l.Nodup) : l.eraseDups = l := by
  induction l with
  | nil => rfl
  | cons a l ih =>
    obtain ⟨ha, hl⟩ := List.nodup_cons.mp h
    have hfilter : (l.filter fun b => !b == a) = l := by
      refine List.filter_eq_self.mpr fun b hb => ?_
      have hba : b ≠ a := fun hba => ha (hba ▸ hb)
      simpa using hba
    rw [List.eraseDups_cons, hfilter, ih hl]

/-- `(l ++ [x]).eraseDups` has `x` at its end if it is new, and is `l.eraseDups` otherwise. -/
theorem eraseDups_append_singleton (l : List α) (x : α) :
    (l ++ [x]).eraseDups = if x ∈ l.eraseDups then l.eraseDups else l.eraseDups ++ [x] := by
  rw [List.eraseDups_append]
  by_cases hx : x ∈ l
  · simp [List.removeAll, hx, List.mem_eraseDups]
  · simp [List.removeAll, hx, List.mem_eraseDups, eraseDups_of_nodup]

end EraseDups

/-! ## Members that have not been seen -/

variable [DecidableEq α]

/-- `freshOnes seen candidates` are the candidates that are not in `seen`. -/
@[simp] theorem mem_freshOnes {seen candidates : List α} {x : α} :
    x ∈ freshOnes seen candidates ↔ x ∈ candidates ∧ x ∉ seen := by
  simp [freshOnes, List.mem_eraseDups]

/-- `freshOnes seen candidates` has no duplicates. -/
theorem nodup_freshOnes (seen candidates : List α) : (freshOnes seen candidates).Nodup :=
  nodup_eraseDups _

/-- `freshOnes seen [] = []`. -/
@[simp] theorem freshOnes_nil (seen : List α) : freshOnes seen [] = [] := rfl

/-- `freshOnes seen (x :: candidates) = freshOnes seen candidates` for an `x` that has been seen. -/
theorem freshOnes_cons_of_mem {seen : List α} {x : α} (h : x ∈ seen) (candidates : List α) :
    freshOnes seen (x :: candidates) = freshOnes seen candidates := by
  rw [freshOnes, List.filter_cons_of_neg (by simpa using h), freshOnes]

/-- `freshOnes seen (x :: candidates) = x :: freshOnes (seen ++ [x]) candidates` for a new `x`. -/
theorem freshOnes_cons_of_not_mem {seen : List α} {x : α} (h : x ∉ seen) (candidates : List α) :
    freshOnes seen (x :: candidates) = x :: freshOnes (seen ++ [x]) candidates := by
  rw [freshOnes, List.filter_cons_of_pos (by simpa using h), List.eraseDups_cons,
    List.filter_filter, freshOnes]
  congr 2
  apply List.filter_congr
  intro y _
  by_cases hy : y = x
  · simp [hy]
  · simp [hy]

/-- `freshOnes seen` goes through `++`: what has been kept of the first list has been seen when the
second one follows. -/
theorem freshOnes_append (seen first second : List α) :
    freshOnes seen (first ++ second) =
      freshOnes seen first ++ freshOnes (seen ++ freshOnes seen first) second := by
  induction first generalizing seen with
  | nil => simp
  | cons x first ih =>
    by_cases hx : x ∈ seen
    · rw [List.cons_append, freshOnes_cons_of_mem hx, freshOnes_cons_of_mem hx, ih]
    · rw [List.cons_append, freshOnes_cons_of_not_mem hx, freshOnes_cons_of_not_mem hx, ih]
      simp

/-- Passing over `others` beforehand changes nothing, if they are in `seen`. -/
theorem freshOnes_filter {seen others : List α} (h : ∀ x ∈ others, x ∈ seen) (candidates : List α) :
    freshOnes seen (candidates.filter (· ∉ others)) = freshOnes seen candidates := by
  rw [freshOnes, List.filter_filter, freshOnes]
  congr 1
  apply List.filter_congr
  intro y _
  by_cases hy : y ∈ seen
  · simp [hy]
  · have hy' : y ∉ others := fun hmem => hy (h y hmem)
    simp [hy, hy']

end Restyle
