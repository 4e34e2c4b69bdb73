import Mathlib
import Restyle.ImportGraph.Traversal
import Restyle.Proofs.FreshOnes
import Restyle.Proofs.GraphIndex

/-! # Breadth-first search
The search lists exactly what can be reached, each node once, provided that the nodes in reach are
no more than the fuel (`Explored.explore`). In a well-formed import graph they are never more: so
the ancestors and descendants of a file are exactly the files in reach of it (`mem_reachFrom_iff`).
-/

namespace Restyle

open Relation

section Explore

variable {α : Type}

/-- `l.length ≤ others.length` for a list without duplicates whose members are among `others`. -/
theorem length_le_of_nodup_of_subset {l others : List α} (hl : l.Nodup)
    (hsub : ∀ x ∈ l, x ∈ others) : l.length ≤ others.length :=
  (List.Nodup.subperm hl hsub).length_le

/-- `ReflTransGen r a b ↔ ReflTransGen s a b` if `r` and `s` agree wherever `P` holds, `r` keeps
`P`, and `a` has it. -/
theorem reflTransGen_iff_of_agree {r s : α → α → Prop} (P : α → Prop)
    (hkeep : ∀ a b, P a → r a b → P b)
    (hagree : ∀ a, P a → ∀ b, r a b ↔ s a b) {a b : α} (ha : P a) :
    ReflTransGen r a b ↔ ReflTransGen s a b := by
  constructor
  · intro hwalk
    have hboth : P b ∧ ReflTransGen s a b := by
      induction hwalk with
      | refl => exact ⟨ha, .refl⟩
      | tail _ hstep ih => exact ⟨hkeep _ _ ih.1 hstep, ih.2.tail ((hagree _ ih.1 _).mp hstep)⟩
    exact hboth.2
  · intro hwalk
    have hboth : P b ∧ ReflTransGen r a b := by
      induction hwalk with
      | refl => exact ⟨ha, .refl⟩
      | tail _ hstep ih =>
        have hstep := (hagree _ ih.1 _).mpr hstep
        exact ⟨hkeep _ _ ih.1 hstep, ih.2.tail hstep⟩
    exact hboth.2

/-- One turn of a search: the first node that waits is expanded. -/
def expandFirst [DecidableEq α] (next : α → List α) : List α × List α → List α × List α
  | (visited, []) => (visited, [])
  | (visited, x :: waiting) =>
    (visited ++ [x], waiting ++ freshOnes (visited ++ x :: waiting) (next x))

/-- `explore next fuel` is `fuel` turns of `expandFirst next`, with what waits after them at the
end. -/
theorem explore_eq_iterate [DecidableEq α] (next : α → List α) (fuel : Nat)
    (visited waiting : List α) :
    explore next fuel visited waiting =
      ((expandFirst next)^[fuel] (visited, waiting)).1 ++
        ((expandFirst next)^[fuel] (visited, waiting)).2 := by
  induction fuel generalizing visited waiting with
  | zero =>
    cases waiting with
    | nil => exact (List.append_nil visited).symm
    | cons x waiting => rfl
  | succ fuel ih =>
    cases waiting with
    | nil =>
      -- where nothing waits, a turn changes nothing
      have hstop : expandFirst next (visited, []) = (visited, []) := rfl
      rw [Function.iterate_fixed hstop, explore, List.append_nil]
    | cons x waiting => exact ih _ _

/-- A search from `start` that has expanded `visited` and reached `waiting`. -/
structure Explored (next : α → List α) (start : α) (visited waiting : List α) : Prop where
  /-- Nothing is listed twice. -/
  nodup : (visited ++ waiting).Nodup
  /-- The start is listed. -/
  start_mem : start ∈ visited ++ waiting
  /-- What is listed is in reach. -/
  reachable : ∀ x ∈ visited ++ waiting, ReflTransGen (fun a b => b ∈ next a) start x
  /-- Where an expanded node leads is listed. -/
  closed : ∀ x ∈ visited, ∀ y ∈ next x, y ∈ visited ++ waiting

namespace Explored

variable {next : α → List α} {start : α} {visited waiting : List α}

/-- `Explored next start [] [start]`. -/
theorem init (next : α → List α) (start : α) : Explored next start [] [start] where
  nodup := List.nodup_singleton start
  start_mem := List.mem_cons_self
  reachable x hx := by
    rw [List.nil_append, List.mem_singleton] at hx
    rw [hx]
  closed x hx := absurd hx List.not_mem_nil

/-- `x ∈ visited ↔ ReflTransGen … start x` for a search in which nothing waits. -/
theorem mem_iff (h : Explored next start visited []) {x : α} :
    x ∈ visited ↔ ReflTransGen (fun a b => b ∈ next a) start x := by
  have hnil : visited ++ [] = visited := List.append_nil visited
  refine ⟨fun hx => h.reachable x (hnil.symm ▸ hx), fun hx => ?_⟩
  induction hx with
  | refl => exact hnil ▸ h.start_mem
  | tail _ hstep ih => exact hnil ▸ h.closed _ ih _ hstep

/-- A search lists no more than `inReach`. -/
theorem length_le (h : Explored next start visited waiting) {inReach : List α}
    (hreach : ∀ x, ReflTransGen (fun a b => b ∈ next a) start x → x ∈ inReach) :
    (visited ++ waiting).length ≤ inReach.length :=
  length_le_of_nodup_of_subset h.nodup fun x hx => hreach x (h.reachable x hx)

variable [DecidableEq α]

/-- `Explored` is kept when the first waiting node is expanded. -/
theorem step {x : α} (h : Explored next start visited (x :: waiting)) :
    Explored next start (visited ++ [x])
      (waiting ++ freshOnes (visited ++ x :: waiting) (next x)) := by
  have hlist : visited ++ [x] ++ (waiting ++ freshOnes (visited ++ x :: waiting) (next x))
      = (visited ++ x :: waiting) ++ freshOnes (visited ++ x :: waiting) (next x) := by simp
  have hx : x ∈ visited ++ x :: waiting := by simp
  constructor
  · rw [hlist]
    refine h.nodup.append (nodup_freshOnes _ _) ?_
    intro y hy hfresh
    exact (mem_freshOnes.mp hfresh).2 hy
  · rw [hlist]
    exact List.mem_append_left _ h.start_mem
  · rw [hlist]
    intro y hy
    rcases List.mem_append.mp hy with hy | hy
    · exact h.reachable y hy
    · exact (h.reachable x hx).tail (mem_freshOnes.mp hy).1
  · rw [hlist]
    intro y hy z hz
    -- a node that has not been listed is where the new one leads, and is listed now
    by_cases hseen : z ∈ visited ++ x :: waiting
    · exact List.mem_append_left _ hseen
    · rcases List.mem_append.mp hy with hy | hy
      · exact absurd (h.closed y hy z hz) hseen
      · rw [List.mem_singleton.mp hy] at hz
        exact List.mem_append_right _ (mem_freshOnes.mpr ⟨hz, hseen⟩)

/-- `Explored` is kept by a turn. -/
theorem expandFirst (h : Explored next start visited waiting) :
    Explored next start (Restyle.expandFirst next (visited, waiting)).1
      (Restyle.expandFirst next (visited, waiting)).2 := by
  cases waiting with
  | nil => exact h
  | cons x waiting => exact h.step

/-- `Explored` is kept by any number of turns. -/
theorem iterate (h : Explored next start visited waiting) (turns : Nat) :
    Explored next start ((Restyle.expandFirst next)^[turns] (visited, waiting)).1
      ((Restyle.expandFirst next)^[turns] (visited, waiting)).2 := by
  induction turns with
  | zero => exact h
  | succ turns ih =>
    rw [Function.iterate_succ_apply']
    exact ih.expandFirst

/-- Nothing waits after `inReach.length` turns. -/
theorem waiting_eq_nil {turns : Nat} (h : Explored next start visited waiting) (inReach : List α)
    (hreach : ∀ x, ReflTransGen (fun a b => b ∈ next a) start x → x ∈ inReach)
    (hturns : inReach.length ≤ turns + visited.length) :
    ((Restyle.expandFirst next)^[turns] (visited, waiting)).2 = [] := by
  induction turns generalizing visited waiting with
  | zero =>
    -- everything listed is in reach, which leaves no room for anything that waits
    have hlength := h.length_le hreach
    rw [List.length_append] at hlength
    show waiting = []
    exact List.eq_nil_of_length_eq_zero (by omega)
  | succ turns ih =>
    cases waiting with
    | nil =>
      have hstop : Restyle.expandFirst next (visited, []) = (visited, []) := rfl
      rw [Function.iterate_fixed hstop]
    | cons x waiting =>
      refine ih h.step ?_
      simp only [List.length_append, List.length_singleton]
      omega

/-- `explore next fuel` is `Explored` with nothing waiting, if the fuel is enough for `inReach`. -/
theorem explore {fuel : Nat} (h : Explored next start visited waiting) (inReach : List α)
    (hreach : ∀ x, ReflTransGen (fun a b => b ∈ next a) start x → x ∈ inReach)
    (hfuel : inReach.length ≤ fuel + visited.length) :
    Explored next start (Restyle.explore next fuel visited waiting) [] := by
  have hended := h.iterate fuel
  rw [h.waiting_eq_nil inReach hreach hfuel] at hended
  rw [explore_eq_iterate, h.waiting_eq_nil inReach hreach hfuel, List.append_nil]
  exact hended

end Explored

end Explore

namespace ImportGraph

variable {g : ImportGraph}

/-- Imports only lead to files of the graph, so that the only node in reach that may be none of them
is the start. -/
theorem mem_cons_paths_of_reachable {next : String → List String}
    (hnext : ∀ a, ∀ b ∈ next a, b ∈ g.paths) {start x : String}
    (hx : ReflTransGen (fun a b => b ∈ next a) start x) : x ∈ start :: g.paths := by
  rcases ReflTransGen.cases_tail hx with rfl | ⟨y, -, hstep⟩
  · exact List.mem_cons_self
  · exact List.mem_cons_of_mem _ (hnext y x hstep)

/-- The search through a graph, along imports in either direction, is complete: its fuel is the
number of files and one more, for a start that is none of them. -/
theorem explored_reachFrom {next : String → List String} (hnext : ∀ a, ∀ b ∈ next a, b ∈ g.paths)
    (path : String) : Explored next (g.normalize path) (g.reachFrom next path) [] := by
  refine (Explored.init next (g.normalize path)).explore (g.normalize path :: g.paths) ?_ ?_
  · exact fun x hx => mem_cons_paths_of_reachable hnext hx
  · simp [paths, size]

/-- `g.reachFrom next path` has no duplicates, if `next` leads to files of the graph. -/
theorem nodup_reachFrom {next : String → List String} (hnext : ∀ a, ∀ b ∈ next a, b ∈ g.paths)
    (path : String) : (g.reachFrom next path).Nodup := by
  simpa using (explored_reachFrom hnext path).nodup

/-- `x ∈ g.reachFrom next path` exactly if `next` leads from `g.normalize path` to `x`. -/
theorem mem_reachFrom_iff {next : String → List String} (hnext : ∀ a, ∀ b ∈ next a, b ∈ g.paths)
    {path x : String} :
    x ∈ g.reachFrom next path ↔ ReflTransGen (fun a b => b ∈ next a) (g.normalize path) x :=
  (explored_reachFrom hnext path).mem_iff

/-- Whatever imports a file is a file of the graph. -/
theorem WellFormed.mem_paths_of_mem_importersOf (h : g.WellFormed) {path importer : String}
    (himporter : importer ∈ g.importersOf path) : importer ∈ g.paths :=
  mem_paths_of_mem_neighbours ((h.mem_importers_iff importer (g.normalize path)).mp himporter)

end ImportGraph

end Restyle
