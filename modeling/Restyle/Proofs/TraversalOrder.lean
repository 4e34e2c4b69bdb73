import Mathlib
import Restyle.Proofs.EdgeLists
import Restyle.Proofs.RebuildSet

/-! # The order of a traversal
A search lists what it reaches layer by layer: the start, then what the start leads to, then what
that leads to, each node in the first layer in which it comes up. So it goes from the near to the
far (`ListsByDistance`). In a graph that is built by calls, whatever they are, both traversals are
such searches (`listsByDistance_of_performAll`), and each of them is the other one the opposite way
(`mem_ancestors_iff_mem_descendants`). -/

namespace Restyle

open Relation

/-! ## Layers -/

section Layers

variable {α : Type} {next : α → List α} {start x : α} {layer : Nat → List α} {i k n : Nat}

/-- A node can be reached from `start` in exactly so many steps. -/
inductive InSteps (next : α → List α) (start : α) : Nat → α → Prop
  | zero : InSteps next start 0 start
  | succ {n : Nat} {x y : α} : InSteps next start n x → y ∈ next x → InSteps next start (n + 1) y

/-- The distance of a node from `start` is the least number of steps in which it can be reached. -/
def IsDistance (next : α → List α) (start x : α) (n : Nat) : Prop :=
  IsLeast {m | InSteps next start m x} n

/-- The members of the first `n` layers are those of some layer `k < n`. -/
theorem mem_flatMap_range : x ∈ (List.range n).flatMap layer ↔ ∃ k < n, x ∈ layer k := by
  simp [List.mem_flatMap]

/-- The first `k + 1` layers are the first `k`, and `layer k`. -/
theorem flatMap_range_succ (layer : Nat → List α) (k : Nat) :
    (List.range (k + 1)).flatMap layer = (List.range k).flatMap layer ++ layer k := by
  rw [List.range_succ, List.flatMap_append, List.flatMap_singleton]

/-- `n` layers that are not empty have at least `n` members. -/
theorem le_length_flatMap_range (h : ∀ k < n, layer k ≠ []) :
    n ≤ ((List.range n).flatMap layer).length := by
  induction n with
  | zero => exact Nat.zero_le _
  | succ n ih =>
    have hlast := List.length_pos_of_ne_nil (h n (Nat.lt_succ_self n))
    have hbefore := ih fun k hk => h k (Nat.lt_succ_of_lt hk)
    rw [flatMap_range_succ, List.length_append]
    omega

variable [DecidableEq α]

/-- The layers of a search: the start alone, and then always what the members of the last layer lead
to, in order, without the members of earlier layers and each at its first occurrence only. -/
structure IsLayering (next : α → List α) (start : α) (layer : Nat → List α) : Prop where
  zero : layer 0 = [start]
  succ : ∀ k, layer (k + 1) =
    (((layer k).flatMap next).filter fun x => ∀ i ≤ k, x ∉ layer i).eraseDups

/-- What is new after the layers up to `k`. -/
theorem freshOnes_flatMap_range (layer : Nat → List α) (k : Nat) (candidates : List α) :
    freshOnes ((List.range (k + 1)).flatMap layer) candidates =
      (candidates.filter fun x => ∀ i ≤ k, x ∉ layer i).eraseDups := by
  have hseen : ∀ x, x ∉ (List.range (k + 1)).flatMap layer ↔ ∀ i ≤ k, x ∉ layer i := by
    intro x
    rw [mem_flatMap_range]
    push Not
    exact forall_congr' fun i => imp_congr_left Nat.lt_succ_iff
  rw [freshOnes]
  congr 1
  exact List.filter_congr fun x _ => decide_eq_decide.mpr (hseen x)

/-- What a search has listed before it comes to layer `k`, and layer `k`. -/
def listedAndLayer (next : α → List α) (start : α) : Nat → List α × List α
  | 0 => ([], [start])
  | k + 1 =>
    let (listed, last) := listedAndLayer next start k
    (listed ++ last, freshOnes (listed ++ last) (last.flatMap next))

/-- What is listed before layer `k` are the layers before it. -/
theorem listedAndLayer_fst (next : α → List α) (start : α) (k : Nat) :
    (listedAndLayer next start k).1 = (List.range k).flatMap fun i =>
      (listedAndLayer next start i).2 := by
  induction k with
  | zero => rfl
  | succ k ih => rw [flatMap_range_succ, ← ih, listedAndLayer]

/-- `listedAndLayer next start` gives the layers of every search. -/
theorem isLayering_listedAndLayer (next : α → List α) (start : α) :
    IsLayering next start fun k => (listedAndLayer next start k).2 := by
  refine ⟨rfl, fun k => ?_⟩
  rw [← freshOnes_flatMap_range, flatMap_range_succ, ← listedAndLayer_fst]
  rfl

namespace IsLayering

/-- `x ∈ layer (k + 1)` exactly if a member of `layer k` leads to `x`, and no layer up to `k` has
it. -/
theorem mem_succ (h : IsLayering next start layer) :
    x ∈ layer (k + 1) ↔ (∃ y ∈ layer k, x ∈ next y) ∧ ∀ i ≤ k, x ∉ layer i := by
  rw [h.succ, List.mem_eraseDups]
  simp

/-- A node of layer `k` can be reached in `k` steps. -/
theorem inSteps (h : IsLayering next start layer) (hx : x ∈ layer k) : InSteps next start k x := by
  induction k generalizing x with
  | zero =>
    rw [h.zero, List.mem_singleton] at hx
    exact hx ▸ .zero
  | succ k ih =>
    obtain ⟨⟨y, hy, hstep⟩, -⟩ := h.mem_succ.mp hx
    exact (ih hy).succ hstep

/-- A node that can be reached in `n` steps is in layer `n` or in an earlier one. -/
theorem exists_mem_of_inSteps (h : IsLayering next start layer) (hx : InSteps next start n x) :
    ∃ k ≤ n, x ∈ layer k := by
  induction hx with
  | zero => exact ⟨0, le_rfl, by rw [h.zero]; exact List.mem_cons_self⟩
  | @succ n y x _ hstep ih =>
    obtain ⟨k, hk, hy⟩ := ih
    -- what layer `k` leads to is in the next layer, unless it has come up before
    by_cases hearlier : ∃ i ≤ k, x ∈ layer i
    · obtain ⟨i, hi, hx⟩ := hearlier
      exact ⟨i, by omega, hx⟩
    · push Not at hearlier
      exact ⟨k + 1, by omega, h.mem_succ.mpr ⟨⟨y, hy, hstep⟩, hearlier⟩⟩

/-- The layers have no members in common. -/
theorem not_mem_of_lt (h : IsLayering next start layer) (hx : x ∈ layer k) (hi : i < k) :
    x ∉ layer i := by
  obtain ⟨j, rfl⟩ := Nat.exists_eq_succ_of_ne_zero (Nat.ne_of_gt (Nat.zero_lt_of_lt hi))
  exact (h.mem_succ.mp hx).2 i (Nat.lt_succ_iff.mp hi)

/-- Layer `k` holds what is at distance `k`. -/
theorem mem_iff_isDistance (h : IsLayering next start layer) :
    x ∈ layer k ↔ IsDistance next start x k := by
  constructor
  · intro hx
    refine ⟨h.inSteps hx, fun n hn => ?_⟩
    obtain ⟨i, hi, hxi⟩ := h.exists_mem_of_inSteps hn
    by_contra hlt
    exact h.not_mem_of_lt hx (by omega) hxi
  · rintro ⟨hsteps, hleast⟩
    obtain ⟨i, hi, hx⟩ := h.exists_mem_of_inSteps hsteps
    have hle : k ≤ i := hleast (h.inSteps hx)
    exact Nat.le_antisymm hi hle ▸ hx

/-- `layer k = []` behind an empty layer. -/
theorem eq_nil_of_le (h : IsLayering next start layer) (hn : layer n = []) (hk : n ≤ k) :
    layer k = [] := by
  induction k, hk using Nat.le_induction with
  | base => exact hn
  | succ k _ ih => rw [h.succ, ih]; rfl

/-- `layer (k + 1)` are the `freshOnes` among what `layer k` leads to. -/
theorem succ_eq_freshOnes (h : IsLayering next start layer) (k : Nat) :
    layer (k + 1) = freshOnes ((List.range k).flatMap layer ++ layer k)
      ((layer k).flatMap next) := by
  rw [h.succ, ← flatMap_range_succ, freshOnes_flatMap_range]

end IsLayering

/-! ## The turns of a search -/

/-- `part.length` turns expand the `part` at the front of the queue, and put `freshOnes` of what it
leads to at the end. -/
theorem iterate_expandFirst_append (next : α → List α) (visited part later : List α) :
    (expandFirst next)^[part.length] (visited, part ++ later) =
      (visited ++ part, later ++ freshOnes (visited ++ part ++ later) (part.flatMap next)) := by
  induction part generalizing visited later with
  | nil => simp
  | cons x part ih =>
    set found := freshOnes (visited ++ x :: (part ++ later)) (next x) with hfound
    have hstep : expandFirst next (visited, x :: (part ++ later)) =
        (visited ++ [x], part ++ (later ++ found)) := by
      rw [expandFirst, List.append_assoc]
    have hlisted : visited ++ [x] ++ part ++ (later ++ found) =
        visited ++ x :: (part ++ later) ++ found := by simp
    rw [List.length_cons, Function.iterate_succ_apply, List.cons_append, hstep, ih, hlisted,
      List.flatMap_cons]
    simp only [List.append_assoc, List.cons_append, List.nil_append]
    rw [freshOnes_append, ← hfound]
    simp

/-- When everything before layer `k` has been expanded, layer `k` is what waits. -/
theorem IsLayering.iterate_expandFirst (h : IsLayering next start layer) (k : Nat) :
    (expandFirst next)^[((List.range k).flatMap layer).length] ([], [start]) =
      ((List.range k).flatMap layer, layer k) := by
  induction k with
  | zero =>
    rw [h.zero]
    rfl
  | succ k ih =>
    have hlayer := iterate_expandFirst_append next ((List.range k).flatMap layer) (layer k) []
    simp only [List.append_nil, List.nil_append] at hlayer
    rw [flatMap_range_succ, List.length_append, Nat.add_comm,
      Function.iterate_add_apply, ih, hlayer, h.succ_eq_freshOnes]

/-- Some layer is empty, if `inReach` is a list. -/
theorem IsLayering.exists_eq_nil (h : IsLayering next start layer) {inReach : List α}
    (hreach : ∀ x, ReflTransGen (fun a b => b ∈ next a) start x → x ∈ inReach) : ∃ n,
    layer n = [] := by
  by_contra hnone
  push Not at hnone
  have hturns :=
    (Explored.init next start).iterate ((List.range (inReach.length + 1)).flatMap layer).length
  rw [h.iterate_expandFirst] at hturns
  have hlength := hturns.length_le hreach
  have hlayers := le_length_flatMap_range fun k (_ : k < inReach.length + 1) => hnone k
  simp only [List.length_append] at hlength
  omega

/-- A listing of everything in reach of `start`, from the near to the far. -/
structure ListsByDistance (next : α → List α) (start : α) (listing : List α) : Prop where
  /-- A search gives the listing after finitely many turns, with nothing left that waits. -/
  search_ends : ∃ turns, (expandFirst next)^[turns] ([], [start]) = (listing, [])
  /-- It lists one layer after the other as long as there are any, and layer
  `k` is what is at distance `k`. -/
  eq_layers : ∃ layer n, IsLayering next start layer ∧ (∀ k, n ≤ k → layer k = []) ∧
    (∀ k x, x ∈ layer k ↔ IsDistance next start x k) ∧ listing = (List.range n).flatMap layer
  /-- Nothing is listed twice. -/
  nodup : listing.Nodup
  /-- What is listed is what can be reached. -/
  mem_iff : ∀ x, x ∈ listing ↔ ReflTransGen (fun a b => b ∈ next a) start x
  /-- No node is farther away than one that is listed after it. -/
  pairwise_distance : listing.Pairwise fun x y =>
    ∀ m n, IsDistance next start x m → IsDistance next start y n → m ≤ n

/-- The layers are listed by distance. -/
theorem IsLayering.pairwise_distance (h : IsLayering next start layer) (n : Nat) :
    ((List.range n).flatMap layer).Pairwise fun x y =>
      ∀ k l, IsDistance next start x k → IsDistance next start y l → k ≤ l := by
  have hle : ∀ i j, i ≤ j → ∀ x ∈ layer i, ∀ y ∈ layer j, ∀ k l,
      IsDistance next start x k → IsDistance next start y l → k ≤ l := by
    intro i j hij x hx y hy k l hk hl
    rw [hk.unique (h.mem_iff_isDistance.mp hx), hl.unique (h.mem_iff_isDistance.mp hy)]
    exact hij
  rw [List.pairwise_flatMap]
  refine ⟨fun i _ => List.pairwise_of_forall_mem_list fun x hx y hy => hle i i le_rfl x hx y hy, ?_⟩
  exact List.pairwise_lt_range.imp fun hij => hle _ _ (Nat.le_of_lt hij)

/-- `explore next fuel [] [start]` `ListsByDistance`, if the fuel is enough for `inReach`. -/
theorem listsByDistance_explore (inReach : List α)
    (hreach : ∀ x, ReflTransGen (fun a b => b ∈ next a) start x → x ∈ inReach) {fuel : Nat}
    (hfuel : inReach.length ≤ fuel) :
    ListsByDistance next start (explore next fuel [] [start]) := by
  set layer := fun k => (listedAndLayer next start k).2
  have hlayering : IsLayering next start layer := isLayering_listedAndLayer next start
  obtain ⟨n, hn⟩ := hlayering.exists_eq_nil hreach
  have hends := hlayering.iterate_expandFirst n
  rw [hn] at hends
  have hexplored := (Explored.init next start).iterate ((List.range n).flatMap layer).length
  rw [hends] at hexplored
  -- the turns that are left after the last layer change nothing
  have hlength := hexplored.length_le hreach
  rw [List.append_nil] at hlength
  have hstop : expandFirst next ((List.range n).flatMap layer, []) =
      ((List.range n).flatMap layer, []) := rfl
  have hlisting : explore next fuel [] [start] = (List.range n).flatMap layer := by
    obtain ⟨more, rfl⟩ := Nat.exists_eq_add_of_le' (hlength.trans hfuel)
    rw [explore_eq_iterate, Function.iterate_add_apply, hends, Function.iterate_fixed hstop,
      List.append_nil]
  rw [hlisting]
  refine ⟨⟨_, hends⟩, ⟨layer, n, hlayering, fun k hk => hlayering.eq_nil_of_le hn hk,
    fun k x => hlayering.mem_iff_isDistance, rfl⟩, ?_, fun x => hexplored.mem_iff,
    hlayering.pairwise_distance n⟩
  simpa using hexplored.nodup

end Layers

/-! ## Graphs that are built by calls -/

namespace ImportGraph

variable {g : ImportGraph} {p q : String}

/-- A well-formed graph in which every file stands under its canonical path. -/
structure IsNormal (g : ImportGraph) : Prop extends g.WellFormed where
  normalize_eq : ∀ p ∈ g.paths, g.normalize p = p

/-- `insertNode` of a canonical path keeps `IsNormal`. -/
theorem IsNormal.insertNode (h : g.IsNormal) (path : String) :
    (g.insertNode (g.normalize path)).IsNormal where
  toWellFormed := h.toWellFormed.insertNode _
  normalize_eq p hp := by
    rcases mem_paths_insertNode.mp hp with hp | rfl
    · exact h.normalize_eq p hp
    · exact Path.normalize_normalize _ _ _

/-- `insertEdge` of canonical paths keeps `IsNormal`. -/
theorem IsNormal.insertEdge (h : g.IsNormal) (importer imported : String) :
    (g.insertEdge (g.normalize importer) (g.normalize imported)).IsNormal where
  toWellFormed := h.toWellFormed.insertEdge _ _
  normalize_eq p hp := by
    rw [normalize, workingDir_insertEdge]
    rcases mem_paths_insertEdge.mp hp with hp | rfl | rfl
    · exact h.normalize_eq p hp
    · exact Path.normalize_normalize _ _ _
    · exact Path.normalize_normalize _ _ _

/-- Every call keeps `IsNormal`, whether it is refused or not. -/
theorem IsNormal.perform (h : g.IsNormal) (call : GraphCall) : (g.perform call).2.IsNormal := by
  cases hfrozen : g.isFrozen with
  | true =>
    rw [perform_of_isFrozen hfrozen]
    exact h
  | false =>
    cases call with
    | addFile path =>
      rw [perform_addFile hfrozen]
      exact h.insertNode path
    | addEdge importer imported =>
      rw [perform_addEdge hfrozen]
      exact h.insertEdge importer imported
    | freeze => exact ⟨h.toWellFormed.freeze, h.normalize_eq⟩

/-- Calls on a new graph make one that `IsNormal`. -/
theorem isNormal_performAll (root : String) (includePaths : List String) (dir : String)
    (calls : List GraphCall) :
    (({ root, includePaths, workingDir := dir } : ImportGraph).performAll calls).IsNormal := by
  induction calls using List.reverseRecOn with
  | nil => exact ⟨.of_nil rfl rfl, fun p hp => absurd hp List.not_mem_nil⟩
  | append_singleton calls call ih =>
    rw [performAll_append]
    exact ih.perform call

/-- `g.reachFrom next path` `ListsByDistance` from `g.normalize path`. -/
theorem listsByDistance_reachFrom {next : String → List String}
    (hnext : ∀ a, ∀ b ∈ next a, b ∈ g.paths) (path : String) :
    ListsByDistance next (g.normalize path) (g.reachFrom next path) :=
  listsByDistance_explore (g.normalize path :: g.paths)
    (fun _ hx => mem_cons_paths_of_reachable hnext hx) (by simp [paths, size])

/-- In a graph that calls have built, `ancestors` and `descendants` of a path `ListsByDistance`,
beginning with the path itself, which need not be a file of the graph. -/
theorem listsByDistance_of_performAll (root : String) (includePaths : List String) (dir : String)
    (calls : List GraphCall) (path : String) :
    let g := ({ root, includePaths, workingDir := dir } : ImportGraph).performAll calls
    ListsByDistance g.importersOf (g.normalize path) (g.ancestors path) ∧
      ListsByDistance g.importsOf (g.normalize path) (g.descendants path) := by
  intro g
  have hnormal : g.IsNormal := isNormal_performAll root includePaths dir calls
  constructor
  · exact listsByDistance_reachFrom (fun _ _ hb => hnormal.mem_paths_of_mem_importersOf hb) path
  · exact listsByDistance_reachFrom (fun _ b hb => hnormal.mem_paths_of_mem_imports _ b hb) path

/-- Two ways lead from `/d` to `/a`, which imports itself; `/b` comes before `/c`, as it imports
`/d` in the first place. -/
example :
    let g := ({} : ImportGraph).performAll
      [.addEdge "b" "d", .addEdge "c" "d", .addEdge "a" "c", .addEdge "a" "b", .addEdge "a" "a"]
    g.ancestors "d" = ["/d", "/b", "/c", "/a"] ∧ g.ancestors "e" = ["/e"] := by
  decide +kernel

/-! ## Both directions -/

/-- `q ∈ g.descendants p` exactly if imports lead from `p` to `q`. -/
theorem WellFormed.mem_descendants_iff (h : g.WellFormed)
    (hcanonical : ∀ p ∈ g.paths, g.normalize p = p) :
    q ∈ g.descendants p ↔
    ReflTransGen (fun a b => b ∈ g.imports.neighbours a) (g.normalize p) q := by
  have hnext : ∀ a, ∀ b ∈ g.importsOf a, b ∈ g.paths :=
    fun a b hb => h.mem_paths_of_mem_imports _ b hb
  rw [descendants, mem_reachFrom_iff hnext]
  have hstart : ∀ path, g.normalize (g.normalize path) = g.normalize path :=
    fun path => Path.normalize_normalize _ _ _
  refine reflTransGen_iff_of_agree (fun a => g.normalize a = a) ?_ ?_ (hstart _)
  · exact fun a b _ hb => hcanonical b (hnext a b hb)
  · intro a (ha : g.normalize a = a) b
    rw [importsOf, ha]

/-- In a graph that calls have built, a path is in `g.ancestors` of another one exactly if that one
is in its `g.descendants`, files of the graph or not. -/
theorem mem_ancestors_iff_mem_descendants (root : String) (includePaths : List String)
    (dir : String) (calls : List GraphCall) (a b : String) :
    let g := ({ root, includePaths, workingDir := dir } : ImportGraph).performAll calls
    g.normalize b ∈ g.ancestors a ↔ g.normalize a ∈ g.descendants b := by
  intro g
  have hnormal : g.IsNormal := isNormal_performAll root includePaths dir calls
  rw [hnormal.mem_ancestors_iff hnormal.normalize_eq,
    hnormal.mem_descendants_iff hnormal.normalize_eq]

end ImportGraph

end Restyle
