import Mathlib
import Restyle.ImportGraph
import Restyle.Proofs.FreshOnes

/-! # The indices of an import graph
What the operations on an `Index` do to its keys and to the neighbours of a file, and the invariant
that every way to build a graph keeps: both indices know the same files, mirror each other, lead
only to files of the graph and hold no import twice (`ImportGraph.WellFormed`). -/

namespace Restyle

namespace Index

variable {ix : Index} {path neighbour x : String}

/-- The files of an index, in the order in which they were declared. -/
def keys (ix : Index) : List String := ix.map (·.1)

/-- `keys [] = []`. -/
@[simp] theorem keys_nil : keys [] = [] := rfl

/-- `keys (p :: ix) = p.1 :: keys ix`. -/
@[simp] theorem keys_cons (p : String × List String) (ix : Index) :
    keys (p :: ix) = p.1 :: keys ix := rfl

/-- An index has an entry for `path` exactly if `path` is among its keys. -/
theorem lookup_isSome_iff : (ix.lookup path).isSome = true ↔ path ∈ ix.keys := by
  induction ix with
  | nil => simp
  | cons p ix ih =>
    rw [List.lookup_cons, keys_cons, List.mem_cons]
    by_cases h : path = p.1
    · simp [h]
    · rw [show (path == p.1) = false by simpa using h]
      simp only [h, false_or]
      exact ih

/-- `ix.neighbours path = []` for a path that is not declared. -/
theorem neighbours_of_not_mem (h : path ∉ ix.keys) : ix.neighbours path = [] := by
  rw [← lookup_isSome_iff, Option.not_isSome_iff_eq_none] at h
  rw [neighbours, h]
  rfl

/-- A path with a neighbour is declared. -/
theorem mem_keys_of_mem_neighbours (h : neighbour ∈ ix.neighbours path) : path ∈ ix.keys := by
  by_contra hpath
  rw [neighbours_of_not_mem hpath] at h
  exact List.not_mem_nil h

/-- `neighbours (p :: ix) path` is `p.2` for `p.1`, and `ix.neighbours path` otherwise. -/
theorem neighbours_cons (p : String × List String) (ix : Index) (path : String) :
    neighbours (p :: ix) path = if path = p.1 then p.2 else ix.neighbours path := by
  unfold neighbours
  rw [List.lookup_cons]
  by_cases h : path = p.1
  · simp [h]
  · rw [if_neg h, show (path == p.1) = false by simpa using h]

/-! ## Declaring -/

/-- `declare path` puts `path` behind the keys if it is new. -/
theorem keys_declare (ix : Index) (path : String) :
    (ix.declare path).keys = if path ∈ ix.keys then ix.keys else ix.keys ++ [path] := by
  unfold declare
  by_cases h : path ∈ ix.keys
  · rw [if_pos h, if_pos (lookup_isSome_iff.mpr h)]
  · rw [if_neg h, if_neg (mt lookup_isSome_iff.mp h)]
    simp [keys]

/-- The keys of `ix.declare path` are those of `ix`, and `path`. -/
@[simp] theorem mem_keys_declare : x ∈ (ix.declare path).keys ↔ x ∈ ix.keys ∨ x = path := by
  rw [keys_declare]
  split
  · next h => exact ⟨.inl, fun hx => hx.elim id fun hx => hx ▸ h⟩
  · simp

/-- `(ix.declare path).neighbours x = ix.neighbours x`. -/
@[simp] theorem neighbours_declare (ix : Index) (path x : String) :
    (ix.declare path).neighbours x = ix.neighbours x := by
  unfold declare
  split
  · rfl
  · next h =>
    rw [lookup_isSome_iff] at h
    -- the new file is the last one, and has no neighbours, like a file that is not declared
    induction ix with
    | nil => rw [List.nil_append, neighbours_cons]; split <;> rfl
    | cons p ix ih =>
      have htail : path ∉ keys ix := fun hmem => h (List.mem_cons_of_mem _ hmem)
      rw [List.cons_append, neighbours_cons, neighbours_cons, ih htail]

/-- `declare` keeps the keys free of duplicates. -/
theorem nodup_keys_declare (h : ix.keys.Nodup) (path : String) : (ix.declare path).keys.Nodup := by
  rw [keys_declare]
  split
  · exact h
  · next hpath => exact h.append (List.nodup_singleton _) (by simpa using hpath)

/-! ## Attaching -/

/-- `(ix.attach path neighbour).keys = ix.keys`. -/
@[simp] theorem keys_attach (ix : Index) (path neighbour : String) :
    (ix.attach path neighbour).keys = ix.keys := by
  unfold keys attach
  rw [List.map_map]
  apply List.map_congr_left
  intro p _
  simp only [Function.comp]
  split <;> rfl

/-- Cons reading of `attach`: every entry of `path` gets the neighbour, and the others stay. -/
theorem attach_cons (p : String × List String) (ix : Index) (path neighbour : String) :
    attach (p :: ix) path neighbour =
      (p.1, if p.1 = path then p.2 ++ [neighbour] else p.2) :: attach ix path neighbour := by
  rw [attach, List.map_cons, attach]
  by_cases h : p.1 = path
  · rw [if_pos h, if_pos h]
  · rw [if_neg h, if_neg h]

/-- `attach path` leaves the neighbours of every other path as they are. -/
theorem neighbours_attach_of_ne (ix : Index) (neighbour : String) (h : x ≠ path) :
    (ix.attach path neighbour).neighbours x = ix.neighbours x := by
  -- only the entries of `path` grow, and the look-up passes over them
  induction ix with
  | nil => rfl
  | cons p ix ih =>
    rw [attach_cons, neighbours_cons, neighbours_cons, ih]
    by_cases hx : x = p.1
    · rw [if_pos hx, if_pos hx, if_neg (by rw [← hx]; exact h)]
    · rw [if_neg hx, if_neg hx]

/-- `attach path neighbour` puts `neighbour` behind the neighbours of `path`, if `path` is
declared. -/
theorem neighbours_attach_self (h : path ∈ ix.keys) (neighbour : String) :
    (ix.attach path neighbour).neighbours path = ix.neighbours path ++ [neighbour] := by
  -- the entry that is looked up is the first one of `path`, which grows like all of them
  induction ix with
  | nil => exact absurd h List.not_mem_nil
  | cons p ix ih =>
    rw [attach_cons, neighbours_cons, neighbours_cons]
    by_cases hp : path = p.1
    · rw [if_pos hp, if_pos hp, if_pos hp.symm]
    · rw [if_neg hp, if_neg hp, ih ((List.mem_cons.mp h).resolve_left hp)]

end Index

namespace ImportGraph

variable {g : ImportGraph} {path importer imported x : String}

/-! ## Adding a file -/

/-- `path ∈ g.paths ↔ path ∈ g.imports.keys`. -/
theorem mem_paths : path ∈ g.paths ↔ path ∈ g.imports.keys := Iff.rfl

/-- `insertNode path` puts `path` behind the files if it is new. -/
theorem paths_insertNode (g : ImportGraph) (path : String) :
    (g.insertNode path).paths = if path ∈ g.paths then g.paths else g.paths ++ [path] :=
  Index.keys_declare g.imports path

/-- The files of `g.insertNode path` are those of `g`, and `path`. -/
@[simp] theorem mem_paths_insertNode : x ∈ (g.insertNode path).paths ↔ x ∈ g.paths ∨ x = path :=
  Index.mem_keys_declare

/-- `insertNode` adds no import. -/
@[simp] theorem neighbours_imports_insertNode (g : ImportGraph) (path x : String) :
    (g.insertNode path).imports.neighbours x = g.imports.neighbours x :=
  Index.neighbours_declare g.imports path x

/-- `insertNode` adds no importer. -/
@[simp] theorem neighbours_importers_insertNode (g : ImportGraph) (path x : String) :
    (g.insertNode path).importers.neighbours x = g.importers.neighbours x :=
  Index.neighbours_declare g.importers path x

/-- What every way to build a graph keeps. -/
structure WellFormed (g : ImportGraph) : Prop where
  /-- No file stands in the graph twice. -/
  nodup_paths : g.paths.Nodup
  /-- Both indices know the same files, in the same order. -/
  keys_importers : g.importers.keys = g.paths
  /-- The indices mirror each other. -/
  mem_importers_iff : ∀ p q, p ∈ g.importers.neighbours q ↔ q ∈ g.imports.neighbours p
  /-- Imports lead to files of the graph. -/
  mem_paths_of_mem_imports : ∀ p q, q ∈ g.imports.neighbours p → q ∈ g.paths
  /-- No import stands in the graph twice. -/
  nodup_imports : ∀ p, (g.imports.neighbours p).Nodup
  /-- Nor does it from the side of the imported file. -/
  nodup_importers : ∀ p, (g.importers.neighbours p).Nodup

/-- A graph with empty indices is well formed. -/
theorem WellFormed.of_nil (himports : g.imports = []) (himporters : g.importers = []) :
    g.WellFormed := by
  constructor <;> simp [paths, himports, himporters, Index.neighbours]

/-- `WellFormed` depends on the two indices only. -/
theorem WellFormed.of_indices_eq {g' : ImportGraph} (h : g.WellFormed)
    (himports : g'.imports = g.imports) (himporters : g'.importers = g.importers) :
    g'.WellFormed := by
  have hpaths : g'.paths = g.paths := by rw [paths, paths, himports]
  constructor
  · rw [hpaths]
    exact h.nodup_paths
  · rw [hpaths, himporters]
    exact h.keys_importers
  · rw [himports, himporters]
    exact h.mem_importers_iff
  · rw [hpaths, himports]
    exact h.mem_paths_of_mem_imports
  · rw [himports]
    exact h.nodup_imports
  · rw [himporters]
    exact h.nodup_importers

/-- `freeze` keeps `WellFormed`. -/
theorem WellFormed.freeze (h : g.WellFormed) : g.freeze.WellFormed := h.of_indices_eq rfl rfl

/-- `insertNode` keeps `WellFormed`. -/
theorem WellFormed.insertNode (h : g.WellFormed) (path : String) :
    (g.insertNode path).WellFormed where
  nodup_paths := Index.nodup_keys_declare h.nodup_paths path
  keys_importers := by
    have hkeys : g.importers.keys = g.imports.keys := h.keys_importers
    rw [paths_insertNode]
    exact (Index.keys_declare g.importers path).trans (by rw [hkeys]; rfl)
  mem_importers_iff p q := by
    rw [neighbours_importers_insertNode, neighbours_imports_insertNode]
    exact h.mem_importers_iff p q
  mem_paths_of_mem_imports p q hq := by
    rw [neighbours_imports_insertNode] at hq
    exact mem_paths_insertNode.mpr (.inl (h.mem_paths_of_mem_imports p q hq))
  nodup_imports p := by
    rw [neighbours_imports_insertNode]
    exact h.nodup_imports p
  nodup_importers p := by
    rw [neighbours_importers_insertNode]
    exact h.nodup_importers p

/-- A file with an import is a file of the graph. -/
theorem mem_paths_of_mem_neighbours (h : x ∈ g.imports.neighbours path) : path ∈ g.paths :=
  Index.mem_keys_of_mem_neighbours h

/-! ## Adding an import -/

/-- The graph with both ends of an import, and without the import itself. -/
def insertEnds (g : ImportGraph) (importer imported : String) : ImportGraph :=
  (g.insertNode importer).insertNode imported

/-- `insertEdge` of an import that the graph has is `insertEnds`. -/
theorem insertEdge_of_mem (h : imported ∈ g.imports.neighbours importer) :
    g.insertEdge importer imported = g.insertEnds importer imported := by
  have h' : imported ∈ (g.insertEnds importer imported).imports.neighbours importer := by
    simpa [insertEnds] using h
  exact if_pos h'

/-- `insertEdge` of a new import is `insertEnds`, with the import attached in both indices. -/
theorem insertEdge_of_not_mem (h : imported ∉ g.imports.neighbours importer) :
    g.insertEdge importer imported =
      { g.insertEnds importer imported with
        imports := (g.insertEnds importer imported).imports.attach importer imported
        importers := (g.insertEnds importer imported).importers.attach imported importer } := by
  have h' : imported ∉ (g.insertEnds importer imported).imports.neighbours importer := by
    simpa [insertEnds] using h
  exact if_neg h'

/-- `insertEdge` adds the files that `insertEnds` does. -/
theorem paths_insertEdge (g : ImportGraph) (importer imported : String) :
    (g.insertEdge importer imported).paths = (g.insertEnds importer imported).paths := by
  by_cases h : imported ∈ g.imports.neighbours importer
  · rw [insertEdge_of_mem h]
  · rw [insertEdge_of_not_mem h]
    exact Index.keys_attach _ _ _

/-- The files of `g.insertEdge importer imported` are those of `g` and the two ends. -/
@[simp] theorem mem_paths_insertEdge :
    x ∈ (g.insertEdge importer imported).paths ↔ x ∈ g.paths ∨ x = importer ∨ x = imported := by
  rw [paths_insertEdge, insertEnds, mem_paths_insertNode, mem_paths_insertNode, or_assoc]

/-- `insertEdge` leaves the unresolved imports as they are. -/
@[simp] theorem unresolved_insertEdge (g : ImportGraph) (importer imported : String) :
    (g.insertEdge importer imported).unresolved = g.unresolved := by
  by_cases h : imported ∈ g.imports.neighbours importer
  · rw [insertEdge_of_mem h]; rfl
  · rw [insertEdge_of_not_mem h]; rfl

/-- `insertEdge` leaves the working directory as it is. -/
@[simp] theorem workingDir_insertEdge (g : ImportGraph) (importer imported : String) :
    (g.insertEdge importer imported).workingDir = g.workingDir := by
  by_cases h : imported ∈ g.imports.neighbours importer
  · rw [insertEdge_of_mem h]; rfl
  · rw [insertEdge_of_not_mem h]; rfl

/-- `insertEdge` puts a new `imported` behind the imports of `importer`, and changes those of no
other file. -/
theorem neighbours_imports_insertEdge (g : ImportGraph) (importer imported x : String) :
    (g.insertEdge importer imported).imports.neighbours x =
      if x = importer ∧ imported ∉ g.imports.neighbours importer then
        g.imports.neighbours x ++ [imported]
      else g.imports.neighbours x := by
  by_cases h : imported ∈ g.imports.neighbours importer
  · rw [insertEdge_of_mem h, if_neg (fun hx => hx.2 h)]
    simp [insertEnds]
  · rw [insertEdge_of_not_mem h]
    by_cases hx : x = importer
    · have hmem : importer ∈ (g.insertEnds importer imported).imports.keys := by
        rw [← mem_paths]
        simp [insertEnds]
      rw [if_pos ⟨hx, h⟩, hx, Index.neighbours_attach_self hmem]
      simp [insertEnds]
    · rw [if_neg (fun h' => hx h'.1), Index.neighbours_attach_of_ne _ _ hx]
      simp [insertEnds]

/-- `insertEdge` puts `importer` behind the importers of a new `imported`, and changes those of no
other file. -/
theorem neighbours_importers_insertEdge (hg : g.WellFormed) (importer imported x : String) :
    (g.insertEdge importer imported).importers.neighbours x =
      if x = imported ∧ imported ∉ g.imports.neighbours importer then
        g.importers.neighbours x ++ [importer]
      else g.importers.neighbours x := by
  by_cases h : imported ∈ g.imports.neighbours importer
  · rw [insertEdge_of_mem h, if_neg (fun hx => hx.2 h)]
    simp [insertEnds]
  · rw [insertEdge_of_not_mem h]
    by_cases hx : x = imported
    · have hends : (g.insertEnds importer imported).WellFormed :=
        (hg.insertNode importer).insertNode imported
      have hmem : imported ∈ (g.insertEnds importer imported).importers.keys := by
        rw [hends.keys_importers]
        simp [insertEnds]
      rw [if_pos ⟨hx, h⟩, hx, Index.neighbours_attach_self hmem]
      simp [insertEnds]
    · rw [if_neg (fun h' => hx h'.1), Index.neighbours_attach_of_ne _ _ hx]
      simp [insertEnds]

/-- The imports in `g.insertEdge importer imported` are those of `g`, and `imported` of
`importer`. -/
@[simp] theorem mem_imports_insertEdge {p q : String} :
    q ∈ (g.insertEdge importer imported).imports.neighbours p ↔
      q ∈ g.imports.neighbours p ∨ p = importer ∧ q = imported := by
  rw [neighbours_imports_insertEdge]
  split
  · next h => simp [h.1]
  · next h =>
    refine ⟨.inl, fun hq => hq.elim id ?_⟩
    rintro ⟨rfl, rfl⟩
    exact Classical.not_not.mp fun hq => h ⟨rfl, hq⟩

/-- `insertEdge` keeps `WellFormed`. -/
theorem WellFormed.insertEdge (h : g.WellFormed) (importer imported : String) :
    (g.insertEdge importer imported).WellFormed where
  nodup_paths := by
    rw [paths_insertEdge]
    exact ((h.insertNode importer).insertNode imported).nodup_paths
  keys_importers := by
    -- both ends are declared in both indices, and attaching declares nothing
    have hends := ((h.insertNode importer).insertNode imported).keys_importers
    rw [paths_insertEdge]
    by_cases hold : imported ∈ g.imports.neighbours importer
    · rw [insertEdge_of_mem hold]
      exact hends
    · rw [insertEdge_of_not_mem hold]
      exact (Index.keys_attach _ _ _).trans hends
  mem_importers_iff p q := by
    -- the import is new on the one side exactly when it is new on the other
    rw [mem_imports_insertEdge, neighbours_importers_insertEdge h]
    by_cases hnew : q = imported ∧ imported ∉ g.imports.neighbours importer
    · rw [if_pos hnew, List.mem_append, List.mem_singleton, h.mem_importers_iff p q]
      simp [hnew.1]
    · rw [if_neg hnew, h.mem_importers_iff p q]
      refine ⟨.inl, fun hq => hq.elim id ?_⟩
      rintro ⟨rfl, rfl⟩
      exact Classical.not_not.mp fun hq => hnew ⟨rfl, hq⟩
  mem_paths_of_mem_imports p q hq := by
    rcases mem_imports_insertEdge.mp hq with hq | ⟨-, rfl⟩
    · exact mem_paths_insertEdge.mpr (.inl (h.mem_paths_of_mem_imports p q hq))
    · exact mem_paths_insertEdge.mpr (.inr (.inr rfl))
  nodup_imports p := by
    rw [neighbours_imports_insertEdge]
    split
    · next hnew =>
      refine (h.nodup_imports p).append (List.nodup_singleton _) ?_
      simpa [hnew.1] using hnew.2
    · exact h.nodup_imports p
  nodup_importers p := by
    rw [neighbours_importers_insertEdge h]
    split
    · next hnew =>
      refine (h.nodup_importers p).append (List.nodup_singleton _) ?_
      simpa [hnew.1, h.mem_importers_iff] using hnew.2
    · exact h.nodup_importers p

/-! ## Adding many files -/

/-- `files.foldl insertNode g` has the files `g.paths ++ freshOnes g.paths files`. -/
theorem paths_foldl_insertNode (g : ImportGraph) (files : List String) :
    (files.foldl ImportGraph.insertNode g).paths = g.paths ++ freshOnes g.paths files := by
  induction files generalizing g with
  | nil => simp
  | cons file files ih =>
    rw [List.foldl_cons, ih, paths_insertNode]
    by_cases h : file ∈ g.paths
    · rw [if_pos h, freshOnes_cons_of_mem h]
    · rw [if_neg h, freshOnes_cons_of_not_mem h]
      simp

/-- Inserting nodes adds no import. -/
theorem neighbours_foldl_insertNode (g : ImportGraph) (files : List String) (x : String) :
    (files.foldl ImportGraph.insertNode g).imports.neighbours x = g.imports.neighbours x := by
  induction files generalizing g with
  | nil => rfl
  | cons file files ih => rw [List.foldl_cons, ih, neighbours_imports_insertNode]

/-- Inserting nodes keeps `WellFormed`. -/
theorem WellFormed.foldl_insertNode (h : g.WellFormed) (files : List String) :
    (files.foldl ImportGraph.insertNode g).WellFormed := by
  induction files generalizing g with
  | nil => exact h
  | cons file files ih => exact ih (h.insertNode file)

/-- Inserting nodes leaves the unresolved imports and the working directory as they are. -/
theorem unresolved_foldl_insertNode (g : ImportGraph) (files : List String) :
    (files.foldl ImportGraph.insertNode g).unresolved = g.unresolved ∧
      (files.foldl ImportGraph.insertNode g).workingDir = g.workingDir := by
  induction files generalizing g with
  | nil => exact ⟨rfl, rfl⟩
  | cons file files ih => exact ih (g.insertNode file)

/-! ## Adding the imports of one file -/

/-- The imports of one file, one after the other. -/
def insertEdges (g : ImportGraph) (importer : String) (files : List String) : ImportGraph :=
  files.foldl (fun g imported => g.insertEdge importer imported) g

/-- `g.insertEdges importer [] = g`. -/
@[simp] theorem insertEdges_nil (g : ImportGraph) (importer : String) :
    g.insertEdges importer [] = g := rfl

/-- `insertEdges` inserts one edge after the other. -/
@[simp] theorem insertEdges_cons (g : ImportGraph) (importer file : String) (files : List String) :
    g.insertEdges importer (file :: files) =
      (g.insertEdge importer file).insertEdges importer files :=
  rfl

/-- `g.insertEdges importer files` has the files `g.paths ++ freshOnes g.paths files`, if `importer`
is one of them. -/
theorem paths_insertEdges (h : importer ∈ g.paths) (files : List String) :
    (g.insertEdges importer files).paths = g.paths ++ freshOnes g.paths files := by
  induction files generalizing g with
  | nil => simp
  | cons file files ih =>
    -- the importer is a file of the graph, so that at most the imported file is new
    have hpaths : (g.insertEdge importer file).paths =
        if file ∈ g.paths then g.paths else g.paths ++ [file] := by
      rw [paths_insertEdge, insertEnds, paths_insertNode, paths_insertNode, if_pos h]
    rw [insertEdges_cons, ih (mem_paths_insertEdge.mpr (.inl h)), hpaths]
    by_cases hfile : file ∈ g.paths
    · rw [if_pos hfile, freshOnes_cons_of_mem hfile]
    · rw [if_neg hfile, freshOnes_cons_of_not_mem hfile]
      simp

/-- `g.insertEdges importer files` puts `freshOnes` of `files` behind the imports of `importer`, and
changes those of no other file. -/
theorem neighbours_insertEdges (g : ImportGraph) (importer : String) (files : List String)
    (x : String) :
    (g.insertEdges importer files).imports.neighbours x =
      if x = importer then
        g.imports.neighbours importer ++ freshOnes (g.imports.neighbours importer) files
      else g.imports.neighbours x := by
  induction files generalizing g with
  | nil => by_cases hx : x = importer <;> simp [hx]
  | cons file files ih =>
    rw [insertEdges_cons, ih, neighbours_imports_insertEdge, neighbours_imports_insertEdge]
    by_cases hx : x = importer
    · rw [if_pos hx, if_pos hx]
      by_cases hfile : file ∈ g.imports.neighbours importer
      · rw [if_neg (fun h => h.2 hfile), freshOnes_cons_of_mem hfile]
      · rw [if_pos ⟨rfl, hfile⟩, freshOnes_cons_of_not_mem hfile]
        simp
    · rw [if_neg hx, if_neg hx, if_neg (fun h => hx h.1)]

/-- `insertEdges` keeps `WellFormed`. -/
theorem WellFormed.insertEdges (h : g.WellFormed) (importer : String) (files : List String) :
    (g.insertEdges importer files).WellFormed := by
  induction files generalizing g with
  | nil => exact h
  | cons file files ih => exact ih (h.insertEdge importer file)

/-- `insertEdges` leaves the unresolved imports and the working directory as they are. -/
theorem unresolved_insertEdges (g : ImportGraph) (importer : String) (files : List String) :
    (g.insertEdges importer files).unresolved = g.unresolved ∧
      (g.insertEdges importer files).workingDir = g.workingDir := by
  induction files generalizing g with
  | nil => exact ⟨rfl, rfl⟩
  | cons file files ih =>
    obtain ⟨hunresolved, hdir⟩ := ih (g.insertEdge importer file)
    exact ⟨hunresolved.trans (unresolved_insertEdge g importer file),
      hdir.trans (workingDir_insertEdge g importer file)⟩

end ImportGraph

end Restyle
