import Mathlib
import Restyle.Proofs.CanonicalPath
import Restyle.Proofs.GraphIndex

/-! # Graphs as lists of imports
A graph is built by calls that add files and imports, until it is frozen. Whatever the calls and
however they spell their paths, the graph is the one of two plain lists (`EdgeList`): the files and
the imports that have been mentioned, in canonical form, each of them at its first mention. Main
statement: `performAll_eq_toGraph`, with everything that can be asked of the graph read off the two
lists. -/

namespace Restyle

/-- A call that builds a graph. -/
inductive GraphCall where
  /-- Add a file. -/
  | addFile (path : String)
  /-- Add an import, with the files at both ends. -/
  | addEdge (importer imported : String)
  /-- Complete the graph. -/
  | freeze
  deriving DecidableEq, Repr

namespace GraphCall

/-- The files that a call mentions, under their canonical paths. -/
def nodes (dir : String) : GraphCall → List String
  | .addFile path => [Path.normalize dir path]
  | .addEdge importer imported => [Path.normalize dir importer, Path.normalize dir imported]
  | .freeze => []

/-- The import that a call adds, between canonical paths. -/
def edges (dir : String) : GraphCall → List (String × String)
  | .addEdge importer imported => [(Path.normalize dir importer, Path.normalize dir imported)]
  | _ => []

/-- The answer to a call, when the graph is frozen or not. -/
def answer (isFrozen : Bool) : GraphCall → Except GraphError Unit
  | .freeze => .ok ()
  | _ => if isFrozen then .error .frozen else .ok ()

end GraphCall

namespace ImportGraph

/-- Make one call. A call that is refused leaves the graph as it is. -/
def perform (g : ImportGraph) : GraphCall → Except GraphError Unit × ImportGraph
  | .addFile path => ((g.addFile path).map fun _ => (), (g.addFile path).toOption.getD g)
  | .addEdge importer imported =>
    ((g.addEdge importer imported).map fun _ => (), (g.addEdge importer imported).toOption.getD g)
  | .freeze => (.ok (), g.freeze)

/-- Make calls in order. -/
def performAll (g : ImportGraph) (calls : List GraphCall) : ImportGraph :=
  calls.foldl (fun g call => (g.perform call).2) g

end ImportGraph

/-! ## Lists of imports -/

/-- The files and the imports of a graph, in the order in which they were first mentioned. -/
structure EdgeList where
  /-- The files. -/
  nodes : List String := []
  /-- The imports: the importing and the imported file. -/
  edges : List (String × String) := []

namespace EdgeList

variable {r : EdgeList} {path importer imported : String} {base : ImportGraph}

/-- What calls mention, each file and each import once. -/
def ofCalls (dir : String) (calls : List GraphCall) : EdgeList where
  nodes := (calls.flatMap (GraphCall.nodes dir)).eraseDups
  edges := (calls.flatMap (GraphCall.edges dir)).eraseDups

/-- The files that a file imports. -/
def targets (r : EdgeList) (path : String) : List String := (r.edges.filter (·.1 = path)).map (·.2)

/-- The files that import a file. -/
def sources (r : EdgeList) (path : String) : List String := (r.edges.filter (·.2 = path)).map (·.1)

/-- The graph with these files and imports, like `base` in everything else. -/
def toGraph (r : EdgeList) (base : ImportGraph) : ImportGraph :=
  { base with
    imports := r.nodes.map fun path => (path, r.targets path)
    importers := r.nodes.map fun path => (path, r.sources path) }

/-- The lists of a graph: nothing stands in them twice, and imports are between the files. -/
structure IsProper (r : EdgeList) : Prop where
  nodup_nodes : r.nodes.Nodup
  nodup_edges : r.edges.Nodup
  mem_nodes : ∀ e ∈ r.edges, e.1 ∈ r.nodes ∧ e.2 ∈ r.nodes

/-- `imported ∈ r.targets importer` exactly if `(importer, imported)` is an edge. -/
@[simp] theorem mem_targets : imported ∈ r.targets importer ↔ (importer, imported) ∈ r.edges := by
  simp [targets]

/-- `importer ∈ r.sources imported` exactly if `(importer, imported)` is an edge. -/
@[simp] theorem mem_sources : importer ∈ r.sources imported ↔ (importer, imported) ∈ r.edges := by
  simp [sources]

/-- `r.targets path` has no duplicates. -/
theorem IsProper.nodup_targets (h : r.IsProper) (path : String) : (r.targets path).Nodup := by
  refine (h.nodup_edges.filter _).map_on ?_
  rintro ⟨a, b⟩ ha ⟨c, d⟩ hc (rfl : b = d)
  simp only [List.mem_filter, decide_eq_true_eq] at ha hc
  rw [ha.2, hc.2]

/-- `r.sources path` has no duplicates. -/
theorem IsProper.nodup_sources (h : r.IsProper) (path : String) : (r.sources path).Nodup := by
  refine (h.nodup_edges.filter _).map_on ?_
  rintro ⟨a, b⟩ ha ⟨c, d⟩ hc (rfl : a = c)
  simp only [List.mem_filter, decide_eq_true_eq] at ha hc
  rw [ha.2, hc.2]

/-- `r.targets path = []` for a path that is no node. -/
theorem IsProper.targets_eq_nil (h : r.IsProper) (hpath : path ∉ r.nodes) :
    r.targets path = [] := by
  refine List.eq_nil_iff_forall_not_mem.mpr fun imported himported => ?_
  exact hpath (h.mem_nodes _ (mem_targets.mp himported)).1

/-- `r.sources path = []` for a path that is no node. -/
theorem IsProper.sources_eq_nil (h : r.IsProper) (hpath : path ∉ r.nodes) :
    r.sources path = [] := by
  refine List.eq_nil_iff_forall_not_mem.mpr fun importer himporter => ?_
  exact hpath (h.mem_nodes _ (mem_sources.mp himporter)).2

/-- The empty list of edges is proper. -/
theorem isProper_empty : ({} : EdgeList).IsProper := ⟨List.nodup_nil, List.nodup_nil, by simp⟩

/-! ## Adding to the lists -/

/-- The lists with one more file, unless it is among them. -/
def addNode (r : EdgeList) (path : String) : EdgeList :=
  { r with nodes := if path ∈ r.nodes then r.nodes else r.nodes ++ [path] }

/-- The lists with one more import and its ends, unless they are among them. -/
def addEdge (r : EdgeList) (importer imported : String) : EdgeList :=
  { (r.addNode importer).addNode imported with
    edges := if (importer, imported) ∈ r.edges then r.edges else r.edges ++ [(importer, imported)] }

/-- `addNode` adds no edge. -/
@[simp] theorem edges_addNode (r : EdgeList) (path : String) :
    (r.addNode path).edges = r.edges := rfl

/-- `addNode` changes no targets. -/
@[simp] theorem targets_addNode (r : EdgeList) (path : String) :
    (r.addNode path).targets = r.targets := rfl

/-- `addNode` changes no sources. -/
@[simp] theorem sources_addNode (r : EdgeList) (path : String) :
    (r.addNode path).sources = r.sources := rfl

/-- The nodes of `r.addNode path` are those of `r`, and `path`. -/
@[simp] theorem mem_nodes_addNode {x : String} :
    x ∈ (r.addNode path).nodes ↔ x ∈ r.nodes ∨ x = path := by
  unfold addNode
  by_cases hpath : path ∈ r.nodes
  · simp only [if_pos hpath]
    exact ⟨.inl, fun hx => hx.elim id fun hx => hx ▸ hpath⟩
  · simp [if_neg hpath]

/-- `addNode` keeps `IsProper`. -/
theorem IsProper.addNode (h : r.IsProper) (path : String) : (r.addNode path).IsProper where
  nodup_nodes := by
    unfold EdgeList.addNode
    by_cases hpath : path ∈ r.nodes
    · simpa only [if_pos hpath] using h.nodup_nodes
    · simp only [if_neg hpath]
      exact h.nodup_nodes.append (List.nodup_singleton _) (by simpa using hpath)
  nodup_edges := h.nodup_edges
  mem_nodes e he := by
    obtain ⟨himporter, himported⟩ := h.mem_nodes e he
    exact ⟨mem_nodes_addNode.mpr (.inl himporter), mem_nodes_addNode.mpr (.inl himported)⟩

/-- `addEdge` keeps `IsProper`: both ends become nodes. -/
theorem IsProper.addEdge (h : r.IsProper) (importer imported : String) :
    (r.addEdge importer imported).IsProper where
  nodup_nodes := ((h.addNode importer).addNode imported).nodup_nodes
  nodup_edges := by
    unfold EdgeList.addEdge
    by_cases hold : (importer, imported) ∈ r.edges
    · simpa only [if_pos hold] using h.nodup_edges
    · simp only [if_neg hold]
      exact h.nodup_edges.append (List.nodup_singleton _) (by simpa using hold)
  mem_nodes e he := by
    have hends : e ∈ r.edges ∨ e = (importer, imported) := by
      unfold EdgeList.addEdge at he
      by_cases hold : (importer, imported) ∈ r.edges
      · simp only [if_pos hold] at he
        exact .inl he
      · simpa only [if_neg hold, List.mem_append, List.mem_singleton] using he
    show e.1 ∈ ((r.addNode importer).addNode imported).nodes ∧
      e.2 ∈ ((r.addNode importer).addNode imported).nodes
    simp only [mem_nodes_addNode]
    rcases hends with hold | rfl
    · obtain ⟨himporter, himported⟩ := h.mem_nodes e hold
      exact ⟨.inl (.inl himporter), .inl (.inl himported)⟩
    · exact ⟨.inl (.inr rfl), .inr rfl⟩

/-- A new edge `(importer, imported)` puts `imported` behind the targets of `importer`, and changes
no others. -/
theorem targets_addEdge (hnew : (importer, imported) ∉ r.edges) (path : String) :
    (r.addEdge importer imported).targets path =
      if path = importer then r.targets path ++ [imported] else r.targets path := by
  unfold addEdge targets
  simp only [if_neg hnew, List.filter_append, List.map_append]
  by_cases hpath : path = importer
  · simp [hpath]
  · simp [hpath, Ne.symm hpath]

/-- A new edge `(importer, imported)` puts `importer` behind the sources of `imported`, and changes
no others. -/
theorem sources_addEdge (hnew : (importer, imported) ∉ r.edges) (path : String) :
    (r.addEdge importer imported).sources path =
      if path = imported then r.sources path ++ [importer] else r.sources path := by
  unfold addEdge sources
  simp only [if_neg hnew, List.filter_append, List.map_append]
  by_cases hpath : path = imported
  · simp [hpath]
  · simp [hpath, Ne.symm hpath]

/-! ## Adding to the graph -/

/-- `Index.neighbours` of the index that pairs each node with `next path` are `next x`, and none for
a path that is no node. -/
theorem neighbours_map (nodes : List String) (next : String → List String) (x : String) :
    Index.neighbours (nodes.map fun path => (path, next path)) x =
      if x ∈ nodes then next x else [] := by
  induction nodes with
  | nil => rfl
  | cons path nodes ih =>
    rw [List.map_cons, Index.neighbours_cons, ih]
    by_cases hx : x = path
    · simp [hx]
    · simp [hx]

/-- `Index.declare` puts `(x, [])` behind such an index if `x` is no node of it. -/
theorem declare_map (nodes : List String) (next : String → List String) (x : String) :
    Index.declare (nodes.map fun path => (path, next path)) x =
      if x ∈ nodes then nodes.map fun path => (path, next path)
      else (nodes.map fun path => (path, next path)) ++ [(x, [])] := by
  have hkeys : Index.keys (nodes.map fun path => (path, next path)) = nodes := by
    simp [Index.keys, Function.comp_def]
  unfold Index.declare
  simp only [Index.lookup_isSome_iff, hkeys]

/-- `Index.attach` of a neighbour to `x` changes `next x` only. -/
theorem attach_map (nodes : List String) (next : String → List String) (x neighbour : String) :
    Index.attach (nodes.map fun path => (path, next path)) x neighbour =
      nodes.map fun path => (path, if path = x then next path ++ [neighbour] else next path) := by
  unfold Index.attach
  rw [List.map_map]
  refine List.map_congr_left fun path _ => ?_
  by_cases hpath : path = x
  · simp [hpath]
  · simp [hpath]

/-- `insertNode` of `r.toGraph base` is `(r.addNode path).toGraph base`. -/
theorem insertNode_toGraph (h : r.IsProper) (base : ImportGraph) (path : String) :
    (r.toGraph base).insertNode path = (r.addNode path).toGraph base := by
  unfold ImportGraph.insertNode toGraph
  simp only [declare_map, targets_addNode, sources_addNode]
  unfold addNode
  by_cases hpath : path ∈ r.nodes
  · simp only [if_pos hpath]
  · -- a new file has no neighbours on either side
    simp [if_neg hpath, h.targets_eq_nil hpath, h.sources_eq_nil hpath]

/-- `insertEdge` of `r.toGraph base` is `(r.addEdge importer imported).toGraph base`. -/
theorem insertEdge_toGraph (h : r.IsProper) (base : ImportGraph) (importer imported : String) :
    (r.toGraph base).insertEdge importer imported = (r.addEdge importer imported).toGraph base := by
  set ends := (r.addNode importer).addNode imported with hends
  have hinsert : ((r.toGraph base).insertNode importer).insertNode imported =
      ends.toGraph base := by
    rw [insertNode_toGraph h, insertNode_toGraph (h.addNode importer)]
  -- the graph asks the index of the importers' side alone whether it has the import already
  have hold : imported ∈ (ends.toGraph base).imports.neighbours importer ↔
      (importer, imported) ∈ r.edges := by
    have hmem : importer ∈ ends.nodes := by simp [hends]
    unfold toGraph
    simp only [neighbours_map, if_pos hmem, mem_targets]
    rfl
  unfold ImportGraph.insertEdge
  simp only
  rw [hinsert]
  by_cases he : (importer, imported) ∈ r.edges
  · rw [if_pos (hold.mpr he)]
    unfold addEdge
    rw [if_pos he]
    rfl
  · rw [if_neg (mt hold.mp he)]
    unfold toGraph
    simp only [attach_map, targets_addEdge he, sources_addEdge he]
    rfl

/-! ## The lists of calls -/

/-- A last call `addFile` is `addNode` of the canonical path. -/
theorem ofCalls_append_addFile (dir : String) (calls : List GraphCall) (path : String) :
    ofCalls dir (calls ++ [.addFile path]) =
      (ofCalls dir calls).addNode (Path.normalize dir path) := by
  unfold ofCalls addNode
  simp only [List.flatMap_append, List.flatMap_singleton, GraphCall.nodes, GraphCall.edges,
    List.append_nil, eraseDups_append_singleton]

/-- A last call `addEdge` is `addEdge` of the canonical paths. -/
theorem ofCalls_append_addEdge (dir : String) (calls : List GraphCall)
    (importer imported : String) :
    ofCalls dir (calls ++ [.addEdge importer imported]) =
      (ofCalls dir calls).addEdge (Path.normalize dir importer) (Path.normalize dir imported) := by
  -- the importer is mentioned before the imported file
  have hboth : ∀ (l : List String) (a b : String), l ++ [a, b] = l ++ [a] ++ [b] := by simp
  unfold ofCalls addEdge addNode
  simp only [List.flatMap_append, List.flatMap_singleton, GraphCall.nodes, GraphCall.edges, hboth,
    eraseDups_append_singleton]

end EdgeList

namespace ImportGraph

variable {g base : ImportGraph}

/-- `addFile` on a graph that is not frozen answers `.ok ()`, and is `insertNode` of the canonical
path. -/
theorem perform_addFile (h : g.isFrozen = false) (path : String) :
    g.perform (.addFile path) = (.ok (), g.insertNode (g.normalize path)) := by
  simp [perform, addFile, h, Except.map, Except.toOption]

/-- `addEdge` on a graph that is not frozen answers `.ok ()`, and is `insertEdge` of the canonical
paths. -/
theorem perform_addEdge (h : g.isFrozen = false) (importer imported : String) :
    g.perform (.addEdge importer imported) =
      (.ok (), g.insertEdge (g.normalize importer) (g.normalize imported)) := by
  simp [perform, addEdge, h, Except.map, Except.toOption]

/-- `base.performAll calls` is `(EdgeList.ofCalls base.workingDir calls).toGraph base`, for an empty
graph and calls without `.freeze`. -/
theorem performAll_eq_toGraph_of_not_mem (himports : base.imports = [])
    (himporters : base.importers = []) (hfrozen : base.isFrozen = false) {calls : List GraphCall}
    (hcalls : .freeze ∉ calls) :
    (EdgeList.ofCalls base.workingDir calls).IsProper ∧
      base.performAll calls = (EdgeList.ofCalls base.workingDir calls).toGraph base := by
  -- the calls are made one after the other, so that the induction adds the last one
  induction calls using List.reverseRecOn with
  | nil =>
    refine ⟨EdgeList.isProper_empty, ?_⟩
    cases base
    cases himports
    cases himporters
    rfl
  | append_singleton calls call ih =>
    obtain ⟨hproper, hgraph⟩ := ih fun hmem => hcalls (List.mem_append_left _ hmem)
    have hstep : base.performAll (calls ++ [call]) = ((base.performAll calls).perform call).2 := by
      unfold performAll
      rw [List.foldl_append]
      rfl
    rw [hstep, hgraph]
    cases call with
    | freeze => exact absurd (List.mem_append_right calls (List.mem_singleton_self _)) hcalls
    | addFile path =>
      rw [EdgeList.ofCalls_append_addFile]
      refine ⟨hproper.addNode _, ?_⟩
      rw [← EdgeList.insertNode_toGraph hproper]
      rw [perform_addFile (g := (EdgeList.ofCalls base.workingDir calls).toGraph base) hfrozen]
      rfl
    | addEdge importer imported =>
      rw [EdgeList.ofCalls_append_addEdge]
      refine ⟨hproper.addEdge _ _, ?_⟩
      rw [← EdgeList.insertEdge_toGraph hproper]
      rw [perform_addEdge (g := (EdgeList.ofCalls base.workingDir calls).toGraph base) hfrozen]
      rfl

/-! ## Frozen graphs -/

/-- `g.perform call = (call.answer true, g)` for a frozen graph. -/
theorem perform_of_isFrozen (h : g.isFrozen = true) (call : GraphCall) :
    g.perform call = (call.answer true, g) := by
  cases call with
  | addFile path => simp [perform, addFile, h, Except.map, Except.toOption, GraphCall.answer]
  | addEdge importer imported =>
    simp [perform, addEdge, h, Except.map, Except.toOption, GraphCall.answer]
  | freeze =>
    cases g
    cases h
    rfl

/-- `g.performAll calls = g` for a frozen graph. -/
theorem performAll_of_isFrozen (h : g.isFrozen = true) (calls : List GraphCall) :
    g.performAll calls = g := by
  induction calls with
  | nil => rfl
  | cons call calls ih =>
    have hstep : g.performAll (call :: calls) = (g.perform call).2.performAll calls := rfl
    rw [hstep, perform_of_isFrozen h]
    exact ih

/-- `(g.perform call).1 = call.answer false` for a graph that is not frozen. -/
theorem perform_fst_of_not_isFrozen (h : g.isFrozen = false) (call : GraphCall) :
    (g.perform call).1 = call.answer false := by
  cases call with
  | addFile path => rw [perform_addFile h]; rfl
  | addEdge importer imported => rw [perform_addEdge h]; rfl
  | freeze => rfl

/-- `performAll` goes through `++`. -/
theorem performAll_append (g : ImportGraph) (calls later : List GraphCall) :
    g.performAll (calls ++ later) = (g.performAll calls).performAll later := List.foldl_append

/-- `base.performAll calls` is the graph of the calls before the first `.freeze`, frozen if there is
one: the later ones are of no account. -/
theorem performAll_eq (himports : base.imports = []) (himporters : base.importers = [])
    (hfrozen : base.isFrozen = false) (calls : List GraphCall) :
    let r := EdgeList.ofCalls base.workingDir (calls.takeWhile (· ≠ .freeze))
    r.IsProper ∧
      base.performAll calls = { r.toGraph base with isFrozen := decide (.freeze ∈ calls) } := by
  intro r
  have hfree : .freeze ∉ calls.takeWhile (· ≠ .freeze) := fun hmem => by
    simpa using List.mem_takeWhile_imp hmem
  obtain ⟨hproper, hgraph⟩ := performAll_eq_toGraph_of_not_mem himports himporters hfrozen hfree
  refine ⟨hproper, ?_⟩
  -- what is left of the calls is nothing, or begins with the first freezing
  have hsplit := calls.takeWhile_append_dropWhile (p := (· ≠ .freeze))
  cases hrest : calls.dropWhile (· ≠ .freeze) with
  | nil =>
    rw [hrest, List.append_nil] at hsplit
    rw [hsplit] at hfree hgraph
    rw [hgraph, decide_eq_false hfree, ← hfrozen, ← hsplit]
    rfl
  | cons call rest =>
    have hcall : call = .freeze := by
      have hhead := List.head?_dropWhile_not (· ≠ .freeze) calls
      rw [hrest] at hhead
      simpa using hhead
    have hmem : .freeze ∈ calls := by
      rw [← hsplit, hrest, hcall]
      simp
    rw [decide_eq_true hmem, ← hsplit, hrest, hcall, performAll_append, hgraph]
    exact performAll_of_isFrozen rfl rest

/-! ## Queries -/

/-- What can be asked of a graph with the given files and imports. -/
structure Shows (g : ImportGraph) (r : EdgeList) : Prop where
  /-- The files stand in the graph in the order of their first mention. -/
  paths_eq : g.paths = r.nodes
  /-- No file stands in it twice. -/
  nodup_paths : g.paths.Nodup
  /-- Each file is a partial or not according to its name. -/
  files_eq : g.files = r.nodes.map (StylesheetFile.ofPath g.workingDir)
  /-- A path in any spelling leads to its file. -/
  file?_eq : ∀ path, g.file? path =
    if g.normalize path ∈ r.nodes then some (StylesheetFile.ofPath g.workingDir path) else none
  /-- What a file imports, in the order in which the imports were first mentioned. -/
  importsOf_eq : ∀ path, g.importsOf path = r.targets (g.normalize path)
  /-- What imports a file, in that order too. -/
  importersOf_eq : ∀ path, g.importersOf path = r.sources (g.normalize path)
  /-- Nothing is imported twice by one file. -/
  nodup_importsOf : ∀ path, (g.importsOf path).Nodup
  /-- No file imports another one twice. -/
  nodup_importersOf : ∀ path, (g.importersOf path).Nodup
  /-- The graph has the imports that were mentioned. -/
  perm_edges : g.edges.Perm r.edges
  /-- It has each of them once. -/
  nodup_edges : g.edges.Nodup
  /-- Imports lead from files of the graph to files of the graph. -/
  mem_paths : ∀ e ∈ g.edges, e.1 ∈ g.paths ∧ e.2 ∈ g.paths
  /-- The two indices hold the same imports. -/
  isConsistent : g.isConsistent = true

end ImportGraph

namespace EdgeList

variable {r : EdgeList}

/-- `Index.pairs` of an index that pairs each node with `next path` are its edges, node by node. -/
theorem pairs_map (nodes : List String) (next : String → List String) :
    Index.pairs (nodes.map fun path => (path, next path)) =
      nodes.flatMap fun path => (next path).map (path, ·) := by
  unfold Index.pairs
  rw [List.flatMap_map]

/-- The edges of `r.toGraph base` are the edges of `r`. -/
theorem IsProper.mem_edges_toGraph (h : r.IsProper) (base : ImportGraph) {e : String × String} :
    e ∈ (r.toGraph base).edges ↔ e ∈ r.edges := by
  obtain ⟨importer, imported⟩ := e
  have hends : (importer, imported) ∈ r.edges → importer ∈ r.nodes := fun he => (h.mem_nodes _ he).1
  unfold ImportGraph.edges toGraph
  simp only [pairs_map, List.mem_flatMap, List.mem_map, mem_targets, Prod.mk.injEq]
  constructor
  · rintro ⟨path, -, other, he, rfl, rfl⟩
    exact he
  · exact fun he => ⟨importer, hends he, imported, he, rfl, rfl⟩

/-- The pairs of the other index, turned round, are the edges of `r`. -/
theorem IsProper.mem_importers_toGraph (h : r.IsProper) (base : ImportGraph) {e : String × String} :
    e ∈ (r.toGraph base).importers.pairs.map Prod.swap ↔ e ∈ r.edges := by
  obtain ⟨importer, imported⟩ := e
  have hends : (importer, imported) ∈ r.edges → imported ∈ r.nodes := fun he => (h.mem_nodes _ he).2
  unfold toGraph
  simp only [pairs_map, List.mem_map, List.mem_flatMap, mem_sources]
  constructor
  · rintro ⟨-, ⟨path, -, other, he, rfl⟩, heq⟩
    obtain ⟨rfl, rfl⟩ : other = importer ∧ path = imported := by simpa using heq
    exact he
  · exact fun he => ⟨_, ⟨imported, hends he, importer, he, rfl⟩, rfl⟩

/-- `r.toGraph base` has no edge twice. -/
theorem IsProper.nodup_edges_toGraph (h : r.IsProper) (base : ImportGraph) :
    (r.toGraph base).edges.Nodup := by
  unfold ImportGraph.edges toGraph
  simp only
  rw [pairs_map, List.nodup_flatMap]
  refine ⟨fun path _ => (h.nodup_targets path).map fun _ _ heq => (Prod.mk.inj heq).2, ?_⟩
  -- imports of different files differ in the file that imports
  refine h.nodup_nodes.imp fun {a b} hne e ha hb => hne ?_
  obtain ⟨_, -, rfl⟩ := List.mem_map.mp ha
  obtain ⟨_, -, heq⟩ := List.mem_map.mp hb
  exact (Prod.mk.inj heq).1.symm

/-- `r.toGraph base` shows `r`, frozen or not. -/
theorem IsProper.shows_toGraph (h : r.IsProper)
    (hcanonical : ∀ path ∈ r.nodes, Path.IsCanonical path) (base : ImportGraph) (isFrozen : Bool) :
    ({ r.toGraph base with isFrozen } : ImportGraph).Shows r := by
  have hpaths : (r.toGraph base).paths = r.nodes := by
    simp [ImportGraph.paths, toGraph, Function.comp_def]
  -- a file that the graph does not hold has no neighbours, and in the lists it has none either
  have himports : ∀ path, (r.toGraph base).imports.neighbours path = r.targets path := by
    intro path
    refine (neighbours_map r.nodes r.targets path).trans ?_
    by_cases hpath : path ∈ r.nodes
    · rw [if_pos hpath]
    · rw [if_neg hpath, h.targets_eq_nil hpath]
  have himporters : ∀ path, (r.toGraph base).importers.neighbours path = r.sources path := by
    intro path
    refine (neighbours_map r.nodes r.sources path).trans ?_
    by_cases hpath : path ∈ r.nodes
    · rw [if_pos hpath]
    · rw [if_neg hpath, h.sources_eq_nil hpath]
  constructor
  · exact hpaths
  · exact hpaths ▸ h.nodup_nodes
  · show (r.toGraph base).paths.map _ = _
    rw [hpaths]
    refine List.map_congr_left fun path hpath => ?_
    rw [StylesheetFile.ofPath, (hcanonical path hpath).normalize_eq_self]
  · intro path
    show (if _ ∈ (r.toGraph base).paths then _ else _) = _
    rw [hpaths]
    rfl
  · exact fun path => himports _
  · exact fun path => himporters _
  · intro path
    show ((r.toGraph base).imports.neighbours _).Nodup
    rw [himports]
    exact h.nodup_targets _
  · intro path
    show ((r.toGraph base).importers.neighbours _).Nodup
    rw [himporters]
    exact h.nodup_sources _
  · exact (List.perm_ext_iff_of_nodup (h.nodup_edges_toGraph base) h.nodup_edges).mpr
      fun e => h.mem_edges_toGraph base
  · exact h.nodup_edges_toGraph base
  · intro e he
    show e.1 ∈ (r.toGraph base).paths ∧ e.2 ∈ (r.toGraph base).paths
    rw [hpaths]
    exact h.mem_nodes e ((h.mem_edges_toGraph base).mp he)
  · show (r.toGraph base).isConsistent = true
    have hsame : ∀ e, e ∈ (r.toGraph base).edges ↔
        e ∈ (r.toGraph base).importers.pairs.map Prod.swap :=
      fun e => (h.mem_edges_toGraph base).trans (h.mem_importers_toGraph base).symm
    unfold ImportGraph.isConsistent
    simp only [Bool.and_eq_true, List.all_eq_true, List.contains_iff_mem]
    exact ⟨fun e he => (hsame e).mp he, fun e he => (hsame e).mpr he⟩

/-- The nodes of `ofCalls dir calls` are canonical paths. -/
theorem isCanonical_of_mem_ofCalls {dir : String} {calls : List GraphCall} {path : String}
    (h : path ∈ (ofCalls dir calls).nodes) : Path.IsCanonical path := by
  obtain ⟨call, -, hpath⟩ := List.mem_flatMap.mp (List.mem_eraseDups.mp h)
  cases call with
  | addFile p =>
    obtain rfl := List.mem_singleton.mp hpath
    exact Path.isCanonical_normalize _ _
  | addEdge importer imported =>
    rcases List.mem_pair.mp hpath with rfl | rfl
    · exact Path.isCanonical_normalize _ _
    · exact Path.isCanonical_normalize _ _
  | freeze => exact absurd hpath List.not_mem_nil

end EdgeList

/-- A graph that is built by calls, in any order and with any spelling of the paths, is the graph of
the files and the imports that the calls before the first freezing mention, each at its first
mention. Before that no call is refused; afterwards every call that would add something is, and the
graph stays as it is. -/
theorem ImportGraph.performAll_eq_toGraph (root : String) (includePaths : List String)
    (dir : String) (calls : List GraphCall) :
    let base : ImportGraph := { root, includePaths, workingDir := dir }
    let r := EdgeList.ofCalls dir (calls.takeWhile (· ≠ .freeze))
    base.performAll calls = { r.toGraph base with isFrozen := decide (.freeze ∈ calls) } ∧
      (base.performAll calls).Shows r ∧
      (∀ call, ((base.performAll calls).perform call).1 = call.answer (decide (.freeze ∈ calls))) ∧
      (.freeze ∈ calls → ∀ later, base.performAll (calls ++ later) = base.performAll calls) := by
  intro base r
  obtain ⟨hproper, hgraph⟩ := @performAll_eq base rfl rfl rfl calls
  rw [hgraph]
  refine ⟨rfl, ?_, ?_, ?_⟩
  · exact hproper.shows_toGraph (fun path hpath => EdgeList.isCanonical_of_mem_ofCalls hpath) base _
  · intro call
    by_cases hmem : .freeze ∈ calls
    · rw [decide_eq_true hmem, perform_of_isFrozen rfl]
    · rw [decide_eq_false hmem, perform_fst_of_not_isFrozen rfl]
  · intro hmem later
    rw [performAll_append, hgraph]
    exact performAll_of_isFrozen (decide_eq_true hmem) later

/-- An import whose ends are spelled in two ways is one import, and what comes after the freezing is
refused. -/
theorem ImportGraph.performAll_eq_toGraph_spelledTwice :
    let calls : List GraphCall :=
      [.addEdge "a.scss" "./_b.scss", .addEdge "/w/a.scss" "x/../_b.scss", .freeze]
    let g := ({ workingDir := "/w" } : ImportGraph).performAll calls
    .freeze ∈ calls ∧ g.files = [⟨"/w/a.scss", false⟩, ⟨"/w/_b.scss", true⟩] ∧
      g.importersOf "_b.scss" = ["/w/a.scss"] ∧
      (g.perform (.addFile "c.scss")).1 = .error .frozen ∧
      g.performAll [.addFile "c.scss"] = g := by
  intro calls g
  have hfreeze : .freeze ∈ calls := by decide
  obtain ⟨hgraph, hshows, hanswer, hlater⟩ := performAll_eq_toGraph "" [] "/w" calls
  refine ⟨hfreeze, ?_, ?_, ?_, ?_⟩
  · rw [hshows.files_eq]
    decide +kernel
  · rw [hshows.importersOf_eq]
    decide +kernel
  · exact (hanswer _).trans (by decide)
  · rw [← performAll_append]
    exact hlater hfreeze _

end Restyle
