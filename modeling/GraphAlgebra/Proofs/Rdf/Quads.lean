import GraphAlgebra.Proofs.Order.Lookup
import GraphAlgebra.Rdf.Dataset
/-!
# Datasets as sets of quads

A dataset lists its triples as quads. Adding quads to a dataset adds them to the list, with the
reserved name taken for the default graph (`Dataset.mem_quads_ofQuads_iff`), and leaves no named
graph without triples. Such datasets are determined by their quads (`Dataset.ext_quads`), so a
dataset of quads is built again from any list of its quads (`Dataset.ofQuads_eq_of_mem_iff`).
-/

namespace GraphAlgebra

open Std

/-- The quad in the graph where it is put: the reserved name stands for the default graph. -/
def Quad.placed (q : Quad) : Quad := ⟨q.graph.filter (!·.isDefaultGraph), q.triple⟩

theorem Quad.placed_placed (q : Quad) : q.placed.placed = q.placed := by
  simp [placed]

namespace Dataset

variable {d e : Dataset}

/-- No named graph is without triples. -/
def Occupied (d : Dataset) : Prop := ∀ name g, d.named.get? name = some g → g.toList ≠ []

/-- The graph in which the quads with a graph name have their triples. -/
def graphOf (d : Dataset) : Option Term → Graph
  | none => d.defaultGraph
  | some name => d.namedOrEmpty name

/-- The triples of all graphs, the default graph first, with the names of their graphs. -/
def quads (d : Dataset) : List Quad :=
  d.defaultGraph.toList.map (⟨none, ·⟩) ++
    d.named.toList.flatMap fun entry => entry.2.toList.map (⟨some entry.1, ·⟩)

theorem mem_quads_iff {q : Quad} : q ∈ d.quads ↔ q.triple ∈ (d.graphOf q.graph).toList := by
  obtain ⟨graph, t⟩ := q
  cases graph with
  | none => simp [quads, graphOf]
  | some name =>
      simp only [quads, List.mem_append, List.mem_map, List.mem_flatMap, graphOf, namedOrEmpty]
      constructor
      · rintro (⟨t', -, h⟩ | ⟨⟨name', g⟩, hg, t', ht, h⟩)
        · cases h
        · cases h
          rw [SortedMap.get?_eq_some_iff.2 hg]
          exact ht
      · intro ht
        cases hget : d.named.get? name with
        | none => simp [hget, Graph.empty] at ht
        | some g =>
            rw [hget] at ht
            exact .inr ⟨(name, g), SortedMap.get?_eq_some_iff.1 hget, t, ht, rfl⟩

theorem nodup_quads (d : Dataset) : d.quads.Nodup := by
  have hplace (graph : Option Term) : Function.Injective (Quad.mk graph) := fun t t' h =>
    (Quad.mk.inj h).2
  refine List.nodup_append.2 ⟨d.defaultGraph.nodup_toList.map (hplace none), ?_, ?_⟩
  · refine List.nodup_flatMap.2 ⟨fun entry _ => entry.2.nodup_toList.map (hplace _), ?_⟩
    refine (List.pairwise_map.1 d.named.nodup_map_key).imp fun {a b} hne q ha hb => hne ?_
    obtain ⟨t, -, rfl⟩ := List.mem_map.1 ha
    obtain ⟨t', -, h⟩ := List.mem_map.1 hb
    exact Option.some.inj (Quad.mk.inj h).1.symm
  · rintro q hq q' hq' rfl
    obtain ⟨t, -, rfl⟩ := List.mem_map.1 hq
    obtain ⟨entry, -, h⟩ := List.mem_flatMap.1 hq'
    obtain ⟨t', -, h⟩ := List.mem_map.1 h
    cases h

theorem size_eq_length_quads (d : Dataset) : d.size = d.quads.length := by
  have hfold (l : List (Term × Graph)) (n : Nat) :
      l.foldl (fun n e => n + e.2.size) n =
        n + (l.flatMap fun e => e.2.toList.map (Quad.mk (some e.1))).length := by
    induction l generalizing n with
    | nil => rfl
    | cons e l ih =>
        rw [List.foldl_cons, ih, List.flatMap_cons, List.length_append, List.length_map,
          Nat.add_assoc]
        rfl
  rw [size, hfold, quads, List.length_append, List.length_map]
  rfl

theorem ext_quads (hd : d.Occupied) (he : e.Occupied) (h : ∀ q, q ∈ d.quads ↔ q ∈ e.quads) :
    d = e := by
  have hgraph (graph : Option Term) : d.graphOf graph = e.graphOf graph :=
    Sorted.ext_mem fun t => by simpa only [mem_quads_iff] using h ⟨graph, t⟩
  -- A name has a graph exactly if some triple is in the graph of its quads.
  have hget {d : Dataset} (hd : d.Occupied) (name : Term) :
      d.named.get? name =
        if (d.graphOf (some name)).toList = [] then none else some (d.graphOf (some name)) := by
    rw [graphOf, namedOrEmpty]
    cases hg : d.named.get? name with
    | none => rfl
    | some g => exact (if_neg (hd name g hg)).symm
  have hnamed : d.named = e.named := SortedMap.ext_get? fun name => by
    rw [hget hd, hget he, hgraph]
  have hdefault : d.defaultGraph = e.defaultGraph := hgraph none
  cases d
  cases e
  simp_all

theorem insert_eq_placed (d : Dataset) (q : Quad) :
    d.insert q =
      match q.placed.graph with
      | none => { d with defaultGraph := d.defaultGraph.insert q.triple }
      | some name => d.insertNamed name q.triple := by
  obtain ⟨graph, t⟩ := q
  cases graph with
  | none => rfl
  | some name => cases h : name.isDefaultGraph <;> simp [insert, Quad.placed, Option.filter, h]

theorem graphOf_insert (d : Dataset) (q : Quad) (graph : Option Term) :
    (d.insert q).graphOf graph =
      if graph = q.placed.graph then (d.graphOf graph).insert q.triple else d.graphOf graph := by
  rw [insert_eq_placed]
  cases q.placed.graph with
  | none => cases graph <;> simp [graphOf, namedOrEmpty]
  | some name =>
      cases graph with
      | none => simp [graphOf, insertNamed, setNamed]
      | some name' =>
          simp only [graphOf, insertNamed, setNamed, namedOrEmpty, SortedMap.get?_set,
            Option.some.injEq]
          by_cases h : name' = name <;> simp [h]

theorem mem_quads_insert_iff {p q : Quad} :
    q ∈ (d.insert p).quads ↔ q = p.placed ∨ q ∈ d.quads := by
  rw [mem_quads_iff, mem_quads_iff, graphOf_insert]
  obtain ⟨graph, t⟩ := q
  have heq : Quad.mk graph t = p.placed ↔ graph = p.placed.graph ∧ t = p.triple := by
    rw [Quad.placed, Quad.mk.injEq]
  by_cases h : graph = p.placed.graph
  · rw [heq, if_pos h, SortedSet.mem_insert_iff]
    simp [h]
  · rw [heq, if_neg h]
    simp [h]

theorem Occupied.insert (hd : d.Occupied) (q : Quad) : (d.insert q).Occupied := by
  rw [insert_eq_placed]
  cases q.placed.graph with
  | none => exact hd
  | some name =>
      intro name' g hg
      simp only [insertNamed, setNamed, SortedMap.get?_set] at hg
      split at hg
      · cases hg
        exact List.ne_nil_of_mem (SortedSet.mem_insert_iff.2 (.inl rfl))
      · exact hd name' g hg

theorem occupied_ofQuads (qs : List Quad) : (ofQuads qs).Occupied := by
  have hfold (d : Dataset) (hd : d.Occupied) : (qs.foldl Dataset.insert d).Occupied := by
    induction qs generalizing d with
    | nil => exact hd
    | cons q qs ih => exact ih _ (hd.insert q)
  exact hfold .empty fun name g h => by cases h

theorem mem_quads_ofQuads_iff {qs : List Quad} {q : Quad} :
    q ∈ (ofQuads qs).quads ↔ ∃ p ∈ qs, p.placed = q := by
  have hfold (d : Dataset) :
      q ∈ (qs.foldl Dataset.insert d).quads ↔ q ∈ d.quads ∨ ∃ p ∈ qs, p.placed = q := by
    induction qs generalizing d with
    | nil => simp
    | cons p qs ih =>
        rw [List.foldl_cons, ih, mem_quads_insert_iff, List.exists_mem_cons_iff, or_left_comm,
          or_assoc, @eq_comm _ q]
  rw [ofQuads, hfold]
  exact or_iff_right_of_imp fun h => by cases h

/-- A dataset of quads is built again from any list of its quads. -/
theorem ofQuads_eq_of_mem_iff {ps qs : List Quad} (h : ∀ q, q ∈ ps ↔ q ∈ (ofQuads qs).quads) :
    ofQuads ps = ofQuads qs := by
  -- The quads of a dataset are placed already, so they are put back where they came from.
  have hplaced (p : Quad) (hp : p ∈ ps) : p.placed = p := by
    obtain ⟨q, -, rfl⟩ := mem_quads_ofQuads_iff.1 ((h p).1 hp)
    exact q.placed_placed
  refine ext_quads (occupied_ofQuads ps) (occupied_ofQuads qs) fun q => ?_
  rw [mem_quads_ofQuads_iff, ← h]
  constructor
  · rintro ⟨p, hp, rfl⟩
    exact (hplaced p hp).symm ▸ hp
  · exact fun hq => ⟨q, hq, hplaced q hq⟩

end Dataset

end GraphAlgebra
