import GraphAlgebra.Rdf.Graph
import GraphAlgebra.Rdf.Vocabulary
/-!
# Datasets

A dataset has a default graph and named graphs, in the order of their names. The reserved name
addresses the default graph where a graph is looked up or a triple is added by name.
-/

namespace GraphAlgebra

/-- A triple and the name of its graph; without a name it belongs to the default graph. -/
structure Quad where
  graph : Option Term
  triple : Triple
deriving DecidableEq, Repr

structure Dataset where
  defaultGraph : Graph
  named : SortedMap Term Graph
deriving DecidableEq

namespace Dataset

def empty : Dataset := ⟨Graph.empty, Sorted.empty⟩

/-- The graph of a name, which may be the name of the default graph. -/
def graph? (d : Dataset) (name : Term) : Option Graph :=
  if name.isDefaultGraph then some d.defaultGraph else d.named.get? name

def names (d : Dataset) : List Term := d.named.keys

def hasGraph (d : Dataset) (name : Term) : Bool :=
  name.isDefaultGraph || (d.named.get? name).isSome

/-- The named graph of a name, which is empty where there is none. -/
def namedOrEmpty (d : Dataset) (name : Term) : Graph := (d.named.get? name).getD Graph.empty

/-- Makes sure that there is a named graph of the name. -/
def touch (d : Dataset) (name : Term) : Dataset :=
  { d with named := d.named.set name (d.namedOrEmpty name) }

def setNamed (d : Dataset) (name : Term) (g : Graph) : Dataset :=
  { d with named := d.named.set name g }

def insertNamed (d : Dataset) (name : Term) (t : Triple) : Dataset :=
  d.setNamed name ((d.namedOrEmpty name).insert t)

def insert (d : Dataset) (q : Quad) : Dataset :=
  match q.graph with
  | none => { d with defaultGraph := d.defaultGraph.insert q.triple }
  | some name =>
      if name.isDefaultGraph then { d with defaultGraph := d.defaultGraph.insert q.triple }
      else d.insertNamed name q.triple

def ofQuads (qs : List Quad) : Dataset := qs.foldl insert empty

theorem isSome_graph?_of_mem_names {d : Dataset} {name : Term} (h : name ∈ d.names) :
    (d.graph? name).isSome := by
  rw [graph?]
  split
  · rfl
  · exact SortedMap.isSome_get?_of_mem_keys h

def size (d : Dataset) : Nat :=
  d.named.toList.foldl (fun n e => n + e.2.size) d.defaultGraph.size

end Dataset

end GraphAlgebra
