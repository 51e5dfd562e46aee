import GraphAlgebra.Rdf.Triple
import GraphAlgebra.Solution.Table
/-!
# Graphs and pattern matching

A graph is a finite set of triples. Templates are matched from left to right: every solution so
far is extended by every triple that agrees with the template and with what is bound already.
-/

namespace GraphAlgebra

abbrev Graph : Type := SortedSet Triple

/-- Makes a place of a template agree with a term, by binding a free variable to it. -/
def Binding.unify? (b : Binding) (p : TermPattern) (t : Term) : Option Binding :=
  match p with
  | .term t' => if t' = t then some b else none
  | .var v =>
      match b.get? v with
      | some t' => if t' = t then some b else none
      | none => some (b.set v t)

def Binding.unifyTriple? (b : Binding) (p : TriplePattern) (t : Triple) : Option Binding := do
  let b ← b.unify? p.subject t.subject
  let b ← b.unify? p.predicate t.predicate
  b.unify? p.object t.object

namespace Graph

def empty : Graph := Sorted.empty

/-- The triples with the given terms at the given places. -/
def search (g : Graph) (s p o : Option Term) : List Triple :=
  g.toList.filter fun t =>
    s.all (· == t.subject) && p.all (· == t.predicate) && o.all (· == t.object)

/-- The extensions of a solution by the triples that agree with a template. -/
def extend (g : Graph) (p : TriplePattern) (b : Binding) : List Binding :=
  g.toList.filterMap (b.unifyTriple? p)

/-- The extensions of some solutions by all the templates in turn. -/
def solutions (g : Graph) (bs : List Binding) : BasicPattern → List Binding
  | [] => bs
  | p :: ps => solutions g (bs.flatMap (g.extend p)) ps

/-- The table of the matches of a pattern. Its heading has the variables of the pattern in the
order of their first appearance. -/
def matchPattern (g : Graph) (ps : BasicPattern) : Table :=
  .ofRows (Table.mergeVars [] (ps.flatMap TriplePattern.vars)) (g.solutions [Binding.empty] ps)

end Graph

end GraphAlgebra
