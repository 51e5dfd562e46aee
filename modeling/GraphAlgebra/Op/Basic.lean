import GraphAlgebra.Expr.Basic
import GraphAlgebra.Rdf.Triple
import GraphAlgebra.Solution.Table
/-!
# Operators

A query is a tree of operators. Leaves match patterns, name graphs or give a table; the other
operators work on the tables of their operands. An operator that calls a service keeps its
operand for the service and does not evaluate it itself.
-/

namespace GraphAlgebra

inductive Direction where
  | ascending
  | descending
deriving DecidableEq, Repr

structure SortCondition where
  expr : Expr
  direction : Direction
deriving DecidableEq, Repr

/-- An argument of a property function: one place or a list of them. -/
inductive PlaceArg where
  | place (p : TermPattern)
  | list (ps : List TermPattern)
deriving DecidableEq, Repr

inductive ProcedureArgs where
  | positional (es : List Expr)
  | subjectObject (subject object : PlaceArg)
deriving DecidableEq, Repr

inductive Op where
  | bgp (ps : BasicPattern)
  | quads (graph : TermPattern) (ps : BasicPattern)
  | procedure (sub : Op) (name : Iri) (args : ProcedureArgs)
  | join (l r : Op)
  | sequence (l r : Op)
  | leftJoin (l r : Op) (exprs : List Expr)
  | diff (l r : Op)
  | union (l r : Op)
  | filter (exprs : List Expr) (sub : Op)
  | graph (g : TermPattern) (sub : Op)
  | service (endpoint : Term) (sub : Op) (silent : Bool)
  | datasetNames (g : TermPattern)
  | table (t : Table)
  | extension (name : String) (sub : Op)
  | null
  | list (sub : Op)
  | order (sub : Op) (conditions : List SortCondition)
  | project (sub : Op) (vars : List Var)
  | distinct (sub : Op)
  | reduced (sub : Op)
  | slice (sub : Op) (start length : Option Nat)
  | assign (sub : Op) (assignments : List (Var × Expr))
  | group (sub : Op) (keys : List (Var × Option Expr)) (aggregators : List (Var × Aggregator))
deriving DecidableEq

instance : Inhabited Op := ⟨.null⟩

namespace Op

def name : Op → String
  | .bgp _ => "bgp"
  | .quads .. => "quadpattern"
  | .procedure _ _ (.positional _) => "proc"
  | .procedure _ _ (.subjectObject ..) => "propfunc"
  | .join .. => "join"
  | .sequence .. => "sequence"
  | .leftJoin .. => "leftjoin"
  | .diff .. => "diff"
  | .union .. => "union"
  | .filter .. => "filter"
  | .graph .. => "graph"
  | .service .. => "service"
  | .datasetNames _ => "datasetnames"
  | .table _ => "table"
  | .extension .. => "ext"
  | .null => "null"
  | .list _ => "list"
  | .order .. => "order"
  | .project .. => "project"
  | .distinct _ => "distinct"
  | .reduced _ => "reduced"
  | .slice .. => "slice"
  | .assign .. => "assign"
  | .group .. => "group"

/-- The operands whose tables an operator works on, from left to right. -/
def operands : Op → List Op
  | .join l r | .sequence l r | .leftJoin l r _ | .diff l r | .union l r => [l, r]
  | .procedure sub _ _ | .filter _ sub | .graph _ sub | .extension _ sub | .order sub _
  | .project sub _ | .slice sub _ _ | .assign sub _ | .group sub _ _ | .list sub
  | .distinct sub | .reduced sub => [sub]
  | .bgp _ | .quads .. | .service .. | .datasetNames _ | .table _ | .null => []

theorem sizeOf_lt_of_mem_operands {op o : Op} (h : o ∈ op.operands) : sizeOf o < sizeOf op := by
  cases op <;> simp [operands] at h ⊢ <;> (try rcases h with rfl | rfl) <;> omega

end Op

end GraphAlgebra
