import GraphAlgebra.Eval.Procedure
import GraphAlgebra.Eval.Run
import GraphAlgebra.Eval.Transform
import GraphAlgebra.Rdf.Dataset
import GraphAlgebra.Solution.Algebra
/-!
# Evaluators

An evaluator does what an operator asks for once its operands have their tables. It works in a
scope, which is the graph that is active, and it finds the scopes of other graphs. The
evaluator of a dataset computes with the tables in memory and has no effect but the calls of its
procedures.
-/

namespace GraphAlgebra

/-- The operations on tables in a scope, and the scopes of the named graphs. -/
structure Evaluator (σ Scope : Type) where
  basicPattern : BasicPattern → Run σ Table
  join : Table → Table → Run σ Table
  leftJoin : Table → Table → List Expr → Run σ Table
  diff : Table → Table → Run σ Table
  union : Table → Table → Run σ Table
  filter : List Expr → Table → Run σ Table
  list : Table → Run σ Table
  order : Table → List SortCondition → Run σ Table
  project : Table → List Var → Run σ Table
  distinct : Table → Run σ Table
  reduced : Table → Run σ Table
  slice : Table → Option Nat → Option Nat → Run σ Table
  assign : Table → List (Var × Expr) → Run σ Table
  group : Table → List (Var × Option Expr) → List (Var × Aggregator) → Run σ Table
  procedure : Table → Iri → ProcedureArgs → Run σ Table
  graphNames : Run σ (List Term)
  hasGraph : Term → Run σ Bool
  forGraph? : Term → Run σ (Option Scope)

variable {σ : Type}

def Procedures.call (ps : Procedures σ) (t : Table) (name : Iri) (args : ProcedureArgs) :
    Run σ Table :=
  match ps name with
  | none => .ofResult (.error (.procedureNotFound name))
  | some p => do
      let outcome ← Run.ask (.procedure name t args) (p t args)
      .ofResult outcome

def Dataset.evaluator (d : Dataset) (procedures : Procedures σ) (active : Graph) :
    Evaluator σ Graph where
  basicPattern ps := pure (active.matchPattern ps)
  join l r := pure (l.join r)
  leftJoin l r es := pure (l.leftJoin r es)
  diff l r := pure (l.diff r)
  union l r := pure (l.union r)
  filter es t := pure (t.filter es)
  list t := pure t
  order t cs := .ofResult (t.order cs)
  project t vs := pure (t.project vs)
  distinct t := pure t.distinct
  reduced t := pure t.reduced
  slice t start length := pure (t.slice start length)
  assign t as := pure (t.assign as)
  group t keys as := .ofResult (t.group keys as)
  procedure t name args := procedures.call t name args
  graphNames := pure d.names
  hasGraph name := pure (d.hasGraph name)
  forGraph? name := pure (d.graph? name)

end GraphAlgebra
