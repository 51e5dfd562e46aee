import GraphAlgebra.Eval.Dispatch
import GraphAlgebra.Sexp.OpReader
/-!
# Queries

An engine is a dataset with what evaluation has around it. A query is read and evaluated; its
answer is a table with the numbers of operators, service calls and rows.
-/

namespace GraphAlgebra

structure Stats where
  operators : Nat
  services : Nat
  rows : Nat
deriving DecidableEq, Repr

structure Answer where
  table : Table
  stats : Stats
deriving DecidableEq

/-- A dataset to be queried, with services and procedures that live in a world of states `σ`. -/
structure Engine (σ : Type) where
  dataset : Dataset
  services : Services σ := noServices
  procedures : Procedures σ := builtinProcedures
  config : Config := {}

variable {σ : Type}

namespace Engine

def context (e : Engine σ) : Context σ := ⟨⟨e.services, e.config⟩, e.procedures⟩

def execute (e : Engine σ) (op : Op) : StateM σ (Except Error Answer) := fun world =>
  match (op.run e.context e.dataset).run (.start world) with
  | .error err j => (.error err, j.world)
  | .ok t j => (.ok ⟨t, ⟨j.operators, j.serviceCalls, t.rows.length⟩⟩, j.world)

/-- Reads a query and evaluates it. -/
def query (e : Engine σ) (text : String) : StateM σ (Except Error Answer) :=
  match Op.ofText text with
  | .error f => pure (.error (.query f))
  | .ok op => e.execute op

/-- The answer of an engine whose services and procedures do not depend on the world. -/
def answer (e : Engine Unit) (text : String) : Except Error Answer := ((e.query text).run ()).1

end Engine

/-- Services that are datasets of their own, by endpoint. Queries to them are evaluated with
the given procedures and without services. -/
def localServices (endpoints : SortedMap Term Dataset) (procedures : Procedures σ)
    (config : Config) : Services σ := fun endpoint sub _ =>
  match endpoints.get? endpoint with
  | none => pure (.error (.service (.unknownEndpoint endpoint)))
  | some d => do
      let engine : Engine σ := { dataset := d, procedures := procedures, config := config }
      let answer ← engine.execute sub
      pure (answer.map fun a => a.table.rows.map .ok)

end GraphAlgebra
