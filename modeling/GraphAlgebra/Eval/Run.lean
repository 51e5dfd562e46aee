import GraphAlgebra.Eval.Error
import GraphAlgebra.Op.Basic
/-!
# Runs

A run is a computation that may end in an error and keeps a journal: how many operators it has
evaluated, which services and procedures it has called and what came of each call, and the state
`σ` of the world in which those live. What is done before an error stays in the journal.
-/

namespace GraphAlgebra

/-- A call to the outside of the evaluation and what came of it. -/
inductive Call where
  | service (endpoint : Term) (sub : Op) (silent : Bool) (outcome : Except Error Table)
  | procedure (name : Iri) (input : Table) (args : ProcedureArgs) (outcome : Except Error Table)

def Call.isService : Call → Bool
  | .service .. => true
  | .procedure .. => false

/-- What a run has done, and the world it has left. -/
@[ext]
structure Journal (σ : Type) where
  operators : Nat
  calls : List Call
  world : σ

namespace Journal

def start {σ : Type} (world : σ) : Journal σ := ⟨0, [], world⟩

def serviceCalls {σ : Type} (j : Journal σ) : Nat := j.calls.countP Call.isService

end Journal

/-- A computation that keeps a journal and may end in an error. -/
abbrev Run (σ : Type) : Type → Type := EStateM Error (Journal σ)

namespace Run

variable {σ α : Type}

/-- The run that does nothing and has the given result. -/
def ofResult : Except Error α → Run σ α
  | .ok a => pure a
  | .error e => throw e

def tick : Run σ Unit := modify fun j => { j with operators := j.operators + 1 }

/-- Asks the world for a table, and enters what comes of it as a call. -/
def ask (entry : Except Error Table → Call) (answer : StateM σ (Except Error Table)) :
    Run σ (Except Error Table) :=
  modifyGet fun j =>
    let (outcome, world) := answer.run j.world
    (outcome, { j with calls := j.calls ++ [entry outcome], world := world })

@[simp] theorem run_ofResult_ok (a : α) (j : Journal σ) :
    (ofResult (.ok a)).run j = .ok a j := rfl

@[simp] theorem run_ofResult_error (e : Error) (j : Journal σ) :
    (ofResult (.error e) : Run σ α).run j = .error e j := rfl

@[simp] theorem run_tick (j : Journal σ) :
    tick.run j = .ok () { j with operators := j.operators + 1 } := rfl

@[simp] theorem run_ask (entry : Except Error Table → Call)
    (answer : StateM σ (Except Error Table)) (j : Journal σ) :
    (ask entry answer).run j =
      .ok (answer.run j.world).1
        { j with
          calls := j.calls ++ [entry (answer.run j.world).1]
          world := (answer.run j.world).2 } := rfl

end Run

end GraphAlgebra
