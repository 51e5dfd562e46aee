import GraphAlgebra.Eval.Evaluator
import GraphAlgebra.Eval.Service
/-!
# Evaluating operators

Before anything is evaluated the whole tree is checked: it must not be too deep and must have no
extension in it, the operand of a service aside. Then every operator is evaluated after its
operands, from left to right, in the scope of an evaluator.
-/

namespace GraphAlgebra

structure Config where
  allowService : Bool := true
  maxDepth : Nat := 128
deriving DecidableEq, Repr

namespace Op

/-- What is wrong with an operator at a depth of a tree. -/
def fault? (limit depth : Nat) (op : Op) : Option Error :=
  if limit < depth then some (.recursionLimit limit)
  else
    match op with
    | .extension name _ => some (.unsupportedOperator name)
    | _ => none

/-- Looks at pending operators with their depths, and at the operands of each right after it, the
right one of two operands first. The head of the list is the next operator. -/
def checkPending (limit : Nat) : List (Op × Nat) → Except Error Unit
  | [] => .ok ()
  | (op, depth) :: pending =>
      match op.fault? limit depth with
      | some e => .error e
      | none => checkPending limit ((op.operands.map (·, depth + 1)).reverse ++ pending)
termination_by pending => pending.foldr (fun e size => sizeOf e.1 + size) 0
decreasing_by cases op <;> simp [operands] <;> omega

/-- Refuses a tree that is too deep or has an extension in it. -/
def check (limit : Nat) (op : Op) : Except Error Unit := checkPending limit [(op, 1)]

end Op

/-- What the evaluation of operators has around it. -/
structure Dispatcher (σ : Type) where
  services : Services σ
  config : Config

namespace Dispatcher

variable {σ Scope : Type}

/-- Calls a service, unless services are disabled. A silent service gives one empty row instead
of an error, but not instead of a crash. -/
def callService (x : Dispatcher σ) (endpoint : Term) (sub : Op) (silent : Bool) :
    Run σ Table := do
  let outcome ←
    if x.config.allowService then
      Run.ask (.service endpoint sub silent) do
        let answer ← x.services endpoint sub silent
        pure (answer.bind Table.ofCursor)
    else pure (.error (.service (.disabled endpoint)))
  match outcome with
  | .ok t => pure t
  | .error e => if silent ∧ e ≠ .crash then pure .unit else throw e

/-- The names of the named graphs as a table, or whether there is a graph of a name. -/
def nameTable (ev : Evaluator σ Scope) : TermPattern → Run σ Table
  | .var v => do
      let names ← ev.graphNames
      pure (.ofRows [v] (names.map (Binding.single v)))
  | .term name =>
      if !name.isIri then throw (.badGraphNode name)
      else do
        if ← ev.hasGraph name then pure .unit else pure .empty

/-- One more step over the named graphs: what a computation makes of a graph, joined with the
name of the graph. -/
def graphStep (ev : Evaluator σ Scope) (v : Var) (body : Scope → Run σ Table) (done : Table)
    (name : Term) : Run σ Table := do
  match ← ev.forGraph? name with
  | none => pure done
  | some inner => do
      let t ← body inner
      let t ← ev.join t (.single v name)
      ev.union done t

/-- Runs a computation in the graph of a name, or in every named graph in turn for a
variable. -/
def inGraph (ev : Evaluator σ Scope) (p : TermPattern) (body : Scope → Run σ Table) :
    Run σ Table :=
  match p with
  | .term name => do
      match ← ev.forGraph? name with
      | some inner => body inner
      | none => pure .empty
  | .var v => do
      let names ← ev.graphNames
      names.foldlM (graphStep ev v body) .empty

/-- The table of an operator, whose operands are evaluated by `eval`. -/
def step (x : Dispatcher σ) (evs : Scope → Evaluator σ Scope) (s : Scope) :
    (op : Op) → ((o : Op) → o ∈ op.operands → Scope → Run σ Table) → Run σ Table
  | .bgp ps, _ => (evs s).basicPattern ps
  | .quads p ps, _ =>
      if ps.isEmpty then pure .unit
      else inGraph (evs s) p fun inner => (evs inner).basicPattern ps
  | .procedure sub name args, eval => do
      let t ← eval sub (by simp [Op.operands]) s
      (evs s).procedure t name args
  | .join l r, eval => do
      let t ← eval l (by simp [Op.operands]) s
      let u ← eval r (by simp [Op.operands]) s
      (evs s).join t u
  | .sequence l r, eval => do
      let t ← eval l (by simp [Op.operands]) s
      let u ← eval r (by simp [Op.operands]) s
      (evs s).join t u
  | .leftJoin l r es, eval => do
      let t ← eval l (by simp [Op.operands]) s
      let u ← eval r (by simp [Op.operands]) s
      (evs s).leftJoin t u es
  | .diff l r, eval => do
      let t ← eval l (by simp [Op.operands]) s
      let u ← eval r (by simp [Op.operands]) s
      (evs s).diff t u
  | .union l r, eval => do
      let t ← eval l (by simp [Op.operands]) s
      let u ← eval r (by simp [Op.operands]) s
      (evs s).union t u
  | .filter es sub, eval => do
      let t ← eval sub (by simp [Op.operands]) s
      (evs s).filter es t
  | .graph p sub, eval => inGraph (evs s) p fun inner => eval sub (by simp [Op.operands]) inner
  | .service endpoint sub silent, _ => x.callService endpoint sub silent
  | .datasetNames p, _ => nameTable (evs s) p
  | .table t, _ => pure t
  | .extension name _, _ => throw (.unsupportedOperator name)
  | .null, _ => pure .empty
  | .list sub, eval => do
      let t ← eval sub (by simp [Op.operands]) s
      (evs s).list t
  | .order sub cs, eval => do
      let t ← eval sub (by simp [Op.operands]) s
      (evs s).order t cs
  | .project sub vs, eval => do
      let t ← eval sub (by simp [Op.operands]) s
      (evs s).project t vs
  | .distinct sub, eval => do
      let t ← eval sub (by simp [Op.operands]) s
      (evs s).distinct t
  | .reduced sub, eval => do
      let t ← eval sub (by simp [Op.operands]) s
      (evs s).reduced t
  | .slice sub start length, eval => do
      let t ← eval sub (by simp [Op.operands]) s
      (evs s).slice t start length
  | .assign sub as, eval => do
      let t ← eval sub (by simp [Op.operands]) s
      (evs s).assign t as
  | .group sub keys as, eval => do
      let t ← eval sub (by simp [Op.operands]) s
      (evs s).group t keys as

def eval (x : Dispatcher σ) (evs : Scope → Evaluator σ Scope) (op : Op) (s : Scope) :
    Run σ Table := do
  Run.tick
  x.step evs s op fun o _ inner => x.eval evs o inner
termination_by op
decreasing_by exact Op.sizeOf_lt_of_mem_operands ‹_›

/-- Checks a tree and evaluates it in a scope. -/
def run (x : Dispatcher σ) (evs : Scope → Evaluator σ Scope) (op : Op) (s : Scope) :
    Run σ Table :=
  match op.check x.config.maxDepth with
  | .error e => throw e
  | .ok () => x.eval evs op s

end Dispatcher

/-- What an evaluation over a dataset has around it. -/
structure Context (σ : Type) extends Dispatcher σ where
  procedures : Procedures σ

namespace Op

variable {σ : Type}

def eval (c : Context σ) (d : Dataset) (active : Graph) (op : Op) : Run σ Table :=
  c.toDispatcher.eval (d.evaluator c.procedures) op active

/-- Checks a tree and evaluates it in the default graph of a dataset. -/
def run (c : Context σ) (d : Dataset) (op : Op) : Run σ Table :=
  c.toDispatcher.run (d.evaluator c.procedures) op d.defaultGraph

end Op

end GraphAlgebra
