import GraphAlgebra.Proofs.Eval.Check
/-!
# Evaluation behind the check

`Dispatcher.evalThrough` is the evaluation with a gate before every operator, in whatever scope it
is evaluated: an operator that the gate does not let through runs something else instead. Behind a
check that passes, a gate for the operators that the check has seen is never shut, whatever would
run in their place. The main statement is `Dispatcher.run_guarded`.
-/

namespace GraphAlgebra

namespace Op

/-- Whether the check of a tree has seen an operator at a depth and has found no fault. -/
def sees (root : Op) (limit : Nat) (op : Op) (depth : Nat) : Bool :=
  (root.nodes 1).contains (op, depth) && (op.fault? limit depth).isNone

theorem sees_iff {root op : Op} {limit depth : Nat} :
    root.sees limit op depth = true ↔
      At root 1 op depth ∧ depth ≤ limit ∧ ∀ name sub, op ≠ .extension name sub := by
  simp [sees, mem_nodes_iff, fault?_eq_none_iff]

end Op

namespace Dispatcher

variable {σ Scope : Type}

/-- The table of an operator in a scope, where an operator that the gate does not let through
runs `shut`. -/
def evalThrough (x : Dispatcher σ) (evs : Scope → Evaluator σ Scope) (gate : Op → Nat → Bool)
    (shut : Run σ Table) (op : Op) (depth : Nat) (s : Scope) : Run σ Table :=
  if gate op depth then do
    Run.tick
    x.step evs s op fun o _ inner => x.evalThrough evs gate shut o (depth + 1) inner
  else shut
termination_by op
decreasing_by exact Op.sizeOf_lt_of_mem_operands ‹_›

theorem evalThrough_eq_eval (x : Dispatcher σ) (evs : Scope → Evaluator σ Scope)
    {gate : Op → Nat → Bool} (shut : Run σ Table) {op : Op} {depth : Nat} (s : Scope)
    (h : ∀ o n, op.At depth o n → gate o n = true) :
    x.evalThrough evs gate shut op depth s = x.eval evs op s := by
  induction op using Op.operands_induction generalizing depth s with
  | step op ih =>
      have operand : ∀ o ∈ op.operands, ∀ inner,
          x.evalThrough evs gate shut o (depth + 1) inner = x.eval evs o inner :=
        fun o ho inner => ih o ho inner fun p n hp => h p n (.of_operand ho hp)
      rw [evalThrough, eval, if_pos (h op depth .root)]
      congr 1
      funext _
      congr 1
      funext o ho inner
      exact operand o ho inner

/-- A tree passes the check exactly when every operator that is reached through operands is within
the limit and is not an extension. A tree that does not pass ends the run with the fault of the
first operator that has one, and the journal stays as it was. A tree that passes is evaluated, and
only operators that the check has seen are ever evaluated. -/
theorem run_guarded (x : Dispatcher σ) (evs : Scope → Evaluator σ Scope) (op : Op) (s : Scope) :
    (op.check x.config.maxDepth = .ok () ↔
      ∀ o depth, op.At 1 o depth →
        depth ≤ x.config.maxDepth ∧ ∀ name sub, o ≠ .extension name sub) ∧
    (∀ e, op.check x.config.maxDepth = .error e →
      (∃ before o depth after, op.nodes 1 = before ++ (o, depth) :: after ∧
        (∀ b ∈ before, b.2 ≤ x.config.maxDepth ∧ ∀ name sub, b.1 ≠ .extension name sub) ∧
        ((x.config.maxDepth < depth ∧ e = .recursionLimit x.config.maxDepth) ∨
          (depth ≤ x.config.maxDepth ∧
            ∃ name sub, o = .extension name sub ∧ e = .unsupportedOperator name))) ∧
      ∀ j, (x.run evs op s).run j = .error e j) ∧
    (op.check x.config.maxDepth = .ok () →
      x.run evs op s = x.eval evs op s ∧
      ∀ shut, x.evalThrough evs (op.sees x.config.maxDepth) shut op 1 s = x.eval evs op s) := by
  refine ⟨Op.check_eq_ok_iff, fun e he => ⟨Op.check_eq_error_iff.1 he, fun j => ?_⟩,
    fun h => ⟨?_, fun shut => evalThrough_eq_eval x evs shut s fun o n ho => ?_⟩⟩
  · rw [run, he]
    rfl
  · rw [run, h]
  · exact Op.sees_iff.2 ⟨ho, Op.check_eq_ok_iff.1 h o n ho⟩

end Dispatcher

end GraphAlgebra
