import GraphAlgebra.Expr.Eval
/-!
# The variables of an expression

An expression looks at a solution only through its own variables: under two solutions that agree on
them, by the same term or by none, it has the same value or the same fault (`Expr.eval_congr`). So
they satisfy the same conditions over these variables.
-/

namespace GraphAlgebra

namespace Expr

mutual

/-- The variables that occur in an expression, also where it only asks whether they are bound. -/
def vars : Expr → List Var
  | .var v => [v]
  | .constant _ => []
  | .bound v => [v]
  | .unary _ e => e.vars
  | .binary _ l r => l.vars ++ r.vars
  | .choose c y n => c.vars ++ (y.vars ++ n.vars)
  | .call _ args => varsAll args

def varsAll : List Expr → List Var
  | [] => []
  | e :: es => e.vars ++ varsAll es

end

variable {a b : Binding}

mutual

theorem eval_congr : ∀ e : Expr, (∀ v ∈ e.vars, a.get? v = b.get? v) → e.eval a = e.eval b
  | .var v, h => by rw [eval, eval, h v (List.mem_singleton_self v)]
  | .constant t, _ => by rw [eval, eval]
  | .bound v, h => by rw [eval, eval, h v (List.mem_singleton_self v)]
  | .unary op e, h => by rw [eval, eval, eval_congr e h]
  | .binary op l r, h => by
      obtain ⟨hl, hr⟩ := List.forall_mem_append.1 h
      rw [eval, eval, eval_congr l hl, eval_congr r hr]
  | .choose c y n, h => by
      obtain ⟨hc, hyn⟩ := List.forall_mem_append.1 h
      obtain ⟨hy, hn⟩ := List.forall_mem_append.1 hyn
      rw [eval, eval, eval_congr c hc, eval_congr y hy, eval_congr n hn]
  | .call f args, h => by rw [eval, eval, evalAll_congr args h]

theorem evalAll_congr :
    ∀ es : List Expr, (∀ v ∈ varsAll es, a.get? v = b.get? v) → evalAll a es = evalAll b es
  | [], _ => by rw [evalAll, evalAll]
  | e :: es, h => by
      obtain ⟨he, hes⟩ := List.forall_mem_append.1 h
      rw [evalAll, evalAll, eval_congr e he, evalAll_congr es hes]

end

theorem satisfiedBy_congr {e : Expr} (h : ∀ v ∈ e.vars, a.get? v = b.get? v) :
    e.satisfiedBy a = e.satisfiedBy b := by
  rw [satisfiedBy, satisfiedBy, truth, truth, eval_congr e h]

end Expr

end GraphAlgebra
