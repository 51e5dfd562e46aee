import GraphAlgebra.Eval.Engine
import GraphAlgebra.Proofs.Eval.Result
import GraphAlgebra.Proofs.Solution.Multiplicity
/-!
# Trees as bags of solutions

A tree over given tables stands for a bag of solutions: `Op.multiplicity` says how often each of
them occurs, by the algebra of multisets and without a word about rows and their order. Main
statement: a tree within the limit has a table, and every solution occurs in it as often as it
does in the bag (`Op.run_multiplicity`).
-/

namespace GraphAlgebra

open Binding

namespace Op

/-- The trees over given tables whose operators look at solutions alone. -/
inductive Relational : Op → Prop
  | null : Relational .null
  | table (t : Table) : Relational (.table t)
  | join {l r : Op} (hl : Relational l) (hr : Relational r) : Relational (.join l r)
  | sequence {l r : Op} (hl : Relational l) (hr : Relational r) : Relational (.sequence l r)
  | union {l r : Op} (hl : Relational l) (hr : Relational r) : Relational (.union l r)
  | diff {l r : Op} (hl : Relational l) (hr : Relational r) : Relational (.diff l r)
  | distinct {sub : Op} (h : Relational sub) : Relational (.distinct sub)
  | filter {sub : Op} (es : List Expr) (h : Relational sub) : Relational (.filter es sub)
  | project {sub : Op} (vs : List Var) (h : Relational sub) : Relational (.project sub vs)

/-- How often a solution occurs in the bag that a relational tree stands for. Other trees stand
for the empty bag. -/
@[simp]
noncomputable def multiplicity : Op → Binding → Nat
  | .table t, m => t.rows.count m
  | .join l r, m | .sequence l r, m =>
      ∑ᶠ (p : Binding × Binding) (_ : IsUnion p.1 p.2 m), l.multiplicity p.1 * r.multiplicity p.2
  | .union l r, m => l.multiplicity m + r.multiplicity m
  | .diff l r, m => if r.multiplicity m = 0 then l.multiplicity m else 0
  | .distinct sub, m => min 1 (sub.multiplicity m)
  | .filter es sub, m => if ∀ e ∈ es, e.satisfiedBy m = true then sub.multiplicity m else 0
  | .project sub vs, m => ∑ᶠ (a : Binding) (_ : a.restrict vs = m), sub.multiplicity a
  | _, _ => 0

/-- All operators of a relational tree are relational. -/
theorem Relational.of_at {root op : Op} {top depth : Nat} (hroot : root.Relational)
    (h : At root top op depth) : op.Relational := by
  induction h with
  | root => exact hroot
  | operand _ ho ih =>
      cases ih <;> simp only [operands, List.mem_cons, List.not_mem_nil, or_false] at ho
      case join hl hr => rcases ho with rfl | rfl <;> assumption
      case sequence hl hr => rcases ho with rfl | rfl <;> assumption
      case union hl hr => rcases ho with rfl | rfl <;> assumption
      case diff hl hr => rcases ho with rfl | rfl <;> assumption
      all_goals exact ho ▸ ‹_›

variable {σ : Type} {c : Context σ} {d : Dataset} {active : Graph}

/-- The rows of a table are the bag of a tree. -/
def Tabulates (op : Op) (t : Table) : Prop := ∀ m, t.rows.count m = op.multiplicity m

theorem Tabulates.join {l r : Op} {t u : Table} (ht : l.Tabulates t) (hu : r.Tabulates u) :
    (Op.join l r).Tabulates (t.join u) := by
  intro m
  rw [Table.count_join, multiplicity]
  simp only [ht _, hu _]

theorem Tabulates.union {l r : Op} {t u : Table} (ht : l.Tabulates t) (hu : r.Tabulates u) :
    (Op.union l r).Tabulates (t.union u) := by
  intro m
  rw [Table.count_union, multiplicity, ht, hu]

theorem Tabulates.diff {l r : Op} {t u : Table} (ht : l.Tabulates t) (hu : r.Tabulates u) :
    (Op.diff l r).Tabulates (t.diff u) := by
  intro m
  rw [Table.count_diff, multiplicity, ht, hu]

theorem Tabulates.distinct {sub : Op} {t : Table} (ht : sub.Tabulates t) :
    (Op.distinct sub).Tabulates t.distinct := by
  intro m
  rw [Table.count_distinct, multiplicity, ht]

theorem Tabulates.filter {sub : Op} {t : Table} (es : List Expr) (ht : sub.Tabulates t) :
    (Op.filter es sub).Tabulates (t.filter es) := by
  intro m
  rw [Table.count_filter, multiplicity, ht]

theorem Tabulates.project {sub : Op} {t : Table} (vs : List Var) (ht : sub.Tabulates t) :
    (Op.project sub vs).Tabulates (t.project vs) := by
  intro m
  rw [Table.count_project, multiplicity]
  simp only [ht _]

/-- Evaluation computes the bag of a relational tree. -/
theorem Relational.eval_returns {op : Op} (h : op.Relational) :
    Run.Returns (op.eval c d active) op.Tabulates := by
  induction h with
  | null =>
      rw [eval_eq_step]
      exact .tick (.pure fun m => by simp [multiplicity, Table.empty])
  | table t =>
      rw [eval_eq_step]
      exact .tick (.pure fun m => by rw [multiplicity])
  | join hl hr ihl ihr =>
      rw [eval_eq_step]
      exact .tick (ihl.bind fun t ht => ihr.bind_pure fun u hu => ht.join hu)
  | sequence hl hr ihl ihr =>
      rw [eval_eq_step]
      exact .tick (ihl.bind fun t ht => ihr.bind_pure fun u hu => ht.join hu)
  | union hl hr ihl ihr =>
      rw [eval_eq_step]
      exact .tick (ihl.bind fun t ht => ihr.bind_pure fun u hu => ht.union hu)
  | diff hl hr ihl ihr =>
      rw [eval_eq_step]
      exact .tick (ihl.bind fun t ht => ihr.bind_pure fun u hu => ht.diff hu)
  | distinct h ih =>
      rw [eval_eq_step]
      exact .tick (ih.bind_pure fun t ht => ht.distinct)
  | filter es h ih =>
      rw [eval_eq_step]
      exact .tick (ih.bind_pure fun t ht => ht.filter es)
  | project vs h ih =>
      rw [eval_eq_step]
      exact .tick (ih.bind_pure fun t ht => ht.project vs)

/-- Only finitely many solutions occur in a bag, so that the sums are over finitely many terms. -/
theorem Relational.finite_support_multiplicity {op : Op} (h : op.Relational) :
    (Function.support op.multiplicity).Finite := by
  let c : Context Unit := Engine.context { dataset := .empty }
  have hreturns : Run.Returns (op.eval c .empty Graph.empty) op.Tabulates := h.eval_returns
  obtain ⟨t, -, -, ht⟩ := hreturns (.start ())
  refine t.rows.toFinset.finite_toSet.subset fun m hm => ?_
  rw [Function.mem_support, ← ht m] at hm
  exact List.mem_toFinset.2 (List.count_pos_iff.1 (Nat.pos_of_ne_zero hm))

/-- A relational tree within the limit has a table over every dataset, and every solution occurs in
it as often as the algebra of multisets says. -/
theorem run_multiplicity (c : Context σ) (d : Dataset) {op : Op} (hop : op.Relational)
    (hheight : op.height ≤ c.config.maxDepth) (j : Journal σ) :
    ∃ t j', (op.run c d).run j = .ok t j' ∧ ∀ m, t.rows.count m = op.multiplicity m := by
  have hcheck : op.check c.config.maxDepth = .ok () := by
    refine check_eq_ok_of_height_le hheight fun o depth ho name sub heq => ?_
    have hrel : Relational (.extension name sub) := heq ▸ hop.of_at ho
    cases hrel
  rw [run_eq_eval hcheck]
  exact hop.eval_returns j

/-- A projection of a join in which rows with one variable, with another one and with none meet. -/
def partialOverlap : Op :=
  let x (t : Term) : Binding := single ⟨"x"⟩ t
  let y (t : Term) : Binding := single ⟨"y"⟩ t
  .project
    (.join
      (.table (.ofRows [] [x (.blank "a"), x (.blank "a"), y (.blank "b")]))
      (.table (.ofRows [] [x (.blank "a"), Binding.empty])))
    [⟨"x"⟩]

/-- The restriction to `x` stands for two rows, each of them twice, and for one row once. -/
theorem multiplicity_partialOverlap :
    partialOverlap.Relational ∧ partialOverlap.height ≤ 128 ∧
      partialOverlap.multiplicity (single ⟨"x"⟩ (.blank "a")) = 5 := by
  have hop : partialOverlap.Relational := .project _ (.join (.table _) (.table _))
  have hheight : partialOverlap.height ≤ 128 := by decide
  let c : Context Unit := Engine.context { dataset := .empty }
  have hrows : ∃ t j', (partialOverlap.run c .empty).run (.start ()) = .ok t j' ∧
      t.rows.count (single ⟨"x"⟩ (.blank "a")) = 5 := by
    have hcheck : partialOverlap.check c.config.maxDepth = .ok () := by cbv
    rw [run_eq_eval hcheck, partialOverlap, eval]
    simp only [Dispatcher.eval, Dispatcher.step]
    exact ⟨_, _, rfl, by decide⟩
  obtain ⟨t, j, hrun, ht⟩ := hrows
  obtain ⟨u, k, hrun', hu⟩ := run_multiplicity c .empty hop hheight (.start ())
  obtain ⟨rfl, -⟩ := EStateM.Result.ok.inj (hrun.symm.trans hrun')
  exact ⟨hop, hheight, hu _ ▸ ht⟩

end Op

end GraphAlgebra
