import GraphAlgebra.Eval.Engine
import GraphAlgebra.Proofs.Eval.ServiceCall
import GraphAlgebra.Proofs.Expr.Arity
import GraphAlgebra.Proofs.Solution.Grouping
import GraphAlgebra.Proofs.Solution.Sorting
/-!
# What makes a query fail

A run that fails stops at an operator that fails itself, and few operators can: services,
procedures, extensions, unknown aggregates and tests for a graph whose name is no identifier. A
tree within the limit that has none of them has an answer over every dataset unless a sort in it
crashes, because the faults of expressions never get out of the operators that evaluate them. Main
statement: `Engine.execute_fails_only`.
-/

namespace GraphAlgebra

variable {σ α β : Type}

namespace Op

/-- An operator with none of the causes for which it could fail itself. -/
def Unfailing : Op → Prop
  | .extension .. | .service .. | .procedure .. => False
  | .datasetNames (.term name) => name.isIri = true
  | .group _ _ as => ∀ a ∈ as, a.2.custom? = none
  | _ => True

/-- An operator in the graph `active` evaluates its operands in another graph. -/
def EvaluatesIn (d : Dataset) (active : Graph) : Op → Graph → Prop
  | .graph (.term name) _, inner => d.graph? name = some inner
  | .graph (.var _) _, inner => ∃ name ∈ d.names, d.graph? name = some inner
  | _, inner => inner = active

/-- Somewhere in a tree that is evaluated in a graph, a sort gets a table on which it crashes. -/
inductive CrashesSorting (c : Context σ) (d : Dataset) : Op → Graph → Prop
  | sort {sub : Op} {cs : List SortCondition} {active : Graph} {t : Table}
      (hsub : (sub.eval c d active).Returns (· = t)) (h : t.order cs = .error .crash) :
      CrashesSorting c d (.order sub cs) active
  | operand {op o : Op} {active inner : Graph} (ho : o ∈ op.operands)
      (hinner : op.EvaluatesIn d active inner) (h : CrashesSorting c d o inner) :
      CrashesSorting c d op active

variable {c : Context σ} {d : Dataset} {active : Graph} {op : Op}

theorem crashesSorting_iff : op.CrashesSorting c d active ↔
    (∃ sub cs t, op = .order sub cs ∧ (sub.eval c d active).Returns (· = t) ∧
      t.order cs = .error .crash) ∨
      ∃ o ∈ op.operands, ∃ inner, op.EvaluatesIn d active inner ∧ o.CrashesSorting c d inner := by
  constructor
  · rintro (⟨hsub, h⟩ | ⟨ho, hinner, h⟩)
    · exact .inl ⟨_, _, _, rfl, hsub, h⟩
    · exact .inr ⟨_, ho, _, hinner, h⟩
  · rintro (⟨sub, cs, t, rfl, hsub, h⟩ | ⟨o, ho, inner, hinner, h⟩)
    · exact .sort hsub h
    · exact .operand ho hinner h

theorem crashesSorting_iff_of_ne_order (hop : ∀ sub cs, op ≠ .order sub cs) :
    op.CrashesSorting c d active ↔
      ∃ o ∈ op.operands, ∃ inner, op.EvaluatesIn d active inner ∧ o.CrashesSorting c d inner := by
  refine crashesSorting_iff.trans (or_iff_right ?_)
  rintro ⟨sub, cs, t, heq, -⟩
  exact hop sub cs heq

theorem not_crashesSorting_of_leaf (hop : ∀ sub cs, op ≠ .order sub cs) (hnil : op.operands = []) :
    ¬op.CrashesSorting c d active := by
  simp [crashesSorting_iff_of_ne_order hop, hnil]

theorem CrashesSorting.exists_at (h : op.CrashesSorting c d active) (top : Nat) :
    ∃ sub cs depth, op.At top (.order sub cs) depth ∧ ∃ inner t,
      (sub.eval c d inner).Returns (· = t) ∧ t.order cs = .error .crash := by
  induction h generalizing top with
  | sort hsub h => exact ⟨_, _, top, .root, _, _, hsub, h⟩
  | operand ho _ _ ih =>
      obtain ⟨sub, cs, depth, hat, hsort⟩ := ih (top + 1)
      exact ⟨sub, cs, depth, .of_operand ho hat, hsort⟩

end Op

namespace Run

/-- The run crashes, from every journal, or it has the same result from every journal. It crashes
exactly if there is a reason. -/
def Ends (crashes : Prop) (x : Run σ α) : Prop :=
  (∀ j, ∃ k, x.run j = .error .crash k) ∧ crashes ∨ (∃ a, x.Returns (· = a)) ∧ ¬crashes

namespace Ends

variable {p q : Prop}

theorem congr {x : Run σ α} (hx : Ends p x) (h : p ↔ q) : Ends q x := by rwa [← h]

theorem crash {x : Run σ α} (hx : ∀ j, ∃ k, x.run j = .error .crash k) (hp : p) : Ends p x :=
  .inl ⟨hx, hp⟩

theorem pure (a : α) : Ends False (Pure.pure a : Run σ α) := .inr ⟨⟨a, .pure rfl⟩, id⟩

/-- What goes on after a result decides about the crash, if there is a result. -/
theorem bind_result {x : Run σ α} {f : α → Run σ β} {q : α → Prop} (hx : Ends p x)
    (hf : ∀ a, x.Returns (· = a) → Ends (q a) (f a)) :
    Ends (p ∨ ∃ a, x.Returns (· = a) ∧ q a) (x >>= f) := by
  -- One result with a crash after it is enough: the run has this result from every journal.
  have after {a : α} (ha : x.Returns (· = a)) (hqa : q a) :
      ∀ j, ∃ k, (x >>= f).run j = .error .crash k := by
    obtain ⟨hcrash, -⟩ | ⟨-, hnot⟩ := hf a ha
    · intro j
      obtain ⟨_, j', hrun, rfl⟩ := ha j
      obtain ⟨k, hk⟩ := hcrash j'
      exact ⟨k, by rw [EStateM.run_bind, hrun]; exact hk⟩
    · exact absurd hqa hnot
  obtain ⟨hcrash, hp⟩ | ⟨⟨a, ha⟩, hp⟩ := hx
  · refine .crash (fun j => ?_) (.inl hp)
    obtain ⟨k, hk⟩ := hcrash j
    exact ⟨k, by rw [EStateM.run_bind, hk]⟩
  · by_cases hq : ∃ a, x.Returns (· = a) ∧ q a
    · obtain ⟨a, ha, hqa⟩ := hq
      exact .crash (after ha hqa) (.inr ⟨a, ha, hqa⟩)
    · obtain ⟨-, hqa⟩ | ⟨⟨b, hb⟩, -⟩ := hf a ha
      · exact absurd ⟨a, ha, hqa⟩ hq
      · exact .inr ⟨⟨b, ha.bind fun _ h => h ▸ hb⟩, not_or.2 ⟨hp, hq⟩⟩

theorem bind {x : Run σ α} {f : α → Run σ β} (hx : Ends p x)
    (hf : ∀ a, x.Returns (· = a) → Ends q (f a)) : Ends (p ∨ q) (x >>= f) := by
  refine (hx.bind_result hf).congr (or_congr_right' fun hp => ?_)
  obtain ⟨-, h⟩ | ⟨⟨a, ha⟩, -⟩ := hx
  · exact absurd h hp
  · exact ⟨fun ⟨_, _, hq⟩ => hq, fun hq => ⟨a, ha, hq⟩⟩

theorem bind_pure {x : Run σ α} (hx : Ends p x) (f : α → β) :
    Ends p (x >>= fun a => Pure.pure (f a)) :=
  (hx.bind fun a _ => .pure (f a)).congr (or_iff_left id)

theorem tick {x : Run σ α} (hx : Ends p x) : Ends p (do Run.tick; x) := by
  obtain ⟨hcrash, hp⟩ | ⟨⟨a, ha⟩, hp⟩ := hx
  · exact .crash (fun j => hcrash { j with operators := j.operators + 1 }) hp
  · exact .inr ⟨⟨a, ha.tick⟩, hp⟩

theorem foldlM {crashes : α → Prop} {f : β → α → Run σ β} (h : ∀ b a, Ends (crashes a) (f b a))
    (l : List α) (b : β) : Ends (∃ a ∈ l, crashes a) (l.foldlM f b) := by
  induction l generalizing b with
  | nil => exact (Ends.pure b).congr (by simp)
  | cons a l ih =>
      rw [List.foldlM_cons]
      exact ((h b a).bind fun b _ => ih b).congr (by simp)

end Ends

end Run

namespace Dispatcher

variable {c : Context σ} {d : Dataset} {active : Graph}

theorem inGraph_ends {body : Graph → Run σ Table} {crashes : Graph → Prop}
    (h : ∀ g, Run.Ends (crashes g) (body g)) (p : TermPattern) (sub : Op) :
    Run.Ends (∃ g, (Op.graph p sub).EvaluatesIn d active g ∧ crashes g)
      (inGraph (d.evaluator c.procedures active) p body) := by
  cases p with
  | term name =>
      simp only [inGraph, Dataset.evaluator, pure_bind, Op.EvaluatesIn]
      cases d.graph? name with
      | none => exact (Run.Ends.pure Table.empty).congr (by simp)
      | some g => exact (h g).congr (by simp)
  | var v =>
      have hround (done : Table) (name : Term) :
          Run.Ends (∃ g, d.graph? name = some g ∧ crashes g)
            (graphStep (d.evaluator c.procedures active) v body done name) := by
        simp only [graphStep, Dataset.evaluator, pure_bind]
        cases d.graph? name with
        | none => exact (Run.Ends.pure done).congr (by simp)
        | some g =>
            refine ((h g).bind_pure fun t => done.union (t.join (.single v name))).congr ?_
            simp
      refine (Run.Ends.foldlM hround d.names Table.empty).congr ?_
      simp only [Op.EvaluatesIn]
      constructor
      · rintro ⟨name, hname, g, hg, hcrash⟩
        exact ⟨g, ⟨name, hname, hg⟩, hcrash⟩
      · rintro ⟨g, ⟨name, hname, hg⟩, hcrash⟩
        exact ⟨name, hname, g, hg, hcrash⟩

section Step

variable {op : Op}
  (h : ∀ o ∈ op.operands, ∀ g, Run.Ends (o.CrashesSorting c d g) (o.eval c d g))
include h

theorem unary_ends {sub : Op} (hop : ∀ s cs, op ≠ .order s cs) (hsub : op.operands = [sub])
    (hin : ∀ g, op.EvaluatesIn d active g ↔ g = active) (f : Table → Table) :
    Run.Ends (op.CrashesSorting c d active)
      (sub.eval c d active >>= fun t => pure (f t)) := by
  refine ((h sub (by simp [hsub]) active).bind_pure f).congr ?_
  simp [Op.crashesSorting_iff_of_ne_order hop, hsub, hin]

theorem binary_ends {l r : Op} (hop : ∀ s cs, op ≠ .order s cs) (hoperands : op.operands = [l, r])
    (hin : ∀ g, op.EvaluatesIn d active g ↔ g = active) (f : Table → Table → Table) :
    Run.Ends (op.CrashesSorting c d active)
      (l.eval c d active >>= fun t => r.eval c d active >>= fun u => pure (f t u)) := by
  have hright (t : Table) := (h r (by simp [hoperands]) active).bind_pure (f t)
  refine ((h l (by simp [hoperands]) active).bind fun t _ => hright t).congr ?_
  simp [Op.crashesSorting_iff_of_ne_order hop, hoperands, hin]

/-- An operator without a cause to fail crashes exactly if an operand does or it is a sort that
does. -/
theorem step_ends (hop : op.Unfailing) :
    Run.Ends (op.CrashesSorting c d active)
      (c.toDispatcher.step (d.evaluator c.procedures) active op
        fun o _ inner => o.eval c d inner) := by
  have leaf {x : Run σ Table} (hx : Run.Ends False x) (hsort : ∀ s cs, op ≠ .order s cs)
      (hnil : op.operands = []) : Run.Ends (op.CrashesSorting c d active) x :=
    hx.congr (iff_of_false id (Op.not_crashesSorting_of_leaf hsort hnil))
  cases op with
  | bgp ps => exact leaf (.pure _) (by simp) rfl
  | quads p ps =>
      refine leaf ?_ (by simp) rfl
      simp only [step]
      split
      · exact .pure Table.unit
      · have hmatch (g : Graph) : Run.Ends False (pure (g.matchPattern ps) : Run σ Table) :=
          .pure (g.matchPattern ps)
        exact (inGraph_ends hmatch p .null).congr (by simp)
  | procedure sub name args => exact hop.elim
  | join l r => exact binary_ends h (by simp) rfl (fun _ => .rfl) Table.join
  | sequence l r => exact binary_ends h (by simp) rfl (fun _ => .rfl) Table.join
  | leftJoin l r es => exact binary_ends h (by simp) rfl (fun _ => .rfl) fun t u => t.leftJoin u es
  | diff l r => exact binary_ends h (by simp) rfl (fun _ => .rfl) Table.diff
  | union l r => exact binary_ends h (by simp) rfl (fun _ => .rfl) Table.union
  | filter es sub => exact unary_ends h (by simp) rfl (fun _ => .rfl) (Table.filter es)
  | graph p sub =>
      refine (inGraph_ends (h sub (by simp [Op.operands])) p sub).congr ?_
      simp [Op.crashesSorting_iff_of_ne_order, Op.operands]
  | service endpoint sub silent => exact hop.elim
  | datasetNames p =>
      refine leaf ?_ (by simp) rfl
      cases p with
      | var v => exact .pure _
      | term name =>
          have hname : name.isIri = true := hop
          simp only [step, nameTable, Dataset.evaluator, hname, pure_bind]
          cases d.hasGraph name <;> exact .pure _
  | table t => exact leaf (.pure t) (by simp) rfl
  | extension name sub => exact hop.elim
  | null => exact leaf (.pure Table.empty) (by simp) rfl
  | list sub => exact unary_ends h (by simp) rfl (fun _ => .rfl) id
  | order sub cs =>
      have hsort (t : Table) : Run.Ends (t.order cs = .error .crash)
          (Run.ofResult (t.order cs) : Run σ Table) := by
        cases ht : t.order cs with
        | ok u => exact (Run.Ends.pure u).congr (by simp)
        | error e =>
            obtain rfl := Table.eq_crash_of_order ht
            exact .crash (fun j => ⟨j, rfl⟩) rfl
      refine ((h sub (by simp [Op.operands]) active).bind_result fun t _ => hsort t).congr ?_
      refine or_comm.trans (.trans ?_ Op.crashesSorting_iff.symm)
      refine or_congr ?_ (by simp [Op.operands, Op.EvaluatesIn])
      constructor
      · rintro ⟨t, ht, hcrash⟩
        exact ⟨sub, cs, t, rfl, ht, hcrash⟩
      · rintro ⟨_, _, t, ⟨⟩, ht, hcrash⟩
        exact ⟨t, ht, hcrash⟩
  | project sub vs => exact unary_ends h (by simp) rfl (fun _ => .rfl) (Table.project · vs)
  | distinct sub => exact unary_ends h (by simp) rfl (fun _ => .rfl) Table.distinct
  | reduced sub => exact unary_ends h (by simp) rfl (fun _ => .rfl) Table.reduced
  | slice sub start length =>
      exact unary_ends h (by simp) rfl (fun _ => .rfl) (Table.slice · start length)
  | assign sub as => exact unary_ends h (by simp) rfl (fun _ => .rfl) (Table.assign · as)
  | group sub keys as =>
      have hgroup (t : Table) : Run.Ends False (Run.ofResult (t.group keys as) : Run σ Table) := by
        obtain ⟨u, hu⟩ := Table.exists_group_eq_ok t keys (List.findSome?_eq_none_iff.2 hop)
        rw [hu]
        exact .pure u
      refine ((h sub (by simp [Op.operands]) active).bind fun t _ => hgroup t).congr ?_
      simp [Op.crashesSorting_iff_of_ne_order, Op.operands, Op.EvaluatesIn]

end Step

end Dispatcher

namespace Op

/-- A tree whose operators have no cause to fail has a table, unless a sort in it crashes. -/
theorem eval_ends {root op : Op} {depth : Nat} (hat : root.At 1 op depth)
    (hop : ∀ o n, root.At 1 o n → o.Unfailing) (c : Context σ) (d : Dataset) (active : Graph) :
    Run.Ends (op.CrashesSorting c d active) (op.eval c d active) := by
  induction op using operands_induction generalizing depth active with
  | step op ih =>
      rw [eval_eq_step]
      have hoperand (o : Op) (ho : o ∈ op.operands) (g : Graph) :
          Run.Ends (o.CrashesSorting c d g) (o.eval c d g) :=
        ih o ho (.operand hat ho) g
      exact .tick (Dispatcher.step_ends hoperand (hop op depth hat))

end Op

namespace Engine

variable {op : Op}

/-- A tree within the limit whose operators have no cause to fail has an answer, or it crashes. -/
theorem execute_ends (e : Engine σ) (world : σ) (hheight : op.height ≤ e.config.maxDepth)
    (hop : ∀ o depth, op.At 1 o depth → o.Unfailing) :
    (∃ answer world', e.execute op world = (.ok answer, world')) ∧
        ¬op.CrashesSorting e.context e.dataset e.dataset.defaultGraph ∨
      (∃ world', e.execute op world = (.error .crash, world')) ∧
        op.CrashesSorting e.context e.dataset e.dataset.defaultGraph := by
  have hcheck : op.check e.context.config.maxDepth = .ok () := by
    refine Op.check_eq_ok_of_height_le hheight fun o depth ho name sub heq => ?_
    have hunfailing : Op.Unfailing (.extension name sub) := heq ▸ hop o depth ho
    exact hunfailing
  rw [execute, Op.run_eq_eval hcheck]
  obtain ⟨hcrash, hsort⟩ | ⟨⟨a, ha⟩, hsort⟩ :=
    Op.eval_ends .root hop e.context e.dataset e.dataset.defaultGraph
  · obtain ⟨k, hk⟩ := hcrash (.start world)
    rw [hk]
    exact .inr ⟨⟨_, rfl⟩, hsort⟩
  · obtain ⟨t, k, hrun, -⟩ := ha (.start world)
    rw [hrun]
    exact .inl ⟨⟨_, _, rfl⟩, hsort⟩

theorem exists_execute_eq_ok_iff (e : Engine σ) (world : σ)
    (hheight : op.height ≤ e.config.maxDepth) (hop : ∀ o depth, op.At 1 o depth → o.Unfailing) :
    (∃ answer world', e.execute op world = (.ok answer, world')) ↔
      ¬op.CrashesSorting e.context e.dataset e.dataset.defaultGraph := by
  obtain ⟨hok, hsort⟩ | ⟨⟨world', hcrash⟩, hsort⟩ := e.execute_ends world hheight hop
  · exact iff_of_true hok hsort
  · refine iff_of_false ?_ (not_not.2 hsort)
    rintro ⟨answer, world'', hok⟩
    cases hcrash.symm.trans hok

theorem exists_execute_eq_crash_iff (e : Engine σ) (world : σ)
    (hheight : op.height ≤ e.config.maxDepth) (hop : ∀ o depth, op.At 1 o depth → o.Unfailing) :
    (∃ world', e.execute op world = (.error .crash, world')) ↔
      op.CrashesSorting e.context e.dataset e.dataset.defaultGraph := by
  obtain ⟨⟨answer, world', hok⟩, hsort⟩ | ⟨hcrash, hsort⟩ := e.execute_ends world hheight hop
  · refine iff_of_false ?_ hsort
    rintro ⟨world'', hcrash⟩
    cases hok.symm.trans hcrash
  · exact iff_of_true hcrash hsort

/-- Such a tree has an answer if the values that it sorts by are comparable wherever it sorts. -/
theorem exists_execute_of_comparable (e : Engine σ) (world : σ)
    (hheight : op.height ≤ e.config.maxDepth) (hop : ∀ o depth, op.At 1 o depth → o.Unfailing)
    (hsort : ∀ sub cs depth, op.At 1 (.order sub cs) depth → ∀ active j t k,
      (sub.eval e.context e.dataset active).run j = .ok t k → ∀ c ∈ cs, c.Comparable t.rows) :
    ∃ answer world', e.execute op world = (.ok answer, world') := by
  refine (e.exists_execute_eq_ok_iff world hheight hop).2 fun hcrash => ?_
  obtain ⟨sub, cs, depth, hat, active, t, ht, herr⟩ := hcrash.exists_at 1
  obtain ⟨_, k, hrun, rfl⟩ := ht (.start world)
  obtain ⟨u, hu, -⟩ :=
    Table.exists_order (Table.preordersOn_compareRows (hsort sub cs depth hat active _ _ k hrun))
  rw [hu] at herr
  cases herr

/-- A tree within the limit whose operators have no cause to fail themselves has an answer, over
every dataset, exactly if no sort in it crashes, in the graphs where its operators are evaluated.
If one does, the crash is how the query ends. Errors of expressions are faults, and only those that
count the arguments of a function complain of their number; filters, left joins and assignment give
a table whatever faults there are, and sorting does unless the keys of more than 20 rows are not in
order. Grouping gives a table unless there is a group and some aggregate is unknown, which is then
the error. -/
theorem execute_fails_only (engine : Engine σ) :
    (∀ (op : Op) (world : σ), op.height ≤ engine.config.maxDepth →
      (∀ o depth, op.At 1 o depth → o.Unfailing) →
      ((∃ answer world', engine.execute op world = (.ok answer, world')) ↔
        ¬op.CrashesSorting engine.context engine.dataset engine.dataset.defaultGraph) ∧
      ((∃ world', engine.execute op world = (.error .crash, world')) ↔
        op.CrashesSorting engine.context engine.dataset engine.dataset.defaultGraph)) ∧
    (∀ (e : Expr) (b : Binding) (err : Error),
      (e.eval b).mapError .expression = .error err ∨
        (e.truth b).mapError .expression = .error err →
      ∃ f : ExprFault, err = .expression f ∧
        ∀ g n, f = .arity g n → n < g.arity.1 ∨ g.arity.2 < n) ∧
    (∀ (d : Dataset) (procedures : Procedures σ) (active : Graph) (j : Journal σ)
      (t u : Table) (es : List Expr) (cs : List SortCondition) (as : List (Var × Expr)),
      ((d.evaluator procedures active).filter es t).run j = .ok (t.filter es) j ∧
      ((d.evaluator procedures active).leftJoin t u es).run j = .ok (t.leftJoin u es) j ∧
      ((∃ rows : List Binding, rows.Perm t.rows ∧
          ((d.evaluator procedures active).order t cs).run j = .ok (.ofRows t.vars rows) j) ∨
        ((d.evaluator procedures active).order t cs).run j = .error .crash j ∧
          20 < t.rows.length ∧ ¬PreordersOn (Table.compareRows cs) (· ∈ t.rows)) ∧
      ((d.evaluator procedures active).assign t as).run j = .ok (t.assign as) j) ∧
    (∀ (t : Table) (keys : List (Var × Option Expr)) (as : List (Var × Aggregator)),
      (Table.groups keys t.rows = [] ↔ t.rows = [] ∧ keys ≠ []) ∧
      ((∃ err, t.group keys as = .error err) ↔
        (∃ v iri args, (v, Aggregator.custom iri args) ∈ as) ∧
          Table.groups keys t.rows ≠ []) ∧
      ∀ err, t.group keys as = .error err →
        ∃ v iri args, (v, Aggregator.custom iri args) ∈ as ∧ err = .unsupportedAggregator iri) := by
  refine ⟨fun op world hheight hop => ⟨engine.exists_execute_eq_ok_iff world hheight hop,
      engine.exists_execute_eq_crash_iff world hheight hop⟩,
    fun e b err herr => ?_, fun d procedures active j t u es cs as => ⟨rfl, rfl, ?_, rfl⟩,
    fun t keys as =>
      ⟨Table.groups_eq_nil_iff, Table.exists_group_eq_error_iff, fun err herr => ?_⟩⟩
  · obtain ⟨f, hf, rfl⟩ : ∃ f : ExprFault, f.Justified ∧ Error.expression f = err := by
      simp only [mapError_eq_error_iff] at herr
      rcases herr with ⟨f, hf, rfl⟩ | ⟨f, hf, rfl⟩
      · exact ⟨f, e.eval_failsOnly b f hf, rfl⟩
      · exact ⟨f, e.truth_failsOnly b f hf, rfl⟩
    refine ⟨f, rfl, ?_⟩
    rintro g n rfl
    exact hf
  · change (∃ rows : List Binding, _ ∧ (Run.ofResult (t.order cs)).run j = _) ∨
      (Run.ofResult (t.order cs)).run j = _ ∧ _
    obtain ⟨rows, hperm, hrows⟩ | ⟨hcrash, hlength, hpre⟩ := t.order_eq cs
    · exact .inl ⟨rows, hperm, by rw [hrows]; rfl⟩
    · exact .inr ⟨by rw [hcrash]; rfl, hlength, hpre⟩
  · obtain ⟨-, iri, hfind, rfl⟩ := Table.group_eq_error_iff.1 herr
    obtain ⟨v, args, hmem⟩ := Table.mem_of_findSome?_custom? hfind
    exact ⟨v, iri, args, hmem, rfl⟩

/-- The number of rows in which a division by zero is a number, in groups of the values of a free
variable. -/
def countFaulty : Op :=
  let faulty : Expr := .binary (.arithmetic .div) (.constant (.integer 1)) (.constant (.integer 0))
  .group
    (.filter [.call .isNumeric [faulty]]
      (.assign (.datasetNames (.term (.iri Iri.defaultGraph))) [(⟨"x"⟩, faulty)]))
    [(⟨"k"⟩, some (.var ⟨"free"⟩))] [(⟨"n"⟩, .countRows false)]

/-- Its faults do not keep the query from having an answer. -/
theorem exists_execute_countFaulty :
    countFaulty.height ≤ 128 ∧ (∀ o depth, countFaulty.At 1 o depth → o.Unfailing) ∧
      ∃ answer, Engine.execute (σ := Unit) { dataset := .empty } countFaulty () =
        (.ok answer, ()) := by
  have hheight : countFaulty.height ≤ 128 := by decide
  have hall : ∀ o depth, countFaulty.At 1 o depth → o.Unfailing ∧ ∀ sub cs, o ≠ .order sub cs := by
    have hnames : Op.Unfailing (.datasetNames (.term (.iri Iri.defaultGraph))) := rfl
    refine Op.forall_at_of_operands
      (by simp [countFaulty, Op.Unfailing, Aggregator.custom?]) ?_
    refine List.forall_mem_singleton.2 (Op.forall_at_of_operands ⟨trivial, nofun⟩ ?_)
    refine List.forall_mem_singleton.2 (Op.forall_at_of_operands ⟨trivial, nofun⟩ ?_)
    refine List.forall_mem_singleton.2 (Op.forall_at_of_operands ⟨hnames, nofun⟩ ?_)
    exact List.forall_mem_nil _
  have hop : ∀ o depth, countFaulty.At 1 o depth → o.Unfailing :=
    fun o depth h => (hall o depth h).1
  have hsort : ¬countFaulty.CrashesSorting (Engine.context (σ := Unit) { dataset := .empty }) .empty
      Dataset.empty.defaultGraph := by
    intro h
    obtain ⟨sub, cs, depth, hat, -⟩ := h.exists_at 1
    exact (hall _ _ hat).2 sub cs rfl
  obtain ⟨hanswer, -⟩ :=
    (execute_fails_only ({ dataset := .empty } : Engine Unit)).1 countFaulty () hheight hop
  obtain ⟨answer, world, h⟩ := hanswer.2 hsort
  exact ⟨hheight, hop, answer, h⟩

/-- Rows with the numbers 10 and 2 and the string 15. As texts the string comes between the numbers,
so it comes after 10 and before 2. -/
def circleTable : Table :=
  let x : Var := ⟨"x"⟩
  let rows (n : Nat) (t : Term) := List.replicate n (Binding.single x t)
  ⟨[x], rows 5 (.typed "10" Iri.integer) ++ rows 5 (.typed "2" Iri.integer) ++
    rows 11 (.string "15")⟩

/-- Sorting these rows crashes, since the two ends of a merge do not meet. -/
theorem order_circleTable : circleTable.order [⟨.var ⟨"x"⟩, .ascending⟩] = .error .crash := by
  have hcrash : (circleTable.order [⟨.var ⟨"x"⟩, .ascending⟩]).isOk = false := by decide +kernel
  obtain ⟨rows, -, hrows⟩ | ⟨h, -⟩ := circleTable.order_eq [⟨.var ⟨"x"⟩, .ascending⟩]
  · rw [hrows] at hcrash
    cases hcrash
  · exact h

/-- A tree whose operators have no cause to fail may have no answer. -/
theorem not_forall_exists_execute :
    ¬∀ (op : Op), op.height ≤ 128 → (∀ o depth, op.At 1 o depth → o.Unfailing) →
      ∃ answer world, Engine.execute (σ := Unit) { dataset := .empty } op () =
        (.ok answer, world) := by
  intro h
  let op : Op := .order (.table circleTable) [⟨.var ⟨"x"⟩, .ascending⟩]
  have hop : ∀ o depth, op.At 1 o depth → o.Unfailing :=
    Op.forall_at_of_operands trivial <|
      List.forall_mem_singleton.2 (Op.forall_at_of_operands trivial nofun)
  obtain ⟨answer, world, hanswer⟩ := h op (by decide) hop
  obtain ⟨k, hrun, -⟩ := execute_eq_ok_iff.1 hanswer
  have heval := Op.eval_eq_ok_of_run hrun
  simp only [op, Op.eval_eq_step, Dispatcher.step, Dataset.evaluator, bind_assoc, pure_bind,
    order_circleTable] at heval
  cases heval

end Engine

end GraphAlgebra
