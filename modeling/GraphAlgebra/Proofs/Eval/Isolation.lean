import GraphAlgebra.Proofs.Eval.GraphScope
import GraphAlgebra.Proofs.Eval.Purity
/-!
# Trees that do not see the active graph

A pattern is matched against the active graph, and a graph operator makes another graph active. A
tree in which every pattern is below a graph operator is evaluated in the same way whatever the
active graph is (`Op.Enclosed.run_eq`), since graphs are looked up in the dataset. What is sent to a
service is not part of the tree. Main statement: `Dispatcher.run_isolated`.
-/

namespace GraphAlgebra

variable {σ : Type}

namespace Op

/-- Every pattern of the tree is below a graph operator. -/
inductive Enclosed : Op → Prop
  | graph (p : TermPattern) (sub : Op) : Enclosed (.graph p sub)
  | of_operands {op : Op} (hop : ∀ ps, op ≠ .bgp ps) (h : ∀ o ∈ op.operands, Enclosed o) :
      Enclosed op

/-- One more level above a tree that is low enough does not change what the check finds. -/
theorem checkPending_map_succ {limit : Nat} {pending : List (Op × Nat)}
    (h : ∀ e ∈ pending, e.2 + e.1.height ≤ limit) :
    checkPending limit (pending.map fun e => (e.1, e.2 + 1)) = checkPending limit pending := by
  have hfault {op : Op} {depth : Nat} (h : depth + op.height ≤ limit) :
      op.fault? limit (depth + 1) = op.fault? limit depth := by
    have hpos : 0 < op.height := op.height_pos
    have hdepth : ¬ limit < depth := by omega
    have hsucc : ¬ limit < depth + 1 := by omega
    unfold fault?
    rw [if_neg hsucc, if_neg hdepth]
  induction pending using checkPending.induct limit with
  | case1 => rfl
  | case2 op depth pending e he =>
      rw [List.map_cons, checkPending, checkPending, hfault (List.forall_mem_cons.1 h).1, he]
  | case3 op depth pending he ih =>
      obtain ⟨hop, hpending⟩ := List.forall_mem_cons.1 h
      rw [List.map_cons, checkPending, checkPending, hfault hop, he]
      have hmap : (op.operands.map (·, depth + 1 + 1)).reverse ++
            pending.map (fun e => (e.1, e.2 + 1)) =
          ((op.operands.map (·, depth + 1)).reverse ++ pending).map fun e => (e.1, e.2 + 1) := by
        simp [Function.comp_def]
      refine (congrArg (checkPending limit) hmap).trans (ih fun e hmem => ?_)
      rcases List.mem_append.1 hmem with hmem | hmem
      · obtain ⟨o, ho, rfl⟩ := List.mem_map.1 (List.mem_reverse.1 hmem)
        have hlt : o.height < op.height := height_lt_of_mem_operands ho
        have hle : depth + op.height ≤ limit := hop
        change depth + 1 + o.height ≤ limit
        omega
      · exact hpending e hmem

theorem check_graph {limit : Nat} {p : TermPattern} {sub : Op}
    (h : (Op.graph p sub).height ≤ limit) : (Op.graph p sub).check limit = sub.check limit := by
  have hpos : 0 < (Op.graph p sub).height := height_pos _
  have hfault : (Op.graph p sub).fault? limit 1 = none :=
    fault?_eq_none_iff.2 ⟨by omega, nofun⟩
  rw [check, checkPending, hfault]
  have hpending : ∀ e ∈ [(sub, 1)], e.2 + e.1.height ≤ limit := by
    rw [List.forall_mem_singleton, Nat.add_comm]
    exact h
  exact checkPending_map_succ hpending

end Op

namespace Dispatcher

/-- A step with operands that do not see the active graph does not see it either, unless it matches
a pattern. -/
theorem step_congr_active {c : Context σ} {d : Dataset} {g g' : Graph} {op : Op}
    (hop : ∀ ps, op ≠ .bgp ps) {eval : (o : Op) → o ∈ op.operands → Graph → Run σ Table}
    (h : ∀ o ho, eval o ho g = eval o ho g') :
    c.toDispatcher.step (d.evaluator c.procedures) g op eval =
      c.toDispatcher.step (d.evaluator c.procedures) g' op eval := by
  have one (o : Op) (ho : o ∈ op.operands) (f : Table → Run σ Table) :
      eval o ho g >>= f = eval o ho g' >>= f := by rw [h o ho]
  have two (l r : Op) (hl : l ∈ op.operands) (hr : r ∈ op.operands)
      (f : Table → Table → Run σ Table) :
      (eval l hl g >>= fun t => eval r hr g >>= f t) =
        eval l hl g' >>= fun t => eval r hr g' >>= f t := by rw [h l hl, h r hr]
  cases op with
  | bgp ps => exact absurd rfl (hop ps)
  | graph | quads | service | datasetNames | table | extension | null => rfl
  | join l r | sequence l r | leftJoin l r | diff l r | union l r => exact two l r _ _ _
  | procedure sub | filter _ sub | list sub | order sub | project sub | distinct sub
  | reduced sub | slice sub | assign sub | group sub => exact one sub _ _

end Dispatcher

namespace Op

variable {c : Context σ} {d : Dataset} {op : Op}

theorem Enclosed.eval_eq (h : op.Enclosed) (g g' : Graph) : op.eval c d g = op.eval c d g' := by
  induction h with
  | graph p sub =>
      rw [eval_eq_step, eval_eq_step]
      rfl
  | of_operands hop h ih =>
      rw [eval_eq_step, eval_eq_step]
      exact congrArg (Run.tick >>= ·) (funext fun _ => Dispatcher.step_congr_active hop ih)

theorem Enclosed.run_eq (h : op.Enclosed) (g g' : Graph) :
    c.toDispatcher.run (d.evaluator c.procedures) op g =
      c.toDispatcher.run (d.evaluator c.procedures) op g' := by
  cases hcheck : op.check c.config.maxDepth with
  | error e => rw [Dispatcher.run, Dispatcher.run, hcheck]
  | ok u =>
      rw [Dispatcher.run_eq_eval hcheck, Dispatcher.run_eq_eval hcheck]
      exact h.eval_eq g g'

end Op

namespace Dispatcher

variable {c : Context σ} {d : Dataset}

/-- In a graph that exists a tree does what it does while that graph is active. One more operator is
counted if the tree passes the check. -/
theorem does_run_graph {name : Term} {g : Graph} (hg : d.graph? name = some g) {sub : Op}
    (hheight : (Op.graph (.term name) sub).height ≤ c.config.maxDepth) {e : Effect Table}
    (h : (c.toDispatcher.run (d.evaluator c.procedures) sub g).Does e) (active : Graph) :
    ∃ n, (c.toDispatcher.run (d.evaluator c.procedures) (.graph (.term name) sub) active).Does
      { e with operators := n } := by
  have hcheck := Op.check_graph hheight
  cases hsub : sub.check c.config.maxDepth with
  | error err =>
      rw [hsub] at hcheck
      rw [run, hsub] at h
      rw [run, hcheck]
      exact ⟨_, h⟩
  | ok u =>
      rw [hsub] at hcheck
      rw [run_eq_eval hsub] at h
      have heval : Op.eval c d active (.graph (.term name) sub) =
          (do Run.tick; sub.eval c d g) := by
        rw [Op.eval_eq_step]
        simp only [step, inGraph, Dataset.evaluator, pure_bind, hg]
      rw [run_eq_eval hcheck]
      refine ⟨e.operators + 1, ?_⟩
      change (Op.eval c d active (.graph (.term name) sub)).Does _
      rw [heval]
      exact h.tick

/-- A tree in which every pattern is below a graph operator has one effect, whatever the active
graph is: its outcome, the number of operators that are counted and the calls that are made. So a
graph operator around another one does not matter, if its graph exists and the check does not find
the tree too deep. -/
theorem run_isolated (c : Context σ) (hc : c.Pure) (d : Dataset) :
    let run (op : Op) (active : Graph) := c.toDispatcher.run (d.evaluator c.procedures) op active
    (∀ op : Op, op.Enclosed → ∃ e, ∀ active, (run op active).Does e) ∧
    (∀ (name : Term) (g : Graph) (p : TermPattern) (sub : Op), d.graph? name = some g →
      (Op.graph (.term name) (.graph p sub)).height ≤ c.config.maxDepth →
      ∃ e, ∀ active, (run (.graph p sub) active).Does e ∧
        ∃ n, (run (.graph (.term name) (.graph p sub)) active).Does { e with operators := n }) := by
  intro run
  have hrun (op : Op) (hop : op.Enclosed) : ∃ e, ∀ active, (run op active).Does e := by
    obtain ⟨e, he⟩ := run_steady hc d op d.defaultGraph
    refine ⟨e, fun active => ?_⟩
    have heq : run op active = run op d.defaultGraph := hop.run_eq active d.defaultGraph
    rw [heq]
    exact he
  refine ⟨hrun, fun name g p sub hg hheight => ?_⟩
  obtain ⟨e, he⟩ := hrun (.graph p sub) (.graph p sub)
  exact ⟨e, fun active => ⟨he active, does_run_graph hg hheight (he g) active⟩⟩

/-- The pattern that a service is sent may stand anywhere, and the other one is below a graph
operator, which may itself be below the graph operator of a name. -/
theorem run_isolated_localServices :
    let endpoints : SortedMap Term Dataset := SortedMap.set Sorted.empty (.iri ⟨"s"⟩) selfNaming
    let c : Context Unit := ⟨⟨localServices endpoints builtinProcedures {}, {}⟩, builtinProcedures⟩
    let pattern : Op := .bgp [⟨.var ⟨"g"⟩, .term (.iri ⟨"p"⟩), .var ⟨"o"⟩⟩]
    let inner : Op := .graph (.var ⟨"g"⟩) pattern
    let op : Op := .join (.service (.iri ⟨"s"⟩) pattern false) inner
    let run (op : Op) (active : Graph) :=
      c.toDispatcher.run (selfNaming.evaluator c.procedures) op active
    c.Pure ∧ op.Enclosed ∧
      (∃ e, (run op selfNaming.defaultGraph).Does e ∧ (run op .empty).Does e) ∧
      (Op.graph (.term (.iri ⟨"a"⟩)) inner).height ≤ c.config.maxDepth ∧
      ∃ e, (run inner selfNaming.defaultGraph).Does e ∧
        ∃ n, (run (.graph (.term (.iri ⟨"a"⟩)) inner) .empty).Does { e with operators := n } := by
  intro endpoints c pattern inner op run
  have hc : c.Pure :=
    ⟨localServices_pure builtinProcedures_pure endpoints {}, builtinProcedures_pure⟩
  have hop : op.Enclosed := by
    refine .of_operands nofun fun o ho => ?_
    rcases List.mem_pair.1 ho with rfl | rfl
    · exact .of_operands nofun nofun
    · exact .graph _ _
  have hheight : (Op.graph (.term (.iri ⟨"a"⟩)) inner).height ≤ c.config.maxDepth := by decide
  obtain ⟨hisolated, hnested⟩ := run_isolated c hc selfNaming
  obtain ⟨e, he⟩ := hisolated op hop
  obtain ⟨g, hg⟩ : ∃ g, selfNaming.graph? (.iri ⟨"a"⟩) = some g := ⟨_, rfl⟩
  obtain ⟨e', he'⟩ := hnested _ g _ pattern hg hheight
  exact ⟨hc, hop, ⟨e, he _, he _⟩, hheight, e', (he' _).1, (he' _).2⟩

end Dispatcher

end GraphAlgebra
