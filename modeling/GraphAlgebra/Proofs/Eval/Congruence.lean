import GraphAlgebra.Proofs.Eval.Result
/-!
# What an evaluation leaves to its collaborators

An evaluation calls its services and procedures, counts operators and computes with what comes of
that. So a relation between runs that goes through these steps relates two evaluations of a tree as
soon as it relates the calls in them (`Op.eval_congr`). A property of runs that is closed under the
steps is such a relation between a run and itself (`Run.Closed.congruence`).
-/

namespace GraphAlgebra

variable {σ α β : Type}

/-- A relation between runs that goes through the steps of an evaluation. -/
structure Run.Congruence (R : ∀ α : Type, Run σ α → Run σ α → Prop) : Prop where
  pure {α : Type} (a : α) : R α (Pure.pure a) (Pure.pure a)
  throw {α : Type} (e : Error) : R α (MonadExcept.throw e) (MonadExcept.throw e)
  tick : R Unit Run.tick Run.tick
  bind {α β : Type} {x y : Run σ α} {f g : α → Run σ β} (hx : R α x y)
    (hf : ∀ a, R β (f a) (g a)) : R β (x >>= f) (y >>= g)

/-- A property of runs that the steps of an evaluation keep. -/
structure Run.Closed (P : ∀ α : Type, Run σ α → Prop) : Prop where
  pure {α : Type} (a : α) : P α (Pure.pure a)
  throw {α : Type} (e : Error) : P α (MonadExcept.throw e)
  tick : P Unit Run.tick
  bind {α β : Type} {x : Run σ α} {f : α → Run σ β} (hx : P α x) (hf : ∀ a, P β (f a)) :
    P β (x >>= f)

/-- Two runs are the same run, and it has a property. -/
def Run.Same (P : ∀ α : Type, Run σ α → Prop) (α : Type) (x y : Run σ α) : Prop := x = y ∧ P α x

theorem Run.Closed.congruence {P : ∀ α : Type, Run σ α → Prop} (hP : Run.Closed P) :
    Run.Congruence (Run.Same P) where
  pure a := ⟨rfl, hP.pure a⟩
  throw e := ⟨rfl, hP.throw e⟩
  tick := ⟨rfl, hP.tick⟩
  bind {α β x y f g} hx hf := by
    obtain ⟨rfl, hx⟩ := hx
    obtain rfl : f = g := funext fun a => (hf a).1
    exact ⟨rfl, hP.bind hx fun a => (hf a).2⟩

structure Context.Related (R : ∀ α : Type, Run σ α → Run σ α → Prop) (c c' : Context σ) :
    Prop where
  service (endpoint : Term) (sub : Op) (silent : Bool) :
    R Table (c.callService endpoint sub silent) (c'.callService endpoint sub silent)
  procedure (t : Table) (name : Iri) (args : ProcedureArgs) :
    R Table (c.procedures.call t name args) (c'.procedures.call t name args)

namespace Run.Congruence

variable {R : ∀ α : Type, Run σ α → Run σ α → Prop}

theorem ofResult (hR : Congruence R) (r : Except Error α) :
    R α (Run.ofResult r) (Run.ofResult r) := by
  cases r with
  | ok a => exact hR.pure a
  | error e => exact hR.throw e

theorem bind_pure (hR : Congruence R) {x y : Run σ α} (hx : R α x y) (f : α → β) :
    R β (x >>= fun a => Pure.pure (f a)) (y >>= fun a => Pure.pure (f a)) :=
  hR.bind hx fun a => hR.pure (f a)

theorem foldlM (hR : Congruence R) {f g : β → α → Run σ β} (h : ∀ b a, R β (f b a) (g b a))
    (l : List α) (b : β) : R β (l.foldlM f b) (l.foldlM g b) := by
  induction l generalizing b with
  | nil => exact hR.pure b
  | cons a l ih =>
      rw [List.foldlM_cons, List.foldlM_cons]
      exact hR.bind (h b a) ih

end Run.Congruence

theorem Run.Closed.ofResult {P : ∀ α : Type, Run σ α → Prop} (hP : Run.Closed P)
    (r : Except Error α) : P α (Run.ofResult r) :=
  (hP.congruence.ofResult r).2

namespace Dispatcher

variable {R : ∀ α : Type, Run σ α → Run σ α → Prop} {d : Dataset} {active : Graph}

theorem nameTable_congr (hR : Run.Congruence R) (c c' : Context σ) (p : TermPattern) :
    R Table (nameTable (d.evaluator c.procedures active) p)
      (nameTable (d.evaluator c'.procedures active) p) := by
  cases p with
  | var v => exact hR.pure _
  | term name =>
      simp only [nameTable, Dataset.evaluator, pure_bind]
      by_cases hname : name.isIri = true
      · rw [hname]
        cases d.hasGraph name <;> exact hR.pure _
      · rw [Bool.not_eq_true] at hname
        rw [hname]
        exact hR.throw _

theorem graphStep_congr (hR : Run.Congruence R) (c c' : Context σ)
    {body body' : Graph → Run σ Table} (h : ∀ g, R Table (body g) (body' g)) (v : Var)
    (done : Table) (name : Term) :
    R Table (graphStep (d.evaluator c.procedures active) v body done name)
      (graphStep (d.evaluator c'.procedures active) v body' done name) := by
  simp only [graphStep, Dataset.evaluator, pure_bind]
  cases d.graph? name with
  | none => exact hR.pure done
  | some g => exact hR.bind_pure (h g) fun t => done.union (t.join (.single v name))

theorem inGraph_congr (hR : Run.Congruence R) (c c' : Context σ)
    {body body' : Graph → Run σ Table} (h : ∀ g, R Table (body g) (body' g)) (p : TermPattern) :
    R Table (inGraph (d.evaluator c.procedures active) p body)
      (inGraph (d.evaluator c'.procedures active) p body') := by
  cases p with
  | term name =>
      simp only [inGraph, Dataset.evaluator, pure_bind]
      cases d.graph? name with
      | none => exact hR.pure Table.empty
      | some g => exact h g
  | var v => exact hR.foldlM (graphStep_congr hR c c' h v) d.names Table.empty

/-- Two steps for an operator are related if the evaluations of its operands are. -/
theorem step_congr (hR : Run.Congruence R) {c c' : Context σ} (hc : c.Related R c') (op : Op)
    {eval eval' : (o : Op) → o ∈ op.operands → Graph → Run σ Table}
    (h : ∀ o ho g, R Table (eval o ho g) (eval' o ho g)) :
    R Table (c.toDispatcher.step (d.evaluator c.procedures) active op eval)
      (c'.toDispatcher.step (d.evaluator c'.procedures) active op eval') := by
  have two (l r : Op) (hl : l ∈ op.operands) (hr : r ∈ op.operands) (f : Table → Table → Table) :
      R Table (eval l hl active >>= fun t => eval r hr active >>= fun u => pure (f t u))
        (eval' l hl active >>= fun t => eval' r hr active >>= fun u => pure (f t u)) :=
    hR.bind (h l hl active) fun t => hR.bind_pure (h r hr active) (f t)
  cases op with
  | bgp ps => exact hR.pure _
  | quads p ps =>
      simp only [step]
      split
      · exact hR.pure Table.unit
      · exact inGraph_congr hR c c' (fun g => hR.pure (g.matchPattern ps)) p
  | procedure sub name args => exact hR.bind (h sub _ active) fun t => hc.procedure t name args
  | join l r => exact two l r _ _ Table.join
  | sequence l r => exact two l r _ _ Table.join
  | leftJoin l r es => exact two l r _ _ fun t u => t.leftJoin u es
  | diff l r => exact two l r _ _ Table.diff
  | union l r => exact two l r _ _ Table.union
  | filter es sub => exact hR.bind_pure (h sub _ active) (Table.filter es)
  | graph p sub => exact inGraph_congr hR c c' (fun g => h sub _ g) p
  | service endpoint sub silent => exact hc.service endpoint sub silent
  | datasetNames p => exact nameTable_congr hR c c' p
  | table t => exact hR.pure t
  | extension name sub => exact hR.throw _
  | null => exact hR.pure Table.empty
  | list sub => exact hR.bind_pure (h sub _ active) id
  | order sub cs => exact hR.bind (h sub _ active) fun t => hR.ofResult (t.order cs)
  | project sub vs => exact hR.bind_pure (h sub _ active) (Table.project · vs)
  | distinct sub => exact hR.bind_pure (h sub _ active) Table.distinct
  | reduced sub => exact hR.bind_pure (h sub _ active) Table.reduced
  | slice sub start length => exact hR.bind_pure (h sub _ active) (Table.slice · start length)
  | assign sub as => exact hR.bind_pure (h sub _ active) (Table.assign · as)
  | group sub keys as => exact hR.bind (h sub _ active) fun t => hR.ofResult (t.group keys as)

end Dispatcher

/-- Two evaluations of a tree are related if the calls in them are. -/
theorem Op.eval_congr {R : ∀ α : Type, Run σ α → Run σ α → Prop} (hR : Run.Congruence R)
    {c c' : Context σ} (hc : c.Related R c') (d : Dataset) (active : Graph) (op : Op) :
    R Table (op.eval c d active) (op.eval c' d active) := by
  induction op using operands_induction generalizing active with
  | step op ih =>
      rw [eval_eq_step, eval_eq_step]
      refine hR.bind hR.tick fun _ => ?_
      exact Dispatcher.step_congr hR hc op fun o ho g => ih o ho g

/-- So are two runs of it that have the same limit. -/
theorem Dispatcher.run_congr {R : ∀ α : Type, Run σ α → Run σ α → Prop} (hR : Run.Congruence R)
    {c c' : Context σ} (hc : c.Related R c') (hdepth : c'.config.maxDepth = c.config.maxDepth)
    (d : Dataset) (active : Graph) (op : Op) :
    R Table (c.toDispatcher.run (d.evaluator c.procedures) op active)
      (c'.toDispatcher.run (d.evaluator c'.procedures) op active) := by
  rw [run, run, hdepth]
  cases op.check c.config.maxDepth with
  | error e => exact hR.throw e
  | ok _ => exact op.eval_congr hR hc d active

end GraphAlgebra
