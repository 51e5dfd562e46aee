import GraphAlgebra.Proofs.Eval.Yields
import GraphAlgebra.Proofs.Solution.Coverage
import GraphAlgebra.Proofs.Solution.Heading
import GraphAlgebra.Proofs.Solution.Sorting
/-!
# Every heading covers its rows

`Dispatcher.evalGated` is the evaluation in which each table that an evaluator or an operator makes
passes a gate. If the tables in a tree and those of the procedures cover their rows, then so do all
of these: a gate that lets such tables through as they are is never noticed
(`Dispatcher.evalGated_eq_eval`). Main statement: `Op.covers_of_run`.
-/

namespace GraphAlgebra

variable {σ Scope : Type}

/-- The evaluator whose tables pass a gate. -/
def Evaluator.gated (ev : Evaluator σ Scope) (gate : Table → Run σ Table) :
    Evaluator σ Scope where
  basicPattern ps := ev.basicPattern ps >>= gate
  join t u := ev.join t u >>= gate
  leftJoin t u es := ev.leftJoin t u es >>= gate
  diff t u := ev.diff t u >>= gate
  union t u := ev.union t u >>= gate
  filter es t := ev.filter es t >>= gate
  list t := ev.list t >>= gate
  order t cs := ev.order t cs >>= gate
  project t vs := ev.project t vs >>= gate
  distinct t := ev.distinct t >>= gate
  reduced t := ev.reduced t >>= gate
  slice t start length := ev.slice t start length >>= gate
  assign t as := ev.assign t as >>= gate
  group t keys as := ev.group t keys as >>= gate
  procedure t name args := ev.procedure t name args >>= gate
  graphNames := ev.graphNames
  hasGraph := ev.hasGraph
  forGraph? := ev.forGraph?

/-- The table of an operator in a scope, where the tables of the evaluators and of all operators
pass a gate. A loop over graphs has two more, the empty table and the one that holds the name of a
graph. -/
def Dispatcher.evalGated (x : Dispatcher σ) (evs : Scope → Evaluator σ Scope)
    (gate : Table → Run σ Table) (op : Op) (s : Scope) : Run σ Table := do
  Run.tick
  let t ← x.step (fun s => (evs s).gated gate) s op fun o _ inner => x.evalGated evs gate o inner
  gate t
termination_by op
decreasing_by exact Op.sizeOf_lt_of_mem_operands ‹_›

def Procedures.KeepCovers (procedures : Procedures σ) : Prop :=
  ∀ name p, procedures name = some p → ∀ t args w, t.Covers →
    YieldsOnly Table.Covers ((p t args).run w).1

theorem strSplit_covers (t : Table) (args : ProcedureArgs) :
    YieldsOnly Table.Covers (strSplit t args) := by
  unfold strSplit
  split
  next => exact .of_bind fun rows => .ok (Table.covers_ofRows _ _)
  next => exact .error _

theorem builtinProcedures_keepCovers : (builtinProcedures : Procedures σ).KeepCovers := by
  intro name p hp t args w _
  obtain rfl := eq_strSplit_of_builtinProcedures hp
  exact strSplit_covers t args

theorem Table.group_covers (t : Table) (keys : List (Var × Option Expr))
    (as : List (Var × Aggregator)) : YieldsOnly Table.Covers (t.group keys as) :=
  .of_bind fun _ => .ok (Table.covers_ofRows _ _)

theorem Table.order_covers (t : Table) (cs : List SortCondition) :
    YieldsOnly Table.Covers (t.order cs) := fun u h => by
  obtain ⟨rows, -, rfl⟩ := Table.exists_perm_of_order h
  exact Table.covers_ofRows _ _

namespace Run

variable {α β : Type} {p : α → Prop}

theorem Yields.bind_congr {x : Run σ α} (hx : Yields p x) {f g : α → Run σ β}
    (h : ∀ a, p a → f a = g a) : x >>= f = x >>= g := by
  funext j
  change (x >>= f).run j = (x >>= g).run j
  rw [EStateM.run_bind, EStateM.run_bind]
  cases hj : x.run j with
  | error e k => rfl
  | ok a k =>
      change (f a).run k = (g a).run k
      rw [h a (hx j a k hj)]

/-- Two runs are the same run, whose table covers its rows. -/
structure Covered (x y : Run σ Table) : Prop where
  eq : x = y
  covers : Yields Table.Covers y

namespace Covered

variable {x y : Run σ Table}

theorem pure {t : Table} (h : t.Covers) : Covered (Pure.pure t : Run σ Table) (Pure.pure t) :=
  ⟨rfl, .pure h⟩

theorem throw (e : Error) :
    Covered (MonadExcept.throw e : Run σ Table) (MonadExcept.throw e) :=
  ⟨rfl, .throw e⟩

theorem bind {f g : Table → Run σ Table} (hx : Covered x y)
    (h : ∀ t, t.Covers → Covered (f t) (g t)) : Covered (x >>= f) (y >>= g) := by
  obtain ⟨rfl, hx⟩ := hx
  exact ⟨hx.bind_congr fun t ht => (h t ht).eq, hx.bind fun t ht => (h t ht).covers⟩

theorem tick (h : Covered x y) : Covered (do Run.tick; x) (do Run.tick; y) :=
  ⟨congrArg (fun z : Run σ Table => do Run.tick; z) h.eq, .tick h.covers⟩

theorem foldlM {f g : Table → α → Run σ Table}
    (h : ∀ t, t.Covers → ∀ a, Covered (f t a) (g t a)) (l : List α) {t : Table} (ht : t.Covers) :
    Covered (l.foldlM f t) (l.foldlM g t) := by
  induction l generalizing t with
  | nil => exact pure ht
  | cons a l ih =>
      rw [List.foldlM_cons, List.foldlM_cons]
      exact (h t ht a).bind fun u hu => ih hu

/-- A gate that lets covering tables through does nothing. -/
theorem gate {gate : Table → Run σ Table} (hgate : ∀ t, t.Covers → gate t = Pure.pure t)
    (h : Covered x y) : Covered (x >>= gate) y := by
  obtain ⟨rfl, hx⟩ := h
  exact ⟨(hx.bind_congr hgate).trans (bind_pure x), hx⟩

end Covered

end Run

namespace Dispatcher

open Run (Covered)

variable {c : Context σ} {d : Dataset} {active : Graph} {gate : Table → Run σ Table}

theorem inGraph_covered (hgate : ∀ t, t.Covers → gate t = pure t)
    {body body' : Graph → Run σ Table} (h : ∀ g, Covered (body' g) (body g)) (place : TermPattern) :
    Covered (inGraph ((d.evaluator c.procedures active).gated gate) place body')
      (inGraph (d.evaluator c.procedures active) place body) := by
  cases place with
  | term name =>
      simp only [inGraph, Evaluator.gated, Dataset.evaluator, pure_bind]
      cases d.graph? name with
      | none => exact .pure Table.covers_empty
      | some g => exact h g
  | var v =>
      refine .foldlM (fun done hdone name => ?_) d.names Table.covers_empty
      simp only [graphStep, Evaluator.gated, Dataset.evaluator, pure_bind]
      cases d.graph? name with
      | none => exact .pure hdone
      | some g =>
          refine (h g).bind fun t _ => ?_
          have hjoin : (t.join (.single v name)).Covers := Table.covers_ofRows _ _
          simp only [hgate _ hjoin, pure_bind]
          exact .gate hgate (.pure (Table.covers_ofRows _ _))

/-- A step makes covering tables of covering tables, and no gate for such tables is noticed. -/
theorem step_covered (hc : c.procedures.KeepCovers) (hgate : ∀ t, t.Covers → gate t = pure t)
    {op : Op} (htable : ∀ t, op = .table t → t.Covers)
    {eval eval' : (o : Op) → o ∈ op.operands → Graph → Run σ Table}
    (h : ∀ o ho g, Covered (eval' o ho g) (eval o ho g)) :
    Covered (c.toDispatcher.step (fun g => (d.evaluator c.procedures g).gated gate) active op eval')
      (c.toDispatcher.step (d.evaluator c.procedures) active op eval) := by
  -- Most operations build their table from rows, so that it covers them whatever the operands are.
  have rows (vs : List Var) (rows : List Binding) :
      Covered (pure (Table.ofRows vs rows) >>= gate : Run σ Table) (pure (.ofRows vs rows)) :=
    .gate hgate (.pure (Table.covers_ofRows vs rows))
  have two (l r : Op) (hl : l ∈ op.operands) (hr : r ∈ op.operands)
      {f g : Table → Table → Run σ Table} (hfg : ∀ t u, Covered (f t u) (g t u)) :
      Covered (eval' l hl active >>= fun t => eval' r hr active >>= f t)
        (eval l hl active >>= fun t => eval r hr active >>= g t) :=
    (h l hl active).bind fun t _ => (h r hr active).bind fun u _ => hfg t u
  cases op with
  | bgp ps => exact rows _ _
  | quads place ps =>
      simp only [step]
      split
      · exact .pure Table.covers_unit
      · exact inGraph_covered hgate (fun g => rows _ _) place
  | procedure sub name args =>
      exact (h sub _ active).bind fun t ht =>
        .gate hgate ⟨rfl, call_yields fun p hp w => hc name p hp t args w ht⟩
  | join l r => exact two l r _ _ fun t u => rows _ _
  | sequence l r => exact two l r _ _ fun t u => rows _ _
  | leftJoin l r es => exact two l r _ _ fun t u => rows _ _
  | diff l r => exact two l r _ _ fun t u => rows _ _
  | union l r => exact two l r _ _ fun t u => rows _ _
  | filter es sub => exact (h sub _ active).bind fun t _ => rows _ _
  | graph place sub => exact inGraph_covered hgate (fun g => h sub _ g) place
  | service endpoint sub silent =>
      -- The heading of an answer is read off its rows, whatever the service sends.
      exact ⟨rfl, callService_yields Table.covers_unit fun _ _ _ => Table.covers_ofRows _ _⟩
  | datasetNames place =>
      exact ⟨rfl, nameTable_yields Table.covers_unit Table.covers_empty
        (fun _ => Table.covers_ofRows _ _) place⟩
  | table t => exact .pure (htable t rfl)
  | extension name sub => exact .throw _
  | null => exact .pure Table.covers_empty
  | list sub => exact (h sub _ active).bind fun t ht => .gate hgate (.pure ht)
  | order sub cs =>
      exact (h sub _ active).bind fun t _ => .gate hgate ⟨rfl, .ofResult (t.order_covers cs)⟩
  | project sub vs => exact (h sub _ active).bind fun t _ => rows _ _
  | distinct sub => exact (h sub _ active).bind fun t _ => rows _ _
  | reduced sub => exact (h sub _ active).bind fun t _ => rows _ _
  | slice sub start length => exact (h sub _ active).bind fun t _ => rows _ _
  | assign sub as => exact (h sub _ active).bind fun t _ => rows _ _
  | group sub keys as =>
      exact (h sub _ active).bind fun t _ =>
        .gate hgate ⟨rfl, .ofResult (t.group_covers keys as)⟩

/-- The evaluation with a gate for covering tables is the one without it, and its table covers. -/
theorem evalGated_covered (hc : c.procedures.KeepCovers)
    (hgate : ∀ t, t.Covers → gate t = pure t) {op : Op} {depth : Nat}
    (htables : ∀ t n, op.At depth (.table t) n → t.Covers) :
    Covered (c.toDispatcher.evalGated (d.evaluator c.procedures) gate op active)
      (op.eval c d active) := by
  induction op using Op.operands_induction generalizing depth active with
  | step op ih =>
      rw [evalGated, Op.eval_eq_step]
      have hstep : Covered
          (c.toDispatcher.step (fun g => (d.evaluator c.procedures g).gated gate) active op
            fun o _ g => c.toDispatcher.evalGated (d.evaluator c.procedures) gate o g)
          (c.toDispatcher.step (d.evaluator c.procedures) active op fun o _ g => o.eval c d g) :=
        step_covered hc hgate (fun t ht => htables t depth (ht ▸ .root)) fun o ho g =>
          ih o ho fun t n ht => htables t n (.of_operand ho ht)
      exact (hstep.gate hgate).tick

end Dispatcher

namespace Op

def CoversTables (op : Op) : Prop := ∀ t depth, op.At 1 (.table t) depth → t.Covers

/-- The evaluation of a tree whose own tables cover their rows, with procedures that keep to that,
whatever the dataset and the services are, makes only tables that do: a gate behind each operator
and each operation of the evaluators that lets such tables through is not noticed. So the grid shows
every value of the result, and the JSON document has every name in its head. The procedures that are
built in keep to it. -/
theorem covers_of_run (c : Context σ) (hc : c.procedures.KeepCovers) (d : Dataset) (op : Op)
    (hop : op.CoversTables) :
    (∀ (gate : Table → Run σ Table), (∀ t, t.Covers → gate t = pure t) → ∀ active,
      c.toDispatcher.evalGated (d.evaluator c.procedures) gate op active = op.eval c d active) ∧
    (∀ j k t, (op.run c d).run j = .ok t k → t.Covers ∧ t.InGrid ∧ t.NamesInHead) ∧
    (builtinProcedures : Procedures σ).KeepCovers := by
  refine ⟨fun gate hgate active => (Dispatcher.evalGated_covered hc hgate hop).eq,
    fun j k t hrun => ?_, builtinProcedures_keepCovers⟩
  have hcovers : Run.Yields Table.Covers (op.eval c d d.defaultGraph) :=
    (Dispatcher.evalGated_covered hc (fun _ _ => rfl) hop).covers
  have ht := hcovers j t k (eval_eq_ok_of_run hrun)
  exact ⟨ht, ht.inGrid, ht.namesInHead⟩

/-- The heading of a union gets a variable from the second row that a service sends. An evaluation
that refuses tables whose headings lack a variable refuses none. -/
theorem covers_of_run_answered :
    let x : Var := ⟨"x"⟩
    let y : Var := ⟨"y"⟩
    let services : Services Unit := fun _ _ _ =>
      pure (.ok [.ok (.single x (.blank "b")), .ok (.single y (.blank "c"))])
    let c : Context Unit := ⟨⟨services, {}⟩, builtinProcedures⟩
    let op : Op :=
      .union (.table ⟨[x], [.single x (.blank "a")]⟩) (.service (.iri ⟨"s"⟩) .null false)
    let refuse (t : Table) : Run Unit Table :=
      if t.Covers then pure t else throw (.execution "missing variable")
    c.procedures.KeepCovers ∧ op.CoversTables ∧
      (∀ active, c.toDispatcher.evalGated (Dataset.empty.evaluator c.procedures) refuse op active =
        op.eval c .empty active) ∧
      ∃ t k, (op.run c .empty).run (.start ()) = .ok t k ∧ t.vars = [x, y] ∧ t.rows.length = 3 ∧
        t.InGrid ∧ t.NamesInHead := by
  intro x y services c op refuse
  have hop : op.CoversTables := by
    have hat : ∀ o depth, op.At 1 o depth → ∀ t, o = .table t → t.Covers := by
      refine forall_at_of_operands nofun fun o ho => ?_
      rcases List.mem_pair.1 ho with rfl | rfl
      · refine forall_at_of_operands (fun t ht => ?_) nofun
        obtain rfl := Op.table.inj ht
        decide
      · exact forall_at_of_operands nofun nofun
    exact fun t depth ht => hat _ depth ht t rfl
  obtain ⟨hgated, hrun, hc⟩ := covers_of_run c builtinProcedures_keepCovers .empty op hop
  have hcheck : op.check c.config.maxDepth = .ok () := by
    simp [check, checkPending, fault?, operands, c, op]
  obtain ⟨t, k, ht, hvars, hrows⟩ : ∃ t k, (op.run c .empty).run (.start ()) = .ok t k ∧
      t.vars = [x, y] ∧ t.rows.length = 3 := by
    rw [run_eq_eval hcheck]
    simp only [eval_eq_step, Dispatcher.step, op]
    refine ⟨_, _, rfl, ?_, ?_⟩ <;> decide
  obtain ⟨-, hgrid, hnames⟩ := hrun _ k t ht
  have hrefuse (t : Table) (ht : t.Covers) : refuse t = pure t := if_pos ht
  exact ⟨hc, hop, hgated refuse hrefuse, t, k, ht, hvars, hrows, hgrid, hnames⟩

end Op

end GraphAlgebra
