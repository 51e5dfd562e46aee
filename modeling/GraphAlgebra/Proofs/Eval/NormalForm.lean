import GraphAlgebra.Proofs.Eval.Yields
import GraphAlgebra.Proofs.Expr.NormalForm
/-!
# Tables in normal form

The evaluation of a tree whose literals are in normal form, over a dataset, services and procedures
that keep to it, yields tables whose literals are in normal form (`Op.eval_normal`).
-/

namespace GraphAlgebra

variable {σ α β : Type}

open Sexp (Atom)

/-! ### Operations that evaluate expressions -/

namespace Table

theorem assignOne_normal {row row' : Binding} (hrow : row.Each Term.Normal) {a : Var × Expr}
    (ha : a.2.Over Atom.Normal) (h : assignOne row a = some row') : row'.Each Term.Normal := by
  rw [assignOne] at h
  split at h
  next =>
    obtain rfl := Option.some.inj h
    exact hrow
  next t ht => exact hrow.unify? (Expr.eval_normal hrow a.2 ha t ht) h

theorem assign_normal {t : Table} (ht : t.Each Term.Normal) {as : List (Var × Expr)}
    (has : ∀ a ∈ as, a.2.Over Atom.Normal) : (t.assign as).Each Term.Normal := by
  have hfold {row row' : Binding} (hrow : row.Each Term.Normal)
      (h : as.foldlM assignOne row = some row') : row'.Each Term.Normal := by
    induction as generalizing row with
    | nil =>
        obtain rfl := Option.some.inj h
        exact hrow
    | cons a as ih =>
        obtain ⟨ha, has⟩ := List.forall_mem_cons.1 has
        rw [List.foldlM_cons] at h
        obtain ⟨row₁, hrow₁, h⟩ := Option.bind_eq_some_iff.1 h
        exact ih has (assignOne_normal hrow ha hrow₁) h
  intro row' hrow'
  obtain ⟨row, hrow, h⟩ := List.mem_filterMap.1 hrow'
  exact hfold (ht row hrow) h

structure Group.Normal (g : Group) : Prop where
  key : ∀ o ∈ g.key, ∀ t ∈ o, Term.Normal t
  rows : ∀ row ∈ g.rows, row.Each Term.Normal

theorem addToGroups_normal {key : List (Option Term)} {row : Binding}
    (hkey : ∀ o ∈ key, ∀ t ∈ o, Term.Normal t) (hrow : row.Each Term.Normal) {gs : List Group}
    (hgs : ∀ g ∈ gs, g.Normal) : ∀ g ∈ addToGroups key row gs, g.Normal := by
  induction gs with
  | nil => exact List.forall_mem_singleton.2 ⟨hkey, List.forall_mem_singleton.2 hrow⟩
  | cons g gs ih =>
      obtain ⟨hg, hgs⟩ := List.forall_mem_cons.1 hgs
      rw [addToGroups]
      split
      · refine List.forall_mem_cons.2 ⟨⟨hg.key, ?_⟩, hgs⟩
        exact List.forall_mem_append.2 ⟨hg.rows, List.forall_mem_singleton.2 hrow⟩
      · exact List.forall_mem_cons.2 ⟨hg, ih hgs⟩

theorem keyValue_normal {row : Binding} (hrow : row.Each Term.Normal) {k : Var × Option Expr}
    (hk : ∀ e ∈ k.2, e.Over Atom.Normal) : ∀ t ∈ keyValue row k, t.Normal := by
  obtain ⟨v, e⟩ := k
  cases e with
  | none => exact fun t ht => hrow v t ht
  | some e => exact Expr.toOption_eval_normal hrow (hk e rfl)

theorem groups_normal {keys : List (Var × Option Expr)}
    (hkeys : ∀ k ∈ keys, ∀ e ∈ k.2, e.Over Atom.Normal) {rows : List Binding}
    (hrows : ∀ row ∈ rows, row.Each Term.Normal) : ∀ g ∈ groups keys rows, g.Normal := by
  have hfold (gs : List Group) (hgs : ∀ g ∈ gs, g.Normal) :
      ∀ g ∈ rows.foldl (fun gs row => addToGroups (keys.map (keyValue row)) row gs) gs,
        g.Normal := by
    induction rows generalizing gs with
    | nil => exact hgs
    | cons row rows ih =>
        obtain ⟨hrow, hrows⟩ := List.forall_mem_cons.1 hrows
        refine ih hrows _ (addToGroups_normal ?_ hrow hgs)
        exact List.forall_mem_map.2 fun k hk => keyValue_normal hrow (hkeys k hk)
  have hgroups := hfold [] (List.forall_mem_nil _)
  rw [groups]
  split
  · split
    · exact List.forall_mem_singleton.2 ⟨List.forall_mem_nil _, List.forall_mem_nil _⟩
    · exact List.forall_mem_nil _
  · exact hgroups

theorem keyRow_normal {keys : List (Var × Option Expr)} {g : Group} (hg : g.Normal) :
    (keyRow keys g).Each Term.Normal := by
  have hfold (l : List ((Var × Option Expr) × Option Term)) (hl : ∀ e ∈ l, ∀ t ∈ e.2, t.Normal)
      {row : Binding} (hrow : row.Each Term.Normal) :
      Binding.Each Term.Normal (l.foldl (fun row e => setIfSome row e.1.1 e.2) row) := by
    induction l generalizing row with
    | nil => exact hrow
    | cons e l ih =>
        obtain ⟨he, hl⟩ := List.forall_mem_cons.1 hl
        exact ih hl (hrow.setIfSome he)
  exact hfold _ (fun e he => hg.key e.2 (List.of_mem_zip he).2) Binding.each_empty

theorem group_normal {t : Table} (ht : t.Each Term.Normal) {keys : List (Var × Option Expr)}
    (hkeys : ∀ k ∈ keys, ∀ e ∈ k.2, e.Over Atom.Normal) {as : List (Var × Aggregator)}
    (has : ∀ a ∈ as, a.2.Over Atom.Normal) :
    YieldsOnly (Table.Each Term.Normal) (t.group keys as) := by
  have hadd {g : Group} (hg : g.Normal) (row : Binding) (hrow : row.Each Term.Normal)
      (a : Var × Aggregator) (ha : a ∈ as) :
      YieldsOnly (Binding.Each Term.Normal) (addAggregate g.rows row a) := by
    rw [addAggregate]
    split
    next => exact .error _
    next t h => exact .ok (hrow.setIfSome (Aggregator.apply_normal (has a ha) hg.rows t h))
  have hgroup (g : Group) (row : Binding) (hg : g.Normal)
      (h : groupRow keys as g = .ok row) : row.Each Term.Normal :=
    YieldsOnly.foldlM (hadd hg) (keyRow_normal hg) row h
  intro u hu
  obtain ⟨rows, hrows, h⟩ := bind_eq_ok_iff.1 hu
  obtain rfl := Except.ok.inj h
  exact forall_of_mapM_eq_ok hgroup hrows (groups_normal hkeys ht)

theorem over_normal {t : Table} (h : t.Over Atom.Normal) : t.Each Term.Normal :=
  fun row hrow _ _ ht => h.2.2 row hrow _ (Binding.get?_eq_some_iff.1 ht)

end Table

/-! ### Evaluation -/

def Op.Normal (op : Op) : Prop := op.Each fun o => o.Over Atom.Normal

theorem Op.Each.of_mem_operands {p : Op → Prop} {op o : Op} (h : op.Each p)
    (ho : o ∈ op.operands) : o.Each p := by
  cases op <;> simp only [operands, List.mem_cons, List.not_mem_nil, or_false] at ho
  case join | sequence | leftJoin | diff | union =>
    rcases ho with rfl | rfl
    · exact h.2.1
    · exact h.2.2
  all_goals
    obtain rfl := ho
    exact h.2

theorem Op.Each.of_at {p : Op → Prop} {root o : Op} {top depth : Nat} (h : root.Each p)
    (ho : root.At top o depth) : o.Each p := by
  induction ho with
  | root => exact h
  | operand _ hmem ih => exact ih.of_mem_operands hmem

/-- For trees in normal form the services send rows in normal form. -/
def Services.KeepNormal (services : Services σ) : Prop :=
  ∀ endpoint sub silent w, sub.Normal →
    YieldsOnly (fun cursor : Cursor => ∀ row, .ok row ∈ cursor → row.Each Term.Normal)
      ((services endpoint sub silent).run w).1

def Procedures.KeepNormal (procedures : Procedures σ) : Prop :=
  ∀ name p, procedures name = some p → ∀ t args w, t.Each Term.Normal →
    YieldsOnly (Table.Each Term.Normal) ((p t args).run w).1

structure Context.KeepsNormal (c : Context σ) : Prop where
  services : c.services.KeepNormal
  procedures : c.procedures.KeepNormal

namespace Dispatcher

variable {c : Context σ} {d : Dataset} {active : Graph} {p : Term → Prop}

theorem callService_normal (hc : c.KeepsNormal) (endpoint : Term) {sub : Op} (hsub : sub.Normal)
    (silent : Bool) : Run.Yields (Table.Each Term.Normal) (c.callService endpoint sub silent) :=
  callService_yields Table.each_unit fun w _ hrows row hrow =>
    hc.services endpoint sub silent w hsub _ hrows row (List.mem_map_of_mem hrow)

theorem call_normal (hc : c.KeepsNormal) {t : Table} (ht : t.Each Term.Normal) (name : Iri)
    (args : ProcedureArgs) :
    Run.Yields (Table.Each Term.Normal) (c.procedures.call t name args) :=
  call_yields fun p hp w => hc.procedures name p hp t args w ht

theorem nameTable_each (hd : d.Each p) (place : TermPattern) :
    Run.Yields (Table.Each p) (nameTable (d.evaluator c.procedures active) place) :=
  nameTable_yields Table.each_unit Table.each_empty
    (fun _ => List.forall_mem_map.2 fun name hname => Binding.each_single (hd.names name hname))
    place

theorem inGraph_each (hd : d.Each p) {body : Graph → Run σ Table}
    (h : ∀ g, g.Each p → Run.Yields (Table.Each p) (body g)) (place : TermPattern) :
    Run.Yields (Table.Each p) (inGraph (d.evaluator c.procedures active) place body) := by
  cases place with
  | term name =>
      simp only [inGraph, Dataset.evaluator, pure_bind]
      cases hg : d.graph? name with
      | none => exact .pure Table.each_empty
      | some g => exact h g (hd.graph? hg)
  | var v =>
      refine .foldlM (fun done hdone name hname => ?_) Table.each_empty
      simp only [graphStep, Dataset.evaluator, pure_bind]
      cases hg : d.graph? name with
      | none => exact .pure hdone
      | some g =>
          refine (h g (hd.graph? hg)).bind_pure fun t ht => ?_
          exact hdone.union (ht.join (Table.each_single (hd.names name hname)))

theorem step_normal (hc : c.KeepsNormal) (hd : d.Each Term.Normal)
    (hactive : active.Each Term.Normal) {op : Op} (hop : op.Normal)
    {eval : (o : Op) → o ∈ op.operands → Graph → Run σ Table}
    (h : ∀ o ho g, g.Each Term.Normal → Run.Yields (Table.Each Term.Normal) (eval o ho g)) :
    Run.Yields (Table.Each Term.Normal)
      (c.toDispatcher.step (d.evaluator c.procedures) active op eval) := by
  have two (l r : Op) (hl : l ∈ op.operands) (hr : r ∈ op.operands) {f : Table → Table → Table}
      (hf : ∀ t u, t.Each Term.Normal → u.Each Term.Normal → (f t u).Each Term.Normal) :
      Run.Yields (Table.Each Term.Normal)
        (eval l hl active >>= fun t => eval r hr active >>= fun u => pure (f t u)) :=
    (h l hl active hactive).bind fun t ht => (h r hr active hactive).bind_pure fun u => hf t u ht
  cases op with
  | bgp ps => exact .pure (hactive.matchPattern ps)
  | quads place ps =>
      simp only [step]
      split
      · exact .pure Table.each_unit
      · exact inGraph_each hd (fun g hg => .pure (hg.matchPattern ps)) place
  | procedure sub name args =>
      exact (h sub _ active hactive).bind fun t ht => call_normal hc ht name args
  | join l r => exact two l r _ _ fun t u => .join
  | sequence l r => exact two l r _ _ fun t u => .join
  | leftJoin l r es => exact two l r _ _ fun t u ht hu => ht.leftJoin hu es
  | diff l r => exact two l r _ _ fun t u ht _ => ht.diff u
  | union l r => exact two l r _ _ fun t u => .union
  | filter es sub => exact (h sub _ active hactive).bind_pure fun t ht => ht.filter es
  | graph place sub => exact inGraph_each hd (fun g hg => h sub _ g hg) place
  | service endpoint sub silent => exact callService_normal hc endpoint hop.2 silent
  | datasetNames place => exact nameTable_each hd place
  | table t => exact .pure (Table.over_normal hop)
  | extension name sub => exact .throw _
  | null => exact .pure Table.each_empty
  | list sub => exact (h sub _ active hactive).bind_pure fun t ht => ht
  | order sub cs =>
      exact (h sub _ active hactive).bind fun t ht => .ofResult fun u hu => ht.order hu
  | project sub vs => exact (h sub _ active hactive).bind_pure fun t ht => ht.project vs
  | distinct sub => exact (h sub _ active hactive).bind_pure fun t ht => ht.distinct
  | reduced sub => exact (h sub _ active hactive).bind_pure fun t ht => ht.reduced
  | slice sub start length =>
      exact (h sub _ active hactive).bind_pure fun t ht => ht.slice start length
  | assign sub as =>
      exact (h sub _ active hactive).bind_pure fun t ht =>
        Table.assign_normal ht fun a ha => (hop.1 a ha).2
  | group sub keys as =>
      exact (h sub _ active hactive).bind fun t ht => .ofResult <|
        Table.group_normal ht (fun k hk => (hop.1.1 k hk).2) fun a ha => (hop.1.2 a ha).2

end Dispatcher

theorem Op.eval_normal {c : Context σ} (hc : c.KeepsNormal) {d : Dataset}
    (hd : d.Each Term.Normal) {active : Graph} (hactive : active.Each Term.Normal) {op : Op}
    (hop : op.Normal) : Run.Yields (Table.Each Term.Normal) (op.eval c d active) := by
  induction op using operands_induction generalizing active with
  | step op ih =>
      rw [eval_eq_step]
      refine .tick (Dispatcher.step_normal hc hd hactive hop fun o ho g hg => ?_)
      exact ih o ho hg (hop.of_mem_operands ho)

theorem Engine.execute_normal {e : Engine σ} (hc : e.context.KeepsNormal)
    (hd : e.dataset.Each Term.Normal) {op : Op} (hop : op.Normal) {world world' : σ}
    {answer : Answer} (h : e.execute op world = (.ok answer, world')) :
    answer.table.Each Term.Normal := by
  obtain ⟨k, hrun, -⟩ := execute_eq_ok_iff.1 h
  exact Op.eval_normal hc hd hd.defaultGraph hop _ _ k (Op.eval_eq_ok_of_run hrun)

end GraphAlgebra
