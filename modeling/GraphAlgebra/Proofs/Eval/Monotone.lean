import GraphAlgebra.Proofs.Eval.GraphScope
import GraphAlgebra.Proofs.Rdf.Inclusion
/-!
# Trees whose rows stay when triples are added

A tree is positive if none of its operators looks at what is missing from a table or at how many
rows there are. In a dataset that includes another one a positive tree has all rows that it has in
the other, in the same order and with their repetitions. `Run.Under x y` relates two evaluations:
where `y` has a result, so has `x`, and that of `x` is below that of `y`. Main statement:
`Op.run_mono`.
-/

namespace GraphAlgebra

variable {σ α β α' β' : Type}

/-! ### Tables within tables -/

namespace Table

/-- The rows of `t` stand in their order among those of `u`. -/
def Within (t u : Table) : Prop := t.rows.Sublist u.rows

namespace Within

variable {t u t' u' : Table}

theorem refl (t : Table) : t.Within t := List.Sublist.refl t.rows

theorem empty (t : Table) : Table.empty.Within t := List.nil_sublist t.rows

theorem join (h : t.Within u) (h' : t'.Within u') : (t.join t').Within (u.join u') :=
  (List.Sublist.flatMap h _).trans (.flatMap_right _ fun a _ => h'.filterMap a.merge?)

theorem union (h : t.Within u) (h' : t'.Within u') : (t.union t').Within (u.union u') :=
  List.Sublist.append h h'

theorem union_right (h : t.Within u) (u' : Table) : t.Within (u.union u') :=
  h.trans (List.sublist_append_left u.rows u'.rows)

theorem filter (h : t.Within u) (es : List Expr) : (t.filter es).Within (u.filter es) :=
  List.Sublist.filter _ h

theorem project (h : t.Within u) (vs : List Var) : (t.project vs).Within (u.project vs) :=
  List.Sublist.map _ h

theorem assign (h : t.Within u) (as : List (Var × Expr)) : (t.assign as).Within (u.assign as) :=
  List.Sublist.filterMap _ h

end Within

end Table

/-! ### Runs below runs -/

namespace Run

/-- Where `y` has a result, `x` has one from every journal, and the two are related. -/
def Under (related : α → β → Prop) (x : Run σ α) (y : Run σ β) : Prop :=
  ∀ j b k, y.run j = .ok b k → x.Returns fun a => related a b

namespace Under

variable {related : α → β → Prop} {related' : α' → β' → Prop}

theorem pure {a : α} {b : β} (h : related a b) :
    Under related (Pure.pure a : Run σ α) (Pure.pure b : Run σ β) := by
  intro j b' k hrun
  obtain ⟨rfl, -⟩ := EStateM.Result.ok.inj hrun
  exact .pure h

theorem throw (x : Run σ α) (e : Error) :
    Under related x (MonadExcept.throw e : Run σ β) := nofun

theorem bind {x : Run σ α} {y : Run σ β} {f : α → Run σ α'} {g : β → Run σ β'}
    (h : Under related x y) (hfg : ∀ a b, related a b → Under related' (f a) (g b)) :
    Under related' (x >>= f) (y >>= g) := by
  intro j b' k hrun
  obtain ⟨b, j₁, hy, hg⟩ := run_bind_eq_ok_iff.1 hrun
  exact (h j b j₁ hy).bind fun a hab => hfg a b hab j₁ b' k hg

theorem bind_pure {x : Run σ α} {y : Run σ β} {f : α → α'} {g : β → β'}
    (h : Under related x y) (hfg : ∀ a b, related a b → related' (f a) (g b)) :
    Under related' (x >>= fun a => Pure.pure (f a)) (y >>= fun b => Pure.pure (g b)) :=
  h.bind fun a b hab => .pure (hfg a b hab)

theorem pure_left {a : α'} {g : β → β'} (h : ∀ b, related' a (g b)) (y : Run σ β) :
    Under related' (Pure.pure a : Run σ α') (y >>= fun b => Pure.pure (g b)) := by
  intro j b' k hrun
  obtain ⟨b, j₁, -, hg⟩ := run_bind_eq_ok_iff.1 hrun
  obtain ⟨rfl, -⟩ := EStateM.Result.ok.inj hg
  exact .pure (h b)

theorem tick {x : Run σ α} {y : Run σ β} (h : Under related x y) :
    Under related (do Run.tick; x) (do Run.tick; y) :=
  fun j b k hrun => (h { j with operators := j.operators + 1 } b k hrun).tick

/-- A loop over some of the elements is under a loop over all of them, if their common steps are
and the other steps keep the results related. -/
theorem foldlM {ι : Type} {f : α → ι → Run σ α} {g : β → ι → Run σ β} {l l' : List ι}
    (hl : l.Sublist l')
    (hstep : ∀ i ∈ l, ∀ a b, related a b → Under related (f a i) (g b i))
    (hskip : ∀ i a b, related a b → Under related (Pure.pure a) (g b i)) {a : α} {b : β}
    (hab : related a b) : Under related (l.foldlM f a) (l'.foldlM g b) := by
  induction hl generalizing a b with
  | slnil => exact .pure hab
  | @cons l l' i hl ih =>
      have hrest (a : α) (b : β) (hab : related a b) :
          Under related (l.foldlM f a) (l'.foldlM g b) := ih hstep hab
      rw [List.foldlM_cons, ← pure_bind a fun a => l.foldlM f a]
      exact (hskip i a b hab).bind hrest
  | @cons_cons l l' i hl ih =>
      obtain ⟨hi, hstep⟩ := List.forall_mem_cons.1 hstep
      rw [List.foldlM_cons, List.foldlM_cons]
      exact (hi a b hab).bind fun a b hab => ih hstep hab

end Under

end Run

/-! ### Evaluation -/

namespace Dispatcher

variable {c : Context σ} {d e : Dataset} {g g' : Graph}

theorem nameTable_under (hde : d.Included e) (p : TermPattern) :
    Run.Under Table.Within (nameTable (d.evaluator c.procedures g) p)
      (nameTable (e.evaluator c.procedures g') p) := by
  cases p with
  | var v => exact .pure (hde.names_sublist.map (Binding.single v))
  | term name =>
      simp only [nameTable, Dataset.evaluator, pure_bind]
      by_cases hname : name.isIri = true
      · rw [hname]
        cases hd : d.hasGraph name with
        | false =>
            cases e.hasGraph name with
            | false => exact .pure (.refl _)
            | true => exact .pure (.empty _)
        | true =>
            rw [hde.hasGraph hd]
            exact .pure (.refl _)
      · rw [Bool.not_eq_true] at hname
        rw [hname]
        exact .throw _ _

/-- A computation in the graphs of a dataset is under one in the graphs of a larger dataset, if it
is so in graphs that correspond. -/
theorem inGraph_under (hde : d.Included e) {body body' : Graph → Run σ Table}
    (h : ∀ g g' : Graph, g.toList ⊆ g'.toList → Run.Under Table.Within (body g) (body' g'))
    (p : TermPattern) :
    Run.Under Table.Within (inGraph (d.evaluator c.procedures g) p body)
      (inGraph (e.evaluator c.procedures g') p body') := by
  cases p with
  | term name =>
      simp only [inGraph, Dataset.evaluator, pure_bind]
      cases hg : d.graph? name with
      | none => exact fun _ _ _ _ => .pure (.empty _)
      | some g =>
          obtain ⟨g', hg', hsub⟩ := hde.graph? hg
          rw [hg']
          exact h g g' hsub
  | var v =>
      refine Run.Under.foldlM hde.names_sublist (fun name hname done done' hdone => ?_)
        (fun name done done' hdone => ?_) (Table.Within.refl _)
      · obtain ⟨g, hg⟩ := Option.isSome_iff_exists.1 (Dataset.isSome_graph?_of_mem_names hname)
        obtain ⟨g', hg', hsub⟩ := hde.graph? hg
        simp only [graphStep, Dataset.evaluator, pure_bind, hg, hg']
        exact (h g g' hsub).bind_pure fun t t' ht => hdone.union (ht.join (.refl _))
      · -- A graph that is missing from the smaller dataset can only add rows at the end.
        simp only [graphStep, Dataset.evaluator, pure_bind]
        cases e.graph? name with
        | none => exact .pure hdone
        | some g' => exact .pure_left (fun t => hdone.union_right _) (body' g')

end Dispatcher

namespace Op

/-- The operators of which every row of the result comes from rows of the operands, whatever other
rows there are. -/
inductive Positive : Op → Prop
  | bgp (ps : BasicPattern) : Positive (.bgp ps)
  | quads (p : TermPattern) (ps : BasicPattern) : Positive (.quads p ps)
  | graph (p : TermPattern) {sub : Op} (h : Positive sub) : Positive (.graph p sub)
  | datasetNames (p : TermPattern) : Positive (.datasetNames p)
  | table (t : Table) : Positive (.table t)
  | null : Positive .null
  | join {l r : Op} (hl : Positive l) (hr : Positive r) : Positive (.join l r)
  | sequence {l r : Op} (hl : Positive l) (hr : Positive r) : Positive (.sequence l r)
  | union {l r : Op} (hl : Positive l) (hr : Positive r) : Positive (.union l r)
  | filter (es : List Expr) {sub : Op} (h : Positive sub) : Positive (.filter es sub)
  | project {sub : Op} (h : Positive sub) (vs : List Var) : Positive (.project sub vs)
  | assign {sub : Op} (h : Positive sub) (as : List (Var × Expr)) : Positive (.assign sub as)
  | list {sub : Op} (h : Positive sub) : Positive (.list sub)

variable {c : Context σ} {d e : Dataset}

theorem eval_under_of_step {op : Op} {g g' : Graph}
    (h : Run.Under Table.Within
      (c.toDispatcher.step (d.evaluator c.procedures) g op fun o _ inner => o.eval c d inner)
      (c.toDispatcher.step (e.evaluator c.procedures) g' op fun o _ inner => o.eval c e inner)) :
    Run.Under Table.Within (op.eval c d g) (op.eval c e g') := by
  rw [eval_eq_step, eval_eq_step]
  exact h.tick

/-- A positive tree in a graph is under the same tree in a graph with more triples, over a dataset
that includes the other one. -/
theorem Positive.eval_under (hde : d.Included e) {op : Op} (hop : op.Positive) {g g' : Graph}
    (hg : g.toList ⊆ g'.toList) :
    Run.Under Table.Within (op.eval c d g) (op.eval c e g') := by
  induction hop generalizing g g' with
  | bgp ps => exact eval_under_of_step (.pure (Graph.matchPattern_sublist hg ps))
  | quads p ps =>
      refine eval_under_of_step ?_
      simp only [Dispatcher.step]
      split
      · exact .pure (.refl _)
      · refine Dispatcher.inGraph_under hde (fun g g' hsub => ?_) p
        exact .pure (Graph.matchPattern_sublist hsub ps)
  | graph p h ih =>
      exact eval_under_of_step (Dispatcher.inGraph_under hde (fun g g' hsub => ih hsub) p)
  | datasetNames p => exact eval_under_of_step (Dispatcher.nameTable_under hde p)
  | table t => exact eval_under_of_step (.pure (.refl t))
  | null => exact eval_under_of_step (.pure (.refl _))
  | join hl hr ihl ihr | sequence hl hr ihl ihr =>
      refine eval_under_of_step ((ihl hg).bind fun t u htu => ?_)
      exact (ihr hg).bind_pure fun t' u' htu' => htu.join htu'
  | union hl hr ihl ihr =>
      refine eval_under_of_step ((ihl hg).bind fun t u htu => ?_)
      exact (ihr hg).bind_pure fun t' u' htu' => htu.union htu'
  | filter es h ih => exact eval_under_of_step ((ih hg).bind_pure fun t u htu => htu.filter es)
  | project h vs ih => exact eval_under_of_step ((ih hg).bind_pure fun t u htu => htu.project vs)
  | assign h as ih => exact eval_under_of_step ((ih hg).bind_pure fun t u htu => htu.assign as)
  | list h ih => exact eval_under_of_step ((ih hg).bind_pure fun t u htu => htu)

/-- Where a positive tree has a table over a dataset, it has one over every dataset that is included
in it, and the rows of that one stand among the rows of the other, in the same order and with their
repetitions. -/
theorem run_mono (c : Context σ) {d e : Dataset} (hde : d.Included e) {op : Op} (hop : op.Positive)
    {j' k' : Journal σ} {u : Table} (hrun : (op.run c e).run j' = .ok u k') (j : Journal σ) :
    ∃ t k, (op.run c d).run j = .ok t k ∧ t.rows.Sublist u.rows := by
  cases hcheck : op.check c.config.maxDepth with
  | error err =>
      rw [run, Dispatcher.run, hcheck] at hrun
      contradiction
  | ok _ =>
      rw [run_eq_eval hcheck] at hrun ⊢
      exact hop.eval_under hde hde.defaultGraph j' u k' hrun j

def halfNaming : Dataset :=
  .ofQuads [⟨some (.iri ⟨"a"⟩), ⟨.iri ⟨"a"⟩, .iri ⟨"p"⟩, .blank "x"⟩⟩]

/-- Both names have a row in the larger dataset, and one of them has it in the smaller one. -/
theorem run_mono_halfNaming :
    let c : Context Unit := ⟨⟨noServices, {}⟩, builtinProcedures⟩
    let v : Var := ⟨"g"⟩
    let o : Var := ⟨"o"⟩
    let pattern : BasicPattern := [⟨.var v, .term (.iri ⟨"p"⟩), .var o⟩]
    let op : Op :=
      .filter [.bound o] (.join (.datasetNames (.var v)) (.graph (.var v) (.bgp pattern)))
    halfNaming.Included Dispatcher.selfNaming ∧ op.Positive ∧
      ∃ t u k k', (op.run c halfNaming).run (.start ()) = .ok t k ∧
        (op.run c Dispatcher.selfNaming).run (.start ()) = .ok u k' ∧ t.rows.Sublist u.rows ∧
        u.rows.length = 2 := by
  intro c v o pattern op
  have hde : halfNaming.Included Dispatcher.selfNaming :=
    Dataset.included_of_quads_subset (Dataset.occupied_ofQuads _) (by decide)
  have hop : op.Positive := .filter _ (.join (.datasetNames _) (.graph _ (.bgp _)))
  have hcheck : op.check c.config.maxDepth = .ok () := by
    simp [check, checkPending, fault?, operands, c, op]
  obtain ⟨u, k', hrun, hu⟩ :
      ∃ u k', (op.run c Dispatcher.selfNaming).run (.start ()) = .ok u k' ∧ u.rows.length = 2 := by
    rw [run_eq_eval hcheck]
    simp only [eval_eq_step, Dispatcher.step, op]
    refine ⟨_, _, rfl, ?_⟩
    decide
  obtain ⟨t, k, hrun', hsub⟩ := run_mono c hde hop hrun (.start ())
  exact ⟨hde, hop, t, u, k, k', hrun', hrun, hsub, hu⟩

end Op

end GraphAlgebra
