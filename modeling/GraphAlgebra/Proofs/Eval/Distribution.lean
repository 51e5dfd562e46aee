import GraphAlgebra.Proofs.Eval.GraphScope
import GraphAlgebra.Proofs.Eval.Purity
import GraphAlgebra.Proofs.Except
import Mathlib.Data.List.Perm.Basic
/-!
# Joins and unions inside and outside a graph operator

A graph operator may be moved from a join or a union to its operands, if the collaborators of the
evaluation have no memory. Over a variable the operands are then evaluated in all graphs before they
are joined, and the rows of different graphs have no merges because they bind the variable to
different names. Main statement: `Dispatcher.graph_distributes`.
-/

namespace GraphAlgebra

variable {σ : Type}

/-- What a combination of two tables gives, where either of them may be missing. -/
def combineOutcomes (f : Table → Table → Table) (x y : Except Error Table) :
    Except Error Table := do
  let t ← x
  let u ← y
  pure (f t u)

theorem combineOutcomes_eq_ok_iff {f : Table → Table → Table} {x y : Except Error Table}
    {v : Table} : combineOutcomes f x y = .ok v ↔ ∃ t u, x = .ok t ∧ y = .ok u ∧ f t u = v := by
  simp [combineOutcomes, pure, Except.pure]

theorem exists_combineOutcomes_eq_ok_iff {f : Table → Table → Table} {x y : Except Error Table} :
    (∃ t, combineOutcomes f x y = .ok t) ↔ (∃ t, x = .ok t) ∧ ∃ u, y = .ok u := by
  simp only [combineOutcomes_eq_ok_iff]
  constructor
  · rintro ⟨_, t, u, ht, hu, -⟩
    exact ⟨⟨t, ht⟩, u, hu⟩
  · rintro ⟨⟨t, ht⟩, u, hu⟩
    exact ⟨_, t, u, ht, hu, rfl⟩

namespace Table

theorem rows_join_single (t : Table) (v : Var) (name : Term) :
    (t.join (.single v name)).rows = t.rows.filterMap (·.merge? (.single v name)) := by
  change (t.rows.flatMap fun a => [Binding.single v name].filterMap a.merge?) = _
  induction t.rows with
  | nil => rfl
  | cons a rows ih =>
      rw [List.flatMap_cons, ih, List.filterMap_cons, List.filterMap_cons]
      cases a.merge? (.single v name) <;> rfl

theorem rows_join_join_single (t u : Table) (v : Var) (name : Term) :
    ((t.join u).join (.single v name)).rows =
      ((t.join (.single v name)).join (u.join (.single v name))).rows := by
  have hjoin (t u : Table) : (t.join u).rows = t.rows.flatMap fun a => u.rows.filterMap a.merge? :=
    rfl
  rw [rows_join_single, hjoin, hjoin, rows_join_single, rows_join_single]
  simp only [List.filterMap_flatMap, List.filterMap_filterMap]
  induction t.rows with
  | nil => rfl
  | cons a rows ih =>
      rw [List.flatMap_cons, ih, List.filterMap_cons]
      simp only [Binding.merge?_bind_merge?]
      cases a.merge? (.single v name) with
      | none => simp
      | some a' => rfl

theorem rows_union_join_single (t u : Table) (v : Var) (name : Term) :
    ((t.union u).join (.single v name)).rows =
      (t.join (.single v name)).rows ++ (u.join (.single v name)).rows := by
  simp only [rows_join_single]
  exact List.filterMap_append

theorem get?_of_mem_join_single {t : Table} {v : Var} {name : Term} {m : Binding}
    (h : m ∈ (t.join (.single v name)).rows) : m.get? v = some name := by
  obtain ⟨a, -, b, hb, hm⟩ := mem_join_iff.1 h
  obtain rfl := List.mem_singleton.1 hb
  exact (Binding.isUnion_single_iff.1 hm).1

/-- Rows with different names for their graphs have no merge, so tables over several graphs are
joined graph by graph. -/
theorem rows_join_of_named {names : List Term} (hnames : names.Nodup) {v : Var}
    {f g : Term → List Binding} (hf : ∀ name ∈ names, ∀ m ∈ f name, m.get? v = some name)
    (hg : ∀ name ∈ names, ∀ m ∈ g name, m.get? v = some name) {t u : Table}
    (ht : t.rows = names.flatMap f) (hu : u.rows = names.flatMap g) :
    (t.join u).rows =
      names.flatMap fun name => (f name).flatMap fun a => (g name).filterMap a.merge? := by
  change (t.rows.flatMap fun a => u.rows.filterMap a.merge?) = _
  rw [ht, hu, List.flatMap_assoc]
  refine List.flatMap_congr fun name hname => List.flatMap_congr fun a ha => ?_
  -- Only rows of the same graph have merges with a row, and those are the block of its name.
  have hkeys : (names.map id).Nodup := by rwa [List.map_id]
  have hblock : (names.flatMap g).filter (fun b => b.get? v = some name) = g name :=
    filter_flatMap_of_key hkeys hg hname
  rw [← hblock, List.filterMap_filter]
  refine List.filterMap_congr fun b hb => ?_
  split
  · rfl
  next hne =>
    obtain ⟨name', hname', hb⟩ := List.mem_flatMap.1 hb
    have hv : b.get? v = some name' := hg name' hname' b hb
    cases hm : a.merge? b with
    | none => rfl
    | some m =>
        have heq : name = name' :=
          (Binding.merge?_eq_some_iff.1 hm).agree v _ _ (hf name hname a ha) hv
        exact absurd (by rw [hv, heq]; exact decide_eq_true rfl) hne

end Table

namespace Dataset

variable {d : Dataset} {v : Var} {outcome : Graph → Except Error Table}

/-- One more graph: what comes of it, joined with its name, below what there is so far. -/
def addOutcome (d : Dataset) (v : Var) (outcome : Graph → Except Error Table) (done : Table)
    (name : Term) : Except Error Table :=
  match d.graph? name with
  | none => .ok done
  | some g => do
      let t ← outcome g
      pure (done.union (t.join (.single v name)))

def inGraph (d : Dataset) (p : TermPattern) (outcome : Graph → Except Error Table) :
    Except Error Table :=
  match p with
  | .term name =>
      match d.graph? name with
      | some g => outcome g
      | none => .ok .empty
  | .var v => d.names.foldlM (d.addOutcome v outcome) .empty

theorem exists_addOutcome_eq_ok_iff {done : Table} {name : Term} {g : Graph}
    (hg : d.graph? name = some g) :
    (∃ t, d.addOutcome v outcome done name = .ok t) ↔ ∃ t, outcome g = .ok t := by
  simp [addOutcome, hg, pure, Except.pure]

theorem exists_inGraph_var_eq_ok_iff :
    (∃ t, d.inGraph (.var v) outcome = .ok t) ↔
      ∀ name ∈ d.names, ∀ g, d.graph? name = some g → ∃ t, outcome g = .ok t := by
  have hfold (l : List Term) (done : Table) (hl : ∀ name ∈ l, name ∈ d.names) :
      (∃ t, l.foldlM (d.addOutcome v outcome) done = .ok t) ↔
        ∀ name ∈ l, ∀ g, d.graph? name = some g → ∃ t, outcome g = .ok t := by
    induction l generalizing done with
    | nil => simp [pure, Except.pure]
    | cons name l ih =>
        obtain ⟨hname, hl⟩ := List.forall_mem_cons.1 hl
        obtain ⟨g, hg⟩ := Option.isSome_iff_exists.1 (isSome_graph?_of_mem_names hname)
        rw [List.foldlM_cons, List.forall_mem_cons]
        constructor
        · rintro ⟨t, h⟩
          obtain ⟨done', hdone, h⟩ := bind_eq_ok_iff.1 h
          refine ⟨fun g' hg' => ?_, (ih done' hl).1 ⟨t, h⟩⟩
          exact (exists_addOutcome_eq_ok_iff hg').1 ⟨done', hdone⟩
        · rintro ⟨hfirst, hrest⟩
          obtain ⟨done', hdone⟩ := (exists_addOutcome_eq_ok_iff hg).2 (hfirst g hg)
          obtain ⟨t, h⟩ := (ih done' hl).2 hrest
          exact ⟨t, bind_eq_ok_iff.2 ⟨done', hdone, h⟩⟩
  exact hfold d.names .empty fun _ h => h

theorem rows_inGraph_var {t : Table} (h : d.inGraph (.var v) outcome = .ok t)
    {tables : Term → Table}
    (htables : ∀ name ∈ d.names, ∃ g, d.graph? name = some g ∧ outcome g = .ok (tables name)) :
    t.rows = d.names.flatMap fun name => ((tables name).join (.single v name)).rows := by
  have hfold (l : List Term) (done : Table) (hl : ∀ name ∈ l, name ∈ d.names)
      (h : l.foldlM (d.addOutcome v outcome) done = .ok t) :
      t.rows =
        done.rows ++ l.flatMap fun name => ((tables name).join (.single v name)).rows := by
    induction l generalizing done with
    | nil =>
        obtain rfl := Except.ok.inj h
        simp
    | cons name l ih =>
        obtain ⟨hname, hl⟩ := List.forall_mem_cons.1 hl
        obtain ⟨g, hg, ht⟩ := htables name hname
        have hadd : d.addOutcome v outcome done name =
            .ok (done.union ((tables name).join (.single v name))) := by
          rw [addOutcome, hg]
          simp only [ht]
          rfl
        rw [List.foldlM_cons, hadd] at h
        rw [ih _ hl h, List.flatMap_cons, ← List.append_assoc]
        rfl
  exact hfold d.names .empty (fun _ h => h) h

/-- Two tables have a combination in a graph exactly if they have one outside of it. -/
theorem exists_inGraph_combineOutcomes_iff (f : Table → Table → Table) (p : TermPattern)
    (x y : Graph → Except Error Table) :
    (∃ t, d.inGraph p (fun g => combineOutcomes f (x g) (y g)) = .ok t) ↔
      ∃ t, combineOutcomes f (d.inGraph p x) (d.inGraph p y) = .ok t := by
  cases p with
  | term name =>
      rw [exists_combineOutcomes_eq_ok_iff]
      simp only [inGraph]
      cases d.graph? name with
      | none => simp
      | some g => exact exists_combineOutcomes_eq_ok_iff
  | var v =>
      rw [exists_combineOutcomes_eq_ok_iff]
      simp only [exists_inGraph_var_eq_ok_iff, exists_combineOutcomes_eq_ok_iff]
      constructor
      · intro h
        exact ⟨fun name hname g hg => (h name hname g hg).1,
          fun name hname g hg => (h name hname g hg).2⟩
      · rintro ⟨hx, hy⟩ name hname g hg
        exact ⟨hx name hname g hg, hy name hname g hg⟩

/-- Over a variable, a combination in all graphs and one of what is found in all graphs have their
rows from the same tables of the graphs. -/
theorem exists_tables_of_inGraph_var {f : Table → Table → Table} {x y : Graph → Except Error Table}
    {t w : Table} (hin : d.inGraph (.var v) (fun g => combineOutcomes f (x g) (y g)) = .ok t)
    (hout : combineOutcomes f (d.inGraph (.var v) x) (d.inGraph (.var v) y) = .ok w) :
    ∃ (a b : Term → Table) (t' u' : Table), f t' u' = w ∧
      (t'.rows = d.names.flatMap fun name => ((a name).join (.single v name)).rows) ∧
      (u'.rows = d.names.flatMap fun name => ((b name).join (.single v name)).rows) ∧
      t.rows = d.names.flatMap fun name => ((f (a name) (b name)).join (.single v name)).rows := by
  obtain ⟨t', u', ht', hu', hw⟩ := combineOutcomes_eq_ok_iff.1 hout
  have htables (name : Term) : ∃ a b : Table, name ∈ d.names →
      ∃ g, d.graph? name = some g ∧ x g = .ok a ∧ y g = .ok b := by
    by_cases hname : name ∈ d.names
    · obtain ⟨g, hg⟩ := Option.isSome_iff_exists.1 (isSome_graph?_of_mem_names hname)
      obtain ⟨a, ha⟩ := exists_inGraph_var_eq_ok_iff.1 ⟨t', ht'⟩ name hname g hg
      obtain ⟨b, hb⟩ := exists_inGraph_var_eq_ok_iff.1 ⟨u', hu'⟩ name hname g hg
      exact ⟨a, b, fun _ => ⟨g, hg, ha, hb⟩⟩
    · exact ⟨.empty, .empty, fun h => absurd h hname⟩
  choose a b hab using htables
  refine ⟨a, b, t', u', hw, rows_inGraph_var ht' fun name hname => ?_,
    rows_inGraph_var hu' fun name hname => ?_, rows_inGraph_var hin fun name hname => ?_⟩
  all_goals obtain ⟨g, hg, ha, hb⟩ := hab name hname
  · exact ⟨g, hg, ha⟩
  · exact ⟨g, hg, hb⟩
  · exact ⟨g, hg, combineOutcomes_eq_ok_iff.2 ⟨_, _, ha, hb, rfl⟩⟩

theorem rows_inGraph_term {f : Table → Table → Table} (hf : (f .empty .empty).rows = [])
    {name : Term} {x y : Graph → Except Error Table} {t u : Table}
    (hin : d.inGraph (.term name) (fun g => combineOutcomes f (x g) (y g)) = .ok t)
    (hout : combineOutcomes f (d.inGraph (.term name) x) (d.inGraph (.term name) y) = .ok u) :
    t.rows = u.rows := by
  simp only [inGraph] at hin hout
  cases hg : d.graph? name with
  | none =>
      rw [hg] at hin hout
      obtain rfl := Except.ok.inj hin
      obtain rfl := Except.ok.inj hout
      exact hf.symm
  | some g =>
      rw [hg] at hin hout
      rw [Except.ok.inj (hin.symm.trans hout)]

theorem rows_inGraph_join {p : TermPattern} {x y : Graph → Except Error Table} {t u : Table}
    (hin : d.inGraph p (fun g => combineOutcomes .join (x g) (y g)) = .ok t)
    (hout : combineOutcomes .join (d.inGraph p x) (d.inGraph p y) = .ok u) : t.rows = u.rows := by
  cases p with
  | term name => exact rows_inGraph_term rfl hin hout
  | var v =>
      obtain ⟨a, b, t', u', rfl, ht', hu', ht⟩ := exists_tables_of_inGraph_var hin hout
      have hnames : d.names.Nodup := d.named.nodup_map_key
      rw [ht, Table.rows_join_of_named hnames (fun name _ m hm => Table.get?_of_mem_join_single hm)
        (fun name _ m hm => Table.get?_of_mem_join_single hm) ht' hu']
      exact List.flatMap_congr fun name _ => Table.rows_join_join_single (a name) (b name) v name

theorem rows_inGraph_union {p : TermPattern} {x y : Graph → Except Error Table} {t u : Table}
    (hin : d.inGraph p (fun g => combineOutcomes .union (x g) (y g)) = .ok t)
    (hout : combineOutcomes .union (d.inGraph p x) (d.inGraph p y) = .ok u) :
    t.rows.Perm u.rows ∧ ∀ name, p = .term name → t.rows = u.rows := by
  cases p with
  | term name =>
      have hrows : t.rows = u.rows := rows_inGraph_term rfl hin hout
      exact ⟨.of_eq hrows, fun _ _ => hrows⟩
  | var v =>
      obtain ⟨a, b, t', u', rfl, ht', hu', ht⟩ := exists_tables_of_inGraph_var hin hout
      refine ⟨?_, nofun⟩
      have hunion : (t'.union u').rows = t'.rows ++ u'.rows := rfl
      rw [ht, hunion, ht', hu']
      simp only [Table.rows_union_join_single]
      exact (List.flatMap_append_perm _ _ _).symm

end Dataset

theorem Dispatcher.outcome_inGraph {c : Context σ} {d : Dataset} {active : Graph}
    {body : Graph → Run σ Table} (h : ∀ g, (body g).Steady) (p : TermPattern) (j : Journal σ) :
    (inGraph (d.evaluator c.procedures active) p body).outcome j =
      d.inGraph p fun g => (body g).outcome j := by
  cases p with
  | term name =>
      simp only [inGraph, Dataset.evaluator, pure_bind, Dataset.inGraph]
      cases d.graph? name <;> rfl
  | var v =>
      refine (Run.Steady.outcome_foldlM (graphStep_steady h v) d.names .empty j).trans ?_
      rw [Dataset.inGraph]
      congr 1
      funext done name
      simp only [graphStep, Dataset.evaluator, pure_bind, Dataset.addOutcome]
      cases d.graph? name with
      | none => rfl
      | some g => exact Run.Steady.outcome_bind (fun t => .pure _) j

/-- Operators `two` that combine the tables of two operands by `f`. -/
structure Op.Combines (two : Op → Op → Op) (f : Table → Table → Table) : Prop where
  operands : ∀ l r, (two l r).operands = [l, r]
  eval : ∀ {σ : Type} (c : Context σ) (d : Dataset) (active : Graph) (l r : Op),
    (two l r).eval c d active = (do
      Run.tick
      let t ← l.eval c d active
      let u ← r.eval c d active
      pure (f t u))
  ne_extension : ∀ l r name sub, two l r ≠ .extension name sub

namespace Op

theorem combines_join : Combines .join .join where
  operands _ _ := rfl
  eval c d active l r := eval_eq_step c d active (.join l r)
  ne_extension := nofun

theorem combines_union : Combines .union .union where
  operands _ _ := rfl
  eval c d active l r := eval_eq_step c d active (.union l r)
  ne_extension := nofun

variable {c : Context σ} {d : Dataset} {active : Graph} {two : Op → Op → Op}
  {f : Table → Table → Table}

/-- The operators that are reached from a tree at the depth `top` have no fault. -/
def Sound (limit top : Nat) (root : Op) : Prop :=
  ∀ o depth, At root top o depth → depth ≤ limit ∧ ∀ name sub, o ≠ .extension name sub

theorem sound_graph_iff {limit top : Nat} {p : TermPattern} {sub : Op} :
    Sound limit top (.graph p sub) ↔ top ≤ limit ∧ Sound limit (top + 1) sub := by
  unfold Sound
  rw [forall_at_iff, and_assoc]
  simp [operands]

theorem Combines.sound_iff (h : Combines two f) {limit top : Nat} {l r : Op} :
    Sound limit top (two l r) ↔
      top ≤ limit ∧ Sound limit (top + 1) l ∧ Sound limit (top + 1) r := by
  unfold Sound
  rw [forall_at_iff, and_assoc, h.operands]
  simp [h.ne_extension]

theorem Combines.check_graph_iff (h : Combines two f) (limit : Nat) (p : TermPattern) (l r : Op) :
    (Op.graph p (two l r)).check limit = .ok () ↔
      (two (.graph p l) (.graph p r)).check limit = .ok () := by
  have hsound (op : Op) : op.check limit = .ok () ↔ op.Sound limit 1 := check_eq_ok_iff
  rw [hsound, hsound, sound_graph_iff, h.sound_iff, h.sound_iff, sound_graph_iff, sound_graph_iff]
  tauto

theorem Combines.outcome_eval (h : Combines two f) (hc : c.Pure) (l r : Op) (j : Journal σ) :
    ((two l r).eval c d active).outcome j =
      combineOutcomes f ((l.eval c d active).outcome j) ((r.eval c d active).outcome j) := by
  have hright (t : Table) : Run.Steady (do let u ← r.eval c d active; pure (f t u)) :=
    (r.eval_steady hc d active).bind_pure (f t)
  rw [h.eval, Run.Steady.outcome_tick ((l.eval_steady hc d active).bind hright),
    Run.Steady.outcome_bind hright]
  simp only [Run.Steady.outcome_bind fun u => Run.Steady.pure (f _ u)]
  rfl

theorem outcome_eval_graph (hc : c.Pure) (p : TermPattern) (sub : Op) (j : Journal σ) :
    (Op.eval c d active (.graph p sub)).outcome j =
      d.inGraph p fun g => (sub.eval c d g).outcome j := by
  have hsub (g : Graph) : (sub.eval c d g).Steady := sub.eval_steady hc d g
  have heval : Op.eval c d active (.graph p sub) = (do
      Run.tick
      Dispatcher.inGraph (d.evaluator c.procedures active) p fun g => sub.eval c d g) :=
    eval_eq_step c d active (.graph p sub)
  rw [heval, Run.Steady.outcome_tick (Dispatcher.inGraph_steady hsub p),
    Dispatcher.outcome_inGraph hsub]

end Op

namespace Dispatcher

variable {c : Context σ} {d : Dataset} {active : Graph} {two : Op → Op → Op}
  {f : Table → Table → Table}

theorem outcome_run_eq_ok_iff {op : Op} {j : Journal σ} {t : Table} :
    (c.toDispatcher.run (d.evaluator c.procedures) op active).outcome j = .ok t ↔
      op.check c.config.maxDepth = .ok () ∧ (op.eval c d active).outcome j = .ok t := by
  cases h : op.check c.config.maxDepth with
  | error e =>
      have hrun : (c.toDispatcher.run (d.evaluator c.procedures) op active).outcome j =
          .error e := by
        rw [run, h]
        rfl
      simp [hrun]
  | ok u =>
      rw [run_eq_eval h]
      exact (and_iff_right rfl).symm

/-- A combination in a graph operator and one of graph operators match, in the way in which the
tables of graphs do. -/
theorem matches_graph (h : Op.Combines two f) (hc : c.Pure) (d : Dataset) (active : Graph)
    (p : TermPattern) (l r : Op) {related : Table → Table → Prop}
    (hrelated : ∀ (x y : Graph → Except Error Table) (t u : Table),
      d.inGraph p (fun g => combineOutcomes f (x g) (y g)) = .ok t →
      combineOutcomes f (d.inGraph p x) (d.inGraph p y) = .ok u → related t u) :
    Run.Matches related
      (c.toDispatcher.run (d.evaluator c.procedures) (.graph p (two l r)) active)
      (c.toDispatcher.run (d.evaluator c.procedures) (two (.graph p l) (.graph p r)) active) := by
  refine (run_steady hc d _ active).matches_of_outcome fun j => ?_
  have heval (g : Graph) : ((two l r).eval c d g).outcome j =
      combineOutcomes f ((l.eval c d g).outcome j) ((r.eval c d g).outcome j) :=
    h.outcome_eval hc l r j
  simp only [outcome_run_eq_ok_iff, h.check_graph_iff, Op.outcome_eval_graph hc, heval,
    h.outcome_eval hc]
  constructor
  · simp only [exists_and_left, Dataset.exists_inGraph_combineOutcomes_iff]
  · rintro t u ⟨-, ht⟩ ⟨-, hu⟩
    exact hrelated _ _ t u ht hu

/-- A graph operator may be moved from a join or a union to its operands. One tree has a table
exactly if the other has one. A join then has the same rows in the same order; a union has the same
rows, and in the same order if the graph is not a variable. -/
theorem graph_distributes (c : Context σ) (hc : c.Pure) (d : Dataset) (active : Graph)
    (p : TermPattern) (l r : Op) :
    let run (op : Op) := c.toDispatcher.run (d.evaluator c.procedures) op active
    Run.Matches (fun t u => t.rows = u.rows)
      (run (.graph p (.join l r))) (run (.join (.graph p l) (.graph p r))) ∧
    Run.Matches (fun t u => t.rows.Perm u.rows ∧ ∀ name, p = .term name → t.rows = u.rows)
      (run (.graph p (.union l r))) (run (.union (.graph p l) (.graph p r))) := by
  constructor
  · exact matches_graph Op.combines_join hc d active p l r
      fun _ _ _ _ => Dataset.rows_inGraph_join
  · exact matches_graph Op.combines_union hc d active p l r
      fun _ _ _ _ => Dataset.rows_inGraph_union

def countingServices : Services Nat := fun _ _ _ => do
  modify (· + 1)
  pure (.ok [.ok (.single ⟨"o"⟩ (.blank "x"))])

/-- The service answers in both graphs, and only one of them has what it says about itself. -/
theorem graph_distributes_countingServices :
    let c : Context Nat := ⟨⟨countingServices, {}⟩, builtinProcedures⟩
    let v : Var := ⟨"g"⟩
    let pattern : Op := .bgp [⟨.var v, .term (.iri ⟨"p"⟩), .var ⟨"o"⟩⟩]
    let service : Op := .service (.iri ⟨"s"⟩) .null false
    let run (op : Op) :=
      c.toDispatcher.run (selfNaming.evaluator c.procedures) op selfNaming.defaultGraph
    c.Pure ∧ ∃ t u k k',
      (run (.graph (.var v) (.join pattern service))).run (.start 0) = .ok t k ∧
      (run (.join (.graph (.var v) pattern) (.graph (.var v) service))).run (.start 7) = .ok u k' ∧
      t.rows = u.rows ∧ u.rows = [(Binding.single v (.iri ⟨"a"⟩)).set ⟨"o"⟩ (.blank "x")] := by
  intro c v pattern service run
  have hc : c.Pure := ⟨fun _ _ _ => ⟨_, fun _ => rfl⟩, builtinProcedures_pure⟩
  have hpattern (g : Graph) : (pattern.eval c selfNaming g).outcome (.start 0) =
      .ok (g.matchPattern [⟨.var v, .term (.iri ⟨"p"⟩), .var ⟨"o"⟩⟩]) := by
    rw [Op.eval_eq_step]
    rfl
  have hservice (g : Graph) : (service.eval c selfNaming g).outcome (.start 0) =
      .ok (.ofRows [] [.single ⟨"o"⟩ (.blank "x")]) := by
    rw [Op.eval_eq_step]
    rfl
  have hcheck : (Op.graph (.var v) (.join pattern service)).check c.config.maxDepth = .ok () := by
    simp [Op.check, Op.checkPending, Op.fault?, Op.operands, c, pattern, service]
  have heval : (Op.eval c selfNaming selfNaming.defaultGraph
      (.graph (.var v) (.join pattern service))).outcome (.start 0) =
      .ok (.ofRows [v, ⟨"o"⟩] [(Binding.single v (.iri ⟨"a"⟩)).set ⟨"o"⟩ (.blank "x")]) := by
    rw [Op.outcome_eval_graph hc]
    simp only [Op.combines_join.outcome_eval hc, hpattern, hservice]
    decide
  obtain ⟨k, ht⟩ := Run.outcome_eq_ok_iff.1 (outcome_run_eq_ok_iff.2 ⟨hcheck, heval⟩)
  obtain ⟨hexists, hrows⟩ := (graph_distributes c hc selfNaming selfNaming.defaultGraph (.var v)
    pattern service).1 (.start 0) (.start 7)
  obtain ⟨u, k', hu⟩ := hexists.1 ⟨_, k, ht⟩
  have heq := hrows _ u k k' ht hu
  exact ⟨hc, _, u, k, k', ht, hu, heq, heq.symm⟩

end Dispatcher

end GraphAlgebra
