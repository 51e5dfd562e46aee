import GraphAlgebra.Proofs.Eval.Result
import GraphAlgebra.Proofs.Rdf.Matching
/-!
# A pattern in every named graph

Over a variable, a graph operator evaluates its operand in every named graph in turn and keeps what
agrees with the name of the graph (`Dispatcher.inGraph_returns_overGraphs`). Where the operand is a
pattern, the rows are the solutions that bind its variables and the graph variable, the latter to
the name of a graph in which they satisfy the pattern
(`Dataset.mem_overGraphs_matchPattern_iff`). Main statement: `Dispatcher.quads_over_variable`.
-/

namespace GraphAlgebra

variable {σ α β : Type}

namespace Dataset

/-- One more graph: its table, joined with its name, below what there is so far. -/
def addGraph (d : Dataset) (v : Var) (table : Graph → Table) (done : Table) (name : Term) : Table :=
  match d.graph? name with
  | none => done
  | some g => done.union ((table g).join (.single v name))

def overGraphs (d : Dataset) (v : Var) (table : Graph → Table) : Table :=
  d.names.foldl (d.addGraph v table) .empty

/-- No named graph has the name of the default graph. -/
def Proper (d : Dataset) : Prop := ∀ name ∈ d.names, name.isDefaultGraph = false

theorem graph?_of_mem_named {d : Dataset} (hd : d.Proper) {name : Term} {g : Graph}
    (h : (name, g) ∈ d.named.toList) : d.graph? name = some g := by
  have hname : name.isDefaultGraph = false := hd name (List.mem_map.2 ⟨_, h, rfl⟩)
  rw [graph?, hname]
  exact SortedMap.get?_eq_some_iff.2 h

theorem rows_overGraphs {d : Dataset} (hd : d.Proper) (v : Var) (table : Graph → Table) :
    (d.overGraphs v table).rows =
      d.named.toList.flatMap fun e => ((table e.2).join (.single v e.1)).rows := by
  have hfold (l : List (Term × Graph)) (hl : ∀ e ∈ l, e ∈ d.named.toList) (done : Table) :
      ((l.map Prod.fst).foldl (d.addGraph v table) done).rows =
        done.rows ++ l.flatMap fun e => ((table e.2).join (.single v e.1)).rows := by
    induction l generalizing done with
    | nil => simp
    | cons e l ih =>
        obtain ⟨he, hl⟩ := List.forall_mem_cons.1 hl
        have hadd : d.addGraph v table done e.1 =
            done.union ((table e.2).join (.single v e.1)) := by
          rw [addGraph, graph?_of_mem_named hd he]
        rw [List.map_cons, List.foldl_cons, ih hl, hadd, List.flatMap_cons, ← List.append_assoc]
        rfl
  exact hfold d.named.toList (fun _ he => he) .empty

end Dataset

namespace Dispatcher

theorem inGraph_returns_overGraphs {d : Dataset} {procedures : Procedures σ} {active : Graph}
    {body : Graph → Run σ Table} {table : Graph → Table}
    (h : ∀ g, Run.Returns (body g) (· = table g)) (v : Var) :
    Run.Returns (inGraph (d.evaluator procedures active) (.var v) body)
      (· = d.overGraphs v table) := by
  refine Run.Returns.foldlM_eq (fun done name => ?_) d.names Table.empty
  simp only [graphStep, Dataset.evaluator, pure_bind, Dataset.addGraph]
  cases d.graph? name with
  | none => exact .pure rfl
  | some g => exact (h g).bind_pure fun t ht => by rw [ht]

end Dispatcher

namespace Graph

theorem mem_matchPattern_join_single_iff {g : Graph} {ps : BasicPattern} {v : Var} {name : Term}
    {m : Binding} :
    m ∈ ((g.matchPattern ps).join (.single v name)).rows ↔
      m.get? v = some name ∧ (∀ w, (m.get? w).isSome ↔ w = v ∨ w ∈ ps.vars) ∧
        g.Satisfies ps m := by
  simp only [Table.mem_join_iff, mem_matchPattern_iff, Table.single, List.mem_singleton,
    exists_eq_left, Binding.isUnion_single_iff]
  constructor
  · rintro ⟨a, ⟨hvars, ha⟩, hv, hagree, hm⟩
    refine ⟨hv, fun w => ?_, (satisfies_congr fun w hw => ?_).1 ha⟩
    · by_cases hw : w = v
      · simp [hw, hv]
      · rw [hm w hw, hvars]
        simp [hw]
    · by_cases heq : w = v
      · obtain ⟨s, hs⟩ := Option.isSome_iff_exists.1 ((hvars w).2 hw)
        rw [hs, heq, hv, hagree s (heq ▸ hs)]
      · exact (hm w heq).symm
  · rintro ⟨hv, hvars, hm⟩
    have hget (w : Var) := m.get?_restrict ps.vars w
    refine ⟨m.restrict ps.vars, ⟨fun w => ?_, ?_⟩, hv, fun s hs => ?_, fun w hw => ?_⟩
    · rw [hget]
      by_cases hw : w ∈ BasicPattern.vars ps
      · simp [hw, hvars]
      · simp [hw]
    · exact (satisfies_congr fun w hw => by rw [hget, if_pos hw]).2 hm
    · rw [hget] at hs
      split at hs
      · exact Option.some.inj (hs.symm.trans hv)
      · contradiction
    · rw [hget]
      split
      · rfl
      next hnot =>
        have hnone : ¬ (m.get? w).isSome := by simp [hvars, hw, hnot]
        exact Option.not_isSome_iff_eq_none.1 hnone

/-- A match is known by its extension, so adding the name of a graph makes no two matches equal. -/
theorem nodup_matchPattern_join_single (g : Graph) (ps : BasicPattern) (v : Var) (name : Term) :
    ((g.matchPattern ps).join (.single v name)).rows.Nodup := by
  refine List.nodup_flatMap.2 ⟨fun a _ => ?_, ?_⟩
  · cases h : a.merge? (Binding.single v name) <;> simp [Table.single, h]
  · have hmerge {a m : Binding}
        (h : m ∈ (Table.single v name).rows.filterMap a.merge?) : m.Extends a := by
      obtain ⟨b, -, hb⟩ := List.mem_filterMap.1 h
      exact (Binding.merge?_eq_some_iff.1 hb).extends_left
    refine (g.nodup_matchPattern ps).imp_of_mem fun {a b} ha hb hne m hma hmb => hne ?_
    refine (hmerge hma).unique (hmerge hmb) fun w => ?_
    rw [(mem_matchPattern_iff.1 ha).1, (mem_matchPattern_iff.1 hb).1]

end Graph

/-- A block of a list is found again by its key, where the keys of the blocks differ. -/
theorem filter_flatMap_of_key {κ : Type} [DecidableEq κ] {l : List α} {name : α → κ}
    (hl : (l.map name).Nodup) {f : α → List β} {key : β → Option κ}
    (hkey : ∀ a ∈ l, ∀ b ∈ f a, key b = some (name a)) {a : α} (ha : a ∈ l) :
    (l.flatMap f).filter (fun b => key b = some (name a)) = f a := by
  induction l with
  | nil => contradiction
  | cons c l ih =>
      rw [List.map_cons, List.nodup_cons] at hl
      obtain ⟨hkeyc, hkeyl⟩ := List.forall_mem_cons.1 hkey
      rw [List.flatMap_cons, List.filter_append]
      rcases List.mem_cons.1 ha with rfl | ha
      · -- The first block is meant, and the names of all later blocks differ from its name.
        have hrest : (l.flatMap f).filter (fun b => key b = some (name a)) = [] := by
          simp only [List.filter_eq_nil_iff, List.mem_flatMap, decide_eq_true_eq]
          rintro b ⟨d, hd, hb⟩ hba
          have heq : name d = name a := Option.some.inj ((hkeyl d hd b hb).symm.trans hba)
          exact hl.1 (heq ▸ List.mem_map_of_mem hd)
        rw [hrest, List.append_nil, List.filter_eq_self]
        simpa using hkeyc
      · have hhead : (f c).filter (fun b => key b = some (name a)) = [] := by
          simp only [List.filter_eq_nil_iff, decide_eq_true_eq]
          intro b hb hba
          have heq : name a = name c := Option.some.inj (hba.symm.trans (hkeyc b hb))
          exact hl.1 (heq ▸ List.mem_map_of_mem ha)
        rw [hhead, List.nil_append, ih hl.2 hkeyl ha]

namespace Dataset

variable {d : Dataset} {v : Var} {ps : BasicPattern}

theorem mem_overGraphs_matchPattern_iff (hd : d.Proper) {m : Binding} :
    m ∈ (d.overGraphs v (·.matchPattern ps)).rows ↔
      (∀ w, (m.get? w).isSome ↔ w = v ∨ w ∈ ps.vars) ∧
        ∃ name g, (name, g) ∈ d.named.toList ∧ m.get? v = some name ∧ g.Satisfies ps m := by
  simp only [rows_overGraphs hd, List.mem_flatMap, Prod.exists,
    Graph.mem_matchPattern_join_single_iff]
  constructor
  · rintro ⟨name, g, hg, hv, hvars, hm⟩
    exact ⟨hvars, name, g, hg, hv, hm⟩
  · rintro ⟨hvars, name, g, hg, hv, hm⟩
    exact ⟨name, g, hg, hv, hvars, hm⟩

/-- No row comes twice, since the rows of different graphs differ in the graph variable. -/
theorem nodup_overGraphs_matchPattern (hd : d.Proper) :
    (d.overGraphs v (·.matchPattern ps)).rows.Nodup := by
  rw [rows_overGraphs hd, List.nodup_flatMap]
  refine ⟨fun e _ => e.2.nodup_matchPattern_join_single ps v e.1, ?_⟩
  have hnames : d.named.toList.Pairwise fun e e' => e.1 ≠ e'.1 :=
    List.pairwise_map.1 d.named.nodup_map_key
  refine hnames.imp fun {e e'} hne m hm hm' => hne ?_
  rw [Graph.mem_matchPattern_join_single_iff] at hm hm'
  exact Option.some.inj (hm.1.symm.trans hm'.1)

theorem rows_overGraphs_matchPattern_grouped (hd : d.Proper) :
    (d.overGraphs v (·.matchPattern ps)).rows =
      d.names.flatMap fun name =>
        (d.overGraphs v (·.matchPattern ps)).rows.filter fun m => m.get? v = some name := by
  have hnames : (d.named.toList.map Prod.fst).Nodup := d.named.nodup_map_key
  have hkey (e : Term × Graph) (_ : e ∈ d.named.toList) (m : Binding)
      (hm : m ∈ ((e.2.matchPattern ps).join (.single v e.1)).rows) : m.get? v = some e.1 :=
    (Graph.mem_matchPattern_join_single_iff.1 hm).1
  rw [rows_overGraphs hd, names, SortedMap.keys, List.flatMap_map]
  exact (List.flatMap_congr fun e he => filter_flatMap_of_key hnames hkey he).symm

/-- The named graphs alone give the tables of all named graphs. -/
theorem overGraphs_withDefaultGraph (hd : d.Proper) (g : Graph) (v : Var) (table : Graph → Table) :
    ({ d with defaultGraph := g } : Dataset).overGraphs v table = d.overGraphs v table := by
  refine List.foldl_ext _ _ _ fun done name hname => ?_
  have hdefault : name.isDefaultGraph = false := hd name hname
  simp only [addGraph, graph?, hdefault, Bool.false_eq_true, if_false]

end Dataset

namespace Dispatcher

variable {c : Context σ} {d : Dataset} {v : Var} {ps : BasicPattern}

theorem run_quads_var_returns (hps : ps ≠ []) (hdepth : 1 ≤ c.config.maxDepth) (active : Graph) :
    Run.Returns (c.toDispatcher.run (d.evaluator c.procedures) (.quads (.var v) ps) active)
      (· = d.overGraphs v (·.matchPattern ps)) := by
  have hcheck : (Op.quads (.var v) ps).check c.config.maxDepth = .ok () := by
    refine Op.check_eq_ok_of_height_le hdepth (Op.forall_at_of_operands ?_ ?_)
    all_goals simp [Op.operands]
  rw [run_eq_eval hcheck, eval, step, if_neg (by simpa using hps)]
  exact .tick (inGraph_returns_overGraphs (fun g => .pure rfl) v)

theorem run_graph_var_returns (hdepth : 2 ≤ c.config.maxDepth) (active : Graph) :
    Run.Returns (c.toDispatcher.run (d.evaluator c.procedures) (.graph (.var v) (.bgp ps)) active)
      (· = d.overGraphs v (·.matchPattern ps)) := by
  have hcheck : (Op.graph (.var v) (.bgp ps)).check c.config.maxDepth = .ok () := by
    refine Op.check_eq_ok_of_height_le hdepth (Op.forall_at_of_operands ?_ fun p hp => ?_)
    · simp
    · obtain rfl : p = .bgp ps := by simpa [Op.operands] using hp
      refine Op.forall_at_of_operands ?_ ?_ <;> simp [Op.operands]
  rw [run_eq_eval hcheck, eval, step]
  refine .tick (inGraph_returns_overGraphs (fun g => ?_) v)
  rw [eval, step]
  exact .tick (.pure rfl)

/-- A quad pattern over a variable and a graph operator over the pattern have one table, whatever
the active graph and the default graph are. Its rows are pairwise distinct. They are the solutions
that bind the graph variable and the variables of the pattern, the former to the name of a named
graph in which they satisfy the pattern. They come graph by graph in the order of the dataset. -/
theorem quads_over_variable (c : Context σ) {d : Dataset} (hd : d.Proper) (v : Var)
    {ps : BasicPattern} (hps : ps ≠ []) (hdepth : 2 ≤ c.config.maxDepth) :
    ∃ t : Table,
      (∀ g active : Graph,
        let evs := ({ d with defaultGraph := g } : Dataset).evaluator c.procedures
        Run.Returns (c.toDispatcher.run evs (.quads (.var v) ps) active) (· = t) ∧
          Run.Returns (c.toDispatcher.run evs (.graph (.var v) (.bgp ps)) active) (· = t)) ∧
      t.rows.Nodup ∧
      (∀ m : Binding, m ∈ t.rows ↔
        (∀ w, (m.get? w).isSome ↔ w = v ∨ w ∈ ps.vars) ∧
          ∃ name g, (name, g) ∈ d.named.toList ∧ m.get? v = some name ∧ g.Satisfies ps m) ∧
      t.rows = d.names.flatMap fun name => t.rows.filter fun m => m.get? v = some name := by
  refine ⟨d.overGraphs v (·.matchPattern ps), fun g active => ?_,
    Dataset.nodup_overGraphs_matchPattern hd, fun m => Dataset.mem_overGraphs_matchPattern_iff hd,
    Dataset.rows_overGraphs_matchPattern_grouped hd⟩
  rw [← Dataset.overGraphs_withDefaultGraph hd g]
  exact ⟨run_quads_var_returns hps (Nat.le_of_succ_le hdepth) active,
    run_graph_var_returns hdepth active⟩

/-- Two named graphs, of which the second one has triples about both, and a default graph. -/
def selfNaming : Dataset :=
  let triple (s o : String) : Triple := ⟨.iri ⟨s⟩, .iri ⟨"p"⟩, .blank o⟩
  .ofQuads [⟨none, triple "a" "w"⟩, ⟨some (.iri ⟨"a"⟩), triple "a" "x"⟩,
    ⟨some (.iri ⟨"b"⟩), triple "a" "y"⟩, ⟨some (.iri ⟨"b"⟩), triple "b" "z"⟩]

/-- The graph variable is the subject of the pattern, so each graph has one match: what it says
about its own name. -/
theorem quads_over_variable_selfNaming :
    let v : Var := ⟨"g"⟩
    let o : Var := ⟨"o"⟩
    let pattern : BasicPattern := [⟨.var v, .term (.iri ⟨"p"⟩), .var o⟩]
    let c : Context Unit := ⟨⟨noServices, {}⟩, fun _ => none⟩
    selfNaming.Proper ∧ pattern ≠ [] ∧ 2 ≤ c.config.maxDepth ∧
      ∃ t : Table,
        Run.Returns (c.toDispatcher.run (selfNaming.evaluator c.procedures)
          (.quads (.var v) pattern) selfNaming.defaultGraph) (· = t) ∧
        t.rows = [(Binding.single v (.iri ⟨"a"⟩)).set o (.blank "x"),
          (Binding.single v (.iri ⟨"b"⟩)).set o (.blank "z")] := by
  intro v o pattern c
  have hd : selfNaming.Proper := by
    unfold Dataset.Proper
    decide
  have hps : pattern ≠ [] := by decide
  have hdepth : 2 ≤ c.config.maxDepth := by decide
  obtain ⟨t, h, -⟩ := quads_over_variable c hd v hps hdepth
  have ht := (h selfNaming.defaultGraph selfNaming.defaultGraph).1
  refine ⟨hd, hps, hdepth, t, ht, ?_⟩
  obtain ⟨_, j, hrun, rfl⟩ := ht (.start ())
  obtain ⟨_, j', hrun', rfl⟩ := run_quads_var_returns hps (Nat.le_of_succ_le hdepth)
    selfNaming.defaultGraph (.start ())
  obtain ⟨rfl, -⟩ := EStateM.Result.ok.inj (hrun.symm.trans hrun')
  decide

end Dispatcher

end GraphAlgebra
