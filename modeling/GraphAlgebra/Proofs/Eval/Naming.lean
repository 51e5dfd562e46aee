import GraphAlgebra.Proofs.Eval.GraphScope
import GraphAlgebra.Proofs.Rdf.Quads
/-!
# Names and the graphs they denote

A graph operator over a variable takes the names of the named graphs and looks each of them up. It
finds the named graphs if the names denote them (`Dataset.NamesDenote`), for which none of them may
be the reserved name. A dataset that is built by updates has such names exactly if no update makes a
named graph under the reserved name (`Dataset.namesDenote_ofUpdates_iff`). An insertion of a quad
never does, but the other updates may (`Dataset.not_namesDenote_reserved`).
-/

namespace GraphAlgebra

variable {σ : Type}

/-- One more named graph: what a computation makes of it, joined with its name, below what there is
so far. -/
def Dispatcher.namedStep (v : Var) (body : Graph → Run σ Table) (done : Table)
    (entry : Term × Graph) : Run σ Table := do
  let t ← body entry.2
  pure (done.union (t.join (.single v entry.1)))

inductive Update where
  | insert (q : Quad)
  | insertNamed (name : Term) (t : Triple)
  | setNamed (name : Term) (g : Graph)

def Update.target? : Update → Option Term
  | .insert q => q.placed.graph
  | .insertNamed name _ | .setNamed name _ => some name

namespace Dataset

def update (d : Dataset) : Update → Dataset
  | .insert q => d.insert q
  | .insertNamed name t => d.insertNamed name t
  | .setNamed name g => d.setNamed name g

def ofUpdates (us : List Update) : Dataset := us.foldl update empty

variable {d : Dataset} {name : Term}

theorem isSome_get?_setNamed_iff {name' : Term} {g : Graph} :
    ((d.setNamed name' g).named.get? name).isSome ↔
      name' = name ∨ (d.named.get? name).isSome := by
  rw [setNamed, SortedMap.get?_set]
  by_cases h : name = name'
  · simp [h]
  · simp [h, Ne.symm h]

theorem isSome_get?_update_iff {u : Update} :
    ((d.update u).named.get? name).isSome ↔
      u.target? = some name ∨ (d.named.get? name).isSome := by
  cases u with
  | insert q =>
      simp only [update, Update.target?, insert_eq_placed]
      cases q.placed.graph with
      | none => simp
      | some name' => simp [insertNamed, isSome_get?_setNamed_iff]
  | insertNamed name' t => simp [update, Update.target?, insertNamed, isSome_get?_setNamed_iff]
  | setNamed name' g => simp [update, Update.target?, isSome_get?_setNamed_iff]

theorem isSome_get?_ofUpdates_iff {us : List Update} :
    ((ofUpdates us).named.get? name).isSome ↔ ∃ u ∈ us, u.target? = some name := by
  have hfold (d : Dataset) : ((us.foldl update d).named.get? name).isSome ↔
      (∃ u ∈ us, u.target? = some name) ∨ (d.named.get? name).isSome := by
    induction us generalizing d with
    | nil => simp
    | cons u us ih =>
        rw [List.foldl_cons, ih, isSome_get?_update_iff, List.exists_mem_cons_iff, or_left_comm,
          or_assoc]
  rw [ofUpdates, hfold]
  exact or_iff_left nofun

theorem proper_iff : d.Proper ↔ d.named.get? (.iri Iri.defaultGraph) = none := by
  have hreserved (name : Term) : name.isDefaultGraph = true ↔ name = .iri Iri.defaultGraph :=
    beq_iff_eq
  constructor
  · intro hd
    cases hg : d.named.get? (.iri Iri.defaultGraph) with
    | none => rfl
    | some g =>
        have hname := hd _ (List.mem_map.2 ⟨_, SortedMap.get?_eq_some_iff.1 hg, rfl⟩)
        exact absurd ((hreserved _).2 rfl) (by rw [hname]; nofun)
  · intro hnone name hname
    rw [Bool.eq_false_iff]
    intro htrue
    have hsome : (d.named.get? name).isSome := SortedMap.isSome_get?_of_mem_keys hname
    rw [(hreserved name).1 htrue, hnone] at hsome
    contradiction

/-- The graph in which a quad is found by the name that it has. -/
def find? (d : Dataset) : Option Term → Option Graph
  | none => some d.defaultGraph
  | some name => d.graph? name

/-- The names of a dataset denote its named graphs. -/
structure NamesDenote (d : Dataset) : Prop where
  graph? : ∀ name ∈ d.names, d.graph? name = d.named.get? name
  reserved : d.named.get? (.iri Iri.defaultGraph) = none
  enters : ∀ {σ : Type} (procedures : Procedures σ) (active : Graph) (v : Var)
    (body : Graph → Run σ Table),
    Dispatcher.inGraph (d.evaluator procedures active) (.var v) body =
      d.named.toList.foldlM (Dispatcher.namedStep v body) Table.empty
  reaches : ∀ q ∈ d.quads, ∃ g, d.find? q.graph = some g ∧ q.triple ∈ g.toList

/-- Over names that denote named graphs a variable takes the named graphs in turn. -/
theorem Proper.inGraph_var (hd : d.Proper) (procedures : Procedures σ) (active : Graph)
    (v : Var) (body : Graph → Run σ Table) :
    Dispatcher.inGraph (d.evaluator procedures active) (.var v) body =
      d.named.toList.foldlM (Dispatcher.namedStep v body) Table.empty := by
  have hfold (l : List (Term × Graph)) (hl : ∀ entry ∈ l, entry ∈ d.named.toList) (done : Table) :
      (l.map Prod.fst).foldlM (Dispatcher.graphStep (d.evaluator procedures active) v body) done =
        l.foldlM (Dispatcher.namedStep v body) done := by
    induction l generalizing done with
    | nil => rfl
    | cons entry l ih =>
        obtain ⟨hentry, hl⟩ := List.forall_mem_cons.1 hl
        have hstep : Dispatcher.graphStep (d.evaluator procedures active) v body done entry.1 =
            Dispatcher.namedStep v body done entry := by
          simp only [Dispatcher.graphStep, Dataset.evaluator, pure_bind,
            graph?_of_mem_named hd hentry]
          rfl
        rw [List.map_cons, List.foldlM_cons, List.foldlM_cons, hstep]
        exact congrArg (_ >>= ·) (funext (ih hl))
  exact hfold d.named.toList (fun _ h => h) .empty

theorem Proper.namesDenote (hd : d.Proper) : d.NamesDenote where
  graph? name hname := by
    rw [Dataset.graph?, hd name hname]
    rfl
  reserved := proper_iff.1 hd
  enters := hd.inGraph_var
  reaches q hq := by
    obtain ⟨graph, t⟩ := q
    rw [mem_quads_iff] at hq
    cases graph with
    | none => exact ⟨_, rfl, hq⟩
    | some name =>
        simp only [graphOf, namedOrEmpty] at hq
        cases hg : d.named.get? name with
        | none =>
            rw [hg] at hq
            contradiction
        | some g =>
            rw [hg] at hq
            exact ⟨g, graph?_of_mem_named hd (SortedMap.get?_eq_some_iff.1 hg), hq⟩

/-- The names of a dataset that is built by updates denote its named graphs, and with them all quads
that are counted are found, exactly if no update has the reserved name as its target. -/
theorem namesDenote_ofUpdates_iff (us : List Update) :
    (ofUpdates us).quads.Nodup ∧ (ofUpdates us).size = (ofUpdates us).quads.length ∧
    ((ofUpdates us).NamesDenote ↔ ∀ u ∈ us, u.target? ≠ some (.iri Iri.defaultGraph)) := by
  have hnone : (ofUpdates us).named.get? (.iri Iri.defaultGraph) = none ↔
      ∀ u ∈ us, u.target? ≠ some (.iri Iri.defaultGraph) := by
    rw [← Option.not_isSome_iff_eq_none, isSome_get?_ofUpdates_iff]
    simp
  refine ⟨nodup_quads _, size_eq_length_quads _, ?_⟩
  rw [← hnone]
  constructor
  · intro h
    exact h.reserved
  · intro h
    exact (proper_iff.2 h).namesDenote

/-- A triple that is added to the named graph of the reserved name is counted, but neither in the
default graph nor where the reserved name leads. -/
theorem not_namesDenote_reserved :
    let reserved : Term := .iri Iri.defaultGraph
    let t : Triple := ⟨.iri ⟨"http://ex/a"⟩, .iri ⟨"http://ex/p"⟩, .iri ⟨"http://ex/b"⟩⟩
    let d := ofUpdates [.insertNamed reserved t]
    ¬ d.NamesDenote ∧ d.names = [reserved] ∧ d.named.get? reserved = some (Graph.empty.insert t) ∧
      d.graph? reserved = some Graph.empty ∧ d.defaultGraph = Graph.empty ∧ d.size = 1 := by
  intro reserved t d
  have hget : d.named.get? reserved = some (Graph.empty.insert t) := by decide
  refine ⟨fun h => ?_, by decide, hget, by decide, by decide, by decide⟩
  have hnone : d.named.get? reserved = none := h.reserved
  rw [hget] at hnone
  contradiction

end Dataset

end GraphAlgebra
