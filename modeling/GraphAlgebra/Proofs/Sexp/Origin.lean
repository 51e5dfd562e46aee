import GraphAlgebra.Proofs.Sexp.Reader
import GraphAlgebra.Proofs.Sexp.TokenText
/-!
# Where the leaves of a tree come from

The variables and terms of an expression or an operator are among the atoms of the form that it
is read from, so whatever holds for all atoms of the form holds for all leaves of the tree. Main
statements: `over_of_readExpr` and `ReadsOp.opOver`.
-/

namespace GraphAlgebra

namespace Sexp

variable {p : Atom → Prop}

theorem over_of_readVar {n : Node} {v : Var} (h : readVar n = .ok v) (hn : n.Each p) :
    p (.var v) := by
  unfold readVar at h
  split at h
  next =>
    obtain rfl := Except.ok.inj h
    exact hn
  next => cases h

theorem over_of_readTerm {n : Node} {t : Term} (h : readTerm n = .ok t) (hn : n.Each p) :
    p (.term t) := by
  unfold readTerm at h
  split at h
  next =>
    obtain rfl := Except.ok.inj h
    exact hn
  next => cases h

theorem over_of_readIri {n : Node} {i : Iri} (h : readIri n = .ok i) (hn : n.Each p) :
    p (.term (.iri i)) := by
  unfold readIri at h
  split at h
  next =>
    obtain rfl := Except.ok.inj h
    exact hn
  next => cases h

theorem eachAll_of_items {n : Node} {items : List Node} {what : String}
    (h : n.items what = .ok items) (hn : n.Each p) : Node.EachAll p items := by
  unfold Node.items at h
  split at h
  next =>
    obtain rfl := Except.ok.inj h
    exact hn
  next => cases h

/-- What is read from the parts of a form comes from the atoms of the form. -/
theorem forall_of_items {β : Type} {read : Node → Except Fault β} {q : β → Prop}
    (hread : ∀ n x, n.Each p → read n = .ok x → q x) {n : Node} {items : List Node} {what : String}
    {xs : List β} (hitems : n.items what = .ok items) (h : items.mapM read = .ok xs)
    (hn : n.Each p) : ∀ x ∈ xs, q x :=
  forall_of_mapM_eq_ok hread h (Node.eachAll_iff.1 (eachAll_of_items hitems hn))

theorem of_readPair {name : String} {items : List Node} {pos : Nat} {a b : Node}
    (h : readPair name items pos = .ok (a, b)) (hitems : Node.EachAll p items) :
    a.Each p ∧ b.Each p := by
  unfold readPair at h
  split at h
  next =>
    obtain ⟨rfl, rfl⟩ := Prod.mk.inj (Except.ok.inj h)
    exact ⟨hitems.1, hitems.2.1⟩
  next => cases h

/-! ### Expressions -/

theorem overAll_of_readExprs_of_forall {ns : List Node} {es : List Expr}
    (hread : ∀ n ∈ ns, ∀ e, readExpr n = .ok e → e.Over p) (h : readExprs ns = .ok es) :
    Expr.OverAll p es := by
  induction ns generalizing es with
  | nil =>
      obtain rfl := Except.ok.inj h
      exact trivial
  | cons n ns ih =>
      obtain ⟨hn, hns⟩ := List.forall_mem_cons.1 hread
      simp only [readExprs, bind_eq_ok_iff] at h
      obtain ⟨e, he, es, hes, heq⟩ := h
      obtain rfl := Except.ok.inj heq
      exact ⟨hn e he, ih hns hes⟩

theorem over_of_readExpr_cons {head : Node} {args : List Node} {pos : Nat} {e : Expr}
    (ih : ∀ n ∈ args, ∀ e, readExpr n = .ok e → e.Over p) (hargs : Node.EachAll p args)
    (h : readExpr (.list (head :: args) pos) = .ok e) : e.Over p := by
  rw [readExpr] at h
  simp only [bind_eq_ok_iff] at h
  obtain ⟨name, -, h⟩ := h
  split at h
  next => cases h
  next =>
    split at h
    next =>
      obtain ⟨e, he, rfl⟩ := map_eq_ok_iff.1 h
      exact ih _ (by simp) e he
    next => cases h
  next =>
    split at h
    next =>
      simp only [bind_eq_ok_iff] at h
      obtain ⟨l, hl, r, hr, heq⟩ := h
      obtain rfl := Except.ok.inj heq
      exact ⟨ih _ (by simp) l hl, ih _ (by simp) r hr⟩
    next => cases h
  next =>
    split at h
    next =>
      obtain ⟨v, hv, rfl⟩ := map_eq_ok_iff.1 h
      exact over_of_readVar hv hargs.1
    next => cases h
  next =>
    split at h
    next =>
      simp only [bind_eq_ok_iff] at h
      obtain ⟨c, hc, y, hy, n, hn, heq⟩ := h
      obtain rfl := Except.ok.inj heq
      exact ⟨ih _ (by simp) c hc, ih _ (by simp) y hy, ih _ (by simp) n hn⟩
    next => cases h
  next =>
    obtain ⟨es, hes, rfl⟩ := map_eq_ok_iff.1 h
    exact overAll_of_readExprs_of_forall ih hes

theorem over_of_readExpr {n : Node} {e : Expr} (h : readExpr n = .ok e) (hn : n.Each p) :
    e.Over p := by
  induction n using Node.induction generalizing e with
  | atom a pos =>
      cases a with
      | var v | term t =>
          rw [readExpr] at h
          obtain rfl := Except.ok.inj h
          exact hn
      | word name | symbol s => simp [readExpr] at h
  | node b ns pos ih =>
      rw [Node.each_node] at hn
      have ih : ∀ n ∈ ns, ∀ e, readExpr n = .ok e → e.Over p :=
        fun n hmem e he => ih n hmem he (Node.eachAll_iff.1 hn n hmem)
      cases b with
      | square =>
          rw [Bracket.node, readExpr] at h
          cases h
      | round =>
          cases ns with
          | nil =>
              rw [Bracket.node, readExpr] at h
              cases h
          | cons head args => exact over_of_readExpr_cons (List.forall_mem_cons.1 ih).2 hn.2 h

theorem overAll_of_readExprs {ns : List Node} {es : List Expr} (h : readExprs ns = .ok es)
    (hns : Node.EachAll p ns) : Expr.OverAll p es :=
  overAll_of_readExprs_of_forall
    (fun n hn _ he => over_of_readExpr he (Node.eachAll_iff.1 hns n hn)) h

theorem over_of_readExprList {n : Node} {es : List Expr} (h : readExprList n = .ok es)
    (hn : n.Each p) : ∀ e ∈ es, e.Over p := by
  have hone : List.singleton <$> readExpr n = .ok es → ∀ e ∈ es, e.Over p := fun h => by
    obtain ⟨e, he, rfl⟩ := map_eq_ok_iff.1 h
    simpa [List.singleton] using over_of_readExpr he hn
  unfold readExprList at h
  split at h
  next head args pos =>
    split at h
    next => exact Expr.overAll_iff.1 (overAll_of_readExprs h hn.2)
    next => exact hone h
  next => exact hone h

/-! ### Aggregates -/

theorem eachAll_of_takeDistinct {ns rest : List Node} {distinct : Bool}
    (h : takeDistinct ns = (distinct, rest)) (hns : Node.EachAll p ns) : Node.EachAll p rest := by
  cases ns with
  | nil =>
      obtain ⟨-, rfl⟩ := Prod.mk.inj h
      exact trivial
  | cons n ns =>
      rw [takeDistinct] at h
      split at h
      next =>
        obtain ⟨-, rfl⟩ := Prod.mk.inj h
        exact hns.2
      next =>
        obtain ⟨-, rfl⟩ := Prod.mk.inj h
        exact hns

theorem over_of_readSummary {name : String} {args : List Node} {headPos pos : Nat}
    {a : Aggregator} (h : readSummary name args headPos pos = .ok a)
    (hargs : Node.EachAll p args) : a.Over p := by
  unfold readSummary at h
  split at h
  next =>
    obtain rfl := Except.ok.inj h
    exact trivial
  next => cases h
  next distinct n extra htake =>
    have hn : n.Each p := (eachAll_of_takeDistinct htake hargs).1
    rw [bind_eq_ok_iff] at h
    obtain ⟨e, he, h⟩ := h
    have hover : e.Over p := over_of_readExpr he hn
    split at h
    next =>
      obtain ⟨separator, -, heq⟩ := bind_eq_ok_iff.1 h
      obtain rfl := Except.ok.inj heq
      exact hover
    next =>
      split at h
      next => cases h
      next =>
        split at h
        next =>
          obtain rfl := Except.ok.inj h
          exact hover
        next => cases h

theorem over_of_readAggregator {n : Node} {a : Aggregator} (h : readAggregator n = .ok a)
    (hn : n.Each p) : a.Over p := by
  unfold readAggregator at h
  rw [bind_eq_ok_iff] at h
  obtain ⟨items, hitems, h⟩ := h
  have hitems := eachAll_of_items hitems hn
  split at h
  next => cases h
  next =>
    have hargs := hitems.2
    split at h
    next => cases h
    next =>
      dsimp only at h
      split at h
      next =>
        split at h
        next => cases h
        next =>
          simp only [bind_eq_ok_iff, map_eq_ok_iff] at h
          obtain ⟨iri, hiri, es, hes, rfl⟩ := h
          exact ⟨over_of_readIri hiri hargs.1,
            Expr.overAll_iff.1 (overAll_of_readExprs hes hargs.2)⟩
      next => exact over_of_readSummary h hargs

/-! ### Patterns -/

theorem over_of_readPlace {n : Node} {t : TermPattern} (h : readPlace n = .ok t) (hn : n.Each p) :
    t.Over p := by
  unfold readPlace at h
  split at h
  next =>
    obtain rfl := Except.ok.inj h
    exact hn
  next =>
    obtain ⟨t, ht, rfl⟩ := map_eq_ok_iff.1 h
    exact over_of_readTerm ht hn

theorem over_of_readPlaceArg {n : Node} {a : PlaceArg} (h : readPlaceArg n = .ok a)
    (hn : n.Each p) : a.Over p := by
  unfold readPlaceArg at h
  split at h
  next =>
    obtain ⟨ts, hts, rfl⟩ := map_eq_ok_iff.1 h
    exact forall_of_mapM_eq_ok (fun _ _ hn h => over_of_readPlace h hn) hts
      (Node.eachAll_iff.1 hn)
  next =>
    obtain ⟨t, ht, rfl⟩ := map_eq_ok_iff.1 h
    exact over_of_readPlace ht hn

theorem over_of_readPlaces {s v o : Node} {t : TriplePattern} (h : readPlaces s v o = .ok t)
    (hs : s.Each p) (hv : v.Each p) (ho : o.Each p) : t.Over p := by
  simp only [readPlaces, bind_eq_ok_iff] at h
  obtain ⟨s', hs', v', hv', o', ho', heq⟩ := h
  obtain rfl := Except.ok.inj heq
  exact ⟨over_of_readPlace hs' hs, over_of_readPlace hv' hv, over_of_readPlace ho' ho⟩

theorem over_of_readTriple {n : Node} {t : TriplePattern} (h : readTriple n = .ok t)
    (hn : n.Each p) : t.Over p := by
  unfold readTriple at h
  rw [bind_eq_ok_iff] at h
  obtain ⟨items, hitems, h⟩ := h
  have hitems := eachAll_of_items hitems hn
  split at h
  next =>
    split at h
    next => exact over_of_readPlaces h hitems.2.1 hitems.2.2.1 hitems.2.2.2.1
    next => cases h
  next => cases h

theorem over_of_readQuad {graph : Option TermPattern} {n : Node} {g : TermPattern}
    {t : TriplePattern} (h : readQuad graph n = .ok (g, t)) (hn : n.Each p) :
    g.Over p ∧ t.Over p := by
  unfold readQuad at h
  rw [bind_eq_ok_iff] at h
  obtain ⟨items, hitems, h⟩ := h
  have hitems := eachAll_of_items hitems hn
  split at h
  next =>
    split at h
    next =>
      rw [bind_eq_ok_iff] at h
      obtain ⟨g', hg, h⟩ := h
      split at h
      next => cases h
      next =>
        obtain ⟨t', ht, heq⟩ := bind_eq_ok_iff.1 h
        obtain ⟨rfl, rfl⟩ := Prod.mk.inj (Except.ok.inj heq)
        exact ⟨over_of_readPlace hg hitems.2.1,
          over_of_readPlaces ht hitems.2.2.1 hitems.2.2.2.1 hitems.2.2.2.2.1⟩
    next => cases h
  next => cases h

theorem over_of_readQuads {ns : List Node} {graph graph' : Option TermPattern}
    {ts : BasicPattern} (h : readQuads graph ns = .ok (graph', ts)) (hns : Node.EachAll p ns)
    (hgraph : ∀ g ∈ graph, g.Over p) : (∀ g ∈ graph', g.Over p) ∧ ∀ t ∈ ts, t.Over p := by
  induction ns generalizing graph ts with
  | nil =>
      obtain ⟨rfl, rfl⟩ := Prod.mk.inj (Except.ok.inj h)
      exact ⟨hgraph, by simp⟩
  | cons n ns ih =>
      simp only [readQuads, bind_eq_ok_iff] at h
      obtain ⟨⟨g, t⟩, hquad, ⟨g', ts'⟩, hquads, heq⟩ := h
      obtain ⟨rfl, rfl⟩ := Prod.mk.inj (Except.ok.inj heq)
      obtain ⟨hg, ht⟩ := over_of_readQuad hquad hns.1
      obtain ⟨hg', hts⟩ := ih hquads hns.2 (by simpa using hg)
      exact ⟨hg', List.forall_mem_cons.2 ⟨ht, hts⟩⟩

theorem over_of_readQuadPattern {args : List Node} {pos : Nat} {op : Op}
    (h : readQuadPattern args pos = .ok op) (hargs : Node.EachAll p args) :
    ∃ g ts, op = .quads g ts ∧ g.Over p ∧ ∀ t ∈ ts, t.Over p := by
  have templates : readQuadTemplates args pos = .ok op →
      ∃ g ts, op = .quads g ts ∧ g.Over p ∧ ∀ t ∈ ts, t.Over p := fun h => by
    rw [readQuadTemplates, bind_eq_ok_iff] at h
    obtain ⟨⟨graph, ts⟩, hquads, h⟩ := h
    obtain ⟨hgraph, hts⟩ := over_of_readQuads hquads hargs (by simp)
    cases graph with
    | none => cases h
    | some g =>
        obtain rfl := Except.ok.inj h
        exact ⟨g, ts, rfl, hgraph g rfl, hts⟩
  unfold readQuadPattern at h
  split at h
  next => exact templates h
  next =>
    obtain ⟨g, hg, heq⟩ := bind_eq_ok_iff.1 h
    obtain rfl := Except.ok.inj heq
    exact ⟨g, [], rfl, over_of_readPlace hg hargs.1, by simp⟩
  next => exact templates h

/-! ### Tables -/

def RowOver (p : Atom → Prop) (row : Binding) : Prop :=
  ∀ e ∈ row.toList, p (.var e.1) ∧ p (.term e.2)

theorem rowOver_of_readCell {row row' : Binding} {n : Node} (h : readCell row n = .ok row')
    (hrow : RowOver p row) (hn : n.Each p) : RowOver p row' := by
  unfold readCell at h
  split at h
  next =>
    simp only [bind_eq_ok_iff] at h
    obtain ⟨⟨a, b⟩, hpair, v, hv, t, ht, heq⟩ := h
    obtain rfl := Except.ok.inj heq
    obtain ⟨ha, hb⟩ := of_readPair hpair hn
    intro e he
    rcases Sorted.mem_insert_iff.1 he with rfl | ⟨he, -⟩
    · exact ⟨over_of_readVar hv ha, over_of_readTerm ht hb⟩
    · exact hrow e he
  next => cases h

theorem rowOver_of_foldlM {ns : List Node} {row row' : Binding}
    (h : ns.foldlM readCell row = .ok row') (hrow : RowOver p row) (hns : Node.EachAll p ns) :
    RowOver p row' := by
  induction ns generalizing row with
  | nil =>
      obtain rfl := Except.ok.inj h
      exact hrow
  | cons n ns ih =>
      rw [List.foldlM_cons, bind_eq_ok_iff] at h
      obtain ⟨row₁, hcell, h⟩ := h
      exact ih h (rowOver_of_readCell hcell hrow hns.1) hns.2

theorem rowOver_of_readRow {n : Node} {row : Binding} (h : readRow n = .ok row) (hn : n.Each p) :
    RowOver p row := by
  unfold readRow at h
  rw [bind_eq_ok_iff] at h
  obtain ⟨items, hitems, h⟩ := h
  have hitems := eachAll_of_items hitems hn
  split at h
  next => cases h
  next =>
    split at h
    next =>
      refine rowOver_of_foldlM h ?_ hitems.2
      intro e he
      cases he
    next => cases h

theorem over_of_readClauses {ns : List Node} {vs : List Var} {rows : List Binding}
    (h : readClauses ns = .ok (vs, rows)) (hns : Node.EachAll p ns) :
    (∀ v ∈ vs, p (.var v)) ∧ ∀ row ∈ rows, RowOver p row := by
  have hrows : ∀ {ns : List Node} {rows}, ns.mapM readRow = .ok rows → Node.EachAll p ns →
      ∀ row ∈ rows, RowOver p row := fun h hns =>
    forall_of_mapM_eq_ok (fun _ _ hn h => rowOver_of_readRow h hn) h (Node.eachAll_iff.1 hns)
  unfold readClauses at h
  split at h
  next =>
    split at h
    next =>
      simp only [bind_eq_ok_iff] at h
      obtain ⟨vs', hvs, rows', hr, heq⟩ := h
      obtain ⟨rfl, rfl⟩ := Prod.mk.inj (Except.ok.inj heq)
      exact ⟨forall_of_mapM_eq_ok (fun _ _ hn h => over_of_readVar h hn) hvs
        (Node.eachAll_iff.1 hns.1.2), hrows hr hns.2⟩
    next =>
      simp only [bind_eq_ok_iff] at h
      obtain ⟨rows', hr, heq⟩ := h
      obtain ⟨rfl, rfl⟩ := Prod.mk.inj (Except.ok.inj heq)
      exact ⟨by simp, hrows hr hns⟩
  next =>
    simp only [bind_eq_ok_iff] at h
    obtain ⟨rows', hr, heq⟩ := h
    obtain ⟨rfl, rfl⟩ := Prod.mk.inj (Except.ok.inj heq)
    exact ⟨by simp, hrows hr hns⟩

theorem over_ofRows {vs : List Var} {rows : List Binding} (hvs : ∀ v ∈ vs, p (.var v))
    (hrows : ∀ row ∈ rows, RowOver p row) : (Table.ofRows vs rows).Over p := by
  refine ⟨Table.covers_ofRows vs rows, fun v hv => ?_,
    fun row hrow e he => (hrows row hrow e he).2⟩
  rcases Table.mem_vars_ofRows_iff.1 hv with hv | ⟨row, hrow, hv⟩
  · exact hvs v hv
  · obtain ⟨e, he, rfl⟩ := List.mem_map.1 hv
    exact (hrows row hrow e he).1

theorem over_of_readTable {args : List Node} {pos : Nat} {t : Table}
    (h : readTable args pos = .ok t) (hargs : Node.EachAll p args) : t.Over p := by
  have clauses : readClauseTable args = .ok t → t.Over p := fun h => by
    obtain ⟨⟨vs, rows⟩, hclauses, heq⟩ := bind_eq_ok_iff.1 h
    obtain rfl := Except.ok.inj heq
    obtain ⟨hvs, hrows⟩ := over_of_readClauses hclauses hargs
    exact over_ofRows hvs hrows
  have hempty : RowOver p Binding.empty := fun e he => by cases he
  unfold readTable at h
  split at h
  next => cases h
  next =>
    split at h
    next =>
      obtain rfl := Except.ok.inj h
      have hunit : (Table.ofRows [] [Binding.empty]).Over p :=
        over_ofRows (by simp) (by simpa using hempty)
      exact hunit
    next =>
      split at h
      next =>
        obtain rfl := Except.ok.inj h
        have hnone : (Table.ofRows [] []).Over p := over_ofRows (by simp) (by simp)
        exact hnone
      next => exact clauses h
  next => exact clauses h

/-! ### Parts of operators -/

theorem over_of_readCondition {n : Node} {c : SortCondition} (h : readCondition n = .ok c)
    (hn : n.Each p) : c.expr.Over p := by
  unfold readCondition at h
  split at h
  next =>
    split at h
    next =>
      obtain ⟨e, he, rfl⟩ := map_eq_ok_iff.1 h
      exact over_of_readExpr he hn.2.1
    next =>
      split at h
      next =>
        obtain ⟨e, he, rfl⟩ := map_eq_ok_iff.1 h
        exact over_of_readExpr he hn.2.1
      next =>
        obtain ⟨e, he, rfl⟩ := map_eq_ok_iff.1 h
        exact over_of_readExpr he hn
  next =>
    obtain ⟨e, he, rfl⟩ := map_eq_ok_iff.1 h
    exact over_of_readExpr he hn

theorem over_of_readAssignment {n : Node} {a : Var × Expr} (h : readAssignment n = .ok a)
    (hn : n.Each p) : p (.var a.1) ∧ a.2.Over p := by
  simp only [readAssignment, bind_eq_ok_iff] at h
  obtain ⟨items, hitems, ⟨v, e⟩, hpair, v', hv, e', he, heq⟩ := h
  obtain rfl := Except.ok.inj heq
  obtain ⟨hv', he'⟩ := of_readPair hpair (eachAll_of_items hitems hn)
  exact ⟨over_of_readVar hv hv', over_of_readExpr he he'⟩

theorem over_of_readKey {n : Node} {k : Var × Option Expr} (h : readKey n = .ok k)
    (hn : n.Each p) : p (.var k.1) ∧ ∀ e ∈ k.2, e.Over p := by
  unfold readKey at h
  split at h
  next =>
    obtain rfl := Except.ok.inj h
    exact ⟨hn, by simp⟩
  next =>
    obtain ⟨a, ha, rfl⟩ := map_eq_ok_iff.1 h
    obtain ⟨hv, he⟩ := over_of_readAssignment ha hn
    exact ⟨hv, by simpa using he⟩

theorem over_of_readAggregate {n : Node} {a : Var × Aggregator} (h : readAggregate n = .ok a)
    (hn : n.Each p) : p (.var a.1) ∧ a.2.Over p := by
  simp only [readAggregate, bind_eq_ok_iff] at h
  obtain ⟨items, hitems, ⟨v, a'⟩, hpair, v', hv, a'', ha, heq⟩ := h
  obtain rfl := Except.ok.inj heq
  obtain ⟨hv', ha'⟩ := of_readPair hpair (eachAll_of_items hitems hn)
  exact ⟨over_of_readVar hv hv', over_of_readAggregator ha ha'⟩

theorem over_of_readEndpoint {n : Node} {t : Term} (h : readEndpoint n = .ok t) (hn : n.Each p) :
    p (.term t) := by
  unfold readEndpoint at h
  obtain ⟨place, hplace, h⟩ := bind_eq_ok_iff.1 h
  have hover := over_of_readPlace hplace hn
  split at h
  next =>
    obtain rfl := Except.ok.inj h
    exact hover
  next => cases h

/-! ### Operators -/

/-- The name of an extension is the report of an atom that satisfies `p`, or that of brackets. -/
def NameFrom (p : Atom → Prop) (name : String) : Prop :=
  (∃ a pos, p a ∧ (Node.atom a pos).describe = name) ∨ name = "list" ∨ name = "[...]"

theorem nameFrom_describe {n : Node} (hn : n.Each p) : NameFrom p n.describe := by
  cases n with
  | atom a pos => exact .inl ⟨a, pos, hn, rfl⟩
  | list items pos => exact .inr (.inl rfl)
  | bracket items pos => exact .inr (.inr rfl)

/-- The leaves of a tree satisfy `p`, and extensions have the names that the reader gives them. -/
def OpOver (p : Atom → Prop) (op : Op) : Prop :=
  op.Each fun o => o.Over p ∧ o.NameSatisfies (NameFrom p)

theorem opOver_combine {name : String} {l r : Op} (hl : OpOver p l) (hr : OpOver p r) :
    OpOver p (combine name l r) := by
  unfold combine
  split <;> exact ⟨⟨trivial, trivial⟩, hl, hr⟩

theorem opOver_foldl_combine (name : String) {ops : List Op} {op : Op} (h : OpOver p op)
    (hops : ∀ o ∈ ops, OpOver p o) : OpOver p (ops.foldl (combine name) op) := by
  induction ops generalizing op with
  | nil => exact h
  | cons o ops ih =>
      obtain ⟨ho, hops⟩ := List.forall_mem_cons.1 hops
      exact ih (opOver_combine h ho) hops

mutual

/-- The leaves of an operator are atoms of its form. -/
theorem ReadsOp.opOver {n : Node} {op : Op} (h : ReadsOp n op) (hn : n.Each p) :
    OpOver p op := by
  match n, op, h with
  | _, _, .bgp hts =>
      exact ⟨forall_of_mapM_eq_ok (fun _ _ hn h => over_of_readTriple h hn) hts
        (Node.eachAll_iff.1 hn.2), trivial⟩
  | _, _, .quads h =>
      obtain ⟨g, ts, rfl, hg, hts⟩ := over_of_readQuadPattern h hn.2
      exact ⟨⟨hg, hts⟩, trivial⟩
  | _, _, .table ht => exact ⟨over_of_readTable ht hn.2, trivial⟩
  | _, _, .datasetNames hg => exact ⟨over_of_readPlace hg hn.2.1, trivial⟩
  | _, _, .null => exact ⟨trivial, trivial⟩
  | _, _, .combine _ _ h =>
      have hops := h.opOver hn.2
      rw [List.forall_mem_cons, List.forall_mem_cons] at hops
      exact opOver_foldl_combine _ (opOver_combine hops.1 hops.2.1) hops.2.2
  | _, _, .diff hl hr => exact ⟨⟨trivial, trivial⟩, hl.opOver hn.2.1, hr.opOver hn.2.2.1⟩
  | _, _, .leftJoin hl hr =>
      exact ⟨⟨List.forall_mem_nil _, trivial⟩, hl.opOver hn.2.1, hr.opOver hn.2.2.1⟩
  | _, _, .leftJoinOn hl hr hes =>
      exact ⟨⟨over_of_readExprList hes hn.2.2.2.1, trivial⟩, hl.opOver hn.2.1,
        hr.opOver hn.2.2.1⟩
  | _, _, .filter hes h => exact ⟨⟨over_of_readExprList hes hn.2.1, trivial⟩, h.opOver hn.2.2.1⟩
  | _, _, .graph hg h => exact ⟨⟨over_of_readPlace hg hn.2.1, trivial⟩, h.opOver hn.2.2.1⟩
  | _, _, .service he h => exact ⟨⟨over_of_readEndpoint he hn.2.1, trivial⟩, h.opOver hn.2.2.1⟩
  | _, _, .silent he h =>
      exact ⟨⟨over_of_readEndpoint he hn.2.2.1, trivial⟩, h.opOver hn.2.2.2.1⟩
  | _, _, .name _ => exact ⟨⟨trivial, nameFrom_describe hn.2.1⟩, trivial, trivial⟩
  | _, _, .extension h => exact ⟨⟨trivial, nameFrom_describe hn.2.1⟩, h.opOver hn.2.2.1⟩
  | _, _, .list h | _, _, .distinct h | _, _, .reduced h =>
      exact ⟨⟨trivial, trivial⟩, h.opOver hn.2.1⟩
  | _, _, .order hitems hcs h =>
      have hcs := forall_of_items (fun _ _ hn h => over_of_readCondition h hn) hitems hcs hn.2.1
      exact ⟨⟨hcs, trivial⟩, h.opOver hn.2.2.1⟩
  | _, _, .project hitems hvs h =>
      have hvs := forall_of_items (fun _ _ hn h => over_of_readVar h hn) hitems hvs hn.2.1
      exact ⟨⟨hvs, trivial⟩, h.opOver hn.2.2.1⟩
  | _, _, .slice _ _ h => exact ⟨⟨trivial, trivial⟩, h.opOver hn.2.2.2.1⟩
  | _, _, .assign hitems has h =>
      have has := forall_of_items (fun _ _ hn h => over_of_readAssignment h hn) hitems has hn.2.1
      exact ⟨⟨has, trivial⟩, h.opOver hn.2.2.1⟩
  | _, _, .group hitems hks hitems' has h =>
      have hks := forall_of_items (fun _ _ hn h => over_of_readKey h hn) hitems hks hn.2.1
      have has := forall_of_items (fun _ _ hn h => over_of_readAggregate h hn) hitems' has hn.2.2.1
      exact ⟨⟨⟨hks, has⟩, trivial⟩, h.opOver hn.2.2.2.1⟩
  | _, _, .positional hi hitems hes h =>
      have hes := overAll_of_readExprs hes (eachAll_of_items hitems hn.2.2.1)
      exact ⟨⟨⟨over_of_readIri hi hn.2.1, Expr.overAll_iff.1 hes⟩, trivial⟩, h.opOver hn.2.2.2.1⟩
  | _, _, .subjectObject hi hs ho h =>
      exact ⟨⟨⟨over_of_readIri hi hn.2.1, over_of_readPlaceArg hs hn.2.2.1,
        over_of_readPlaceArg ho hn.2.2.2.1⟩, trivial⟩, h.opOver hn.2.2.2.2.1⟩

theorem ReadsOps.opOver {ns : List Node} {ops : List Op} (h : ReadsOps ns ops)
    (hns : Node.EachAll p ns) : ∀ op ∈ ops, OpOver p op := by
  match ns, ops, h with
  | _, _, .nil => simp
  | _, _, .cons h hs => exact List.forall_mem_cons.2 ⟨h.opOver hns.1, hs.opOver hns.2⟩

end

end Sexp

end GraphAlgebra
