import GraphAlgebra.Proofs.Solution.Duplicates
import GraphAlgebra.Proofs.Solution.Sorting
import GraphAlgebra.Rdf.Dataset
/-!
# The terms of a table

Most operations on tables make no terms: what holds of all terms of their arguments holds of all
terms of the result. So does the matching of a pattern, whose rows have the terms of the graph.
-/

namespace GraphAlgebra

variable {p : Term → Prop}

namespace Binding

def Each (p : Term → Prop) (b : Binding) : Prop := ∀ v t, b.get? v = some t → p t

variable {a b m : Binding} {v : Var} {t : Term}

theorem each_empty : empty.Each p := nofun

theorem Each.set (hb : b.Each p) (ht : p t) : Each p (b.set v t) := by
  intro w s hs
  rw [get?_set] at hs
  split at hs
  · obtain rfl := Option.some.inj hs
    exact ht
  · exact hb w s hs

theorem each_single (ht : p t) : (single v t).Each p := each_empty.set ht

theorem Each.setIfSome {t : Option Term} (hb : b.Each p) (ht : ∀ s ∈ t, p s) :
    (Table.setIfSome b v t).Each p := by
  cases t with
  | none => exact hb
  | some t => exact hb.set (ht t rfl)

theorem Each.restrict (hb : b.Each p) (vs : List Var) : (b.restrict vs).Each p := by
  intro w s hs
  rw [get?_restrict] at hs
  split at hs
  · exact hb w s hs
  · contradiction

theorem Each.merge? (ha : a.Each p) (hb : b.Each p) (h : a.merge? b = some m) : m.Each p := by
  intro w s hs
  exact (((merge?_eq_some_iff.1 h).get?_iff w s).1 hs).elim (ha w s) (hb w s)

theorem Each.unify? (hb : b.Each p) (ht : p t) {place : TermPattern}
    (h : b.unify? place t = some m) : m.Each p := by
  have hsame {s : Term} (h : (if s = t then some b else none) = some m) : m.Each p := by
    split at h
    · obtain rfl := Option.some.inj h
      exact hb
    · contradiction
  cases place with
  | term s => exact hsame h
  | var v =>
      rw [Binding.unify?] at h
      split at h
      next => exact hsame h
      next =>
        obtain rfl := Option.some.inj h
        exact hb.set ht

end Binding

def Triple.Each (p : Term → Prop) (t : Triple) : Prop := p t.subject ∧ p t.predicate ∧ p t.object

theorem Binding.Each.unifyTriple? {b m : Binding} (hb : b.Each p) {t : Triple} (ht : t.Each p)
    {place : TriplePattern} (h : b.unifyTriple? place t = some m) : m.Each p := by
  simp only [Binding.unifyTriple?, Option.bind_eq_bind, Option.bind_eq_some_iff] at h
  obtain ⟨b₁, hs, b₂, hp, ho⟩ := h
  exact ((hb.unify? ht.1 hs).unify? ht.2.1 hp).unify? ht.2.2 ho

namespace Table

def Each (p : Term → Prop) (t : Table) : Prop := ∀ row ∈ t.rows, row.Each p

variable {t u : Table}

theorem each_empty : empty.Each p := List.forall_mem_nil _

theorem each_unit : unit.Each p := List.forall_mem_singleton.2 Binding.each_empty

theorem each_single {v : Var} {s : Term} (hs : p s) : (single v s).Each p :=
  List.forall_mem_singleton.2 (Binding.each_single hs)

theorem Each.of_subset (ht : t.Each p) {rows : List Binding} (h : rows ⊆ t.rows) (vs : List Var) :
    (ofRows vs rows).Each p :=
  fun row hrow => ht row (h hrow)

theorem Each.join (ht : t.Each p) (hu : u.Each p) : (t.join u).Each p := by
  intro m hm
  obtain ⟨a, ha, hm⟩ := List.mem_flatMap.1 hm
  obtain ⟨b, hb, hm⟩ := List.mem_filterMap.1 hm
  exact (ht a ha).merge? (hu b hb) hm

theorem Each.union (ht : t.Each p) (hu : u.Each p) : (t.union u).Each p :=
  List.forall_mem_append.2 ⟨ht, hu⟩

theorem Each.diff (ht : t.Each p) (u : Table) : (t.diff u).Each p :=
  ht.of_subset (List.filter_subset_self _) t.vars

theorem Each.project (ht : t.Each p) (vs : List Var) : (t.project vs).Each p :=
  List.forall_mem_map.2 fun row hrow => (ht row hrow).restrict vs

theorem Each.distinct (ht : t.Each p) : t.distinct.Each p :=
  ht.of_subset t.thins_distinct.subset t.vars

theorem Each.reduced (ht : t.Each p) : t.reduced.Each p :=
  ht.of_subset t.thins_reduced.subset t.vars

theorem Each.slice (ht : t.Each p) (start length : Option Nat) : (t.slice start length).Each p := by
  refine ht.of_subset ?_ t.vars
  cases length with
  | none => exact List.drop_subset _ _
  | some n => exact List.Subset.trans (List.take_subset _ _) (List.drop_subset _ _)

theorem Each.filter (ht : t.Each p) (es : List Expr) : (t.filter es).Each p :=
  ht.of_subset (List.filter_subset_self _) t.vars

theorem Each.leftJoin (ht : t.Each p) (hu : u.Each p) (es : List Expr) :
    (t.leftJoin u es).Each p := by
  intro m hm
  obtain ⟨a, ha, hm⟩ := List.mem_flatMap.1 hm
  unfold extendOrKeep at hm
  split at hm
  · obtain rfl := List.mem_singleton.1 hm
    exact ht m ha
  · obtain ⟨b, hb, hm⟩ := List.mem_filterMap.1 (List.mem_of_mem_filter hm)
    exact (ht a ha).merge? (hu b hb) hm

theorem Each.order (ht : t.Each p) {cs : List SortCondition} (h : t.order cs = .ok u) :
    u.Each p := by
  obtain ⟨rows, hperm, rfl⟩ := exists_perm_of_order h
  exact ht.of_subset hperm.subset t.vars

end Table

namespace Graph

def Each (p : Term → Prop) (g : Graph) : Prop := ∀ t ∈ g.toList, t.Each p

theorem each_solutions {g : Graph} (hg : g.Each p) (ps : BasicPattern) {bs : List Binding}
    (hbs : ∀ b ∈ bs, b.Each p) : ∀ m ∈ g.solutions bs ps, m.Each p := by
  induction ps generalizing bs with
  | nil => exact hbs
  | cons place ps ih =>
      refine ih fun m hm => ?_
      obtain ⟨b, hb, hm⟩ := List.mem_flatMap.1 hm
      obtain ⟨t, ht, hm⟩ := List.mem_filterMap.1 hm
      exact (hbs b hb).unifyTriple? (hg t ht) hm

theorem Each.matchPattern {g : Graph} (hg : g.Each p) (ps : BasicPattern) :
    (g.matchPattern ps).Each p :=
  each_solutions hg ps (List.forall_mem_singleton.2 Binding.each_empty)

end Graph

namespace Dataset

structure Each (p : Term → Prop) (d : Dataset) : Prop where
  defaultGraph : d.defaultGraph.Each p
  named : ∀ e ∈ d.named.toList, p e.1 ∧ e.2.Each p

variable {d : Dataset}

theorem Each.graph? (hd : d.Each p) {name : Term} {g : Graph} (h : d.graph? name = some g) :
    g.Each p := by
  rw [Dataset.graph?] at h
  split at h
  · obtain rfl := Option.some.inj h
    exact hd.defaultGraph
  · exact (hd.named _ (SortedMap.get?_eq_some_iff.1 h)).2

theorem Each.names (hd : d.Each p) : ∀ name ∈ d.names, p name :=
  List.forall_mem_map.2 fun e he => (hd.named e he).1

end Dataset

end GraphAlgebra
