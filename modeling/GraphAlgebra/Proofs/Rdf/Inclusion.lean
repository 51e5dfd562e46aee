import GraphAlgebra.Proofs.Rdf.Quads
import Mathlib.Data.List.Flatten
import Mathlib.Data.List.Sort
/-!
# Graphs within graphs

The triples of a graph stand in their order among those of a graph that has them all, since both
graphs are sorted. So the matches of a pattern stand in their order among its matches in the larger
graph (`Graph.matchPattern_sublist`), and the names of the graphs of a dataset among those of a
dataset that includes it (`Dataset.Included.names_sublist`).
-/

namespace GraphAlgebra

open Std

section

variable {α κ : Type} [Ord κ] [TransOrd κ] {key : α → κ}

theorem sublist_of_increasing {l l' : List α}
    (hl : l.Pairwise fun x y => compare (key x) (key y) = .lt)
    (hl' : l'.Pairwise fun x y => compare (key x) (key y) = .lt) (h : l ⊆ l') :
    l.Sublist l' := by
  have hirrefl (x : α) : compare (key x) (key x) ≠ .lt := by simp
  have hanti : Antisymm fun x y : α => compare (key x) (key y) = .lt :=
    ⟨fun x y hxy hyx => absurd (TransCmp.lt_trans hxy hyx) (hirrefl x)⟩
  have hnodup : l.Nodup := by
    refine hl.imp fun {x y} hxy heq => ?_
    rw [heq] at hxy
    exact hirrefl y hxy
  exact List.sublist_of_subperm_of_pairwise (List.subperm_of_subset hnodup h) hl hl'

theorem Sorted.sublist_of_subset {s t : Sorted key} (h : s.toList ⊆ t.toList) :
    s.toList.Sublist t.toList :=
  sublist_of_increasing s.increasing t.increasing h

end

namespace Graph

variable {g g' : Graph}

theorem solutions_sublist (h : g.toList ⊆ g'.toList) {bs bs' : List Binding}
    (hbs : bs.Sublist bs') (ps : BasicPattern) :
    (g.solutions bs ps).Sublist (g'.solutions bs' ps) := by
  induction ps generalizing bs bs' with
  | nil => exact hbs
  | cons p ps ih =>
      refine ih ((hbs.flatMap (g.extend p)).trans ?_)
      exact .flatMap_right bs' fun b _ => (Sorted.sublist_of_subset h).filterMap (b.unifyTriple? p)

/-- More triples give more matches, and those that there were before stay in their order. -/
theorem matchPattern_sublist (h : g.toList ⊆ g'.toList) (ps : BasicPattern) :
    (g.matchPattern ps).rows.Sublist (g'.matchPattern ps).rows :=
  solutions_sublist h (.refl _) ps

end Graph

namespace Dataset

/-- All named graphs of `d` are named graphs of `e`, and all triples of a graph of `d` are in the
graph of `e` that corresponds to it. -/
structure Included (d e : Dataset) : Prop where
  defaultGraph : d.defaultGraph.toList ⊆ e.defaultGraph.toList
  named : ∀ name g, d.named.get? name = some g →
    ∃ g', e.named.get? name = some g' ∧ g.toList ⊆ g'.toList

variable {d e : Dataset}

theorem included_of_quads_subset (hd : d.Occupied) (h : d.quads ⊆ e.quads) : d.Included e := by
  have hgraph (graph : Option Term) : (d.graphOf graph).toList ⊆ (e.graphOf graph).toList := by
    intro t ht
    exact mem_quads_iff.1 (h (mem_quads_iff (q := ⟨graph, t⟩).2 ht))
  refine ⟨hgraph none, fun name g hg => ?_⟩
  have hsub := hgraph (some name)
  simp only [graphOf, namedOrEmpty, hg, Option.getD_some] at hsub
  cases he : e.named.get? name with
  | none =>
      rw [he] at hsub
      exact absurd (List.subset_nil.1 hsub) (hd name g hg)
  | some g' =>
      rw [he] at hsub
      exact ⟨g', rfl, hsub⟩

namespace Included

theorem graph? (h : d.Included e) {name : Term} {g : Graph} (hg : d.graph? name = some g) :
    ∃ g', e.graph? name = some g' ∧ g.toList ⊆ g'.toList := by
  unfold Dataset.graph? at hg ⊢
  by_cases hname : name.isDefaultGraph = true
  · rw [if_pos hname] at hg ⊢
    obtain rfl := Option.some.inj hg
    exact ⟨_, rfl, h.defaultGraph⟩
  · rw [if_neg hname] at hg ⊢
    exact h.named name g hg

theorem hasGraph (h : d.Included e) {name : Term} (hd : d.hasGraph name = true) :
    e.hasGraph name = true := by
  rw [Dataset.hasGraph, Bool.or_eq_true] at hd ⊢
  refine hd.imp_right fun hd => ?_
  obtain ⟨g, hg⟩ := Option.isSome_iff_exists.1 hd
  obtain ⟨g', hg', -⟩ := h.named name g hg
  rw [hg']
  rfl

theorem names_sublist (h : d.Included e) : d.names.Sublist e.names := by
  have hincreasing (d : Dataset) : d.names.Pairwise fun x y => compare (id x) (id y) = .lt :=
    List.pairwise_map.2 d.named.increasing
  refine sublist_of_increasing (hincreasing d) (hincreasing e) fun name hname => ?_
  obtain ⟨⟨name, g⟩, hg, rfl⟩ := List.mem_map.1 hname
  obtain ⟨g', hg', -⟩ := h.named name g (SortedMap.get?_eq_some_iff.2 hg)
  exact List.mem_map.2 ⟨_, SortedMap.get?_eq_some_iff.1 hg', rfl⟩

end Included

end Dataset

end GraphAlgebra
