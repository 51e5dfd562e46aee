import GraphAlgebra.Eval.Transform
import GraphAlgebra.Proofs.Solution.Duplicates
import Mathlib.Algebra.BigOperators.Finprod
/-!
# How often a row occurs

The number of occurrences of a row in a join, a union, a difference, a selection, a projection or
a table without repetitions, given the numbers in the tables that it is made of. The sums range over
all solutions; only finitely many of them are rows.
-/

namespace GraphAlgebra

open Binding

section Lists

variable {α : Type} [DecidableEq α]

theorem count_filter_eq (p : α → Bool) (l : List α) (a : α) :
    (l.filter p).count a = if p a = true then l.count a else 0 := by
  by_cases h : p a = true
  · rw [if_pos h, List.count_filter h]
  · rw [if_neg h, List.count_eq_zero]
    simp [h]

theorem countP_eq_sum (p : α → Bool) (l : List α) :
    l.countP p = ∑ a ∈ l.toFinset, if p a = true then l.count a else 0 := by
  rw [List.countP_eq_length_filter, ← List.sum_toFinset_count_eq_length, List.toFinset_filter,
    Finset.sum_filter]
  refine Finset.sum_congr rfl fun a _ => ?_
  split
  next h => exact List.count_filter h
  next => rfl

theorem countP_eq_finsum (p : α → Prop) [DecidablePred p] (l : List α) :
    l.countP (fun a => p a) = ∑ᶠ (a : α) (_ : p a), l.count a := by
  have hmem {a : α} (ha : l.count a ≠ 0) : p a ↔ a ∈ l.toFinset.filter p := by
    have hin : a ∈ l := List.count_pos_iff.1 (Nat.pos_of_ne_zero ha)
    simp [hin]
  rw [finsum_cond_eq_sum_of_cond_iff _ hmem, Finset.sum_filter, countP_eq_sum]
  simp only [decide_eq_true_eq]

end Lists

namespace Table

theorem count_union (l r : Table) (m : Binding) :
    (l.union r).rows.count m = l.rows.count m + r.rows.count m :=
  List.count_append

theorem count_diff (l r : Table) (m : Binding) :
    (l.diff r).rows.count m = if r.rows.count m = 0 then l.rows.count m else 0 := by
  have hcount : (l.diff r).rows.count m =
      if (!r.rows.contains m) = true then l.rows.count m else 0 :=
    count_filter_eq (fun a => !r.rows.contains a) l.rows m
  rw [hcount]
  refine if_congr ?_ rfl rfl
  simp [List.count_eq_zero]

theorem count_distinct (t : Table) (m : Binding) :
    t.distinct.rows.count m = min 1 (t.rows.count m) := by
  rw [t.nodup_distinct.count]
  by_cases hm : m ∈ t.rows
  · rw [if_pos (t.thins_distinct.mem_iff.2 hm), Nat.min_eq_left (List.count_pos_iff.2 hm)]
  · rw [if_neg fun h => hm (t.thins_distinct.mem_iff.1 h), List.count_eq_zero.2 hm, Nat.min_zero]

theorem count_filter (es : List Expr) (t : Table) (m : Binding) :
    (t.filter es).rows.count m =
      if ∀ e ∈ es, e.satisfiedBy m = true then t.rows.count m else 0 := by
  have hcount : (t.filter es).rows.count m =
      if satisfiesAll es m = true then t.rows.count m else 0 :=
    count_filter_eq (satisfiesAll es) t.rows m
  rw [hcount]
  exact if_congr List.all_eq_true rfl rfl

theorem count_project (t : Table) (vs : List Var) (m : Binding) :
    (t.project vs).rows.count m = ∑ᶠ (a : Binding) (_ : a.restrict vs = m), t.rows.count a := by
  rw [← countP_eq_finsum]
  exact List.countP_map

theorem count_join (l r : Table) (m : Binding) :
    (l.join r).rows.count m =
      ∑ᶠ (p : Binding × Binding) (_ : IsUnion p.1 p.2 m), l.rows.count p.1 * r.rows.count p.2 := by
  classical
  have hmem {p : Binding × Binding} (hp : l.rows.count p.1 * r.rows.count p.2 ≠ 0) :
      IsUnion p.1 p.2 m ↔
        p ∈ (l.rows.toFinset ×ˢ r.rows.toFinset).filter fun p => IsUnion p.1 p.2 m := by
    obtain ⟨hl, hr⟩ := Nat.mul_ne_zero_iff.1 hp
    have hl : p.1 ∈ l.rows := List.count_pos_iff.1 (Nat.pos_of_ne_zero hl)
    have hr : p.2 ∈ r.rows := List.count_pos_iff.1 (Nat.pos_of_ne_zero hr)
    simp [hl, hr]
  have hrow (a : Binding) : (r.rows.filterMap a.merge?).count m =
      ∑ b ∈ r.rows.toFinset, if IsUnion a b m then r.rows.count b else 0 := by
    rw [List.count_filterMap, countP_eq_sum]
    simp only [beq_iff_eq, merge?_eq_some_iff]
  rw [finsum_cond_eq_sum_of_cond_iff _ hmem, Finset.sum_filter, Finset.sum_product]
  change (l.rows.flatMap fun a => r.rows.filterMap a.merge?).count m = _
  rw [List.count_flatMap, Finset.sum_list_map_count]
  refine Finset.sum_congr rfl fun a _ => ?_
  rw [Function.comp_apply, hrow, smul_eq_mul, Finset.mul_sum]
  simp only [mul_ite, mul_zero]

end Table

end GraphAlgebra
