import GraphAlgebra.Proofs.Order.Preorder
/-!
# Stable rearrangements

A comparison `cmp` puts the elements of a list into classes of equal ones. A rearrangement is stable
if it leaves every class as it is (`SameClasses cmp`), and a stable sort of a list is one that is in
order besides (`SortsTo cmp`). A list has one stable sort at most (`SortsTo.unique`).
-/

namespace GraphAlgebra

open Std

variable {α β : Type} {cmp : α → α → Ordering}

theorem isLE_iff_ne_lt [OrientedCmp cmp] {a b : α} : (cmp a b).isLE ↔ cmp b a ≠ .lt := by
  rw [Ordering.isLE_iff_ne_gt, ne_eq, OrientedCmp.gt_iff_lt]

/-- Two lists have the same elements of every class, in the same order. -/
def SameClasses (cmp : α → α → Ordering) (l m : List α) : Prop :=
  ∀ a, l.filter (cmp a · = .eq) = m.filter (cmp a · = .eq)

namespace SameClasses

variable {l m n r s : List α}

@[refl] theorem refl (l : List α) : SameClasses cmp l l := fun _ => rfl

theorem symm (h : SameClasses cmp l m) : SameClasses cmp m l := fun a => (h a).symm

theorem trans (h : SameClasses cmp l m) (h' : SameClasses cmp m n) : SameClasses cmp l n :=
  fun a => (h a).trans (h' a)

theorem append (h : SameClasses cmp l m) (h' : SameClasses cmp r s) :
    SameClasses cmp (l ++ r) (m ++ s) := fun a => by
  rw [List.filter_append, List.filter_append, h a, h' a]

theorem cons (a : α) (h : SameClasses cmp l m) : SameClasses cmp (a :: l) (a :: m) :=
  (refl [a]).append h

theorem reverse (h : SameClasses cmp l m) : SameClasses cmp l.reverse m.reverse := fun a => by
  rw [List.filter_reverse, List.filter_reverse, h a]

variable [TransCmp cmp]

theorem mem_iff (h : SameClasses cmp l m) {a : α} : a ∈ l ↔ a ∈ m := by
  have hfilter : a ∈ l.filter (cmp a · = .eq) ↔ a ∈ m.filter (cmp a · = .eq) := by rw [h a]
  simpa [ReflCmp.compare_self] using hfilter

theorem perm (h : SameClasses cmp l m) : l.Perm m := by
  classical
  refine List.perm_iff_count.2 fun a => ?_
  have ha : cmp a a = .eq := ReflCmp.compare_self
  have hcount := congrArg (List.count a) (h a)
  rwa [List.count_filter (by simp [ha]), List.count_filter (by simp [ha])] at hcount

theorem of_flip (h : SameClasses (fun a b => cmp b a) l m) : SameClasses cmp l m := fun a => by
  simpa only [OrientedCmp.eq_comm (a := a)] using h a

theorem append_comm (h : ∀ a ∈ l, ∀ b ∈ r, cmp a b ≠ .eq) :
    SameClasses cmp (l ++ r) (r ++ l) := fun c => by
  rw [List.filter_append, List.filter_append]
  by_cases hl : l.filter (cmp c · = .eq) = []
  · rw [hl, List.nil_append, List.append_nil]
  · obtain ⟨a, ha⟩ := List.exists_mem_of_ne_nil _ hl
    obtain ⟨hal, hca⟩ := List.mem_filter.1 ha
    have hr : r.filter (cmp c · = .eq) = [] := by
      refine List.filter_eq_nil_iff.2 fun b hb hcb => h a hal b hb ?_
      exact TransCmp.eq_trans (OrientedCmp.eq_symm (of_decide_eq_true hca)) (of_decide_eq_true hcb)
    rw [hr, List.nil_append, List.append_nil]

theorem swap {a b : α} (h : cmp a b = .lt) (l : List α) :
    SameClasses cmp (a :: b :: l) (b :: a :: l) :=
  (append_comm (l := [a]) (r := [b]) (by simp [h])).append (refl l)

/-- A list may be split by a property that equal elements share. -/
theorem partition {p : α → Bool} (h : ∀ a ∈ l, ∀ b ∈ l, cmp a b = .eq → p a = p b) :
    SameClasses cmp l (l.filter p ++ l.filter (!p ·)) := by
  induction l with
  | nil => exact refl []
  | cons a l ih =>
      have ih := ih fun b hb c hc => h b (.tail a hb) c (.tail a hc)
      by_cases ha : p a
      · rw [List.filter_cons_of_pos ha, List.filter_cons_of_neg (by simp [ha])]
        exact ih.cons a
      · rw [List.filter_cons_of_neg ha, List.filter_cons_of_pos (by simp [ha])]
        refine (ih.cons a).trans ?_
        have hmove : SameClasses cmp ([a] ++ l.filter p) (l.filter p ++ [a]) := by
          refine append_comm fun b hb c hc hbc => ?_
          obtain rfl := List.mem_singleton.1 hb
          obtain ⟨hcl, hpc⟩ := List.mem_filter.1 hc
          exact ha ((h b (.head l) c (.tail b hcl) hbc).trans hpc)
        simpa using hmove.append (refl (l.filter (!p ·)))

theorem reverse_of_pairwise (h : l.Pairwise (cmp · · ≠ .eq)) : SameClasses cmp l l.reverse := by
  induction l with
  | nil => exact refl []
  | cons a l ih =>
      rw [List.pairwise_cons] at h
      rw [List.reverse_cons]
      refine ((ih h.2).cons a).trans (append_comm (l := [a]) fun b hb c hc => ?_)
      obtain rfl := List.mem_singleton.1 hb
      exact h.1 c (List.mem_reverse.1 hc)

/-- The classes and the order determine a list. -/
theorem eq_of_sorted (h : SameClasses cmp l m) (hl : l.Pairwise fun a b => (cmp a b).isLE)
    (hm : m.Pairwise fun a b => (cmp a b).isLE) : l = m := by
  induction l generalizing m with
  | nil => exact (List.eq_nil_iff_forall_not_mem.2 fun a ha => nomatch h.mem_iff.2 ha).symm
  | cons a l ih =>
      cases m with
      | nil => exact nomatch h.mem_iff.1 (.head l)
      | cons b m =>
          rw [List.pairwise_cons] at hl hm
          -- Each of the two first elements is a least one, so they are of one class.
          have hab : (cmp a b).isLE := by
            obtain hb | hb := List.mem_cons.1 (h.mem_iff.2 (.head m))
            · simp [hb, ReflCmp.compare_self]
            · exact hl.1 b hb
          have hba : (cmp b a).isLE := by
            obtain ha | ha := List.mem_cons.1 (h.mem_iff.1 (.head l))
            · simp [ha, ReflCmp.compare_self]
            · exact hm.1 a ha
          have heq : cmp a b = .eq := OrientedCmp.isLE_antisymm hab hba
          have hfilter := h a
          rw [List.filter_cons_of_pos (by simp [ReflCmp.compare_self]),
            List.filter_cons_of_pos (by simp [heq])] at hfilter
          obtain ⟨rfl, -⟩ := List.cons.inj hfilter
          refine congrArg (a :: ·) (ih (fun c => ?_) hl.2 hm.2)
          have hc := h c
          rw [List.filter_cons, List.filter_cons] at hc
          split at hc
          · exact (List.cons.inj hc).2
          · exact hc

end SameClasses

/-- A list is a stable sort of another. -/
structure SortsTo (cmp : α → α → Ordering) (l m : List α) : Prop where
  same : SameClasses cmp l m
  sorted : m.Pairwise fun a b => (cmp a b).isLE

namespace SortsTo

variable [TransCmp cmp] {l m n : List α}

theorem mem_iff (h : SortsTo cmp l m) {a : α} : a ∈ l ↔ a ∈ m := h.same.mem_iff

omit [TransCmp cmp] in
theorem of_same (h : SameClasses cmp l m) (h' : SortsTo cmp m n) : SortsTo cmp l n :=
  ⟨h.trans h'.same, h'.sorted⟩

theorem unique (h : SortsTo cmp l m) (h' : SortsTo cmp l n) : m = n :=
  (h.same.symm.trans h'.same).eq_of_sorted h.sorted h'.sorted

theorem of_reverse (h : SortsTo (fun a b => cmp b a) l.reverse m) : SortsTo cmp l m.reverse where
  same := by simpa using h.same.of_flip.reverse
  sorted := List.pairwise_reverse.2 h.sorted

theorem cons {a : α} (hle : ∀ b ∈ l, (cmp a b).isLE) (h : SortsTo cmp l m) :
    SortsTo cmp (a :: l) (a :: m) where
  same := h.same.cons a
  sorted := List.pairwise_cons.2 ⟨fun b hb => hle b (h.mem_iff.2 hb), h.sorted⟩

/-- Parts of which one comes before the other are sorted one by one. -/
theorem append {l₁ l₂ m₁ m₂ : List α} (h : SameClasses cmp l (l₁ ++ l₂)) (h₁ : SortsTo cmp l₁ m₁)
    (h₂ : SortsTo cmp l₂ m₂) (hle : ∀ a ∈ l₁, ∀ b ∈ l₂, (cmp a b).isLE) :
    SortsTo cmp l (m₁ ++ m₂) where
  same := h.trans (h₁.same.append h₂.same)
  sorted := List.pairwise_append.2
    ⟨h₁.sorted, h₂.sorted, fun a ha b hb => hle a (h₁.mem_iff.2 ha) b (h₂.mem_iff.2 hb)⟩

end SortsTo

end GraphAlgebra
