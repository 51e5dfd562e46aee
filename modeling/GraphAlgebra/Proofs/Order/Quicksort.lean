import GraphAlgebra.Proofs.Order.Merging
/-!
# Quicksort

A partition around a pivot keeps the order of the elements on either side, so quicksort is stable
(`StableSort.sorts_quicksort`). The pivot that an ancestor is not less than is a least element: no
element is less than the ancestor.
-/

namespace GraphAlgebra

open Std

namespace StableSort

variable {α : Type} {less : α → α → Bool}

/-! ### Pivots -/

theorem medianOfThree_lt {r : Nat → Nat → Bool} {i j k n : Nat} (hi : i < n) (hj : j < n)
    (hk : k < n) : medianOfThree r i j k < n := by
  rw [medianOfThree]
  split
  · split <;> assumption
  · exact hi

theorem nearMedian_lt (r : Nat → Nat → Bool) (start : Nat) {n : Nat} (hn : 0 < n) :
    nearMedian r start n < start + 8 * n := by
  induction start, n using nearMedian.induct with
  | case1 start n h ih₀ ih₄ ih₇ =>
      have hdiv : 8 * (n / 8) ≤ n := Nat.mul_div_le n 8
      have hpos : 0 < n / 8 := Nat.div_pos h (by omega)
      have ih₀ := ih₀ hpos
      have ih₄ := ih₄ hpos
      have ih₇ := ih₇ hpos
      rw [nearMedian, if_pos h]
      exact medianOfThree_lt (by omega) (by omega) (by omega)
  | case2 start n h =>
      rw [nearMedian, if_neg h]
      exact medianOfThree_lt (by omega) (by omega) (by omega)

/-! ### Quicksort -/

theorem withPivot_eq {q : α → Bool} {pivot : α} (hq : q pivot) (before after : List α) :
    withPivot q before pivot after = (before ++ pivot :: after).filter q := by
  rw [withPivot, List.filter_append, List.filter_cons_of_pos hq]

theorem filter_append_eq {q : α → Bool} {pivot : α} (hq : ¬q pivot) (before after : List α) :
    (before ++ after).filter q = (before ++ pivot :: after).filter q := by
  rw [List.filter_append, List.filter_append, List.filter_cons_of_neg hq]

theorem filter_append_withPivot_perm (q : α → Bool) (before : List α) (pivot : α)
    (after : List α) :
    ((before ++ after).filter q ++ withPivot (!q ·) before pivot after).Perm
      (before ++ pivot :: after) := by
  classical
  refine List.perm_iff_count.2 fun a => ?_
  have hbefore := (List.filter_append_perm q before).count_eq a
  have hafter := (List.filter_append_perm q after).count_eq a
  simp only [withPivot, List.filter_append, List.count_append, List.count_cons] at hbefore hafter ⊢
  omega

variable {slow : List α → Option (List α)}

theorem quicksort_of_length_le {l : List α} (h : l.length ≤ shortLength) (limit : Nat)
    (ancestor : Option α) : quicksort less slow limit ancestor l = smallSort less l := by
  unfold quicksort
  rw [if_pos h]

theorem quicksort_zero {l : List α} (h : ¬l.length ≤ shortLength) (ancestor : Option α) :
    quicksort less slow 0 ancestor l = slow l := by
  unfold quicksort
  rw [if_neg h]

/-- One step of quicksort, with the pivot in its place in the list. -/
theorem exists_quicksort_succ (less : α → α → Bool) (slow : List α → Option (List α))
    {l : List α} (h : ¬l.length ≤ shortLength) (limit : Nat)
    (ancestor : Option α) :
    ∃ before pivot after, l = before ++ pivot :: after ∧
      quicksort less slow (limit + 1) ancestor l =
        if ancestor.any (fun a => !less a pivot) ||
            ((before ++ after).filter (less · pivot)).isEmpty then do
          return withPivot (fun a => !less pivot a) before pivot after ++
            (← quicksort less slow limit none ((before ++ after).filter (less pivot ·)))
        else do
          return (← quicksort less slow limit ancestor ((before ++ after).filter (less · pivot))) ++
            (← quicksort less slow limit (some pivot)
              (withPivot (fun a => !less a pivot) before pivot after)) := by
  let position := nearMedian (lessAt less l) 0 (l.length / 8)
  have hpos : 0 < l.length / 8 := Nat.div_pos (by rw [shortLength] at h; omega) (by omega)
  have hlt : position < l.length := by
    have hposition := nearMedian_lt (lessAt less l) 0 hpos
    omega
  refine ⟨l.take position, l[position], l.drop (position + 1), by simp, ?_⟩
  conv => lhs; unfold quicksort
  rw [if_neg h]
  simp only [List.drop_eq_getElem_cons hlt, position]

theorem permutes_quicksort (hslow : Permutes slow) (limit : Nat) (ancestor : Option α) :
    Permutes (quicksort less slow limit ancestor) := by
  induction limit generalizing ancestor with
  | zero =>
      intro l m h
      by_cases hl : l.length ≤ shortLength
      · exact permutes_smallSort less l m ((quicksort_of_length_le hl ..).symm.trans h)
      · exact hslow l m ((quicksort_zero hl ancestor).symm.trans h)
  | succ limit ih =>
      intro l m h
      by_cases hl : l.length ≤ shortLength
      · exact permutes_smallSort less l m ((quicksort_of_length_le hl ..).symm.trans h)
      obtain ⟨before, pivot, after, rfl, hstep⟩ := exists_quicksort_succ less slow hl limit ancestor
      rw [hstep] at h
      split at h
      · obtain ⟨large, hlarge, ho⟩ := Option.bind_eq_some_iff.1 h
        obtain rfl := Option.some.inj ho
        exact ((ih none _ _ hlarge).append_left _).trans <| List.perm_append_comm.trans <|
          filter_append_withPivot_perm (less pivot ·) before pivot after
      · obtain ⟨small, hsmall, h⟩ := Option.bind_eq_some_iff.1 h
        obtain ⟨large, hlarge, ho⟩ := Option.bind_eq_some_iff.1 h
        obtain rfl := Option.some.inj ho
        exact ((ih _ _ _ hsmall).append (ih _ _ _ hlarge)).trans <|
          filter_append_withPivot_perm (less · pivot) before pivot after

variable {cmp : α → α → Ordering} {p : α → Prop} [TransCmp cmp]

/-- The elements up to a least one are in order before all others. -/
theorem sortsTo_least (h : IsLess less cmp p) {l m : List α} {pivot : α} (hl : ∀ a ∈ l, p a)
    (hpivot : pivot ∈ l) (hleast : ∀ a ∈ l, (cmp pivot a).isLE)
    (hm : SortsTo cmp (l.filter (less pivot ·)) m) :
    SortsTo cmp l (l.filter (!less pivot ·) ++ m) := by
  have hsame : SameClasses cmp l (l.filter (!less pivot ·) ++ l.filter (!!less pivot ·)) :=
    .partition fun a ha b hb heq => congrArg (!·) <|
      h.flip.congr_left (hl a ha) (hl b hb) (hl _ hpivot) (OrientedCmp.eq_symm heq)
  have hle : ∀ a ∈ l.filter (!less pivot ·), (cmp a pivot).isLE := fun a ha => by
    obtain ⟨hal, ha⟩ := List.mem_filter.1 ha
    exact (h.not_iff (hl _ hpivot) (hl a hal)).1 (by simpa using ha)
  have hequal : (l.filter (!less pivot ·)).Pairwise fun a b => (cmp a b).isLE := by
    refine List.pairwise_of_forall_mem_list fun a ha b hb => ?_
    exact TransCmp.isLE_trans (hle a ha) (hleast b (List.mem_filter.1 hb).1)
  simp only [Bool.not_not] at hsame
  exact .append hsame ⟨.refl _, hequal⟩ hm fun a ha b hb =>
    TransCmp.isLE_trans (hle a ha) (hleast b (List.mem_filter.1 hb).1)

theorem sortsTo_partition (h : IsLess less cmp p) {l s m : List α} {pivot : α} (hl : ∀ a ∈ l, p a)
    (hpivot : p pivot) (hs : SortsTo cmp (l.filter (less · pivot)) s)
    (hm : SortsTo cmp (l.filter (!less · pivot)) m) : SortsTo cmp l (s ++ m) := by
  have hsame : SameClasses cmp l (l.filter (less · pivot) ++ l.filter (!less · pivot)) :=
    .partition fun a ha b hb heq => h.congr_left (hl a ha) (hl b hb) hpivot heq
  refine .append hsame hs hm fun a ha b hb => ?_
  obtain ⟨hal, ha⟩ := List.mem_filter.1 ha
  obtain ⟨hbl, hb⟩ := List.mem_filter.1 hb
  have hlt : cmp a pivot = .lt := (h a pivot (hl a hal) hpivot).1 ha
  have hle : (cmp pivot b).isLE := (h.not_iff (hl b hbl) hpivot).1 (by simpa using hb)
  rw [TransCmp.lt_of_lt_of_isLE hlt hle]
  rfl

/-- A pivot is a least element if it is not greater than the ancestor or no element is less. -/
theorem isLE_of_least (h : IsLess less cmp p) {l : List α} {ancestor : Option α} {pivot : α}
    (hl : ∀ a ∈ l, p a) (hpivot : pivot ∈ l)
    (hancestor : ∀ a ∈ ancestor, p a ∧ ∀ b ∈ l, (cmp a b).isLE)
    (hleast : ancestor.any (fun a => !less a pivot) || (l.filter (less · pivot)).isEmpty) :
    ∀ b ∈ l, (cmp pivot b).isLE := by
  intro b hb
  obtain hany | hempty := Bool.or_eq_true_iff.1 hleast
  · cases ancestor with
    | none => cases hany
    | some a =>
        obtain ⟨ha, hle⟩ := hancestor a rfl
        have hpivota := (h.not_iff ha (hl _ hpivot)).1 (by simpa using hany)
        exact TransCmp.isLE_trans hpivota (hle b hb)
  · rw [List.isEmpty_iff, List.filter_eq_nil_iff] at hempty
    exact (h.not_iff (hl b hb) (hl _ hpivot)).1 (hempty b hb)

theorem sorts_quicksort (h : IsLess less cmp p) (hslow : Sorts slow cmp p) (limit : Nat)
    {ancestor : Option α} {l : List α} (hl : ∀ a ∈ l, p a)
    (hancestor : ∀ a ∈ ancestor, p a ∧ ∀ b ∈ l, (cmp a b).isLE) :
    ∃ m, quicksort less slow limit ancestor l = some m ∧ SortsTo cmp l m := by
  induction limit generalizing ancestor l with
  | zero =>
      by_cases hshort : l.length ≤ shortLength
      · rw [quicksort_of_length_le hshort]
        exact sorts_smallSort h l hl
      · rw [quicksort_zero hshort]
        exact hslow l hl
  | succ limit ih =>
      by_cases hshort : l.length ≤ shortLength
      · rw [quicksort_of_length_le hshort]
        exact sorts_smallSort h l hl
      obtain ⟨before, pivot, after, hsplit, hstep⟩ :=
        exists_quicksort_succ less slow hshort limit ancestor
      have hpivot : pivot ∈ l := by simp [hsplit]
      have hself : less pivot pivot = false := by
        simpa using (h.not_iff (hl _ hpivot) (hl _ hpivot)).2 ReflCmp.isLE_rfl
      rw [withPivot_eq (by simpa using hself), withPivot_eq (by simpa using hself),
        filter_append_eq (q := (less · pivot)) (by simpa using hself),
        filter_append_eq (q := (less pivot ·)) (by simpa using hself), ← hsplit] at hstep
      have hsub {q : α → Bool} {a : α} (ha : a ∈ l.filter q) : p a := hl a (List.mem_filter.1 ha).1
      rw [hstep]
      split
      case isTrue hleast =>
        have hle := isLE_of_least h hl hpivot hancestor hleast
        obtain ⟨large, hlarge, hsorts⟩ : ∃ m, quicksort less slow limit none
            (l.filter (less pivot ·)) = some m ∧ SortsTo cmp (l.filter (less pivot ·)) m :=
          ih (fun a ha => hsub ha) nofun
        exact ⟨_, by rw [hlarge]; rfl, sortsTo_least h hl hpivot hle hsorts⟩
      case isFalse =>
        obtain ⟨small, hsmall, hsorts⟩ : ∃ m, quicksort less slow limit ancestor
            (l.filter (less · pivot)) = some m ∧ SortsTo cmp (l.filter (less · pivot)) m :=
          ih (fun a ha => hsub ha) fun a ha =>
            ⟨(hancestor a ha).1, fun b hb => (hancestor a ha).2 b (List.mem_filter.1 hb).1⟩
        have hle : ∀ b ∈ l.filter (!less · pivot), (cmp pivot b).isLE := fun b hb => by
          obtain ⟨hbl, hb⟩ := List.mem_filter.1 hb
          exact (h.not_iff (hl b hbl) (hl _ hpivot)).1 (by simpa using hb)
        obtain ⟨large, hlarge, hsorts'⟩ : ∃ m, quicksort less slow limit (some pivot)
            (l.filter (!less · pivot)) = some m ∧ SortsTo cmp (l.filter (!less · pivot)) m :=
          ih (fun a ha => hsub ha) (by rintro a ⟨⟩; exact ⟨hl _ hpivot, hle⟩)
        exact ⟨_, by rw [hsmall, hlarge]; rfl,
          sortsTo_partition h hl (hl _ hpivot) hsorts hsorts'⟩

end StableSort

end GraphAlgebra
