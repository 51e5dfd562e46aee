import GraphAlgebra.Proofs.Expr.SumOrder
import GraphAlgebra.Proofs.Solution.Sorting
/-!
# Lowest and highest values

Where the literal values of an expression can be compared with each other, the lowest value of a
group is the first one that none comes before, and the highest value is the last one that none comes
after. Which of several equal ones it is may depend on the order of the rows and on whether values
are taken only once, but nothing else does (`Aggregator.min_max_extremal`).
-/

namespace GraphAlgebra

/-! ### Going along a list -/

section

variable {α : Type} (keep : α → α → Prop) [DecidableRel keep]

/-- Along a list, the element at hand is kept or the next one is taken. The one in the end is kept
over all behind it and was taken for all before it. -/
theorem exists_split_of_foldl_ite {t m : α} {ts : List α}
    (h : ∀ a ∈ t :: ts, ∀ b ∈ t :: ts, ∀ c ∈ t :: ts,
      (keep a b ↔ keep b c) → (keep a c ↔ keep a b))
    (hm : ts.foldl (fun a b => if keep a b then a else b) t = m) :
    ∃ before after, t :: ts = before ++ m :: after ∧
      (∀ b ∈ before, ¬ keep b m) ∧ ∀ a ∈ after, keep m a := by
  induction ts using List.reverseRecOn generalizing m with
  | nil =>
      obtain rfl := hm
      exact ⟨[], [], rfl, nofun, nofun⟩
  | append_singleton ts x ih =>
      have hsub : t :: ts ⊆ t :: (ts ++ [x]) := by simp
      have hx : x ∈ t :: (ts ++ [x]) := by simp
      obtain ⟨before, after, heq, hbefore, hafter⟩ :=
        ih (fun a ha b hb c hc => h a (hsub ha) b (hsub hb) c (hsub hc)) rfl
      rw [List.foldl_concat] at hm
      generalize ts.foldl (fun a b => if keep a b then a else b) t = n at hm heq hbefore hafter
      have hn : n ∈ t :: (ts ++ [x]) := hsub (by simp [heq])
      by_cases hkeep : keep n x
      · rw [if_pos hkeep] at hm
        subst hm
        refine ⟨before, after ++ [x], ?_, hbefore, ?_⟩
        · rw [← List.cons_append, heq, List.append_assoc, List.cons_append]
        · rw [List.forall_mem_append, List.forall_mem_singleton]
          exact ⟨hafter, hkeep⟩
      · rw [if_neg hkeep] at hm
        subst hm
        refine ⟨t :: ts, [], rfl, fun b hb hbx => ?_, nofun⟩
        have hb' := hsub hb
        rw [heq, List.mem_append, List.mem_cons] at hb
        obtain hb | rfl | hb := hb
        · have hbn := hbefore b hb
          exact hbn ((h b hb' n hn x hx (iff_of_false hbn hkeep)).1 hbx)
        · exact hkeep hbx
        · have hnb := hafter b hb
          exact hkeep ((h n hn b hb' x hx (iff_of_true hnb hbx)).2 hnb)

end

/-! ### The lowest and the highest term -/

namespace Term

def IsLowest (ts : List Term) (t : Term) : Prop := ∀ u ∈ ts, orderTerms (some u) (some t) ≠ .lt

def IsHighest (ts : List Term) (t : Term) : Prop := ∀ u ∈ ts, orderTerms (some u) (some t) ≠ .gt

instance (ts : List Term) (t : Term) : Decidable (t.IsLowest ts) :=
  inferInstanceAs (Decidable (∀ u ∈ ts, _))

instance (ts : List Term) (t : Term) : Decidable (t.IsHighest ts) :=
  inferInstanceAs (Decidable (∀ u ∈ ts, _))

/-- Any two terms of a list, and any three, are in order. -/
def InOrder (ts : List Term) : Prop :=
  PreordersOn (fun s t => orderTerms (some s) (some t)) (· ∈ ts)

theorem orderTerms_self (t : Term) : orderTerms (some t) (some t) = .eq := by
  have h := orderTerms_swap (some t) (some t)
  generalize orderTerms (some t) (some t) = o at h
  cases o <;> trivial

theorem orderTerms_eq_gt_iff {t u : Term} :
    orderTerms (some t) (some u) = .gt ↔ orderTerms (some u) (some t) = .lt := by
  rw [orderTerms_swap, ← Ordering.swap_inj, Ordering.swap_swap, Ordering.swap_gt]

theorem orderTerms_eq_of_ne_lt {t u : Term} (htu : orderTerms (some t) (some u) ≠ .lt)
    (hut : orderTerms (some u) (some t) ≠ .lt) : orderTerms (some t) (some u) = .eq := by
  rw [ne_eq, ← orderTerms_eq_gt_iff] at hut
  generalize orderTerms (some t) (some u) = o at htu hut
  cases o <;> trivial

theorem IsLowest.orderTerms_eq {ts us : List Term} {t u : Term} (ht : t.IsLowest ts)
    (hu : u.IsLowest us) (htu : t ∈ us) (hut : u ∈ ts) : orderTerms (some t) (some u) = .eq :=
  orderTerms_eq_of_ne_lt (hu t htu) (ht u hut)

theorem IsHighest.orderTerms_eq {ts us : List Term} {t u : Term} (ht : t.IsHighest ts)
    (hu : u.IsHighest us) (htu : t ∈ us) (hut : u ∈ ts) : orderTerms (some t) (some u) = .eq :=
  orderTerms_eq_of_ne_lt (mt orderTerms_eq_gt_iff.2 (ht u hut))
    (mt orderTerms_eq_gt_iff.2 (hu t htu))

variable {t : Term} {before after : List Term}

/-- A term that is before all that stand before it, and not after any behind it, is the first lowest
one. -/
theorem find?_isLowest (hbefore : ∀ b ∈ before, orderTerms (some b) (some t) = .gt)
    (hafter : ∀ a ∈ after, orderTerms (some t) (some a) ≠ .gt) :
    (before ++ t :: after).find? (·.IsLowest (before ++ t :: after)) = some t := by
  have hlowest : t.IsLowest (before ++ t :: after) := by
    intro u hu
    rw [List.mem_append, List.mem_cons] at hu
    obtain hu | rfl | hu := hu
    · rw [hbefore u hu]
      decide
    · rw [orderTerms_self]
      decide
    · exact mt orderTerms_eq_gt_iff.2 (hafter u hu)
  have hnot (b : Term) (hb : b ∈ before) : ¬ b.IsLowest (before ++ t :: after) := fun hlow =>
    hlow t (by simp) (orderTerms_eq_gt_iff.1 (hbefore b hb))
  exact List.find?_eq_some_iff_append.2
    ⟨decide_eq_true hlowest, before, after, rfl, fun b hb => by simpa using hnot b hb⟩

theorem find?_reverse_isHighest (hbefore : ∀ b ∈ before, orderTerms (some b) (some t) ≠ .gt)
    (hafter : ∀ a ∈ after, orderTerms (some t) (some a) = .gt) :
    (before ++ t :: after).reverse.find? (·.IsHighest (before ++ t :: after)) = some t := by
  have hhighest : t.IsHighest (before ++ t :: after) := by
    intro u hu
    rw [List.mem_append, List.mem_cons] at hu
    obtain hu | rfl | hu := hu
    · exact hbefore u hu
    · rw [orderTerms_self]
      decide
    · rw [orderTerms_eq_gt_iff.1 (hafter u hu)]
      decide
  have hnot (a : Term) (ha : a ∈ after) : ¬ a.IsHighest (before ++ t :: after) := fun hhigh =>
    hhigh t (by simp) (hafter a ha)
  exact List.find?_eq_some_iff_append.2
    ⟨decide_eq_true hhighest, after.reverse, before.reverse, by simp,
      fun a ha => by simpa using hnot a (List.mem_reverse.1 ha)⟩

end Term

namespace Aggregator

open Term

variable {ts us : List Term}

theorem lower_eq_ite :
    lower = fun s t => if ¬ orderTerms (some s) (some t) = .gt then s else t := by
  funext s t
  rw [lower, ite_not]

theorem foldFirst_lower_eq (h : InOrder ts) : foldFirst lower ts = ts.find? (·.IsLowest ts) := by
  cases ts with
  | nil => rfl
  | cons t ts =>
      obtain ⟨before, after, heq, hbefore, hafter⟩ :=
        exists_split_of_foldl_ite (fun s t => ¬ orderTerms (some s) (some t) = .gt)
          (fun a ha b hb c hc hiff => not_congr (h.gt_iff_gt ha hb hc (not_iff_not.1 hiff))) rfl
      have hfind := find?_isLowest (fun b hb => not_not.1 (hbefore b hb)) hafter
      rw [← heq] at hfind
      rw [hfind, foldFirst, lower_eq_ite]

theorem foldFirst_higher_eq (h : InOrder ts) :
    foldFirst higher ts = ts.reverse.find? (·.IsHighest ts) := by
  cases ts with
  | nil => rfl
  | cons t ts =>
      obtain ⟨before, after, heq, hbefore, hafter⟩ :=
        exists_split_of_foldl_ite (fun s t => orderTerms (some s) (some t) = .gt)
          (fun a ha b hb c hc hiff => h.gt_iff_gt ha hb hc hiff) rfl
      have hfind := find?_reverse_isHighest hbefore hafter
      rw [← heq] at hfind
      rw [hfind]
      rfl

theorem foldFirst_eq_none_iff {f : Term → Term → Term} : foldFirst f ts = none ↔ ts = [] := by
  cases ts <;> simp [foldFirst]

/-- The terms that two lists with the same elements are taken together to are equal in order if any
two such terms are. -/
theorem rel_foldFirst {f : Term → Term → Term} (hmem : ∀ t, t ∈ us ↔ t ∈ ts)
    (heq : ∀ t u, foldFirst f ts = some t → foldFirst f us = some u →
      orderTerms (some t) (some u) = .eq) :
    Option.Rel (fun t u => orderTerms (some t) (some u) = .eq) (foldFirst f ts)
      (foldFirst f us) := by
  have hnone : foldFirst f ts = none ↔ foldFirst f us = none := by
    simp only [foldFirst_eq_none_iff, List.eq_nil_iff_forall_not_mem, hmem]
  cases ht : foldFirst f ts with
  | none =>
      rw [hnone.1 ht]
      exact .none
  | some t =>
      cases hu : foldFirst f us with
      | none => rw [hnone.2 hu] at ht; cases ht
      | some u => exact .some (heq t u ht hu)

theorem isLowest_of_foldFirst {t : Term} (h : InOrder ts) (ht : foldFirst lower ts = some t) :
    t ∈ ts ∧ t.IsLowest ts := by
  rw [foldFirst_lower_eq h] at ht
  exact ⟨List.mem_of_find?_eq_some ht, by simpa using List.find?_some ht⟩

theorem isHighest_of_foldFirst {t : Term} (h : InOrder ts) (ht : foldFirst higher ts = some t) :
    t ∈ ts ∧ t.IsHighest ts := by
  rw [foldFirst_higher_eq h] at ht
  exact ⟨List.mem_reverse.1 (List.mem_of_find?_eq_some ht), by simpa using List.find?_some ht⟩

theorem rel_summarize {s : Summary} (hs : s ∈ [Summary.min, .max]) (hts : InOrder ts)
    (hmem : ∀ t, t ∈ us ↔ t ∈ ts) (faulty faulty' : Bool) :
    Option.Rel (fun t u => orderTerms (some t) (some u) = .eq) (summarize s faulty ts)
      (summarize s faulty' us) := by
  have hus : InOrder us := hts.mono fun t => (hmem t).1
  obtain rfl | rfl : s = .min ∨ s = .max := by simpa using hs
  · refine rel_foldFirst hmem fun t u ht hu => ?_
    obtain ⟨ht, htlow⟩ := isLowest_of_foldFirst hts ht
    obtain ⟨hu, hulow⟩ := isLowest_of_foldFirst hus hu
    exact htlow.orderTerms_eq hulow ((hmem t).2 ht) ((hmem u).1 hu)
  · refine rel_foldFirst hmem fun t u ht hu => ?_
    obtain ⟨ht, hthigh⟩ := isHighest_of_foldFirst hts ht
    obtain ⟨hu, huhigh⟩ := isHighest_of_foldFirst hus hu
    exact hthigh.orderTerms_eq huhigh ((hmem t).2 ht) ((hmem u).1 hu)

/-! ### Lowest and highest values of groups -/

variable {e : Expr} {rows : List Binding}

theorem mem_counted_iff {distinct : Bool} {t : Term} :
    t ∈ counted e distinct rows ↔ t ∈ valuesOf e rows := by
  refine ⟨mem_valuesOf_of_mem_counted, fun h => ?_⟩
  cases distinct with
  | false => exact h
  | true => exact ((listsFirsts_firstOccurrences _).mem_iff t).2 h

theorem find?_counted (p : Term → Bool) (distinct : Bool) :
    (counted e distinct rows).find? p = (valuesOf e rows).find? p := by
  cases distinct with
  | false => rfl
  | true => exact find?_firstOccurrences p _

theorem inOrder_valuesOf (h : SortCondition.Comparable ⟨e, .ascending⟩ rows) :
    InOrder (valuesOf e rows) := by
  obtain ⟨k, hk⟩ := h.exists_kind
  refine ((preordersOn_orderTerms k).comap some).mono fun t ht => ?_
  obtain ⟨row, hrow, hval⟩ := List.mem_filterMap.1 ht
  have hkey := hk row hrow
  rwa [SortCondition.key, hval] at hkey

theorem valuesOf_eq_nil_iff :
    valuesOf e rows = [] ↔ ∀ row ∈ rows, ∀ t, e.eval row ≠ .ok t := by
  rw [valuesOf, List.filterMap_eq_nil_iff]
  refine forall₂_congr fun row _ => ?_
  cases e.eval row <;> simp [Except.toOption]

/-- Where the literal values of an expression can be compared with each other, the lowest value is
the first one that no value comes before, and the highest is the last one that no value comes after,
where values that are taken only once stand at their first places. There is none only where no row
has a value. In another order, or with another choice on taking values once, there is one that is
equal in order. -/
theorem min_max_extremal (h : SortCondition.Comparable ⟨e, .ascending⟩ rows) (distinct : Bool) :
    (Aggregator.values .min e distinct).apply rows =
      .ok ((valuesOf e rows).find? (·.IsLowest (valuesOf e rows))) ∧
    (Aggregator.values .max e distinct).apply rows =
      .ok ((counted e distinct rows).reverse.find? (·.IsHighest (valuesOf e rows))) ∧
    ∀ s ∈ [Summary.min, .max],
      ((Aggregator.values s e distinct).apply rows = .ok none ↔
        ∀ row ∈ rows, ∀ t, e.eval row ≠ .ok t) ∧
      ∀ rows' : List Binding, rows'.Perm rows → ∀ distinct' : Bool,
        ∃ o o', (Aggregator.values s e distinct).apply rows = .ok o ∧
          (Aggregator.values s e distinct').apply rows' = .ok o' ∧
          Option.Rel (fun t u => orderTerms (some t) (some u) = .eq) o o' := by
  have hvalues := inOrder_valuesOf h
  have hcounted : InOrder (counted e distinct rows) := hvalues.mono fun t => mem_counted_iff.1
  have happly (s : Summary) (distinct : Bool) (rows : List Binding) :
      (Aggregator.values s e distinct).apply rows =
        .ok (summarize s (anyFault e rows) (counted e distinct rows)) := rfl
  refine ⟨?_, ?_, fun s hs => ⟨?_, fun rows' hrows' distinct' => ?_⟩⟩
  · have hlow (t : Term) : t.IsLowest (counted e distinct rows) ↔ t.IsLowest (valuesOf e rows) :=
      forall_congr' fun u => imp_congr_left mem_counted_iff
    rw [happly, summarize, foldFirst_lower_eq hcounted, find?_counted]
    simp only [decide_eq_decide.2 (hlow _)]
  · have hhigh (t : Term) :
        t.IsHighest (counted e distinct rows) ↔ t.IsHighest (valuesOf e rows) :=
      forall_congr' fun u => imp_congr_left mem_counted_iff
    rw [happly, summarize, foldFirst_higher_eq hcounted]
    simp only [decide_eq_decide.2 (hhigh _)]
  · have hnil : counted e distinct rows = [] ↔ valuesOf e rows = [] := by
      simp only [List.eq_nil_iff_forall_not_mem, mem_counted_iff]
    rw [happly, Except.ok.injEq, ← valuesOf_eq_nil_iff, ← hnil]
    obtain rfl | rfl : s = .min ∨ s = .max := by simpa using hs
    · exact foldFirst_eq_none_iff
    · exact foldFirst_eq_none_iff
  · have hperm : (valuesOf e rows').Perm (valuesOf e rows) := hrows'.filterMap _
    refine ⟨_, _, happly s distinct rows, happly s distinct' rows',
      rel_summarize hs hcounted (fun t => ?_) _ _⟩
    rw [mem_counted_iff, mem_counted_iff, hperm.mem_iff]

/-- Of two spellings of the lower number the first one is taken. Which of those of the higher number
is taken depends on whether values are taken only once. -/
theorem min_max_extremal_spellings :
    let e : Expr := .var ⟨"x"⟩
    let number (text : String) : Term := .typed text Iri.integer
    let rows : List Binding :=
      .single ⟨"y"⟩ (.string "a") ::
        ["2", "01", "1", "02", "2"].map fun text => .single ⟨"x"⟩ (number text)
    SortCondition.Comparable ⟨e, .ascending⟩ rows ∧
      (Aggregator.values .min e true).apply rows = .ok (some (number "01")) ∧
      (Aggregator.values .max e false).apply rows = .ok (some (number "2")) ∧
      (Aggregator.values .max e true).apply rows = .ok (some (number "02")) ∧
      orderTerms (some (number "2")) (some (number "02")) = .eq := by
  intro e number rows
  have hintegers : ∀ t ∈ valuesOf e rows, ∀ l ∈ t.literal?, l.kind = .integer := by
    decide +kernel
  have hcomparable : SortCondition.Comparable ⟨e, .ascending⟩ rows := by
    refine .inl fun row hrow l hl => Literal.kind_eq_integer_iff.1 ?_
    exact hintegers _ (List.mem_filterMap.2 ⟨row, hrow, hl⟩) l rfl
  obtain ⟨hmin, hmaxOnce, -⟩ := min_max_extremal hcomparable true
  obtain ⟨-, hmax, hboth⟩ := min_max_extremal hcomparable false
  have hlowest : (valuesOf e rows).find? (·.IsLowest (valuesOf e rows)) = some (number "01") := by
    decide +kernel
  have hhighest : (counted e false rows).reverse.find? (·.IsHighest (valuesOf e rows)) =
      some (number "2") := by
    decide +kernel
  have hhighestOnce : (counted e true rows).reverse.find? (·.IsHighest (valuesOf e rows)) =
      some (number "02") := by
    decide +kernel
  rw [hlowest] at hmin
  rw [hhighest] at hmax
  rw [hhighestOnce] at hmaxOnce
  obtain ⟨o, o', ho, ho', hrel⟩ := (hboth .max (by simp)).2 rows (.refl rows) true
  obtain rfl := Except.ok.inj (ho.symm.trans hmax)
  obtain rfl := Except.ok.inj (ho'.symm.trans hmaxOnce)
  obtain hrel | _ := hrel
  exact ⟨hcomparable, hmin, hmax, hmaxOnce, hrel⟩

end Aggregator

end GraphAlgebra
