import GraphAlgebra.Proofs.Number.Digits
import GraphAlgebra.Proofs.Number.PartialSums
import GraphAlgebra.Proofs.Order.Occurrence
import GraphAlgebra.Proofs.Solution.Merge
/-!
# Sums and means of integers in some order

The integers of a group are added one by one, and there is no sum if a partial sum leaves the value
space. So whether a sum or a mean has a value may depend on the order of the rows, but not the value.
The order makes no difference exactly if the total is out of range, and then there is no value in any
order, or no order leaves the range (`Aggregator.sum_avg_perm_iff`).
-/

namespace GraphAlgebra

namespace Term

def IsInteger (t : Term) : Prop := ∃ n, t.numeric? = some (.integer n)

def integerValue (t : Term) : Int :=
  match t.numeric? with
  | some (.integer n) => n.val
  | _ => 0

theorem integerValue_eq {t : Term} {n : BoundedInt} (h : t.numeric? = some (.integer n)) :
    t.integerValue = n.val := by
  rw [integerValue, h]

theorem IsInteger.inRange {t : Term} (h : t.IsInteger) : InRange t.integerValue := by
  obtain ⟨n, hn⟩ := h
  rw [integerValue_eq hn]
  exact ⟨n.le_val, n.val_le⟩

theorem isInteger_integer {n : Int} (h : InRange n) : (integer n).IsInteger :=
  ⟨⟨n, h.1, h.2⟩, numeric?_integer ⟨n, h.1, h.2⟩⟩

end Term

namespace Aggregator

/-! ### Sums and means of terms -/

theorem addValue_eq {a n : BoundedInt} {t : Term} (h : t.numeric? = some (.integer n)) :
    addValue (.integer a) t = (BoundedInt.ofInt? (a.val + n.val)).map .integer := by
  rw [addValue, h]
  change (boundedOrOverflow (a.val + n.val)).toOption = _
  rw [boundedOrOverflow]
  cases BoundedInt.ofInt? (a.val + n.val) <;> rfl

theorem foldlM_addValue_eq_some_iff {ts : List Term} (hts : ∀ t ∈ ts, t.IsInteger)
    {a : BoundedInt} {m : Numeric} :
    ts.foldlM addValue (.integer a) = some m ↔
      StaysInRange a.val (ts.map Term.integerValue) ∧
        ∃ b : BoundedInt, m = .integer b ∧ b.val = a.val + (ts.map Term.integerValue).sum := by
  induction ts generalizing a with
  | nil =>
      have hval (b : BoundedInt) : b.val = a.val ↔ b = a := by
        obtain ⟨_, _, _⟩ := a
        obtain ⟨_, _, _⟩ := b
        simp
      simp [StaysInRange, hval, eq_comm]
  | cons t ts ih =>
      obtain ⟨⟨n, hn⟩, hts⟩ := List.forall_mem_cons.1 hts
      rw [List.foldlM_cons, addValue_eq hn, List.map_cons, Term.integerValue_eq hn, List.sum_cons,
        ← Int.add_assoc, StaysInRange, InRange]
      cases hsum : BoundedInt.ofInt? (a.val + n.val) with
      | none =>
          have hout := BoundedInt.ofInt?_eq_none_iff.1 hsum
          have hnot : ¬(minInteger ≤ a.val + n.val ∧ a.val + n.val ≤ maxInteger) := by omega
          simp [hnot]
      | some c =>
          have hc := BoundedInt.ofInt?_eq_some_iff.1 hsum
          have hin : minInteger ≤ c.val ∧ c.val ≤ maxInteger := ⟨c.le_val, c.val_le⟩
          rw [← hc, and_iff_right hin]
          exact ih hts

theorem sum?_eq_some_iff {ts : List Term} (hts : ∀ t ∈ ts, t.IsInteger) {m : Numeric} :
    sum? ts = some m ↔ StaysInRange 0 (ts.map Term.integerValue) ∧
      ∃ b : BoundedInt, m = .integer b ∧ b.val = (ts.map Term.integerValue).sum := by
  have hfold := foldlM_addValue_eq_some_iff hts (a := .zero) (m := m)
  rwa [show BoundedInt.zero.val = 0 from rfl, zero_add] at hfold

theorem isSome_sum?_iff {ts : List Term} (hts : ∀ t ∈ ts, t.IsInteger) :
    (sum? ts).isSome ↔ StaysInRange 0 (ts.map Term.integerValue) := by
  rw [Option.isSome_iff_exists]
  constructor
  · rintro ⟨m, hm⟩
    exact ((sum?_eq_some_iff hts).1 hm).1
  · intro hstays
    have hin : InRange (ts.map Term.integerValue).sum := by
      have htotal := hstays.total (by decide)
      rwa [zero_add] at htotal
    exact ⟨_, (sum?_eq_some_iff hts).2 ⟨hstays, ⟨_, hin.1, hin.2⟩, rfl, rfl⟩⟩

theorem sum?_perm {ts us : List Term} (hts : ∀ t ∈ ts, t.IsInteger) (h : us.Perm ts)
    {m m' : Numeric} (hm : sum? ts = some m) (hm' : sum? us = some m') : m' = m := by
  have hus : ∀ t ∈ us, t.IsInteger := fun t ht => hts t (h.subset ht)
  obtain ⟨-, b, rfl, hb⟩ := (sum?_eq_some_iff hts).1 hm
  obtain ⟨-, b', rfl, hb'⟩ := (sum?_eq_some_iff hus).1 hm'
  have hval : b'.val = b.val := by rw [hb, hb', (h.map _).sum_eq]
  obtain ⟨_, _, _⟩ := b
  obtain ⟨_, _, _⟩ := b'
  cases hval
  rfl

theorem sum?_congr {ts us : List Term} (hts : ∀ t ∈ ts, t.IsInteger) (h : us.Perm ts)
    (hsome : (sum? us).isSome ↔ (sum? ts).isSome) : sum? us = sum? ts := by
  cases hm : sum? ts with
  | none =>
      rw [hm] at hsome
      simpa using hsome
  | some m =>
      rw [hm] at hsome
      obtain ⟨m', hm'⟩ := Option.isSome_iff_exists.1 (hsome.2 rfl)
      rw [hm', sum?_perm hts h hm hm']

/-- All orders have a sum or none has one, exactly if no order leaves the range or the total does. -/
theorem forall_perm_isSome_sum?_iff {ts : List Term} (hts : ∀ t ∈ ts, t.IsInteger) :
    (∀ us : List Term, us.Perm ts → ((sum? us).isSome ↔ (sum? ts).isSome)) ↔
      (InRange (ts.map Term.integerValue).sum →
        InRange (positiveSum (ts.map Term.integerValue)) ∧
          InRange (negativeSum (ts.map Term.integerValue))) := by
  have hsome {us : List Term} (h : us.Perm ts) :
      (sum? us).isSome ↔ StaysInRange 0 (us.map Term.integerValue) :=
    isSome_sum?_iff fun t ht => hts t (h.subset ht)
  have hin : ∀ n ∈ ts.map Term.integerValue, InRange n := by
    rw [List.forall_mem_map]
    exact fun t ht => (hts t ht).inRange
  rw [← forall_perm_staysInRange_congr_iff hin]
  constructor
  · intro h ns hns
    -- An order of the integers is one of the terms that stand for them.
    have hcomp := List.eq_map_comp_perm Term.integerValue
    obtain ⟨us, rfl, hus⟩ := (congrFun (congrFun hcomp ns) ts).mpr hns
    rw [← hsome hus, ← hsome (.refl ts)]
    exact h us hus
  · intro h us hus
    rw [hsome hus, hsome (.refl ts)]
    exact h _ (hus.map _)

theorem mean?_congr {ts us : List Term} (hlength : us.length = ts.length)
    (hsum : sum? us = sum? ts) : mean? us = mean? ts := by
  have hempty : us.isEmpty = ts.isEmpty := by
    rw [Bool.eq_iff_iff, List.isEmpty_iff_length_eq_zero, List.isEmpty_iff_length_eq_zero, hlength]
  rw [mean?, mean?, hempty, hsum, hlength]

theorem mean?_eq_none {ts : List Term} (h : sum? ts = none) : mean? ts = none := by
  cases ts with
  | nil => cases h
  | cons t ts => simp [mean?, h]

section

variable {s : Summary} {ts us : List Term}

theorem summarize_congr (hs : s ∈ [.sum, .avg]) (hlength : us.length = ts.length)
    (hsum : sum? us = sum? ts) : summarize s false us = summarize s false ts := by
  obtain rfl | rfl : s = .sum ∨ s = .avg := by simpa using hs
  · simp only [summarize, hsum]
  · simp only [summarize, mean?_congr hlength hsum]

theorem isSome_sum?_of_summarize (hs : s ∈ [.sum, .avg]) {t : Term}
    (h : summarize s false ts = some t) : (sum? ts).isSome := by
  rw [← Option.ne_none_iff_isSome]
  intro hnone
  obtain rfl | rfl : s = .sum ∨ s = .avg := by simpa using hs
  · simp [summarize, hnone] at h
  · simp [summarize, mean?_eq_none hnone] at h

end

/-! ### Sums and means of groups -/

/-- The values that an aggregate takes together, equal ones only once if it is distinct. -/
def counted (e : Expr) (distinct : Bool) (rows : List Binding) : List Term :=
  if distinct then firstOccurrences (valuesOf e rows) else valuesOf e rows

theorem counted_perm (e : Expr) (distinct : Bool) {rows rows' : List Binding}
    (h : rows'.Perm rows) : (counted e distinct rows').Perm (counted e distinct rows) := by
  have hvalues : (valuesOf e rows').Perm (valuesOf e rows) := h.filterMap _
  cases distinct with
  | false => exact hvalues
  | true => exact firstOccurrences_perm hvalues

theorem mem_valuesOf_of_mem_counted {e : Expr} {distinct : Bool} {rows : List Binding} {t : Term}
    (h : t ∈ counted e distinct rows) : t ∈ valuesOf e rows := by
  cases distinct with
  | false => exact h
  | true => exact ((listsFirsts_firstOccurrences _).mem_iff t).1 h

/-- The rows in which a variable has some integers in turn. -/
def integerRows (v : Var) (ns : List Int) : List Binding := ns.map fun n => .single v (.integer n)

theorem eval_var_integerRows {v : Var} {ns : List Int} (h : ∀ n ∈ ns, InRange n) :
    ∀ row ∈ integerRows v ns, ∃ t, (Expr.var v).eval row = .ok t ∧ t.IsInteger := by
  rw [integerRows, List.forall_mem_map]
  intro n hn
  refine ⟨.integer n, ?_, Term.isInteger_integer (h n hn)⟩
  rw [Expr.eval, Binding.get?_single, if_pos rfl]

section

variable {e : Expr} {rows : List Binding}

theorem forall₂_valuesOf (h : ∀ row ∈ rows, ∃ t, e.eval row = .ok t) :
    List.Forall₂ (fun t row => e.eval row = .ok t) (valuesOf e rows) rows := by
  induction rows with
  | nil => exact .nil
  | cons row rows ih =>
      obtain ⟨⟨t, ht⟩, hrows⟩ := List.forall_mem_cons.1 h
      rw [valuesOf, List.filterMap_cons, ht]
      exact .cons ht (ih hrows)

theorem valuesOf_eq {ts : List Term} (h : List.Forall₂ (fun t row => e.eval row = .ok t) ts rows) :
    valuesOf e rows = ts := by
  induction h with
  | nil => rfl
  | cons ht _ ih =>
      rw [valuesOf, List.filterMap_cons, ht]
      exact congrArg _ ih

/-- Every order of the values is the one that some order of the rows has. -/
theorem exists_perm_counted_eq (h : ∀ row ∈ rows, ∃ t, e.eval row = .ok t) {distinct : Bool}
    {us : List Term} (hus : us.Perm (counted e distinct rows)) :
    ∃ rows' : List Binding, rows'.Perm rows ∧ counted e distinct rows' = us := by
  have hvalues {vs : List Term} (hvs : vs.Perm (valuesOf e rows)) :
      ∃ rows' : List Binding, rows'.Perm rows ∧ valuesOf e rows' = vs := by
    obtain ⟨rows', hrows', hperm⟩ := List.perm_comp_forall₂ hvs (forall₂_valuesOf h)
    exact ⟨rows', hperm, valuesOf_eq hrows'⟩
  cases distinct with
  | false => exact hvalues hus
  | true =>
      obtain ⟨vs, hvs, hfirsts⟩ := exists_perm_firstOccurrences_eq hus
      obtain ⟨rows', hrows', heq⟩ := hvalues hvs
      exact ⟨rows', hrows', by rw [counted, if_pos rfl, heq, hfirsts]⟩

theorem anyFault_eq_false (h : ∀ row ∈ rows, ∃ t, e.eval row = .ok t) :
    anyFault e rows = false := by
  rw [anyFault, List.any_eq_false]
  intro row hrow
  obtain ⟨t, ht⟩ := h row hrow
  simp [ht, Except.toOption]

theorem apply_values_eq (h : ∀ row ∈ rows, ∃ t, e.eval row = .ok t) (s : Summary)
    (distinct : Bool) :
    (Aggregator.values s e distinct).apply rows =
      .ok (summarize s false (counted e distinct rows)) := by
  rw [apply, anyFault_eq_false h, counted]

def integersOf (e : Expr) (distinct : Bool) (rows : List Binding) : List Int :=
  (counted e distinct rows).map Term.integerValue

theorem isInteger_of_mem_counted (h : ∀ row ∈ rows, ∃ t, e.eval row = .ok t ∧ t.IsInteger)
    {distinct : Bool} : ∀ t ∈ counted e distinct rows, t.IsInteger := by
  intro t ht
  obtain ⟨row, hrow, hval⟩ := List.mem_filterMap.1 (mem_valuesOf_of_mem_counted ht)
  obtain ⟨t', ht', hint⟩ := h row hrow
  rw [ht'] at hval
  exact Option.some.inj hval ▸ hint

/-- The sum and the mean of the integers of some rows depend on the order of the rows only in
whether there are any. They do not depend on it at all exactly if no order leaves the range, or the
total does. -/
theorem sum_avg_perm_iff (distinct : Bool)
    (h : ∀ row ∈ rows, ∃ t, e.eval row = .ok t ∧ t.IsInteger) :
    (∀ s ∈ [Summary.sum, .avg], ∀ rows' : List Binding, rows'.Perm rows → ∀ t t' : Term,
      (Aggregator.values s e distinct).apply rows = .ok (some t) →
        (Aggregator.values s e distinct).apply rows' = .ok (some t') → t' = t) ∧
    ((∀ s ∈ [Summary.sum, .avg], ∀ rows' : List Binding, rows'.Perm rows →
      (Aggregator.values s e distinct).apply rows' = (Aggregator.values s e distinct).apply rows) ↔
        (InRange (integersOf e distinct rows).sum →
          InRange (positiveSum (integersOf e distinct rows)) ∧
            InRange (negativeSum (integersOf e distinct rows)))) := by
  have hvalue : ∀ row ∈ rows, ∃ t, e.eval row = .ok t := fun row hrow =>
    (h row hrow).imp fun _ ht => ht.1
  have happly (s : Summary) {rows' : List Binding} (hrows' : rows'.Perm rows) :
      (Aggregator.values s e distinct).apply rows' =
        .ok (summarize s false (counted e distinct rows')) :=
    apply_values_eq (fun row hrow => hvalue row (hrows'.subset hrow)) s distinct
  have hts : ∀ t ∈ counted e distinct rows, t.IsInteger := isInteger_of_mem_counted h
  refine ⟨fun s hs rows' hrows' t t' ht ht' => ?_, ?_⟩
  · rw [happly s (.refl rows)] at ht
    rw [happly s hrows'] at ht'
    have hperm := counted_perm e distinct hrows'
    have hsome := isSome_sum?_of_summarize hs (Except.ok.inj ht)
    have hsome' := isSome_sum?_of_summarize hs (Except.ok.inj ht')
    have hsum := sum?_congr hts hperm (iff_of_true hsome' hsome)
    have heq := summarize_congr hs hperm.length_eq hsum
    rw [heq, ht] at ht'
    exact (Option.some.inj (Except.ok.inj ht')).symm
  · rw [integersOf, ← forall_perm_isSome_sum?_iff hts]
    constructor
    · intro hsame us hus
      obtain ⟨rows', hrows', rfl⟩ := exists_perm_counted_eq hvalue hus
      have heq := hsame .sum List.mem_cons_self rows' hrows'
      rw [happly .sum hrows', happly .sum (.refl rows)] at heq
      have hsome := congrArg Option.isSome (Except.ok.inj heq)
      simp only [summarize, Bool.false_eq_true, if_false, Option.isSome_map] at hsome
      rw [hsome]
    · intro hsome s hs rows' hrows'
      have hperm := counted_perm e distinct hrows'
      rw [happly s hrows', happly s (.refl rows)]
      exact congrArg _ (summarize_congr hs hperm.length_eq (sum?_congr hts hperm (hsome _ hperm)))

end

/-- The greatest integer has a sum with one and minus one in some orders only. -/
theorem sum_avg_perm_extremes :
    let e : Expr := .var ⟨"x"⟩
    let rows := integerRows ⟨"x"⟩ [maxInteger, 1, -1]
    (∀ row ∈ rows, ∃ t, e.eval row = .ok t ∧ t.IsInteger) ∧
      (∀ s ∈ [Summary.sum, .avg], ∀ rows' : List Binding, rows'.Perm rows → ∀ t t' : Term,
        (Aggregator.values s e true).apply rows = .ok (some t) →
          (Aggregator.values s e true).apply rows' = .ok (some t') → t' = t) ∧
      ¬∀ s ∈ [Summary.sum, .avg], ∀ rows' : List Binding, rows'.Perm rows →
        (Aggregator.values s e true).apply rows' = (Aggregator.values s e true).apply rows := by
  intro e rows
  have hrows : ∀ row ∈ rows, ∃ t, e.eval row = .ok t ∧ t.IsInteger :=
    eval_var_integerRows (by decide)
  obtain ⟨hvalue, hsame⟩ := sum_avg_perm_iff true hrows
  exact ⟨hrows, hvalue, fun hall => absurd (hsame.1 hall) (by decide +kernel)⟩

/-- Sums and means are not the same in all orders of the rows. -/
theorem not_forall_perm_apply_eq :
    ¬∀ (e : Expr) (distinct : Bool) (rows rows' : List Binding),
      (∀ row ∈ rows, ∃ t, e.eval row = .ok t ∧ t.IsInteger) → rows'.Perm rows →
        ∀ s ∈ [Summary.sum, .avg], (Aggregator.values s e distinct).apply rows' =
          (Aggregator.values s e distinct).apply rows := by
  intro h
  let rows := integerRows ⟨"x"⟩ [maxInteger, 1, -1]
  let rows' := integerRows ⟨"x"⟩ [1, -1, maxInteger]
  have hperm : rows'.Perm rows := by decide +kernel
  have hsame := h (.var ⟨"x"⟩) false rows rows' (eval_var_integerRows (by decide)) hperm .sum
    List.mem_cons_self
  have hnone : (Aggregator.values .sum (.var ⟨"x"⟩) false).apply rows = .ok none := by
    decide +kernel
  have hsome : (Aggregator.values .sum (.var ⟨"x"⟩) false).apply rows' =
      .ok (some (.integer maxInteger)) := by decide +kernel
  rw [hnone, hsome] at hsame
  contradiction

end Aggregator

end GraphAlgebra
