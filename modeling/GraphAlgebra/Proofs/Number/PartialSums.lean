import GraphAlgebra.Number.Bounded
import Mathlib.Algebra.Order.BigOperators.Group.List
import Mathlib.Algebra.Order.Ring.Int
import Mathlib.Data.List.Perm.Basic
/-!
# Partial sums within the value space

Integers of the value space that are added one by one have a sum if no partial sum leaves the range,
and this may depend on their order. Some order is fine as soon as the total is in range
(`exists_perm_staysInRange`). All orders are fine exactly if the sum of the positive integers and
that of the negative ones are in range (`forall_perm_staysInRange_iff`). So the order makes no
difference if these are in range or the total is not (`forall_perm_staysInRange_congr_iff`).
-/

namespace GraphAlgebra

def InRange (n : Int) : Prop := minInteger ≤ n ∧ n ≤ maxInteger

instance (n : Int) : Decidable (InRange n) := inferInstanceAs (Decidable (_ ∧ _))

/-- No partial sum leaves the range when some integers are added to `a` one by one. -/
def StaysInRange (a : Int) : List Int → Prop
  | [] => True
  | n :: ns => InRange (a + n) ∧ StaysInRange (a + n) ns

def positiveSum (ns : List Int) : Int := (ns.filter (0 < ·)).sum

def negativeSum (ns : List Int) : Int := (ns.filter (· < 0)).sum

/-! ### Positive and negative parts -/

theorem positiveSum_cons (n : Int) (ns : List Int) :
    positiveSum (n :: ns) = max n 0 + positiveSum ns := by
  rw [positiveSum, positiveSum, List.filter_cons]
  split
  next h =>
    have hn : 0 < n := by simpa using h
    rw [List.sum_cons]
    omega
  next h =>
    have hn : n ≤ 0 := by simpa using h
    omega

theorem negativeSum_cons (n : Int) (ns : List Int) :
    negativeSum (n :: ns) = min n 0 + negativeSum ns := by
  rw [negativeSum, negativeSum, List.filter_cons]
  split
  next h =>
    have hn : n < 0 := by simpa using h
    rw [List.sum_cons]
    omega
  next h =>
    have hn : 0 ≤ n := by simpa using h
    omega

theorem positiveSum_nonneg (ns : List Int) : 0 ≤ positiveSum ns := by
  induction ns with
  | nil => exact Int.le_refl 0
  | cons n ns ih =>
      rw [positiveSum_cons]
      omega

theorem negativeSum_nonpos (ns : List Int) : negativeSum ns ≤ 0 := by
  induction ns with
  | nil => exact Int.le_refl 0
  | cons n ns ih =>
      rw [negativeSum_cons]
      omega

theorem positiveSum_perm {ns ms : List Int} (h : ns.Perm ms) : positiveSum ns = positiveSum ms :=
  (h.filter _).sum_eq

theorem negativeSum_perm {ns ms : List Int} (h : ns.Perm ms) : negativeSum ns = negativeSum ms :=
  (h.filter _).sum_eq

/-! ### All orders -/

theorem StaysInRange.total {a : Int} {ns : List Int} (ha : InRange a) (h : StaysInRange a ns) :
    InRange (a + ns.sum) := by
  induction ns generalizing a with
  | nil => simpa using ha
  | cons n ns ih =>
      rw [List.sum_cons, ← add_assoc]
      exact ih h.1 h.2

theorem StaysInRange.of_append {a : Int} {ns ms : List Int} (h : StaysInRange a (ns ++ ms)) :
    StaysInRange a ns := by
  induction ns generalizing a with
  | nil => trivial
  | cons n ns ih => exact ⟨h.1, ih h.2⟩

/-- Every partial sum lies between that of the negative integers and that of the positive ones. -/
theorem staysInRange_of_parts {a : Int} {ns : List Int} (hpos : a + positiveSum ns ≤ maxInteger)
    (hneg : minInteger ≤ a + negativeSum ns) : StaysInRange a ns := by
  induction ns generalizing a with
  | nil => trivial
  | cons n ns ih =>
      have hpos' := positiveSum_nonneg ns
      have hneg' := negativeSum_nonpos ns
      rw [positiveSum_cons] at hpos
      rw [negativeSum_cons] at hneg
      exact ⟨⟨by omega, by omega⟩, ih (by omega) (by omega)⟩

/-- The worst orders are those in which all positive or all negative integers come first. -/
theorem forall_perm_staysInRange_iff {ns : List Int} :
    (∀ ms : List Int, ms.Perm ns → StaysInRange 0 ms) ↔
      InRange (positiveSum ns) ∧ InRange (negativeSum ns) := by
  have hzero : InRange 0 := by decide
  constructor
  · intro h
    have hfirst (p : Int → Bool) : InRange (ns.filter p).sum := by
      have hstays := (h _ (List.filter_append_perm p ns)).of_append
      simpa using hstays.total hzero
    exact ⟨hfirst _, hfirst _⟩
  · rintro ⟨hpos, hneg⟩ ms hms
    refine staysInRange_of_parts ?_ ?_
    · rw [positiveSum_perm hms, zero_add]
      exact hpos.2
    · rw [negativeSum_perm hms, zero_add]
      exact hneg.1

/-! ### Some order -/

/-- If the sum of all integers is in range, one of them can be added first: one of the other sign if
there is any, since that moves towards zero, and else any, since that moves towards the sum. -/
theorem exists_mem_inRange_add {a : Int} {ns : List Int} (hne : ns ≠ [])
    (hns : ∀ n ∈ ns, InRange n) (ha : InRange a) (htotal : InRange (a + ns.sum)) :
    ∃ n ∈ ns, InRange (a + n) := by
  obtain ⟨ha₁, ha₂⟩ := ha
  obtain ⟨ht₁, ht₂⟩ := htotal
  have hmin : minInteger ≤ 0 := by decide
  have hmax : 0 ≤ maxInteger := by decide
  obtain ⟨m, ms, rfl⟩ := List.exists_cons_of_ne_nil hne
  rw [List.sum_cons] at ht₁ ht₂
  obtain hsign | hsign := le_total 0 a
  · by_cases hother : ∃ n ∈ m :: ms, n ≤ 0
    · obtain ⟨n, hn, hle⟩ := hother
      have hin := (hns n hn).1
      exact ⟨n, hn, by omega, by omega⟩
    · have hpos (n : Int) (hn : n ∈ m :: ms) : 0 ≤ n := by
        by_contra hneg
        exact hother ⟨n, hn, by omega⟩
      obtain ⟨hm, hms⟩ := List.forall_mem_cons.1 hpos
      have hrest := List.sum_nonneg hms
      exact ⟨m, List.mem_cons_self, by omega, by omega⟩
  · by_cases hother : ∃ n ∈ m :: ms, 0 ≤ n
    · obtain ⟨n, hn, hle⟩ := hother
      have hin := (hns n hn).2
      exact ⟨n, hn, by omega, by omega⟩
    · have hneg (n : Int) (hn : n ∈ m :: ms) : n ≤ 0 := by
        by_contra hpos
        exact hother ⟨n, hn, by omega⟩
      obtain ⟨hm, hms⟩ := List.forall_mem_cons.1 hneg
      have hrest : ms.sum ≤ 0 := by simpa using List.sum_le_card_nsmul ms 0 hms
      exact ⟨m, List.mem_cons_self, by omega, by omega⟩

theorem exists_perm_staysInRange {a : Int} {ns : List Int} (hns : ∀ n ∈ ns, InRange n)
    (ha : InRange a) (htotal : InRange (a + ns.sum)) :
    ∃ ms : List Int, ms.Perm ns ∧ StaysInRange a ms := by
  induction hlength : ns.length generalizing a ns with
  | zero =>
      obtain rfl := List.length_eq_zero_iff.1 hlength
      exact ⟨[], .nil, trivial⟩
  | succ length ih =>
      have hne : ns ≠ [] := List.ne_nil_of_length_eq_add_one hlength
      obtain ⟨n, hn, hin⟩ := exists_mem_inRange_add hne hns ha htotal
      have hperm := List.perm_cons_erase hn
      rw [hperm.sum_eq, List.sum_cons, ← add_assoc] at htotal
      obtain ⟨ms, hms, hstays⟩ := ih (fun m hm => hns m (List.mem_of_mem_erase hm)) hin htotal
        (by rw [List.length_erase_of_mem hn, hlength, Nat.add_sub_cancel])
      exact ⟨n :: ms, (hms.cons n).trans hperm.symm, hin, hstays⟩

/-- The order makes no difference exactly if all orders stay in range as soon as the total does. -/
theorem forall_perm_staysInRange_congr_iff {ns : List Int} (hns : ∀ n ∈ ns, InRange n) :
    (∀ ms : List Int, ms.Perm ns → (StaysInRange 0 ms ↔ StaysInRange 0 ns)) ↔
      (InRange ns.sum → InRange (positiveSum ns) ∧ InRange (negativeSum ns)) := by
  have hzero : InRange 0 := by decide
  constructor
  · intro h htotal
    obtain ⟨ms, hms, hstays⟩ := exists_perm_staysInRange hns hzero (by rwa [zero_add])
    exact forall_perm_staysInRange_iff.1 fun ms' hms' => (h ms' hms').2 ((h ms hms).1 hstays)
  · intro h ms hms
    have htotal {l : List Int} (hl : l.Perm ns) (hstays : StaysInRange 0 l) : InRange ns.sum := by
      rw [← hl.sum_eq, ← zero_add l.sum]
      exact hstays.total hzero
    have hall (hin : InRange ns.sum) := forall_perm_staysInRange_iff.2 (h hin)
    exact ⟨fun hs => hall (htotal hms hs) ns (.refl ns), fun hs => hall (htotal (.refl ns) hs) ms hms⟩

end GraphAlgebra
