import GraphAlgebra.Expr.Eval
import GraphAlgebra.Proofs.Number.Digits
import GraphAlgebra.Proofs.Number.PartialSums
import GraphAlgebra.Proofs.Solution.Merge
/-!
# Arithmetic of integers

An expression that is made of integers by sums, differences, products and changes of sign has an
exact value, however large (`Expr.HasExactValue`). The value space is the limit of what is computed:
evaluation gives the exact value if those of all parts of the expression are in range, and ends in
an overflow otherwise (`Expr.eval_exact`).
-/

namespace GraphAlgebra

/-- The exact result of a sum, a difference or a product. -/
def Arithmetic.exact? : Arithmetic → Int → Int → Option Int
  | .add, m, n => some (m + n)
  | .sub, m, n => some (m - n)
  | .mul, m, n => some (m * n)
  | .div, _, _ => none

/-! ### Operators -/

/-- The term of an integer that is in range, and else an overflow. -/
def integerOrOverflow (n : Int) : Except ExprFault Term :=
  if InRange n then .ok (.integer n) else .error .overflow

theorem toTerm_boundedOrOverflow (n : Int) :
    Numeric.toTerm <$> boundedOrOverflow n = integerOrOverflow n := by
  rw [boundedOrOverflow, integerOrOverflow, BoundedInt.ofInt?]
  by_cases h : InRange n
  · have hbounds : minInteger ≤ n ∧ n ≤ maxInteger := h
    rw [dif_pos hbounds, if_pos h]
    rfl
  · have hbounds : ¬ (minInteger ≤ n ∧ n ≤ maxInteger) := h
    rw [dif_neg hbounds, if_neg h]
    rfl

theorem numericOf_integer {n : Int} (h : InRange n) :
    numericOf (.integer n) = .ok (.integer ⟨n, h.1, h.2⟩) := by
  rw [numericOf, Term.numeric?_integer ⟨n, h.1, h.2⟩]

theorem apply_negate_integer {n : Int} (h : InRange n) :
    UnaryOp.negate.apply (.ok (.integer n)) = integerOrOverflow (-n) := by
  have happly (t : Term) : UnaryOp.negate.apply (.ok t) =
      (numericOf t >>= fun x => x.negate >>= fun y => .ok y.toTerm) := rfl
  rw [happly, numericOf_integer h, ← toTerm_boundedOrOverflow]
  change (boundedOrOverflow (-n) >>= fun y => .ok y.toTerm) = _
  cases boundedOrOverflow (-n) <;> rfl

section

variable {op : Arithmetic} {m n k : Int}

theorem apply_arithmetic_integer (hm : InRange m) (hn : InRange n) (hop : op.exact? m n = some k) :
    (BinaryOp.arithmetic op).apply (.ok (.integer m)) (.ok (.integer n)) = integerOrOverflow k := by
  have happly (s t : Term) : (BinaryOp.arithmetic op).apply (.ok s) (.ok t) =
      (numericOf s >>= fun x => numericOf t >>= fun y => Numeric.toTerm <$> op.apply x y) := rfl
  rw [happly, numericOf_integer hm, numericOf_integer hn, ← toTerm_boundedOrOverflow]
  cases op with
  | add | sub | mul =>
      obtain rfl := Option.some.inj hop
      rfl
  | div => contradiction

/-- An integer on the left does not hide a fault on the right. -/
theorem apply_arithmetic_error (hm : InRange m) (f : ExprFault) :
    (BinaryOp.arithmetic op).apply (.ok (.integer m)) (.error f) = .error f := by
  have happly (s : Term) : (BinaryOp.arithmetic op).apply (.ok s) (.error f) =
      (numericOf s >>= fun _ => .error f) := rfl
  rw [happly, numericOf_integer hm]
  rfl

end

namespace Expr

/-! ### Parts and exact values -/

def operands : Expr → List Expr
  | .var _ | .constant _ | .bound _ => []
  | .unary _ e => [e]
  | .binary _ l r => [l, r]
  | .choose c y n => [c, y, n]
  | .call _ args => args

/-- An expression is a part of itself and of all expressions whose operands it is a part of. -/
inductive PartOf (p : Expr) : Expr → Prop
  | self : PartOf p p
  | operand {q e : Expr} (hq : q ∈ e.operands) (h : PartOf p q) : PartOf p e

/-- The exact value of an expression that is made of integers, as constants or as the terms of
variables, by sums, differences, products and changes of sign. -/
inductive HasExactValue (b : Binding) : Expr → Int → Prop
  | constant {n : Int} (hn : InRange n) : HasExactValue b (.constant (.integer n)) n
  | var {v : Var} {n : Int} (hn : InRange n) (hv : b.get? v = some (.integer n)) :
      HasExactValue b (.var v) n
  | negate {e : Expr} {n : Int} (h : HasExactValue b e n) :
      HasExactValue b (.unary .negate e) (-n)
  | arithmetic {op : Arithmetic} {l r : Expr} {m n k : Int} (hl : HasExactValue b l m)
      (hr : HasExactValue b r n) (hop : op.exact? m n = some k) :
      HasExactValue b (.binary (.arithmetic op) l r) k

def PartsInRange (b : Binding) (e : Expr) : Prop :=
  ∀ p k, PartOf p e → p.HasExactValue b k → InRange k

variable {b : Binding} {e : Expr} {m n : Int}

theorem PartsInRange.inRange (hp : e.PartsInRange b) (h : e.HasExactValue b n) : InRange n :=
  hp e n .self h

theorem HasExactValue.of_constant {t : Term} (h : HasExactValue b (.constant t) n) :
    t = .integer n := by
  cases h with
  | constant hn => rfl

theorem HasExactValue.unique (hm : e.HasExactValue b m) (hn : e.HasExactValue b n) : m = n := by
  induction hm generalizing n with
  | constant _ => exact Term.integer_injective hn.of_constant
  | var _ hv =>
      cases hn with
      | var _ hv' => exact Term.integer_injective (Option.some.inj (hv.symm.trans hv'))
  | negate _ ih =>
      cases hn with
      | negate h => rw [ih h]
  | arithmetic _ _ hop ihl ihr =>
      cases hn with
      | arithmetic hl hr hop' =>
          rw [ihl hl, ihr hr] at hop
          exact Option.some.inj (hop.symm.trans hop')

/-- The exact values of all parts are in range if the own one is and those of the parts of the
operands are. -/
theorem partsInRange_iff (h : e.HasExactValue b n) :
    e.PartsInRange b ↔ InRange n ∧ ∀ q ∈ e.operands, q.PartsInRange b := by
  constructor
  · intro hall
    exact ⟨hall.inRange h, fun q hq p k hp => hall p k (.operand hq hp)⟩
  · rintro ⟨hn, hoperands⟩ p k hp hk
    cases hp with
    | self => exact hk.unique h ▸ hn
    | operand hq hp => exact hoperands _ hq p k hp hk

theorem partsInRange_constant (hn : InRange n) : PartsInRange b (.constant (.integer n)) :=
  (partsInRange_iff (.constant hn)).2 ⟨hn, List.forall_mem_nil _⟩

theorem partsInRange_var {v : Var} (hn : InRange n) (hv : b.get? v = some (.integer n)) :
    PartsInRange b (.var v) :=
  (partsInRange_iff (.var hn hv)).2 ⟨hn, List.forall_mem_nil _⟩

theorem partsInRange_negate_iff (h : e.HasExactValue b n) :
    PartsInRange b (.unary .negate e) ↔ InRange (-n) ∧ e.PartsInRange b := by
  rw [partsInRange_iff (.negate h), operands, List.forall_mem_singleton]

theorem partsInRange_arithmetic_iff {op : Arithmetic} {l r : Expr} {k : Int}
    (hl : l.HasExactValue b m) (hr : r.HasExactValue b n) (hop : op.exact? m n = some k) :
    PartsInRange b (.binary (.arithmetic op) l r) ↔
      InRange k ∧ l.PartsInRange b ∧ r.PartsInRange b := by
  rw [partsInRange_iff (.arithmetic hl hr hop), operands, List.forall_mem_cons,
    List.forall_mem_singleton]

/-! ### Evaluation -/

/-- Evaluation finds the exact value if no part leaves the range, and overflows otherwise. -/
theorem eval_exact (h : e.HasExactValue b n) :
    (e.PartsInRange b → e.eval b = .ok (.integer n)) ∧
      (¬ e.PartsInRange b → e.eval b = .error .overflow) := by
  induction h with
  | constant hn =>
      refine ⟨fun _ => ?_, fun hout => absurd (partsInRange_constant hn) hout⟩
      rw [eval]
  | var hn hv =>
      refine ⟨fun _ => ?_, fun hout => absurd (partsInRange_var hn hv) hout⟩
      rw [eval, hv]
  | @negate e n h ih =>
      rw [eval, partsInRange_negate_iff h]
      by_cases he : e.PartsInRange b
      · rw [ih.1 he, apply_negate_integer (he.inRange h), and_iff_left he]
        exact ⟨fun hin => if_pos hin, fun hout => if_neg hout⟩
      · rw [ih.2 he]
        exact ⟨fun hin => absurd hin.2 he, fun _ => rfl⟩
  | @arithmetic op l r m n k hl hr hop ihl ihr =>
      rw [eval, partsInRange_arithmetic_iff hl hr hop]
      -- The left operand is looked at first, but an overflow is the same on both sides.
      by_cases hpl : l.PartsInRange b
      · rw [ihl.1 hpl]
        by_cases hpr : r.PartsInRange b
        · rw [ihr.1 hpr, apply_arithmetic_integer (hpl.inRange hl) (hpr.inRange hr) hop,
            and_iff_left (And.intro hpl hpr)]
          exact ⟨fun hin => if_pos hin, fun hout => if_neg hout⟩
        · rw [ihr.2 hpr, apply_arithmetic_error (hpl.inRange hl)]
          exact ⟨fun hin => absurd hin.2.2 hpr, fun _ => rfl⟩
      · rw [ihl.2 hpl]
        exact ⟨fun hin => absurd hin.2.1 hpl, fun _ => rfl⟩

/-- The least integer plus one has an opposite, the least integer has none. So one of two ways to
the greatest integer overflows. -/
theorem eval_exact_extremes :
    let x : Var := ⟨"x"⟩
    let b := Binding.single x (.integer minInteger)
    let one : Expr := .constant (.integer 1)
    let within : Expr := .unary .negate (.binary (.arithmetic .add) (.var x) one)
    let beyond : Expr := .binary (.arithmetic .sub) (.unary .negate (.var x)) one
    (within.HasExactValue b maxInteger ∧ within.PartsInRange b ∧
        within.eval b = .ok (.integer maxInteger)) ∧
      beyond.HasExactValue b maxInteger ∧ ¬ beyond.PartsInRange b ∧
        beyond.eval b = .error .overflow := by
  intro x b one within beyond
  have hget : b.get? x = some (.integer minInteger) := by rw [Binding.get?_single, if_pos rfl]
  have hx : (Expr.var x).HasExactValue b minInteger := .var (by decide) hget
  have hone : one.HasExactValue b 1 := .constant (by decide)
  have hsum : (Expr.binary (.arithmetic .add) (.var x) one).HasExactValue b (minInteger + 1) :=
    .arithmetic hx hone rfl
  have hwithin : within.HasExactValue b maxInteger := .negate hsum
  have hopposite : (Expr.unary .negate (.var x)).HasExactValue b (-minInteger) := .negate hx
  have hbeyond : beyond.HasExactValue b maxInteger := .arithmetic hopposite hone (by decide)
  have hin : within.PartsInRange b := by
    rw [partsInRange_negate_iff hsum, partsInRange_arithmetic_iff hx hone rfl]
    exact ⟨by decide, by decide, partsInRange_var (by decide) hget,
      partsInRange_constant (by decide)⟩
  have hout : ¬ beyond.PartsInRange b := by
    rw [partsInRange_arithmetic_iff hopposite hone rfl, partsInRange_negate_iff hx]
    exact fun hparts => absurd hparts.2.1.1 (by decide)
  exact ⟨⟨hwithin, hin, (eval_exact hwithin).1 hin⟩, hbeyond, hout, (eval_exact hbeyond).2 hout⟩

end Expr

end GraphAlgebra
