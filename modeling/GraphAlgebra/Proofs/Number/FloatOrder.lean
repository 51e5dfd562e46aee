import GraphAlgebra.Proofs.Order.Preorder
import GraphAlgebra.Rdf.Comparison
/-!
# The order of floating-point numbers

Floating-point numbers are compared by what they are made of: by the sign and whether they are
infinite, by the exponent, and by the mantissa. With the sign in each of these, the three are
integers, and the order of numbers is the lexicographic order of the three
(`compareFloats_eq_compareKeys`). Only a value that is no number stands outside it.
-/

namespace GraphAlgebra

open Std Float.Model

namespace FloatOrder

def signed : UnpackedFloat.Sign → Int → Int
  | .positive, n => n
  | .negative, n => -n

/-- The coarsest part of the order: infinite and negative, negative, zero, and so on. -/
def level : UnpackedFloat → Int
  | .infinity s => signed s 2
  | .finite s _ _ _ => signed s 1
  | .zero _ => 0
  | .notANumber => 0

/-- The exponent, where a negative number with a larger one is smaller. -/
def exponent : UnpackedFloat → Int
  | .finite s _ e _ => signed s e
  | _ => 0

def mantissa : UnpackedFloat → Int
  | .finite s m _ _ => signed s m
  | _ => 0

def compareKeys : UnpackedFloat → UnpackedFloat → Ordering :=
  compareLex (compareOn level) (compareLex (compareOn exponent) (compareOn mantissa))

instance : TransCmp compareKeys := inferInstanceAs (TransCmp (compareLex _ _))

theorem compareKeys_swap (a b : UnpackedFloat) : compareKeys b a = (compareKeys a b).swap :=
  OrientedCmp.eq_swap

theorem compare_neg (m n : Int) : compare (-m) (-n) = (compare m n).swap := by
  rw [Int.compare_swap, Int.compare_eq_ite_lt, Int.compare_eq_ite_lt]
  grind

theorem compare_natCast (m n : Nat) : compare (m : Int) (n : Int) = compare m n := by
  rw [Int.compare_eq_ite_lt, Nat.compare_eq_ite_lt]
  grind

theorem unpacked_compare_eq (a b : UnpackedFloat) (ha : a ≠ .notANumber) (hb : b ≠ .notANumber) :
    a.compare b = some (compareKeys a b) := by
  -- The levels decide unless both are finite and of one sign.
  cases a with
  | notANumber => exact absurd rfl ha
  | infinity s =>
      cases b with
      | notANumber => exact absurd rfl hb
      | infinity s' => cases s <;> cases s' <;> rfl
      | zero s' => cases s <;> rfl
      | finite s' m' e' _ => cases s <;> cases s' <;> rfl
  | zero s =>
      cases b with
      | notANumber => exact absurd rfl hb
      | infinity s' => cases s' <;> rfl
      | zero s' => rfl
      | finite s' m' e' _ => cases s' <;> rfl
  | finite s m e _ =>
      cases b with
      | notANumber => exact absurd rfl hb
      | infinity s' => cases s <;> cases s' <;> rfl
      | zero s' => cases s <;> rfl
      | finite s' m' e' _ =>
          cases s with
          | positive =>
              cases s' with
              | positive =>
                  change some ((compare e e').then (compare m m')) =
                    some ((compare e e').then (compare (m : Int) m'))
                  rw [compare_natCast]
              | negative => rfl
          | negative =>
              cases s' with
              | positive => rfl
              | negative =>
                  change some ((compare e e').then (compare m m')).swap =
                    some ((compare (-e) (-e')).then (compare (-m : Int) (-m')))
                  rw [compare_neg, compare_neg, compare_natCast, Ordering.swap_then]

theorem unpacked_compare_eq_none {a b : UnpackedFloat} (h : a = .notANumber ∨ b = .notANumber) :
    a.compare b = none := by
  obtain rfl | rfl := h
  · rfl
  · cases a <;> rfl

end FloatOrder

open FloatOrder

theorem isNaN_iff (x : Float) : x.isNaN = true ↔ x.toModel.unpack = .notANumber := by
  change x.toModel.unpack.isNaN = true ↔ _
  cases x.toModel.unpack with
  | notANumber => exact iff_of_true rfl rfl
  | infinity s => exact iff_of_false nofun nofun
  | zero s => exact iff_of_false nofun nofun
  | finite s m e _ => exact iff_of_false nofun nofun

/-- The parts of a floating-point number decide each of the three comparisons. -/
theorem compareFloats_eq_unpacked (x y : Float) :
    compareFloats x y = if x.toModel.unpack.compare y.toModel.unpack = some .lt then some .lt
      else if x.toModel.unpack.compare y.toModel.unpack = some .eq then some .eq
      else if y.toModel.unpack.compare x.toModel.unpack = some .lt then some .gt else none := by
  have hlt (x y : Float) : x < y ↔ x.toModel.unpack.compare y.toModel.unpack = some .lt := by
    change x.lt y = true ↔ _
    rw [Float.lt, decide_eq_true_iff]
    change (x.toModel.unpack.compare y.toModel.unpack == some .lt) = true ↔ _
    exact beq_iff_eq
  have heq : (x == y) = true ↔ x.toModel.unpack.compare y.toModel.unpack = some .eq := by
    change (x.toModel.unpack.compare y.toModel.unpack == some .eq) = true ↔ _
    exact beq_iff_eq
  simp only [compareFloats, hlt, heq]

theorem compareFloats_eq_compareKeys {x y : Float} (hx : x.isNaN = false) (hy : y.isNaN = false) :
    compareFloats x y = some (compareKeys x.toModel.unpack y.toModel.unpack) := by
  rw [← Bool.not_eq_true, isNaN_iff] at hx hy
  rw [compareFloats_eq_unpacked, unpacked_compare_eq _ _ hx hy, unpacked_compare_eq _ _ hy hx,
    compareKeys_swap x.toModel.unpack]
  cases compareKeys x.toModel.unpack y.toModel.unpack <;> rfl

/-- A value that is no number is before, equal to and after nothing. -/
theorem compareFloats_eq_none {x y : Float} (h : x.isNaN = true ∨ y.isNaN = true) :
    compareFloats x y = none := by
  rw [isNaN_iff, isNaN_iff] at h
  rw [compareFloats_eq_unpacked, unpacked_compare_eq_none h, unpacked_compare_eq_none h.symm]
  rfl

theorem compareFloats_swap (x y : Float) :
    compareFloats y x = (compareFloats x y).map Ordering.swap := by
  cases hx : x.isNaN with
  | true => rw [compareFloats_eq_none (.inl hx), compareFloats_eq_none (.inr hx)]; rfl
  | false =>
      cases hy : y.isNaN with
      | true => rw [compareFloats_eq_none (.inl hy), compareFloats_eq_none (.inr hy)]; rfl
      | false =>
          rw [compareFloats_eq_compareKeys hx hy, compareFloats_eq_compareKeys hy hx,
            compareKeys_swap x.toModel.unpack]
          rfl

end GraphAlgebra
