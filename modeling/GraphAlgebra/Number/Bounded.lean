import GraphAlgebra.Number.Digits
/-!
# Integers of sixty-four bits

The integers of the value space run from `-2^63` to `2^63 - 1`. Whatever would leave that
range has no value: `ofInt?` is the only way in.
-/

namespace GraphAlgebra

def minInteger : Int := -9223372036854775808

def maxInteger : Int := 9223372036854775807

structure BoundedInt where
  val : Int
  le_val : minInteger ≤ val := by decide
  val_le : val ≤ maxInteger := by decide
deriving DecidableEq

namespace BoundedInt

def zero : BoundedInt := { val := 0 }

instance : Inhabited BoundedInt := ⟨zero⟩

def ofInt? (n : Int) : Option BoundedInt :=
  if h : minInteger ≤ n ∧ n ≤ maxInteger then some ⟨n, h.1, h.2⟩ else none

def ofText? (cs : List Char) : Option BoundedInt := (integer? cs).bind ofInt?

theorem ofInt?_eq_some_iff {n : Int} {b : BoundedInt} : ofInt? n = some b ↔ b.val = n := by
  obtain ⟨v, h₁, h₂⟩ := b
  unfold ofInt?
  split
  next => simp [eq_comm]
  next h =>
    simp only [reduceCtorEq, false_iff]
    rintro rfl
    exact h ⟨h₁, h₂⟩

theorem ofInt?_eq_none_iff {n : Int} : ofInt? n = none ↔ n < minInteger ∨ maxInteger < n := by
  unfold ofInt?
  split <;> simp only [reduceCtorEq, false_iff, true_iff] <;> omega

end BoundedInt

end GraphAlgebra
