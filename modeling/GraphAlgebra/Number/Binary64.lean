/-!
# Binary floating point of sixty-four bits

A finite value is `m · 2 ^ q` with a sign. `decode` reads the parts off the bits, and
`nearest` gives the bits of the value closest to a quotient of natural numbers, a tie going to
the even neighbour.
-/

namespace GraphAlgebra

namespace Binary64

/-- What the bits of a value stand for. -/
inductive Parts where
  | nan
  | infinite (negative : Bool)
  | finite (negative : Bool) (m : Nat) (q : Int)
deriving DecidableEq, Repr

/-- Takes the sign, the exponent and the fraction off the bits. -/
def decode (bits : Nat) : Parts :=
  let negative := bits / Nat.pow 2 63 % 2 == 1
  let exponent := bits / Nat.pow 2 52 % Nat.pow 2 11
  let fraction := bits % Nat.pow 2 52
  if exponent = 2047 then
    if fraction = 0 then .infinite negative else .nan
  else if exponent = 0 then .finite negative fraction (-1074)
  else .finite negative (Nat.pow 2 52 + fraction) (Int.ofNat exponent - 1075)

def parts (x : Float) : Parts := decode x.toBits.toNat

/-- The quotient rounded to the nearest natural number, a tie going to the even one. -/
def roundEven (num den : Nat) : Nat :=
  let floor := num / den
  let twice := 2 * (num % den)
  if twice < den ∨ (twice = den ∧ floor % 2 = 0) then floor else floor + 1

/-- The quotient `num / den` divided by `2 ^ q`, as a numerator and a denominator. -/
def scale (num den : Nat) (q : Int) : Nat × Nat :=
  if q < 0 then (num * Nat.pow 2 (-q).toNat, den) else (num, den * Nat.pow 2 q.toNat)

/-- The exponent of the last place of the value nearest to `num / den`. -/
def lastPlace (num den : Nat) : Int :=
  let q := max ((num.log2 : Int) - (den.log2 : Int) - 53) (-1074)
  let (n, d) := scale num den q
  if n / d < Nat.pow 2 53 then q else q + 1

/-- The bits of the nonnegative value closest to `num / den`, or of infinity beyond the
greatest one. -/
def nearest (num den : Nat) : Nat :=
  if num = 0 then 0
  else
    let q := lastPlace num den
    let (n, d) := scale num den q
    let m := roundEven n d
    if m < Nat.pow 2 52 then m
    else min ((q + 1075).toNat * Nat.pow 2 52 + (m - Nat.pow 2 52)) (2047 * Nat.pow 2 52)

def ofMagnitude (negative : Bool) (bits : Nat) : Float :=
  Float.ofBits (UInt64.ofNat (if negative then bits + Nat.pow 2 63 else bits))

def ofInt (n : Int) : Float := ofMagnitude (n < 0) (nearest n.natAbs 1)

def infinity : Float := ofMagnitude false (2047 * Nat.pow 2 52)

def negInfinity : Float := ofMagnitude true (2047 * Nat.pow 2 52)

def nan : Float := ofMagnitude false (4095 * Nat.pow 2 51)

end Binary64

end GraphAlgebra
