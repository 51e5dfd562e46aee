import GraphAlgebra.Number.Digits
import GraphAlgebra.Number.Shortest
/-!
# Writing floating-point numbers

Two forms are in use. The positional form has no exponent: a value without a fraction is
written exactly, with one zero after the point, and any other one with the fewest digits. The
scientific form always has an exponent, and has a point only between two digits.
-/

namespace GraphAlgebra

namespace Decimal

/-- Digits in their places, without an exponent. -/
def positional (d : Decimal) : List Char :=
  let ds := naturalText d.digits
  if 0 ≤ d.exponent then ds ++ List.replicate d.exponent.toNat '0'
  else
    let places := (-d.exponent).toNat
    if ds.length ≤ places then
      '0' :: '.' :: (List.replicate (places - ds.length) '0' ++ ds)
    else ds.take (ds.length - places) ++ '.' :: ds.drop (ds.length - places)

/-- One digit before the point and the decimal exponent after the letter `e`. -/
def scientific (d : Decimal) : List Char :=
  let ds := naturalText d.digits
  let e := d.exponent + (ds.length : Int) - 1
  let mantissa :=
    match ds with
    | c :: c' :: cs => c :: '.' :: c' :: cs
    | cs => cs
  mantissa ++ 'e' :: integerText e

end Decimal

namespace Binary64

/-- The magnitude `m · 2 ^ q` if it is a natural number. -/
def natural? (m : Nat) (q : Int) : Option Nat :=
  if 0 ≤ q then some (m * Nat.pow 2 q.toNat)
  else if m % Nat.pow 2 (-q).toNat = 0 then some (m / Nat.pow 2 (-q).toNat)
  else none

def signText (negative : Bool) : List Char := if negative then ['-'] else []

def positional (x : Float) : List Char :=
  match parts x with
  | .nan => "NaN".toList
  | .infinite negative => signText negative ++ "inf".toList
  | .finite negative m q =>
      signText negative ++
        match natural? m q with
        | some n => naturalText n ++ ['.', '0']
        | none => (Decimal.shortest m q).positional

def scientific (x : Float) : List Char :=
  match parts x with
  | .nan => "NaN".toList
  | .infinite negative => signText negative ++ "INF".toList
  | .finite negative m q => signText negative ++ (Decimal.shortest m q).scientific

end Binary64

end GraphAlgebra
