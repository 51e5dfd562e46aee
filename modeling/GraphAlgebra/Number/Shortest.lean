import GraphAlgebra.Number.Binary64
/-!
# The shortest decimal number that reads back

A finite value is the nearest one for every real number of an interval around it. Among the
decimal numbers of that interval `shortest` chooses one with the fewest digits, and among
those the nearest to the value, a tie going up.
-/

namespace GraphAlgebra

/-- The number `digits · 10 ^ exponent`. -/
structure Decimal where
  digits : Nat
  exponent : Int
deriving DecidableEq, Repr

namespace Decimal

/-- The reals that round to `m · 2 ^ q`, in quarters of the last place: from `low / 4` to
`high / 4` places, the ends included if `closed` holds. Below a power of two the places are
half as wide. -/
structure Neighbourhood where
  low : Nat
  high : Nat
  closed : Bool

def neighbourhood (m : Nat) : Neighbourhood :=
  ⟨if m = Nat.pow 2 52 then 4 * m - 1 else 4 * m - 2, 4 * m + 2, m % 2 == 0⟩

/-- Powers as a quotient: `2 ^ q / 10 ^ e` as a numerator and a denominator. -/
def gridRatio (q e : Int) : Nat × Nat :=
  (Nat.pow 2 q.toNat * Nat.pow 10 (-e).toNat, Nat.pow 2 (-q).toNat * Nat.pow 10 e.toNat)

/-- Whether `c · 10 ^ e` rounds to `m · 2 ^ q`. -/
def roundsTo (m : Nat) (q e : Int) (c : Nat) : Bool :=
  let (num, den) := gridRatio q e
  let point := 4 * c * den
  let n := neighbourhood m
  if n.closed then n.low * num ≤ point && point ≤ n.high * num
  else n.low * num < point && point < n.high * num

/-- A number on the grid of the multiples of `10 ^ e` that rounds to `m · 2 ^ q`: the nearer
one of the two neighbours of the value that do, and the upper one on a tie. -/
def onGrid? (m : Nat) (q e : Int) : Option Nat :=
  let (num, den) := gridRatio q e
  let c := m * num / den
  let below := c != 0 && roundsTo m q e c
  let above := roundsTo m q e (c + 1)
  if below && above then
    if 2 * (m * num) < (2 * c + 1) * den then some c else some (c + 1)
  else if below then some c
  else if above then some (c + 1)
  else none

/-- The first grid with a number that rounds to the value, from coarse to fine. -/
def search (m : Nat) (q : Int) : Nat → Int → Decimal
  | 0, e => ⟨m, e⟩
  | fuel + 1, e =>
      match onGrid? m q e with
      | some c => ⟨c, e⟩
      | none => search m q fuel (e - 1)

/-- A decimal exponent whose power of ten exceeds `m · 2 ^ q`. -/
def topExponent (m : Nat) (q : Int) : Int :=
  ((m.log2 : Int) + q + 1) * 30103 / 100000 + 1

/-- The decimal number with the fewest digits that rounds to `m · 2 ^ q`. Seventeen digits
are always enough. -/
def shortest (m : Nat) (q : Int) : Decimal :=
  if m = 0 then ⟨0, 0⟩ else search m q 24 (topExponent m q)

end Decimal

end GraphAlgebra
