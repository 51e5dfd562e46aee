import GraphAlgebra.Number.Digits
import GraphAlgebra.Number.Binary64
/-!
# Reading floating-point numbers

The accepted texts are an optional sign and then `inf`, `infinity` or `nan` in letters of
either case, or digits with at most one point among or beside them and an optional decimal
exponent. The value is the binary number nearest to the decimal one.
-/

namespace GraphAlgebra

namespace Binary64

/-- A nonnegative decimal number `digits · 10 ^ exponent`. -/
structure DecimalText where
  digits : Nat
  exponent : Int
deriving DecidableEq

/-- The decimal exponent that stands after `e`, or zero where there is none. -/
def exponent? : List Char → Option Int
  | [] => some 0
  | c :: cs => if c = 'e' ∨ c = 'E' then integer? cs else none

/-- Digits, a point and digits, at least one of them, then an exponent. -/
def decimalText? (cs : List Char) : Option DecimalText :=
  let whole := cs.takeWhile isDigit
  let rest := cs.dropWhile isDigit
  let (fraction, rest) :=
    match rest with
    | '.' :: r => (r.takeWhile isDigit, r.dropWhile isDigit)
    | r => ([], r)
  if whole.isEmpty && fraction.isEmpty then none
  else
    (exponent? rest).map fun e =>
      ⟨digitsValue 0 (whole ++ fraction), e - (fraction.length : Int)⟩

/-- The bits of the value nearest to a decimal number. Numbers from `10 ^ 310` on are
infinite and those below `10 ^ (-400)` are zero, whatever their digits. -/
def DecimalText.bits (d : DecimalText) : Nat :=
  if d.digits = 0 then 0
  else
    let leading := (Nat.toDigits 10 d.digits).length + d.exponent
    if leading > 310 then 2047 * Nat.pow 2 52
    else if leading < -400 then 0
    else if d.exponent < 0 then nearest d.digits (Nat.pow 10 (-d.exponent).toNat)
    else nearest (d.digits * Nat.pow 10 d.exponent.toNat) 1

/-- The words for values without digits. -/
def specialBits? (cs : List Char) : Option Nat :=
  let word := cs.map Char.toLower
  if word = "inf".toList ∨ word = "infinity".toList then some (2047 * Nat.pow 2 52)
  else if word = "nan".toList then some (4095 * Nat.pow 2 51)
  else none

def magnitude? (cs : List Char) : Option Nat :=
  (specialBits? cs).orElse fun _ => (decimalText? cs).map DecimalText.bits

def ofText? : List Char → Option Float
  | '-' :: cs => (magnitude? cs).map (ofMagnitude true)
  | '+' :: cs => (magnitude? cs).map (ofMagnitude false)
  | cs => (magnitude? cs).map (ofMagnitude false)

end Binary64

end GraphAlgebra
