/-!
# Decimal digits

Reading and writing natural numbers and signed integers in base ten. The text of a number is
a list of characters, so that a reader can go on with what follows it.
-/

namespace GraphAlgebra

def digitValue? (c : Char) : Option Nat :=
  if '0' ≤ c ∧ c ≤ '9' then some (c.toNat - '0'.toNat) else none

/-- Whether the character is one of the ten ASCII digits. -/
def isDigit (c : Char) : Bool := (digitValue? c).isSome

/-- The number that digits spell after those read so far. -/
def digitsValue (acc : Nat) : List Char → Nat
  | [] => acc
  | c :: cs => digitsValue (acc * 10 + (digitValue? c).getD 0) cs

/-- The number that a nonempty text of digits spells. -/
def natural? (cs : List Char) : Option Nat :=
  if !cs.isEmpty && cs.all isDigit then some (digitsValue 0 cs) else none

/-- The integer that digits with an optional sign before them spell. -/
def integer? : List Char → Option Int
  | '-' :: cs => (natural? cs).map fun n => -(n : Int)
  | '+' :: cs => (natural? cs).map Int.ofNat
  | cs => (natural? cs).map Int.ofNat

def naturalText (n : Nat) : List Char := Nat.toDigits 10 n

/-- A minus for a negative number, then the digits. -/
def integerText : Int → List Char
  | .ofNat n => naturalText n
  | .negSucc n => '-' :: naturalText (n + 1)

end GraphAlgebra
