/-!
# Code points in hexadecimal digits

A code point is spelled by hexadecimal digits of either case, with at most one plus sign before
them. Numbers that no character has, such as those of surrogates, spell nothing.
-/

namespace GraphAlgebra

def hexDigitValue? (c : Char) : Option Nat :=
  if '0' ≤ c ∧ c ≤ '9' then some (c.toNat - '0'.toNat)
  else if 'a' ≤ c ∧ c ≤ 'f' then some (c.toNat - 'a'.toNat + 10)
  else if 'A' ≤ c ∧ c ≤ 'F' then some (c.toNat - 'A'.toNat + 10)
  else none

/-- The number that hexadecimal digits spell after those read so far. -/
def hexValue? (acc : Nat) : List Char → Option Nat
  | [] => some acc
  | c :: cs => (hexDigitValue? c).bind fun d => hexValue? (acc * 16 + d) cs

def hexNumber? : List Char → Option Nat
  | [] => none
  | cs => hexValue? 0 cs

def charOfNat? (n : Nat) : Option Char :=
  if h : n.isValidChar then some (Char.ofNatAux n h) else none

def codePoint? : List Char → Option Char
  | '+' :: cs => (hexNumber? cs).bind charOfNat?
  | cs => (hexNumber? cs).bind charOfNat?

end GraphAlgebra
