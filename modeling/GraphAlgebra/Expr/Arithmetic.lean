import GraphAlgebra.Expr.Fault
import GraphAlgebra.Rdf.Value
/-!
# Arithmetic

Sums, differences and products of integers are exact or overflow; the quotient of two integers
is a decimal. Of other numbers the result is a double if one of them is, and a decimal
otherwise. Only a double can be divided by zero.
-/

namespace GraphAlgebra

def boundedOrOverflow (n : Int) : Except ExprFault Numeric :=
  match BoundedInt.ofInt? n with
  | some b => .ok (.integer b)
  | none => .error .overflow

def Arithmetic.applyFloat : Arithmetic → Float → Float → Float
  | .add, x, y => x + y
  | .sub, x, y => x - y
  | .mul, x, y => x * y
  | .div, x, y => x / y

def Arithmetic.applyInt (op : Arithmetic) (a b : BoundedInt) : Except ExprFault Numeric :=
  match op with
  | .add => boundedOrOverflow (a.val + b.val)
  | .sub => boundedOrOverflow (a.val - b.val)
  | .mul => boundedOrOverflow (a.val * b.val)
  | .div =>
      if b.val = 0 then .error .divisionByZero
      else .ok (.decimal (Binary64.ofInt a.val / Binary64.ofInt b.val))

def Arithmetic.apply (op : Arithmetic) : Numeric → Numeric → Except ExprFault Numeric
  | .integer a, .integer b => op.applyInt a b
  | m, n =>
      let x := m.toFloat
      let y := n.toFloat
      if m.isDouble || n.isDouble then .ok (.double (op.applyFloat x y))
      else if op = .div ∧ (y == 0) = true then .error .divisionByZero
      else .ok (.decimal (op.applyFloat x y))

def Numeric.negate : Numeric → Except ExprFault Numeric
  | .integer n => boundedOrOverflow (-n.val)
  | .decimal x => .ok (.decimal (-x))
  | .double x => .ok (.double (-x))

end GraphAlgebra
