import GraphAlgebra.Expr.Basic
/-!
# Why an expression has no value

Each way in which evaluation can fail, with the message that reports it.
-/

namespace GraphAlgebra

inductive ExprFault where
  | unbound (v : Var)
  | incomparable (s t : Term)
  | notNumeric (t : Term)
  | overflow
  | divisionByZero
  | noTruthValue (t : Term)
  | arity (f : Function) (given : Nat)
  | textOfBlank
  | languageOf (t : Term)
  | datatypeOf (t : Term)
  | notText (t : Term)
  | unknownFlag (c : Char)
  | badPattern
deriving DecidableEq, Repr

def Function.arityText (f : Function) : String :=
  let (least, most) := f.arity
  if least = most then s!"{least}" else s!"{least}-{most}"

def ExprFault.message : ExprFault → String
  | .unbound v => "unbound variable " ++ v.text
  | .incomparable s t => "cannot compare " ++ s.written ++ " and " ++ t.written
  | .notNumeric t => "not a number: " ++ t.written
  | .overflow => "integer overflow"
  | .divisionByZero => "division by zero"
  | .noTruthValue t => "no boolean value for " ++ t.written
  | .arity f given => f.name ++ " expects " ++ f.arityText ++ s!" arguments, got {given}"
  | .textOfBlank => "str() of a blank node"
  | .languageOf t => "lang() of non-literal " ++ t.written
  | .datatypeOf t => "datatype() of non-literal " ++ t.written
  | .notText t => "not a string: " ++ t.written
  | .unknownFlag c => "unknown regex flag '" ++ String.singleton c ++ "'"
  | .badPattern => "invalid regex"

end GraphAlgebra
