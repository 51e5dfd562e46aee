import GraphAlgebra.Expr.Basic
import GraphAlgebra.Number.Bounded
/-!
# The text of expressions

Expressions are written in parentheses with the operator first. Terms have a short form where
it reads back as the same term: integers and decimals by their digits, truth values by their
words.
-/

namespace GraphAlgebra

/-- Digits, a point and at least one digit. -/
def isUnsignedDecimalText (cs : List Char) : Bool :=
  match cs.dropWhile isDigit with
  | '.' :: fraction => !fraction.isEmpty && fraction.all isDigit
  | _ => false

/-- Digits, a point and at least one digit, with an optional sign before them. -/
def isDecimalText : List Char → Bool
  | '+' :: r => isUnsignedDecimalText r
  | '-' :: r => isUnsignedDecimalText r
  | r => isUnsignedDecimalText r

/-- Whether a text is the written form of the integer that it spells. -/
def isIntegerText (cs : List Char) : Bool :=
  match BoundedInt.ofText? cs with
  | some n => integerText n.val == cs
  | none => false

/-- Whether the characters of the literal alone spell it. -/
def Literal.hasShortForm (l : Literal) : Bool :=
  match l.datatype with
  | none => false
  | some dt =>
      if dt = Iri.integer then isIntegerText l.lexical.toList
      else if dt = Iri.decimal then isDecimalText l.lexical.toList
      else if dt = Iri.boolean then l.lexical == "true" || l.lexical == "false"
      else false

namespace Term

def short : Term → String
  | .literal l => if l.hasShortForm then l.lexical else l.written
  | t => t.written

end Term

def TermPattern.short : TermPattern → String
  | .var v => v.text
  | .term t => t.short

namespace Expr

mutual

def text : Expr → String
  | .var v => v.text
  | .constant t => t.short
  | .bound v => "(bound " ++ v.text ++ ")"
  | .unary op e => "(" ++ op.symbol ++ " " ++ e.text ++ ")"
  | .binary op l r => "(" ++ op.symbol ++ " " ++ l.text ++ " " ++ r.text ++ ")"
  | .choose c y n => "(if " ++ c.text ++ " " ++ y.text ++ " " ++ n.text ++ ")"
  | .call f args => "(" ++ f.name ++ textAll args ++ ")"

/-- The texts of some expressions, each after a blank. -/
def textAll : List Expr → String
  | [] => ""
  | e :: es => " " ++ e.text ++ textAll es

end

end Expr

def distinctText (distinct : Bool) : String := if distinct then " distinct" else ""

def Aggregator.text : Aggregator → String
  | .countRows distinct => "(count" ++ distinctText distinct ++ ")"
  | .values s e distinct =>
      let separator := match s with
        | .concat (some sep) => " " ++ quoted sep
        | _ => ""
      "(" ++ s.name ++ distinctText distinct ++ " " ++ e.text ++ separator ++ ")"
  | .custom iri args => "(agg " ++ iri.written ++ Expr.textAll args ++ ")"

end GraphAlgebra
