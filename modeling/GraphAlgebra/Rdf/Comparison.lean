import GraphAlgebra.Rdf.TermOrder
import GraphAlgebra.Rdf.Value
/-!
# Comparing terms by value

Numbers compare by value across their kinds, truth values, points in time and strings among
themselves. For sorting, `orderTerms` puts all terms, and the absence of one, into one line.
-/

namespace GraphAlgebra

/-- The order of two floating-point numbers, which a value that is no number has not. -/
def compareFloats (x y : Float) : Option Ordering :=
  if x < y then some .lt else if x == y then some .eq else if y < x then some .gt else none

/-- The order of two numbers: exact between integers, else in floating point. -/
def Numeric.compare? : Numeric → Numeric → Option Ordering
  | .integer m, .integer n => some (compare m.val n.val)
  | a, b => compareFloats a.toFloat b.toFloat

namespace Literal

/-- The order of the values of two literals, if their values are comparable. -/
def compare? (l r : Literal) : Option Ordering :=
  match l.numeric?, r.numeric? with
  | some a, some b => a.compare? b
  | _, _ =>
    match l.boolean?, r.boolean? with
    | some a, some b => some (compare a b)
    | _, _ =>
      match l.instant?, r.instant? with
      | some a, some b => some (a.compare b)
      | _, _ => if l.isString && r.isString then some (compare l.lexical r.lexical) else none

def compareTexts (l r : Literal) : Ordering :=
  (compare l.lexical r.lexical).then <|
    (compare l.language r.language).then (compare l.datatypeIri.text r.datatypeIri.text)

end Literal

namespace Term

/-- Whether two terms have the same value; nothing where the question has no answer. Literals
of one language and datatype whose values are not comparable count as different. -/
def equalValues? (s t : Term) : Option Bool :=
  if s = t then some true
  else
    match s, t with
    | .literal l, .literal r =>
        match l.compare? r with
        | some o => some (o == .eq)
        | none => if l.datatype = r.datatype ∧ l.language = r.language then some false else none
    | _, _ => some false

/-- The order of the values of two terms, which only literals have. -/
def compareValues? : Term → Term → Option Ordering
  | .literal l, .literal r => l.compare? r
  | _, _ => none

end Term

/-- The place of a kind of term among the kinds: no term, blank nodes, identifiers, literals. -/
def kindRank : Option Term → Nat
  | none => 0
  | some (.blank _) => 1
  | some (.iri _) => 2
  | some (.literal _) => 3

/-- The order of sorted solutions. Literals without comparable values go by their texts. -/
def orderTerms : Option Term → Option Term → Ordering
  | some (.blank a), some (.blank b) => compare a b
  | some (.iri a), some (.iri b) => compare a.text b.text
  | some (.literal a), some (.literal b) => (a.compare? b).getD (a.compareTexts b)
  | s, t => compare (kindRank s) (kindRank t)

end GraphAlgebra
