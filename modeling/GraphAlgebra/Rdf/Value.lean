import GraphAlgebra.Number.Bounded
import GraphAlgebra.Number.FloatReader
import GraphAlgebra.Number.FloatText
import GraphAlgebra.Rdf.Vocabulary
import GraphAlgebra.Text.CharClass
import GraphAlgebra.Time.Instant
/-!
# Values of literals

What the characters of a typed literal stand for: numbers of three kinds, truth values and
points in time. Going back, a number has one written form as a literal.
-/

namespace GraphAlgebra

/-- A number. Decimals are held in binary like doubles, but keep their kind. -/
inductive Numeric where
  | integer (n : BoundedInt)
  | decimal (x : Float)
  | double (x : Float)
deriving Inhabited

namespace Term

/-- A whole number. -/
def integer (n : Int) : Term := typed (String.ofList (integerText n)) Iri.integer

/-- A decimal number in positional form. -/
def decimal (x : Float) : Term := typed (String.ofList (Binary64.positional x)) Iri.decimal

/-- A floating-point number in scientific form. -/
def double (x : Float) : Term := typed (String.ofList (Binary64.scientific x)) Iri.double

end Term

namespace Numeric

def toFloat : Numeric → Float
  | .integer n => Binary64.ofInt n.val
  | .decimal x => x
  | .double x => x

def toTerm : Numeric → Term
  | .integer n => .integer n.val
  | .decimal x => .decimal x
  | .double x => .double x

def isDouble : Numeric → Bool
  | .double _ => true
  | _ => false

end Numeric

/-- The value of a double, which has words of its own for the values without digits. -/
def doubleOfText? (cs : List Char) : Option Float :=
  if cs = "INF".toList then some Binary64.infinity
  else if cs = "-INF".toList then some Binary64.negInfinity
  else if cs = "NaN".toList then some Binary64.nan
  else Binary64.ofText? cs

namespace Literal

/-- The number that the literal stands for. White space around it does not count. -/
def numeric? (l : Literal) : Option Numeric :=
  let text := trimBlank l.lexical.toList
  match l.datatype with
  | none => none
  | some dt =>
      if dt = Iri.integer ∨ dt = Iri.int ∨ dt = Iri.long then
        (BoundedInt.ofText? text).map .integer
      else if dt = Iri.decimal then (Binary64.ofText? text).map .decimal
      else if dt = Iri.double ∨ dt = Iri.float then (doubleOfText? text).map .double
      else none

def boolean? (l : Literal) : Option Bool :=
  if l.datatype = some Iri.boolean then
    if l.lexical = "true" ∨ l.lexical = "1" then some true
    else if l.lexical = "false" ∨ l.lexical = "0" then some false
    else none
  else none

def instant? (l : Literal) : Option Instant :=
  if l.datatype = some Iri.dateTime then Instant.ofText? l.lexical.toList else none

end Literal

def Term.numeric? (t : Term) : Option Numeric := t.literal?.bind Literal.numeric?

end GraphAlgebra
