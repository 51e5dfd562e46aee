import GraphAlgebra.Expr.Eval
/-!
# Aggregates

An aggregate makes one term, or none, of the solutions of a group. Solutions in which its
expression has a fault are left out when values are counted or compared, and leave no value to
a sum, a mean or a concatenation.
-/

namespace GraphAlgebra

def appendNew {α : Type} [BEq α] (xs : List α) (x : α) : List α :=
  if xs.contains x then xs else xs ++ [x]

def firstOccurrences {α : Type} [BEq α] (xs : List α) : List α := xs.foldl appendNew []

namespace Aggregator

def valuesOf (e : Expr) (rows : List Binding) : List Term :=
  rows.filterMap fun row => (e.eval row).toOption

def anyFault (e : Expr) (rows : List Binding) : Bool :=
  rows.any fun row => (e.eval row).toOption.isNone

def addValue (total : Numeric) (t : Term) : Option Numeric := do
  let n ← t.numeric?
  (Arithmetic.add.apply total n).toOption

/-- The sum of some terms. Without terms it is the integer zero. -/
def sum? (ts : List Term) : Option Numeric :=
  ts.foldlM addValue (.integer .zero)

/-- The number of terms as a number, which is in range for every list. -/
def countOf (n : Nat) : Option Numeric := (BoundedInt.ofInt? n).map .integer

/-- The mean of some terms. Without terms it is the integer zero. -/
def mean? (ts : List Term) : Option Term :=
  if ts.isEmpty then some (.integer 0)
  else do
    let total ← sum? ts
    let count ← countOf ts.length
    let mean ← (Arithmetic.div.apply total count).toOption
    some mean.toTerm

/-- The lower of two terms, and the first one if neither is. -/
def lower (s t : Term) : Term := if orderTerms (some s) (some t) = .gt then t else s

/-- The higher of two terms, and the second one if neither is. -/
def higher (s t : Term) : Term := if orderTerms (some s) (some t) = .gt then s else t

def foldFirst (f : Term → Term → Term) : List Term → Option Term
  | [] => none
  | t :: ts => some (ts.foldl f t)

def concat? (separator : String) (ts : List Term) : Option Term := do
  let ls ← ts.mapM Term.literal?
  some (.string (separator.intercalate (ls.map Literal.lexical)))

/-- The summary of the values of a group, of which `faulty` says whether some are missing. -/
def summarize (s : Summary) (faulty : Bool) (ts : List Term) : Option Term :=
  match s with
  | .count => some (.integer ts.length)
  | .min => foldFirst lower ts
  | .max => foldFirst higher ts
  | .sample => ts.head?
  | .sum => if faulty then none else (sum? ts).map Numeric.toTerm
  | .avg => if faulty then none else mean? ts
  | .concat separator => if faulty then none else concat? (separator.getD " ") ts

/-- The term for a group of solutions. An aggregate that only has an identifier is unknown. -/
def apply (a : Aggregator) (rows : List Binding) : Except Iri (Option Term) :=
  match a with
  | .custom iri _ => .error iri
  | .countRows distinct =>
      let rows := if distinct then firstOccurrences rows else rows
      .ok (some (.integer rows.length))
  | .values s e distinct =>
      let ts := valuesOf e rows
      .ok (summarize s (anyFault e rows) (if distinct then firstOccurrences ts else ts))

end Aggregator

end GraphAlgebra
