import GraphAlgebra.Order.Sorted
import GraphAlgebra.Rdf.TermOrder
/-!
# Solutions

A solution gives terms to some variables. Two solutions are compatible when they agree on the
variables that both bind, and then they have a merge, which binds what either of them binds.
-/

namespace GraphAlgebra

/-- A solution: finitely many variables with their terms, in the order of the names. -/
abbrev Binding : Type := SortedMap Var Term

namespace Binding

def empty : Binding := Sorted.empty

def single (v : Var) (t : Term) : Binding := empty.set v t

def get? (b : Binding) (v : Var) : Option Term := SortedMap.get? b v

def vars (b : Binding) : List Var := SortedMap.keys b

/-- Whether a variable is free or bound to the given term. -/
def admits (b : Binding) (v : Var) (t : Term) : Bool :=
  match b.get? v with
  | some t' => t' == t
  | none => true

def admitsAll (b a : Binding) : Bool := a.toList.all fun e => b.admits e.1 e.2

/-- Whether two solutions agree on the variables that both bind. Only the smaller one is gone
through. -/
def compatible (a b : Binding) : Bool :=
  if a.size ≤ b.size then b.admitsAll a else a.admitsAll b

/-- Binds a variable that is free and keeps the term of one that is bound. -/
def addIfFree (b : Binding) (e : Var × Term) : Binding :=
  if (b.get? e.1).isSome then b else b.set e.1 e.2

/-- The solution that binds what either of two compatible solutions binds. -/
def merge? (a b : Binding) : Option Binding :=
  if a.compatible b then some (b.toList.foldl addIfFree a) else none

def restrict (b : Binding) (vs : List Var) : Binding := b.filter fun e => vs.contains e.1

def written (b : Binding) : String :=
  "(" ++ " ".intercalate (b.toList.map fun e =>
    "(" ++ e.1.text ++ " " ++ e.2.written ++ ")") ++ ")"

end Binding

end GraphAlgebra
