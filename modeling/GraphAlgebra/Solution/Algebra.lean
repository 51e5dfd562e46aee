import GraphAlgebra.Solution.Table
/-!
# Operations on tables

The operations that look at solutions alone: join, union, difference, projection, the two ways
to drop repeated rows, and slices. Each keeps the row order that its operands give.
-/

namespace GraphAlgebra

/-- The elements that differ from the one before them, given that one. -/
def dropRepeats {α : Type} [DecidableEq α] (last : Option α) : List α → List α
  | [] => []
  | x :: xs => if last = some x then dropRepeats last xs else x :: dropRepeats (some x) xs

/-- The elements that are not seen before, in the order of their first occurrences. -/
def dropSeen {α : Type} [DecidableEq α] (seen : List α) : List α → List α
  | [] => []
  | x :: xs => if x ∈ seen then dropSeen seen xs else x :: dropSeen (x :: seen) xs

namespace Table

/-- The merges of compatible rows, by the left row and then by the right one. -/
def join (l r : Table) : Table :=
  .ofRows (mergeVars l.vars r.vars) (l.rows.flatMap fun a => r.rows.filterMap a.merge?)

def union (l r : Table) : Table := .ofRows (mergeVars l.vars r.vars) (l.rows ++ r.rows)

/-- The rows of the left table that are not rows of the right one. -/
def diff (l r : Table) : Table := .ofRows l.vars (l.rows.filter fun a => !r.rows.contains a)

def project (t : Table) (vs : List Var) : Table := .ofRows vs (t.rows.map (·.restrict vs))

def distinct (t : Table) : Table := .ofRows t.vars (dropSeen [] t.rows)

/-- The rows that differ from the one before them. -/
def reduced (t : Table) : Table := .ofRows t.vars (dropRepeats none t.rows)

/-- The rows from the place `start` on, and at most `length` of them. -/
def slice (t : Table) (start length : Option Nat) : Table :=
  let rows := t.rows.drop (start.getD 0)
  .ofRows t.vars (match length with
    | some n => rows.take n
    | none => rows)

end Table

end GraphAlgebra
