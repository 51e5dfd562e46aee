import GraphAlgebra.Eval.Error
import GraphAlgebra.Expr.Aggregate
import GraphAlgebra.Op.Basic
import GraphAlgebra.Order.StableSort
import GraphAlgebra.Solution.Algebra
/-!
# Operations that evaluate expressions

Left joins and filters ask whether a solution satisfies conditions; sorting, assignment and
grouping use the values of expressions, and take a fault for the absence of a value.
-/

namespace GraphAlgebra

namespace Table

def satisfiesAll (es : List Expr) (row : Binding) : Bool := es.all (·.satisfiedBy row)

/-- The merges of a row with the rows of a table that satisfy the conditions, or the row alone
where there is none. -/
def extendOrKeep (es : List Expr) (rows : List Binding) (a : Binding) : List Binding :=
  match (rows.filterMap a.merge?).filter (satisfiesAll es) with
  | [] => [a]
  | bs => bs

/-- The join under conditions, with the rows of the left table that have no part in it. -/
def leftJoin (l r : Table) (es : List Expr) : Table :=
  .ofRows (mergeVars l.vars r.vars) (l.rows.flatMap (extendOrKeep es r.rows))

def filter (es : List Expr) (t : Table) : Table := .ofRows t.vars (t.rows.filter (satisfiesAll es))

/-- A row with the values of the sort conditions in it. -/
structure Keyed where
  keys : List (Option Term)
  row : Binding

def keyed (cs : List SortCondition) (row : Binding) : Keyed :=
  ⟨cs.map fun c => (c.expr.eval row).toOption, row⟩

def directed (d : Direction) (o : Ordering) : Ordering :=
  match d with
  | .ascending => o
  | .descending => o.swap

/-- The order of two rows by their keys, the first key first. -/
def compareKeys : List SortCondition → List (Option Term) → List (Option Term) → Ordering
  | c :: cs, x :: xs, y :: ys =>
      (directed c.direction (orderTerms x y)).then (compareKeys cs xs ys)
  | _, _, _ => .eq

/-- The rows sorted by some conditions. Rows that the conditions do not tell apart stay in their
order. The values of a condition need not be in order among themselves: a number may come before a
text, and the text before a lesser number. Then the rows come out in some order, or the sort finds
that its comparisons contradict each other and crashes. -/
def order (t : Table) (cs : List SortCondition) : Except Error Table :=
  let less (a b : Keyed) := compareKeys cs a.keys b.keys == .lt
  match StableSort.sort less (t.rows.map (keyed cs)) with
  | some sorted => .ok (.ofRows t.vars (sorted.map Keyed.row))
  | none => .error .crash

/-- Gives a row the value of an expression as the term of a variable. A row without that value
stays as it is, and a row in which the variable has another term is dropped. -/
def assignOne (row : Binding) (a : Var × Expr) : Option Binding :=
  match a.2.eval row with
  | .error _ => some row
  | .ok t => row.unify? (.var a.1) t

def assign (t : Table) (as : List (Var × Expr)) : Table :=
  .ofRows (mergeVars t.vars (as.map Prod.fst)) (t.rows.filterMap fun row => as.foldlM assignOne row)

/-! ### Grouping -/

def keyValue (row : Binding) : Var × Option Expr → Option Term
  | (v, none) => row.get? v
  | (_, some e) => (e.eval row).toOption

/-- The values that a group shares, and its rows. -/
structure Group where
  key : List (Option Term)
  rows : List Binding

/-- Adds a row to the group of its key, or makes a new one at the end. -/
def addToGroups (key : List (Option Term)) (row : Binding) : List Group → List Group
  | [] => [⟨key, [row]⟩]
  | g :: gs =>
      if g.key = key then { g with rows := g.rows ++ [row] } :: gs
      else g :: addToGroups key row gs

/-- The groups of the rows in the order of their first rows. Without keys there is one group,
even of no rows. -/
def groups (keys : List (Var × Option Expr)) (rows : List Binding) : List Group :=
  match rows.foldl (fun gs row => addToGroups (keys.map (keyValue row)) row gs) [] with
  | [] => if keys.isEmpty then [⟨[], []⟩] else []
  | gs => gs

def setIfSome (row : Binding) (v : Var) : Option Term → Binding
  | some t => row.set v t
  | none => row

def keyRow (keys : List (Var × Option Expr)) (g : Group) : Binding :=
  (keys.zip g.key).foldl (fun row (k, t) => setIfSome row k.1 t) Binding.empty

def addAggregate (rows : List Binding) (row : Binding) (a : Var × Aggregator) :
    Except Error Binding :=
  match a.2.apply rows with
  | .error iri => .error (.unsupportedAggregator iri)
  | .ok t => .ok (setIfSome row a.1 t)

/-- The row of a group: its key values and its aggregates, where a later one wins. -/
def groupRow (keys : List (Var × Option Expr)) (as : List (Var × Aggregator)) (g : Group) :
    Except Error Binding :=
  as.foldlM (addAggregate g.rows) (keyRow keys g)

def group (t : Table) (keys : List (Var × Option Expr)) (as : List (Var × Aggregator)) :
    Except Error Table := do
  let rows ← (groups keys t.rows).mapM (groupRow keys as)
  .ok (.ofRows (keys.map Prod.fst ++ as.map Prod.fst) rows)

end Table

end GraphAlgebra
