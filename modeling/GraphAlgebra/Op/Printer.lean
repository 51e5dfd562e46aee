import GraphAlgebra.Expr.Printer
import GraphAlgebra.Op.Basic
/-!
# The text of operators

Operators are written in parentheses with the name first, in the notation that is read. Terms
have their short form everywhere but for the endpoint of a service.
-/

namespace GraphAlgebra

def spaced (ss : List String) : String := String.join (ss.map (" " ++ ·))

def parenthesized (ss : List String) : String := "(" ++ " ".intercalate ss ++ ")"

def boundText : Option Nat → String
  | some n => String.ofList (naturalText n)
  | none => "_"

namespace TriplePattern

def places (p : TriplePattern) : String :=
  spaced [p.subject.short, p.predicate.short, p.object.short]

end TriplePattern

def PlaceArg.text : PlaceArg → String
  | .place p => p.short
  | .list ps => parenthesized (ps.map TermPattern.short)

def rowText (row : Binding) : String :=
  "(row" ++ spaced (row.toList.map fun e => "[" ++ e.1.text ++ " " ++ e.2.short ++ "]") ++ ")"

/-- The text of a table: a word for the empty table and the one with an empty row, else the
heading and the rows. -/
def Table.text (t : Table) : String :=
  if t = Table.empty then "(table empty)"
  else if t = Table.unit then "(table unit)"
  else "(table (vars" ++ spaced (t.vars.map Var.text) ++ ")" ++ spaced (t.rows.map rowText) ++ ")"

def SortCondition.text (c : SortCondition) : String :=
  match c.direction with
  | .ascending => "(asc " ++ c.expr.text ++ ")"
  | .descending => "(desc " ++ c.expr.text ++ ")"

def assignmentText (a : Var × Expr) : String := "(" ++ a.1.text ++ " " ++ a.2.text ++ ")"

def keyText : Var × Option Expr → String
  | (v, none) => v.text
  | (v, some e) => assignmentText (v, e)

def aggregateText (a : Var × Aggregator) : String := "(" ++ a.1.text ++ " " ++ a.2.text ++ ")"

def exprListText : List Expr → String
  | [e] => e.text
  | es => "(exprlist" ++ Expr.textAll es ++ ")"

/-- The text of an operator with the given texts behind its name. -/
def form (name : String) (parts : List String) : String := "(" ++ name ++ spaced parts ++ ")"

namespace Op

def text : Op → String
  | .bgp ps => form "bgp" (ps.map fun p => "(triple" ++ p.places ++ ")")
  | .quads g [] => form "quadpattern" [g.short]
  | .quads g ps =>
      form "quadpattern" (ps.map fun p => "(quad " ++ g.short ++ p.places ++ ")")
  | .procedure sub name (.positional es) =>
      form "proc" [name.written, parenthesized (es.map Expr.text), sub.text]
  | .procedure sub name (.subjectObject s o) =>
      form "propfunc" [name.written, s.text, o.text, sub.text]
  | .join l r => form "join" [l.text, r.text]
  | .sequence l r => form "sequence" [l.text, r.text]
  | .leftJoin l r [] => form "leftjoin" [l.text, r.text]
  | .leftJoin l r es => form "leftjoin" [l.text, r.text, exprListText es]
  | .diff l r => form "diff" [l.text, r.text]
  | .union l r => form "union" [l.text, r.text]
  | .filter es sub => form "filter" [exprListText es, sub.text]
  | .graph g sub => form "graph" [g.short, sub.text]
  | .service endpoint sub silent =>
      form "service" ((if silent then ["silent"] else []) ++ [endpoint.written, sub.text])
  | .datasetNames g => form "datasetnames" [g.short]
  | .table t => t.text
  | .extension name sub => form "ext" [name, sub.text]
  | .null => form "null" []
  | .list sub => form "list" [sub.text]
  | .order sub cs => form "order" [parenthesized (cs.map SortCondition.text), sub.text]
  | .project sub vs => form "project" [parenthesized (vs.map Var.text), sub.text]
  | .distinct sub => form "distinct" [sub.text]
  | .reduced sub => form "reduced" [sub.text]
  | .slice sub start length => form "slice" [boundText start, boundText length, sub.text]
  | .assign sub as => form "assign" [parenthesized (as.map assignmentText), sub.text]
  | .group sub ks as =>
      form "group"
        [parenthesized (ks.map keyText), parenthesized (as.map aggregateText), sub.text]

end Op

end GraphAlgebra
