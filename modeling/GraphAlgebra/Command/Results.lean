import GraphAlgebra.Json.Basic
import GraphAlgebra.Solution.Grid
/-!
# The results of a query as output

A table is shown as a text grid, or as a JSON document with the names of the variables in its
head and an object for each row. The members of an object are in the order of their names.
-/

namespace GraphAlgebra

inductive OutputFormat where
  | text
  | json
deriving DecidableEq, Repr

def Term.toJson : Term → Json
  | .iri i => .object [("type", .ofText "uri"), ("value", .ofText i.text)]
  | .blank label => .object [("type", .ofText "bnode"), ("value", .ofText label)]
  | .literal l =>
      let type := ("type", Json.ofText "literal")
      let value := ("value", Json.ofText l.lexical)
      match l.language, l.datatype with
      | some tag, _ => .object [type, value, ("xml:lang", .ofText tag)]
      | none, some dt => .object [("datatype", .ofText dt.text), type, value]
      | none, none => .object [type, value]

def Binding.toJson (b : Binding) : Json :=
  .object (b.toList.map fun e => (Json.encode e.1.name, e.2.toJson))

namespace Table

def toJson (t : Table) : Json :=
  .object
    [("head", .object [("vars", .array (t.vars.map fun v => .ofText v.name))]),
      ("results", .object [("bindings", .array (t.rows.map Binding.toJson))])]

def render (t : Table) : OutputFormat → String
  | .text => t.grid
  | .json => t.toJson.pretty 0

end Table

end GraphAlgebra
