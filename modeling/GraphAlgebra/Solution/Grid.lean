import GraphAlgebra.Solution.Table
/-!
# Tables as text grids

A table is drawn with one column for each variable, between rules of hyphens. A column is as
wide as the longest of its texts in bytes, and a text is filled up with blanks to that number
of characters.

There is no bound on the width of a column. Recent runtimes format no field that is wider than 65535
characters, so a table with a longer text has a grid only here.
-/

namespace GraphAlgebra

namespace Grid

def byteWidth (s : String) : Nat := s.utf8ByteSize

/-- A text with blanks behind it, up to `w` characters. -/
def pad (w : Nat) (s : String) : String :=
  s ++ String.ofList (List.replicate (w - s.length) ' ')

def rule (widths : List Nat) : String :=
  "+" ++ "+".intercalate (widths.map fun w => String.ofList (List.replicate (w + 2) '-')) ++ "+"

def line (widths : List Nat) (texts : List String) : String :=
  "|" ++ "|".intercalate ((texts.zip widths).map fun (s, w) => " " ++ pad w s ++ " ") ++ "|"

def widths (header : List String) (cells : List (List String)) : List Nat :=
  cells.foldl (fun ws texts => ws.zipWith max (texts.map byteWidth)) (header.map byteWidth)

/-- The texts of a row, in the order of the variables. A free variable has no text. -/
def cells (vars : List Var) (row : Binding) : List String :=
  vars.map fun v => ((row.get? v).map Term.written).getD ""

def lines (t : Table) : List String :=
  let header := t.vars.map Var.text
  let body := t.rows.map (cells t.vars)
  let ws := widths header body
  [rule ws, line ws header, rule ws] ++ body.map (line ws) ++ [rule ws]

end Grid

def Table.grid (t : Table) : String := "\n".intercalate (Grid.lines t)

end GraphAlgebra
