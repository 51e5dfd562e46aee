import GraphAlgebra.Eval.Run
/-!
# Services

A service answers an operator with rows, one after the other, and may fail before the first row
or after some of them. A failure discards the rows that came before it.
-/

namespace GraphAlgebra

/-- The rows that a service sends, up to a failure. -/
abbrev Cursor : Type := List (Except Error Binding)

/-- What a service answers to an operator sent to its endpoint. An answer may depend on the
state of the world and change it. -/
abbrev Services (σ : Type) : Type := Term → Op → Bool → StateM σ (Except Error Cursor)

/-- The table of some rows, whose heading is read off them, unless one of them fails. -/
def Table.ofCursor (c : Cursor) : Except Error Table := do
  let rows ← c.mapM id
  .ok (.ofRows [] rows)

def noServices {σ : Type} : Services σ := fun endpoint _ _ =>
  pure (.error (.service (.noExecutor endpoint)))

end GraphAlgebra
