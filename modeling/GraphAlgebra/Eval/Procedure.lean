import GraphAlgebra.Eval.Error
import GraphAlgebra.Op.Basic
/-!
# Procedures

A procedure makes a table of a table and its arguments. The one that is built in splits texts:
its object is a text and a separator, and its subject takes each piece in turn.
-/

namespace GraphAlgebra

/-- What a procedure makes of a table and its arguments. It may depend on the state of the world
and change it. -/
abbrev Procedure (σ : Type) : Type := Table → ProcedureArgs → StateM σ (Except Error Table)

abbrev Procedures (σ : Type) : Type := Iri → Option (Procedure σ)

/-- The pieces of a text between the places of a separator, given the piece so far in
reverse. A separator that is not empty is looked for from left to right. -/
def splitFrom (separator piece : List Char) : Nat → List Char → List (List Char)
  | 0, cs => [piece.reverse ++ cs]
  | fuel + 1, cs =>
      match cs with
      | [] => [piece.reverse]
      | c :: r =>
          if separator.isPrefixOf (c :: r) then
            piece.reverse :: splitFrom separator [] fuel ((c :: r).drop separator.length)
          else splitFrom separator (c :: piece) fuel r

def splitText (separator cs : List Char) : List (List Char) :=
  splitFrom separator [] (cs.length + 1) cs

def argumentText (p : TermPattern) (row : Binding) : Except Error String :=
  let textOf (t : Term) : Except Error String :=
    match t with
    | .literal l => .ok l.lexical
    | t => .error (.procedureArgs (.notLiteral t))
  match p with
  | .term t => textOf t
  | .var v =>
      match row.get? v with
      | some t => textOf t
      | none => .error (.procedureArgs (.unbound v))

def splitRow (v : Var) (text separator : TermPattern) (row : Binding) :
    Except Error (List Binding) := do
  let text ← argumentText text row
  let separator ← argumentText separator row
  if separator.isEmpty then .error (.procedureArgs .emptySeparator)
  else
    let pieces := splitText separator.toList text.toList
    .ok (pieces.filterMap fun piece => row.unify? (.var v) (.string (String.ofList piece)))

def strSplit (t : Table) (args : ProcedureArgs) : Except Error Table :=
  match args with
  | .subjectObject (.place (.var v)) (.list [text, separator]) => do
      let rows ← t.rows.mapM (splitRow v text separator)
      .ok (.ofRows [] rows.flatten)
  | _ => .error (.procedureArgs .shape)

def strSplitIri : Iri := ⟨"http://jena.apache.org/ARQ/property#strSplit"⟩

def builtinProcedures {σ : Type} : Procedures σ := fun iri =>
  if iri = strSplitIri then some fun t args => pure (strSplit t args) else none

theorem eq_strSplit_of_builtinProcedures {σ : Type} {iri : Iri} {p : Procedure σ}
    (h : builtinProcedures iri = some p) : p = fun t args => pure (strSplit t args) := by
  rw [builtinProcedures] at h
  split at h
  · exact (Option.some.inj h).symm
  · contradiction

end GraphAlgebra
