import GraphAlgebra.Text.Case
import GraphAlgebra.Text.Quoted
/-!
# Terms

The terms of a graph are resource identifiers, blank nodes and literals. A pattern may have a
variable at any place of a term. The text of a term is the one of the line-based formats:
identifiers in angle brackets, labels after `_:`, literals in quotation marks.
-/

namespace GraphAlgebra

/-- A variable, by its name without the question mark. -/
structure Var where
  name : String
deriving DecidableEq, Repr, Inhabited

structure Iri where
  text : String
deriving DecidableEq, Repr, Inhabited

/-- A literal: its characters, and a language tag or a datatype that says how to take them. -/
structure Literal where
  lexical : String
  language : Option String
  datatype : Option Iri
deriving DecidableEq, Repr, Inhabited

inductive Term where
  | iri (i : Iri)
  | blank (label : String)
  | literal (l : Literal)
deriving DecidableEq, Repr, Inhabited

inductive TermPattern where
  | var (v : Var)
  | term (t : Term)
deriving DecidableEq, Repr, Inhabited

namespace Var

/-- The variable of a name that may be written with a question mark. -/
def ofText (s : String) : Var :=
  match s.toList with
  | '?' :: cs => ⟨String.ofList cs⟩
  | _ => ⟨s⟩

def text (v : Var) : String := "?" ++ v.name

instance : Ord Var := ⟨compareOn Var.name⟩

instance : Std.TransOrd Var := inferInstanceAs (Std.TransCmp (compareOn Var.name))

instance : Std.LawfulEqOrd Var where
  eq_of_compare {a b} h := by
    have h : compare a.name b.name = .eq := h
    have h := Std.LawfulEqOrd.eq_of_compare h
    cases a; cases b; simp_all

end Var

def Iri.written (i : Iri) : String := "<" ++ i.text ++ ">"

namespace Literal

def simple (lexical : String) : Literal := ⟨lexical, none, none⟩

/-- A literal in a language. Tags are kept in lower case. -/
def tagged (lexical language : String) : Literal := ⟨lexical, some (lowerAscii language), none⟩

/-- The text of a literal. The language tag is written where there is one, else the
datatype. -/
def written (l : Literal) : String :=
  quoted l.lexical ++
    match l.language, l.datatype with
    | some tag, _ => "@" ++ tag
    | none, some dt => "^^" ++ dt.written
    | none, none => ""

end Literal

namespace Term

def written : Term → String
  | .iri i => i.written
  | .blank label => "_:" ++ label
  | .literal l => l.written

def isIri : Term → Bool
  | .iri _ => true
  | _ => false

def isBlank : Term → Bool
  | .blank _ => true
  | _ => false

def isLiteral : Term → Bool
  | .literal _ => true
  | _ => false

def literal? : Term → Option Literal
  | .literal l => some l
  | _ => none

end Term

namespace TermPattern

def written : TermPattern → String
  | .var v => v.text
  | .term t => t.written

def var? : TermPattern → Option Var
  | .var v => some v
  | .term _ => none

end TermPattern

end GraphAlgebra
