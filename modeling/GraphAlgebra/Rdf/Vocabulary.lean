import GraphAlgebra.Rdf.Term
/-!
# Identifiers with a fixed meaning

The datatypes whose values expressions can use, the datatype of tagged strings, and the name
under which the default graph is addressed.
-/

namespace GraphAlgebra

namespace Iri

def schema (localName : String) : Iri := ⟨"http://www.w3.org/2001/XMLSchema#" ++ localName⟩

def string : Iri := schema "string"

def boolean : Iri := schema "boolean"

def integer : Iri := schema "integer"

def decimal : Iri := schema "decimal"

def double : Iri := schema "double"

def float : Iri := schema "float"

def int : Iri := schema "int"

def long : Iri := schema "long"

def dateTime : Iri := schema "dateTime"

def langString : Iri := ⟨"http://www.w3.org/1999/02/22-rdf-syntax-ns#langString"⟩

/-- The name that patterns use for the default graph. -/
def defaultGraph : Iri := ⟨"urn:x-arq:DefaultGraph"⟩

theorem integer_ne_string : integer ≠ string := by decide

theorem decimal_ne_string : decimal ≠ string := by decide

theorem boolean_ne_string : boolean ≠ string := by decide

end Iri

namespace Literal

/-- A literal with a datatype. The datatype of strings is left out. -/
def typed (lexical : String) (datatype : Iri) : Literal :=
  if datatype = Iri.string then simple lexical else ⟨lexical, none, some datatype⟩

/-- The datatype, which a literal without one gets from its language. -/
def datatypeIri (l : Literal) : Iri :=
  match l.datatype, l.language with
  | some dt, _ => dt
  | none, some _ => Iri.langString
  | none, none => Iri.string

def isString (l : Literal) : Bool := l.language.isNone && l.datatype.isNone

/-- The form in which literals are kept: not both a language and a datatype, tags in lower
case, the datatype of strings left out. -/
def Normal (l : Literal) : Prop :=
  (l.language.isNone ∨ l.datatype.isNone) ∧
    (∀ tag, l.language = some tag → lowerAscii tag = tag) ∧ l.datatype ≠ some Iri.string

end Literal

namespace Term

def string (s : String) : Term := .literal (.simple s)

def typed (lexical : String) (datatype : Iri) : Term := .literal (.typed lexical datatype)

theorem typed_of_ne (lexical : String) {datatype : Iri} (h : datatype ≠ Iri.string) :
    typed lexical datatype = .literal ⟨lexical, none, some datatype⟩ := by
  rw [typed, Literal.typed, if_neg h]

def boolean (b : Bool) : Term := typed (if b then "true" else "false") Iri.boolean

def isDefaultGraph (t : Term) : Bool := t == .iri Iri.defaultGraph

end Term

end GraphAlgebra
