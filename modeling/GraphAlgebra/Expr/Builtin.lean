import GraphAlgebra.Expr.Fault
import GraphAlgebra.Rdf.Value
import GraphAlgebra.Regex.Reader
/-!
# Built-in functions

What the functions make of the values of their arguments. The number of arguments is checked
against the arity first.
-/

namespace GraphAlgebra

/-- The literal, if it is a string with or without a language. -/
def textOf (t : Term) : Except ExprFault Literal :=
  match t with
  | .literal l => if l.datatype.isNone then .ok l else .error (.notText t)
  | _ => .error (.notText t)

/-- Whether a text stands somewhere in another one. -/
def occursIn (needle : List Char) : List Char → Bool
  | [] => needle.isEmpty
  | c :: cs => needle.isPrefixOf (c :: cs) || occursIn needle cs

def regexFlags (letters : List Char) : Except ExprFault Regex.Flags :=
  letters.foldlM (fun f c =>
    match c with
    | 'i' => .ok { f with caseless := true }
    | 's' => .ok { f with dotAll := true }
    | 'm' => .ok { f with multiLine := true }
    | 'x' => .ok { f with verbose := true }
    | c => .error (.unknownFlag c)) {}

def matchRegex (text pattern flags : String) : Except ExprFault Bool := do
  let f ← regexFlags flags.toList
  match Regex.Pattern.ofText? f pattern.toList with
  | some p => .ok (p.matchesIn text.toList)
  | none => .error .badPattern

/-- The characters of a term without its language or datatype. -/
def plainText : Term → Except ExprFault Term
  | .iri i => .ok (.string i.text)
  | .literal l => .ok (.string l.lexical)
  | .blank _ => .error .textOfBlank

/-- A string in the other case and the same language. -/
def recase (change : List Char → List Char) (t : Term) : Except ExprFault Term := do
  let l ← textOf t
  .ok (.literal ⟨String.ofList (change l.lexical.toList), l.language, none⟩)

def compareTexts (holds : List Char → List Char → Bool) (s t : Term) :
    Except ExprFault Term := do
  let l ← textOf s
  let r ← textOf t
  .ok (.boolean (holds l.lexical.toList r.lexical.toList))

def Function.applyOne (f : Function) (t : Term) : Except ExprFault Term :=
  match f with
  | .isIri => .ok (.boolean t.isIri)
  | .isBlank => .ok (.boolean t.isBlank)
  | .isLiteral => .ok (.boolean t.isLiteral)
  | .isNumeric => .ok (.boolean t.numeric?.isSome)
  | .str => plainText t
  | .lang =>
      match t with
      | .literal l => .ok (.string (l.language.getD ""))
      | _ => .error (.languageOf t)
  | .datatype =>
      match t with
      | .literal l => .ok (.iri l.datatypeIri)
      | _ => .error (.datatypeOf t)
  | .strLen => do
      let l ← textOf t
      .ok (.integer l.lexical.length)
  | .upperCase => recase upperText t
  | .lowerCase => recase lowerText t
  | f => .error (.arity f 1)

def Function.applyTwo (f : Function) (s t : Term) : Except ExprFault Term :=
  match f with
  | .sameTerm => .ok (.boolean (s == t))
  | .contains => compareTexts (fun l r => occursIn r l) s t
  | .strStarts => compareTexts (fun l r => r.isPrefixOf l) s t
  | .strEnds => compareTexts (fun l r => r.isSuffixOf l) s t
  | .regex => do
      let text ← textOf s
      let pattern ← textOf t
      .boolean <$> matchRegex text.lexical pattern.lexical ""
  | f => .error (.arity f 2)

def Function.applyThree (f : Function) (s t u : Term) : Except ExprFault Term :=
  match f with
  | .regex => do
      let text ← textOf s
      let pattern ← textOf t
      let flags ← textOf u
      .boolean <$> matchRegex text.lexical pattern.lexical flags.lexical
  | f => .error (.arity f 3)

def Function.apply (f : Function) : List Term → Except ExprFault Term
  | [t] => f.applyOne t
  | [s, t] => f.applyTwo s t
  | [s, t, u] => f.applyThree s t u
  | ts => .error (.arity f ts.length)

end GraphAlgebra
