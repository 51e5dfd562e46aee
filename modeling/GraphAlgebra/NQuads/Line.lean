import GraphAlgebra.Rdf.Dataset
import GraphAlgebra.Text.Word
import GraphAlgebra.Text.Hexadecimal
/-!
# Statements on a line

A statement has a subject, a predicate and an object, then possibly the name of a graph, and
ends with a point. White space may stand between them and a comment behind them. Each reader
takes what it reads off the front of the line and gives back the rest.
-/

namespace GraphAlgebra

namespace NQuads

inductive LineFault where
  | literalSubject
  | predicateNoIri
  | literalGraph
  | missingPoint
  | trailingContent
  | unexpected (c : Char)
  | endOfLine
  | unterminatedIri
  | missingColon
  | emptyLabel
  | unterminatedString
  | emptyLanguage
  | missingDatatype
  | danglingEscape
  | badEscape (c : Char)
  | shortCode
  | badCode (digits : List Char)
deriving DecidableEq, Repr

def LineFault.message : LineFault → String
  | .literalSubject => "literal in subject position"
  | .predicateNoIri => "predicate must be an IRI"
  | .literalGraph => "literal in graph position"
  | .missingPoint => "expected '.' at end of statement"
  | .trailingContent => "trailing content after '.'"
  | .unexpected c => "unexpected character '" ++ String.singleton c ++ "'"
  | .endOfLine => "unexpected end of line"
  | .unterminatedIri => "unterminated IRI"
  | .missingColon => "expected ':' in blank node label"
  | .emptyLabel => "empty blank node label"
  | .unterminatedString => "unterminated string literal"
  | .emptyLanguage => "empty language tag"
  | .missingDatatype => "expected '^^<' before datatype"
  | .danglingEscape => "dangling escape"
  | .badEscape c => "invalid escape '\\" ++ String.singleton c ++ "'"
  | .shortCode => "truncated unicode escape"
  | .badCode digits => "invalid unicode escape '" ++ String.ofList digits ++ "'"

def skipBlanks (cs : List Char) : List Char := cs.dropWhile isBlank

/-- The identifier after its opening bracket. -/
def readIri (cs : List Char) : Except LineFault (Iri × List Char) :=
  let inside (c : Char) : Bool := c != '>' && !isBlank c
  match cs.dropWhile inside with
  | '>' :: r => .ok (⟨String.ofList (cs.takeWhile inside)⟩, r)
  | _ => .error .unterminatedIri

def isLabelChar (c : Char) : Bool := isAlphanumeric c || c == '_' || c == '-'

/-- The blank node after its low line. -/
def readBlank : List Char → Except LineFault (Term × List Char)
  | ':' :: cs =>
      let label := cs.takeWhile isLabelChar
      if label.isEmpty then .error .emptyLabel
      else .ok (.blank (String.ofList label), cs.dropWhile isLabelChar)
  | _ => .error .missingColon

/-- The character whose number is spelled by the next `n` characters. -/
def readCode (n : Nat) (cs : List Char) : Except LineFault (Char × Nat) :=
  if cs.length < n then .error .shortCode
  else
    match codePoint? (cs.take n) with
    | some c => .ok (c, n)
    | none => .error (.badCode (cs.take n))

/-- What the character `c` after a backslash stands for, and how many of the characters after
it belong to the escape. -/
def readEscape (c : Char) (cs : List Char) : Except LineFault (Char × Nat) :=
  match c with
  | 't' => .ok ('\t', 0)
  | 'n' => .ok ('\n', 0)
  | 'r' => .ok ('\r', 0)
  | 'b' => .ok ('\x08', 0)
  | 'f' => .ok ('\x0c', 0)
  | '"' => .ok ('"', 0)
  | '\'' => .ok ('\'', 0)
  | '\\' => .ok ('\\', 0)
  | 'u' => readCode 4 cs
  | 'U' => readCode 8 cs
  | c => .error (.badEscape c)

/-- The characters up to a closing quotation mark, with escapes resolved. -/
def readString : List Char → Except LineFault (List Char × List Char)
  | [] => .error .unterminatedString
  | c :: cs =>
      if c = '"' then .ok ([], cs)
      else if c = '\\' then
        match cs with
        | [] => .error .danglingEscape
        | e :: cs => do
            let (x, n) ← readEscape e cs
            let (xs, rest) ← readString (cs.drop n)
            .ok (x :: xs, rest)
      else do
        let (xs, rest) ← readString cs
        .ok (c :: xs, rest)
termination_by cs => cs.length
decreasing_by all_goals grind

def isTagChar (c : Char) : Bool := c.isAlphanum || c == '-'

/-- The literal after its opening quotation mark, with its language or datatype. -/
def readLiteral (cs : List Char) : Except LineFault (Term × List Char) := do
  let (xs, rest) ← readString cs
  let lexical := String.ofList xs
  match rest with
  | '@' :: r =>
      let tag := r.takeWhile isTagChar
      if tag.isEmpty then .error .emptyLanguage
      else .ok (.literal (.tagged lexical (String.ofList tag)), r.dropWhile isTagChar)
  | '^' :: '^' :: '<' :: r => do
      let (iri, r) ← readIri r
      .ok (.literal (.typed lexical iri), r)
  | '^' :: _ => .error .missingDatatype
  | r => .ok (.literal (.simple lexical), r)

def readTerm (cs : List Char) : Except LineFault (Term × List Char) :=
  match skipBlanks cs with
  | [] => .error .endOfLine
  | '<' :: r => do
      let (iri, r) ← readIri r
      .ok (.iri iri, r)
  | '_' :: r => readBlank r
  | '"' :: r => readLiteral r
  | c :: _ => .error (.unexpected c)

/-- The name of a graph, unless the point of the statement comes next. -/
def readGraph (cs : List Char) : Except LineFault (Option Term × List Char) :=
  match skipBlanks cs with
  | '.' :: r => .ok (none, '.' :: r)
  | r => do
      let (name, r) ← readTerm r
      if name.isLiteral then .error .literalGraph else .ok (some name, r)

/-- What follows the parts of a statement: a point, then at most a comment. -/
def readEnd (cs : List Char) : Except LineFault Unit :=
  match skipBlanks cs with
  | '.' :: r =>
      match skipBlanks r with
      | [] => .ok ()
      | c :: _ => if c = '#' then .ok () else .error .trailingContent
  | _ => .error .missingPoint

/-- The statement of a line, if there is one on it. -/
def readLine (cs : List Char) : Except LineFault (Option Quad) :=
  match skipBlanks cs with
  | [] => .ok none
  | '#' :: _ => .ok none
  | cs => do
      let (s, cs) ← readTerm cs
      if s.isLiteral then throw .literalSubject
      let (p, cs) ← readTerm cs
      if !p.isIri then throw .predicateNoIri
      let (o, cs) ← readTerm cs
      let (g, cs) ← readGraph cs
      readEnd cs
      .ok (some ⟨g, ⟨s, p, o⟩⟩)

end NQuads

end GraphAlgebra
