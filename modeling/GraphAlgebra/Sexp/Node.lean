import GraphAlgebra.Sexp.Fault
import GraphAlgebra.Sexp.Lexer
import GraphAlgebra.Rdf.Value
/-!
# Nested forms

Tokens make atoms and brackets, and these make nested forms. A string takes the language or
datatype that follows it, so a text holds exactly one form when its brackets match and nothing
follows the form.
-/

namespace GraphAlgebra

namespace Sexp

inductive Atom where
  | var (v : Var)
  | term (t : Term)
  | word (name : String)
  | symbol (s : Symbol)
deriving DecidableEq, Repr

inductive Node where
  | atom (a : Atom) (pos : Nat)
  | list (items : List Node) (pos : Nat)
  | bracket (items : List Node) (pos : Nat)
deriving Repr

inductive Bracket where
  | round
  | square
deriving DecidableEq, Repr

inductive Piece where
  | opening (b : Bracket)
  | closing (b : Bracket)
  | atom (a : Atom)
  | fault (c : Cause)
deriving DecidableEq, Repr

def pieceOf : Token → Piece
  | .leftParen => .opening .round
  | .rightParen => .closing .round
  | .leftBracket => .opening .square
  | .rightBracket => .closing .square
  | .doubleCaret => .fault .straySuffix
  | .language _ => .fault .straySuffix
  | .symbol s => .atom (.symbol s)
  | .variable name => .atom (.var (.ofText name))
  | .iri text => .atom (.term (.iri ⟨text⟩))
  | .blank label => .atom (.term (.blank label))
  | .string text => .atom (.term (.string text))
  | .integer n => .atom (.term (.integer n.val))
  | .decimal text => .atom (.term (.typed text Iri.decimal))
  | .double text => .atom (.term (.typed text Iri.double))
  | .word name =>
      if name = "true" then .atom (.term (.boolean true))
      else if name = "false" then .atom (.term (.boolean false))
      else .atom (.word name)

/-- The pieces of some tokens with their places. A string and its suffix make one piece. -/
def pieces : List Placed → List (Piece × Nat)
  | ⟨.string text, pos⟩ :: ⟨.language tag, _⟩ :: ts =>
      (.atom (.term (.literal (.tagged text tag))), pos) :: pieces ts
  | ⟨.string text, pos⟩ :: ⟨.doubleCaret, _⟩ :: ⟨.iri datatype, _⟩ :: ts =>
      (.atom (.term (.typed text ⟨datatype⟩)), pos) :: pieces ts
  | ⟨.string _, pos⟩ :: ⟨.doubleCaret, _⟩ :: ts => (.fault .noDatatype, pos) :: pieces ts
  | ⟨t, pos⟩ :: ts => (pieceOf t, pos) :: pieces ts
  | [] => []

/-- A form whose closing bracket is still to come, with its parts so far in reverse. -/
structure Frame where
  bracket : Bracket
  pos : Nat
  items : List Node

namespace Frame

def add (f : Frame) (n : Node) : Frame := { f with items := n :: f.items }

def close (f : Frame) : Node :=
  match f.bracket with
  | .round => .list f.items.reverse f.pos
  | .square => .bracket f.items.reverse f.pos

end Frame

/-- Reads one form, given the frames around it from the innermost one on, and gives back what
follows the form. -/
def readNode : List Frame → List (Piece × Nat) → Except Fault (Node × List (Piece × Nat))
  | [], [] => .error ⟨.emptyInput, 0⟩
  | f :: _, [] => .error ⟨.unclosed, f.pos⟩
  | fs, (p, pos) :: ps =>
      match p, fs with
      | .fault c, _ => .error ⟨c, pos⟩
      | .opening b, fs =>
          if fs.length = maxNesting then .error ⟨.tooDeep, pos⟩
          else readNode (⟨b, pos, []⟩ :: fs) ps
      | .closing b, f :: fs =>
          if f.bracket = b then
            match fs with
            | [] => .ok (f.close, ps)
            | g :: fs => readNode (g.add f.close :: fs) ps
          else .error ⟨.unbalanced, pos⟩
      | .closing _, [] => .error ⟨.unbalanced, pos⟩
      | .atom a, f :: fs => readNode (f.add (.atom a pos) :: fs) ps
      | .atom a, [] => .ok (.atom a pos, ps)

/-- The one form of the tokens of a text with `size` bytes. -/
def Node.ofTokens? (size : Nat) : List Placed → Except Fault Node
  | [] => .error ⟨.emptyInput, size⟩
  | ts =>
      match readNode [] (pieces ts) with
      | .error e => .error e
      | .ok (n, []) => .ok n
      | .ok (_, (_, pos) :: _) => .error ⟨.trailing, pos⟩

def Node.ofText? (text : String) : Except Fault Node :=
  match Token.tokens text with
  | .error offset => .error ⟨.unrecognized, offset⟩
  | .ok ts => Node.ofTokens? text.utf8ByteSize ts

namespace Node

def pos : Node → Nat
  | .atom _ pos => pos
  | .list _ pos => pos
  | .bracket _ pos => pos

/-- How a form is named in a report. -/
def describe : Node → String
  | .atom (.var v) _ => v.text
  | .atom (.term t) _ => t.written
  | .atom (.word name) _ => name
  | .atom (.symbol s) _ => s.text
  | .list .. => "list"
  | .bracket .. => "[...]"

def word? : Node → Option String
  | .atom (.word name) _ => some name
  | _ => none

/-- Whether the form is the given word, where upper and lower case do not differ. -/
def isWord (n : Node) (name : String) : Bool :=
  match n.word? with
  | some w => lowerAscii w == name
  | none => false

/-- The fault of a form that stands where something else is expected. -/
def unexpected (n : Node) (what : String) : Fault := ⟨.expected what n.describe, n.pos⟩

def items (n : Node) (what : String) : Except Fault (List Node) :=
  match n with
  | .list items _ => .ok items
  | n => .error (n.unexpected what)

end Node

end Sexp

end GraphAlgebra
