import GraphAlgebra.NQuads.Line
/-!
# Documents of statements

A document is read line by line. Its lines end with a line feed, with or without a carriage
return before it. The first line that is no statement and not blank makes the whole document
unreadable.
-/

namespace GraphAlgebra

namespace NQuads

/-- What is wrong, and on which line, counted from one. -/
structure Fault where
  line : Nat
  fault : LineFault
deriving DecidableEq, Repr

/-- A line without the carriage return at its end, given in reverse. -/
def endLine : List Char → List Char
  | '\r' :: r => r.reverse
  | r => r.reverse

/-- The lines of a text, given the beginning of the first one in reverse. -/
def linesFrom (seen : List Char) : List Char → List (List Char)
  | [] => if seen.isEmpty then [] else [seen.reverse]
  | c :: cs => if c = '\n' then endLine seen :: linesFrom [] cs else linesFrom (c :: seen) cs

def lines (cs : List Char) : List (List Char) := linesFrom [] cs

/-- The statements of lines of which the first one has the number `n`. -/
def readLines (n : Nat) : List (List Char) → Except Fault (List Quad)
  | [] => .ok []
  | l :: ls =>
      match readLine l with
      | .error e => .error ⟨n, e⟩
      | .ok q => do
          let qs ← readLines (n + 1) ls
          .ok (q.toList ++ qs)

def statements (text : String) : Except Fault (List Quad) := readLines 1 (lines text.toList)

def load (text : String) : Except Fault Dataset := Dataset.ofQuads <$> statements text

end NQuads

end GraphAlgebra
