import GraphAlgebra.Number.Bounded
/-!
# Tokens of the algebra notation

The words of the notation: brackets, the symbols of operators, variables, identifiers, labels,
strings and their suffixes, numbers and names.
-/

namespace GraphAlgebra

inductive Symbol where
  | underscore
  | equals
  | notEquals
  | less
  | lessEquals
  | greater
  | greaterEquals
  | and
  | or
  | bang
  | plus
  | minus
  | star
  | slash
deriving DecidableEq, Repr

def Symbol.text : Symbol → String
  | .underscore => "_"
  | .equals => "="
  | .notEquals => "!="
  | .less => "<"
  | .lessEquals => "<="
  | .greater => ">"
  | .greaterEquals => ">="
  | .and => "&&"
  | .or => "||"
  | .bang => "!"
  | .plus => "+"
  | .minus => "-"
  | .star => "*"
  | .slash => "/"

/-- A token, without the marks that only tell its kind. -/
inductive Token where
  | leftParen
  | rightParen
  | leftBracket
  | rightBracket
  | doubleCaret
  | symbol (s : Symbol)
  | variable (name : String)
  | iri (text : String)
  | blank (label : String)
  | string (text : String)
  | language (tag : String)
  | integer (n : BoundedInt)
  | decimal (text : String)
  | double (text : String)
  | word (name : String)
deriving DecidableEq

/-- A token and the number of bytes before it. -/
structure Placed where
  token : Token
  offset : Nat
deriving DecidableEq

end GraphAlgebra
