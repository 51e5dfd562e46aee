import GraphAlgebra.Rdf.Vocabulary
/-!
# Expressions

The expressions of filters, assignments, sort conditions and aggregates: variables, terms, the
operators and the built-in functions. A function may stand with any number of arguments; that
the number is right is a matter of evaluation.
-/

namespace GraphAlgebra

inductive Comparison where
  | eq
  | ne
  | lt
  | le
  | gt
  | ge
deriving DecidableEq, Repr

inductive Arithmetic where
  | add
  | sub
  | mul
  | div
deriving DecidableEq, Repr

inductive UnaryOp where
  | not
  | negate
deriving DecidableEq, Repr

inductive BinaryOp where
  | and
  | or
  | compare (c : Comparison)
  | arithmetic (a : Arithmetic)
deriving DecidableEq, Repr

inductive Function where
  | sameTerm
  | isIri
  | isBlank
  | isLiteral
  | isNumeric
  | str
  | lang
  | datatype
  | strLen
  | upperCase
  | lowerCase
  | contains
  | strStarts
  | strEnds
  | regex
deriving DecidableEq, Repr

/-- An expression over the variables of a solution. -/
inductive Expr where
  | var (v : Var)
  | constant (t : Term)
  | bound (v : Var)
  | unary (op : UnaryOp) (e : Expr)
  | binary (op : BinaryOp) (l r : Expr)
  | choose (condition yes no : Expr)
  | call (f : Function) (args : List Expr)
deriving Repr, Inhabited

/-- What is computed from the values of a group. -/
inductive Summary where
  | count
  | sum
  | min
  | max
  | avg
  | sample
  | concat (separator : Option String)
deriving DecidableEq, Repr

/-- An aggregate of a group of solutions: the number of its rows, a summary of the values of
an expression, or one that only its identifier names. -/
inductive Aggregator where
  | countRows (distinct : Bool)
  | values (s : Summary) (e : Expr) (distinct : Bool)
  | custom (iri : Iri) (args : List Expr)
deriving Repr, Inhabited

namespace Comparison

def symbol : Comparison → String
  | .eq => "="
  | .ne => "!="
  | .lt => "<"
  | .le => "<="
  | .gt => ">"
  | .ge => ">="

end Comparison

namespace Arithmetic

def symbol : Arithmetic → String
  | .add => "+"
  | .sub => "-"
  | .mul => "*"
  | .div => "/"

end Arithmetic

namespace UnaryOp

def symbol : UnaryOp → String
  | .not => "!"
  | .negate => "-"

end UnaryOp

namespace BinaryOp

def symbol : BinaryOp → String
  | .and => "&&"
  | .or => "||"
  | .compare c => c.symbol
  | .arithmetic a => a.symbol

end BinaryOp

namespace Function

def all : List Function :=
  [.sameTerm, .isIri, .isBlank, .isLiteral, .isNumeric, .str, .lang, .datatype, .strLen,
    .upperCase, .lowerCase, .contains, .strStarts, .strEnds, .regex]

def name : Function → String
  | .sameTerm => "sameTerm"
  | .isIri => "isIRI"
  | .isBlank => "isBlank"
  | .isLiteral => "isLiteral"
  | .isNumeric => "isNumeric"
  | .str => "str"
  | .lang => "lang"
  | .datatype => "datatype"
  | .strLen => "strlen"
  | .upperCase => "ucase"
  | .lowerCase => "lcase"
  | .contains => "contains"
  | .strStarts => "strstarts"
  | .strEnds => "strends"
  | .regex => "regex"

/-- The function of a name, where upper and lower case do not differ. -/
def ofName? (s : String) : Option Function :=
  all.find? fun f => lowerAscii f.name == lowerAscii s

/-- The least and the greatest number of arguments. -/
def arity : Function → Nat × Nat
  | .sameTerm | .contains | .strStarts | .strEnds => (2, 2)
  | .regex => (2, 3)
  | _ => (1, 1)

end Function

namespace Expr

mutual

def decEq : (a b : Expr) → Decidable (a = b)
  | .var v, b =>
      match b with
      | .var w => if h : v = w then isTrue (by rw [h]) else isFalse (by simpa using h)
      | .constant _ | .bound _ | .unary .. | .binary .. | .choose .. | .call .. => isFalse nofun
  | .constant s, b =>
      match b with
      | .constant t => if h : s = t then isTrue (by rw [h]) else isFalse (by simpa using h)
      | .var _ | .bound _ | .unary .. | .binary .. | .choose .. | .call .. => isFalse nofun
  | .bound v, b =>
      match b with
      | .bound w => if h : v = w then isTrue (by rw [h]) else isFalse (by simpa using h)
      | .var _ | .constant _ | .unary .. | .binary .. | .choose .. | .call .. => isFalse nofun
  | .unary o e, b =>
      match b with
      | .unary o' e' =>
          match decEq e e' with
          | isTrue he =>
              if ho : o = o' then isTrue (by rw [ho, he]) else isFalse (by simp [ho])
          | isFalse he => isFalse (by simp [he])
      | .var _ | .constant _ | .bound _ | .binary .. | .choose .. | .call .. => isFalse nofun
  | .binary o l r, b =>
      match b with
      | .binary o' l' r' =>
          match decEq l l', decEq r r' with
          | isTrue hl, isTrue hr =>
              if ho : o = o' then isTrue (by rw [ho, hl, hr]) else isFalse (by simp [ho])
          | isFalse hl, _ => isFalse (by simp [hl])
          | _, isFalse hr => isFalse (by simp [hr])
      | .var _ | .constant _ | .bound _ | .unary .. | .choose .. | .call .. => isFalse nofun
  | .choose c y n, b =>
      match b with
      | .choose c' y' n' =>
          match decEq c c', decEq y y', decEq n n' with
          | isTrue hc, isTrue hy, isTrue hn => isTrue (by rw [hc, hy, hn])
          | isFalse hc, _, _ => isFalse (by simp [hc])
          | _, isFalse hy, _ => isFalse (by simp [hy])
          | _, _, isFalse hn => isFalse (by simp [hn])
      | .var _ | .constant _ | .bound _ | .unary .. | .binary .. | .call .. => isFalse nofun
  | .call f as, b =>
      match b with
      | .call g bs =>
          match decEqList as bs with
          | isTrue ha =>
              if hf : f = g then isTrue (by rw [hf, ha]) else isFalse (by simp [hf])
          | isFalse ha => isFalse (by simp [ha])
      | .var _ | .constant _ | .bound _ | .unary .. | .binary .. | .choose .. => isFalse nofun

def decEqList : (as bs : List Expr) → Decidable (as = bs)
  | [], [] => isTrue rfl
  | [], _ :: _ => isFalse nofun
  | _ :: _, [] => isFalse nofun
  | a :: as, b :: bs =>
      match decEq a b, decEqList as bs with
      | isTrue h, isTrue hs => isTrue (by rw [h, hs])
      | isFalse h, _ => isFalse (by simp [h])
      | _, isFalse hs => isFalse (by simp [hs])

end

instance : DecidableEq Expr := decEq

end Expr

deriving instance DecidableEq for Aggregator

def Summary.name : Summary → String
  | .count => "count"
  | .sum => "sum"
  | .min => "min"
  | .max => "max"
  | .avg => "avg"
  | .sample => "sample"
  | .concat _ => "group_concat"

def Aggregator.name : Aggregator → String
  | .countRows _ => "count"
  | .values s _ _ => s.name
  | .custom .. => "agg"

end GraphAlgebra
