import GraphAlgebra.Sexp.Node
/-!
# From forms to expressions

An expression is a variable, a term, or a form in parentheses that begins with an operator or
the name of a function. Aggregates begin with the name of a summary.
-/

namespace GraphAlgebra

namespace Sexp

def readVar : Node → Except Fault Var
  | .atom (.var v) _ => .ok v
  | n => .error (n.unexpected "variable")

def readTerm : Node → Except Fault Term
  | .atom (.term t) _ => .ok t
  | n => .error (n.unexpected "term")

def readIri : Node → Except Fault Iri
  | .atom (.term (.iri i)) _ => .ok i
  | n => .error (n.unexpected "IRI")

/-- The two parts of a form with exactly two of them. -/
def readPair (name : String) (items : List Node) (pos : Nat) : Except Fault (Node × Node) :=
  match items with
  | [a, b] => .ok (a, b)
  | items => .error ⟨.operandCount name 2 items.length, pos⟩

/-- What the first part of an expression makes of the others. -/
inductive Head where
  | unary (op : UnaryOp)
  | binary (op : BinaryOp)
  | bound
  | choose
  | call (f : Function)
deriving DecidableEq, Repr

/-- The head with a name before `count` operands. Only the minus sign depends on their
number. -/
def headNamed? (name : String) (count : Nat) : Option Head :=
  match name with
  | "=" => some (.binary (.compare .eq))
  | "!=" => some (.binary (.compare .ne))
  | "<" => some (.binary (.compare .lt))
  | "<=" => some (.binary (.compare .le))
  | ">" => some (.binary (.compare .gt))
  | ">=" => some (.binary (.compare .ge))
  | "+" => some (.binary (.arithmetic .add))
  | "*" => some (.binary (.arithmetic .mul))
  | "/" => some (.binary (.arithmetic .div))
  | "-" => some (if count = 1 then .unary .negate else .binary (.arithmetic .sub))
  | "&&" | "and" => some (.binary .and)
  | "||" | "or" => some (.binary .or)
  | "!" | "not" => some (.unary .not)
  | "bound" => some .bound
  | "if" => some .choose
  | name => (Function.ofName? name).map .call

def headName : Node → Except Fault String
  | .atom (.symbol s) _ => .ok s.text
  | .atom (.word name) _ => .ok name
  | n => .error (n.unexpected "operator")

mutual

def readExpr : Node → Except Fault Expr
  | .atom (.var v) _ => .ok (.var v)
  | .atom (.term t) _ => .ok (.constant t)
  | .atom a pos => .error ((Node.atom a pos).unexpected "expression")
  | .bracket items pos => .error ((Node.bracket items pos).unexpected "expression")
  | .list [] pos => .error ⟨.empty "expression", pos⟩
  | .list (head :: args) pos => do
      let name ← headName head
      match headNamed? name args.length with
      | none => .error ⟨.unknown "function" name, head.pos⟩
      | some (.unary op) =>
          match args with
          | [e] => .unary op <$> readExpr e
          | args => .error ⟨.operandCount name 1 args.length, pos⟩
      | some (.binary op) =>
          match args with
          | [l, r] => do
              let l ← readExpr l
              let r ← readExpr r
              .ok (.binary op l r)
          | args => .error ⟨.operandCount name 2 args.length, pos⟩
      | some .bound =>
          match args with
          | [v] => .bound <$> readVar v
          | args => .error ⟨.operandCount name 1 args.length, pos⟩
      | some .choose =>
          match args with
          | [c, y, n] => do
              let c ← readExpr c
              let y ← readExpr y
              let n ← readExpr n
              .ok (.choose c y n)
          | args => .error ⟨.operandCount name 3 args.length, pos⟩
      | some (.call f) => .call f <$> readExprs args

/-- The expressions that some forms are, up to the first fault. -/
def readExprs : List Node → Except Fault (List Expr)
  | [] => .ok []
  | n :: ns => do
      let e ← readExpr n
      let es ← readExprs ns
      .ok (e :: es)

end

/-- The expressions of a list of conditions, or the one expression that the form is. -/
def readExprList (n : Node) : Except Fault (List Expr) :=
  match n with
  | .list (head :: args) _ =>
      if head.isWord "exprlist" then readExprs args else List.singleton <$> readExpr n
  | n => List.singleton <$> readExpr n

def summaryNamed? (name : String) : Option Summary :=
  match name with
  | "count" => some .count
  | "sum" => some .sum
  | "min" => some .min
  | "max" => some .max
  | "avg" => some .avg
  | "sample" => some .sample
  | _ => none

def readSeparator (pos : Nat) : List Node → Except Fault (Option String)
  | [] => .ok none
  | [n] => do
      match ← readTerm n with
      | .literal l => .ok (some l.lexical)
      | _ => .error ⟨.separatorNoString, n.pos⟩
  | _ => .error ⟨.separatorOperands, pos⟩

/-- The word that says that only different values count, and what follows it. -/
def takeDistinct : List Node → Bool × List Node
  | [] => (false, [])
  | n :: ns => if n.isWord "distinct" then (true, ns) else (false, n :: ns)

def readSummary (name : String) (args : List Node) (headPos pos : Nat) :
    Except Fault Aggregator :=
  match name, takeDistinct args with
  | "count", (distinct, []) => .ok (.countRows distinct)
  | name, (_, []) => .error ⟨.noExpression name, pos⟩
  | name, (distinct, n :: extra) => do
      let e ← readExpr n
      if name = "group_concat" then do
        let separator ← readSeparator pos extra
        .ok (.values (.concat separator) e distinct)
      else if !extra.isEmpty then .error ⟨.oneExpression name, pos⟩
      else
        match summaryNamed? name with
        | some s => .ok (.values s e distinct)
        | none => .error ⟨.unknown "aggregate" name, headPos⟩

def readAggregator (n : Node) : Except Fault Aggregator := do
  match ← n.items "aggregate" with
  | [] => .error ⟨.empty "aggregate", n.pos⟩
  | head :: args =>
      match head.word? with
      | none => .error ⟨.expectedForm "aggregate name", head.pos⟩
      | some w =>
          let name := lowerAscii w
          if name = "agg" then
            match args with
            | [] => .error ⟨.noAggregateIri, n.pos⟩
            | i :: args => do
                let iri ← readIri i
                .custom iri <$> readExprs args
          else readSummary name args head.pos n.pos

end Sexp

end GraphAlgebra
