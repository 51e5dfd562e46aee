import GraphAlgebra.Expr.Arithmetic
import GraphAlgebra.Expr.Builtin
import GraphAlgebra.Rdf.Comparison
import GraphAlgebra.Solution.Binding
/-!
# Evaluating expressions

An expression has a term as its value in a solution, or a fault. Conjunction and disjunction
have a value as soon as one side decides, whatever the other side is. A solution satisfies an
expression when its value counts as true; a fault does not.
-/

namespace GraphAlgebra

/-- The truth value of a term: of a boolean its value, of a number whether it is neither zero
nor undefined, of a string whether it is nonempty. -/
def truthValue (t : Term) : Except ExprFault Bool :=
  match t with
  | .literal l =>
      match l.boolean?, l.numeric? with
      | some b, _ => .ok b
      | none, some n => .ok (n.toFloat != 0 && !n.toFloat.isNaN)
      | none, none => if l.datatype.isNone then .ok (l.lexical != "") else .error (.noTruthValue t)
  | _ => .error (.noTruthValue t)

def equalTerms (s t : Term) : Except ExprFault Bool :=
  match s.equalValues? t with
  | some b => .ok b
  | none => .error (.incomparable s t)

def compareTerms (s t : Term) : Except ExprFault Ordering :=
  match s.compareValues? t with
  | some o => .ok o
  | none => .error (.incomparable s t)

def Comparison.apply (c : Comparison) (s t : Term) : Except ExprFault Bool :=
  match c with
  | .eq => equalTerms s t
  | .ne => (!·) <$> equalTerms s t
  | .lt => (· == .lt) <$> compareTerms s t
  | .le => (· != .gt) <$> compareTerms s t
  | .gt => (· == .gt) <$> compareTerms s t
  | .ge => (· != .lt) <$> compareTerms s t

def numericOf (t : Term) : Except ExprFault Numeric :=
  match t.numeric? with
  | some n => .ok n
  | none => .error (.notNumeric t)

/-- Two truth values one of which may decide alone: `short` decides, and if neither side is
`short` the fault of the first side that has one counts. -/
def decideEither (short : Bool) (l r : Except ExprFault Bool) : Except ExprFault Bool :=
  match l, r with
  | .ok a, .ok b => .ok (if a = short ∨ b = short then short else !short)
  | .ok a, .error e => if a = short then .ok short else .error e
  | .error e, .ok b => if b = short then .ok short else .error e
  | .error e, .error _ => .error e

def UnaryOp.apply (op : UnaryOp) (v : Except ExprFault Term) : Except ExprFault Term :=
  match op with
  | .not => do .ok (.boolean (!(← truthValue (← v))))
  | .negate => do .ok (← (← numericOf (← v)).negate).toTerm

/-- The value of an operator with two operands. The left one is looked at first. -/
def BinaryOp.apply (op : BinaryOp) (l r : Except ExprFault Term) : Except ExprFault Term :=
  match op with
  | .and => .boolean <$> decideEither false (l.bind truthValue) (r.bind truthValue)
  | .or => .boolean <$> decideEither true (l.bind truthValue) (r.bind truthValue)
  | .compare c => do
      let s ← l
      let t ← r
      .boolean <$> c.apply s t
  | .arithmetic a => do
      let m ← numericOf (← l)
      let n ← numericOf (← r)
      Numeric.toTerm <$> a.apply m n

namespace Expr

mutual

def eval (b : Binding) : Expr → Except ExprFault Term
  | .var v =>
      match b.get? v with
      | some t => .ok t
      | none => .error (.unbound v)
  | .constant t => .ok t
  | .bound v => .ok (.boolean (b.get? v).isSome)
  | .unary op e => op.apply (e.eval b)
  | .binary op l r => op.apply (l.eval b) (r.eval b)
  | .choose c y n => do if ← truthValue (← c.eval b) then y.eval b else n.eval b
  | .call f args =>
      if args.length < f.arity.1 ∨ f.arity.2 < args.length then
        .error (.arity f args.length)
      else do f.apply (← evalAll b args)

/-- The values of some expressions in turn, up to the first fault. -/
def evalAll (b : Binding) : List Expr → Except ExprFault (List Term)
  | [] => .ok []
  | e :: es => do
      let t ← e.eval b
      let ts ← evalAll b es
      .ok (t :: ts)

end

def truth (e : Expr) (b : Binding) : Except ExprFault Bool := (e.eval b).bind truthValue

def satisfiedBy (e : Expr) (b : Binding) : Bool := (e.truth b).toOption.getD false

end Expr

end GraphAlgebra
