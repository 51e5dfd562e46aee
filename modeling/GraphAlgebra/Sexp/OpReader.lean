import GraphAlgebra.Sexp.ExprReader
/-!
# From forms to operators

An operator is a form in parentheses that begins with the name of the operator. The other parts
are read from left to right, but for a slice and a procedure, which read their operand before
the bounds and the name.
-/

namespace GraphAlgebra

namespace Sexp

def readPlace : Node → Except Fault TermPattern
  | .atom (.var v) _ => .ok (.var v)
  | n => .term <$> readTerm n

def readPlaceArg : Node → Except Fault PlaceArg
  | .list items _ => .list <$> items.mapM readPlace
  | n => .place <$> readPlace n

def readPlaces (s p o : Node) : Except Fault TriplePattern := do
  let s ← readPlace s
  let p ← readPlace p
  let o ← readPlace o
  .ok ⟨s, p, o⟩

def readTriple (n : Node) : Except Fault TriplePattern := do
  match ← n.items "(triple s p o)" with
  | [head, s, p, o] =>
      if head.isWord "triple" then readPlaces s p o
      else .error ⟨.expectedForm "(triple s p o)", n.pos⟩
  | _ => .error ⟨.expectedForm "(triple s p o)", n.pos⟩

/-- The graph and the template of a form, where the graph has to be the one of the forms before
it. -/
def readQuad (graph : Option TermPattern) (n : Node) :
    Except Fault (TermPattern × TriplePattern) := do
  match ← n.items "(quad g s p o)" with
  | [head, g, s, p, o] =>
      if head.isWord "quad" then do
        let g ← readPlace g
        if graph.any (· != g) then .error ⟨.differentGraphs, n.pos⟩
        else do
          let t ← readPlaces s p o
          .ok (g, t)
      else .error ⟨.expectedForm "(quad g s p o)", n.pos⟩
  | _ => .error ⟨.expectedForm "(quad g s p o)", n.pos⟩

def readQuads (graph : Option TermPattern) :
    List Node → Except Fault (Option TermPattern × BasicPattern)
  | [] => .ok (graph, [])
  | n :: ns => do
      let (g, t) ← readQuad graph n
      let (g, ts) ← readQuads (some g) ns
      .ok (g, t :: ts)

def readQuadTemplates (args : List Node) (pos : Nat) : Except Fault Op := do
  match ← readQuads none args with
  | (some g, ts) => .ok (.quads g ts)
  | (none, _) => .error ⟨.noGraph, pos⟩

/-- A pattern in one graph: the graph alone, or templates with it. -/
def readQuadPattern (args : List Node) (pos : Nat) : Except Fault Op :=
  match args with
  | [.list ..] => readQuadTemplates args pos
  | [g] => do
      let g ← readPlace g
      .ok (.quads g [])
  | _ => readQuadTemplates args pos

def readCell (row : Binding) : Node → Except Fault Binding
  | .bracket items pos => do
      let (v, t) ← readPair "row cell" items pos
      let v ← readVar v
      let t ← readTerm t
      .ok (row.set v t)
  | n => .error ⟨.expectedForm "[?var term]", n.pos⟩

def readRow (n : Node) : Except Fault Binding := do
  match ← n.items "(vars ...) or (row ...)" with
  | [] => .error ⟨.empty "table clause", n.pos⟩
  | head :: cells =>
      if head.isWord "row" then cells.foldlM readCell Binding.empty
      else .error ⟨.expectedForm "(vars ...) or (row ...)", n.pos⟩

/-- The heading and the rows of a table. Only the first clause can be the heading. -/
def readClauses : List Node → Except Fault (List Var × List Binding)
  | .list (head :: vars) pos :: rows =>
      if head.isWord "vars" then do
        let vs ← vars.mapM readVar
        let rows ← rows.mapM readRow
        .ok (vs, rows)
      else do
        let rows ← (.list (head :: vars) pos :: rows).mapM readRow
        .ok ([], rows)
  | rows => do
      let rows ← rows.mapM readRow
      .ok ([], rows)

def readClauseTable (args : List Node) : Except Fault Table := do
  let (vs, rows) ← readClauses args
  .ok (.ofRows vs rows)

/-- A table: a word for one of the two smallest, or clauses. -/
def readTable (args : List Node) (pos : Nat) : Except Fault Table :=
  match args with
  | [] => .error ⟨.noTable, pos⟩
  | [n] =>
      if n.isWord "unit" then .ok .unit
      else if n.isWord "empty" then .ok .empty
      else readClauseTable [n]
  | args => readClauseTable args

def maxBound : Nat := UInt64.size - 1

def bound? (cs : List Char) : Option Nat :=
  let digits := match cs with
    | '+' :: r => r
    | r => r
  (natural? digits).filter (· ≤ maxBound)

/-- A bound of a slice: a number, or a low line for none. -/
def readBound : Node → Except Fault (Option Nat)
  | .atom (.symbol .underscore) _ => .ok none
  | .atom (.term (.literal l)) pos =>
      if l.datatypeIri = Iri.integer then
        match bound? l.lexical.toList with
        | some n => .ok (some n)
        | none => .error ⟨.badBound, pos⟩
      else .error ⟨.badBound, pos⟩
  | .atom (.term _) pos => .error ⟨.badBound, pos⟩
  | n => .error (n.unexpected "slice bound")

/-- The sort condition that a form is. Without a direction it is ascending. -/
def readCondition (n : Node) : Except Fault SortCondition :=
  match n with
  | .list [head, e] _ =>
      if head.isWord "asc" then (⟨·, .ascending⟩) <$> readExpr e
      else if head.isWord "desc" then (⟨·, .descending⟩) <$> readExpr e
      else (⟨·, .ascending⟩) <$> readExpr n
  | n => (⟨·, .ascending⟩) <$> readExpr n

def readAssignment (n : Node) : Except Fault (Var × Expr) := do
  let items ← n.items "(?var expr)"
  let (v, e) ← readPair "binding" items n.pos
  let v ← readVar v
  let e ← readExpr e
  .ok (v, e)

/-- The grouping key that a form is: a variable, or one with an expression. -/
def readKey : Node → Except Fault (Var × Option Expr)
  | .atom (.var v) _ => .ok (v, none)
  | n => (fun (v, e) => (v, some e)) <$> readAssignment n

def readAggregate (n : Node) : Except Fault (Var × Aggregator) := do
  let items ← n.items "(?var aggregate)"
  let (v, a) ← readPair "aggregate binding" items n.pos
  let v ← readVar v
  let a ← readAggregator a
  .ok (v, a)

def readEndpoint (n : Node) : Except Fault Term := do
  match ← readPlace n with
  | .term t => .ok t
  | .var _ => .error ⟨.variableEndpoint, n.pos⟩

/-- The operands of a service without the mark of a silent one. -/
def withoutSilent : List Node → List Node
  | [] => []
  | n :: ns => if n.isWord "silent" then ns else n :: ns

def combine (name : String) (l r : Op) : Op :=
  match name with
  | "join" => .join l r
  | "sequence" => .sequence l r
  | _ => .union l r

/-- Joins at least two operators from the left. -/
def combineAll (name : String) (pos : Nat) : List Op → Except Fault Op
  | l :: r :: ops => .ok (ops.foldl (combine name) (combine name l r))
  | _ => .error ⟨.tooFewOperands name, pos⟩

def wrongCount {α : Type} (name : String) (takes : Nat) (args : List Node) (pos : Nat) :
    Except Fault α :=
  .error ⟨.operandCount name takes args.length, pos⟩

mutual

def readOp : Node → Except Fault Op
  | .atom a pos => .error ((Node.atom a pos).unexpected "operator")
  | .bracket items pos => .error ((Node.bracket items pos).unexpected "operator")
  | .list [] pos => .error ⟨.empty "operator", pos⟩
  | .list (head :: args) pos =>
      match head.word? with
      | none => .error ⟨.expectedForm "operator name", head.pos⟩
      | some name =>
        match name with
        | "bgp" => .bgp <$> args.mapM readTriple
        | "quadpattern" => readQuadPattern args pos
        | "triple" | "quad" => .error ⟨.outsidePattern name, pos⟩
        | "join" | "sequence" | "union" => do combineAll name pos (← readOps args)
        | "diff" | "minus" =>
            match args with
            | [l, r] => do
                let l ← readOp l
                let r ← readOp r
                .ok (.diff l r)
            | args => wrongCount name 2 args pos
        | "leftjoin" =>
            match args with
            | [l, r] => do
                let l ← readOp l
                let r ← readOp r
                .ok (.leftJoin l r [])
            | [l, r, es] => do
                let l ← readOp l
                let r ← readOp r
                let es ← readExprList es
                .ok (.leftJoin l r es)
            | _ => .error ⟨.leftJoinOperands, pos⟩
        | "filter" =>
            match args with
            | [es, sub] => do
                let es ← readExprList es
                .filter es <$> readOp sub
            | args => wrongCount name 2 args pos
        | "graph" =>
            match args with
            | [g, sub] => do
                let g ← readPlace g
                .graph g <$> readOp sub
            | args => wrongCount name 2 args pos
        | "service" =>
            match args with
            | [endpoint, sub] =>
                if endpoint.isWord "silent" then wrongCount name 2 [sub] pos
                else do
                  let endpoint ← readEndpoint endpoint
                  let sub ← readOp sub
                  .ok (.service endpoint sub false)
            | [mark, endpoint, sub] =>
                if mark.isWord "silent" then do
                  let endpoint ← readEndpoint endpoint
                  let sub ← readOp sub
                  .ok (.service endpoint sub true)
                else wrongCount name 2 args pos
            | args => wrongCount name 2 (withoutSilent args) pos
        | "datasetnames" =>
            match args with
            | [g] => .datasetNames <$> readPlace g
            | args => wrongCount name 1 args pos
        | "table" => .table <$> readTable args pos
        | "ext" =>
            match args with
            | [n] => .ok (.extension n.describe .null)
            | [n, sub] => .extension n.describe <$> readOp sub
            | _ => .error ⟨.extensionOperands, pos⟩
        | "null" =>
            match args with
            | [] => .ok .null
            | args => wrongCount name 0 args pos
        | "list" =>
            match args with
            | [sub] => .list <$> readOp sub
            | args => wrongCount name 1 args pos
        | "distinct" =>
            match args with
            | [sub] => .distinct <$> readOp sub
            | args => wrongCount name 1 args pos
        | "reduced" =>
            match args with
            | [sub] => .reduced <$> readOp sub
            | args => wrongCount name 1 args pos
        | "order" =>
            match args with
            | [cs, sub] => do
                let cs ← (← cs.items "sort conditions").mapM readCondition
                let sub ← readOp sub
                .ok (.order sub cs)
            | args => wrongCount name 2 args pos
        | "project" =>
            match args with
            | [vs, sub] => do
                let vs ← (← vs.items "variable list").mapM readVar
                let sub ← readOp sub
                .ok (.project sub vs)
            | args => wrongCount name 2 args pos
        | "slice" =>
            match args with
            | [start, length, sub] => do
                let sub ← readOp sub
                let start ← readBound start
                let length ← readBound length
                .ok (.slice sub start length)
            | args => wrongCount name 3 args pos
        | "assign" =>
            match args with
            | [as, sub] => do
                let as ← (← as.items "assignments").mapM readAssignment
                let sub ← readOp sub
                .ok (.assign sub as)
            | args => wrongCount name 2 args pos
        | "group" =>
            match args with
            | [keys, as, sub] => do
                let keys ← (← keys.items "group variables").mapM readKey
                let as ← (← as.items "aggregators").mapM readAggregate
                let sub ← readOp sub
                .ok (.group sub keys as)
            | args => wrongCount name 3 args pos
        | "proc" =>
            match args with
            | [i, es, sub] => do
                let es ← readExprs (← es.items "argument list")
                let sub ← readOp sub
                let i ← readIri i
                .ok (.procedure sub i (.positional es))
            | args => wrongCount name 3 args pos
        | "propfunc" =>
            match args with
            | [i, s, o, sub] => do
                let s ← readPlaceArg s
                let o ← readPlaceArg o
                let sub ← readOp sub
                let i ← readIri i
                .ok (.procedure sub i (.subjectObject s o))
            | args => wrongCount name 4 args pos
        | name => .error ⟨.unknown "operator" name, head.pos⟩

/-- The operators that some forms are, up to the first fault. -/
def readOps : List Node → Except Fault (List Op)
  | [] => .ok []
  | n :: ns => do
      let op ← readOp n
      let ops ← readOps ns
      .ok (op :: ops)

end

end Sexp

def Op.ofText (text : String) : Except Sexp.Fault Op := do Sexp.readOp (← Sexp.Node.ofText? text)

def Expr.ofText (text : String) : Except Sexp.Fault Expr := do
  Sexp.readExpr (← Sexp.Node.ofText? text)

end GraphAlgebra
