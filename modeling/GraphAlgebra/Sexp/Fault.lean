import GraphAlgebra.Op.Basic
/-!
# Why a text is no query

Everything that can be wrong with a text in the algebra notation, with its report. A fault is
placed at the number of bytes before it.
-/

namespace GraphAlgebra

namespace Sexp

inductive Cause where
  | unrecognized
  | emptyInput
  | trailing
  | tooDeep
  | unbalanced
  | unclosed
  | straySuffix
  | noDatatype
  | empty (what : String)
  | expectedForm (what : String)
  | expected (what found : String)
  | outsidePattern (name : String)
  | unknown (kind name : String)
  | tooFewOperands (name : String)
  | operandCount (name : String) (takes found : Nat)
  | leftJoinOperands
  | variableEndpoint
  | extensionOperands
  | differentGraphs
  | noGraph
  | noTable
  | badBound
  | noAggregateIri
  | noExpression (name : String)
  | oneExpression (name : String)
  | separatorNoString
  | separatorOperands
deriving DecidableEq, Repr

def maxNesting : Nat := 128

def Cause.message : Cause → String
  | .unrecognized => "unrecognized input"
  | .emptyInput => "empty input"
  | .trailing => "unexpected trailing input"
  | .tooDeep => s!"nesting deeper than {maxNesting} levels"
  | .unbalanced => "unbalanced closing delimiter"
  | .unclosed => "unclosed delimiter"
  | .straySuffix => "literal suffix without a string"
  | .noDatatype => "expected datatype IRI after ^^"
  | .empty what => "empty " ++ what
  | .expectedForm what => "expected " ++ what
  | .expected what found => "expected " ++ what ++ ", found " ++ found
  | .outsidePattern name => name ++ " outside a pattern"
  | .unknown kind name => "unknown " ++ kind ++ " '" ++ name ++ "'"
  | .tooFewOperands name => name ++ " needs at least two operands"
  | .operandCount name takes found => name ++ s!" takes {takes} operand(s), found {found}"
  | .leftJoinOperands => "leftjoin takes two operands and optional expressions"
  | .variableEndpoint => "service endpoint must be a term"
  | .extensionOperands => "ext takes a name and an optional operand"
  | .differentGraphs => "all quads must share one graph"
  | .noGraph => "quadpattern needs a graph"
  | .noTable => "table needs unit, empty or vars/rows"
  | .badBound => "slice bound must be a non-negative integer or _"
  | .noAggregateIri => "agg needs an IRI"
  | .noExpression name => name ++ " needs an expression"
  | .oneExpression name => name ++ " takes one expression"
  | .separatorNoString => "separator must be a string"
  | .separatorOperands => "group_concat takes an expression and a separator"

structure Fault where
  cause : Cause
  offset : Nat
deriving DecidableEq, Repr

def Fault.message (f : Fault) : String := f.cause.message ++ s!" at offset {f.offset}"

end Sexp

end GraphAlgebra
