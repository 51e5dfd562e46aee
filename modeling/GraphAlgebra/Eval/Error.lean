import GraphAlgebra.Expr.Fault
import GraphAlgebra.NQuads.Document
import GraphAlgebra.Sexp.Fault
/-!
# Errors

Everything that can keep a query from having a result, by kind and cause, with the report of
each. Faults of expressions do not end a query, but a caller that evaluates an expression alone
sees them as errors too.

The reports of `Error.file` and `Error.configuration` are fixed texts. They stand for the messages
of the operating system and of the JSON reader, which differ from one system to the next and which
nothing reads.
-/

namespace GraphAlgebra

inductive ArgumentFault where
  | shape
  | emptySeparator
  | unbound (v : Var)
  | notLiteral (t : Term)
deriving DecidableEq, Repr

inductive ServiceFault where
  | disabled (endpoint : Term)
  | noExecutor (endpoint : Term)
  | unknownEndpoint (endpoint : Term)
  | reported (message : String)
deriving DecidableEq, Repr

/-- Why there is no result. A crash is no answer of the program, which stops in the middle then, so
nothing takes the place of it. -/
inductive Error where
  | unsupportedOperator (name : String)
  | badGraphNode (t : Term)
  | execution (message : String)
  | unsupportedAggregator (iri : Iri)
  | procedureNotFound (iri : Iri)
  | procedureArgs (f : ArgumentFault)
  | service (f : ServiceFault)
  | expression (f : ExprFault)
  | recursionLimit (limit : Nat)
  | query (f : Sexp.Fault)
  | data (f : NQuads.Fault)
  | file
  | configuration
  | crash
deriving DecidableEq, Repr

def ArgumentFault.message : ArgumentFault → String
  | .shape => "strSplit expects a variable subject and (text separator) object"
  | .emptySeparator => "strSplit separator must not be empty"
  | .unbound v => "strSplit argument " ++ v.text ++ " is unbound"
  | .notLiteral t => "strSplit argument " ++ t.written ++ " is not a literal"

def ServiceFault.message : ServiceFault → String
  | .disabled endpoint => "service calls are disabled (" ++ endpoint.written ++ ")"
  | .noExecutor endpoint => "no service executor for " ++ endpoint.written
  | .unknownEndpoint endpoint => "unknown endpoint " ++ endpoint.written
  | .reported message => message

def Error.message : Error → String
  | .unsupportedOperator name => "Unsupported operator: ext (" ++ name ++ ")"
  | .badGraphNode t =>
      "Query execution error: datasetnames: graph node must be an IRI or variable, got " ++
        t.written
  | .execution message => "Query execution error: " ++ message
  | .unsupportedAggregator iri => "Unsupported aggregator: " ++ iri.written
  | .procedureNotFound iri => "Procedure not found: " ++ iri.written
  | .procedureArgs f => "Invalid procedure arguments: " ++ f.message
  | .service f => "Service error: " ++ f.message
  | .expression f => "Expression evaluation error: " ++ f.message
  | .recursionLimit limit => s!"Evaluation exceeded maximum depth of {limit}"
  | .query f => "Query parse error: " ++ f.message
  | .data f => s!"Data load error at line {f.line}: " ++ f.fault.message
  | .file => "IO error"
  | .configuration => "Configuration error"
  | .crash => "user-provided comparison function does not correctly implement a total order"

end GraphAlgebra
