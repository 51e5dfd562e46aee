import GraphAlgebra.Expr.Printer
import GraphAlgebra.Main
import GraphAlgebra.Op.Printer
import GraphAlgebra.Proofs.Eval.BagSemantics
import GraphAlgebra.Proofs.Eval.Coverage
import GraphAlgebra.Proofs.Eval.Disabled
import GraphAlgebra.Proofs.Eval.Distribution
import GraphAlgebra.Proofs.Eval.Failure
import GraphAlgebra.Proofs.Eval.Guard
import GraphAlgebra.Proofs.Eval.Isolation
import GraphAlgebra.Proofs.Eval.Loaded
import GraphAlgebra.Proofs.Eval.Monotone
import GraphAlgebra.Proofs.Eval.Naming
import GraphAlgebra.Proofs.Eval.Statistics
import GraphAlgebra.Proofs.Expr.ExactInteger
import GraphAlgebra.Proofs.Expr.Extremes
import GraphAlgebra.Proofs.Json.Results
import GraphAlgebra.Proofs.NQuads.Statements
import GraphAlgebra.Proofs.Rdf.Concatenation
import GraphAlgebra.Proofs.Sexp.Depth
import GraphAlgebra.Proofs.Solution.ConditionalJoin
import GraphAlgebra.Proofs.Solution.Grid
import GraphAlgebra.Proofs.Solution.JoinLaws
import GraphAlgebra.Proofs.Solution.Partition
import GraphAlgebra.Proofs.Text.Escapes
import GraphAlgebra.Proofs.Expr.Logic
import GraphAlgebra.Proofs.Solution.Assignment
import GraphAlgebra.Proofs.Solution.Duplicates
import GraphAlgebra.Proofs.Solution.Selection
import GraphAlgebra.Proofs.Eval.Splitting
