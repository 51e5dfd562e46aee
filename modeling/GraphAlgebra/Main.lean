import GraphAlgebra.Command.Program
/-!
# The command

Reads files and the environment, runs the program and prints what it leaves.
-/

namespace GraphAlgebra.Program

def readFile (name : String) : IO (Option String) := do
  try
    let text ← IO.FS.readFile name
    pure (some text)
  catch _ => pure none

end GraphAlgebra.Program

open GraphAlgebra

def main (args : List String) : IO UInt32 := do
  let dataFile ← IO.getEnv "REFARQ_DATA"
  let outcome ← Program.main Program.readFile args dataFile
  IO.print outcome.output
  unless outcome.report.isEmpty do
    IO.eprintln outcome.report
  pure (UInt32.ofNat outcome.status)
