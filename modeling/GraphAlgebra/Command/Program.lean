import GraphAlgebra.Command.Arguments
import GraphAlgebra.Eval.Engine
/-!
# The program

A query is evaluated over the data of a file, with services that are files of their own. All
files are read through one function, in whatever way the surroundings provide it: first the
data, then the services in the order of their endpoints, and only then is the query read.
-/

namespace GraphAlgebra

namespace Program

variable {m : Type → Type} [Monad m]

/-- A way to read a file, which may not be there. -/
abbrev Files (m : Type → Type) : Type := String → m (Option String)

def loadFile (files : Files m) (name : String) : m (Except Error Dataset) := do
  match ← files name with
  | none => pure (.error .file)
  | some text =>
      match NQuads.load text with
      | .ok d => pure (.ok d)
      | .error f => pure (.error (.data f))

/-- The dataset of a file, or an empty one without a file. -/
def loadData (files : Files m) : Option String → m (Except Error Dataset)
  | some name => loadFile files name
  | none => pure (.ok .empty)

def loadServices (files : Files m) (done : SortedMap Term Dataset) :
    List (String × String) → m (Except Error (SortedMap Term Dataset))
  | [] => pure (.ok done)
  | (endpoint, name) :: rest => do
      match ← loadFile files name with
      | .error e => pure (.error e)
      | .ok d => loadServices files (done.set (.iri ⟨endpoint⟩) d) rest

def run (files : Files m) (s : Settings) (data : Option String) (query : String) :
    m (Except Error Answer) := do
  match ← loadData files data with
  | .error e => pure (.error e)
  | .ok d =>
      match ← loadServices files Sorted.empty s.services.toList with
      | .error e => pure (.error e)
      | .ok endpoints =>
          let engine : Engine Unit :=
            { dataset := d
              services := localServices endpoints builtinProcedures s.engine
              config := s.engine }
          pure (engine.answer query)

/-- What the program leaves: its status, what it prints, and a report of an error. -/
structure Outcome where
  status : Nat
  output : String := ""
  report : String := ""
deriving DecidableEq, Repr

def loadSettings (files : Files m) : Option String → m (Except Error Settings)
  | none => pure (.ok {})
  | some name => do
      match ← files name with
      | none => pure (.error .file)
      | some text =>
          match Settings.ofText? text with
          | some s => pure (.ok s)
          | none => pure (.error .configuration)

/-- The text of the query, in place or in a file. -/
def loadQuery (files : Files m) (a : Arguments) : m (Option String) :=
  match a.expr, a.file with
  | some text, _ => pure (some text)
  | none, some name => files name
  | none, none => pure none

def versionText : String := "refarq 0.1.0\n"

/-- Runs a command line that asks for a query. Settings that cannot be read give the status 2,
all other errors the status 1, and a crash the status 101. -/
def runArguments (files : Files m) (a : Arguments) : m Outcome := do
  match ← loadSettings files a.config with
  | .error e => pure { status := 2, report := e.message }
  | .ok s =>
      let s := a.applyTo s
      match ← loadQuery files a with
      | none => pure { status := 1, report := "no algebra given; pass a file or -e <expr>" }
      | some query =>
          match ← run files s a.data query with
          | .error .crash => pure { status := 101, report := Error.crash.message }
          | .error e => pure { status := 1, report := e.message }
          | .ok answer => pure { status := 0, output := answer.table.render s.format ++ "\n" }

def main (files : Files m) (args : List String) (dataFile : Option String) : m Outcome :=
  match Arguments.parse args dataFile with
  | .version => pure { status := 0, output := versionText }
  | .usage => pure { status := 2, report := "wrong usage" }
  | .ok a => runArguments files a

end Program

end GraphAlgebra
