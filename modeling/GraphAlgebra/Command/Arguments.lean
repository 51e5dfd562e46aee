import GraphAlgebra.Command.Settings
/-!
# Arguments of the command line

An option has a long name after two hyphens and may have a letter after one. Its value stands
behind the name, after an equals sign or as the next argument; a next argument that begins with
a hyphen is no value. Each option may stand once. After two hyphens alone, and where there is no
hyphen in front, an argument names the file with the query.
-/

namespace GraphAlgebra

structure Arguments where
  data : Option String := none
  config : Option String := none
  format : Option OutputFormat := none
  logLevel : Option String := none
  maxDepth : Option Nat := none
  noServices : Bool := false
  expr : Option String := none
  file : Option String := none
deriving DecidableEq, Repr

namespace Arguments

/-- What comes of reading the arguments. -/
inductive Parse where
  | version
  | usage
  | ok (a : Arguments)
deriving DecidableEq, Repr

/-- The options that take a value. -/
inductive Valued where
  | data
  | config
  | format
  | logLevel
  | maxDepth
  | expr
deriving DecidableEq, Repr

def longNamed? (name : String) : Option Valued :=
  match name with
  | "data" => some .data
  | "config" => some .config
  | "format" => some .format
  | "log-level" => some .logLevel
  | "max-depth" => some .maxDepth
  | "expr" => some .expr
  | _ => none

def shortNamed? (letter : Char) : Option Valued :=
  match letter with
  | 'd' => some .data
  | 'c' => some .config
  | 'f' => some .format
  | 'e' => some .expr
  | _ => none

/-- A value that is not set yet. -/
def once {α : Type} (old : Option α) (new : α) : Option α :=
  match old with
  | none => some new
  | some _ => none

/-- The name of a file, which is not empty. -/
def path? (s : String) : Option String := if s.isEmpty then none else some s

/-- A number with an optional plus sign. -/
def number? (s : String) : Option Nat :=
  let digits := match s.toList with
    | '+' :: r => r
    | r => r
  (natural? digits).filter (· ≤ Settings.maxNumber)

def set? (a : Arguments) (o : Valued) (s : String) : Option Arguments :=
  match o with
  | .data => do
      let v ← once a.data (← path? s)
      some { a with data := some v }
  | .config => do
      let v ← once a.config (← path? s)
      some { a with config := some v }
  | .format => do
      let v ← once a.format (← Settings.formatNamed? s)
      some { a with format := some v }
  | .logLevel => do
      let v ← once a.logLevel s
      some { a with logLevel := some v }
  | .maxDepth => do
      let v ← once a.maxDepth (← number? s)
      some { a with maxDepth := some v }
  | .expr => do
      let v ← once a.expr s
      some { a with expr := some v }

def setFile? (a : Arguments) (s : String) : Option Arguments := do
  let v ← once a.file (← path? s)
  some { a with file := some v }

inductive Form where
  | separator
  | long (name : String) (value : Option String)
  | short (letter : Char) (rest : List Char)
  | plain (s : String)

/-- Cuts an argument at its hyphens and its equals sign. -/
def formOf (s : String) : Form :=
  match s.toList with
  | ['-', '-'] => .separator
  | '-' :: '-' :: r =>
      let name := String.ofList (r.takeWhile (· != '='))
      match r.dropWhile (· != '=') with
      | _ :: v => .long name (some (String.ofList v))
      | [] => .long name none
  | '-' :: c :: r => .short c r
  | _ => .plain s

/-- Whether an argument can be the value of the option before it. -/
def isValue (s : String) : Bool :=
  match formOf s with
  | .plain _ => true
  | _ => false

def attached : List Char → String
  | '=' :: r => String.ofList r
  | r => String.ofList r

def readFiles (a : Arguments) : List String → Parse
  | [] => .ok a
  | s :: ss =>
      match a.setFile? s with
      | some a => readFiles a ss
      | none => .usage

/-- Reads the arguments one by one. The first one that asks for the version or is wrong
decides. -/
def read (a : Arguments) : List String → Parse
  | [] => .ok a
  | s :: ss =>
      match formOf s with
      | .separator => readFiles a ss
      | .plain s =>
          match a.setFile? s with
          | some a => read a ss
          | none => .usage
      | .long name value =>
          match longNamed? name, value with
          | some o, some v =>
              match a.set? o v with
              | some a => read a ss
              | none => .usage
          | some o, none =>
              match ss with
              | v :: ss =>
                  if isValue v then
                    match a.set? o v with
                    | some a => read a ss
                    | none => .usage
                  else .usage
              | [] => .usage
          | none, some _ => .usage
          | none, none =>
              if name = "no-services" ∧ !a.noServices then read { a with noServices := true } ss
              else if name = "version" then .version
              else .usage
      | .short c r =>
          match shortNamed? c, r with
          | some o, [] =>
              match ss with
              | v :: ss =>
                  if isValue v then
                    match a.set? o v with
                    | some a => read a ss
                    | none => .usage
                  else .usage
              | [] => .usage
          | some o, r =>
              match a.set? o (attached r) with
              | some a => read a ss
              | none => .usage
          | none, _ => if c = 'V' then .version else .usage

/-- The arguments with the data file that the environment names, unless they name one. A query
must not be given both in place and in a file. -/
def complete (a : Arguments) (dataFile : Option String) : Parse :=
  match a.data, dataFile with
  | none, some "" => .usage
  | data, dataFile =>
      if a.expr.isSome ∧ a.file.isSome then .usage
      else .ok { a with data := data.or dataFile }

def parse (args : List String) (dataFile : Option String) : Parse :=
  match read {} args with
  | .ok a => a.complete dataFile
  | p => p

/-- The settings of a file, or the default ones, with what the arguments change. -/
def applyTo (a : Arguments) (s : Settings) : Settings :=
  let engine : Config :=
    { allowService := s.engine.allowService && !a.noServices
      maxDepth := a.maxDepth.getD s.engine.maxDepth }
  { s with
    format := a.format.getD s.format
    logLevel := a.logLevel.getD s.logLevel
    engine := engine }

end Arguments

end GraphAlgebra
