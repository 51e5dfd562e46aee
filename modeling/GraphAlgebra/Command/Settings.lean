import GraphAlgebra.Command.Results
import GraphAlgebra.Eval.Dispatch
import GraphAlgebra.Json.Reader
/-!
# Settings

Settings come from a JSON document. Every setting has a default, unknown members are ignored, and
a known one must not stand twice. In place of an object with names the settings may stand in an
array in their order.
-/

namespace GraphAlgebra

structure Settings where
  logLevel : String := "info"
  format : OutputFormat := .text
  engine : Config := {}
  services : SortedMap String String := Sorted.empty
deriving DecidableEq

namespace Settings

/-- Changes a setting to what a value says. -/
abbrev Setter (α : Type) : Type := α → Json → Option α

/-- Takes the settings of some names from the members of an object, each at most once. -/
def ofMembers? {α : Type} (setters : List (String × Setter α)) (seen : List String) (a : α) :
    List (String × Json) → Option α
  | [] => some a
  | (written, v) :: ms => do
      let name ← (Json.string written).text?
      match setters.find? (·.1 == name) with
      | none => ofMembers? setters seen a ms
      | some (_, set) =>
          if seen.contains name then none
          else do
            let a ← set a v
            ofMembers? setters (name :: seen) a ms

/-- Takes the settings in their order from the elements of an array. -/
def ofItems? {α : Type} : List (String × Setter α) → α → List Json → Option α
  | _, a, [] => some a
  | [], _, _ :: _ => none
  | (_, set) :: setters, a, v :: vs => do
      let a ← set a v
      ofItems? setters a vs

def ofFields? {α : Type} (setters : List (String × Setter α)) (a : α) : Json → Option α
  | .object ms => ofMembers? setters [] a ms
  | .array vs => ofItems? setters a vs
  | _ => none

def maxNumber : Nat := UInt64.size - 1

/-- A number without a sign, a fraction and an exponent. -/
def number? : Json → Option Nat
  | .number written => (natural? written.toList).filter (· ≤ maxNumber)
  | _ => none

def bool? : Json → Option Bool
  | .bool b => some b
  | _ => none

def formatNamed? (name : String) : Option OutputFormat :=
  match name with
  | "text" => some .text
  | "json" => some .json
  | _ => none

/-- A format: its name, or an object with the name and nothing behind it. -/
def format? : Json → Option OutputFormat
  | .object [(written, .null)] => (Json.string written).text?.bind formatNamed?
  | v => v.text?.bind formatNamed?

def services? : Json → Option (SortedMap String String)
  | .object ms =>
      ms.foldlM (fun m (written, v) => do
        let endpoint ← (Json.string written).text?
        let file ← v.text?
        some (m.set endpoint file)) Sorted.empty
  | _ => none

def configSetters : List (String × Setter Config) :=
  [("allow_service", fun c v => (bool? v).map fun b => { c with allowService := b }),
    ("max_depth", fun c v => (number? v).map fun n => { c with maxDepth := n })]

def setters : List (String × Setter Settings) :=
  [("log_level", fun s v => v.text?.map fun t => { s with logLevel := t }),
    ("format", fun s v => (format? v).map fun f => { s with format := f }),
    ("engine", fun s v => (ofFields? configSetters {} v).map fun c => { s with engine := c }),
    ("services", fun s v => (services? v).map fun m => { s with services := m })]

def ofText? (text : String) : Option Settings := do
  ofFields? setters {} (← Json.ofDocument? text)

end Settings

end GraphAlgebra
