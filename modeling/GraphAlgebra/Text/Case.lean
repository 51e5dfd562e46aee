import GraphAlgebra.Text.CaseTable
import GraphAlgebra.Text.Word
/-!
# Upper and lower case of a text

Both maps go character by character and may lengthen the text. Only the capital sigma looks
around: at the end of a word it becomes the final form.
-/

namespace GraphAlgebra

/-- The other case of a character: an expansion, the end of a run, or the character itself. -/
def mapCase (expansions : List (Nat × List Nat)) (runs : List CaseRun) (c : Char) :
    List Char :=
  match expansions.find? (·.1 == c.toNat) with
  | some (_, ns) => ns.map Char.ofNat
  | none =>
      match runs.find? (·.covers c.toNat) with
      | some r => [Char.ofNat (r.image c.toNat)]
      | none => [c]

/-- Whether the first character that case does not ignore has a case. -/
def casedAhead (cs : List Char) : Bool :=
  match cs.dropWhile isCaseIgnorable with
  | c :: _ => isCased c
  | [] => false

def capitalSigma : Char := 'Σ'

/-- The lower case of a capital sigma, given the text before it in reverse and after it. -/
def lowerSigma (before after : List Char) : Char :=
  if casedAhead before && !casedAhead after then 'ς' else 'σ'

def lowerFrom (before : List Char) : List Char → List Char
  | [] => []
  | c :: cs =>
      (if c = capitalSigma then [lowerSigma before cs]
        else mapCase lowerExpansions lowerRuns c) ++ lowerFrom (c :: before) cs

def lowerText (cs : List Char) : List Char := lowerFrom [] cs

def upperText (cs : List Char) : List Char :=
  cs.flatMap (mapCase upperExpansions upperRuns)

def lowerAscii (s : String) : String := String.ofList (s.toList.map Char.toLower)

end GraphAlgebra
