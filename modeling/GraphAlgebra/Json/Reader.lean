import GraphAlgebra.Json.Basic
import GraphAlgebra.Text.Hexadecimal
/-!
# Reading JSON

A document is one value with blanks around it. Strings have no control characters in them, and
a backslash begins one of the known escapes. An escape may name half of a pair of surrogates;
only a string in which both halves stand together has a text.
-/

namespace GraphAlgebra

namespace Json

def isSpace (c : Char) : Bool := c == ' ' || c == '\n' || c == '\t' || c == '\r'

def skip (cs : List Char) : List Char := cs.dropWhile isSpace

/-- The characters that stand for one after a backslash, and what they stand for. -/
def simpleEscape? (c : Char) : Option Char :=
  match c with
  | '"' => some '"'
  | '\\' => some '\\'
  | '/' => some '/'
  | 'b' => some '\x08'
  | 'f' => some '\x0c'
  | 'n' => some '\n'
  | 'r' => some '\r'
  | 't' => some '\t'
  | _ => none

/-- The number that the next four characters spell. -/
def unit? (cs : List Char) : Option Nat :=
  if cs.length < 4 then none else hexValue? 0 (cs.take 4)

/-- The number of characters of a string up to its closing quotation mark. -/
def stringLength? : List Char → Option Nat
  | [] => none
  | c :: cs =>
      if c = '"' then some 0
      else if c.toNat < 32 then none
      else if c = '\\' then
        match cs with
        | [] => none
        | e :: cs =>
            if (simpleEscape? e).isSome then (stringLength? cs).map (· + 2)
            else if e = 'u' ∧ (unit? cs).isSome then (stringLength? (cs.drop 4)).map (· + 6)
            else none
      else (stringLength? cs).map (· + 1)
termination_by cs => cs.length
decreasing_by all_goals grind

/-- The written form of a string after its opening quotation mark. -/
def string? (cs : List Char) : Option (String × List Char) :=
  (stringLength? cs).map fun n => (String.ofList (cs.take n), cs.drop (n + 1))

/-- The character of a pair of surrogates. -/
def pairedChar? (high low : Nat) : Option Char :=
  if 0xD800 ≤ high ∧ high < 0xDC00 ∧ 0xDC00 ≤ low ∧ low < 0xE000 then
    charOfNat? (0x10000 + (high - 0xD800) * 0x400 + (low - 0xDC00))
  else none

def decode? : List Char → Option (List Char)
  | [] => some []
  | c :: cs =>
      if c = '\\' then
        match cs with
        | [] => none
        | e :: cs =>
            match simpleEscape? e with
            | some x => (decode? cs).map (x :: ·)
            | none => do
                let n ← unit? cs
                match charOfNat? n with
                | some x => (decode? (cs.drop 4)).map (x :: ·)
                | none =>
                    if (cs.drop 4).take 2 = ['\\', 'u'] then do
                      let m ← unit? (cs.drop 6)
                      let x ← pairedChar? n m
                      (decode? (cs.drop 10)).map (x :: ·)
                    else none
      else (decode? cs).map (c :: ·)
termination_by cs => cs.length
decreasing_by all_goals grind

def text? : Json → Option String
  | .string written => (decode? written.toList).map String.ofList
  | _ => none

/-- The number of digits of an exponent with its letter and sign, or zero without an
exponent. -/
def exponentLength? : List Char → Option Nat
  | [] => some 0
  | c :: cs =>
      if c = 'e' ∨ c = 'E' then
        let sign := if cs.head? = some '+' ∨ cs.head? = some '-' then 1 else 0
        let n := ((cs.drop sign).takeWhile isDigit).length
        if n = 0 then none else some (1 + sign + n)
      else some 0

/-- The number of characters of a fraction with its point, or zero without one. -/
def fractionLength? : List Char → Option Nat
  | '.' :: cs =>
      let n := (cs.takeWhile isDigit).length
      if n = 0 then none else some (n + 1)
  | _ => some 0

/-- A number: a sign, digits without a needless zero, a fraction and an exponent. -/
def number? (cs : List Char) : Option (Json × List Char) := do
  let sign := if cs.head? = some '-' then 1 else 0
  let whole := (cs.drop sign).takeWhile isDigit
  if whole.isEmpty ∨ (whole.head? = some '0' ∧ 1 < whole.length) then none
  else do
    let n := sign + whole.length
    let f ← fractionLength? (cs.drop n)
    let e ← exponentLength? (cs.drop (n + f))
    let n := n + f + e
    some (.number (String.ofList (cs.take n)), cs.drop n)

def word? (word : String) (cs : List Char) : Option (List Char) :=
  if word.toList.isPrefixOf cs then some (cs.drop word.length) else none

mutual

/-- The value at the front of a text, whose brackets are at most `fuel` deep. -/
def value? : Nat → List Char → Option (Json × List Char)
  | 0, _ => none
  | fuel + 1, cs =>
      match skip cs with
      | [] => none
      | '"' :: r => (string? r).map fun (s, r) => (.string s, r)
      | '[' :: r =>
          match skip r with
          | ']' :: r => some (.array [], r)
          | r => (items? fuel r).map fun (vs, r) => (.array vs, r)
      | '\x7b' :: r =>
          match skip r with
          | '\x7d' :: r => some (.object [], r)
          | r => (members? fuel r).map fun (ms, r) => (.object ms, r)
      | 'n' :: r => (word? "ull" r).map fun r => (.null, r)
      | 't' :: r => (word? "rue" r).map fun r => (.bool true, r)
      | 'f' :: r => (word? "alse" r).map fun r => (.bool false, r)
      | cs => number? cs

def items? : Nat → List Char → Option (List Json × List Char)
  | 0, _ => none
  | fuel + 1, cs => do
      let (v, r) ← value? fuel cs
      match skip r with
      | ',' :: r => do
          let (vs, r) ← items? fuel r
          some (v :: vs, r)
      | ']' :: r => some ([v], r)
      | _ => none

def members? : Nat → List Char → Option (List (String × Json) × List Char)
  | 0, _ => none
  | fuel + 1, cs =>
      match skip cs with
      | '"' :: r => do
          let (name, r) ← string? r
          match skip r with
          | ':' :: r => do
              let (v, r) ← value? fuel r
              match skip r with
              | ',' :: r => do
                  let (ms, r) ← members? fuel r
                  some ((name, v) :: ms, r)
              | '\x7d' :: r => some ([(name, v)], r)
              | _ => none
          | _ => none
      | _ => none

end

def ofDocument? (text : String) : Option Json := do
  let cs := text.toList
  let (v, r) ← value? (cs.length + 1) cs
  if (skip r).isEmpty then some v else none

end Json

end GraphAlgebra
