import GraphAlgebra.Sexp.Token
import GraphAlgebra.Text.Hexadecimal
/-!
# From characters to tokens

A text is cut into tokens from the left, each as long as possible. Blanks and comments, which
run from a semicolon to the end of the line, stand between tokens. Every scanner gets the first
character of a token and the characters after it, and says how many of those belong to it.
-/

namespace GraphAlgebra

namespace Token

def isSpace (c : Char) : Bool :=
  c == ' ' || c == '\t' || c == '\r' || c == '\n' || c == '\x0c'

def isNameChar (c : Char) : Bool := c.isAlphanum || c == '_'

/-- The characters of labels, and of words after the first one. -/
def isWordChar (c : Char) : Bool := c.isAlphanum || c == '_' || c == '-'

def isIriChar (c : Char) : Bool :=
  0x20 < c.toNat && !(['<', '>', '"', '\x7b', '\x7d', '|', '^', '\x60', '\\'].contains c)

/-- The number of characters that hold `p` at the front of a text. -/
def spanLength (p : Char → Bool) (cs : List Char) : Nat := (cs.takeWhile p).length

/-- A token of the characters that hold `p` at the front, at least one of them. -/
def span? (make : String → Token) (p : Char → Bool) (cs : List Char) : Option (Token × Nat) :=
  let n := spanLength p cs
  if n = 0 then none else some (make (String.ofList (cs.take n)), n)

/-- An identifier up to its closing bracket, or one of the symbols that begin like it. -/
def angle? (cs : List Char) : Option (Token × Nat) :=
  let n := spanLength isIriChar cs
  if cs[n]? = some '>' then some (.iri (String.ofList (cs.take n)), n + 1)
  else if n = 0 then some (.symbol .less, 0)
  else if cs.take n = ['='] then some (.symbol .lessEquals, 1)
  else none

/-- The number of characters of a string body up to the closing quotation mark. A backslash
goes with the character after it, which is not a line feed. -/
def bodyLength? : List Char → Option Nat
  | [] => none
  | c :: cs =>
      if c = '"' then some 0
      else if c = '\\' then
        match cs with
        | [] => none
        | e :: cs => if e = '\n' then none else (bodyLength? cs).map (· + 2)
      else (bodyLength? cs).map (· + 1)

/-- What the character `e` after a backslash stands for, and how many of the characters after
it belong to the escape. -/
def escape? (e : Char) (cs : List Char) : Option (Char × Nat) :=
  match e with
  | 't' => some ('\t', 0)
  | 'n' => some ('\n', 0)
  | 'r' => some ('\r', 0)
  | '"' => some ('"', 0)
  | '\'' => some ('\'', 0)
  | '\\' => some ('\\', 0)
  | 'u' => (codePoint? (cs.take 4)).map fun c => (c, 4)
  | _ => none

def resolve? : List Char → Option (List Char)
  | [] => some []
  | c :: cs =>
      if c = '\\' then
        match cs with
        | [] => none
        | e :: cs => do
            let (x, n) ← escape? e cs
            (resolve? (cs.drop n)).map (x :: ·)
      else (resolve? cs).map (c :: ·)
termination_by cs => cs.length
decreasing_by all_goals grind

def string? (cs : List Char) : Option (Token × Nat) := do
  let n ← bodyLength? cs
  let text ← resolve? (cs.take n)
  some (.string (String.ofList text), n + 1)

/-- The number of characters of the further parts of a language tag. -/
def subtagsLength : Nat → List Char → Nat
  | 0, _ => 0
  | fuel + 1, cs =>
      match cs with
      | '-' :: r =>
          let n := spanLength Char.isAlphanum r
          if n = 0 then 0 else n + 1 + subtagsLength fuel (r.drop n)
      | _ => 0

/-- A language tag: letters, then parts of letters and digits after hyphens. -/
def language? (cs : List Char) : Option (Token × Nat) :=
  let n := spanLength Char.isAlpha cs
  if n = 0 then none
  else
    let m := n + subtagsLength cs.length (cs.drop n)
    some (.language (String.ofList (cs.take m)), m)

/-- The number of characters of an exponent, or zero where none is complete. -/
def exponentLength : List Char → Nat
  | [] => 0
  | c :: cs =>
      if c = 'e' ∨ c = 'E' then
        let sign := if cs.head? = some '+' ∨ cs.head? = some '-' then 1 else 0
        let n := spanLength isDigit (cs.drop sign)
        if n = 0 then 0 else 1 + sign + n
      else 0

/-- What there is at the front of a text: no number, one that breaks off after its point or is
out of range, or a token and the number of its characters. -/
inductive Scan where
  | none
  | broken
  | number (t : Token) (length : Nat)

/-- The number at the front of a text: an optional sign, digits, then possibly a point with
digits and an exponent. An exponent makes it a double, else a point makes it a decimal. A
point has to be followed by a digit or an exponent. -/
def scanNumber (cs : List Char) : Scan :=
  let sign := if cs.head? = some '+' ∨ cs.head? = some '-' then 1 else 0
  let whole := spanLength isDigit (cs.drop sign)
  let rest := cs.drop (sign + whole)
  match rest with
  | '.' :: r =>
      let fraction := spanLength isDigit r
      let n := sign + whole + 1 + fraction
      let e := exponentLength (r.drop fraction)
      if whole + fraction = 0 then .none
      else if e ≠ 0 then .number (.double (String.ofList (cs.take (n + e)))) (n + e)
      else if fraction ≠ 0 then .number (.decimal (String.ofList (cs.take n))) n
      else .broken
  | _ =>
      let n := sign + whole
      let e := exponentLength rest
      if whole = 0 then .none
      else if e ≠ 0 then .number (.double (String.ofList (cs.take (n + e)))) (n + e)
      else
        match BoundedInt.ofText? (cs.take n) with
        | some i => .number (.integer i) n
        | none => .broken

/-- A number that begins with the character `c`, or the symbol that `c` is on its own. -/
def number? (c : Char) (alone : Option Symbol) (cs : List Char) : Option (Token × Nat) :=
  match scanNumber (c :: cs) with
  | .number t n => some (t, n - 1)
  | .broken => none
  | .none => alone.map fun s => (.symbol s, 0)

/-- A symbol of two characters if the second one follows, else the one of the first alone. -/
def pair? (second : Char) (both : Token) (alone : Option Token) (cs : List Char) :
    Option (Token × Nat) :=
  if cs.head? = some second then some (both, 1) else alone.map fun t => (t, 0)

/-- The token that begins with `c`, and how many of the characters after `c` belong to it. -/
def scan? (c : Char) (cs : List Char) : Option (Token × Nat) :=
  match c with
  | '(' => some (.leftParen, 0)
  | ')' => some (.rightParen, 0)
  | '[' => some (.leftBracket, 0)
  | ']' => some (.rightBracket, 0)
  | '=' => some (.symbol .equals, 0)
  | '*' => some (.symbol .star, 0)
  | '/' => some (.symbol .slash, 0)
  | '^' => pair? '^' .doubleCaret none cs
  | '&' => pair? '&' (.symbol .and) none cs
  | '|' => pair? '|' (.symbol .or) none cs
  | '!' => pair? '=' (.symbol .notEquals) (some (.symbol .bang)) cs
  | '>' => pair? '=' (.symbol .greaterEquals) (some (.symbol .greater)) cs
  | '<' => angle? cs
  | '?' => span? .variable isNameChar cs
  | '"' => string? cs
  | '@' => language? cs
  | '_' =>
      match cs with
      | ':' :: r =>
          match span? .blank isWordChar r with
          | some (t, n) => some (t, n + 1)
          | none => some (.symbol .underscore, 0)
      | _ => some (.symbol .underscore, 0)
  | '+' => number? c (some .plus) cs
  | '-' => number? c (some .minus) cs
  | '.' => number? c none cs
  | c =>
      if isDigit c then number? c none cs
      else if c.isAlpha then
        let n := spanLength isWordChar cs
        some (.word (String.ofList (c :: cs.take n)), n)
      else none

def byteLength (cs : List Char) : Nat := cs.foldl (fun n c => n + c.utf8Size) 0

/-- The tokens of a text with `offset` bytes before it, or the place of the first character
that begins no token. -/
def tokensFrom (offset : Nat) : List Char → Except Nat (List Placed)
  | [] => .ok []
  | c :: cs =>
      if isSpace c then tokensFrom (offset + c.utf8Size) cs
      else if c = ';' then
        let n := spanLength (· != '\n') cs
        tokensFrom (offset + byteLength (c :: cs.take n)) (cs.drop n)
      else
        match scan? c cs with
        | none => .error offset
        | some (t, n) => do
            let ts ← tokensFrom (offset + byteLength (c :: cs.take n)) (cs.drop n)
            .ok (⟨t, offset⟩ :: ts)
termination_by cs => cs.length
decreasing_by all_goals grind

def tokens (text : String) : Except Nat (List Placed) := tokensFrom 0 text.toList

end Token

end GraphAlgebra
