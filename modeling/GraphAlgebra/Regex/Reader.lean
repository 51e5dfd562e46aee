import GraphAlgebra.Number.Digits
import GraphAlgebra.Regex.Property
import GraphAlgebra.Regex.Room
import GraphAlgebra.Text.Hexadecimal
import GraphAlgebra.Text.Word
/-!
# Reading patterns

This is the syntax that the library `regex` documents, read with its default flags and its default
limit on nesting, which is 250. Patterns have alternatives, groups, repetitions, bracketed sets with
set operations, escapes and flags that hold from where they stand to the end of the group. There are
no references back to groups and no conditions on the text around a match other than word boundaries
and the ends of lines and of the text. What is not a pattern has no reading, nor has what is nested
too deeply or takes too much room.
-/

namespace GraphAlgebra

namespace Regex

structure Flags where
  caseless : Bool := false
  multiLine : Bool := false
  dotAll : Bool := false
  carriage : Bool := false
  unicode : Bool := true
  verbose : Bool := false
deriving DecidableEq, Repr

/-- Sets the flag of a letter. The letter `U` only changes which match is preferred. -/
def Flags.set? (f : Flags) (letter : Char) (on : Bool) : Option Flags :=
  match letter with
  | 'i' => some { f with caseless := on }
  | 'm' => some { f with multiLine := on }
  | 's' => some { f with dotAll := on }
  | 'R' => some { f with carriage := on }
  | 'u' => some { f with unicode := on }
  | 'x' => some { f with verbose := on }
  | 'U' => some f
  | _ => none

/-- The rest of a verbose pattern after white space and comments. -/
def skipVerbose (inComment : Bool) : List Char → List Char
  | [] => []
  | c :: cs =>
      if inComment then skipVerbose (c != '\n') cs
      else if isBlank c then skipVerbose false cs
      else if c = '#' then skipVerbose true cs
      else c :: cs

def Flags.skip (f : Flags) (cs : List Char) : List Char :=
  if f.verbose then skipVerbose false cs else cs

def Flags.fold (f : Flags) (s : CharSet) : CharSet :=
  if f.caseless then
    if f.unicode then .folded s else .inter (.folded s) .ascii
  else s

/-- The set, if it can be matched in characters. Where characters are taken as bytes, its
members have to be ASCII. -/
def Flags.guard (f : Flags) (negated : Bool) (s : CharSet) : Option CharSet :=
  if f.unicode then some (.negateIf negated s) else if negated then none else some s

/-- What one place of a pattern is: a character, a set or a condition on a place. -/
inductive Atom where
  | literal (c : Char)
  | set (s : CharSet)
  | place (p : Place)

/-- Digits of a code point between braces, up to the closing one. -/
def bracedCode? (f : Flags) : Nat → List Char → List Char → Option (Char × List Char)
  | 0, _, _ => none
  | fuel + 1, ds, cs =>
      match f.skip cs with
      | [] => none
      | c :: cs =>
          if c = '\x7d' then
            ((hexNumber? ds.reverse).bind charOfNat?).map fun c => (c, cs)
          else if (hexDigitValue? c).isSome then bracedCode? f fuel (c :: ds) cs
          else none

def fixedCode? (f : Flags) : Nat → List Char → List Char → Option (Char × List Char)
  | 0, ds, cs => ((hexNumber? ds.reverse).bind charOfNat?).map fun c => (c, cs)
  | n + 1, ds, cs =>
      match f.skip cs with
      | [] => none
      | c :: cs => if (hexDigitValue? c).isSome then fixedCode? f n (c :: ds) cs else none

/-- The code point after one of the letters `x`, `u` and `U`. -/
def hexEscape? (f : Flags) (n : Nat) (cs : List Char) : Option (Char × List Char) :=
  match f.skip cs with
  | '\x7b' :: cs => bracedCode? f (cs.length + 1) [] cs
  | cs => fixedCode? f n [] cs

/-- The value that stands behind the mark between the name and the value of a property. -/
def splitProperty (cs : List Char) : Bool × List Char × Option (List Char) :=
  let cut (c : Char) : List Char × List Char := (cs.takeWhile (· != c), cs.dropWhile (· != c))
  let (a, b) := cut '!'
  match b with
  | '!' :: '=' :: v => (true, a, some v)
  | _ =>
      match cut ':' with
      | (a, ':' :: v) => (false, a, some v)
      | _ =>
          match cut '=' with
          | (a, '=' :: v) => (false, a, some v)
          | _ => (false, cs, none)

/-- The set that the text between the braces of an escape names, and whether it is negated
there. -/
def propertyOfText? (cs : List Char) : Option (Bool × CharSet) :=
  match splitProperty cs with
  | (_, _, none) => (propertyNamed? (normalName cs)).map (false, ·)
  | (negated, key, some value) =>
      (propertyValued? (normalName key) (normalName value)).map (negated, ·)

def upToBrace? (f : Flags) : Nat → List Char → List Char → Option (List Char × List Char)
  | 0, _, _ => none
  | fuel + 1, seen, cs =>
      match f.skip cs with
      | [] => none
      | c :: cs => if c = '\x7d' then some (seen.reverse, cs) else upToBrace? f fuel (c :: seen) cs

def propertyEscape? (f : Flags) (negated : Bool) (cs : List Char) :
    Option (CharSet × List Char) :=
  if !f.unicode then none
  else do
    let (name, cs) ← match f.skip cs with
      | '\x7b' :: cs => upToBrace? f (cs.length + 1) [] cs
      | c :: cs => if c = '\\' then none else some ([c], cs)
      | [] => none
    let (inner, s) ← propertyOfText? name
    some (.negateIf (negated != inner) (f.fold s), cs)

/-- The sets of digits, blanks and word characters. -/
def classEscape? (f : Flags) (c : Char) : Option CharSet :=
  let make (negated : Bool) (s : CharSet) (ascii : String) : Option CharSet :=
    if f.unicode then some (.negateIf negated s)
    else if negated then none
    else namedSet? ascii
  match c with
  | 'd' => make false .decimalDigits "digit"
  | 'D' => make true .decimalDigits "digit"
  | 's' => make false (.listed whiteSpace) "space"
  | 'S' => make true (.listed whiteSpace) "space"
  | 'w' => make false .wordChars "word"
  | 'W' => make true .wordChars "word"
  | _ => none

/-- The boundary after the escape of a word boundary: plain, or one of the kinds in braces.
Braces that do not start with a letter or hyphen belong to a repetition. -/
def boundary? (f : Flags) (cs : List Char) : Option (Place × List Char) :=
  let ascii := !f.unicode
  let nameChar (c : Char) : Bool := c.isAlpha || c == '-'
  match cs with
  | '\x7b' :: r =>
      match f.skip r with
      | [] => none
      | c :: _ =>
          if !nameChar c then some (.boundary ascii, cs)
          else do
            let (name, rest) ← upToBrace? f (r.length + 1) [] r
            match String.ofList name with
            | "start" => some (.wordStart ascii, rest)
            | "end" => some (.wordEnd ascii, rest)
            | "start-half" => some (.wordStartHalf ascii, rest)
            | "end-half" => some (.wordEndHalf ascii, rest)
            | _ => none
  | _ => some (.boundary ascii, cs)

/-- Whether a character that is no letter or digit stands for itself after a backslash. -/
def escapesItself (c : Char) : Bool :=
  c.toNat < 128 && !c.isAlphanum && c != '<' && c != '>'

/-- What an escape stands for, given the characters after its backslash. Where characters are
taken as bytes, two digits that name no ASCII character stand for a byte that no text has. -/
def escape? (f : Flags) : List Char → Option (Atom × List Char)
  | [] => none
  | c :: cs =>
      if escapesItself c then some (.literal c, cs)
      else
        let ascii := !f.unicode
        match c with
        | 'x' => do
            let (c, r) ← hexEscape? f 2 cs
            if f.unicode || c.toNat < 128 || (f.skip cs).head? == some '\x7b' then
              some (.literal c, r)
            else none
        | 'u' => (hexEscape? f 4 cs).map fun (c, r) => (.literal c, r)
        | 'U' => (hexEscape? f 8 cs).map fun (c, r) => (.literal c, r)
        | 'p' => (propertyEscape? f false cs).map fun (s, r) => (.set s, r)
        | 'P' => (propertyEscape? f true cs).map fun (s, r) => (.set s, r)
        | 'a' => some (.literal '\x07', cs)
        | 'f' => some (.literal '\x0c', cs)
        | 't' => some (.literal '\t', cs)
        | 'n' => some (.literal '\n', cs)
        | 'r' => some (.literal '\r', cs)
        | 'v' => some (.literal '\x0b', cs)
        | 'A' => some (.place .textStart, cs)
        | 'z' => some (.place .textEnd, cs)
        | 'b' => (boundary? f cs).map fun (p, r) => (.place p, r)
        | 'B' => some (.place (.noBoundary ascii), cs)
        | '<' => some (.place (.wordStart ascii), cs)
        | '>' => some (.place (.wordEnd ascii), cs)
        | c => (classEscape? f c).map fun s => (.set s, cs)

/-! ### Bracketed sets -/

inductive SetOp where
  | inter
  | diff
  | symmDiff

/-- The depth of some parts that stand side by side: a part that stands alone adds none. -/
def depthOf : List Nat → Nat
  | [] => 0
  | [n] => n
  | ns => ns.foldl max 0 + 1

/-- A set with its depth: how deeply brackets, operations and members side by side are nested. -/
structure Nested where
  set : CharSet
  depth : Nat

/-- A bracketed set that is not closed yet: its members so far, the last one first, and the
operation that waits for them as its right side. -/
structure OpenSet where
  negated : Bool
  members : List Nested
  pending : Option (SetOp × Nested)

/-- The set up to here: the waiting operation applied to the members. -/
def OpenSet.value (f : Flags) (s : OpenSet) : Nested :=
  let members := CharSet.unionAll (s.members.reverse.map (·.set))
  let depth := depthOf (s.members.map (·.depth))
  match s.pending with
  | none => ⟨members, depth⟩
  | some (o, a) =>
      let op : CharSet → CharSet → CharSet :=
        match o with
        | .inter => .inter
        | .diff => .diff
        | .symmDiff => .symmDiff
      ⟨op (f.fold a.set) (f.fold members), max a.depth depth + 1⟩

def OpenSet.close? (f : Flags) (s : OpenSet) : Option Nested :=
  let a := s.value f
  (f.guard s.negated (f.fold a.set)).map fun set => ⟨set, a.depth + 1⟩

/-- Makes what stands before an operator its left side. -/
def OpenSet.operate (f : Flags) (o : SetOp) (s : OpenSet) : OpenSet :=
  { s with members := [], pending := some (o, s.value f) }

def OpenSet.add (s : OpenSet) (a : Nested) : OpenSet := { s with members := a :: s.members }

def OpenSet.addFlat (s : OpenSet) (a : CharSet) : OpenSet := s.add ⟨a, 0⟩

def leadingHyphens (f : Flags) (s : OpenSet) : Nat → List Char → OpenSet × List Char
  | 0, cs => (s, cs)
  | fuel + 1, cs =>
      match cs with
      | '-' :: r => leadingHyphens f (s.addFlat (.single '-')) fuel (f.skip r)
      | _ => (s, cs)

/-- Opens a set after its bracket: a caret negates it, hyphens and then, without hyphens, a
closing bracket at its beginning are members. -/
def openSet? (f : Flags) (cs : List Char) : Option (OpenSet × List Char) :=
  let cs := f.skip cs
  let (negated, cs) : Bool × List Char :=
    match cs with
    | '^' :: r => (true, f.skip r)
    | _ => (false, cs)
  let (s, cs) := leadingHyphens f ⟨negated, [], none⟩ cs.length cs
  match s.members, cs with
  | _, [] => none
  | [], ']' :: r => if (f.skip r).isEmpty then none else some (s.addFlat (.single ']'), f.skip r)
  | _, _ => some (s, cs)

def bracketName? : List Char → Option (Bool × CharSet × List Char)
  | ':' :: cs =>
      let (negated, cs) : Bool × List Char :=
        match cs with
        | '^' :: r => (true, r)
        | _ => (false, cs)
      match cs.dropWhile (· != ':') with
      | ':' :: ']' :: r =>
          (namedSet? (String.ofList (cs.takeWhile (· != ':')))).map fun s => (negated, s, r)
      | _ => none
  | _ => none

def setAtom? (f : Flags) : List Char → Option (Atom × List Char)
  | [] => none
  | '\\' :: cs => escape? f cs
  | c :: cs => some (.literal c, cs)

def setLiteral? (f : Flags) (c : Char) : Option CharSet :=
  if f.unicode || c.toNat < 128 then some (.single c) else none

def setRange? (f : Flags) (cs : List Char) : Option (CharSet × List Char) := do
  let (a, cs) ← setAtom? f cs
  let single : Option CharSet := match a with
    | .literal c => setLiteral? f c
    | .set s => some s
    | .place _ => none
  match f.skip cs with
  | [] => none
  | '-' :: r =>
      let r' := f.skip r
      if r'.head? = some ']' ∨ r'.head? = some '-' then single.map fun s => (s, '-' :: r)
      else do
        let (b, rest) ← setAtom? f r'
        match a, b with
        | .literal lo, .literal hi =>
            if lo ≤ hi ∧ (f.unicode ∨ hi.toNat < 128) then some (.range lo hi, rest) else none
        | _, _ => none
  | r => single.map fun s => (s, r)

/-- Reads on to the end of the outermost of the open sets. -/
def readSets? (f : Flags) : Nat → OpenSet → List OpenSet → List Char →
    Option (Nested × List Char)
  | 0, _, _, _ => none
  | fuel + 1, s, outer, cs =>
      match f.skip cs with
      | [] => none
      | '[' :: r =>
          match bracketName? r with
          | some (negated, a, r) => do
              let a ← f.guard negated (f.fold a)
              readSets? f fuel (s.addFlat a) outer r
          | none => do
              let (inner, r) ← openSet? f r
              readSets? f fuel inner (s :: outer) r
      | ']' :: r => do
          let a ← s.close? f
          match outer with
          | [] => some (a, r)
          | o :: outer => readSets? f fuel (o.add a) outer r
      | '&' :: '&' :: r => readSets? f fuel (s.operate f .inter) outer r
      | '-' :: '-' :: r => readSets? f fuel (s.operate f .diff) outer r
      | '~' :: '~' :: r => readSets? f fuel (s.operate f .symmDiff) outer r
      | cs => do
          let (a, r) ← setRange? f cs
          readSets? f fuel (s.addFlat a) outer r

def bracketed? (f : Flags) (cs : List Char) : Option (Nested × List Char) := do
  let (s, r) ← openSet? f cs
  readSets? f (r.length + 1) s [] r

/-! ### Repetitions -/

/-- A decimal number of a repetition, with blanks around it. -/
def count? (f : Flags) (cs : List Char) : Option (Nat × List Char) :=
  let rec digits : Nat → List Char → List Char → List Char × List Char
    | 0, ds, cs => (ds.reverse, cs)
    | fuel + 1, ds, cs =>
        match cs with
        | c :: r => if isDigit c then digits fuel (c :: ds) (f.skip r) else (ds.reverse, cs)
        | [] => (ds.reverse, cs)
  let (ds, r) := digits cs.length [] (cs.dropWhile isBlank)
  match natural? ds with
  | some n => if n < UInt32.size then some (n, r.dropWhile isBlank) else none
  | none => none

def bounds? (f : Flags) (cs : List Char) : Option ((Nat × Option Nat) × List Char) := do
  let (lo, cs) ← count? f (f.skip cs)
  match cs with
  | '\x7d' :: r => some ((lo, some lo), r)
  | ',' :: r =>
      match f.skip r with
      | '\x7d' :: r => some ((lo, none), r)
      | r => do
          let (hi, r) ← count? f r
          match r with
          | '\x7d' :: r => if lo ≤ hi then some ((lo, some hi), r) else none
          | _ => none
  | _ => none

/-- The rest after a question mark that makes a repetition reluctant. -/
def dropReluctant : List Char → List Char
  | '?' :: cs => cs
  | cs => cs

/-! ### Groups -/

/-- A part of an alternative with its depth: how deeply groups, repetitions, alternatives, parts
side by side and sets are nested. A change of flags is a part without a pattern. -/
structure Part where
  pattern : Option Pattern
  depth : Nat

/-- A group that is not closed yet: the flags outside, whether it captures, the finished
alternatives and the parts of the last one, both in reverse. -/
structure OpenGroup where
  flags : Flags
  captures : Bool
  branches : List (Pattern × Nat)
  parts : List Part

/-- The pattern of the parts of an alternative, and its depth. -/
def OpenGroup.branch (g : OpenGroup) : Pattern × Nat :=
  (.seq (g.parts.reverse.filterMap (·.pattern)), depthOf (g.parts.map (·.depth)))

def OpenGroup.pattern (g : OpenGroup) : Pattern × Nat :=
  match g.branches with
  | [] => g.branch
  | bs =>
      let bs := g.branch :: bs
      (.alt (bs.reverse.map (·.1)), depthOf (bs.map (·.2)))

/-- The state of reading: the current flags, the current group and those around it, and the
names of groups. -/
structure State where
  flags : Flags
  group : OpenGroup
  outer : List OpenGroup
  names : List (List Char)

def State.add (s : State) (p : Option Pattern) (depth : Nat) : State :=
  { s with group := { s.group with parts := ⟨p, depth⟩ :: s.group.parts } }

def State.addFlat (s : State) (p : Pattern) : State := s.add (some p) 0

def State.repeatLast? (s : State) (lo : Nat) (hi : Option Nat) : Option State :=
  match s.group.parts with
  | ⟨some p, depth⟩ :: ps =>
      let part : Part := ⟨some (.repeated p lo hi), depth + 1⟩
      some { s with group := { s.group with parts := part :: ps } }
  | _ => none

def State.push (s : State) (captures : Bool) (f : Flags) : State :=
  { s with flags := f, group := ⟨s.flags, captures, [], []⟩, outer := s.group :: s.outer }

def State.pop? (s : State) : Option State :=
  match s.outer with
  | [] => none
  | o :: outer =>
      let s' : State := { s with flags := s.group.flags, group := o, outer := outer }
      let (p, depth) := s.group.pattern
      some (s'.add (some (.group s.group.captures p)) (depth + 1))

/-- The flags up to a colon or a closing parenthesis: letters, at most once each, and at most
one hyphen before those to be taken back. -/
def readFlags? (f : Flags) (seen : List Char) (negated dangling : Bool) :
    List Char → Option (Flags × List Char × List Char)
  | [] => none
  | c :: cs =>
      if c = ':' ∨ c = ')' then if dangling then none else some (f, seen, c :: cs)
      else if c = '-' then
        if negated then none else readFlags? f seen true true cs
      else if seen.contains c then none
      else
        match f.set? c (!negated) with
        | some f => readFlags? f (c :: seen) negated false cs
        | none => none

def groupNameChar (first : Bool) (c : Char) : Bool :=
  if first then c == '_' || isAlphabetic c
  else c == '_' || c == '.' || c == '[' || c == ']' || isAlphanumeric c

def groupName? (cs : List Char) : Option (List Char × List Char) :=
  let name := cs.takeWhile (· != '>')
  match cs.dropWhile (· != '>'), name with
  | '>' :: r, c :: cs =>
      if groupNameChar true c && cs.all (groupNameChar false) then some (c :: cs, r) else none
  | _, _ => none

def State.pushNamed? (s : State) (cs : List Char) : Option (State × List Char) := do
  let (name, r) ← groupName? cs
  if s.names.contains name then none
  else some ({ s.push true s.flags with names := name :: s.names }, r)

/-- What an opening parenthesis begins: a group, or a change of flags. -/
def State.openParen? (s : State) (cs : List Char) : Option (State × List Char) :=
  match s.flags.skip cs with
  | '?' :: '=' :: _ | '?' :: '!' :: _ => none
  | '?' :: '<' :: '=' :: _ | '?' :: '<' :: '!' :: _ => none
  | '?' :: 'P' :: '<' :: r => s.pushNamed? r
  | '?' :: '<' :: r => s.pushNamed? r
  | '?' :: r => do
      let (f, seen, r) ← readFlags? s.flags [] false false r
      match r with
      | ':' :: r => some (s.push false f, r)
      | _ :: r => if seen.isEmpty then none else some ({ s with flags := f }.add none 0, r)
      | [] => none
  | r => some (s.push true s.flags, r)

def Flags.literal (f : Flags) (c : Char) : Pattern :=
  .char (if f.unicode || c.toNat < 128 then f.fold (.single c) else .single c)

def Flags.atom (f : Flags) : Atom → Pattern
  | .literal c => f.literal c
  | .set s => .char s
  | .place p => .place p

def Flags.dot? (f : Flags) : Option CharSet :=
  if !f.unicode then none
  else if f.dotAll then some .any
  else if f.carriage then some (.compl (.ranges [('\n', '\n'), ('\r', '\r')]))
  else some (.compl (.single '\n'))

def State.step? (s : State) : List Char → Option (State × List Char)
  | [] => none
  | c :: r =>
      let f := s.flags
      match c with
      | '(' => s.openParen? r
      | ')' => s.pop?.map fun s => (s, r)
      | '|' =>
          let g := s.group
          some ({ s with group := { g with branches := g.branch :: g.branches, parts := [] } }, r)
      | '[' => (bracketed? f r).map fun (a, r) => (s.add (some (.char a.set)) a.depth, r)
      | '?' => (s.repeatLast? 0 (some 1)).map fun s => (s, dropReluctant r)
      | '*' => (s.repeatLast? 0 none).map fun s => (s, dropReluctant r)
      | '+' => (s.repeatLast? 1 none).map fun s => (s, dropReluctant r)
      | '\x7b' => do
          let ((lo, hi), r) ← bounds? f r
          let s ← s.repeatLast? lo hi
          some (s, dropReluctant (f.skip r))
      | '.' => f.dot?.map fun a => (s.addFlat (.char a), r)
      | '^' =>
          let p := if f.multiLine then Place.lineStart f.carriage else .textStart
          some (s.addFlat (.place p), r)
      | '$' =>
          let p := if f.multiLine then Place.lineEnd f.carriage else .textEnd
          some (s.addFlat (.place p), r)
      | '\\' => (escape? f r).map fun (a, r) => (s.addFlat (f.atom a), r)
      | c => some (s.addFlat (f.literal c), r)

def State.run? : Nat → State → List Char → Option State
  | 0, _, _ => none
  | fuel + 1, s, cs =>
      match s.flags.skip cs with
      | [] => some s
      | cs => do
          let (s, r) ← s.step? cs
          s.run? fuel r

def maxDepth : Nat := 250

def Pattern.ofText? (f : Flags) (cs : List Char) : Option Pattern := do
  let s ← State.run? (cs.length + 1) ⟨f, ⟨f, true, [], []⟩, [], []⟩ cs
  let (p, depth) := s.group.pattern
  if s.outer.isEmpty ∧ depth ≤ maxDepth ∧ p.plan.fits then some p else none

end Regex

end GraphAlgebra
