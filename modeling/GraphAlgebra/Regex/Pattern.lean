import GraphAlgebra.Text.DerivedProperty
/-!
# Patterns and their matches

The modules of patterns stand for the library `regex` 1.10 with its default settings: the syntax
that it documents (`Regex.Reader`, `Regex.Property`), which texts match (this module), and its
limits on the nesting and the size of patterns (`Regex.Reader`, `Regex.Plan`, `Regex.Room`). All
that is used of the library is whether it accepts a pattern and whether the pattern matches a text.

A pattern is matched by finding, from a set of positions in a text, all positions at which a
match that starts at one of them can end. Sets of positions are increasing lists, so neither
the order of alternatives nor the greed of a repetition matters, and every repetition comes to
an end as soon as a round adds nothing new.
-/

namespace GraphAlgebra

namespace Regex

/-- A condition on the place between two characters. -/
inductive Place where
  | textStart
  | textEnd
  | lineStart (carriage : Bool)
  | lineEnd (carriage : Bool)
  | boundary (ascii : Bool)
  | noBoundary (ascii : Bool)
  | wordStart (ascii : Bool)
  | wordEnd (ascii : Bool)
  | wordStartHalf (ascii : Bool)
  | wordEndHalf (ascii : Bool)
deriving DecidableEq, Repr

/-- A pattern. Whether a group captures makes no difference to what matches. -/
inductive Pattern where
  | char (s : CharSet)
  | place (p : Place)
  | group (captures : Bool) (p : Pattern)
  | seq (ps : List Pattern)
  | alt (ps : List Pattern)
  | repeated (p : Pattern) (min : Nat) (max : Option Nat)
deriving Repr, Inhabited

def isWord (ascii : Bool) (c : Char) : Bool :=
  if ascii then c.isAlphanum || c == '_' else CharSet.wordChars.holds c

def Place.holds (text : Array Char) (i : Nat) (p : Place) : Bool :=
  let before : Option Char := if i = 0 then none else text[i - 1]?
  let after := text[i]?
  let word (ascii : Bool) (c : Option Char) : Bool := c.any (isWord ascii)
  match p with
  | .textStart => before.isNone
  | .textEnd => after.isNone
  | .lineStart carriage =>
      before.isNone || before == some '\n' ||
        (carriage && before == some '\r' && after != some '\n')
  | .lineEnd carriage =>
      after.isNone || (after == some '\n' && !(carriage && before == some '\r')) ||
        (carriage && after == some '\r')
  | .boundary ascii => word ascii before != word ascii after
  | .noBoundary ascii => word ascii before == word ascii after
  | .wordStart ascii => !word ascii before && word ascii after
  | .wordEnd ascii => word ascii before && !word ascii after
  | .wordStartHalf ascii => !word ascii before
  | .wordEndHalf ascii => !word ascii after

/-- The positions of two increasing lists, in increasing order. -/
def mergePositions : List Nat → List Nat → List Nat
  | [], js => js
  | is, [] => is
  | i :: is, j :: js =>
      if i < j then i :: mergePositions is (j :: js)
      else if j < i then j :: mergePositions (i :: is) js
      else i :: mergePositions is js
termination_by is js => is.length + js.length

/-- The positions after exactly `n` rounds. -/
def exactly (step : List Nat → List Nat) : Nat → List Nat → List Nat
  | 0, is => is
  | n + 1, is =>
      let js := step is
      if js == is then is else exactly step n js

def atMost (step : List Nat → List Nat) : Nat → List Nat → List Nat
  | 0, is => is
  | n + 1, is =>
      let js := mergePositions is (step is)
      if js == is then is else atMost step n js

mutual

/-- The positions at which a match from one of the given positions can end. -/
def Pattern.ends (text : Array Char) : Pattern → List Nat → List Nat
  | .char s, is => (is.filter fun i => text[i]?.any s.holds).map (· + 1)
  | .place p, is => is.filter fun i => p.holds text i
  | .group _ p, is => p.ends text is
  | .seq ps, is => seqEnds text ps is
  | .alt ps, is => altEnds text ps is
  | .repeated p min max, is =>
      let step := p.ends text
      let is := exactly step min is
      match max with
      | some max => atMost step (max - min) is
      | none => atMost step (text.size + 1) is

def seqEnds (text : Array Char) : List Pattern → List Nat → List Nat
  | [], is => is
  | p :: ps, is => seqEnds text ps (p.ends text is)

def altEnds (text : Array Char) : List Pattern → List Nat → List Nat
  | [], _ => []
  | p :: ps, is => mergePositions (p.ends text is) (altEnds text ps is)

end

def Pattern.matchesIn (p : Pattern) (text : List Char) : Bool :=
  !(p.ends text.toArray (List.range (text.length + 1))).isEmpty

end Regex

end GraphAlgebra
