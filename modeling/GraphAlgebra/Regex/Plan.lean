import GraphAlgebra.Regex.Pattern
import GraphAlgebra.Text.ByteRange
/-!
# Plans of automata

The library `regex` documents a limit on the size of a compiled pattern, so what a pattern is
compiled to decides whether it is accepted. A plan is a pattern in the form in which it is laid out
as an automaton over bytes. Sequences and alternatives are flat, neighbouring characters are joined
to a text, alternatives of single characters and sets are one set, and repetitions that change
nothing are gone.
-/

namespace GraphAlgebra

namespace Regex

inductive Plan where
  | empty
  | text (cs : List Char)
  | set (k : CharClass)
  | place (p : Place)
  | captured (p : Plan)
  | repeated (p : Plan) (min : Nat) (max : Option Nat)
  | seq (ps : List Plan)
  | alt (ps : List Plan)
deriving Repr, Inhabited

namespace Plan

/-- The plan of a set: a text if it has a single member. -/
def ofClass (k : CharClass) : Plan :=
  match k.ranges with
  | [(lo, hi)] => if lo = hi then .text [Char.ofNat lo] else .set k
  | _ => .set k

/-- The plans that follow each other in a plan. -/
def factors : Plan → List Plan
  | .empty => []
  | .seq ps => ps
  | p => [p]

/-- Puts a plan in front of others, and joins texts that meet. -/
def prepend : Plan → List Plan → List Plan
  | .text cs, .text ds :: ps => .text (cs ++ ds) :: ps
  | p, ps => p :: ps

def inTurn (ps : List Plan) : Plan :=
  match (ps.flatMap factors).foldr prepend [] with
  | [] => .empty
  | [p] => p
  | ps => .seq ps

def branches : Plan → List Plan
  | .alt ps => ps
  | p => [p]

/-- The characters that a plan stands for, if it is a set or a text of one character. -/
def class? : Plan → Option CharClass
  | .set k => some k
  | .text [c] => some (.range c.toNat c.toNat)
  | _ => none

def oneOf (ps : List Plan) : Plan :=
  match ps.flatMap branches with
  | [p] => p
  | ps =>
      match ps.mapM class? with
      | some ks => ofClass (ks.foldl .union .empty)
      | none => .alt ps

mutual

def emptyOnly : Plan → Bool
  | .empty | .place _ => true
  | .text _ | .set _ => false
  | .captured p => p.emptyOnly
  | .repeated p _ _ => p.emptyOnly
  | .seq ps | .alt ps => allEmptyOnly ps

def allEmptyOnly : List Plan → Bool
  | [] => true
  | p :: ps => p.emptyOnly && allEmptyOnly ps

end

/-- The plan of a repetition. What matches only the empty text is repeated at most once. -/
def times (p : Plan) (min : Nat) (max : Option Nat) : Plan :=
  let (min, max) :=
    if p.emptyOnly then (Nat.min min 1, some (Nat.min (max.getD 1) 1)) else (min, max)
  match min, max with
  | 0, some 0 => .empty
  | 1, some 1 => p
  | min, max => .repeated p min max

end Plan

mutual

def Pattern.plan : Pattern → Plan
  | .char s => .ofClass s.toClass
  | .place p => .place p
  | .group captures p => if captures then .captured p.plan else p.plan
  | .seq ps => .inTurn (plans ps)
  | .alt ps => .oneOf (plans ps)
  | .repeated p min max => p.plan.times min max

def plans : List Pattern → List Plan
  | [] => []
  | p :: ps => p.plan :: plans ps

end

end Regex

end GraphAlgebra
