import GraphAlgebra.Text.CaseFold
import GraphAlgebra.Text.Category
/-!
# Sets of characters

Sets are written with classes, general categories, set operations and the variants of letters.
Membership is decided without writing the set out; `CharSet.toClass` writes it out.
-/

namespace GraphAlgebra

inductive CharSet where
  | listed (k : CharClass)
  | categories (ks : List Category)
  | union (a b : CharSet)
  | inter (a b : CharSet)
  | diff (a b : CharSet)
  | symmDiff (a b : CharSet)
  | compl (a : CharSet)
  | folded (a : CharSet)
deriving Repr

namespace CharSet

/-- Membership. A folded set holds the characters of which some variant is a member. -/
def holds : CharSet → Char → Bool
  | .listed k, c => k.holds c
  | .categories ks, c => ks.contains (category c)
  | .union a b, c => a.holds c || b.holds c
  | .inter a b, c => a.holds c && b.holds c
  | .diff a b, c => a.holds c && !b.holds c
  | .symmDiff a b, c => a.holds c != b.holds c
  | .compl a, c => !a.holds c
  | .folded a, c => (caseVariants c).any a.holds

def toClass : CharSet → CharClass
  | .listed k => k
  | .categories ks => pointsOfCategories ks
  | .union a b => a.toClass.union b.toClass
  | .inter a b => a.toClass.inter b.toClass
  | .diff a b => a.toClass.diff b.toClass
  | .symmDiff a b => a.toClass.symmDiff b.toClass
  | .compl a => a.toClass.compl
  | .folded a => a.toClass.fold

def none : CharSet := .listed .empty

def any : CharSet := .listed .whole

def range (lo hi : Char) : CharSet := .listed (.range lo.toNat hi.toNat)

def single (c : Char) : CharSet := range c c

def ascii : CharSet := .listed (.range 0 127)

def unionAll : List CharSet → CharSet
  | [] => none
  | a :: as => as.foldl union a

def ranges (l : List (Char × Char)) : CharSet := unionAll (l.map fun (lo, hi) => range lo hi)

/-- The complement of a set if `negated` holds. -/
def negateIf (negated : Bool) (a : CharSet) : CharSet := if negated then .compl a else a

end CharSet

end GraphAlgebra
