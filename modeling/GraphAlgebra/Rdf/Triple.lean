import GraphAlgebra.Order.Sorted
import GraphAlgebra.Rdf.TermOrder
/-!
# Triples and their templates

A triple has a term at each of its three places, a template may have variables. Triples are
ordered by subject, predicate and object in turn.
-/

namespace GraphAlgebra

open Std

structure Triple where
  subject : Term
  predicate : Term
  object : Term
deriving DecidableEq, Repr, Inhabited

structure TriplePattern where
  subject : TermPattern
  predicate : TermPattern
  object : TermPattern
deriving DecidableEq, Repr, Inhabited

namespace Triple

def written (t : Triple) : String :=
  t.subject.written ++ " " ++ t.predicate.written ++ " " ++ t.object.written ++ " ."

instance : Ord Triple :=
  ⟨compareLex (compareOn subject) (compareLex (compareOn predicate) (compareOn object))⟩

instance : TransOrd Triple := inferInstanceAs (TransCmp (compareLex _ _))

instance : LawfulEqOrd Triple where
  eq_of_compare {a b} h := by
    obtain ⟨s, p, o⟩ := a
    obtain ⟨s', p', o'⟩ := b
    simp only [compare, compareLex_eq_eq] at h
    obtain ⟨hs, hp, ho⟩ := h
    have hs : compare s s' = .eq := hs
    have hp : compare p p' = .eq := hp
    have ho : compare o o' = .eq := ho
    rw [LawfulEqOrd.eq_of_compare hs, LawfulEqOrd.eq_of_compare hp,
      LawfulEqOrd.eq_of_compare ho]

end Triple

namespace TriplePattern

/-- The text of a template, with every term in full. -/
def written (t : TriplePattern) : String :=
  "(triple " ++ t.subject.written ++ " " ++ t.predicate.written ++ " " ++ t.object.written ++ ")"

def vars (t : TriplePattern) : List Var :=
  [t.subject, t.predicate, t.object].filterMap TermPattern.var?

end TriplePattern

/-- The templates of a conjunction, to be matched together. -/
abbrev BasicPattern : Type := List TriplePattern

end GraphAlgebra
