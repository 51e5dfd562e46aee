import GraphAlgebra.Rdf.Term
/-!
# The order in which terms are stored

Graphs and maps list their terms in this order: identifiers before blank nodes before literals,
and within a kind by the fields, texts by code points and an absent field first. It is a total
order of all terms, so equal terms alone compare as equal.
-/

namespace GraphAlgebra

open Std

namespace Term

/-- The fields that order a term: the rank of its kind, then its texts. -/
structure Fields where
  rank : Nat
  text : String
  language : Option String
  datatype : Option String
deriving DecidableEq

def fields : Term → Fields
  | .iri i => ⟨0, i.text, none, none⟩
  | .blank label => ⟨1, label, none, none⟩
  | .literal l => ⟨2, l.lexical, l.language, l.datatype.map Iri.text⟩

namespace Fields

/-- One field after the other. -/
instance : Ord Fields :=
  ⟨compareLex (compareOn rank)
    (compareLex (compareOn text) (compareLex (compareOn language) (compareOn datatype)))⟩

instance : TransOrd Fields := inferInstanceAs (TransCmp (compareLex _ _))

theorem eq_of_compare {a b : Fields} (h : compare a b = .eq) : a = b := by
  obtain ⟨r, t, l, d⟩ := a
  obtain ⟨r', t', l', d'⟩ := b
  simp only [compare, compareLex_eq_eq] at h
  obtain ⟨hr, ht, hl, hd⟩ := h
  have hr : compare r r' = .eq := hr
  have ht : compare t t' = .eq := ht
  have hl : compare l l' = .eq := hl
  have hd : compare d d' = .eq := hd
  rw [LawfulEqOrd.eq_of_compare hr, LawfulEqOrd.eq_of_compare ht,
    LawfulEqOrd.eq_of_compare hl, LawfulEqOrd.eq_of_compare hd]

end Fields

theorem fields_injective {s t : Term} (h : s.fields = t.fields) : s = t := by
  cases s <;> cases t <;> simp_all [fields]
  next i j => cases i; cases j; simp_all
  next l m =>
    obtain ⟨_, _, d⟩ := l
    obtain ⟨_, _, d'⟩ := m
    cases d <;> cases d' <;> simp_all
    next i j => cases i; cases j; simp_all

instance : Ord Term := ⟨compareOn fields⟩

instance : TransOrd Term := inferInstanceAs (TransCmp (compareOn fields))

instance : LawfulEqOrd Term where
  eq_of_compare {a b} h :=
    have h : compare a.fields b.fields = .eq := h
    fields_injective (Fields.eq_of_compare h)

end Term

end GraphAlgebra
