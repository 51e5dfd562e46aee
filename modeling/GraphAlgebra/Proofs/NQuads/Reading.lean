import GraphAlgebra.Proofs.NQuads.Lines
/-!
# What is read off a line

The terms that a line can have: an identifier without white space and closing brackets, a label of
label characters, a literal of one of the three kinds. `Quad.Readable` says so of a statement, and
every statement of a document is of this form (`NQuads.readable_of_statements`).
-/

namespace GraphAlgebra

open NQuads

/-- Neither the closing bracket nor white space is in the identifier. -/
def Iri.Readable (i : Iri) : Prop := ∀ c ∈ i.text.toList, (c != '>' && !isBlank c) = true

/-- The literals that are read: simple ones, those with a tag of tag characters, and those with the
datatype of a readable identifier. -/
inductive Literal.Readable : Literal → Prop
  | simple (s : String) : Readable (.simple s)
  | tagged (s : String) {tag : String} (hne : tag.toList ≠ [])
      (htag : ∀ c ∈ tag.toList, isTagChar c = true) : Readable (.tagged s tag)
  | typed (s : String) {datatype : Iri} (h : datatype.Readable) : Readable (.typed s datatype)

inductive Term.Readable : Term → Prop
  | iri {i : Iri} (h : i.Readable) : Readable (.iri i)
  | blank {label : String} (hne : label.toList ≠ [])
      (hlabel : ∀ c ∈ label.toList, isLabelChar c = true) : Readable (.blank label)
  | literal {l : Literal} (h : l.Readable) : Readable (.literal l)

/-- The statements that are read: literals are objects only, the predicate is an identifier. -/
structure Quad.Readable (q : Quad) : Prop where
  subject : q.triple.subject.Readable
  subject_resource : q.triple.subject.isLiteral = false
  predicate : q.triple.predicate.Readable
  predicate_iri : q.triple.predicate.isIri = true
  object : q.triple.object.Readable
  graph : ∀ name, q.graph = some name → name.Readable ∧ name.isLiteral = false

namespace NQuads

theorem readable_of_readIri {cs rest : List Char} {i : Iri} (h : readIri cs = .ok (i, rest)) :
    i.Readable := by
  simp only [readIri] at h
  split at h
  · obtain ⟨rfl, rfl⟩ := Prod.mk.inj (Except.ok.inj h)
    rw [Iri.Readable, String.toList_ofList]
    exact List.all_eq_true.1 List.all_takeWhile
  · contradiction

theorem readable_of_readBlank {cs rest : List Char} {t : Term} (h : readBlank cs = .ok (t, rest)) :
    t.Readable := by
  unfold readBlank at h
  split at h
  next cs =>
    simp only [List.isEmpty_iff] at h
    split at h
    · contradiction
    next hne =>
      obtain ⟨rfl, rfl⟩ := Prod.mk.inj (Except.ok.inj h)
      refine .blank ?_ ?_ <;> rw [String.toList_ofList]
      · exact hne
      · exact List.all_eq_true.1 List.all_takeWhile
  · contradiction

theorem readable_of_readLiteral {cs rest : List Char} {t : Term}
    (h : readLiteral cs = .ok (t, rest)) : t.Readable := by
  simp only [readLiteral, bind_eq_ok_iff, Prod.exists] at h
  obtain ⟨xs, r, -, h⟩ := h
  split at h
  next r =>
    simp only [List.isEmpty_iff] at h
    split at h
    · contradiction
    next hne =>
      obtain ⟨rfl, rfl⟩ := Prod.mk.inj (Except.ok.inj h)
      refine .literal (.tagged _ ?_ ?_) <;> rw [String.toList_ofList]
      · exact hne
      · exact List.all_eq_true.1 List.all_takeWhile
  · simp only [bind_eq_ok_iff, Prod.exists] at h
    obtain ⟨i, r, hi, h⟩ := h
    obtain ⟨rfl, rfl⟩ := Prod.mk.inj (Except.ok.inj h)
    exact .literal (.typed _ (readable_of_readIri hi))
  · contradiction
  · obtain ⟨rfl, rfl⟩ := Prod.mk.inj (Except.ok.inj h)
    exact .literal (.simple _)

theorem readable_of_readTerm {cs rest : List Char} {t : Term} (h : readTerm cs = .ok (t, rest)) :
    t.Readable := by
  unfold readTerm at h
  split at h
  · contradiction
  · simp only [bind_eq_ok_iff, Prod.exists] at h
    obtain ⟨i, r, hi, h⟩ := h
    obtain ⟨rfl, rfl⟩ := Prod.mk.inj (Except.ok.inj h)
    exact .iri (readable_of_readIri hi)
  · exact readable_of_readBlank h
  · exact readable_of_readLiteral h
  · contradiction

theorem readable_of_readGraph {cs rest : List Char} {graph : Option Term}
    (h : readGraph cs = .ok (graph, rest)) :
    ∀ name, graph = some name → name.Readable ∧ name.isLiteral = false := by
  unfold readGraph at h
  split at h
  · obtain ⟨rfl, -⟩ := Prod.mk.inj (Except.ok.inj h)
    exact nofun
  · simp only [bind_eq_ok_iff, Prod.exists] at h
    obtain ⟨name, r, hname, h⟩ := h
    split at h
    · contradiction
    next hliteral =>
      obtain ⟨rfl, -⟩ := Prod.mk.inj (Except.ok.inj h)
      rintro _ ⟨⟩
      exact ⟨readable_of_readTerm hname, Bool.eq_false_iff.2 hliteral⟩

theorem readLine_eq_some_iff {cs : List Char} {q : Quad} :
    readLine cs = .ok (some q) ↔
      (skipBlanks cs ≠ [] ∧ ∀ r, skipBlanks cs ≠ '#' :: r) ∧ ∃ r₁ r₂ r₃ r₄,
        readTerm (skipBlanks cs) = .ok (q.triple.subject, r₁) ∧
          q.triple.subject.isLiteral = false ∧
        readTerm r₁ = .ok (q.triple.predicate, r₂) ∧ q.triple.predicate.isIri = true ∧
        readTerm r₂ = .ok (q.triple.object, r₃) ∧ readGraph r₃ = .ok (q.graph, r₄) ∧
        readEnd r₄ = .ok () := by
  obtain ⟨graph, s, p, o⟩ := q
  unfold readLine
  split
  next h => simp [h]
  next h => simp [h]
  next hnil hcomment =>
    simp only [bind_eq_ok_iff, ite_throw_eq_ok_iff, Prod.exists]
    constructor
    · rintro ⟨s', r₁, hs, hliteral, p', r₂, hp, hiri, o', r₃, ho, graph', r₄, hgraph, ⟨⟩, hend, heq⟩
      cases heq
      exact ⟨⟨hnil, hcomment⟩, r₁, r₂, r₃, r₄, hs, by simpa using hliteral, hp, by simpa using hiri,
        ho, hgraph, hend⟩
    · rintro ⟨-, r₁, r₂, r₃, r₄, hs, hliteral, hp, hiri, ho, hgraph, hend⟩
      exact ⟨s, r₁, hs, by simp [hliteral], p, r₂, hp, by simp [hiri], o, r₃, ho, graph, r₄, hgraph,
        (), hend, rfl⟩

theorem readable_of_readLine {cs : List Char} {q : Quad} (h : readLine cs = .ok (some q)) :
    q.Readable := by
  obtain ⟨-, r₁, r₂, r₃, r₄, hs, hliteral, hp, hiri, ho, hgraph, -⟩ := readLine_eq_some_iff.1 h
  exact ⟨readable_of_readTerm hs, hliteral, readable_of_readTerm hp, hiri, readable_of_readTerm ho,
    readable_of_readGraph hgraph⟩

theorem readable_of_statements {text : String} {qs : List Quad} (h : statements text = .ok qs) :
    ∀ q ∈ qs, q.Readable := by
  intro q hq
  obtain ⟨l, -, hl⟩ := (mem_of_readLines_eq_ok h).1 hq
  exact readable_of_readLine hl

end NQuads

end GraphAlgebra
