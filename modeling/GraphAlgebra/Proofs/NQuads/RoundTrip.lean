import GraphAlgebra.Proofs.NQuads.Writing
import GraphAlgebra.Proofs.Rdf.Quads
/-!
# Datasets are read back

The quads of a dataset that was loaded, written with a line for each, are a document of the same
dataset, in whatever order they stand and with or without a line feed at the end
(`NQuads.load_document`).
-/

namespace GraphAlgebra

/-- A readable quad stays readable when the reserved name is taken for the default graph. -/
theorem Quad.Readable.placed {q : Quad} (h : q.Readable) : q.placed.Readable where
  subject := h.subject
  subject_resource := h.subject_resource
  predicate := h.predicate
  predicate_iri := h.predicate_iri
  object := h.object
  graph name hname := h.graph name (Option.filter_eq_some_iff.1 hname).1

namespace NQuads

theorem readable_of_load {text : String} {d : Dataset} (h : load text = .ok d) :
    ∀ q ∈ d.quads, q.Readable := by
  obtain ⟨qs, hqs, rfl⟩ := map_eq_ok_iff.1 h
  intro q hq
  obtain ⟨p, hp, rfl⟩ := Dataset.mem_quads_ofQuads_iff.1 hq
  exact (readable_of_statements hqs p hp).placed

/-- The lines of all quads of a loaded dataset load as this dataset. -/
theorem load_document {text : String} {d : Dataset} (h : load text = .ok d) {qs : List Quad}
    (hqs : ∀ q, q ∈ qs ↔ q ∈ d.quads) :
    load (document qs) = .ok d ∧ load ("\n".intercalate (qs.map Quad.written)) = .ok d := by
  have hreadable : ∀ q ∈ qs, q.Readable := fun q hq => readable_of_load h q ((hqs q).1 hq)
  obtain ⟨ps, -, rfl⟩ := map_eq_ok_iff.1 h
  have hd : Dataset.ofQuads qs = .ofQuads ps := Dataset.ofQuads_eq_of_mem_iff hqs
  constructor
  · rw [load, statements_eq_ok hreadable (lines_document hreadable), ← hd]
    rfl
  · rw [load, statements_eq_ok hreadable (lines_intercalate hreadable), ← hd]
    rfl

/-- A document with escapes, a language tag in capital letters, the reserved name of the default
graph, a comment and an empty line: its dataset is read back from its quads in reverse. -/
theorem load_document_reverse :
    let text := "<a> <p> \"\\\"x\\n\"@EN.#\r\n<s> <p> _:b <urn:x-arq:DefaultGraph> .\n\n" ++
      " <s> <p> _:b _:g."
    let d : Dataset := .ofQuads
      [⟨none, ⟨.iri ⟨"a"⟩, .iri ⟨"p"⟩, .literal ⟨"\"x\n", some "en", none⟩⟩⟩,
        ⟨none, ⟨.iri ⟨"s"⟩, .iri ⟨"p"⟩, .blank "b"⟩⟩,
        ⟨some (.blank "g"), ⟨.iri ⟨"s"⟩, .iri ⟨"p"⟩, .blank "b"⟩⟩]
    load text = .ok d ∧ (∀ q, q ∈ d.quads.reverse ↔ q ∈ d.quads) ∧
      load (document d.quads.reverse) = .ok d ∧
      load ("\n".intercalate (d.quads.reverse.map Quad.written)) = .ok d := by
  intro text d
  have hlines : lines text.toList =
      ["<a> <p> \"\\\"x\\n\"@EN.#".toList, "<s> <p> _:b <urn:x-arq:DefaultGraph> .".toList, [],
        " <s> <p> _:b _:g.".toList] := by decide +kernel
  have hobject : readTerm " \"\\\"x\\n\"@EN.#".toList =
      .ok (.literal ⟨"\"x\n", some "en", none⟩, ".#".toList) := by
    change readLiteral (escapeText "\"x\n".toList ++ '"' :: "@EN.#".toList) = _
    rw [readLiteral, readString_escapeText]
    rfl
  have hliteral : readLine "<a> <p> \"\\\"x\\n\"@EN.#".toList =
      .ok (some ⟨none, ⟨.iri ⟨"a"⟩, .iri ⟨"p"⟩, .literal ⟨"\"x\n", some "en", none⟩⟩⟩) := by
    refine readLine_eq_some_iff.2 ⟨⟨by decide, fun r h => ?_⟩, ?_⟩
    · exact absurd (List.cons.inj h).1 (by decide)
    · exact ⟨_, _, _, _, rfl, rfl, rfl, rfl, hobject, rfl, rfl⟩
  have hdefault : readLine "<s> <p> _:b <urn:x-arq:DefaultGraph> .".toList =
      .ok (some ⟨some (.iri Iri.defaultGraph), ⟨.iri ⟨"s"⟩, .iri ⟨"p"⟩, .blank "b"⟩⟩) := rfl
  have hempty : readLine [] = .ok none := rfl
  have hnamed : readLine " <s> <p> _:b _:g.".toList =
      .ok (some ⟨some (.blank "g"), ⟨.iri ⟨"s"⟩, .iri ⟨"p"⟩, .blank "b"⟩⟩) := rfl
  have h : load text = .ok d := by
    rw [load, statements, hlines]
    simp only [readLines, hliteral, hdefault, hempty, hnamed]
    rfl
  have hqs (q : Quad) : q ∈ d.quads.reverse ↔ q ∈ d.quads := List.mem_reverse
  exact ⟨h, hqs, load_document h hqs⟩

end NQuads

end GraphAlgebra
