import GraphAlgebra.Proofs.NQuads.Lines
import GraphAlgebra.Proofs.Rdf.Quads
import Mathlib.Data.Set.Card
/-!
# Documents as sets of statements

A document is read line by line, and its dataset is the set of its statements. So the order of the
lines, repeated statements, comments and empty lines make no difference, and the dataset has as many
triples as there are statements, where the reserved name and the default graph are the same
(`NQuads.load_statements`).
-/

namespace GraphAlgebra

namespace Dataset

theorem size_eq_ncard (d : Dataset) : d.size = {q | q ∈ d.quads}.ncard := by
  have hset : {q | q ∈ d.quads} = (d.quads.toFinset : Set Quad) := (List.coe_toFinset _).symm
  rw [hset, Set.ncard_coe_finset, List.toFinset_card_of_nodup d.nodup_quads, size_eq_length_quads]

end Dataset

namespace NQuads

variable {text text' : String} {d d' : Dataset}

/-- Some line of the text is the statement. -/
def States (text : String) (q : Quad) : Prop :=
  ∃ l ∈ lines text.toList, readLine l = .ok (some q)

theorem states_iff {qs : List Quad} (h : statements text = .ok qs) {q : Quad} :
    States text q ↔ q ∈ qs :=
  (mem_of_readLines_eq_ok h).symm

theorem quads_of_load (h : load text = .ok d) :
    {q | q ∈ d.quads} = Quad.placed '' {q | States text q} := by
  obtain ⟨qs, hqs, rfl⟩ := map_eq_ok_iff.1 h
  ext q
  simp only [Set.mem_ofPred_eq, Set.mem_image, Dataset.mem_quads_ofQuads_iff, states_iff hqs]

theorem load_eq_iff (h : load text = .ok d) (h' : load text' = .ok d') :
    d = d' ↔ Quad.placed '' {q | States text q} = Quad.placed '' {q | States text' q} := by
  rw [← quads_of_load h, ← quads_of_load h']
  obtain ⟨qs, -, rfl⟩ := map_eq_ok_iff.1 h
  obtain ⟨qs', -, rfl⟩ := map_eq_ok_iff.1 h'
  constructor
  · intro heq
    rw [heq]
  · intro heq
    exact Dataset.ext_quads (Dataset.occupied_ofQuads qs) (Dataset.occupied_ofQuads qs')
      (Set.ext_iff.1 heq)

theorem statements_intercalate {ls : List String}
    (h : ∀ l ∈ ls, '\n' ∉ l.toList ∧ '\r' ∉ l.toList) :
    statements ("\n".intercalate ls) = readLines 1 (ls.map String.toList) := by
  obtain ⟨rest, hrest, hblank⟩ := exists_lines_append h
  rw [hrest, readLines_append_of_blank hblank, statements]

/-- A text that is joined from lines can be loaded exactly if all its lines can be read, and else
the first line that cannot be read is reported with its number. The dataset of a document depends on
nothing but its statements, and the number of its triples is that of the statements in their
places. -/
theorem load_statements :
    (∀ ls : List String, (∀ l ∈ ls, '\n' ∉ l.toList ∧ '\r' ∉ l.toList) →
      ((∃ d, load ("\n".intercalate ls) = .ok d) ↔ ∀ l ∈ ls, ∃ q, readLine l.toList = .ok q) ∧
        ∀ f, load ("\n".intercalate ls) = .error f ↔ IsFirstFault 1 (ls.map String.toList) f) ∧
      ∀ text d, load text = .ok d →
        d.size = (Quad.placed '' {q | States text q}).ncard ∧
          ∀ text' d', load text' = .ok d' → (∀ q, States text q ↔ States text' q) → d = d' := by
  refine ⟨fun ls hls => ⟨?_, fun f => ?_⟩, fun text d h => ⟨?_, fun text' d' h' hsame => ?_⟩⟩
  · simp only [load, map_eq_ok_iff, statements_intercalate hls]
    rw [exists_comm]
    simp only [exists_and_left, exists_eq', and_true, exists_readLines_eq_ok_iff,
      List.forall_mem_map]
  · rw [load, map_eq_error_iff, statements_intercalate hls, readLines_eq_error_iff]
  · rw [Dataset.size_eq_ncard, quads_of_load h]
  · have hset : {q | States text q} = {q | States text' q} := Set.ext hsame
    rw [load_eq_iff h h', hset]

/-- Two documents with the same two statements, which are one in their place, in another order and
with repetitions, a comment and an empty line; and a document of which two lines cannot be read. -/
theorem load_statements_reordered :
    let ls := ["<s> <p> _:b <urn:x-arq:DefaultGraph> .", "# again", "<s> <p> _:b.", "",
      " <s> <p> _:b . # and again", ""]
    let ls' := ["<s> <p> _:b .", "<s> <p> _:b <urn:x-arq:DefaultGraph>."]
    let bad := ["", "<s> <p> _:b .", "<s> _:p _:b .", "<s>"]
    (∀ l ∈ ls ++ ls' ++ bad, '\n' ∉ l.toList ∧ '\r' ∉ l.toList) ∧
      load ("\n".intercalate bad) = .error ⟨3, .predicateNoIri⟩ ∧
      ∃ d d', load ("\n".intercalate ls) = .ok d ∧ load ("\n".intercalate ls') = .ok d' ∧
        (∀ q, States ("\n".intercalate ls) q ↔ States ("\n".intercalate ls') q) ∧
        d = d' ∧ d.size = 1 := by
  intro ls ls' bad
  have hls : ∀ l ∈ ls, '\n' ∉ l.toList ∧ '\r' ∉ l.toList := by decide +kernel
  have hls' : ∀ l ∈ ls', '\n' ∉ l.toList ∧ '\r' ∉ l.toList := by decide +kernel
  have hbad : ∀ l ∈ bad, '\n' ∉ l.toList ∧ '\r' ∉ l.toList := by decide +kernel
  let q : Quad := ⟨none, ⟨.iri ⟨"s"⟩, .iri ⟨"p"⟩, .blank "b"⟩⟩
  let p : Quad := ⟨some (.iri Iri.defaultGraph), q.triple⟩
  have hstatements : statements ("\n".intercalate ls) = .ok [p, q, q] := by
    rw [statements_intercalate hls]
    rfl
  have hstatements' : statements ("\n".intercalate ls') = .ok [q, p] := by
    rw [statements_intercalate hls']
    rfl
  have hload : load ("\n".intercalate ls) = .ok (.ofQuads [p, q, q]) := by
    rw [load, hstatements]
    rfl
  have hload' : load ("\n".intercalate ls') = .ok (.ofQuads [q, p]) := by
    rw [load, hstatements']
    rfl
  have hsame (s : Quad) : States ("\n".intercalate ls) s ↔ States ("\n".intercalate ls') s := by
    rw [states_iff hstatements, states_iff hstatements']
    simp [or_comm]
  have hfault : IsFirstFault 1 (bad.map String.toList) ⟨3, .predicateNoIri⟩ :=
    ⟨["".toList, "<s> <p> _:b .".toList], "<s> _:p _:b .".toList, ["<s>".toList], rfl, rfl, rfl,
      List.forall_mem_cons.2 ⟨⟨none, rfl⟩, List.forall_mem_singleton.2 ⟨some q, rfl⟩⟩⟩
  refine ⟨List.forall_mem_append.2 ⟨List.forall_mem_append.2 ⟨hls, hls'⟩, hbad⟩,
    ((load_statements.1 bad hbad).2 _).2 hfault, _, _, hload, hload', hsame,
    (load_statements.2 _ _ hload).2 _ _ hload' hsame, by decide⟩

end NQuads

end GraphAlgebra
