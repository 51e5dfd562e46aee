import GraphAlgebra.Proofs.NQuads.Reading
import GraphAlgebra.Proofs.Text.Ascii
import GraphAlgebra.Proofs.Text.OneLine
/-!
# Written statements are read back

The text of a readable term is read back as the term, up to the space behind it
(`NQuads.readTerm_written`), hence the text of a readable quad as the quad
(`NQuads.readLine_written`). No line feed is in it, so that a document of such texts is split where
it was put together (`NQuads.lines_document`).
-/

namespace GraphAlgebra

open NQuads

/-- The text of a quad as a statement, with the name of its graph behind the triple. -/
def Quad.written (q : Quad) : String :=
  match q.graph with
  | none => q.triple.written
  | some name =>
      q.triple.subject.written ++ " " ++ q.triple.predicate.written ++ " " ++
        q.triple.object.written ++ " " ++ name.written ++ " ."

namespace NQuads

def document (qs : List Quad) : String := String.join (qs.map fun q => q.written ++ "\n")

theorem span_append_cons {p : Char → Bool} {cs : List Char} {c : Char} (hcs : ∀ x ∈ cs, p x = true)
    (hc : p c = false) (rest : List Char) :
    (cs ++ c :: rest).takeWhile p = cs ∧ (cs ++ c :: rest).dropWhile p = c :: rest := by
  rw [List.takeWhile_append_of_pos hcs, List.dropWhile_append_of_pos hcs]
  simp [hc]

theorem readIri_append {i : Iri} (h : i.Readable) (rest : List Char) :
    readIri (i.text.toList ++ '>' :: rest) = .ok (i, rest) := by
  have hend : ('>' != '>' && !isBlank '>') = false := rfl
  obtain ⟨htake, hdrop⟩ := span_append_cons h hend rest
  simp only [readIri, htake, hdrop, String.ofList_toList]

theorem readEscape_of_mem {e c : Char}
    (h : (e, c) ∈ [('"', '"'), ('\\', '\\'), ('n', '\n'), ('r', '\r'), ('t', '\t')]) :
    ∀ cs, readEscape e cs = .ok (c, 0) := by
  simp only [List.mem_cons, Prod.mk.injEq, List.not_mem_nil, or_false] at h
  rcases h with ⟨rfl, rfl⟩ | ⟨rfl, rfl⟩ | ⟨rfl, rfl⟩ | ⟨rfl, rfl⟩ | ⟨rfl, rfl⟩
  all_goals exact fun _ => rfl

theorem readString_quote (cs : List Char) : readString ('"' :: cs) = .ok ([], cs) := by
  rw [readString.eq_def]
  exact if_pos rfl

theorem readString_cons_of_ne {c : Char} (hquote : c ≠ '"') (hback : c ≠ '\\') (cs : List Char) :
    readString (c :: cs) = (fun r => (c :: r.1, r.2)) <$> readString cs := by
  rw [readString.eq_def]
  simp only [if_neg hquote, if_neg hback]
  cases readString cs <;> rfl

theorem readString_escape {e x : Char} {cs : List Char} {n : Nat}
    (h : readEscape e cs = .ok (x, n)) :
    readString ('\\' :: e :: cs) = (fun r => (x :: r.1, r.2)) <$> readString (cs.drop n) := by
  rw [readString.eq_def]
  simp only [if_neg (by decide : '\\' ≠ '"'), if_pos, h]
  change (readString (cs.drop n) >>= _) = _
  cases readString (cs.drop n) <;> rfl

theorem readString_escapeText (cs rest : List Char) :
    readString (escapeText cs ++ '"' :: rest) = .ok (cs, rest) := by
  induction cs with
  | nil => exact readString_quote rest
  | cons c cs ih =>
      rcases escapeChar_cases c with ⟨hc, hquote, hback, -⟩ | ⟨e, hc, he⟩
      · rw [escapeText_cons, hc, List.append_assoc, List.singleton_append,
          readString_cons_of_ne hquote hback, ih]
        rfl
      · rw [escapeText_cons, hc, List.append_assoc]
        change readString ('\\' :: e :: (escapeText cs ++ '"' :: rest)) = _
        rw [readString_escape (readEscape_of_mem he _), List.drop_zero, ih]
        rfl

theorem isTagChar_toLower {c : Char} (h : isTagChar c = true) : isTagChar c.toLower = true := by
  rcases Bool.or_eq_true_iff.1 h with h | h
  · exact Bool.or_eq_true_iff.2 (.inl (isAlphanum_toLower h))
  · rw [beq_iff_eq.1 h]
    decide

/-- A tag in lower case has the characters of a tag if the tag has them. -/
theorem isTagChar_of_mem_lowerAscii {tag : String} (h : ∀ c ∈ tag.toList, isTagChar c = true) :
    ∀ c ∈ (lowerAscii tag).toList, isTagChar c = true := by
  intro c hc
  rw [lowerAscii, String.toList_ofList] at hc
  obtain ⟨x, hx, rfl⟩ := List.mem_map.1 hc
  exact isTagChar_toLower (h x hx)

theorem readLiteral_simple (s : String) (rest : List Char) :
    readLiteral (escapeText s.toList ++ '"' :: ' ' :: rest) =
      .ok (.literal (.simple s), ' ' :: rest) := by
  rw [readLiteral, readString_escapeText]
  change Except.ok (Term.literal (.simple (String.ofList s.toList)), ' ' :: rest) = _
  rw [String.ofList_toList]

theorem readLiteral_tagged (s : String) {tag : String} (hne : tag.toList ≠ [])
    (htag : ∀ c ∈ tag.toList, isTagChar c = true) (rest : List Char) :
    readLiteral (escapeText s.toList ++ '"' :: '@' :: (tag.toList ++ ' ' :: rest)) =
      .ok (.literal (.tagged s tag), ' ' :: rest) := by
  obtain ⟨htake, hdrop⟩ := span_append_cons htag (by decide : isTagChar ' ' = false) rest
  rw [readLiteral, readString_escapeText]
  simp [htake, hdrop, hne, bind, Except.bind]

theorem readLiteral_typed (s : String) {datatype : Iri} (h : datatype.Readable)
    (rest : List Char) :
    readLiteral (escapeText s.toList ++
        '"' :: '^' :: '^' :: '<' :: (datatype.text.toList ++ '>' :: rest)) =
      .ok (.literal (.typed s datatype), rest) := by
  rw [readLiteral, readString_escapeText]
  simp [readIri_append h, bind, Except.bind]

theorem readLiteral_written {l : Literal} (h : l.Readable) (rest : List Char) :
    ∃ cs, l.written.toList ++ ' ' :: rest = '"' :: cs ∧
      readLiteral cs = .ok (.literal l, ' ' :: rest) := by
  cases h with
  | simple s => exact ⟨_, by simp [Literal.written, Literal.simple], readLiteral_simple s rest⟩
  | @tagged s tag hne htag =>
      have hlower : Literal.tagged s (lowerAscii tag) = .tagged s tag := by
        rw [Literal.tagged, lowerAscii_lowerAscii, Literal.tagged]
      have hne' : (lowerAscii tag).toList ≠ [] := by simpa [lowerAscii] using hne
      refine ⟨_, ?_, hlower ▸ readLiteral_tagged s hne' (isTagChar_of_mem_lowerAscii htag) rest⟩
      simp [Literal.written, Literal.tagged]
  | @typed s datatype h =>
      by_cases hstring : datatype = Iri.string
      · rw [Literal.typed, if_pos hstring]
        exact ⟨_, by simp [Literal.written, Literal.simple], readLiteral_simple s rest⟩
      · refine ⟨_, ?_, readLiteral_typed s h (' ' :: rest)⟩
        simp [Literal.written, Literal.typed, hstring, Iri.written]

theorem readTerm_written {t : Term} (h : t.Readable) (rest : List Char) :
    readTerm (t.written.toList ++ ' ' :: rest) = .ok (t, ' ' :: rest) := by
  cases h with
  | @iri i h =>
      have hwritten : (Term.iri i).written.toList ++ ' ' :: rest =
          '<' :: (i.text.toList ++ '>' :: ' ' :: rest) := by
        simp [Term.written, Iri.written]
      rw [hwritten, readTerm]
      change (readIri (i.text.toList ++ '>' :: ' ' :: rest) >>= _) = _
      rw [readIri_append h]
      rfl
  | @blank label hne hlabel =>
      have hwritten : (Term.blank label).written.toList ++ ' ' :: rest =
          '_' :: ':' :: (label.toList ++ ' ' :: rest) := by
        simp [Term.written]
      obtain ⟨htake, hdrop⟩ := span_append_cons hlabel (by decide : isLabelChar ' ' = false) rest
      rw [hwritten, readTerm]
      change readBlank (':' :: (label.toList ++ ' ' :: rest)) = _
      simp [readBlank, htake, hdrop, hne]
  | @literal l h =>
      obtain ⟨cs, hcs, hread⟩ := readLiteral_written h rest
      rw [Term.written, hcs]
      exact hread

/-- The text of a term begins with a character that is not skipped and ends no statement. -/
theorem written_eq_cons (t : Term) :
    ∃ c cs, t.written.toList = c :: cs ∧ isBlank c = false ∧ c ≠ '#' ∧ c ≠ '.' := by
  cases t with
  | iri i => exact ⟨'<', i.text.toList ++ ['>'], by simp [Term.written, Iri.written], by decide⟩
  | blank label => exact ⟨'_', ':' :: label.toList, by simp [Term.written], by decide⟩
  | literal l =>
      rw [Term.written, Literal.written, String.toList_append, toList_quoted, List.cons_append]
      exact ⟨'"', _, rfl, by decide⟩

theorem skipBlanks_of_not_isBlank {c : Char} (h : isBlank c = false) (cs : List Char) :
    skipBlanks (c :: cs) = c :: cs := by
  simp [skipBlanks, h]

theorem skipBlanks_space (cs : List Char) : skipBlanks (' ' :: cs) = skipBlanks cs := rfl

theorem readTerm_space (cs : List Char) : readTerm (' ' :: cs) = readTerm cs := by
  rw [readTerm, readTerm, skipBlanks_space]

/-- What follows the triple in the text of a quad. -/
def ending : Option Term → List Char
  | none => ['.']
  | some name => name.written.toList ++ [' ', '.']

theorem toList_written (q : Quad) :
    q.written.toList = q.triple.subject.written.toList ++ ' ' ::
      (q.triple.predicate.written.toList ++ ' ' ::
        (q.triple.object.written.toList ++ ' ' :: ending q.graph)) := by
  obtain ⟨graph, t⟩ := q
  cases graph with
  | none => simp [Quad.written, Triple.written, ending]
  | some name => simp [Quad.written, ending]

theorem readGraph_ending {graph : Option Term}
    (h : ∀ name, graph = some name → name.Readable ∧ name.isLiteral = false) :
    ∃ r, readGraph (' ' :: ending graph) = .ok (graph, r) ∧ readEnd r = .ok () := by
  cases graph with
  | none => exact ⟨['.'], rfl, rfl⟩
  | some name =>
      obtain ⟨hname, hliteral⟩ := h name rfl
      have hread := readTerm_written hname ['.']
      obtain ⟨c, cs, hwritten, hblank, -, hpoint⟩ := written_eq_cons name
      refine ⟨[' ', '.'], ?_, rfl⟩
      rw [hwritten, List.cons_append] at hread
      rw [ending, hwritten, List.cons_append, readGraph, skipBlanks_space,
        skipBlanks_of_not_isBlank hblank]
      -- The point is looked for first, but no term begins with one.
      split
      next heq => exact absurd (List.cons.inj heq).1 hpoint
      next =>
        rw [hread]
        exact if_neg (by simp [hliteral])

theorem readLine_written {q : Quad} (h : q.Readable) :
    readLine q.written.toList = .ok (some q) := by
  obtain ⟨r, hgraph, hend⟩ := readGraph_ending h.graph
  obtain ⟨c, cs, hc, hblank, hcomment, -⟩ := written_eq_cons q.triple.subject
  have hskip : skipBlanks q.written.toList = q.written.toList := by
    rw [toList_written, hc]
    exact skipBlanks_of_not_isBlank hblank _
  refine readLine_eq_some_iff.2 ⟨?_, ?_⟩
  · rw [hskip, toList_written, hc]
    simp [hcomment]
  · rw [hskip, toList_written]
    exact ⟨_, _, _, r, readTerm_written h.subject _, h.subject_resource,
      (readTerm_space _).trans (readTerm_written h.predicate _), h.predicate_iri,
      (readTerm_space _).trans (readTerm_written h.object _), hgraph, hend⟩

theorem newline_not_mem_of_forall {p : Char → Bool} {cs : List Char} (h : ∀ c ∈ cs, p c = true)
    (hp : p '\n' = false) : '\n' ∉ cs := fun hmem => by
  rw [h _ hmem] at hp
  contradiction

theorem oneLine_of_readable {t : Term} (h : t.Readable) : t.OneLine := by
  cases h with
  | iri h => exact newline_not_mem_of_forall h rfl
  | blank _ hlabel => exact newline_not_mem_of_forall hlabel (by decide)
  | literal h =>
      cases h with
      | simple s => exact ⟨nofun, nofun⟩
      | tagged s _ htag =>
          refine ⟨?_, nofun⟩
          rintro _ ⟨⟩
          exact newline_not_mem_of_forall (isTagChar_of_mem_lowerAscii htag) (by decide)
      | @typed s datatype h =>
          unfold Literal.typed
          split
          · exact ⟨nofun, nofun⟩
          · refine ⟨nofun, ?_⟩
            rintro _ ⟨⟩
            exact newline_not_mem_of_forall h rfl

theorem newline_not_mem_written {t : Term} (h : t.Readable) : '\n' ∉ t.written.toList :=
  (oneLine_of_readable h).written

theorem newline_not_mem_written_quad {q : Quad} (h : q.Readable) : '\n' ∉ q.written.toList := by
  have hending : '\n' ∉ ending q.graph := by
    cases hgraph : q.graph with
    | none => decide
    | some name => simpa [ending] using newline_not_mem_written (h.graph name hgraph).1
  simp [toList_written, newline_not_mem_written h.subject, newline_not_mem_written h.predicate,
    newline_not_mem_written h.object, hending]

/-- The point at the end of a statement keeps a line from being shortened. -/
theorem endLine_reverse_written (q : Quad) :
    endLine q.written.toList.reverse = q.written.toList := by
  obtain ⟨cs, hcs⟩ : ∃ cs, ending q.graph = cs ++ ['.'] := by
    cases q.graph with
    | none => exact ⟨[], rfl⟩
    | some name => exact ⟨name.written.toList ++ [' '], by simp [ending]⟩
  have hpoint (l : List Char) : endLine (l ++ ['.']).reverse = l ++ ['.'] := by
    rw [List.reverse_append]
    change (['.'] ++ l.reverse).reverse = _
    simp
  rw [toList_written, hcs]
  simpa using hpoint (_ ++ ' ' :: (_ ++ ' ' :: (_ ++ ' ' :: cs)))

theorem lines_written_append {q : Quad} (h : q.Readable) (rest : List Char) :
    lines (q.written.toList ++ '\n' :: rest) = q.written.toList :: lines rest := by
  rw [lines, linesFrom_append (newline_not_mem_written_quad h), List.append_nil,
    endLine_reverse_written, lines]

theorem lines_written {q : Quad} (h : q.Readable) :
    lines q.written.toList = [q.written.toList] := by
  have hne : q.written.toList.reverse ++ [] ≠ [] := by simp [toList_written]
  exact linesFrom_of_not_mem (newline_not_mem_written_quad h) hne

theorem lines_document {qs : List Quad} (h : ∀ q ∈ qs, q.Readable) :
    lines (document qs).toList = qs.map (·.written.toList) := by
  induction qs with
  | nil => rfl
  | cons q qs ih =>
      obtain ⟨hq, hqs⟩ := List.forall_mem_cons.1 h
      have hcons : (document (q :: qs)).toList =
          q.written.toList ++ '\n' :: (document qs).toList := by
        simp [document]
      rw [hcons, lines_written_append hq, ih hqs, List.map_cons]

/-- The line feed at the end of a document may be left out. -/
theorem lines_intercalate {qs : List Quad} (h : ∀ q ∈ qs, q.Readable) :
    lines ("\n".intercalate (qs.map Quad.written)).toList = qs.map (·.written.toList) := by
  induction qs with
  | nil => rfl
  | cons q qs ih =>
      obtain ⟨hq, hqs⟩ := List.forall_mem_cons.1 h
      cases qs with
      | nil => simpa using lines_written hq
      | cons p qs =>
          have hcons : ("\n".intercalate ((q :: p :: qs).map Quad.written)).toList =
              q.written.toList ++
                '\n' :: ("\n".intercalate ((p :: qs).map Quad.written)).toList := by
            simp [String.intercalate_cons_cons]
          rw [hcons, lines_written_append hq, ih hqs]
          rfl

theorem statements_eq_ok {text : String} {qs : List Quad} (h : ∀ q ∈ qs, q.Readable)
    (hlines : lines text.toList = qs.map (·.written.toList)) : statements text = .ok qs := by
  have hread (n : Nat) (qs : List Quad) (h : ∀ q ∈ qs, q.Readable) :
      readLines n (qs.map (·.written.toList)) = .ok qs := by
    induction qs generalizing n with
    | nil => rfl
    | cons q qs ih =>
        obtain ⟨hq, hqs⟩ := List.forall_mem_cons.1 h
        rw [List.map_cons, readLines_cons, readLine_written hq]
        exact congrArg (Except.map (q :: ·)) (ih (n + 1) hqs)
  rw [statements, hlines, hread 1 qs h]

end NQuads

end GraphAlgebra
