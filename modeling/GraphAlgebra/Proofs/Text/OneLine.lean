import GraphAlgebra.Rdf.Term
/-!
# Texts on one line

Between quotation marks line feeds are escaped. So the text of a term is on one line, whatever the
characters of a literal are, unless an identifier, a label or a tag has a line feed in it
(`Term.OneLine.written`).
-/

namespace GraphAlgebra

def OneLine (s : String) : Prop := '\n' ∉ s.toList

instance (s : String) : Decidable (OneLine s) := inferInstanceAs (Decidable (_ ∉ _))

/-- There is no line feed in an identifier, a label or a tag. The characters of a literal may have
some. -/
def Term.OneLine : Term → Prop
  | .iri i => GraphAlgebra.OneLine i.text
  | .blank label => GraphAlgebra.OneLine label
  | .literal l =>
      (∀ tag, l.language = some tag → GraphAlgebra.OneLine tag) ∧
        ∀ dt, l.datatype = some dt → GraphAlgebra.OneLine dt.text

theorem OneLine.append {s t : String} (hs : OneLine s) (ht : OneLine t) : OneLine (s ++ t) := by
  rw [OneLine, String.toList_append, List.mem_append]
  exact not_or.2 ⟨hs, ht⟩

theorem OneLine.intercalate {separator : String} {ss : List String} (hsep : OneLine separator)
    (h : ∀ s ∈ ss, OneLine s) : OneLine (separator.intercalate ss) := by
  induction ss with
  | nil => exact List.not_mem_nil
  | cons s ss ih =>
      obtain ⟨hs, hss⟩ := List.forall_mem_cons.1 h
      cases ss with
      | nil => rwa [String.intercalate_singleton]
      | cons t ss =>
          rw [String.intercalate_cons_cons]
          exact (hs.append hsep).append (ih hss)

theorem newline_not_mem_escapeText (cs : List Char) : '\n' ∉ escapeText cs := by
  intro hmem
  obtain ⟨c, -, hc⟩ := List.mem_flatMap.1 hmem
  rcases escapeChar_cases c with ⟨h, -, -, hfeed⟩ | ⟨e, h, he⟩
  · rw [h, List.mem_singleton] at hc
    exact hfeed hc.symm
  · have hletter : e ≠ '\n' := by
      rintro rfl
      simp at he
    rw [h] at hc
    simp [hletter.symm] at hc

theorem oneLine_quoted (s : String) : OneLine (quoted s) := by
  rw [OneLine, toList_quoted]
  simp [newline_not_mem_escapeText]

theorem OneLine.iri {i : Iri} (h : OneLine i.text) : OneLine i.written :=
  (OneLine.append (s := "<") (by decide) h).append (by decide)

theorem Term.OneLine.written {t : Term} (h : t.OneLine) : GraphAlgebra.OneLine t.written := by
  cases t with
  | iri i => exact OneLine.iri h
  | blank label => exact OneLine.append (s := "_:") (by decide) h
  | literal l =>
      obtain ⟨htag, hdt⟩ := h
      refine (oneLine_quoted l.lexical).append ?_
      split
      next tag hl => exact OneLine.append (s := "@") (by decide) (htag tag hl)
      next dt _ hl => exact OneLine.append (s := "^^") (by decide) (OneLine.iri (hdt dt hl))
      next => decide

end GraphAlgebra
