import GraphAlgebra.Proofs.Text.Ascii
import GraphAlgebra.Rdf.Value
/-!
# Literals in normal form

A literal is made without the datatype of strings and with its tag in lower case. So there is one
literal for one meaning: two literals in normal form are equal as soon as they have the same
characters, the same tag up to case and the same datatype, whether they have it written or not
(`Literal.Normal.ext`).
-/

namespace GraphAlgebra

namespace Literal

theorem normal_simple (lexical : String) : (simple lexical).Normal :=
  ⟨.inl rfl, nofun, nofun⟩

theorem normal_tagged (lexical tag : String) : (tagged lexical tag).Normal := by
  refine ⟨.inr rfl, ?_, nofun⟩
  rintro _ ⟨⟩
  exact lowerAscii_lowerAscii tag

theorem normal_typed (lexical : String) (datatype : Iri) : (typed lexical datatype).Normal := by
  unfold typed
  split
  · exact normal_simple lexical
  next h => exact ⟨.inl rfl, nofun, fun heq => h (Option.some.inj heq)⟩

theorem Normal.recase {l : Literal} (h : l.Normal) (lexical : String) :
    (Literal.mk lexical l.language none).Normal :=
  ⟨.inr rfl, h.2.1, nofun⟩

theorem Normal.isUpper_eq_false {l : Literal} (h : l.Normal) {tag : String}
    (htag : l.language = some tag) : ∀ c ∈ tag.toList, c.isUpper = false := by
  rw [← h.2.1 tag htag]
  exact fun c => isUpper_of_mem_lowerAscii

theorem Normal.map_lowerAscii {l : Literal} (h : l.Normal) :
    l.language.map lowerAscii = l.language := by
  cases hl : l.language with
  | none => rfl
  | some tag => rw [Option.map_some, h.2.1 tag hl]

/-- Literals in normal form do not differ in how a tag or the datatype of strings is written. -/
theorem Normal.ext {l m : Literal} (hl : l.Normal) (hm : m.Normal)
    (hlexical : l.lexical = m.lexical)
    (hlanguage : l.language.map lowerAscii = m.language.map lowerAscii)
    (hdatatype : l.datatypeIri = m.datatypeIri) : l = m := by
  rw [hl.map_lowerAscii, hm.map_lowerAscii] at hlanguage
  obtain ⟨text, tag, dt⟩ := l
  obtain ⟨text', tag', dt'⟩ := m
  obtain rfl : text = text' := hlexical
  obtain rfl : tag = tag' := hlanguage
  obtain ⟨hone, -, hstring⟩ := hl
  obtain ⟨hone', -, hstring'⟩ := hm
  -- A datatype that only one of them has would be that of strings, or go with a tag.
  cases dt <;> cases dt' <;> cases tag <;> simp_all [datatypeIri]

end Literal

namespace Term

def Normal : Term → Prop
  | .literal l => l.Normal
  | _ => True

theorem normal_string (s : String) : (string s).Normal := Literal.normal_simple s

theorem normal_typed (lexical : String) (datatype : Iri) : (typed lexical datatype).Normal :=
  Literal.normal_typed lexical datatype

theorem normal_boolean (b : Bool) : (boolean b).Normal := normal_typed _ _

theorem normal_integer (n : Int) : (integer n).Normal := normal_typed _ _

end Term

theorem Numeric.normal_toTerm (n : Numeric) : n.toTerm.Normal := by
  cases n <;> exact Term.normal_typed _ _

end GraphAlgebra
