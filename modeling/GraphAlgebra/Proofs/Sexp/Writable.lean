import GraphAlgebra.Proofs.Sexp.Lexeme
import GraphAlgebra.Op.Basic
import GraphAlgebra.Sexp.Node
import Mathlib.Algebra.Group.Nat.Defs
/-!
# Trees whose texts can be read

The conditions on the leaves of expressions and operators under which their texts are read back:
the names of variables, identifiers, labels and language tags consist of the characters that the
notation allows there, and the literals are in the form in which literals are kept. The lexical
form of a literal may be any text.
-/

namespace GraphAlgebra

open Token

/-- The name is not empty and has letters, digits and low lines only. -/
def Var.Writable (v : Var) : Prop := v.name.toList ≠ [] ∧ ∀ c ∈ v.name.toList, isNameChar c = true

instance (v : Var) : Decidable v.Writable :=
  decidable_of_iff (v.name.toList ≠ [] ∧ v.name.toList.all isNameChar = true)
    (and_congr_right fun _ => List.all_eq_true)

theorem Var.ofText_of_writable {name : String} (h : Var.Writable ⟨name⟩) :
    Var.ofText name = ⟨name⟩ := by
  unfold Var.ofText
  split
  next cs hcs => exact absurd (h.2 '?' (by simp [hcs])) (by decide)
  next => rfl

/-- No angle bracket, quotation mark, brace, bar, caret, backquote, backslash, blank or control
character is in the identifier. -/
def Iri.Writable (i : Iri) : Prop := ∀ c ∈ i.text.toList, isIriChar c = true

instance (i : Iri) : Decidable i.Writable :=
  decidable_of_iff (i.text.toList.all isIriChar = true) List.all_eq_true

/-- The label of a blank node is not empty and has letters, digits, low lines and hyphens
only. -/
def IsLabel (s : String) : Prop := s.toList ≠ [] ∧ ∀ c ∈ s.toList, isWordChar c = true

/-- A language tag in lower case: letters, then parts of letters and digits after hyphens. -/
def IsLanguageTag (s : String) : Prop :=
  ∃ primary subtags, s.toList = tagChars primary subtags ∧ primary ≠ [] ∧
    (∀ c ∈ primary, c.isLower = true) ∧
    ∀ t ∈ subtags, t ≠ [] ∧ ∀ c ∈ t, c.isLower = true ∨ c.isDigit = true

/-- The characters of a lower-case tag are those of any tag. -/
theorem IsLanguageTag.lexesTo {tag : String} (h : IsLanguageTag tag) :
    LexesTo Ends ('@' :: tag.toList) (.language tag) := by
  obtain ⟨primary, subtags, htag, hne, hp, hs⟩ := h
  have hlex := lexesTo_language hne (fun c hc => isAlpha_iff.2 (.inr (hp c hc)))
    (fun t ht => ⟨(hs t ht).1, fun c hc =>
      isAlphanum_iff.2 (((hs t ht).2 c hc).imp (fun hl => isAlpha_iff.2 (.inr hl)) id)⟩)
  rw [← htag, String.ofList_toList] at hlex
  exact hlex

theorem IsLanguageTag.lowerAscii_eq {tag : String} (h : IsLanguageTag tag) :
    lowerAscii tag = tag := by
  obtain ⟨primary, subtags, htag, -, hp, hs⟩ := h
  have hsame : ∀ c ∈ tag.toList, c.toLower = c := by
    intro c hc
    rw [htag, tagChars, List.mem_append, List.mem_flatMap] at hc
    rcases hc with hc | ⟨t, ht, hc⟩
    · exact toLower_of_isLower (hp c hc)
    · rcases List.mem_cons.1 hc with rfl | hc
      · decide
      · exact ((hs t ht).2 c hc).elim toLower_of_isLower toLower_of_isDigit
  rw [lowerAscii, List.map_congr_left hsame, List.map_id', String.ofList_toList]

/-- The literal has a datatype that is not the one of strings, or no datatype and possibly a
language. -/
def Literal.Writable (l : Literal) : Prop :=
  (l.language = none ∧ ∀ dt, l.datatype = some dt → dt.Writable ∧ dt ≠ Iri.string) ∨
    (l.datatype = none ∧ ∀ tag, l.language = some tag → IsLanguageTag tag)

def Term.Writable : Term → Prop
  | .iri i => i.Writable
  | .blank label => IsLabel label
  | .literal l => l.Writable

theorem Iri.writable_integer : Iri.integer.Writable := by decide

theorem Iri.writable_decimal : Iri.decimal.Writable := by decide

theorem Iri.writable_double : Iri.double.Writable := by decide

theorem Iri.writable_boolean : Iri.boolean.Writable := by decide

theorem Term.writable_typed (lexical : String) {dt : Iri} (h : dt.Writable) :
    (Term.typed lexical dt).Writable := by
  unfold Term.typed Literal.typed
  split
  next => exact .inl ⟨rfl, by simp [Literal.simple]⟩
  next hne =>
    refine .inl ⟨rfl, fun dt' hdt => ?_⟩
    obtain rfl := Option.some.inj hdt
    exact ⟨h, hne⟩

/-- A letter, then letters, digits, low lines and hyphens; the words for truth values are not
names. -/
def IsWord (s : String) : Prop :=
  (∃ c cs, s.toList = c :: cs ∧ c.isAlpha = true ∧ ∀ d ∈ cs, isWordChar d = true) ∧
    s ≠ "true" ∧ s ≠ "false"

def isWordText : List Char → Bool
  | [] => false
  | c :: cs => c.isAlpha && cs.all isWordChar

theorem isWord_iff {s : String} :
    IsWord s ↔ isWordText s.toList = true ∧ s ≠ "true" ∧ s ≠ "false" := by
  refine and_congr_left fun _ => ?_
  cases s.toList with
  | nil => simp [isWordText]
  | cons c cs =>
      simp only [isWordText, Bool.and_eq_true, List.all_eq_true]
      constructor
      · rintro ⟨c, cs, heq, hc, hcs⟩
        cases heq
        exact ⟨hc, hcs⟩
      · rintro ⟨hc, hcs⟩
        exact ⟨c, cs, rfl, hc, hcs⟩

instance (s : String) : Decidable (IsWord s) := decidable_of_iff _ isWord_iff.symm

def Sexp.Atom.Writable : Sexp.Atom → Prop
  | .var v => v.Writable
  | .term t => t.Writable
  | .word name => IsWord name
  | .symbol _ => True

instance (v : Var) : Decidable (Sexp.Atom.Writable (.var v)) :=
  inferInstanceAs (Decidable v.Writable)

/-! ### Trees over atoms -/

def TermPattern.Over (p : Sexp.Atom → Prop) : TermPattern → Prop
  | .var v => p (.var v)
  | .term t => p (.term t)

namespace Expr

mutual

/-- The variables and terms of the expression satisfy `p`. -/
def Over (p : Sexp.Atom → Prop) : Expr → Prop
  | .var v => p (.var v)
  | .constant t => p (.term t)
  | .bound v => p (.var v)
  | .unary _ e => e.Over p
  | .binary _ l r => l.Over p ∧ r.Over p
  | .choose c y n => c.Over p ∧ y.Over p ∧ n.Over p
  | .call _ args => OverAll p args

def OverAll (p : Sexp.Atom → Prop) : List Expr → Prop
  | [] => True
  | e :: es => e.Over p ∧ OverAll p es

end

theorem overAll_iff {p : Sexp.Atom → Prop} {es : List Expr} :
    OverAll p es ↔ ∀ e ∈ es, e.Over p := by
  induction es with
  | nil => simp [OverAll]
  | cons e es ih => simp [OverAll, ih]

abbrev Writable (e : Expr) : Prop := e.Over Sexp.Atom.Writable

end Expr

def Aggregator.Over (p : Sexp.Atom → Prop) : Aggregator → Prop
  | .countRows _ => True
  | .values _ e _ => e.Over p
  | .custom i args => p (.term (.iri i)) ∧ ∀ e ∈ args, e.Over p

def TriplePattern.Over (p : Sexp.Atom → Prop) (t : TriplePattern) : Prop :=
  t.subject.Over p ∧ t.predicate.Over p ∧ t.object.Over p

/-- The heading of the table has every variable of its rows, and its variables and terms satisfy
`p`. -/
def Table.Over (p : Sexp.Atom → Prop) (t : Table) : Prop :=
  t.Covers ∧ (∀ v ∈ t.vars, p (.var v)) ∧ ∀ row ∈ t.rows, ∀ e ∈ row.toList, p (.term e.2)

def PlaceArg.Over (p : Sexp.Atom → Prop) : PlaceArg → Prop
  | .place t => t.Over p
  | .list ts => ∀ t ∈ ts, t.Over p

def ProcedureArgs.Over (p : Sexp.Atom → Prop) : ProcedureArgs → Prop
  | .positional es => ∀ e ∈ es, e.Over p
  | .subjectObject s o => s.Over p ∧ o.Over p

namespace Op

/-- Whether every operator of a tree satisfies `p`, the operands of services and extensions
included. -/
def Each (p : Op → Prop) : Op → Prop
  | .join l r => p (.join l r) ∧ l.Each p ∧ r.Each p
  | .sequence l r => p (.sequence l r) ∧ l.Each p ∧ r.Each p
  | .leftJoin l r es => p (.leftJoin l r es) ∧ l.Each p ∧ r.Each p
  | .diff l r => p (.diff l r) ∧ l.Each p ∧ r.Each p
  | .union l r => p (.union l r) ∧ l.Each p ∧ r.Each p
  | .procedure sub name args => p (.procedure sub name args) ∧ sub.Each p
  | .filter es sub => p (.filter es sub) ∧ sub.Each p
  | .graph g sub => p (.graph g sub) ∧ sub.Each p
  | .service endpoint sub silent => p (.service endpoint sub silent) ∧ sub.Each p
  | .extension name sub => p (.extension name sub) ∧ sub.Each p
  | .list sub => p (.list sub) ∧ sub.Each p
  | .order sub cs => p (.order sub cs) ∧ sub.Each p
  | .project sub vs => p (.project sub vs) ∧ sub.Each p
  | .distinct sub => p (.distinct sub) ∧ sub.Each p
  | .reduced sub => p (.reduced sub) ∧ sub.Each p
  | .slice sub start length => p (.slice sub start length) ∧ sub.Each p
  | .assign sub as => p (.assign sub as) ∧ sub.Each p
  | .group sub keys as => p (.group sub keys as) ∧ sub.Each p
  | .bgp ps => p (.bgp ps)
  | .quads g ps => p (.quads g ps)
  | .datasetNames g => p (.datasetNames g)
  | .table t => p (.table t)
  | .null => p .null

def Over (p : Sexp.Atom → Prop) : Op → Prop
  | .bgp ts => ∀ t ∈ ts, t.Over p
  | .quads g ts => g.Over p ∧ ∀ t ∈ ts, t.Over p
  | .procedure _ name args => p (.term (.iri name)) ∧ args.Over p
  | .leftJoin _ _ es => ∀ e ∈ es, e.Over p
  | .filter es _ => ∀ e ∈ es, e.Over p
  | .graph g _ => g.Over p
  | .service endpoint _ _ => p (.term endpoint)
  | .datasetNames g => g.Over p
  | .table t => t.Over p
  | .order _ cs => ∀ c ∈ cs, c.expr.Over p
  | .project _ vs => ∀ v ∈ vs, p (.var v)
  | .assign _ as => ∀ a ∈ as, p (.var a.1) ∧ a.2.Over p
  | .group _ keys as =>
      (∀ k ∈ keys, p (.var k.1) ∧ ∀ e ∈ k.2, e.Over p) ∧ ∀ a ∈ as, p (.var a.1) ∧ a.2.Over p
  | .join .. | .sequence .. | .diff .. | .union .. | .extension .. | .null | .list _
  | .distinct _ | .reduced _ | .slice .. => True

/-- The bounds of a slice are integers of the value space. -/
def BoundsFit : Op → Prop
  | .slice _ start length => (∀ n ∈ start, n < 2 ^ 63) ∧ ∀ n ∈ length, n < 2 ^ 63
  | _ => True

def NameSatisfies (p : String → Prop) : Op → Prop
  | .extension name _ => p name
  | _ => True

/-- The text of every operator of the tree can be read, where extensions have the names that `p`
allows. -/
def WritableWith (p : String → Prop) (op : Op) : Prop :=
  op.Each fun o => o.Over Sexp.Atom.Writable ∧ o.BoundsFit ∧ o.NameSatisfies p

/-- The text of the tree can be read if its brackets are not too deep. Extensions are named by
words. -/
def Writable (op : Op) : Prop := op.WritableWith IsWord

theorem Each.mono {p q : Op → Prop} (hpq : ∀ o, p o → q o) {op : Op} (h : op.Each p) :
    op.Each q := by
  induction op with
  | join l r ihl ihr => exact ⟨hpq _ h.1, ihl h.2.1, ihr h.2.2⟩
  | sequence l r ihl ihr => exact ⟨hpq _ h.1, ihl h.2.1, ihr h.2.2⟩
  | leftJoin l r es ihl ihr => exact ⟨hpq _ h.1, ihl h.2.1, ihr h.2.2⟩
  | diff l r ihl ihr => exact ⟨hpq _ h.1, ihl h.2.1, ihr h.2.2⟩
  | union l r ihl ihr => exact ⟨hpq _ h.1, ihl h.2.1, ihr h.2.2⟩
  | bgp | quads | datasetNames | table | null => exact hpq _ h
  | procedure _ _ _ ih | filter _ _ ih | graph _ _ ih | service _ _ _ ih | extension _ _ ih
  | list _ ih | order _ _ ih | project _ _ ih | distinct _ ih | reduced _ ih | slice _ _ _ ih
  | assign _ _ ih | group _ _ _ ih => exact ⟨hpq _ h.1, ih h.2⟩

end Op

end GraphAlgebra
