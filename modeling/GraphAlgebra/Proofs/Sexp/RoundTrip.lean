import GraphAlgebra.Proofs.Sexp.OpForm
/-!
# Reading undoes printing

Main statement: `readText_text`, an operator or an expression whose leaves are writable is read
back from its text wherever the brackets of the text are not too deep. Names of extensions may be
any atoms that describe themselves (`Op.ofText_text_of_isName`); words are the simplest of them.
-/

namespace GraphAlgebra

open Sexp

/-- Some atom that can be read is written and reported as the name. -/
def IsName (name : String) : Prop := ∃ a : Leaf, a.Names name

theorem isName_of_isWord {name : String} (h : IsWord name) : IsName name :=
  ⟨.word name, Leaf.names_word h⟩

open Classical in
noncomputable def leafNamed (name : String) : Leaf :=
  if h : IsName name then h.choose else .word name

theorem names_leafNamed {name : String} (h : IsName name) : (leafNamed name).Names name := by
  rw [leafNamed, dif_pos h]
  exact h.choose_spec

theorem Op.nesting_text {op : Op} (h : op.Writable) :
    nesting op.text = (op.sexp Leaf.word).depth :=
  (Op.prints (fun _ => Leaf.names_word) h).nesting_eq (Op.isPart_sexp (fun _ => Leaf.names_word) h)

theorem Expr.nesting_text {e : Expr} (h : e.Writable) : nesting e.text = e.sexp.depth :=
  e.prints.nesting_eq (Expr.isPart_sexp h)

/-- An operator is read back from its text, where extensions have the names of atoms. -/
theorem Op.ofText_text_of_isName {op : Op} (h : op.WritableWith IsName)
    (hd : nesting op.text ≤ maxNesting) : Op.ofText op.text = .ok op := by
  have hleaf : ∀ name, IsName name → (leafNamed name).Names name := fun _ => names_leafNamed
  obtain ⟨n, hn, hmatches⟩ := (Op.prints hleaf h).ofText?_eq_ok (Op.isPart_sexp hleaf h) hd
  have hread : readOp n = .ok op := readOp_of_matches hleaf h hmatches
  rw [Op.ofText, hn]
  exact hread

/-- An expression is read back from its text. -/
theorem Expr.ofText_text {e : Expr} (h : e.Writable) (hd : nesting e.text ≤ maxNesting) :
    Expr.ofText e.text = .ok e := by
  obtain ⟨n, hn, hmatches⟩ := e.prints.ofText?_eq_ok (Expr.isPart_sexp h) hd
  have hread : readExpr n = .ok e := readExpr_of_matches hmatches
  rw [Expr.ofText, hn]
  exact hread

theorem Op.WritableWith.mono {p q : String → Prop} (hpq : ∀ name, p name → q name) {op : Op}
    (h : op.WritableWith p) : op.WritableWith q := by
  refine Op.Each.mono (fun o ho => ⟨ho.1, ho.2.1, ?_⟩) h
  cases o with
  | extension name sub => exact hpq name ho.2.2
  | _ => trivial

/-- Reading undoes printing, for operators and for expressions. -/
theorem readText_text :
    (∀ op : Op, op.Writable → nesting op.text ≤ maxNesting → Op.ofText op.text = .ok op) ∧
      ∀ e : Expr, e.Writable → nesting e.text ≤ maxNesting → Expr.ofText e.text = .ok e :=
  ⟨fun _ h => Op.ofText_text_of_isName (h.mono fun _ => isName_of_isWord),
    fun _ h => Expr.ofText_text h⟩

/-- A slice of a filtered extension, and an expression with a string that has to be escaped. -/
theorem readText_text_slice :
    (let op : Op := .slice
      (.filter [.bound ⟨"x"⟩] (.extension "trace" (.graph (.var ⟨"g"⟩) .null))) (some 2) none
    Op.ofText op.text = .ok op) ∧
      (let e : Expr := .binary (.compare .lt) (.var ⟨"x_1"⟩)
        (.call .str [.constant (.literal ⟨"a \"b\"\n", some "en-gb", none⟩)])
      Expr.ofText e.text = .ok e) := by
  constructor
  · have hx : Atom.Writable (.var ⟨"x"⟩) := by decide
    have hg : Atom.Writable (.var ⟨"g"⟩) := by decide
    have hop : Op.Writable (.slice
        (.filter [.bound ⟨"x"⟩] (.extension "trace" (.graph (.var ⟨"g"⟩) .null))) (some 2)
        none) := by
      have htrace : IsWord "trace" := by decide
      simp [Op.Writable, Op.WritableWith, Op.Each, Op.Over, Op.BoundsFit,
        Op.NameSatisfies, Expr.Over, TermPattern.Over, hx, hg, htrace]
    refine readText_text.1 _ hop ?_
    rw [Op.nesting_text hop]
    decide
  · have hx : Atom.Writable (.var ⟨"x_1"⟩) := by decide
    have htag : IsLanguageTag "en-gb" :=
      ⟨['e', 'n'], [['g', 'b']], by decide, by simp, by simp [isLower_iff], by simp [isLower_iff]⟩
    have he : Expr.Writable (.binary (.compare .lt) (.var ⟨"x_1"⟩)
        (.call .str [.constant (.literal ⟨"a \"b\"\n", some "en-gb", none⟩)])) := by
      have hliteral : Atom.Writable (.term (.literal ⟨"a \"b\"\n", some "en-gb", none⟩)) := by
        simp [Atom.Writable, Term.Writable, Literal.Writable, htag]
      simp [Expr.Over, Expr.OverAll, hx, hliteral]
    refine readText_text.2 _ he ?_
    rw [Expr.nesting_text he]
    decide

end GraphAlgebra
