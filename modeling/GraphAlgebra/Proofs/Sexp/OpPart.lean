import GraphAlgebra.Proofs.Sexp.ExprForm
import GraphAlgebra.Proofs.Sexp.TableForm
/-!
# The written forms of the parts of operators

Templates, arguments of procedures, bounds of slices, conditions, assignments and grouping keys
have forms with their texts. The forms can be read where their leaves can, and each is read as
the part that it is the form of.
-/

namespace GraphAlgebra

open Sexp

def TermPattern.sexp : TermPattern → Form
  | .var v => .leaf (.var v)
  | .term t => .leaf (.short t)

def TriplePattern.sexps (p : TriplePattern) : List Form :=
  [p.subject.sexp, p.predicate.sexp, p.object.sexp]

def PlaceArg.sexp : PlaceArg → Form
  | .place p => p.sexp
  | .list ps => .list (ps.map TermPattern.sexp)

def boundForm : Option Nat → Form
  | some n => .leaf (.short (.integer n))
  | none => .leaf (.symbol .underscore)

def exprListForm : List Expr → Form
  | [e] => e.sexp
  | es => .list (.word "exprlist" :: Expr.sexps es)

def Direction.word : Direction → String
  | .ascending => "asc"
  | .descending => "desc"

def SortCondition.sexp (c : SortCondition) : Form := .list [.word c.direction.word, c.expr.sexp]

def assignmentForm (a : Var × Expr) : Form := .list [.leaf (.var a.1), a.2.sexp]

def keyForm : Var × Option Expr → Form
  | (v, none) => .leaf (.var v)
  | (v, some e) => assignmentForm (v, e)

def aggregateForm (a : Var × Aggregator) : Form := .list [.leaf (.var a.1), a.2.sexp]

theorem TermPattern.prints (p : TermPattern) : Prints p.short p.sexp := by cases p <;> rfl

theorem TriplePattern.prints {front : String} {fs : List Form} (p : TriplePattern)
    (h : front.toList = Form.tailChars fs) (name : String) :
    Prints ("(" ++ name ++ front ++ p.places ++ ")")
      (.list (.word name :: (fs ++ p.sexps))) := by
  have hplaces : p.places.toList = Form.tailChars p.sexps :=
    Prints.toList_spaced (.cons p.subject.prints (.cons p.predicate.prints
      (.cons p.object.prints .nil)))
  simp [Prints, Form.chars, Form.tailChars_append, Leaf.text, Bracket.chars, h, hplaces]

theorem PlaceArg.prints (a : PlaceArg) : Prints a.text a.sexp := by
  cases a with
  | place p => exact p.prints
  | list ps => exact Prints.parenthesized (Prints.map fun p _ => p.prints)

theorem short_integer {n : Nat} (h : n < 2 ^ 63) :
    (Term.integer n).short = String.ofList (naturalText n) := by
  have htext : naturalText n = integerText n := rfl
  obtain ⟨b, hb⟩ : ∃ b : BoundedInt, b.val = n :=
    ⟨⟨n, by simp only [minInteger]; omega, by simp only [maxInteger]; omega⟩, rfl⟩
  have hshort : isIntegerText (integerText n) = true := isIntegerText_iff.2 ⟨b, by rw [hb]⟩
  rw [Term.integer_eq, Term.short, if_pos, htext]
  rw [Literal.hasShortForm]
  simp [hshort]

theorem prints_boundForm {b : Option Nat} (h : ∀ n ∈ b, n < 2 ^ 63) :
    Prints (boundText b) (boundForm b) := by
  cases b with
  | none => rfl
  | some n => simp [Prints, boundText, boundForm, Form.chars, Leaf.text, short_integer (h n rfl)]

theorem prints_exprListForm (es : List Expr) : Prints (exprListText es) (exprListForm es) := by
  have hlist : ∀ es, Prints ("(exprlist" ++ Expr.textAll es ++ ")")
      (.list (.word "exprlist" :: Expr.sexps es)) := fun es => by
    simp [Prints, Form.chars, Leaf.text, Bracket.chars, Expr.toList_textAll]
  match es with
  | [] => exact hlist []
  | [e] => exact e.prints
  | e :: e' :: es => exact hlist (e :: e' :: es)

theorem SortCondition.prints (c : SortCondition) : Prints c.text c.sexp := by
  obtain ⟨e, d⟩ := c
  have he : e.text.toList = e.sexp.chars := e.prints
  cases d <;>
    simp [Prints, text, sexp, Direction.word, Form.chars, Form.tailChars, Leaf.text,
      Bracket.chars, he]

theorem prints_assignmentForm (a : Var × Expr) : Prints (assignmentText a) (assignmentForm a) := by
  have he : a.2.text.toList = a.2.sexp.chars := a.2.prints
  simp [Prints, assignmentText, assignmentForm, Form.chars, Form.tailChars, Leaf.text,
    Bracket.chars, he]

theorem prints_keyForm (k : Var × Option Expr) : Prints (keyText k) (keyForm k) := by
  obtain ⟨v, _ | e⟩ := k
  · rfl
  · exact prints_assignmentForm (v, e)

theorem prints_aggregateForm (a : Var × Aggregator) :
    Prints (aggregateText a) (aggregateForm a) := by
  have ha : a.2.text.toList = a.2.sexp.chars := a.2.prints
  simp [Prints, aggregateText, aggregateForm, Form.chars, Form.tailChars, Leaf.text,
    Bracket.chars, ha]

theorem TermPattern.isPart_sexp {p : TermPattern} (h : p.Over Atom.Writable) : p.sexp.IsPart := by
  cases p with
  | var v => exact Form.isPart_var h
  | term t => exact Form.isPart_short h

theorem TriplePattern.isPart_of_mem_sexps {p : TriplePattern} (h : p.Over Atom.Writable) :
    ∀ f ∈ p.sexps, f.IsPart := by
  simp only [sexps, List.forall_mem_cons]
  exact ⟨TermPattern.isPart_sexp h.1, TermPattern.isPart_sexp h.2.1,
    TermPattern.isPart_sexp h.2.2, by simp⟩

theorem PlaceArg.isPart_sexp {a : PlaceArg} (h : a.Over Atom.Writable) : a.sexp.IsPart := by
  cases a with
  | place p => exact TermPattern.isPart_sexp h
  | list ps =>
      exact Form.isPart_list_map fun p hp => TermPattern.isPart_sexp (h p hp)

theorem writable_boundForm (b : Option Nat) : (boundForm b).Writable := by
  cases b with
  | none => exact trivial
  | some n =>
      have hwritable : (Term.integer n).Writable := Term.writable_typed _ Iri.writable_integer
      exact hwritable

theorem isPart_exprListForm {es : List Expr} (h : ∀ e ∈ es, e.Writable) :
    (exprListForm es).IsPart := by
  have hlist : (Form.list (.word "exprlist" :: Expr.sexps es)).IsPart :=
    Form.isPart_named (by decide) (Expr.isPart_sexps (Expr.overAll_iff.2 h))
  match es with
  | [] => exact hlist
  | [e] => exact Expr.isPart_sexp (h e (by simp))
  | e :: e' :: es => exact hlist

theorem SortCondition.isPart_sexp {c : SortCondition} (h : c.expr.Writable) : c.sexp.IsPart := by
  have hword : IsWord c.direction.word := by cases c.direction <;> decide
  exact Form.isPart_named hword (by simpa using Expr.isPart_sexp h)

theorem isPart_assignmentForm {a : Var × Expr} (h : a.1.Writable ∧ a.2.Writable) :
    (assignmentForm a).IsPart := by
  exact Form.isPart_list (by simp [Form.isPart_var h.1, Expr.isPart_sexp h.2])

theorem isPart_keyForm {k : Var × Option Expr} (h : k.1.Writable ∧ ∀ e ∈ k.2, e.Writable) :
    (keyForm k).IsPart := by
  obtain ⟨v, _ | e⟩ := k
  · exact Form.isPart_var h.1
  · exact isPart_assignmentForm ⟨h.1, h.2 e rfl⟩

theorem isPart_aggregateForm {a : Var × Aggregator} (h : a.1.Writable ∧ a.2.Over Atom.Writable) :
    (aggregateForm a).IsPart := by
  exact Form.isPart_list (by simp [Form.isPart_var h.1, Aggregator.isPart_sexp h.2])

/-! ### Reading -/

namespace Sexp

theorem readIri_of_matches {i : Iri} {n : Node} (h : n.Matches (.leaf (.full (.iri i)))) :
    readIri n = .ok i := by
  obtain ⟨_, rfl⟩ := Node.matches_leaf_iff.1 h
  rfl

theorem readPlace_of_matches {p : TermPattern} {n : Node} (h : n.Matches p.sexp) :
    readPlace n = .ok p := by
  cases p with
  | var v | term t =>
      obtain ⟨_, rfl⟩ := Node.matches_leaf_iff.1 h
      rfl

theorem readPlaces_of_matches {t : TriplePattern} {ns : List Node}
    (h : List.Forall₂ Node.Matches ns t.sexps) :
    ∃ s p o, ns = [s, p, o] ∧ readPlaces s p o = .ok t := by
  obtain _ | ⟨hs, _ | ⟨hp, _ | ⟨ho, _ | _⟩⟩⟩ := h
  refine ⟨_, _, _, rfl, ?_⟩
  simp [readPlaces, readPlace_of_matches hs, readPlace_of_matches hp, readPlace_of_matches ho,
    bind, Except.bind]

theorem readPlaceArg_of_matches {a : PlaceArg} {n : Node} (h : n.Matches a.sexp) :
    readPlaceArg n = .ok a := by
  cases a with
  | place p =>
      have hp : readPlace n = .ok p := readPlace_of_matches h
      cases p with
      | var v | term t =>
          obtain ⟨_, rfl⟩ := Node.matches_leaf_iff.1 h
          simp [readPlaceArg, hp]
  | list ps =>
      obtain ⟨_, pos, rfl, hps⟩ := Node.matches_list_iff.1 h
      have hps := mapM_eq_ok_of_matches (fun _ _ _ => readPlace_of_matches) hps
      simp [readPlaceArg, hps]

theorem readTriple_of_matches {t : TriplePattern} {n : Node}
    (h : n.Matches (.list (.word "triple" :: t.sexps))) : readTriple n = .ok t := by
  obtain ⟨_, pos, rfl, _ | ⟨hhead, hplaces⟩⟩ := Node.matches_list_iff.1 h
  obtain ⟨s, p, o, rfl, hread⟩ := readPlaces_of_matches hplaces
  have hword : lowerAscii "triple" = "triple" := by decide
  simp [readTriple, Node.items, isWord_of_matches hhead, hword, hread, bind, Except.bind]

/-- A form with a graph is read where no other graph came before it. -/
theorem readQuad_of_matches {graph : Option TermPattern} {g : TermPattern} {t : TriplePattern}
    {n : Node} (h : n.Matches (.list (.word "quad" :: g.sexp :: t.sexps)))
    (hgraph : ∀ g' ∈ graph, g' = g) : readQuad graph n = .ok (g, t) := by
  obtain ⟨_, pos, rfl, _ | ⟨hhead, _ | ⟨hg, hplaces⟩⟩⟩ := Node.matches_list_iff.1 h
  obtain ⟨s, p, o, rfl, hread⟩ := readPlaces_of_matches hplaces
  have hword : lowerAscii "quad" = "quad" := by decide
  have hsame : graph.any (· != g) = false := by
    cases graph with
    | none => rfl
    | some g' => simp [hgraph g' rfl]
  simp [readQuad, Node.items, isWord_of_matches hhead, hword, readPlace_of_matches hg, hsame,
    hread, bind, Except.bind]

theorem readQuads_of_matches {g : TermPattern} {ps : BasicPattern} {ns : List Node}
    (h : List.Forall₂ Node.Matches ns
      (ps.map fun p => .list (.word "quad" :: g.sexp :: p.sexps))) :
    readQuads (some g) ns = .ok (some g, ps) := by
  induction ps generalizing ns with
  | nil =>
      obtain _ | _ := h
      rfl
  | cons p ps ih =>
      obtain _ | ⟨hn, hns⟩ := h
      simp [readQuads, readQuad_of_matches hn, ih hns, bind, Except.bind]

theorem readQuads_none_of_matches {g : TermPattern} {p : TriplePattern} {ps : BasicPattern}
    {ns : List Node} (h : List.Forall₂ Node.Matches ns
      ((p :: ps).map fun p => .list (.word "quad" :: g.sexp :: p.sexps))) :
    readQuads none ns = .ok (some g, p :: ps) := by
  obtain _ | ⟨hn, hns⟩ := h
  simp [readQuads, readQuad_of_matches hn, readQuads_of_matches hns, bind, Except.bind]

theorem readQuadPattern_of_matches_graph {g : TermPattern} {n : Node} (h : n.Matches g.sexp)
    (pos : Nat) : readQuadPattern [n] pos = .ok (.quads g []) := by
  have hg := readPlace_of_matches h
  cases g with
  | var v | term t =>
      obtain ⟨_, rfl⟩ := Node.matches_leaf_iff.1 h
      simp [readQuadPattern, hg, bind, Except.bind]

theorem readQuadPattern_of_matches {g : TermPattern} {p : TriplePattern} {ps : BasicPattern}
    {ns : List Node} (h : List.Forall₂ Node.Matches ns
      ((p :: ps).map fun p => .list (.word "quad" :: g.sexp :: p.sexps))) (pos : Nat) :
    readQuadPattern ns pos = .ok (.quads g (p :: ps)) := by
  have hquads := readQuads_none_of_matches h
  obtain _ | ⟨hn, hns⟩ := h
  obtain ⟨_, _, rfl, -⟩ := Node.matches_list_iff.1 hn
  unfold readQuadPattern
  split
  next => simp [readQuadTemplates, hquads, bind, Except.bind]
  next hne heq => exact absurd (by rw [(List.cons.inj heq).1]) (hne _ _)
  next => simp [readQuadTemplates, hquads, bind, Except.bind]

theorem readBound_of_matches {b : Option Nat} (hb : ∀ n ∈ b, n < 2 ^ 63) {n : Node}
    (h : n.Matches (boundForm b)) : readBound n = .ok b := by
  cases b with
  | none =>
      obtain ⟨_, rfl⟩ := Node.matches_leaf_iff.1 h
      rfl
  | some k =>
      obtain ⟨_, rfl⟩ := Node.matches_leaf_iff.1 h
      have htext : integerText k = naturalText k := rfl
      have hfit : k ≤ maxBound := by
        have hk := hb k rfl
        simp only [maxBound, UInt64.size]
        omega
      have hbound : bound? (naturalText k) = some k := by
        unfold bound?
        split
        next r heq =>
          have hdigit := isDigit_of_mem_naturalText (n := k) (c := '+') (by rw [heq]; simp)
          exact absurd hdigit (by decide)
        next => simp [natural?_naturalText, hfit]
      simp [readBound, Leaf.atom, Term.integer_eq, Literal.datatypeIri, htext, hbound]

theorem readExprList_of_matches {es : List Expr} {n : Node} (h : n.Matches (exprListForm es)) :
    readExprList n = .ok es := by
  have hlist : ∀ es, n.Matches (.list (.word "exprlist" :: Expr.sexps es)) →
      readExprList n = .ok es := fun es hn => by
    obtain ⟨_, pos, rfl, _ | ⟨hhead, hargs⟩⟩ := Node.matches_list_iff.1 hn
    have hword : lowerAscii "exprlist" = "exprlist" := by decide
    simp [readExprList, isWord_of_matches hhead, hword, readExprs_of_matches hargs]
  match es with
  | [] => exact hlist [] h
  | [e] =>
      have he : readExpr n = .ok e := readExpr_of_matches h
      rcases head_of_matches (e := e) h with ⟨a, pos, rfl⟩ | ⟨head, args, pos, rfl, hhead⟩
      · simp [readExprList, he, List.singleton]
      · simp [readExprList, hhead, he, List.singleton]
  | e :: e' :: es => exact hlist (e :: e' :: es) h

theorem readCondition_of_matches {c : SortCondition} {n : Node} (h : n.Matches c.sexp) :
    readCondition n = .ok c := by
  obtain ⟨e, d⟩ := c
  obtain ⟨_, pos, rfl, _ | ⟨hhead, _ | ⟨he, _ | _⟩⟩⟩ := Node.matches_list_iff.1 h
  have hword : lowerAscii "asc" = "asc" ∧ lowerAscii "desc" = "desc" := by decide
  have hread : readExpr _ = .ok e := readExpr_of_matches he
  cases d <;> simp [readCondition, isWord_of_matches hhead, Direction.word, hword, hread]

theorem readAssignment_of_matches {a : Var × Expr} {n : Node} (h : n.Matches (assignmentForm a)) :
    readAssignment n = .ok a := by
  obtain ⟨_, pos, rfl, _ | ⟨hv, _ | ⟨he, _ | _⟩⟩⟩ := Node.matches_list_iff.1 h
  simp [readAssignment, Node.items, readPair, readVar_of_matches hv, readExpr_of_matches he, bind,
    Except.bind]

theorem readKey_of_matches {k : Var × Option Expr} {n : Node} (h : n.Matches (keyForm k)) :
    readKey n = .ok k := by
  obtain ⟨v, _ | e⟩ := k
  · obtain ⟨_, rfl⟩ := Node.matches_leaf_iff.1 h
    rfl
  · have ha : readAssignment n = .ok (v, e) := readAssignment_of_matches h
    obtain ⟨_, _, rfl, -⟩ := Node.matches_list_iff.1 h
    simp [readKey, ha]

theorem readAggregate_of_matches {a : Var × Aggregator} {n : Node}
    (h : n.Matches (aggregateForm a)) : readAggregate n = .ok a := by
  obtain ⟨_, pos, rfl, _ | ⟨hv, _ | ⟨ha, _ | _⟩⟩⟩ := Node.matches_list_iff.1 h
  simp [readAggregate, Node.items, readPair, readVar_of_matches hv, readAggregator_of_matches ha,
    bind, Except.bind]

theorem readEndpoint_of_matches {t : Term} {n : Node} (h : n.Matches (.leaf (.full t))) :
    readEndpoint n = .ok t := by
  obtain ⟨_, rfl⟩ := Node.matches_leaf_iff.1 h
  rfl

end Sexp

end GraphAlgebra
