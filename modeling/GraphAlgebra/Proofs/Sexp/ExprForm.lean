import GraphAlgebra.Proofs.Sexp.Part
import GraphAlgebra.Sexp.ExprReader
/-!
# The written forms of expressions

The form of an expression has its text (`Expr.prints`), can be read where the leaves of the
expression can (`Expr.isPart_sexp`), and is read as the expression (`readExpr_of_matches`). The
same holds for aggregates.
-/

namespace GraphAlgebra

open Sexp

def UnaryOp.mark : UnaryOp → Symbol
  | .not => .bang
  | .negate => .minus

def BinaryOp.mark : BinaryOp → Symbol
  | .and => .and
  | .or => .or
  | .compare .eq => .equals
  | .compare .ne => .notEquals
  | .compare .lt => .less
  | .compare .le => .lessEquals
  | .compare .gt => .greater
  | .compare .ge => .greaterEquals
  | .arithmetic .add => .plus
  | .arithmetic .sub => .minus
  | .arithmetic .mul => .star
  | .arithmetic .div => .slash

theorem UnaryOp.text_mark (op : UnaryOp) : op.mark.text = op.symbol := by cases op <;> rfl

theorem BinaryOp.text_mark (op : BinaryOp) : op.mark.text = op.symbol := by
  cases op with
  | and => rfl
  | or => rfl
  | compare c => cases c <;> rfl
  | arithmetic a => cases a <;> rfl

theorem UnaryOp.headNamed?_symbol (op : UnaryOp) :
    headNamed? op.mark.text 1 = some (.unary op) := by
  cases op <;> rfl

theorem BinaryOp.headNamed?_symbol (op : BinaryOp) :
    headNamed? op.mark.text 2 = some (.binary op) := by
  cases op with
  | and => rfl
  | or => rfl
  | compare c => cases c <;> rfl
  | arithmetic a => cases a <;> rfl

theorem Function.isWord_name (f : Function) : IsWord f.name := by cases f <;> decide

theorem Function.headNamed?_name (f : Function) (count : Nat) :
    headNamed? f.name count = some (.call f) := by
  have hname : Function.ofName? f.name = some f := by cases f <;> decide
  have hcall : headNamed? f.name count = (Function.ofName? f.name).map .call := by cases f <;> rfl
  rw [hcall, hname, Option.map_some]

namespace Expr

mutual

def sexp : Expr → Form
  | .var v => .leaf (.var v)
  | .constant t => .leaf (.short t)
  | .bound v => .list [.word "bound", .leaf (.var v)]
  | .unary op e => .list [.leaf (.symbol op.mark), e.sexp]
  | .binary op l r => .list [.leaf (.symbol op.mark), l.sexp, r.sexp]
  | .choose c y n => .list [.word "if", c.sexp, y.sexp, n.sexp]
  | .call f args => .list (.word f.name :: sexps args)

def sexps : List Expr → List Form
  | [] => []
  | e :: es => e.sexp :: sexps es

end

theorem sexps_eq (es : List Expr) : sexps es = es.map sexp := by
  induction es with
  | nil => rfl
  | cons e es ih => rw [sexps, ih, List.map_cons]

mutual

theorem prints : ∀ e : Expr, Prints e.text e.sexp
  | .var v => rfl
  | .constant t => rfl
  | .bound v => by
      simp [Prints, text, sexp, Form.chars, Form.tailChars, Leaf.text, Bracket.chars]
  | .unary op e => by
      have he : e.text.toList = e.sexp.chars := prints e
      simp [Prints, text, sexp, Form.chars, Form.tailChars, Leaf.text, Bracket.chars,
        op.text_mark, he]
  | .binary op l r => by
      have hl : l.text.toList = l.sexp.chars := prints l
      have hr : r.text.toList = r.sexp.chars := prints r
      simp [Prints, text, sexp, Form.chars, Form.tailChars, Leaf.text, Bracket.chars,
        op.text_mark, hl, hr]
  | .choose c y n => by
      have hc : c.text.toList = c.sexp.chars := prints c
      have hy : y.text.toList = y.sexp.chars := prints y
      have hn : n.text.toList = n.sexp.chars := prints n
      simp [Prints, text, sexp, Form.chars, Form.tailChars, Leaf.text, Bracket.chars, hc, hy, hn]
  | .call f args => by
      have hargs : (textAll args).toList = Form.tailChars (sexps args) := toList_textAll args
      simp [Prints, text, sexp, Form.chars, Leaf.text, Bracket.chars, hargs]

theorem toList_textAll : ∀ es : List Expr, (textAll es).toList = Form.tailChars (sexps es)
  | [] => rfl
  | e :: es => by
      have he : e.text.toList = e.sexp.chars := prints e
      simp [textAll, sexps, Form.tailChars, he, toList_textAll es]

end

mutual

theorem isPart_sexp : ∀ {e : Expr}, e.Writable → e.sexp.IsPart
  | .var v, h => Form.isPart_var h
  | .constant t, h => Form.isPart_short h
  | .bound v, h => by
      refine Form.isPart_named (by decide) ?_
      simpa using Form.isPart_var h
  | .unary op e, h => by
      have hfront : ∀ f ∈ [Form.leaf (.symbol op.mark)], f.Writable := by
        simp [Form.writable_symbol]
      exact ⟨Form.writableAll_concat hfront (isPart_sexp h), id⟩
  | .binary op l r, h => by
      have hfront : ∀ f ∈ [Form.leaf (.symbol op.mark), l.sexp], f.Writable := by
        simp [Form.writable_symbol, (isPart_sexp h.1).writable]
      exact ⟨Form.writableAll_concat hfront (isPart_sexp h.2), id⟩
  | .choose c y n, h => by
      refine Form.isPart_named (by decide) ?_
      simp [isPart_sexp h.1, isPart_sexp h.2.1, isPart_sexp h.2.2]
  | .call f args, h => Form.isPart_named f.isWord_name (isPart_sexps h)

theorem isPart_sexps : ∀ {es : List Expr}, OverAll Atom.Writable es → ∀ f ∈ sexps es, f.IsPart
  | [], _ => by simp [sexps]
  | e :: es, h => by
      rw [sexps, List.forall_mem_cons]
      exact ⟨isPart_sexp h.1, isPart_sexps h.2⟩

end

end Expr

namespace Sexp

mutual

theorem readExpr_of_matches : ∀ {e : Expr} {n : Node}, n.Matches e.sexp → readExpr n = .ok e
  | .var v, n, h => by
      obtain ⟨pos, rfl⟩ := Node.matches_leaf_iff.1 h
      simp [readExpr, Leaf.atom]
  | .constant t, n, h => by
      obtain ⟨pos, rfl⟩ := Node.matches_leaf_iff.1 h
      simp [readExpr, Leaf.atom]
  | .bound v, n, h => by
      obtain ⟨_, _, pos, rfl, _ | ⟨hv, _ | _⟩⟩ := Node.matches_named_iff.1 h
      obtain ⟨_, rfl⟩ := Node.matches_leaf_iff.1 hv
      have hbound : headNamed? "bound" 1 = some .bound := rfl
      simp [readExpr, Leaf.atom, headName, hbound, readVar, bind, Except.bind]
  | .unary op e, n, h => by
      obtain ⟨_, _, pos, rfl, _ | ⟨he, _ | _⟩⟩ := Node.matches_named_iff.1 h
      have he := readExpr_of_matches he
      simp [readExpr, Leaf.atom, headName, op.headNamed?_symbol, he, bind, Except.bind]
  | .binary op l r, n, h => by
      obtain ⟨_, _, pos, rfl, _ | ⟨hl, _ | ⟨hr, _ | _⟩⟩⟩ := Node.matches_named_iff.1 h
      have hl := readExpr_of_matches hl
      have hr := readExpr_of_matches hr
      simp [readExpr, Leaf.atom, headName, op.headNamed?_symbol, hl, hr, bind, Except.bind]
  | .choose c y e, n, h => by
      obtain ⟨_, _, pos, rfl, _ | ⟨hc, _ | ⟨hy, _ | ⟨he, _ | _⟩⟩⟩⟩ := Node.matches_named_iff.1 h
      have hc := readExpr_of_matches hc
      have hy := readExpr_of_matches hy
      have he := readExpr_of_matches he
      have hif : headNamed? "if" 3 = some .choose := rfl
      simp [readExpr, Leaf.atom, headName, hif, hc, hy, he, bind, Except.bind]
  | .call f args, n, h => by
      obtain ⟨_, _, pos, rfl, hargs⟩ := Node.matches_named_iff.1 h
      have hargs := readExprs_of_matches hargs
      simp [readExpr, Leaf.atom, headName, f.headNamed?_name, hargs, bind, Except.bind]

theorem readExprs_of_matches : ∀ {es : List Expr} {ns : List Node},
    List.Forall₂ Node.Matches ns (Expr.sexps es) → readExprs ns = .ok es
  | [], _, .nil => rfl
  | e :: es, _, .cons h hs => by
      have he := readExpr_of_matches h
      have hes := readExprs_of_matches hs
      simp [readExprs, he, hes, bind, Except.bind]

end

theorem word?_of_matches {e : Expr} {n : Node} (h : n.Matches e.sexp) : n.word? = none := by
  cases e with
  | var v | constant t =>
      obtain ⟨_, rfl⟩ := Node.matches_leaf_iff.1 h
      rfl
  | bound | unary | binary | choose | call =>
      obtain ⟨_, _, rfl, _⟩ := Node.matches_list_iff.1 h
      rfl

theorem isWord_of_word?_eq_none {n : Node} (h : n.word? = none) (name : String) :
    n.isWord name = false := by
  rw [Node.isWord, h]

end Sexp

namespace Sexp

theorem head_of_matches {e : Expr} {n : Node} (h : n.Matches e.sexp) :
    (∃ a pos, n = .atom a pos) ∨
      ∃ head args pos, n = .list (head :: args) pos ∧ head.isWord "exprlist" = false := by
  have hword : ∀ name ∈ ["bound", "if"], lowerAscii name ≠ "exprlist" := by decide
  have hfunction : ∀ f ∈ Function.all, lowerAscii f.name ≠ "exprlist" := by decide
  cases e with
  | var v | constant t =>
      obtain ⟨pos, rfl⟩ := Node.matches_leaf_iff.1 h
      exact .inl ⟨_, pos, rfl⟩
  | unary | binary =>
      obtain ⟨_, _, pos, rfl, hargs⟩ := Node.matches_named_iff.1 h
      exact .inr ⟨_, _, pos, rfl, rfl⟩
  | bound | choose =>
      obtain ⟨_, pos, rfl, _ | ⟨hhead, hargs⟩⟩ := Node.matches_list_iff.1 h
      exact .inr ⟨_, _, pos, rfl, by simp [isWord_of_matches hhead, hword]⟩
  | call f =>
      obtain ⟨_, pos, rfl, _ | ⟨hhead, hargs⟩⟩ := Node.matches_list_iff.1 h
      have hname := hfunction f (by cases f <;> simp [Function.all])
      exact .inr ⟨_, _, pos, rfl, by simp [isWord_of_matches hhead, hname]⟩

end Sexp

/-! ### Aggregates -/

def distinctForms (distinct : Bool) : List Form := if distinct then [.word "distinct"] else []

def Summary.extraForms : Summary → List Form
  | .concat (some sep) => [.leaf (.full (.literal (.simple sep)))]
  | .count | .sum | .min | .max | .avg | .sample | .concat none => []

def Aggregator.sexp : Aggregator → Form
  | .countRows distinct => .list (.word "count" :: distinctForms distinct)
  | .values s e distinct =>
      .list (.word s.name :: (distinctForms distinct ++ e.sexp :: s.extraForms))
  | .custom iri args => .list (.word "agg" :: .leaf (.full (.iri iri)) :: Expr.sexps args)

namespace Sexp.Form

theorem tailChars_append (fs gs : List Form) :
    tailChars (fs ++ gs) = tailChars fs ++ tailChars gs := by
  induction fs with
  | nil => rfl
  | cons f fs ih => simp [tailChars, ih]

end Sexp.Form

theorem toList_distinctText (distinct : Bool) :
    (distinctText distinct).toList = Form.tailChars (distinctForms distinct) := by
  cases distinct <;> rfl

theorem Aggregator.text_values (s : Summary) (e : Expr) (distinct : Bool) :
    ∃ extra, (Aggregator.values s e distinct).text =
        "(" ++ s.name ++ distinctText distinct ++ " " ++ e.text ++ extra ++ ")" ∧
      extra.toList = Form.tailChars s.extraForms := by
  cases s with
  | count | sum | min | max | avg | sample => exact ⟨"", rfl, rfl⟩
  | concat separator =>
      cases separator with
      | none => exact ⟨"", rfl, rfl⟩
      | some sep =>
          refine ⟨" " ++ quoted sep, rfl, ?_⟩
          simp [Summary.extraForms, Form.tailChars, Form.chars, Leaf.text, Term.written,
            Literal.written, Literal.simple]

theorem Aggregator.prints (a : Aggregator) : Prints a.text a.sexp := by
  cases a with
  | countRows distinct =>
      simp [Prints, text, sexp, Form.chars, Leaf.text, Bracket.chars, toList_distinctText]
  | values s e distinct =>
      have he : e.text.toList = e.sexp.chars := e.prints
      obtain ⟨extra, htext, hextra⟩ := text_values s e distinct
      rw [Prints, htext]
      simp [sexp, Form.chars, Form.tailChars_append, Form.tailChars, Leaf.text, Bracket.chars,
        toList_distinctText, he, hextra]
  | custom iri args =>
      have hargs := Expr.toList_textAll args
      simp [Prints, text, sexp, Form.chars, Form.tailChars, Leaf.text, Bracket.chars, hargs,
        Term.written]

theorem isPart_of_mem_distinctForms (distinct : Bool) :
    ∀ f ∈ distinctForms distinct, f.IsPart := by
  have hword : (Form.word "distinct").IsPart := Form.isPart_word (by decide)
  cases distinct with
  | true => simpa [distinctForms] using hword
  | false => simp [distinctForms]

theorem Summary.name_spec (s : Summary) :
    IsWord s.name ∧ lowerAscii s.name = s.name ∧ s.name ≠ "agg" := by
  have hall : ∀ name ∈ ["count", "sum", "min", "max", "avg", "sample", "group_concat"],
      IsWord name ∧ lowerAscii name = name ∧ name ≠ "agg" := by decide
  exact hall _ (by cases s <;> simp [Summary.name])

theorem Aggregator.isPart_sexp {a : Aggregator} (h : a.Over Atom.Writable) : a.sexp.IsPart := by
  cases a with
  | countRows distinct =>
      exact Form.isPart_named (by decide) (isPart_of_mem_distinctForms distinct)
  | values s e distinct =>
      have hextra : ∀ f ∈ s.extraForms, f.IsPart := by
        cases s with
        | count | sum | min | max | avg | sample => simp [Summary.extraForms]
        | concat separator =>
            cases separator with
            | none => simp [Summary.extraForms]
            | some sep =>
                have hterm : (Term.literal (.simple sep)).Writable := .inl ⟨rfl, by simp [Literal.simple]⟩
                simpa [Summary.extraForms] using Form.isPart_full hterm
      refine Form.isPart_named s.name_spec.1 ?_
      rw [List.forall_mem_append, List.forall_mem_cons]
      exact ⟨isPart_of_mem_distinctForms distinct, Expr.isPart_sexp h, hextra⟩
  | custom iri args =>
      refine Form.isPart_named (by decide) ?_
      rw [List.forall_mem_cons]
      refine ⟨Form.isPart_full (t := .iri iri) h.1, ?_⟩
      exact Expr.isPart_sexps (Expr.overAll_iff.2 h.2)

namespace Sexp

theorem takeDistinct_of_matches {distinct : Bool} {fs : List Form} {ns : List Node}
    (h : List.Forall₂ Node.Matches ns (distinctForms distinct ++ fs))
    (hfs : ∀ f ∈ fs.head?, ∀ n : Node, n.Matches f → n.word? = none) :
    ∃ rest, takeDistinct ns = (distinct, rest) ∧ List.Forall₂ Node.Matches rest fs := by
  cases distinct with
  | true =>
      obtain _ | ⟨hword, hrest⟩ := h
      obtain ⟨_, rfl⟩ := Node.matches_leaf_iff.1 hword
      have hdistinct : lowerAscii "distinct" = "distinct" := by decide
      exact ⟨_, by simp [takeDistinct, Node.isWord, Node.word?, Leaf.atom, hdistinct], hrest⟩
  | false =>
      refine ⟨ns, ?_, h⟩
      rw [distinctForms, if_neg (by decide), List.nil_append] at h
      cases h with
      | nil => rfl
      | cons hn _ =>
          have hword := hfs _ (by simp) _ hn
          simp [takeDistinct, isWord_of_word?_eq_none hword]

theorem readSummary_of_matches {s : Summary} {e : Expr} {distinct : Bool} {ns : List Node}
    (h : List.Forall₂ Node.Matches ns (distinctForms distinct ++ e.sexp :: s.extraForms))
    (headPos pos : Nat) : readSummary s.name ns headPos pos = .ok (.values s e distinct) := by
  obtain ⟨rest, htake, hrest⟩ := takeDistinct_of_matches h (by
    rintro f hf n hn
    obtain rfl : e.sexp = f := by simpa using hf
    exact word?_of_matches hn)
  obtain _ | ⟨he, hextra⟩ := hrest
  have he := readExpr_of_matches he
  cases s with
  | count | sum | min | max | avg | sample =>
      obtain _ | _ := hextra
      simp [readSummary, htake, he, Summary.name, summaryNamed?, bind, Except.bind]
  | concat separator =>
      cases separator with
      | none =>
          obtain _ | _ := hextra
          simp [readSummary, htake, he, Summary.name, readSeparator, bind, Except.bind]
      | some sep =>
          obtain _ | ⟨hsep, _ | _⟩ := hextra
          obtain ⟨_, rfl⟩ := Node.matches_leaf_iff.1 hsep
          simp [readSummary, htake, he, Summary.name, readSeparator, readTerm, Leaf.atom,
            Literal.simple, bind, Except.bind]

theorem readAggregator_of_matches {a : Aggregator} {n : Node} (h : n.Matches a.sexp) :
    readAggregator n = .ok a := by
  cases a with
  | countRows distinct =>
      obtain ⟨_, _, pos, rfl, hargs⟩ := Node.matches_named_iff.1 h
      rw [← List.append_nil (distinctForms distinct)] at hargs
      obtain ⟨rest, htake, hrest⟩ := takeDistinct_of_matches hargs (by simp)
      obtain _ | _ := hrest
      have hcount : lowerAscii "count" = "count" := by decide
      simp [readAggregator, Node.items, Node.word?, Leaf.atom, hcount, readSummary, htake, bind,
        Except.bind]
  | values s e distinct =>
      obtain ⟨_, _, pos, rfl, hargs⟩ := Node.matches_named_iff.1 h
      obtain ⟨-, hname, hagg⟩ := s.name_spec
      simp [readAggregator, Node.items, Node.word?, Leaf.atom, hname, hagg,
        readSummary_of_matches hargs, bind, Except.bind]
  | custom iri args =>
      obtain ⟨_, _, pos, rfl, _ | ⟨hiri, hargs⟩⟩ := Node.matches_named_iff.1 h
      obtain ⟨_, rfl⟩ := Node.matches_leaf_iff.1 hiri
      have hargs := readExprs_of_matches hargs
      have hagg : lowerAscii "agg" = "agg" := by decide
      simp [readAggregator, Node.items, Node.word?, Leaf.atom, hagg, readIri, hargs, bind,
        Except.bind]

end Sexp

end GraphAlgebra
