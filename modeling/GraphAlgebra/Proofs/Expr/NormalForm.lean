import GraphAlgebra.Expr.Aggregate
import GraphAlgebra.Proofs.Except
import GraphAlgebra.Proofs.Rdf.NormalForm
import GraphAlgebra.Proofs.Sexp.Writable
import GraphAlgebra.Proofs.Solution.Terms
/-!
# Values in normal form

The value of an expression is a term of the solution or of the expression itself, or it is made for
the occasion, with a datatype or as a string. So it is in normal form if the terms of the solution
and of the expression are (`Expr.eval_normal`), and so are the aggregates of such values
(`Aggregator.apply_normal`).
-/

namespace GraphAlgebra

def Sexp.Atom.Normal : Sexp.Atom → Prop
  | .term t => t.Normal
  | _ => True

open Sexp (Atom)

/-! ### Functions -/

theorem textOf_normal {t : Term} (ht : t.Normal) :
    YieldsOnly Literal.Normal (textOf t) := by
  unfold textOf
  split
  · split
    · exact .ok ht
    · exact .error _
  · exact .error _

theorem plainText_normal (t : Term) : YieldsOnly Term.Normal (plainText t) := by
  cases t with
  | iri i => exact .ok (Term.normal_string _)
  | blank label => exact .error _
  | literal l => exact .ok (Term.normal_string _)

theorem recase_normal (change : List Char → List Char) {t : Term} (ht : t.Normal) :
    YieldsOnly Term.Normal (recase change t) :=
  (textOf_normal ht).bind fun _ hl => .ok (hl.recase _)

theorem compareTexts_normal (holds : List Char → List Char → Bool) (s t : Term) :
    YieldsOnly Term.Normal (compareTexts holds s t) :=
  .of_bind fun _ => .of_bind fun _ => .ok (Term.normal_boolean _)

namespace Function

theorem applyOne_normal (f : Function) {t : Term} (ht : t.Normal) :
    YieldsOnly Term.Normal (f.applyOne t) := by
  cases f <;> simp only [applyOne]
  case str => exact plainText_normal t
  case upperCase => exact recase_normal upperText ht
  case lowerCase => exact recase_normal lowerText ht
  case strLen => exact .of_bind fun _ => .ok (Term.normal_integer _)
  case lang =>
    cases t
    case literal l => exact .ok (Term.normal_string _)
    all_goals exact .error _
  case datatype =>
    cases t
    case literal l => exact .ok trivial
    all_goals exact .error _
  case isIri | isBlank | isLiteral | isNumeric => exact .ok (Term.normal_boolean _)
  all_goals exact .error _

theorem applyTwo_normal (f : Function) (s t : Term) :
    YieldsOnly Term.Normal (f.applyTwo s t) := by
  cases f <;> simp only [applyTwo]
  case sameTerm => exact .ok (Term.normal_boolean _)
  case contains | strStarts | strEnds => exact compareTexts_normal _ s t
  case regex => exact .of_bind fun _ => .of_bind fun _ => .map Term.normal_boolean _
  all_goals exact .error _

theorem applyThree_normal (f : Function) (s t u : Term) :
    YieldsOnly Term.Normal (f.applyThree s t u) := by
  cases f <;> simp only [applyThree]
  case regex =>
    exact .of_bind fun _ => .of_bind fun _ => .of_bind fun _ => .map Term.normal_boolean _
  all_goals exact .error _

theorem apply_normal (f : Function) {ts : List Term} (hts : ∀ t ∈ ts, t.Normal) :
    YieldsOnly Term.Normal (f.apply ts) := by
  match ts with
  | [] => exact .error _
  | [t] => exact f.applyOne_normal (hts t (List.mem_singleton_self t))
  | [s, t] => exact f.applyTwo_normal s t
  | [s, t, u] => exact f.applyThree_normal s t u
  | s :: t :: u :: v :: ts => exact .error _

end Function

/-! ### Operators and expressions -/

theorem UnaryOp.apply_normal (op : UnaryOp) (v : Except ExprFault Term) :
    YieldsOnly Term.Normal (op.apply v) := by
  cases op with
  | not => exact .of_bind fun _ => .of_bind fun _ => .ok (Term.normal_boolean _)
  | negate =>
      exact .of_bind fun _ => .of_bind fun _ => .of_bind fun n => .ok n.normal_toTerm

theorem BinaryOp.apply_normal (op : BinaryOp) (l r : Except ExprFault Term) :
    YieldsOnly Term.Normal (op.apply l r) := by
  cases op with
  | and | or => exact .map Term.normal_boolean _
  | compare c => exact .of_bind fun _ => .of_bind fun _ => .map Term.normal_boolean _
  | arithmetic a =>
      refine .of_bind fun _ => .of_bind fun _ => .of_bind fun _ => .of_bind fun _ => ?_
      exact .map Numeric.normal_toTerm _

namespace Expr

variable {b : Binding}

mutual

theorem eval_normal (hb : b.Each Term.Normal) :
    ∀ e : Expr, e.Over Atom.Normal → YieldsOnly Term.Normal (e.eval b)
  | .var v, _ => by
      rw [eval]
      split
      next t ht => exact .ok (hb v t ht)
      next => exact .error _
  | .constant t, h => by
      rw [eval]
      exact .ok h
  | .bound v, _ => by
      rw [eval]
      exact .ok (Term.normal_boolean _)
  | .unary op e, _ => by
      rw [eval]
      exact op.apply_normal _
  | .binary op l r, _ => by
      rw [eval]
      exact op.apply_normal _ _
  | .choose c y n, h => by
      rw [eval]
      refine .of_bind fun _ => .of_bind fun yes => ?_
      cases yes with
      | true => exact eval_normal hb y h.2.1
      | false => exact eval_normal hb n h.2.2
  | .call f args, h => by
      rw [eval]
      split
      · exact .error _
      · exact (evalAll_normal hb args h).bind fun _ => f.apply_normal

theorem evalAll_normal (hb : b.Each Term.Normal) :
    ∀ es : List Expr, OverAll Atom.Normal es →
      YieldsOnly (fun ts => ∀ t ∈ ts, t.Normal) (evalAll b es)
  | [], _ => by
      rw [evalAll]
      exact .ok (List.forall_mem_nil _)
  | e :: es, h => by
      rw [evalAll]
      refine (eval_normal hb e h.1).bind fun t ht => ?_
      refine (evalAll_normal hb es h.2).bind fun ts hts => ?_
      exact .ok (List.forall_mem_cons.2 ⟨ht, hts⟩)

end

theorem toOption_eval_normal (hb : b.Each Term.Normal) {e : Expr} (he : e.Over Atom.Normal) :
    ∀ t ∈ (e.eval b).toOption, t.Normal := by
  intro t ht
  cases h : e.eval b with
  | error f =>
      rw [h] at ht
      contradiction
  | ok s =>
      rw [h] at ht
      obtain rfl := Option.some.inj ht
      exact eval_normal hb e he s h

end Expr

/-! ### Aggregates -/

theorem forall_mem_firstOccurrences {α : Type} [BEq α] {q : α → Prop} {xs : List α}
    (h : ∀ x ∈ xs, q x) : ∀ x ∈ firstOccurrences xs, q x := by
  have hfold (seen : List α) (hseen : ∀ x ∈ seen, q x) :
      ∀ x ∈ xs.foldl appendNew seen, q x := by
    induction xs generalizing seen with
    | nil => exact hseen
    | cons x xs ih =>
        obtain ⟨hx, hxs⟩ := List.forall_mem_cons.1 h
        refine ih hxs _ ?_
        rw [appendNew]
        split
        · exact hseen
        · exact List.forall_mem_append.2 ⟨hseen, List.forall_mem_singleton.2 hx⟩
  exact hfold [] (List.forall_mem_nil q)

namespace Aggregator

theorem valuesOf_normal {e : Expr} (he : e.Over Atom.Normal) {rows : List Binding}
    (hrows : ∀ row ∈ rows, row.Each Term.Normal) : ∀ t ∈ valuesOf e rows, t.Normal := by
  intro t ht
  obtain ⟨row, hrow, ht⟩ := List.mem_filterMap.1 ht
  exact Expr.toOption_eval_normal (hrows row hrow) he t ht

theorem foldFirst_normal {f : Term → Term → Term} (hf : ∀ s t, f s t = s ∨ f s t = t)
    {ts : List Term} (hts : ∀ t ∈ ts, t.Normal) : ∀ t ∈ foldFirst f ts, t.Normal := by
  have hfold (s : Term) (hs : s.Normal) (ts : List Term) (hts : ∀ t ∈ ts, t.Normal) :
      (ts.foldl f s).Normal := by
    induction ts generalizing s with
    | nil => exact hs
    | cons t ts ih =>
        obtain ⟨ht, hts⟩ := List.forall_mem_cons.1 hts
        refine ih _ ?_ hts
        rcases hf s t with h | h
        · rwa [h]
        · rwa [h]
  cases ts with
  | nil => exact nofun
  | cons s ts =>
      obtain ⟨hs, hts⟩ := List.forall_mem_cons.1 hts
      rintro _ ⟨⟩
      exact hfold s hs ts hts

theorem mean?_normal (ts : List Term) : ∀ t ∈ mean? ts, t.Normal := by
  intro t ht
  rw [Option.mem_def, mean?] at ht
  split at ht
  · obtain rfl := Option.some.inj ht
    exact Term.normal_integer 0
  · simp only [Option.bind_eq_bind, Option.bind_eq_some_iff] at ht
    obtain ⟨total, -, count, -, mean, -, ht⟩ := ht
    obtain rfl := Option.some.inj ht
    exact mean.normal_toTerm

theorem concat?_normal (separator : String) (ts : List Term) :
    ∀ t ∈ concat? separator ts, t.Normal := by
  intro t ht
  obtain ⟨ls, -, ht⟩ := Option.bind_eq_some_iff.1 ht
  obtain rfl := Option.some.inj ht
  exact Term.normal_string _

theorem summarize_normal (s : Summary) (faulty : Bool) {ts : List Term}
    (hts : ∀ t ∈ ts, t.Normal) : ∀ t ∈ summarize s faulty ts, t.Normal := by
  have hfaulty {o : Option Term} (h : ∀ t ∈ o, t.Normal) :
      ∀ t ∈ (if faulty then none else o), t.Normal := by
    cases faulty with
    | true => exact nofun
    | false => exact h
  cases s with
  | count =>
      rintro _ ⟨⟩
      exact Term.normal_integer _
  | min =>
      refine foldFirst_normal (fun s t => ?_) hts
      unfold lower
      split
      · exact .inr rfl
      · exact .inl rfl
  | max =>
      refine foldFirst_normal (fun s t => ?_) hts
      unfold higher
      split
      · exact .inl rfl
      · exact .inr rfl
  | sample => exact fun t ht => hts t (List.mem_of_head? ht)
  | sum =>
      refine hfaulty fun t ht => ?_
      obtain ⟨n, -, rfl⟩ := Option.map_eq_some_iff.1 ht
      exact n.normal_toTerm
  | avg => exact hfaulty (mean?_normal ts)
  | concat separator => exact hfaulty (concat?_normal _ ts)

theorem apply_normal {a : Aggregator} (ha : a.Over Atom.Normal) {rows : List Binding}
    (hrows : ∀ row ∈ rows, row.Each Term.Normal) :
    YieldsOnly (fun o => ∀ t ∈ o, Term.Normal t) (a.apply rows) := by
  cases a with
  | custom iri args => exact .error iri
  | countRows distinct =>
      refine .ok ?_
      rintro _ ⟨⟩
      exact Term.normal_integer _
  | values s e distinct =>
      have hvalues : ∀ t ∈ valuesOf e rows, t.Normal := valuesOf_normal ha hrows
      refine .ok (summarize_normal s _ ?_)
      cases distinct with
      | true => exact forall_mem_firstOccurrences hvalues
      | false => exact hvalues

end Aggregator

end GraphAlgebra
