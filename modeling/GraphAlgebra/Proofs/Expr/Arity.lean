import GraphAlgebra.Expr.Eval
import GraphAlgebra.Proofs.Except
/-!
# Complaints about the number of arguments

A function looks at the values of its arguments only if their number is within its arity, so the
number that a fault reports is never one that the function takes (`Expr.eval_failsOnly`).
-/

namespace GraphAlgebra

/-- A fault does not complain about a number of arguments that a function takes. -/
def ExprFault.Justified : ExprFault → Prop
  | .arity f given => given < f.arity.1 ∨ f.arity.2 < given
  | _ => True

open ExprFault (Justified)

/-! ### Terms and numbers -/

theorem textOf_failsOnly (t : Term) : FailsOnly Justified (textOf t) := by
  unfold textOf
  split
  · split
    · exact .ok _
    · exact .error trivial
  · exact .error trivial

theorem truthValue_failsOnly (t : Term) : FailsOnly Justified (truthValue t) := by
  unfold truthValue
  split
  · split
    · exact .ok _
    · exact .ok _
    · split
      · exact .ok _
      · exact .error trivial
  · exact .error trivial

theorem numericOf_failsOnly (t : Term) : FailsOnly Justified (numericOf t) := by
  unfold numericOf
  split
  · exact .ok _
  · exact .error trivial

theorem boundedOrOverflow_failsOnly (n : Int) : FailsOnly Justified (boundedOrOverflow n) := by
  unfold boundedOrOverflow
  split
  · exact .ok _
  · exact .error trivial

theorem Numeric.negate_failsOnly (n : Numeric) : FailsOnly Justified n.negate := by
  cases n with
  | integer n => exact boundedOrOverflow_failsOnly _
  | decimal x => exact .ok _
  | double x => exact .ok _

theorem Arithmetic.applyInt_failsOnly (op : Arithmetic) (a b : BoundedInt) :
    FailsOnly Justified (op.applyInt a b) := by
  cases op with
  | add => exact boundedOrOverflow_failsOnly _
  | sub => exact boundedOrOverflow_failsOnly _
  | mul => exact boundedOrOverflow_failsOnly _
  | div =>
      rw [applyInt]
      split
      · exact .error trivial
      · exact .ok _

theorem Arithmetic.apply_failsOnly (op : Arithmetic) (m n : Numeric) :
    FailsOnly Justified (op.apply m n) := by
  unfold apply
  split
  · exact op.applyInt_failsOnly _ _
  · dsimp only
    split
    · exact .ok _
    split
    · exact .error trivial
    · exact .ok _

theorem equalTerms_failsOnly (s t : Term) : FailsOnly Justified (equalTerms s t) := by
  unfold equalTerms
  split
  · exact .ok _
  · exact .error trivial

theorem compareTerms_failsOnly (s t : Term) : FailsOnly Justified (compareTerms s t) := by
  unfold compareTerms
  split
  · exact .ok _
  · exact .error trivial

theorem Comparison.apply_failsOnly (c : Comparison) (s t : Term) :
    FailsOnly Justified (c.apply s t) := by
  cases c with
  | eq => exact equalTerms_failsOnly s t
  | ne => exact (equalTerms_failsOnly s t).map _
  | lt => exact (compareTerms_failsOnly s t).map _
  | le => exact (compareTerms_failsOnly s t).map _
  | gt => exact (compareTerms_failsOnly s t).map _
  | ge => exact (compareTerms_failsOnly s t).map _

/-! ### Functions -/

theorem plainText_failsOnly (t : Term) : FailsOnly Justified (plainText t) := by
  cases t with
  | iri i => exact .ok _
  | blank label => exact .error trivial
  | literal l => exact .ok _

theorem recase_failsOnly (change : List Char → List Char) (t : Term) :
    FailsOnly Justified (recase change t) :=
  (textOf_failsOnly t).bind fun _ => .ok _

theorem compareTexts_failsOnly (holds : List Char → List Char → Bool) (s t : Term) :
    FailsOnly Justified (compareTexts holds s t) :=
  (textOf_failsOnly s).bind fun _ => (textOf_failsOnly t).bind fun _ => .ok _

theorem regexFlags_failsOnly (letters : List Char) : FailsOnly Justified (regexFlags letters) := by
  refine .foldlM (fun f c => ?_) letters ({} : Regex.Flags)
  split
  case h_5 => exact .error trivial
  all_goals exact .ok _

theorem matchRegex_failsOnly (text pattern flags : String) :
    FailsOnly Justified (matchRegex text pattern flags) := by
  refine (regexFlags_failsOnly _).bind fun f => ?_
  split
  · exact .ok _
  · exact .error trivial

namespace Function

theorem one_le_arity (f : Function) : 1 ≤ f.arity.1 := by
  cases f <;> decide

theorem arity_le_three (f : Function) : f.arity.2 ≤ 3 := by
  cases f <;> decide

/-- With one value, a function that takes another number of them complains, and all others have a
reason of their own to fail. -/
theorem applyOne_failsOnly (f : Function) (t : Term) : FailsOnly Justified (f.applyOne t) := by
  cases f <;> simp only [applyOne]
  case str => exact plainText_failsOnly t
  case upperCase => exact recase_failsOnly upperText t
  case lowerCase => exact recase_failsOnly lowerText t
  case strLen => exact (textOf_failsOnly t).bind fun _ => .ok _
  case lang =>
    cases t
    case literal l => exact .ok _
    all_goals exact .error trivial
  case datatype =>
    cases t
    case literal l => exact .ok _
    all_goals exact .error trivial
  case isIri | isBlank | isLiteral | isNumeric => exact .ok _
  all_goals exact .error (.inl (by decide))

theorem applyTwo_failsOnly (f : Function) (s t : Term) :
    FailsOnly Justified (f.applyTwo s t) := by
  cases f <;> simp only [applyTwo]
  case sameTerm => exact .ok _
  case contains => exact compareTexts_failsOnly _ s t
  case strStarts => exact compareTexts_failsOnly _ s t
  case strEnds => exact compareTexts_failsOnly _ s t
  case regex =>
    refine (textOf_failsOnly s).bind fun _ => (textOf_failsOnly t).bind fun _ => ?_
    exact (matchRegex_failsOnly _ _ _).map _
  all_goals exact .error (.inr (by decide))

theorem applyThree_failsOnly (f : Function) (s t u : Term) :
    FailsOnly Justified (f.applyThree s t u) := by
  cases f <;> simp only [applyThree]
  case regex =>
    refine (textOf_failsOnly s).bind fun _ => (textOf_failsOnly t).bind fun _ => ?_
    exact (textOf_failsOnly u).bind fun _ => (matchRegex_failsOnly _ _ _).map _
  all_goals exact .error (.inr (by decide))

theorem apply_failsOnly (f : Function) (ts : List Term) : FailsOnly Justified (f.apply ts) := by
  match ts with
  | [] => exact .error (.inl f.one_le_arity)
  | [t] => exact f.applyOne_failsOnly t
  | [s, t] => exact f.applyTwo_failsOnly s t
  | [s, t, u] => exact f.applyThree_failsOnly s t u
  | s :: t :: u :: v :: ts =>
      refine .error (.inr ?_)
      have hle : f.arity.2 ≤ 3 := f.arity_le_three
      simp only [List.length_cons]
      omega

end Function

/-! ### Operators and expressions -/

theorem decideEither_failsOnly {short : Bool} {l r : Except ExprFault Bool}
    (hl : FailsOnly Justified l) (hr : FailsOnly Justified r) :
    FailsOnly Justified (decideEither short l r) := by
  unfold decideEither
  split
  next => exact .ok _
  next e =>
    split
    · exact .ok _
    · exact .error (hr e rfl)
  next e b =>
    split
    · exact .ok _
    · exact .error (hl e rfl)
  next e _ => exact .error (hl e rfl)

theorem UnaryOp.apply_failsOnly (op : UnaryOp) {v : Except ExprFault Term}
    (hv : FailsOnly Justified v) : FailsOnly Justified (op.apply v) := by
  cases op with
  | not => exact hv.bind fun t => (truthValue_failsOnly t).bind fun _ => .ok _
  | negate =>
      exact hv.bind fun t => (numericOf_failsOnly t).bind fun n => n.negate_failsOnly.bind
        fun _ => .ok _

theorem BinaryOp.apply_failsOnly (op : BinaryOp) {l r : Except ExprFault Term}
    (hl : FailsOnly Justified l) (hr : FailsOnly Justified r) :
    FailsOnly Justified (op.apply l r) := by
  have hlogic (short : Bool) :
      FailsOnly Justified (Term.boolean <$>
        decideEither short (l.bind truthValue) (r.bind truthValue)) :=
    (decideEither_failsOnly (hl.bind truthValue_failsOnly) (hr.bind truthValue_failsOnly)).map _
  cases op with
  | and => exact hlogic false
  | or => exact hlogic true
  | compare c => exact hl.bind fun s => hr.bind fun t => (c.apply_failsOnly s t).map _
  | arithmetic a =>
      refine hl.bind fun s => (numericOf_failsOnly s).bind fun m => ?_
      exact hr.bind fun t => (numericOf_failsOnly t).bind fun n => (a.apply_failsOnly m n).map _

namespace Expr

mutual

/-- An expression complains only of numbers of arguments that its functions do not take. -/
theorem eval_failsOnly (b : Binding) : ∀ e : Expr, FailsOnly Justified (e.eval b)
  | .var v => by
      rw [eval]
      split
      · exact .ok _
      · exact .error trivial
  | .constant t => by
      rw [eval]
      exact .ok t
  | .bound v => by
      rw [eval]
      exact .ok _
  | .unary op e => by
      rw [eval]
      exact op.apply_failsOnly (eval_failsOnly b e)
  | .binary op l r => by
      rw [eval]
      exact op.apply_failsOnly (eval_failsOnly b l) (eval_failsOnly b r)
  | .choose c y n => by
      rw [eval]
      refine (eval_failsOnly b c).bind fun t => (truthValue_failsOnly t).bind fun yes => ?_
      cases yes with
      | true => exact eval_failsOnly b y
      | false => exact eval_failsOnly b n
  | .call f args => by
      rw [eval]
      split
      next h => exact .error h
      next => exact (evalAll_failsOnly b args).bind f.apply_failsOnly

theorem evalAll_failsOnly (b : Binding) : ∀ es : List Expr, FailsOnly Justified (evalAll b es)
  | [] => by
      rw [evalAll]
      exact .ok []
  | e :: es => by
      rw [evalAll]
      exact (eval_failsOnly b e).bind fun _ => (evalAll_failsOnly b es).bind fun _ => .ok _

end

theorem truth_failsOnly (e : Expr) (b : Binding) : FailsOnly Justified (e.truth b) :=
  (e.eval_failsOnly b).bind truthValue_failsOnly

end Expr

end GraphAlgebra
