import GraphAlgebra.Expr.Eval
import GraphAlgebra.Proofs.Except
/-!
# Logic that tolerates faults

A conjunction or a disjunction is decided by one of its sides alone, whatever the other side is. So
one truth value absorbs everything, faults too, the other one is neutral, and of two faults the left
one counts (`decideEither_error_error`). These rules are associative (`decideEither_assoc`), and
negation exchanges the two connectives with their faults (`not_decideEither`); the sides may be
exchanged up to the fault (`toOption_decideEither_comm`).
-/

namespace GraphAlgebra

section

variable (s : Bool) (x y z : Except ExprFault Bool)

@[simp] theorem decideEither_ok_left : decideEither s (.ok s) y = .ok s := by
  cases y <;> simp [decideEither]

@[simp] theorem decideEither_ok_right : decideEither s x (.ok s) = .ok s := by
  cases x <;> simp [decideEither]

@[simp] theorem decideEither_ok_not_left : decideEither s (.ok !s) y = y := by
  cases y with
  | error f => simp [decideEither]
  | ok b => cases s <;> cases b <;> rfl

@[simp] theorem decideEither_ok_not_right : decideEither s x (.ok !s) = x := by
  cases x with
  | error f => simp [decideEither]
  | ok a => cases s <;> cases a <;> rfl

@[simp] theorem decideEither_error_error (f g : ExprFault) :
    decideEither s (.error f) (.error g) = .error f := rfl

/-- A side decides, or it is neutral, or it has a fault. -/
theorem eq_ok_or_eq_ok_not_or_eq_error :
    x = .ok s ∨ x = .ok (!s) ∨ ∃ f, x = .error f := by
  cases x with
  | error f => exact .inr (.inr ⟨f, rfl⟩)
  | ok a => cases s <;> cases a <;> simp

theorem decideEither_assoc :
    decideEither s (decideEither s x y) z = decideEither s x (decideEither s y z) := by
  obtain rfl | rfl | ⟨f, rfl⟩ := eq_ok_or_eq_ok_not_or_eq_error s x
  · simp
  · simp
  · obtain rfl | rfl | ⟨g, rfl⟩ := eq_ok_or_eq_ok_not_or_eq_error s y
    · simp
    · simp
    · obtain rfl | rfl | ⟨h, rfl⟩ := eq_ok_or_eq_ok_not_or_eq_error s z <;> simp

/-- Negation makes the value that decides a conjunction the one that decides a disjunction. -/
theorem not_decideEither :
    (!·) <$> decideEither s x y = decideEither (!s) ((!·) <$> x) ((!·) <$> y) := by
  have hok (b : Bool) : (!·) <$> (Except.ok b : Except ExprFault Bool) = .ok !b := rfl
  have herror (f : ExprFault) : (!·) <$> (Except.error f : Except ExprFault Bool) = .error f := rfl
  obtain rfl | rfl | ⟨f, rfl⟩ := eq_ok_or_eq_ok_not_or_eq_error s x
  · simp only [hok, decideEither_ok_left]
  · simp only [hok, decideEither_ok_not_left]
  · obtain rfl | rfl | ⟨g, rfl⟩ := eq_ok_or_eq_ok_not_or_eq_error s y
    · simp only [hok, decideEither_ok_right]
    · simp only [hok, decideEither_ok_not_right]
    · simp only [herror, decideEither_error_error]

theorem toOption_decideEither_comm :
    (decideEither s x y).toOption = (decideEither s y x).toOption := by
  obtain rfl | rfl | ⟨f, rfl⟩ := eq_ok_or_eq_ok_not_or_eq_error s x
  · simp
  · simp
  · obtain rfl | rfl | ⟨g, rfl⟩ := eq_ok_or_eq_ok_not_or_eq_error s y
    · simp
    · simp
    · rfl

end

/-! ### Expressions -/

@[simp] theorem truthValue_boolean (b : Bool) : truthValue (.boolean b) = .ok b := by
  cases b <;> rfl

namespace Expr

variable (a b c e : Expr) (m : Binding)

theorem eval_not : (unary .not e).eval m = .boolean <$> ((!·) <$> e.truth m) := by
  rw [eval, UnaryOp.apply, truth]
  cases e.eval m with
  | error f => rfl
  | ok t => cases h : truthValue t <;> simp [bind, Except.bind, h, Functor.map, Except.map]

theorem eval_and :
    (binary .and a b).eval m = .boolean <$> decideEither false (a.truth m) (b.truth m) := by
  rw [eval, BinaryOp.apply, truth, truth]

theorem eval_or :
    (binary .or a b).eval m = .boolean <$> decideEither true (a.truth m) (b.truth m) := by
  rw [eval, BinaryOp.apply, truth, truth]

theorem truth_eq_of_eval_eq {e : Expr} {m : Binding} {x : Except ExprFault Bool}
    (h : e.eval m = .boolean <$> x) : e.truth m = x := by
  rw [truth, h]
  cases x with
  | error f => rfl
  | ok b => exact truthValue_boolean b

theorem truth_not : (unary .not e).truth m = (!·) <$> e.truth m :=
  truth_eq_of_eval_eq (eval_not e m)

theorem truth_and : (binary .and a b).truth m = decideEither false (a.truth m) (b.truth m) :=
  truth_eq_of_eval_eq (eval_and a b m)

theorem truth_or : (binary .or a b).truth m = decideEither true (a.truth m) (b.truth m) :=
  truth_eq_of_eval_eq (eval_or a b m)

/-! ### Laws of the connectives -/

theorem eval_not_and :
    (unary .not (binary .and a b)).eval m = (binary .or (unary .not a) (unary .not b)).eval m := by
  rw [eval_not, truth_and, not_decideEither, eval_or, truth_not, truth_not, Bool.not_false]

theorem eval_not_or :
    (unary .not (binary .or a b)).eval m = (binary .and (unary .not a) (unary .not b)).eval m := by
  rw [eval_not, truth_or, not_decideEither, eval_and, truth_not, truth_not, Bool.not_true]

theorem eval_and_assoc :
    (binary .and (binary .and a b) c).eval m = (binary .and a (binary .and b c)).eval m := by
  rw [eval_and, truth_and, decideEither_assoc, eval_and, truth_and]

theorem eval_or_assoc :
    (binary .or (binary .or a b) c).eval m = (binary .or a (binary .or b c)).eval m := by
  rw [eval_or, truth_or, decideEither_assoc, eval_or, truth_or]

theorem toOption_eval_and_comm :
    ((binary .and a b).eval m).toOption = ((binary .and b a).eval m).toOption := by
  rw [eval_and, eval_and, toOption_map, toOption_map, toOption_decideEither_comm]

theorem toOption_eval_or_comm :
    ((binary .or a b).eval m).toOption = ((binary .or b a).eval m).toOption := by
  rw [eval_or, eval_or, toOption_map, toOption_map, toOption_decideEither_comm]

/-! ### Conjunctions as conditions -/

theorem satisfiedBy_and :
    (binary .and a b).satisfiedBy m = (a.satisfiedBy m && b.satisfiedBy m) := by
  rw [satisfiedBy, satisfiedBy, satisfiedBy, truth_and]
  obtain ha | ha | ⟨f, ha⟩ := eq_ok_or_eq_ok_not_or_eq_error false (a.truth m)
  · rw [ha, decideEither_ok_left]
    rfl
  · rw [ha, decideEither_ok_not_left]
    rfl
  · rw [ha]
    cases b.truth m with
    | error g => rfl
    | ok y => cases y <;> rfl

/-- The expression is the conjunction of the listed ones, nested in some way. -/
inductive Conjoins : Expr → List Expr → Prop
  | single (e : Expr) : Conjoins e [e]
  | and {a b : Expr} {as bs : List Expr} (ha : Conjoins a as) (hb : Conjoins b bs) :
      Conjoins (binary .and a b) (as ++ bs)

theorem exists_conjoins : ∀ {es : List Expr}, es ≠ [] → ∃ e : Expr, e.Conjoins es
  | [e], _ => ⟨e, .single e⟩
  | e :: f :: es, _ => by
      obtain ⟨rest, hrest⟩ := exists_conjoins (List.cons_ne_nil f es)
      exact ⟨binary .and e rest, .and (.single e) hrest⟩

theorem Conjoins.satisfiedBy_eq {e : Expr} {es : List Expr} (h : e.Conjoins es) (m : Binding) :
    e.satisfiedBy m = es.all (·.satisfiedBy m) := by
  induction h with
  | single e => simp
  | and _ _ iha ihb => rw [satisfiedBy_and, iha, ihb, List.all_append]

end Expr

end GraphAlgebra
