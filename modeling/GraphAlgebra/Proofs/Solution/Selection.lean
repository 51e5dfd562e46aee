import GraphAlgebra.Eval.Transform
import GraphAlgebra.Proofs.Expr.Logic
import GraphAlgebra.Proofs.Solution.Heading
/-!
# Selections

A selection by some conditions keeps the rows that satisfy all of them. So the conditions may be
conjoined to one, in whatever way the conjunctions are nested, and they may be asked one after the
other in any order (`Table.selection_laws`). Faults do not matter to this, since the connectives
tolerate them and a condition with a fault is not satisfied.
-/

namespace GraphAlgebra

namespace Table

open GraphAlgebra.Expr

variable {t : Table} {es fs : List Expr}

theorem rows_filter (es : List Expr) (t : Table) :
    (t.filter es).rows = t.rows.filter (satisfiesAll es) := rfl

theorem covers_filter (es : List Expr) (t : Table) : (t.filter es).Covers := covers_ofRows _ _

theorem vars_filter (ht : t.Covers) (es : List Expr) : (t.filter es).vars = t.vars :=
  vars_ofRows fun row hrow => ht row (List.mem_of_mem_filter hrow)

theorem filter_nil (ht : t.Covers) : t.filter [] = t := by
  refine Table.ext (vars_filter ht []) ?_
  rw [rows_filter]
  exact List.filter_true t.rows

theorem filter_filter (ht : t.Covers) (es fs : List Expr) :
    (t.filter es).filter fs = t.filter (es ++ fs) := by
  refine Table.ext ?_ ?_
  · rw [vars_filter (covers_filter es t), vars_filter ht, vars_filter ht]
  · rw [rows_filter, rows_filter, rows_filter, List.filter_filter]
    refine List.filter_congr fun row _ => ?_
    rw [satisfiesAll, satisfiesAll, satisfiesAll, List.all_append, Bool.and_comm]

theorem foldl_filter (ht : t.Covers) (es : List Expr) :
    es.foldl (fun u e => u.filter [e]) t = t.filter es := by
  induction es generalizing t with
  | nil => exact (filter_nil ht).symm
  | cons e es ih =>
      rw [List.foldl_cons, ih (covers_filter [e] t), filter_filter ht, List.singleton_append]

theorem filter_congr (h : ∀ row, satisfiesAll es row = satisfiesAll fs row) (t : Table) :
    t.filter es = t.filter fs := by
  rw [filter, filter, funext h]

theorem filter_perm (h : es.Perm fs) (t : Table) : t.filter es = t.filter fs :=
  filter_congr (fun _ => h.all_eq) t

theorem filter_conjunction {e : Expr} (h : e.Conjoins es) (t : Table) :
    t.filter [e] = t.filter es := by
  refine filter_congr (fun row => ?_) t
  rw [satisfiesAll, satisfiesAll, ← h.satisfiedBy_eq, List.all_cons, List.all_nil, Bool.and_true]

/-- The connectives obey the laws of De Morgan and are associative, with the fault that is reported,
and they are commutative up to that fault. So a table that covers its rows is filtered in the same
way by some conditions, by a conjunction of them and by the single conditions in turn, in any order.
-/
theorem selection_laws :
    (∀ (a b c : Expr) (m : Binding),
      (unary .not (binary .and a b)).eval m = (binary .or (unary .not a) (unary .not b)).eval m ∧
      (unary .not (binary .or a b)).eval m = (binary .and (unary .not a) (unary .not b)).eval m ∧
      (binary .and (binary .and a b) c).eval m = (binary .and a (binary .and b c)).eval m ∧
      (binary .or (binary .or a b) c).eval m = (binary .or a (binary .or b c)).eval m ∧
      ((binary .and a b).eval m).toOption = ((binary .and b a).eval m).toOption ∧
      ((binary .or a b).eval m).toOption = ((binary .or b a).eval m).toOption) ∧
    ∀ t : Table, t.Covers → ∀ es : List Expr, es ≠ [] →
      (∃ e : Expr, e.Conjoins es) ∧ (∀ e : Expr, e.Conjoins es → t.filter [e] = t.filter es) ∧
      ∀ fs : List Expr, fs.Perm es → fs.foldl (fun u f => u.filter [f]) t = t.filter es := by
  constructor
  · intro a b c m
    exact ⟨eval_not_and a b m, eval_not_or a b m, eval_and_assoc a b c m, eval_or_assoc a b c m,
      toOption_eval_and_comm a b m, toOption_eval_or_comm a b m⟩
  · intro t ht es hes
    refine ⟨exists_conjoins hes, fun e he => filter_conjunction he t, fun fs hfs => ?_⟩
    rw [foldl_filter ht, filter_perm hfs]

/-- Of three conditions the first one fails where its variable is free, and the second one has no
truth value where its variable is a blank node. The fault of the left side is reported where no side
decides. Only one row satisfies all three. -/
theorem selection_laws_faults :
    let x : Var := ⟨"x"⟩
    let y : Var := ⟨"y"⟩
    let p : Expr := .var x
    let q : Expr := .var y
    let all : Expr := .binary .and p (.binary .and q (.bound x))
    let row : Binding := .single y (.blank "b")
    let full : Binding := (Binding.single x (.boolean true)).set y (.string "a")
    let t : Table := ⟨[y, x], [row, full, .single x (.boolean true), .empty]⟩
    t.Covers ∧ all.Conjoins [p, q, .bound x] ∧ [.bound x, p, q].Perm [p, q, .bound x] ∧
      (Expr.binary .or p q).eval row = .error (.unbound x) ∧
      (Expr.binary .or q p).eval row = .error (.noTruthValue (.blank "b")) ∧
      all.eval row = .ok (.boolean false) ∧
      t.filter [all] = t.filter [p, q, .bound x] ∧
      ((t.filter [.bound x]).filter [p]).filter [q] = t.filter [p, q, .bound x] ∧
      t.filter [p, q, .bound x] = ⟨[y, x], [full]⟩ := by
  intro x y p q all row full t
  have ht : t.Covers := by
    unfold Covers
    decide
  have hall : all.Conjoins [p, q, .bound x] :=
    .and (.single p) (.and (.single q) (.single (.bound x)))
  have hperm : [.bound x, p, q].Perm [p, q, .bound x] :=
    (List.perm_append_singleton (.bound x) [p, q]).symm
  obtain ⟨-, hconjunction, hturns⟩ := selection_laws.2 t ht _ (List.cons_ne_nil p [q, .bound x])
  exact ⟨ht, hall, hperm, by decide, by decide, by decide, hconjunction all hall,
    hturns _ hperm, by decide⟩

end Table

end GraphAlgebra
