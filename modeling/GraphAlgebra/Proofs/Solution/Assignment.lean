import GraphAlgebra.Eval.Transform
import GraphAlgebra.Proofs.Solution.Heading
/-!
# Assignments in turn

An assignment keeps a row, extends it or clashes with it (`Table.AssignsOne`, `Table.Clashes`), and
what it does depends on the assignments before it. A run of assignments in a row is a chain of such
steps, which ends at the first clash (`Table.foldlM_assignOne_eq_none_iff`). So the assignments of
two lists may be made one list after the other, and each row that is left extends the row that it
comes from (`Table.assign_in_turn`).
-/

namespace GraphAlgebra

/-- A run of partial steps is nowhere defined if one of the steps is, after a run of the steps
before it. -/
theorem foldlM_eq_none_iff {α β : Type} {f : β → α → Option β} {as : List α} {b : β} :
    as.foldlM f b = none ↔
      ∃ before a after c,
        as = before ++ a :: after ∧ before.foldlM f b = some c ∧ f c a = none := by
  constructor
  · intro h
    induction as generalizing b with
    | nil => contradiction
    | cons a as ih =>
        rw [List.foldlM_cons] at h
        cases hb : f b a with
        | none => exact ⟨[], a, as, b, rfl, rfl, hb⟩
        | some c =>
            rw [hb] at h
            obtain ⟨before, a', after, d, rfl, hd, hnone⟩ := ih h
            refine ⟨a :: before, a', after, d, rfl, ?_, hnone⟩
            rw [List.foldlM_cons, hb]
            exact hd
  · rintro ⟨before, a, after, c, rfl, hc, hnone⟩
    rw [List.foldlM_append, hc]
    change (List.cons a after).foldlM f c = none
    rw [List.foldlM_cons, hnone]
    rfl

namespace Table

open Binding

variable {row m n : Binding} {a : Var × Expr} {as : List (Var × Expr)}

/-! ### One assignment -/

/-- What an assignment makes of a row. Where the expression fails, or where the variable has its
value already, it makes nothing new. -/
inductive AssignsOne (m : Binding) (a : Var × Expr) : Binding → Prop
  | fails {f : ExprFault} (h : a.2.eval m = .error f) : AssignsOne m a m
  | agrees {t : Term} (h : a.2.eval m = .ok t) (hbound : m.get? a.1 = some t) : AssignsOne m a m
  | binds {t : Term} (h : a.2.eval m = .ok t) (hfree : m.get? a.1 = none) :
      AssignsOne m a (m.set a.1 t)

/-- The expression has a term as its value that is not the one that the variable has. -/
def Clashes (m : Binding) (a : Var × Expr) : Prop :=
  ∃ s t, m.get? a.1 = some s ∧ a.2.eval m = .ok t ∧ t ≠ s

theorem assignOne_eq_none_iff : assignOne m a = none ↔ Clashes m a := by
  rw [assignOne]
  cases heval : a.2.eval m with
  | error f => simp [Clashes, heval]
  | ok t =>
      cases hget : m.get? a.1 with
      | none => simp [unify?, Clashes, hget]
      | some s => simp [unify?, Clashes, hget, heval, eq_comm]

theorem assignOne_eq_some_iff : assignOne m a = some n ↔ AssignsOne m a n := by
  constructor
  · intro h
    rw [assignOne] at h
    split at h
    next f hf =>
      obtain rfl := Option.some.inj h
      exact .fails hf
    next t ht =>
      rw [unify?] at h
      split at h
      next s hs =>
        split at h
        next heq =>
          obtain rfl := Option.some.inj h
          exact .agrees ht (heq ▸ hs)
        next => contradiction
      next hnone =>
        obtain rfl := Option.some.inj h
        exact .binds ht hnone
  · intro h
    rw [assignOne]
    cases h with
    | fails h => rw [h]
    | agrees h hbound => simp [h, unify?, hbound]
    | binds h hfree => simp [h, unify?, hfree]

theorem AssignsOne.extends (h : AssignsOne m a n) : n.Extends m := by
  cases h with
  | fails => exact .refl m
  | agrees => exact .refl m
  | binds h hfree =>
      intro v s hs
      have hne : v ≠ a.1 := by
        rintro rfl
        rw [hfree] at hs
        contradiction
      rw [get?_set, if_neg hne, hs]

theorem AssignsOne.mem_vars (h : AssignsOne m a n) {v : Var} (hv : v ∈ n.vars) :
    v ∈ m.vars ∨ v = a.1 := by
  cases h with
  | fails => exact .inl hv
  | agrees => exact .inl hv
  | binds h hfree =>
      by_cases heq : v = a.1
      · exact .inr heq
      · rw [mem_vars_iff, get?_set, if_neg heq] at hv
        exact .inl (mem_vars_iff.2 hv)

/-! ### Assignments in turn -/

inductive Assigns : Binding → List (Var × Expr) → Binding → Prop
  | nil (m : Binding) : Assigns m [] m
  | cons {row m n : Binding} {a : Var × Expr} {as : List (Var × Expr)}
      (h : AssignsOne row a m) (hrest : Assigns m as n) : Assigns row (a :: as) n

theorem foldlM_assignOne_eq_some_iff : as.foldlM assignOne row = some m ↔ Assigns row as m := by
  constructor
  · intro h
    induction as generalizing row with
    | nil =>
        obtain rfl := Option.some.inj h
        exact .nil row
    | cons a as ih =>
        rw [List.foldlM_cons] at h
        obtain ⟨n, hn, h⟩ := Option.bind_eq_some_iff.1 h
        exact .cons (assignOne_eq_some_iff.1 hn) (ih h)
  · intro h
    induction h with
    | nil m => rfl
    | cons h _ ih =>
        rw [List.foldlM_cons, assignOne_eq_some_iff.2 h]
        exact ih

/-- A row is dropped at an assignment with which the row clashes as it is by then. -/
theorem foldlM_assignOne_eq_none_iff :
    as.foldlM assignOne row = none ↔
      ∃ before a after m, as = before ++ a :: after ∧ Assigns row before m ∧ Clashes m a := by
  simp only [foldlM_eq_none_iff, foldlM_assignOne_eq_some_iff, assignOne_eq_none_iff]

theorem Assigns.extends (h : Assigns row as m) : m.Extends row := by
  induction h with
  | nil m => exact .refl m
  | cons h _ ih => exact ih.trans h.extends

theorem Assigns.mem_vars (h : Assigns row as m) {v : Var} (hv : v ∈ m.vars) :
    v ∈ row.vars ∨ v ∈ as.map Prod.fst := by
  induction h with
  | nil m => exact .inl hv
  | cons h _ ih =>
      rw [List.map_cons, List.mem_cons, ← or_assoc]
      exact (ih hv).imp h.mem_vars id

/-! ### Tables -/

theorem rows_assign (t : Table) (as : List (Var × Expr)) :
    (t.assign as).rows = t.rows.filterMap (as.foldlM assignOne) := rfl

theorem covers_assign (t : Table) (as : List (Var × Expr)) : (t.assign as).Covers :=
  covers_ofRows _ _

theorem vars_assign {t : Table} (ht : t.Covers) (as : List (Var × Expr)) :
    (t.assign as).vars = mergeVars t.vars (as.map Prod.fst) := by
  refine vars_ofRows fun m hm v hv => mem_mergeVars_iff.2 ?_
  obtain ⟨row, hrow, h⟩ := List.mem_filterMap.1 hm
  exact ((foldlM_assignOne_eq_some_iff.1 h).mem_vars hv).imp_left (ht row hrow v)

theorem assign_append {t : Table} (ht : t.Covers) (as bs : List (Var × Expr)) :
    t.assign (as ++ bs) = (t.assign as).assign bs := by
  refine Table.ext ?_ ?_
  · rw [vars_assign ht, vars_assign (covers_assign t as), vars_assign ht, List.map_append,
      mergeVars_append]
  · simp only [rows_assign, List.filterMap_filterMap, List.foldlM_append]
    rfl

/-- The assignments of two lists are made one list after the other. Each row that is left comes from
one row of the table, in the order of these, by the assignments in turn: it extends that row by some
of the assigned variables. A row is dropped exactly where one of the expressions has another value
than its variable, in the row as the assignments before have made it. -/
theorem assign_in_turn :
    (∀ t : Table, t.Covers → ∀ as bs, t.assign (as ++ bs) = (t.assign as).assign bs) ∧
      ∀ as : List (Var × Expr), ∃ f : Binding → Option Binding,
        (∀ t : Table, (t.assign as).rows = t.rows.filterMap f) ∧
        (∀ row m, f row = some m →
          Assigns row as m ∧ m.Extends row ∧
            ∀ v ∈ m.vars, v ∈ row.vars ∨ v ∈ as.map Prod.fst) ∧
        ∀ row, f row = none ↔
          ∃ before a after m, as = before ++ a :: after ∧ Assigns row before m ∧ Clashes m a := by
  refine ⟨fun t ht => assign_append ht, fun as => ⟨as.foldlM assignOne, ?_, ?_, ?_⟩⟩
  · intro t
    exact rows_assign t as
  · intro row m h
    have hrun : Assigns row as m := foldlM_assignOne_eq_some_iff.1 h
    exact ⟨hrun, hrun.extends, fun v hv => hrun.mem_vars hv⟩
  · intro row
    exact foldlM_assignOne_eq_none_iff

/-- A variable is assigned twice. The first row gets another value for it the second time, so it is
dropped. In the second row the two values are the same, and the next assignment uses them. In the
last row the variable has its value before, and the expressions over free variables fail. -/
theorem assign_in_turn_reassigned :
    let x : Var := ⟨"x"⟩
    let y : Var := ⟨"y"⟩
    let z : Var := ⟨"z"⟩
    let one : Term := .blank "1"
    let two : Term := .blank "2"
    let t : Table := ⟨[x, y], [.single x one, .single x two, .single y two]⟩
    let as : List (Var × Expr) := [(y, .var x)]
    let bs : List (Var × Expr) := [(y, .constant two), (z, .var y), (x, .var ⟨"w"⟩)]
    t.Covers ∧ t.assign (as ++ bs) = (t.assign as).assign bs ∧
      t.assign (as ++ bs) = ⟨[x, y, z],
        [((Binding.single x two).set y two).set z two, (Binding.single y two).set z two]⟩ := by
  intro x y z one two t as bs
  have ht : t.Covers := by
    unfold Covers
    decide
  exact ⟨ht, assign_in_turn.1 t ht as bs, by decide⟩

end Table

end GraphAlgebra
