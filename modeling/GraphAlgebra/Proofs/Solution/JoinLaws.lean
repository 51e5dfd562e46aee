import GraphAlgebra.Proofs.Solution.Heading
import Mathlib.Data.List.Perm.Basic
/-!
# Laws of joins and unions

Joining is associative with the unit table as its unit, and it distributes over unions: tables make
a semiring under unions and joins. The laws hold of the rows in their order where the order of a
join allows it, by the left row first. Where the operands of a join change places, or a union stands
on its right, the rows are the same up to their order. Main statement: `Table.join_union_laws`.
-/

namespace GraphAlgebra

namespace Table

open Binding

theorem rows_join (l r : Table) :
    (l.join r).rows = l.rows.flatMap fun a => r.rows.filterMap a.merge? := rfl

theorem rows_union (l r : Table) : (l.union r).rows = l.rows ++ r.rows := rfl

/-! ### Associativity -/

/-- Rows that come of other rows by a merge are merged with more rows, one by one. -/
theorem flatMap_filterMap_merge? (f : Binding → Option Binding) (bs cs : List Binding) :
    (bs.filterMap f).flatMap (fun m => cs.filterMap m.merge?) =
      bs.flatMap fun b => cs.filterMap fun c => (f b).bind (·.merge? c) := by
  induction bs with
  | nil => rfl
  | cons b bs ih =>
      rw [List.filterMap_cons, List.flatMap_cons]
      cases f b with
      | none => simp [ih]
      | some m => rw [List.flatMap_cons, ih]; rfl

theorem rows_join_assoc (a b c : Table) : ((a.join b).join c).rows = (a.join (b.join c)).rows := by
  simp only [rows_join, List.flatMap_assoc, List.filterMap_flatMap, List.filterMap_filterMap,
    flatMap_filterMap_merge?, merge?_assoc]

theorem join_assoc {a b c : Table} (ha : a.Covers) (hb : b.Covers) (hc : c.Covers) :
    (a.join b).join c = a.join (b.join c) := by
  refine Table.ext ?_ (rows_join_assoc a b c)
  rw [vars_join (covers_join a b) hc, vars_join ha hb, vars_join ha (covers_join b c),
    vars_join hb hc, mergeVars_assoc]

/-! ### Units -/

theorem rows_join_unit (a : Table) : (a.join unit).rows = a.rows := by
  simp [rows_join, unit, merge?_empty]

theorem rows_unit_join (a : Table) : (unit.join a).rows = a.rows := by
  simp [rows_join, unit, funext empty_merge?]

theorem join_unit {a : Table} (ha : a.Covers) : a.join unit = a :=
  Table.ext (vars_join ha covers_unit) (rows_join_unit a)

theorem rows_join_eq_nil {t : Table} (ht : t.rows = []) (a : Table) :
    (a.join t).rows = [] ∧ (t.join a).rows = [] := by
  simp [rows_join, ht]

/-! ### Exchange of the operands -/

/-- The results for the pairs of two lists may be listed by the first element or by the second. -/
theorem flatMap_filterMap_perm {α β γ : Type} (f : α → β → Option γ) (as : List α) (bs : List β) :
    (as.flatMap fun a => bs.filterMap (f a)).Perm (bs.flatMap fun b => as.filterMap (f · b)) := by
  induction as with
  | nil => simp
  | cons a as ih =>
      have hcons (b : β) : (a :: as).filterMap (f · b) = (f a b).toList ++ as.filterMap (f · b) := by
        rw [List.filterMap_cons]
        cases f a b <;> rfl
      rw [List.flatMap_cons, List.filterMap_eq_flatMap_toList]
      simp only [hcons]
      exact (ih.append_left _).trans (List.flatMap_append_perm bs _ _)

theorem rows_join_comm (a b : Table) : (a.join b).rows.Perm (b.join a).rows := by
  have h := flatMap_filterMap_perm Binding.merge? a.rows b.rows
  simpa only [rows_join, merge?_comm] using h

/-! ### Unions -/

theorem rows_union_join (a b c : Table) :
    ((a.union b).join c).rows = ((a.join c).union (b.join c)).rows := by
  simp only [rows_join, rows_union, List.flatMap_append]

theorem rows_join_union (a b c : Table) :
    (a.join (b.union c)).rows.Perm ((a.join b).union (a.join c)).rows := by
  simp only [rows_join, rows_union, List.filterMap_append]
  exact (List.flatMap_append_perm a.rows _ _).symm

/-! ### All laws -/

/-- Joining tables that cover their rows is associative and has the unit table as its unit, which
keeps the rows on the left and the whole table on the right. A table without rows leaves no rows in
a join. Joins distribute over unions, on the left in the order of the rows. The operands of a join
may be exchanged, and joins distribute over unions on the right, up to the order of the rows. -/
theorem join_union_laws {a b c : Table} (ha : a.Covers) (hb : b.Covers) (hc : c.Covers) :
    (a.join b).join c = a.join (b.join c) ∧
      a.join unit = a ∧ (unit.join a).rows = a.rows ∧
      (∀ t : Table, t.rows = [] → (a.join t).rows = [] ∧ (t.join a).rows = []) ∧
      ((a.union b).join c).rows = ((a.join c).union (b.join c)).rows ∧
      (a.join b).rows.Perm (b.join a).rows ∧
      (a.join (b.union c)).rows.Perm ((a.join b).union (a.join c)).rows :=
  ⟨join_assoc ha hb hc, join_unit ha, rows_unit_join a, fun _ ht => rows_join_eq_nil ht a,
    rows_union_join a b c, rows_join_comm a b, rows_join_union a b c⟩

/-- Rows that bind some of the variables of their tables, one of which has a variable twice in its
heading. The order of the rows tells a join from the one with its operands exchanged. -/
theorem join_union_laws_partialRows :
    let x : Var := ⟨"x"⟩
    let y : Var := ⟨"y"⟩
    let z : Var := ⟨"z"⟩
    let one : Term := .blank "1"
    let two : Term := .blank "2"
    let a : Table := ⟨[x, y, x], [.single x one, .single y two]⟩
    let b : Table := ⟨[y], [.empty, .single y two]⟩
    let c : Table := ⟨[z, x], [(Binding.single x two).set z one, .single x one]⟩
    a.Covers ∧ b.Covers ∧ c.Covers ∧
      (a.join b).join c = a.join (b.join c) ∧ a.join unit = a ∧
      ((a.union b).join c).rows = ((a.join c).union (b.join c)).rows ∧
      (a.join b).rows.Perm (b.join a).rows ∧ (a.join b).rows ≠ (b.join a).rows ∧
      (a.join c).vars = [x, y, x, z] := by
  intro x y z one two a b c
  have ha : a.Covers := by
    unfold Covers
    decide
  have hb : b.Covers := by
    unfold Covers
    decide
  have hc : c.Covers := by
    unfold Covers
    decide
  obtain ⟨hassoc, hunit, -, -, hunion, hcomm, -⟩ := join_union_laws ha hb hc
  exact ⟨ha, hb, hc, hassoc, hunit, hunion, hcomm, by decide, by decide⟩

end Table

end GraphAlgebra
