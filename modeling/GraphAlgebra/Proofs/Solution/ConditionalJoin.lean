import GraphAlgebra.Eval.Transform
import GraphAlgebra.Proofs.Expr.Variables
import GraphAlgebra.Proofs.Solution.JoinLaws
/-!
# Joins under conditions

The rows of a join that satisfy some conditions are found left row by left row. A left join has
these rows too, and it also has the left rows that nothing completes, each where its completions
would stand (`Table.leftJoin_decomposes`). A condition of which the left rows bind all variables
that the right rows bind may as well be asked of the left rows before they are joined
(`Table.filter_join_pushdown`).
-/

namespace GraphAlgebra

namespace Table

open Binding

variable {l r : Table} {es : List Expr} {a m : Binding}

/-- The merges of a row with the rows of a table that satisfy the conditions. -/
def completions (es : List Expr) (r : Table) (a : Binding) : List Binding :=
  (r.rows.filterMap a.merge?).filter (satisfiesAll es)

/-- Some row of the table agrees with the given row, and their union satisfies the conditions. -/
def Completes (r : Table) (es : List Expr) (a : Binding) : Prop :=
  ∃ b ∈ r.rows, ∃ m, IsUnion a b m ∧ ∀ e ∈ es, e.satisfiedBy m = true

theorem mem_completions_iff :
    m ∈ completions es r a ↔ (∃ b ∈ r.rows, IsUnion a b m) ∧ ∀ e ∈ es, e.satisfiedBy m = true := by
  simp only [completions, List.mem_filter, List.mem_filterMap, merge?_eq_some_iff, satisfiesAll,
    List.all_eq_true]

theorem completes_iff : r.Completes es a ↔ completions es r a ≠ [] := by
  constructor
  · rintro ⟨b, hb, m, hm, hes⟩
    exact List.ne_nil_of_mem (mem_completions_iff.2 ⟨⟨b, hb, hm⟩, hes⟩)
  · intro hne
    obtain ⟨m, hmem⟩ := List.exists_mem_of_ne_nil _ hne
    obtain ⟨⟨b, hb, hm⟩, hes⟩ := mem_completions_iff.1 hmem
    exact ⟨b, hb, m, hm, hes⟩

instance : Decidable (r.Completes es a) := decidable_of_iff _ completes_iff.symm

theorem rows_filter_join (l r : Table) (es : List Expr) :
    ((l.join r).filter es).rows = l.rows.flatMap (completions es r) := by
  change (l.rows.flatMap fun a => r.rows.filterMap a.merge?).filter (satisfiesAll es) = _
  rw [List.filter_flatMap]
  rfl

/-! ### Left joins -/

theorem extendOrKeep_eq (es : List Expr) (r : Table) (a : Binding) :
    extendOrKeep es r.rows a =
      completions es r a ++ [a].filter fun a => ¬ r.Completes es a := by
  rw [extendOrKeep, ← completions]
  split
  next h =>
    have hnot : ¬ r.Completes es a := fun hc => completes_iff.1 hc h
    simp [h, hnot]
  next h =>
    have hcompletes : r.Completes es a := completes_iff.2 h
    simp [hcompletes]

theorem extendOrKeep_ne_nil (es : List Expr) (r : Table) (a : Binding) :
    extendOrKeep es r.rows a ≠ [] := by
  rw [extendOrKeep]
  split
  · exact List.cons_ne_nil a []
  next hne => exact hne

theorem extends_of_mem_extendOrKeep (h : m ∈ extendOrKeep es r.rows a) : m.Extends a := by
  rw [extendOrKeep_eq, List.mem_append] at h
  obtain h | h := h
  · obtain ⟨⟨b, -, hm⟩, -⟩ := mem_completions_iff.1 h
    exact hm.extends_left
  · obtain rfl := List.mem_singleton.1 (List.mem_of_mem_filter h)
    exact .refl m

/-- The rows of a left join are those of the join that satisfy the conditions, and the left rows
that no right row completes. They stand in blocks, one for each left row in turn: no block is empty,
and its rows extend the left row. -/
theorem leftJoin_decomposes (l r : Table) (es : List Expr) :
    (l.leftJoin r es).rows.Perm
        (((l.join r).filter es).rows ++ l.rows.filter fun a => ¬ r.Completes es a) ∧
      ∃ blocks : List (List Binding), (l.leftJoin r es).rows = blocks.flatten ∧
        List.Forall₂ (fun a block => block ≠ [] ∧ ∀ m ∈ block, m.Extends a) l.rows blocks := by
  have hrows : (l.leftJoin r es).rows = l.rows.flatMap (extendOrKeep es r.rows) := rfl
  constructor
  · have hkept : (l.rows.flatMap fun a => [a].filter fun a => ¬ r.Completes es a) =
        l.rows.filter fun a => ¬ r.Completes es a := by
      rw [← List.filter_flatMap, List.flatMap_singleton']
    rw [hrows, funext (extendOrKeep_eq es r), rows_filter_join, ← hkept]
    exact (List.flatMap_append_perm _ _ _).symm
  · refine ⟨l.rows.map (extendOrKeep es r.rows), hrows, List.forall₂_map_right_iff.2 ?_⟩
    refine List.forall₂_same.2 fun a _ => ⟨extendOrKeep_ne_nil es r a, fun m hm => ?_⟩
    exact extends_of_mem_extendOrKeep hm

/-! ### Conditions on the left rows -/

/-- A row satisfies conditions exactly if its unions with rows do that bind no more of the variables
of the conditions. -/
theorem satisfiesAll_eq_of_isUnion {b : Binding} (h : IsUnion a b m)
    (hvars : ∀ e ∈ es, ∀ v ∈ e.vars, v ∈ b.vars → v ∈ a.vars) :
    satisfiesAll es m = satisfiesAll es a := by
  rw [Bool.eq_iff_iff, satisfiesAll, satisfiesAll, List.all_eq_true, List.all_eq_true]
  refine forall₂_congr fun e he => ?_
  rw [Expr.satisfiedBy_congr fun v hv => h.get?_eq_left (hvars e he v hv)]

theorem completions_eq (hvars : ∀ e ∈ es, ∀ v ∈ e.vars, (∃ b ∈ r.rows, v ∈ b.vars) → v ∈ a.vars) :
    completions es r a = if satisfiesAll es a then r.rows.filterMap a.merge? else [] := by
  have hsame : ∀ m ∈ r.rows.filterMap a.merge?, satisfiesAll es m = satisfiesAll es a := by
    intro m hm
    obtain ⟨b, hb, hmerge⟩ := List.mem_filterMap.1 hm
    exact satisfiesAll_eq_of_isUnion (merge?_eq_some_iff.1 hmerge)
      fun e he v hv hbound => hvars e he v hv ⟨b, hb, hbound⟩
  rw [completions, List.filter_congr hsame]
  cases satisfiesAll es a with
  | true => exact List.filter_true _
  | false => exact List.filter_false _

/-- The rows of a selection are treated like those of the table, if the others give no rows. -/
theorem flatMap_filter_eq {α β : Type} (p : α → Bool) (f : α → List β) (as : List α) :
    (as.filter p).flatMap f = as.flatMap fun a => if p a then f a else [] := by
  induction as with
  | nil => rfl
  | cons a as ih =>
      rw [List.filter_cons, List.flatMap_cons, ← ih]
      cases p a <;> rfl

/-- A join is filtered by filtering its left table before, if the rows of that bind all variables of
the conditions that some row on the right binds. -/
theorem rows_filter_join_eq
    (hvars : ∀ e ∈ es, ∀ v ∈ e.vars, (∃ b ∈ r.rows, v ∈ b.vars) → ∀ a ∈ l.rows, v ∈ a.vars) :
    ((l.join r).filter es).rows = ((l.filter es).join r).rows :=
  calc ((l.join r).filter es).rows
      = l.rows.flatMap (completions es r) := rows_filter_join l r es
    _ = l.rows.flatMap fun a =>
          if satisfiesAll es a then r.rows.filterMap a.merge? else [] :=
        List.flatMap_congr fun a ha =>
          completions_eq fun e he v hv hbound => hvars e he v hv hbound a ha
    _ = (l.rows.filter (satisfiesAll es)).flatMap fun a => r.rows.filterMap a.merge? :=
        (flatMap_filter_eq _ _ _).symm
    _ = ((l.filter es).join r).rows := rfl

/-- An expression has the same value or the same fault under solutions that agree on its variables.
So a join is filtered by filtering its left table before, also where the expression fails, if the
rows of that table bind all variables of the expression that some row on the right binds. -/
theorem filter_join_pushdown (e : Expr) :
    (∀ a b : Binding, (∀ v ∈ e.vars, a.get? v = b.get? v) → e.eval a = e.eval b) ∧
      ∀ l r : Table,
        (∀ v ∈ e.vars, (∃ b ∈ r.rows, v ∈ b.vars) → ∀ a ∈ l.rows, v ∈ a.vars) →
          ((l.join r).filter [e]).rows = ((l.filter [e]).join r).rows :=
  ⟨fun _ _ => e.eval_congr,
    fun _ _ hvars => rows_filter_join_eq (List.forall_mem_singleton.2 hvars)⟩

/-- All rows on the left bind the variable that the condition shares with the right table. Some of
them leave its other variable free, so that the condition fails in one of them and is decided by its
first part in another. -/
theorem filter_join_pushdown_partialRows :
    let w : Var := ⟨"w"⟩
    let x : Var := ⟨"x"⟩
    let y : Var := ⟨"y"⟩
    let blank : Term := .blank "b"
    let iri : Term := .iri ⟨"i"⟩
    let e : Expr := .binary .or (.call .isBlank [.var w]) (.call .isBlank [.var x])
    let l : Table :=
      ⟨[w, x], [.single w blank, .single w iri, (Binding.single w iri).set x blank]⟩
    let r : Table := ⟨[w, y], [.single y iri, (Binding.single y blank).set w iri]⟩
    (∀ v ∈ e.vars, (∃ b ∈ r.rows, v ∈ b.vars) → ∀ a ∈ l.rows, v ∈ a.vars) ∧
      e.eval (.single w iri) = .error (.unbound x) ∧
      ((l.join r).filter [e]).rows = ((l.filter [e]).join r).rows ∧
      ((l.join r).filter [e]).rows.length = 3 ∧ (l.join r).rows.length = 5 := by
  intro w x y blank iri e l r
  have hvars : ∀ v ∈ e.vars, (∃ b ∈ r.rows, v ∈ b.vars) → ∀ a ∈ l.rows, v ∈ a.vars := by decide
  exact ⟨hvars, by decide, (filter_join_pushdown e).2 l r hvars, by decide, by decide⟩

end Table

end GraphAlgebra
