import GraphAlgebra.Eval.Transform
import GraphAlgebra.Proofs.Except
/-!
# When grouping fails

Every row of a table makes a group or joins one, so there are groups unless there are no rows and
some keys. A group has no row in the result exactly if some aggregate is unknown, whatever the rows
are, and then the first such aggregate is the error (`Table.group_eq_error_iff`).
-/

namespace GraphAlgebra

def Aggregator.custom? : Aggregator → Option Iri
  | .custom iri _ => some iri
  | _ => none

namespace Table

theorem addToGroups_ne_nil (key : List (Option Term)) (row : Binding) (gs : List Group) :
    addToGroups key row gs ≠ [] := by
  cases gs with
  | nil => simp [addToGroups]
  | cons g gs =>
      rw [addToGroups]
      split <;> simp

/-- There is no group only if there are keys, but no rows that could have values for them. -/
theorem groups_eq_nil_iff {keys : List (Var × Option Expr)} {rows : List Binding} :
    groups keys rows = [] ↔ rows = [] ∧ keys ≠ [] := by
  have hfold (gs : List Group) (h : gs ≠ [] ∨ rows ≠ []) :
      rows.foldl (fun gs row => addToGroups (keys.map (keyValue row)) row gs) gs ≠ [] := by
    induction rows generalizing gs with
    | nil => simpa using h
    | cons row rows ih => exact ih _ (.inl (addToGroups_ne_nil _ row gs))
  cases rows with
  | nil => cases keys <;> simp [groups]
  | cons row rows =>
      have hne := hfold [] (.inr (List.cons_ne_nil row rows))
      rw [groups]
      split
      next h => exact absurd h hne
      next => exact iff_of_false hne nofun

theorem groupRow_of_known {keys : List (Var × Option Expr)} {as : List (Var × Aggregator)}
    (h : as.findSome? (fun a => a.2.custom?) = none) (g : Group) :
    ∃ row, groupRow keys as g = .ok row := by
  unfold groupRow
  generalize keyRow keys g = row
  induction as generalizing row with
  | nil => exact ⟨row, rfl⟩
  | cons a as ih =>
      rw [List.findSome?_eq_none_iff, List.forall_mem_cons, ← List.findSome?_eq_none_iff] at h
      obtain ⟨ha, has⟩ := h
      obtain ⟨v, a⟩ := a
      rw [List.foldlM_cons]
      cases a with
      | custom iri args => contradiction
      | countRows distinct => exact ih has _
      | values s e distinct => exact ih has _

theorem groupRow_of_custom {keys : List (Var × Option Expr)} {as : List (Var × Aggregator)}
    {iri : Iri} (h : as.findSome? (fun a => a.2.custom?) = some iri) (g : Group) :
    groupRow keys as g = .error (.unsupportedAggregator iri) := by
  unfold groupRow
  generalize keyRow keys g = row
  induction as generalizing row with
  | nil => contradiction
  | cons a as ih =>
      obtain ⟨v, a⟩ := a
      rw [List.foldlM_cons]
      cases a with
      | custom iri' args =>
          obtain rfl : iri' = iri := Option.some.inj h
          rfl
      | countRows distinct => exact ih h _
      | values s e distinct => exact ih h _

variable {t : Table} {keys : List (Var × Option Expr)} {as : List (Var × Aggregator)}

theorem exists_group_eq_ok (t : Table) (keys : List (Var × Option Expr))
    (h : as.findSome? (fun a => a.2.custom?) = none) : ∃ u, t.group keys as = .ok u := by
  have hrow (g : Group) (_ : g ∈ groups keys t.rows) : ∃ row, groupRow keys as g = .ok row :=
    groupRow_of_known h g
  obtain ⟨rows, hrows⟩ := exists_mapM_eq_ok hrow
  exact ⟨_, by rw [group, hrows]; rfl⟩

/-- Grouping fails exactly if there is a group and some aggregate is unknown, and the first unknown
aggregate is the error. -/
theorem group_eq_error_iff {e : Error} :
    t.group keys as = .error e ↔
      groups keys t.rows ≠ [] ∧
        ∃ iri, as.findSome? (fun a => a.2.custom?) = some iri ∧ e = .unsupportedAggregator iri := by
  cases hfind : as.findSome? (fun a => a.2.custom?) with
  | none =>
      obtain ⟨u, hu⟩ := exists_group_eq_ok t keys hfind
      simp [hu]
  | some iri =>
      rw [group]
      cases groups keys t.rows with
      | nil => simp [bind, Except.bind, pure, Except.pure]
      | cons g gs =>
          rw [List.mapM_cons, groupRow_of_custom hfind g]
          simp [bind, Except.bind, eq_comm]

theorem mem_of_findSome?_custom? {iri : Iri}
    (h : as.findSome? (fun a => a.2.custom?) = some iri) :
    ∃ v args, (v, Aggregator.custom iri args) ∈ as := by
  obtain ⟨⟨v, a⟩, ha, hiri⟩ := List.exists_of_findSome?_eq_some h
  cases a with
  | custom iri' args =>
      obtain rfl : iri' = iri := Option.some.inj hiri
      exact ⟨v, args, ha⟩
  | countRows distinct => contradiction
  | values s e distinct => contradiction

theorem exists_group_eq_error_iff :
    (∃ e, t.group keys as = .error e) ↔
      (∃ v iri args, (v, Aggregator.custom iri args) ∈ as) ∧ groups keys t.rows ≠ [] := by
  simp only [group_eq_error_iff]
  constructor
  · rintro ⟨e, hgroups, iri, hfind, -⟩
    obtain ⟨v, args, hmem⟩ := mem_of_findSome?_custom? hfind
    exact ⟨⟨v, iri, args, hmem⟩, hgroups⟩
  · rintro ⟨⟨v, iri, args, hmem⟩, hgroups⟩
    have hsome : (as.findSome? fun a => a.2.custom?).isSome :=
      List.findSome?_isSome_iff.2 ⟨_, hmem, rfl⟩
    obtain ⟨iri', hfind⟩ := Option.isSome_iff_exists.1 hsome
    exact ⟨_, hgroups, iri', hfind, rfl⟩

end Table

end GraphAlgebra
