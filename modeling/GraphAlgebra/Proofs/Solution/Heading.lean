import GraphAlgebra.Proofs.Solution.Merge
/-!
# Headings of tables

Merging headings appends the variables that are missing, so it is associative, and it changes
nothing where no variable is missing. A table that covers its rows keeps its heading when it is
built anew (`Table.ofRows_eq`), and a join of such tables has the merged heading.
-/

namespace GraphAlgebra

attribute [ext] Table

namespace Table

/-! ### Merging headings -/

@[simp] theorem mergeVars_nil (vs : List Var) : mergeVars vs [] = vs := rfl

theorem mergeVars_cons (vs : List Var) (w : Var) (ws : List Var) :
    mergeVars vs (w :: ws) = mergeVars (addVar vs w) ws := rfl

theorem mergeVars_append (vs ws us : List Var) :
    mergeVars vs (ws ++ us) = mergeVars (mergeVars vs ws) us := List.foldl_append

theorem mergeVars_of_subset {vs ws : List Var} (h : ∀ v ∈ ws, v ∈ vs) :
    mergeVars vs ws = vs := by
  induction ws with
  | nil => rfl
  | cons w ws ih =>
      obtain ⟨hw, hws⟩ := List.forall_mem_cons.1 h
      have hadd : addVar vs w = vs := if_pos (List.contains_iff_mem.2 hw)
      rw [mergeVars_cons, hadd, ih hws]

theorem mergeVars_addVar (vs ws : List Var) (u : Var) :
    mergeVars vs (addVar ws u) = addVar (mergeVars vs ws) u := by
  by_cases hu : u ∈ ws
  · have hmem : u ∈ mergeVars vs ws := mem_mergeVars_iff.2 (.inr hu)
    rw [addVar, addVar, if_pos (List.contains_iff_mem.2 hu), if_pos (List.contains_iff_mem.2 hmem)]
  · have hnot : ws.contains u = false := by simpa using hu
    rw [addVar, hnot, if_neg Bool.false_ne_true, mergeVars_append]
    rfl

theorem mergeVars_assoc (vs ws us : List Var) :
    mergeVars vs (mergeVars ws us) = mergeVars (mergeVars vs ws) us := by
  induction us generalizing ws with
  | nil => rfl
  | cons u us ih => rw [mergeVars_cons, ih, mergeVars_addVar, mergeVars_cons]

/-! ### Tables that cover their rows -/

theorem ofRows_eq {t : Table} (h : t.Covers) : ofRows t.vars t.rows = t := by
  obtain ⟨vars, rows⟩ := t
  have hfold : rows.foldl (fun vs row => mergeVars vs row.vars) vars = vars := by
    induction rows with
    | nil => rfl
    | cons row rows ih =>
        obtain ⟨hrow, hrows⟩ := List.forall_mem_cons.1 h
        rw [List.foldl_cons, mergeVars_of_subset hrow, ih hrows]
  rw [ofRows, hfold]

theorem vars_ofRows {vs : List Var} {rows : List Binding}
    (h : ∀ row ∈ rows, ∀ v ∈ row.vars, v ∈ vs) : (ofRows vs rows).vars = vs :=
  congrArg Table.vars (ofRows_eq (t := ⟨vs, rows⟩) h)

theorem covers_empty : empty.Covers := List.forall_mem_nil _

theorem covers_unit : unit.Covers := by
  intro row hrow v hv
  obtain rfl := List.mem_singleton.1 hrow
  contradiction

theorem covers_join (l r : Table) : (l.join r).Covers := covers_ofRows _ _

theorem vars_join {l r : Table} (hl : l.Covers) (hr : r.Covers) :
    (l.join r).vars = mergeVars l.vars r.vars := by
  refine vars_ofRows fun m hm v hv => ?_
  obtain ⟨a, ha, b, hb, hunion⟩ := mem_join_iff.1 hm
  obtain ⟨t, ht⟩ := Option.isSome_iff_exists.1 (Binding.mem_vars_iff.1 hv)
  rw [mem_mergeVars_iff]
  exact ((hunion.get?_iff v t).1 ht).imp (fun h => hl a ha v (Binding.mem_vars_of_get? h))
    fun h => hr b hb v (Binding.mem_vars_of_get? h)

end Table

end GraphAlgebra
