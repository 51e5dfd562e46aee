import GraphAlgebra.Solution.Binding
/-!
# Tables of solutions

A table lists solutions, with repetition, under a heading of variables. The heading of a table
that an operation builds covers the variables of its rows: those that are missing are added at
its end in the order of their first appearance.
-/

namespace GraphAlgebra

/-- Solutions in a row order under a heading. -/
structure Table where
  vars : List Var
  rows : List Binding
deriving DecidableEq

namespace Table

/-- Adds a variable to a heading that lacks it. -/
def addVar (vs : List Var) (v : Var) : List Var := if vs.contains v then vs else vs ++ [v]

/-- A heading followed by the variables of another one that it lacks. -/
def mergeVars (vs ws : List Var) : List Var := ws.foldl addVar vs

def empty : Table := ⟨[], []⟩

/-- The table with one row that binds nothing. -/
def unit : Table := ⟨[], [Binding.empty]⟩

def single (v : Var) (t : Term) : Table := ⟨[v], [Binding.single v t]⟩

def push (t : Table) (row : Binding) : Table :=
  ⟨mergeVars t.vars row.vars, t.rows ++ [row]⟩

/-- The table of some rows under a heading that starts with the given variables. -/
def ofRows (vs : List Var) (rows : List Binding) : Table :=
  ⟨rows.foldl (fun vs row => mergeVars vs row.vars) vs, rows⟩

def Covers (t : Table) : Prop := ∀ row ∈ t.rows, ∀ v ∈ row.vars, v ∈ t.vars

@[simp] theorem rows_push (t : Table) (row : Binding) : (t.push row).rows = t.rows ++ [row] :=
  rfl

@[simp] theorem rows_ofRows (vs : List Var) (rows : List Binding) :
    (ofRows vs rows).rows = rows := rfl

theorem mem_addVar_iff {vs : List Var} {v w : Var} : w ∈ addVar vs v ↔ w ∈ vs ∨ w = v := by
  unfold addVar
  split <;> simp_all

theorem mem_mergeVars_iff {vs ws : List Var} {v : Var} :
    v ∈ mergeVars vs ws ↔ v ∈ vs ∨ v ∈ ws := by
  induction ws generalizing vs with
  | nil => simp [mergeVars]
  | cons w ws ih =>
      have h : mergeVars vs (w :: ws) = mergeVars (addVar vs w) ws := rfl
      rw [h, ih, mem_addVar_iff, List.mem_cons, or_assoc]

theorem mem_vars_ofRows_iff {vs : List Var} {rows : List Binding} {v : Var} :
    v ∈ (ofRows vs rows).vars ↔ v ∈ vs ∨ ∃ row ∈ rows, v ∈ row.vars := by
  induction rows generalizing vs with
  | nil => simp [ofRows]
  | cons row rows ih =>
      have hcons : (ofRows vs (row :: rows)).vars =
          (ofRows (mergeVars vs row.vars) rows).vars := rfl
      rw [hcons, ih, mem_mergeVars_iff]
      simp [or_assoc]

theorem covers_ofRows (vs : List Var) (rows : List Binding) : (ofRows vs rows).Covers :=
  fun row hrow _ hv => mem_vars_ofRows_iff.2 (.inr ⟨row, hrow, hv⟩)

end Table

end GraphAlgebra
