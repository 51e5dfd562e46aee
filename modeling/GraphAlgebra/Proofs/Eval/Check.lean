import GraphAlgebra.Eval.Dispatch
/-!
# What the check of a tree sees

The check walks a tree with a list of pending operators. `Op.nodes` lists the operators of a tree
in the order of that walk, and the loop finds the first of them that is at fault
(`Op.checkPending_eq`). So a tree passes exactly when no operator that is reached through
operands is too deep or an extension (`Op.check_eq_ok_iff`).
-/

namespace GraphAlgebra

namespace Op

/-- What holds of an operator if it holds of its operands, holds of all trees. -/
theorem operands_induction {motive : Op → Prop}
    (step : ∀ op, (∀ o ∈ op.operands, motive o) → motive op) (op : Op) : motive op :=
  step op fun o _ => operands_induction step o
termination_by op
decreasing_by exact sizeOf_lt_of_mem_operands ‹_›

/-- The operators that are reached from a tree through operands, with their depths, where the tree
itself is at the depth `top`. -/
inductive At (root : Op) (top : Nat) : Op → Nat → Prop
  | root : At root top root top
  | operand {op o : Op} {depth : Nat} (h : At root top op depth) (ho : o ∈ op.operands) :
      At root top o (depth + 1)

/-- The operators of a tree with their depths: the tree itself, then those of its operands, the
last operand first. -/
def nodes (op : Op) (depth : Nat) : List (Op × Nat) :=
  (op, depth) :: op.operands.reverse.attach.flatMap fun o => o.1.nodes (depth + 1)
termination_by op
decreasing_by exact sizeOf_lt_of_mem_operands (List.mem_reverse.1 o.2)

theorem nodes_eq (op : Op) (depth : Nat) :
    op.nodes depth = (op, depth) :: op.operands.reverse.flatMap (·.nodes (depth + 1)) := by
  rw [nodes]
  simp only [List.flatMap_subtype, List.unattach_attach]

theorem At.of_operand {root o op : Op} {top depth : Nat} (ho : o ∈ root.operands)
    (h : At o (top + 1) op depth) : At root top op depth := by
  induction h with
  | root => exact .operand .root ho
  | operand _ hmem ih => exact .operand ih hmem

theorem mem_nodes_of_operand {root op o : Op} {top depth : Nat} (h : (op, depth) ∈ root.nodes top)
    (ho : o ∈ op.operands) : (o, depth + 1) ∈ root.nodes top := by
  induction root using operands_induction generalizing top with
  | step root ih =>
      rw [nodes_eq, List.mem_cons, List.mem_flatMap] at h ⊢
      right
      rcases h with h | ⟨p, hp, h⟩
      · obtain ⟨rfl, rfl⟩ := Prod.mk.inj h
        exact ⟨o, List.mem_reverse.2 ho, by simp [nodes_eq o]⟩
      · exact ⟨p, hp, ih p (List.mem_reverse.1 hp) h⟩

theorem mem_nodes_iff {root op : Op} {top depth : Nat} :
    (op, depth) ∈ root.nodes top ↔ At root top op depth := by
  constructor
  · intro h
    induction root using operands_induction generalizing top with
    | step root ih =>
        rw [nodes_eq, List.mem_cons, List.mem_flatMap] at h
        rcases h with h | ⟨o, ho, h⟩
        · obtain ⟨rfl, rfl⟩ := Prod.mk.inj h
          exact .root
        · have ho := List.mem_reverse.1 ho
          exact .of_operand ho (ih o ho h)
  · intro h
    induction h with
    | root => simp [nodes_eq root top]
    | operand _ ho ih => exact mem_nodes_of_operand ih ho

theorem fault?_eq_none_iff {limit depth : Nat} {op : Op} :
    op.fault? limit depth = none ↔
      depth ≤ limit ∧ ∀ name sub, op ≠ .extension name sub := by
  unfold fault?
  split
  next h => simp; omega
  next h =>
    have h : depth ≤ limit := Nat.le_of_not_lt h
    cases op <;> simp [h]

theorem fault?_eq_some_iff {limit depth : Nat} {op : Op} {e : Error} :
    op.fault? limit depth = some e ↔
      (limit < depth ∧ e = .recursionLimit limit) ∨
        (depth ≤ limit ∧ ∃ name sub, op = .extension name sub ∧ e = .unsupportedOperator name) := by
  unfold fault?
  split
  next h => simp [h, Nat.not_le.2 h, eq_comm]
  next h =>
    have h : depth ≤ limit := Nat.le_of_not_lt h
    cases op <;> simp [h, Nat.not_lt.2 h, eq_comm]

/-- The loop finds the first fault of the operators that its pending operators lead to. -/
theorem checkPending_eq (limit : Nat) (pending : List (Op × Nat)) :
    checkPending limit pending =
      ((pending.flatMap fun e => e.1.nodes e.2).findSome? fun e => e.1.fault? limit e.2).elim
        (.ok ()) .error := by
  fun_induction checkPending with
  | case1 => rfl
  | case2 op depth pending e he => simp [nodes_eq op, he]
  | case3 op depth pending he ih =>
      rw [ih, List.flatMap_append, ← List.map_reverse, List.flatMap_map, List.flatMap_cons,
        nodes_eq op, List.cons_append, List.findSome?_cons, he]

theorem check_eq (limit : Nat) (op : Op) :
    op.check limit =
      ((op.nodes 1).findSome? fun e => e.1.fault? limit e.2).elim (.ok ()) .error := by
  simp [check, checkPending_eq]

/-- A tree passes the check exactly when all operators that are reached through operands are within
the limit and none of them is an extension. -/
theorem check_eq_ok_iff {limit : Nat} {op : Op} :
    op.check limit = .ok () ↔
      ∀ o depth, op.At 1 o depth → depth ≤ limit ∧ ∀ name sub, o ≠ .extension name sub := by
  have h : op.check limit = .ok () ↔ ∀ e ∈ op.nodes 1, e.1.fault? limit e.2 = none := by
    rw [check_eq, ← List.findSome?_eq_none_iff]
    cases (op.nodes 1).findSome? fun e => e.1.fault? limit e.2 <;> simp
  simp [h, mem_nodes_iff, fault?_eq_none_iff]

/-- A tree that does not pass has a first operator that is at fault. -/
theorem check_eq_error_iff {limit : Nat} {op : Op} {e : Error} :
    op.check limit = .error e ↔
      ∃ before o depth after, op.nodes 1 = before ++ (o, depth) :: after ∧
        (∀ b ∈ before, b.2 ≤ limit ∧ ∀ name sub, b.1 ≠ .extension name sub) ∧
        ((limit < depth ∧ e = .recursionLimit limit) ∨
          (depth ≤ limit ∧
            ∃ name sub, o = .extension name sub ∧ e = .unsupportedOperator name)) := by
  have h : op.check limit = .error e ↔
      ((op.nodes 1).findSome? fun b => b.1.fault? limit b.2) = some e := by
    rw [check_eq]
    cases (op.nodes 1).findSome? fun b => b.1.fault? limit b.2 <;> simp
  simp only [h, List.findSome?_eq_some_iff, fault?_eq_none_iff, Prod.exists, fault?_eq_some_iff]
  constructor
  · rintro ⟨before, o, depth, after, heq, hfault, hbefore⟩
    exact ⟨before, o, depth, after, heq, hbefore, hfault⟩
  · rintro ⟨before, o, depth, after, heq, hbefore, hfault⟩
    exact ⟨before, o, depth, after, heq, hfault, hbefore⟩

end Op

end GraphAlgebra
