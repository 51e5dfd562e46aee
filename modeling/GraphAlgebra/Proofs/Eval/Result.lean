import GraphAlgebra.Proofs.Eval.Check
/-!
# Runs that have a result

`Run.Returns x p` says that a run ends well from every journal, with a result of which `p` holds. It
follows the shape of a run. A tree within the limit and without extensions passes the check, so its
run is its evaluation (`Op.run_eq_eval`); `Op.height` is its number of levels.
-/

namespace GraphAlgebra

variable {σ α β Scope : Type}

namespace Run

theorem run_bind_eq_ok_iff {x : Run σ α} {f : α → Run σ β} {j k : Journal σ} {b : β} :
    (x >>= f).run j = .ok b k ↔ ∃ a j₁, x.run j = .ok a j₁ ∧ (f a).run j₁ = .ok b k := by
  rw [EStateM.run_bind]
  cases x.run j with
  | error e j₁ => simp
  | ok a j₁ =>
      constructor
      · intro h
        exact ⟨a, j₁, rfl, h⟩
      · rintro ⟨a', j', heq, h⟩
        obtain ⟨rfl, rfl⟩ := EStateM.Result.ok.inj heq
        exact h

/-- The run has a result from every journal, and `p` holds of the result. -/
def Returns (x : Run σ α) (p : α → Prop) : Prop := ∀ j, ∃ a j', x.run j = .ok a j' ∧ p a

namespace Returns

variable {p : α → Prop} {q : β → Prop}

theorem pure {a : α} (h : p a) : Returns (Pure.pure a : Run σ α) p := fun j => ⟨a, j, rfl, h⟩

theorem bind {x : Run σ α} {f : α → Run σ β} (hx : Returns x p)
    (hf : ∀ a, p a → Returns (f a) q) : Returns (x >>= f) q := by
  intro j
  obtain ⟨a, j₁, hrun, ha⟩ := hx j
  obtain ⟨b, j₂, hrun', hb⟩ := hf a ha j₁
  refine ⟨b, j₂, ?_, hb⟩
  rw [EStateM.run_bind, hrun]
  exact hrun'

theorem bind_pure {x : Run σ α} (hx : Returns x p) {f : α → β} (hf : ∀ a, p a → q (f a)) :
    Returns (x >>= fun a => Pure.pure (f a)) q :=
  hx.bind fun a ha => .pure (hf a ha)

theorem tick {x : Run σ α} (hx : Returns x p) : Returns (do Run.tick; x) p :=
  fun j => hx { j with operators := j.operators + 1 }

theorem foldlM_eq {f : β → α → Run σ β} {step : β → α → β}
    (h : ∀ b a, Returns (f b a) (· = step b a)) (l : List α) (b : β) :
    Returns (l.foldlM f b) (· = l.foldl step b) := by
  induction l generalizing b with
  | nil => exact .pure rfl
  | cons a l ih =>
      rw [List.foldlM_cons, List.foldl_cons]
      refine (h b a).bind fun b' hb' => ?_
      rw [hb']
      exact ih _

end Returns

end Run

namespace Op

/-- The number of operators on the longest way down a tree through operands. -/
def height : Op → Nat
  | .join l r | .sequence l r | .leftJoin l r _ | .diff l r | .union l r =>
      max l.height r.height + 1
  | .procedure sub _ _ | .filter _ sub | .graph _ sub | .extension _ sub | .order sub _
  | .project sub _ | .slice sub _ _ | .assign sub _ | .group sub _ _ | .list sub
  | .distinct sub | .reduced sub => sub.height + 1
  | .bgp _ | .quads .. | .service .. | .datasetNames _ | .table _ | .null => 1

theorem height_pos (op : Op) : 0 < op.height := by
  cases op <;> simp [height]

theorem height_lt_of_mem_operands {op o : Op} (h : o ∈ op.operands) : o.height < op.height := by
  cases op <;> simp [operands, height] at h ⊢ <;> (try rcases h with rfl | rfl) <;> omega

/-- An operator that is reached through operands is not deeper than the tree is high. -/
theorem At.add_height_le {root op : Op} {top depth : Nat} (h : At root top op depth) :
    depth + op.height ≤ top + root.height := by
  induction h with
  | root => exact Nat.le_refl _
  | @operand op o depth _ ho ih =>
      have hlt : o.height < op.height := height_lt_of_mem_operands ho
      omega

/-- What holds of a tree at its depth and of all that its operands reach holds of all that it
reaches, and conversely. -/
theorem forall_at_iff {motive : Op → Nat → Prop} {root : Op} {top : Nat} :
    (∀ o depth, At root top o depth → motive o depth) ↔
      motive root top ∧
        ∀ p ∈ root.operands, ∀ o depth, At p (top + 1) o depth → motive o depth := by
  constructor
  · intro h
    exact ⟨h root top .root, fun p hp o depth ho => h o depth (.of_operand hp ho)⟩
  · rintro ⟨hroot, hoperand⟩ o depth h
    rw [← mem_nodes_iff, nodes_eq, List.mem_cons, List.mem_flatMap] at h
    rcases h with h | ⟨p, hp, h⟩
    · obtain ⟨rfl, rfl⟩ := Prod.mk.inj h
      exact hroot
    · exact hoperand p (List.mem_reverse.1 hp) o depth (mem_nodes_iff.1 h)

theorem forall_at_of_operands {motive : Op → Prop} {root : Op} {top : Nat} (hroot : motive root)
    (hoperand : ∀ p ∈ root.operands, ∀ o depth, At p (top + 1) o depth → motive o) :
    ∀ o depth, At root top o depth → motive o :=
  forall_at_iff.2 ⟨hroot, hoperand⟩

theorem check_eq_ok_of_height_le {limit : Nat} {op : Op} (hheight : op.height ≤ limit)
    (hop : ∀ o depth, op.At 1 o depth → ∀ name sub, o ≠ .extension name sub) :
    op.check limit = .ok () := by
  refine check_eq_ok_iff.2 fun o depth h => ⟨?_, hop o depth h⟩
  have hle : depth + o.height ≤ 1 + op.height := h.add_height_le
  have hpos : 0 < o.height := o.height_pos
  omega

end Op

theorem Dispatcher.run_eq_eval {x : Dispatcher σ} {op : Op}
    (h : op.check x.config.maxDepth = .ok ()) (evs : Scope → Evaluator σ Scope) (s : Scope) :
    x.run evs op s = x.eval evs op s := by
  rw [run, h]

namespace Op

variable {c : Context σ} {op : Op}

theorem run_eq_eval (h : op.check c.config.maxDepth = .ok ()) (d : Dataset) :
    op.run c d = op.eval c d d.defaultGraph :=
  Dispatcher.run_eq_eval h _ _

theorem eval_eq_ok_of_run {d : Dataset} {j k : Journal σ} {t : Table}
    (h : (op.run c d).run j = .ok t k) : (op.eval c d d.defaultGraph).run j = .ok t k := by
  cases hcheck : op.check c.config.maxDepth with
  | ok _ => rwa [run_eq_eval hcheck] at h
  | error e =>
      rw [run, Dispatcher.run, hcheck] at h
      contradiction

theorem eval_eq_step (c : Context σ) (d : Dataset) (active : Graph) (op : Op) :
    op.eval c d active = (do
      Run.tick
      c.toDispatcher.step (d.evaluator c.procedures) active op
        fun o _ inner => o.eval c d inner) := by
  rw [eval, Dispatcher.eval]
  rfl

end Op

end GraphAlgebra
