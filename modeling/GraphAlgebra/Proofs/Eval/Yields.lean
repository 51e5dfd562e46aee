import GraphAlgebra.Proofs.Eval.Result
import GraphAlgebra.Proofs.Eval.ServiceCall
/-!
# What the results of runs satisfy

`Run.Yields p x` says that `p` holds of the result of a run, where it has one. It follows the shape
of a run. A service call, a procedure call and the names of the graphs yield what the collaborators
yield, and the few tables that are made in their place (`Dispatcher.callService_yields`,
`Dispatcher.call_yields`, `Dispatcher.nameTable_yields`).
-/

namespace GraphAlgebra

variable {σ α β : Type}

namespace Run

def Yields (p : α → Prop) (x : Run σ α) : Prop := ∀ j a k, x.run j = .ok a k → p a

namespace Yields

variable {p : α → Prop} {q : β → Prop}

theorem pure {a : α} (h : p a) : Yields p (Pure.pure a : Run σ α) := by
  intro j b k hrun
  obtain ⟨rfl, -⟩ := EStateM.Result.ok.inj hrun
  exact h

theorem throw (e : Error) : Yields p (MonadExcept.throw e : Run σ α) := nofun

theorem ofResult {r : Except Error α} (h : YieldsOnly p r) :
    Yields p (Run.ofResult r : Run σ α) := by
  cases r with
  | ok a => exact .pure (h a rfl)
  | error e => exact .throw e

theorem bind {x : Run σ α} {f : α → Run σ β} (hx : Yields p x)
    (hf : ∀ a, p a → Yields q (f a)) : Yields q (x >>= f) := by
  intro j b k hrun
  obtain ⟨a, j₁, hxj, hfa⟩ := run_bind_eq_ok_iff.1 hrun
  exact hf a (hx j a j₁ hxj) j₁ b k hfa

theorem bind_pure {x : Run σ α} (hx : Yields p x) {f : α → β} (hf : ∀ a, p a → q (f a)) :
    Yields q (x >>= fun a => Pure.pure (f a)) :=
  hx.bind fun a ha => .pure (hf a ha)

theorem tick {x : Run σ α} (hx : Yields p x) : Yields p (do Run.tick; x) :=
  fun j => hx { j with operators := j.operators + 1 }

theorem foldlM {f : β → α → Run σ β} {l : List α}
    (hf : ∀ b, q b → ∀ a ∈ l, Yields q (f b a)) {b : β} (hb : q b) : Yields q (l.foldlM f b) := by
  induction l generalizing b with
  | nil => exact .pure hb
  | cons a l ih =>
      rw [List.foldlM_cons]
      refine bind (hf b hb a List.mem_cons_self) fun b' hb' => ?_
      exact ih (fun b hb a ha => hf b hb a (List.mem_cons_of_mem _ ha)) hb'

theorem ask {P : Except Error Table → Prop} (entry : Except Error Table → Call)
    {answer : StateM σ (Except Error Table)} (h : ∀ w, P (answer.run w).1) :
    Yields P (Run.ask entry answer) := by
  intro j r k hrun
  obtain ⟨rfl, -⟩ := EStateM.Result.ok.inj ((run_ask entry answer j).symm.trans hrun)
  exact h j.world

end Yields

end Run

namespace Dispatcher

variable {P : Table → Prop}

theorem settle_yieldsOnly (hunit : P .unit) {r : Except Error Table} (h : YieldsOnly P r)
    (silent : Bool) : YieldsOnly P (settle silent r) := by
  cases r with
  | ok t => exact h
  | error e =>
      rw [settle]
      split
      · exact .ok hunit
      · exact .error e

theorem callService_yields {x : Dispatcher σ} {endpoint : Term} {sub : Op} {silent : Bool}
    (hunit : P .unit)
    (h : ∀ w (rows : List Binding),
      ((x.services endpoint sub silent).run w).1 = .ok (rows.map .ok) → P (.ofRows [] rows)) :
    Run.Yields P (x.callService endpoint sub silent) := by
  by_cases hallow : x.config.allowService = true
  · rw [callService_of_enabled hallow]
    refine Run.Yields.bind (p := YieldsOnly P) (.ask _ fun w t ht => ?_)
      fun r hr => .ofResult (settle_yieldsOnly hunit hr silent)
    obtain ⟨cursor, hcursor, ht⟩ := bind_eq_ok_iff.1 ht
    obtain ⟨rows, rfl, rfl⟩ := Table.ofCursor_eq_ok_iff.1 ht
    exact h w rows hcursor
  · rw [callService_of_disabled (Bool.not_eq_true _ ▸ hallow)]
    exact .ofResult (settle_yieldsOnly hunit (.error _) silent)

theorem call_yields {procedures : Procedures σ} {t : Table} {name : Iri} {args : ProcedureArgs}
    (h : ∀ p, procedures name = some p → ∀ w, YieldsOnly P ((p t args).run w).1) :
    Run.Yields P (procedures.call t name args) := by
  rw [Procedures.call]
  cases hp : procedures name with
  | none => exact .throw _
  | some p =>
      exact Run.Yields.bind (p := YieldsOnly P) (.ask _ (h p hp)) fun r hr => .ofResult hr

theorem nameTable_yields {d : Dataset} {procedures : Procedures σ} {active : Graph}
    (hunit : P .unit) (hempty : P .empty)
    (hnames : ∀ v, P (.ofRows [v] (d.names.map (Binding.single v)))) (place : TermPattern) :
    Run.Yields P (nameTable (d.evaluator procedures active) place) := by
  cases place with
  | var v => exact .pure (hnames v)
  | term name =>
      simp only [nameTable, Dataset.evaluator, pure_bind]
      split
      · exact .throw _
      · split
        · exact .pure hunit
        · exact .pure hempty

end Dispatcher

end GraphAlgebra
