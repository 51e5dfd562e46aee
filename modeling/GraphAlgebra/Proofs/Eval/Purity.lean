import GraphAlgebra.Eval.Engine
import GraphAlgebra.Proofs.Eval.Congruence
import GraphAlgebra.Proofs.Eval.ServiceCall
import Mathlib.Tactic.Choose
/-!
# Collaborators without a memory

Services and procedures may look at the state of the world. They are pure if they do not: the same
request has the same answer in every state. Over pure collaborators every run is steady
(`Dispatcher.run_steady`): from all journals it has one `Effect`, which is its outcome, the number
of operators that it counts and the calls that it makes. The local services of an engine are pure.
-/

namespace GraphAlgebra

variable {σ α β : Type}

/-- What comes of a run: its outcome, the number of operators that it counts and the calls that it
makes. -/
structure Effect (α : Type) where
  outcome : Except Error α
  operators : Nat
  calls : List Call

/-- An effect and what comes of its result, where it has one. -/
def Effect.andThen (e : Effect α) (f : α → Effect β) : Effect β :=
  match e.outcome with
  | .ok a => ⟨(f a).outcome, e.operators + (f a).operators, e.calls ++ (f a).calls⟩
  | .error err => ⟨.error err, e.operators, e.calls⟩

namespace Run

def outcome (x : Run σ α) (j : Journal σ) : Except Error α :=
  match x.run j with
  | .ok a _ => .ok a
  | .error e _ => .error e

def journal (x : Run σ α) (j : Journal σ) : Journal σ :=
  match x.run j with
  | .ok _ j' => j'
  | .error _ j' => j'

theorem outcome_eq_ok_iff {x : Run σ α} {j : Journal σ} {a : α} :
    x.outcome j = .ok a ↔ ∃ j', x.run j = .ok a j' := by
  unfold outcome
  cases x.run j <;> simp

theorem outcome_bind (x : Run σ α) (f : α → Run σ β) (j : Journal σ) :
    (x >>= f).outcome j = x.outcome j >>= fun a => (f a).outcome (x.journal j) := by
  simp only [outcome, journal, EStateM.run_bind]
  cases x.run j <;> rfl

theorem journal_bind (x : Run σ α) (f : α → Run σ β) (j : Journal σ) :
    (x >>= f).journal j =
      match x.outcome j with
      | .ok a => (f a).journal (x.journal j)
      | .error _ => x.journal j := by
  simp only [outcome, journal, EStateM.run_bind]
  cases x.run j <;> rfl

/-- Runs that match have a result both or neither, from any two journals, and their results are
related. -/
def Matches (related : α → β → Prop) (x : Run σ α) (y : Run σ β) : Prop :=
  ∀ j j', ((∃ a k, x.run j = .ok a k) ↔ ∃ b k, y.run j' = .ok b k) ∧
    ∀ a b k k', x.run j = .ok a k → y.run j' = .ok b k' → related a b

/-- The run has an effect, whatever journal it starts with. -/
structure Does (x : Run σ α) (e : Effect α) : Prop where
  outcome : ∀ j, x.outcome j = e.outcome
  operators : ∀ j, (x.journal j).operators = j.operators + e.operators
  calls : ∀ j, (x.journal j).calls = j.calls ++ e.calls

namespace Does

theorem pure (a : α) : Does (Pure.pure a : Run σ α) ⟨.ok a, 0, []⟩ :=
  ⟨fun _ => rfl, fun _ => rfl, fun j => (List.append_nil j.calls).symm⟩

theorem throw (e : Error) : Does (MonadExcept.throw e : Run σ α) ⟨.error e, 0, []⟩ :=
  ⟨fun _ => rfl, fun _ => rfl, fun j => (List.append_nil j.calls).symm⟩

theorem bind {x : Run σ α} {f : α → Run σ β} {e : Effect α} {k : α → Effect β} (hx : x.Does e)
    (hf : ∀ a, (f a).Does (k a)) : (x >>= f).Does (e.andThen k) := by
  obtain ⟨outcome, operators, calls⟩ := e
  cases outcome with
  | error err =>
      constructor
      · intro j
        rw [outcome_bind, hx.outcome]
        rfl
      · intro j
        rw [journal_bind, hx.outcome]
        exact hx.operators j
      · intro j
        rw [journal_bind, hx.outcome]
        exact hx.calls j
  | ok a =>
      constructor
      · intro j
        rw [outcome_bind, hx.outcome]
        exact (hf a).outcome _
      · intro j
        rw [journal_bind, hx.outcome]
        exact ((hf a).operators _).trans (by rw [hx.operators, Nat.add_assoc]; rfl)
      · intro j
        rw [journal_bind, hx.outcome]
        exact ((hf a).calls _).trans (by rw [hx.calls, List.append_assoc]; rfl)

theorem tick {x : Run σ α} {e : Effect α} (hx : x.Does e) :
    Does (do Run.tick; x) { e with operators := e.operators + 1 } := by
  constructor
  · intro j
    exact hx.outcome _
  · intro j
    exact (hx.operators _).trans (by simp only; omega)
  · intro j
    exact hx.calls _

theorem ask {answer : StateM σ (Except Error Table)} {r : Except Error Table}
    (h : ∀ w, (answer.run w).1 = r) (entry : Except Error Table → Call) :
    Does (Run.ask entry answer) ⟨.ok r, 0, [entry r]⟩ := by
  constructor
  · intro j
    simp [Run.outcome, h]
  · intro j
    simp [Run.journal]
  · intro j
    simp [Run.journal, h]

end Does

def Steady (x : Run σ α) : Prop := ∃ e, x.Does e

namespace Steady

theorem pure (a : α) : Steady (Pure.pure a : Run σ α) := ⟨_, .pure a⟩

theorem ofResult (r : Except Error α) : Steady (Run.ofResult r : Run σ α) := by
  cases r with
  | ok a => exact ⟨_, .pure a⟩
  | error e => exact ⟨_, .throw e⟩

theorem bind {x : Run σ α} {f : α → Run σ β} (hx : x.Steady) (hf : ∀ a, (f a).Steady) :
    (x >>= f).Steady := by
  obtain ⟨e, he⟩ := hx
  choose k hk using hf
  exact ⟨_, he.bind hk⟩

theorem closed : Closed (σ := σ) fun _ => Steady where
  pure := pure
  throw e := ⟨_, .throw e⟩
  tick := ⟨_, (Does.pure ()).tick⟩
  bind := bind

theorem bind_pure {x : Run σ α} (hx : x.Steady) (f : α → β) :
    Steady (x >>= fun a => Pure.pure (f a)) :=
  hx.bind fun a => .pure (f a)

theorem foldlM {f : β → α → Run σ β} (h : ∀ b a, (f b a).Steady) (l : List α) (b : β) :
    Steady (l.foldlM f b) := by
  induction l generalizing b with
  | nil => exact .pure b
  | cons a l ih =>
      rw [List.foldlM_cons]
      exact (h b a).bind ih

theorem outcome_eq {x : Run σ α} (hx : x.Steady) (j j' : Journal σ) :
    x.outcome j = x.outcome j' := by
  obtain ⟨e, he⟩ := hx
  rw [he.outcome, he.outcome]

/-- Steady runs that follow another run end as they would from where that one started. -/
theorem outcome_bind {x : Run σ α} {f : α → Run σ β} (hf : ∀ a, (f a).Steady) (j : Journal σ) :
    (x >>= f).outcome j = x.outcome j >>= fun a => (f a).outcome j := by
  rw [Run.outcome_bind]
  exact congrArg (x.outcome j >>= ·) (funext fun a => (hf a).outcome_eq _ j)

theorem outcome_tick {x : Run σ α} (hx : x.Steady) (j : Journal σ) :
    Run.outcome (do Run.tick; x) j = x.outcome j :=
  hx.outcome_eq _ j

theorem outcome_foldlM {f : β → α → Run σ β} (h : ∀ b a, (f b a).Steady) (l : List α) (b : β)
    (j : Journal σ) : (l.foldlM f b).outcome j = l.foldlM (fun b a => (f b a).outcome j) b := by
  induction l generalizing b with
  | nil => rfl
  | cons a l ih =>
      rw [List.foldlM_cons, List.foldlM_cons, outcome_bind fun b => foldlM h l b]
      exact congrArg ((f b a).outcome j >>= ·) (funext ih)

theorem matches_of_outcome {x : Run σ α} {y : Run σ β} {related : α → β → Prop} (hy : y.Steady)
    (h : ∀ j, ((∃ a, x.outcome j = .ok a) ↔ ∃ b, y.outcome j = .ok b) ∧
      ∀ a b, x.outcome j = .ok a → y.outcome j = .ok b → related a b) : Matches related x y := by
  intro j j'
  obtain ⟨hexists, hrelated⟩ := h j
  simp only [hy.outcome_eq j j', outcome_eq_ok_iff] at hexists hrelated
  exact ⟨hexists, fun a b k k' ha hb => hrelated a b ⟨k, ha⟩ ⟨k', hb⟩⟩

end Steady

end Run

/-- A service has one answer to a request, whatever the state of the world is. -/
def Services.Pure (services : Services σ) : Prop :=
  ∀ endpoint sub silent, ∃ answer, ∀ w, ((services endpoint sub silent).run w).1 = answer

def Procedures.Pure (procedures : Procedures σ) : Prop :=
  ∀ name p, procedures name = some p → ∀ t args, ∃ answer, ∀ w, ((p t args).run w).1 = answer

structure Context.Pure (c : Context σ) : Prop where
  services : c.services.Pure
  procedures : c.procedures.Pure

namespace Dispatcher

variable {c : Context σ} {d : Dataset} {active : Graph}

theorem callService_steady (hc : c.Pure) (endpoint : Term) (sub : Op) (silent : Bool) :
    (c.toDispatcher.callService endpoint sub silent).Steady := by
  by_cases hallow : c.config.allowService = true
  · rw [callService_of_enabled hallow]
    obtain ⟨answer, hanswer⟩ := hc.services endpoint sub silent
    refine Run.Steady.bind ⟨_, .ask (r := answer.bind Table.ofCursor) ?_ _⟩
      fun outcome => .ofResult (settle silent outcome)
    intro w
    exact congrArg (Except.bind · Table.ofCursor) (hanswer w)
  · rw [callService_of_disabled (Bool.not_eq_true _ ▸ hallow)]
    exact .ofResult _

theorem call_steady (hc : c.Pure) (t : Table) (name : Iri) (args : ProcedureArgs) :
    (c.procedures.call t name args).Steady := by
  rw [Procedures.call]
  split
  next => exact .ofResult _
  next p hp =>
    obtain ⟨answer, hanswer⟩ := hc.procedures name p hp t args
    exact Run.Steady.bind ⟨_, .ask hanswer _⟩ fun outcome => .ofResult outcome

theorem related_self (hc : c.Pure) : c.Related (Run.Same fun _ => Run.Steady) c where
  service endpoint sub silent := ⟨rfl, callService_steady hc endpoint sub silent⟩
  procedure t name args := ⟨rfl, call_steady hc t name args⟩

theorem graphStep_steady {body : Graph → Run σ Table} (h : ∀ g, (body g).Steady) (v : Var)
    (done : Table) (name : Term) :
    (graphStep (d.evaluator c.procedures active) v body done name).Steady :=
  (graphStep_congr Run.Steady.closed.congruence c c (fun g => ⟨rfl, h g⟩) v done name).2

theorem inGraph_steady {body : Graph → Run σ Table} (h : ∀ g, (body g).Steady)
    (p : TermPattern) : (inGraph (d.evaluator c.procedures active) p body).Steady :=
  (inGraph_congr Run.Steady.closed.congruence c c (fun g => ⟨rfl, h g⟩) p).2

end Dispatcher

theorem Op.eval_steady {c : Context σ} (hc : c.Pure) (d : Dataset) (active : Graph) (op : Op) :
    (op.eval c d active).Steady :=
  (op.eval_congr Run.Steady.closed.congruence (Dispatcher.related_self hc) d active).2

theorem Dispatcher.run_steady {c : Context σ} (hc : c.Pure) (d : Dataset) (op : Op)
    (active : Graph) : (c.toDispatcher.run (d.evaluator c.procedures) op active).Steady :=
  (run_congr Run.Steady.closed.congruence (related_self hc) rfl d active op).2

theorem noServices_pure : (noServices : Services σ).Pure := fun _ _ _ => ⟨_, fun _ => rfl⟩

theorem builtinProcedures_pure : (builtinProcedures : Procedures σ).Pure := by
  intro name p hp t args
  obtain rfl := eq_strSplit_of_builtinProcedures hp
  exact ⟨_, fun _ => rfl⟩

/-- Datasets that are served locally answer without a memory if the procedures do. -/
theorem localServices_pure {procedures : Procedures σ} (hp : procedures.Pure)
    (endpoints : SortedMap Term Dataset) (config : Config) :
    (localServices endpoints procedures config).Pure := by
  intro endpoint sub silent
  unfold localServices
  cases endpoints.get? endpoint with
  | none => exact ⟨_, fun _ => rfl⟩
  | some d =>
      let engine : Engine σ := { dataset := d, procedures := procedures, config := config }
      have hsteady : (sub.run engine.context d).Steady :=
        Dispatcher.run_steady ⟨noServices_pure, hp⟩ d sub d.defaultGraph
      obtain ⟨e, he⟩ := hsteady
      have hanswer (w : σ) : (engine.execute sub w).1.map (fun a => a.table.rows) =
          e.outcome.map Table.rows := by
        rw [← he.outcome (.start w), Engine.execute, Run.outcome]
        cases (sub.run engine.context d).run (.start w) <;> rfl
      refine ⟨(e.outcome.map Table.rows).map fun rows => rows.map .ok, fun w => ?_⟩
      rw [← hanswer w]
      change (engine.execute sub w).1.map _ = _
      cases (engine.execute sub w).1 <;> rfl

end GraphAlgebra
