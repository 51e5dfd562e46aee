import GraphAlgebra.Proofs.Eval.Congruence
import GraphAlgebra.Proofs.Eval.Purity
import GraphAlgebra.Proofs.Eval.ServiceCall
/-!
# Disabled services

Where services are disabled a call fails at once, and where there are none it fails when it is made.
`Run.Alike` says of two runs that they end with the same table, or with errors that differ at most
in the fault of a service, and that their journals differ at most in calls of services. A tree whose
services are disabled runs alike with no services (`Dispatcher.run_disabled`).
-/

namespace GraphAlgebra

variable {σ α β : Type}

/-- A journal in which the calls of services are left out. -/
def Journal.withoutServices (j : Journal σ) : Journal σ :=
  { j with calls := j.calls.filter fun call => !call.isService }

theorem Journal.withoutServices_eq_iff {j j' : Journal σ} :
    j.withoutServices = j'.withoutServices ↔ j.operators = j'.operators ∧
      (j.calls.filter fun call => !call.isService) =
        (j'.calls.filter fun call => !call.isService) ∧ j.world = j'.world :=
  Journal.ext_iff

/-- Errors that differ at most in the fault of a service. -/
inductive Error.Alike : Error → Error → Prop
  | refl (e : Error) : Alike e e
  | service (f f' : ServiceFault) : Alike (.service f) (.service f')

namespace Run

/-- Two ends of runs: the same result or errors that are alike, and journals that differ at most in
calls of services. -/
inductive EndAlike : EStateM.Result Error (Journal σ) α → EStateM.Result Error (Journal σ) α → Prop
  | ok (a : α) {k k' : Journal σ} (hk : k.withoutServices = k'.withoutServices) :
      EndAlike (.ok a k) (.ok a k')
  | error {e e' : Error} (he : e.Alike e') {k k' : Journal σ}
      (hk : k.withoutServices = k'.withoutServices) : EndAlike (.error e k) (.error e' k')

/-- The runs end alike from journals that differ at most in calls of services. -/
def Alike (x y : Run σ α) : Prop :=
  ∀ j j' : Journal σ, j.withoutServices = j'.withoutServices → EndAlike (x.run j) (y.run j')

theorem EndAlike.journal {x y : Run σ α} {j j' : Journal σ} (h : EndAlike (x.run j) (y.run j')) :
    (x.journal j).withoutServices = (y.journal j').withoutServices := by
  rw [Run.journal, Run.journal]
  generalize x.run j = r at h ⊢
  generalize y.run j' = r' at h ⊢
  cases h <;> assumption

theorem alike_congruence : Congruence (σ := σ) fun _ => Alike where
  pure a _ _ hj := .ok a hj
  throw e _ _ hj := .error (.refl e) hj
  tick j j' hj := by
    obtain ⟨hoperators, hrest⟩ := Journal.withoutServices_eq_iff.1 hj
    exact .ok () (Journal.withoutServices_eq_iff.2 ⟨congrArg (· + 1) hoperators, hrest⟩)
  bind {α β x y f g} hx hf j j' hj := by
    have hend : EndAlike (x.run j) (y.run j') := hx j j' hj
    rw [EStateM.run_bind, EStateM.run_bind]
    cases hxj : x.run j <;> cases hyj : y.run j' <;> rw [hxj, hyj] at hend
    all_goals cases hend
    case ok.ok.ok a k k' hk => exact hf a k k' hk
    case error.error.error e k e' k' he hk => exact .error he hk

theorem Alike.ask (entry : Except Error Table → Call) (answer : StateM σ (Except Error Table)) :
    Alike (Run.ask entry answer) (Run.ask entry answer) := by
  intro j j' hj
  obtain ⟨hoperators, hcalls, hworld⟩ := Journal.withoutServices_eq_iff.1 hj
  rw [run_ask, run_ask, ← hworld]
  refine .ok _ (Journal.withoutServices_eq_iff.2 ⟨hoperators, ?_, rfl⟩)
  rw [List.filter_append, List.filter_append, hcalls]

def Serviceless (x : Run σ α) : Prop := ∀ j, (x.journal j).serviceCalls = j.serviceCalls

theorem serviceless_closed : Closed (σ := σ) fun _ => Serviceless where
  pure a j := rfl
  throw e j := rfl
  tick j := rfl
  bind {α β x f} hx hf j := by
    rw [journal_bind]
    split
    next a _ => rw [hf a, hx]
    next => exact hx j

theorem Serviceless.ask {entry : Except Error Table → Call}
    (h : ∀ r, (entry r).isService = false) (answer : StateM σ (Except Error Table)) :
    Serviceless (Run.ask entry answer) := by
  intro j
  rw [journal, run_ask]
  simp [Journal.serviceCalls, h]

end Run

namespace Dispatcher

/-- Disabled services and no services fail alike. -/
theorem callService_alike {x y : Dispatcher σ} (hx : x.config.allowService = false)
    (hy : y.config.allowService = true) (hservices : y.services = noServices) (endpoint : Term)
    (sub : Op) (silent : Bool) :
    Run.Alike (x.callService endpoint sub silent) (y.callService endpoint sub silent) := by
  rw [callService_of_disabled hx, callService_of_enabled hy, hservices]
  intro j j' hj
  let failed : Call :=
    .service endpoint sub silent (.error (.service (.noExecutor endpoint)))
  have hfailed : j.withoutServices =
      Journal.withoutServices { j' with calls := j'.calls ++ [failed] } := by
    rw [hj, Journal.withoutServices, Journal.withoutServices, List.filter_append]
    simp [failed, Call.isService]
  cases silent with
  | true => exact .ok Table.unit hfailed
  | false => exact .error (.service _ _) hfailed

/-- Disabled services are not called, so it does not matter what they are. -/
theorem callService_serviceless {x y : Dispatcher σ} (hx : x.config.allowService = false)
    (hy : y.config.allowService = false) (endpoint : Term) (sub : Op) (silent : Bool) :
    Run.Same (fun _ => Run.Serviceless) Table (x.callService endpoint sub silent)
      (y.callService endpoint sub silent) := by
  rw [callService_of_disabled hx, callService_of_disabled hy]
  exact Run.serviceless_closed.congruence.ofResult _

section

variable (procedures : Procedures σ) (t : Table) (name : Iri) (args : ProcedureArgs)

theorem call_alike :
    Run.Alike (procedures.call t name args) (procedures.call t name args) := by
  rw [Procedures.call]
  cases procedures name with
  | none => exact Run.alike_congruence.ofResult _
  | some p => exact Run.alike_congruence.bind (.ask _ _) Run.alike_congruence.ofResult

theorem call_serviceless : Run.Serviceless (procedures.call t name args) := by
  rw [Procedures.call]
  cases procedures name with
  | none => exact Run.serviceless_closed.ofResult _
  | some p =>
      exact Run.serviceless_closed.bind (.ask (fun _ => rfl) _) Run.serviceless_closed.ofResult

end

/-- A tree whose services are disabled runs as it does without services. Either both runs have the
same table, or both have an error, and the errors differ at most in the fault of a service. They
evaluate the same number of operators, call the same procedures and leave the same world. Disabled
services are never called, so that it does not matter what they are. -/
theorem run_disabled (services : Services σ) (procedures : Procedures σ) (limit : Nat)
    (d : Dataset) (active : Graph) (op : Op) (j : Journal σ) :
    let c (services : Services σ) (allowed : Bool) : Context σ :=
      ⟨⟨services, ⟨allowed, limit⟩⟩, procedures⟩
    let run (services : Services σ) (allowed : Bool) :=
      (c services allowed).toDispatcher.run (d.evaluator procedures) op active
    Run.EndAlike ((run services false).run j) ((run noServices true).run j) ∧
      ((run services false).journal j).operators = ((run noServices true).journal j).operators ∧
      ((run services false).journal j).serviceCalls = j.serviceCalls ∧
      ∀ services', run services' false = run services false := by
  intro c run
  have halike : (c services false).Related (fun _ => Run.Alike) (c noServices true) :=
    ⟨callService_alike rfl rfl rfl, call_alike procedures⟩
  have hserviceless (services' : Services σ) :
      (c services' false).Related (Run.Same fun _ => Run.Serviceless) (c services false) :=
    ⟨callService_serviceless rfl rfl, fun t name args => ⟨rfl, call_serviceless _ t name args⟩⟩
  have hend : Run.EndAlike ((run services false).run j) ((run noServices true).run j) :=
    run_congr Run.alike_congruence halike rfl d active op j j rfl
  have hsame (services' : Services σ) :
      Run.Same (fun _ => Run.Serviceless) Table (run services' false) (run services false) :=
    run_congr Run.serviceless_closed.congruence (hserviceless services') rfl d active op
  have hoperators := (Journal.withoutServices_eq_iff.1 hend.journal).1
  exact ⟨hend, hoperators, (hsame services).2 j, fun services' => (hsame services').1⟩

end Dispatcher

end GraphAlgebra
