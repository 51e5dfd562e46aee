import GraphAlgebra.Proofs.Eval.Schedule
import GraphAlgebra.Proofs.Eval.ServiceCall
/-!
# What the numbers of an answer count

An operator is evaluated as often as the graph operators around it have rounds. `Op.weight` sums a
number for each operator over these evaluations. `Run.Counts` says how many operators and service
calls a run adds to its journal where it has a result, and for the evaluation of a tree these are
weights, whatever services and procedures do (`Op.eval_counts`). So the numbers of an answer are
known from the tree and the dataset. Main statement: `Engine.execute_counts`.
-/

namespace GraphAlgebra

variable {σ α β : Type}

namespace Op

/-- The sum of a number for each operator of a tree over its evaluations over a dataset. The operand
of a service is not evaluated. -/
def weight (d : Dataset) (own : Op → Nat) (op : Op) : Nat :=
  (match op with
    | .graph p sub => d.rounds p * sub.weight d own
    | .join l r | .sequence l r | .leftJoin l r _ | .diff l r | .union l r =>
        l.weight d own + r.weight d own
    | .procedure sub _ _ | .filter _ sub | .extension _ sub | .order sub _ | .project sub _
    | .slice sub _ _ | .assign sub _ | .group sub _ _ | .list sub | .distinct sub
    | .reduced sub => sub.weight d own
    | .bgp _ | .quads .. | .service .. | .datasetNames _ | .table _ | .null => 0) + own op

def serviceCount : Op → Nat
  | .service .. => 1
  | _ => 0

end Op

namespace Run

/-- Where the run has a result, it has added `m` to the number of operators and, if services are
allowed, `n` to that of service calls. -/
def Counts (allowed : Bool) (m n : Nat) (x : Run σ α) : Prop :=
  ∀ j a k, x.run j = .ok a k →
    k.operators = j.operators + m ∧ k.serviceCalls = j.serviceCalls + if allowed then n else 0

namespace Counts

variable {allowed : Bool} {m n m' n' : Nat}

theorem pure (a : α) : Counts allowed 0 0 (Pure.pure a : Run σ α) := by
  intro j b k h
  obtain ⟨-, rfl⟩ := EStateM.Result.ok.inj h
  exact ⟨rfl, by rw [ite_self, Nat.add_zero]⟩

theorem throw (e : Error) : Counts allowed m n (MonadExcept.throw e : Run σ α) := nofun

theorem ofResult (r : Except Error α) : Counts allowed 0 0 (Run.ofResult r : Run σ α) := by
  cases r with
  | ok a => exact .pure a
  | error e => exact .throw e

theorem bind {x : Run σ α} {f : α → Run σ β} (hx : Counts allowed m n x)
    (hf : ∀ a, Counts allowed m' n' (f a)) : Counts allowed (m + m') (n + n') (x >>= f) := by
  intro j b k h
  obtain ⟨a, j₁, hrun, hrun'⟩ := run_bind_eq_ok_iff.1 h
  obtain ⟨hoperators, hservices⟩ := hx j a j₁ hrun
  obtain ⟨hoperators', hservices'⟩ := hf a j₁ b k hrun'
  constructor
  · rw [hoperators', hoperators, Nat.add_assoc]
  · rw [hservices', hservices]
    cases allowed with
    | false => rfl
    | true => exact Nat.add_assoc _ _ _

theorem bind_ofResult {x : Run σ α} (hx : Counts allowed m n x) (f : α → Except Error β) :
    Counts allowed m n (x >>= fun a => Run.ofResult (f a)) :=
  hx.bind fun a => .ofResult (f a)

theorem bind_pure {x : Run σ α} (hx : Counts allowed m n x) (f : α → β) :
    Counts allowed m n (x >>= fun a => Pure.pure (f a)) :=
  hx.bind fun a => .pure (f a)

theorem tick {x : Run σ α} (hx : Counts allowed m n x) :
    Counts allowed (m + 1) n (do Run.tick; x) := by
  intro j a k h
  obtain ⟨hoperators, hservices⟩ := hx { j with operators := j.operators + 1 } a k h
  exact ⟨by rw [hoperators, Nat.add_right_comm, Nat.add_assoc], hservices⟩

theorem foldlM {f : β → α → Run σ β} {l : List α} (h : ∀ b, ∀ a ∈ l, Counts allowed m n (f b a))
    (b : β) : Counts allowed (l.length * m) (l.length * n) (l.foldlM f b) := by
  induction l generalizing b with
  | nil =>
      rw [List.length_nil, Nat.zero_mul, Nat.zero_mul]
      exact .pure b
  | cons a l ih =>
      have hl : ∀ b, ∀ a ∈ l, Counts allowed m n (f b a) :=
        fun b a ha => h b a (List.mem_cons_of_mem _ ha)
      rw [List.foldlM_cons, List.length_cons, Nat.succ_mul, Nat.succ_mul, Nat.add_comm _ m,
        Nat.add_comm _ n]
      exact (h b a List.mem_cons_self).bind (ih hl)

theorem ask {entry : Except Error Table → Call} (answer : StateM σ (Except Error Table))
    (h : ∀ outcome, (if (entry outcome).isService then 1 else 0) = if allowed then n else 0) :
    Counts allowed 0 n (Run.ask entry answer) := by
  intro j a k hrun
  obtain ⟨-, rfl⟩ := EStateM.Result.ok.inj ((run_ask entry answer j).symm.trans hrun)
  refine ⟨rfl, ?_⟩
  rw [Journal.serviceCalls, List.countP_append, List.countP_singleton, h]
  rfl

end Counts

end Run

namespace Dispatcher

variable {c : Context σ} {d : Dataset} {active : Graph} {allowed : Bool} {m n : Nat}

/-- A request to a service is one call, whether it comes out well or not. -/
theorem callService_counts (x : Dispatcher σ) (endpoint : Term) (sub : Op) (silent : Bool) :
    Run.Counts x.config.allowService 0 1 (x.callService endpoint sub silent) := by
  by_cases hallow : x.config.allowService = true
  · rw [callService_of_enabled hallow, hallow]
    have hasked : Run.Counts true 0 1 (Run.ask (.service endpoint sub silent) do
        let answer ← x.services endpoint sub silent
        pure (answer.bind Table.ofCursor)) := .ask _ fun _ => rfl
    exact hasked.bind_ofResult (settle silent)
  · rw [Bool.not_eq_true] at hallow
    rw [callService_of_disabled hallow, hallow]
    have h : Run.Counts false 0 0 (Run.ofResult (σ := σ)
        (settle silent (.error (.service (.disabled endpoint))))) := .ofResult _
    exact h

theorem call_counts (procedures : Procedures σ) (t : Table) (name : Iri) (args : ProcedureArgs) :
    Run.Counts allowed 0 0 (procedures.call t name args) := by
  rw [Procedures.call]
  cases procedures name with
  | none => exact .ofResult _
  | some p => exact (Run.Counts.ask _ fun _ => (ite_self 0).symm).bind_ofResult id

theorem nameTable_counts (p : TermPattern) :
    Run.Counts allowed 0 0 (nameTable (d.evaluator c.procedures active) p) := by
  cases p with
  | var v => exact .pure _
  | term name =>
      cases hname : name.isIri with
      | false =>
          simp only [nameTable, hname]
          exact .throw _
      | true =>
          simp only [nameTable, Dataset.evaluator, hname, pure_bind]
          cases d.hasGraph name <;> exact .pure _

/-- A computation counts as often as it has rounds. -/
theorem inGraph_counts (p : TermPattern) {body : Graph → Run σ Table}
    (h : ∀ g, Run.Counts allowed m n (body g)) :
    Run.Counts allowed (d.rounds p * m) (d.rounds p * n)
      (inGraph (d.evaluator c.procedures active) p body) := by
  cases p with
  | term name =>
      simp only [inGraph, Dataset.evaluator, Dataset.rounds, pure_bind]
      cases d.graph? name with
      | none => simpa using Run.Counts.pure Table.empty
      | some g => simpa using h g
  | var v =>
      refine .foldlM (fun done name hname => ?_) Table.empty
      obtain ⟨g, hg⟩ := Option.isSome_iff_exists.1 (Dataset.isSome_graph?_of_mem_names hname)
      simp only [graphStep, Dataset.evaluator, pure_bind, hg]
      exact (h g).bind_pure fun t => done.union (t.join (.single v name))

theorem step_counts (c : Context σ) (op : Op)
    {eval : (o : Op) → o ∈ op.operands → Graph → Run σ Table}
    (h : ∀ o ho g, Run.Counts c.config.allowService (o.weight d fun _ => 1)
      (o.weight d Op.serviceCount) (eval o ho g)) :
    Run.Counts c.config.allowService (op.weight d fun _ => 1) (op.weight d Op.serviceCount) (do
      Run.tick
      c.toDispatcher.step (d.evaluator c.procedures) active op eval) := by
  have two (l r : Op) (hl : l ∈ op.operands) (hr : r ∈ op.operands) (f : Table → Table → Table) :
      Run.Counts c.config.allowService (l.weight d (fun _ => 1) + r.weight d fun _ => 1)
        (l.weight d Op.serviceCount + r.weight d Op.serviceCount)
        (eval l hl active >>= fun t => eval r hr active >>= fun u => pure (f t u)) :=
    (h l hl active).bind fun t => (h r hr active).bind_pure (f t)
  rw [Op.weight.eq_def d (fun _ => 1) op, Op.weight.eq_def d Op.serviceCount op]
  refine .tick ?_
  cases op with
  | bgp ps => exact .pure _
  | quads p ps =>
      simp only [step]
      split
      · exact .pure Table.unit
      · exact inGraph_counts (m := 0) (n := 0) p fun g => .pure (g.matchPattern ps)
  | procedure sub name args =>
      exact (h sub _ active).bind fun t => call_counts c.procedures t name args
  | join l r => exact two l r _ _ Table.join
  | sequence l r => exact two l r _ _ Table.join
  | leftJoin l r es => exact two l r _ _ fun t u => t.leftJoin u es
  | diff l r => exact two l r _ _ Table.diff
  | union l r => exact two l r _ _ Table.union
  | filter es sub => exact (h sub _ active).bind_pure (Table.filter es)
  | graph p sub => exact inGraph_counts p fun g => h sub _ g
  | service endpoint sub silent => exact callService_counts c.toDispatcher endpoint sub silent
  | datasetNames p => exact nameTable_counts p
  | table t => exact .pure t
  | extension name sub => exact .throw _
  | null => exact .pure Table.empty
  | list sub => exact (h sub _ active).bind_pure id
  | order sub cs => exact (h sub _ active).bind_ofResult (Table.order · cs)
  | project sub vs => exact (h sub _ active).bind_pure (Table.project · vs)
  | distinct sub => exact (h sub _ active).bind_pure Table.distinct
  | reduced sub => exact (h sub _ active).bind_pure Table.reduced
  | slice sub start length => exact (h sub _ active).bind_pure (Table.slice · start length)
  | assign sub as => exact (h sub _ active).bind_pure (Table.assign · as)
  | group sub keys as => exact (h sub _ active).bind_ofResult (Table.group · keys as)

end Dispatcher

/-- The evaluation of a tree counts the weights of the tree. -/
theorem Op.eval_counts (c : Context σ) (d : Dataset) (active : Graph) (op : Op) :
    Run.Counts c.config.allowService (op.weight d fun _ => 1) (op.weight d serviceCount)
      (op.eval c d active) := by
  induction op using operands_induction generalizing active with
  | step op ih =>
      rw [eval_eq_step]
      exact Dispatcher.step_counts c op fun o ho g => ih o ho g

namespace Engine

/-- The numbers of an answer are the weight of the tree, that of its services if they are allowed,
and the number of rows. -/
theorem execute_counts {e : Engine σ} {op : Op} {world world' : σ} {answer : Answer}
    (h : e.execute op world = (.ok answer, world')) :
    answer.stats.operators = op.weight e.dataset (fun _ => 1) ∧
      answer.stats.services =
        (if e.config.allowService then op.weight e.dataset Op.serviceCount else 0) ∧
      answer.stats.rows = answer.table.rows.length := by
  obtain ⟨k, hrun, hstats, -⟩ := execute_eq_ok_iff.1 h
  have heval : (op.eval e.context e.dataset e.dataset.defaultGraph).run (.start world) =
      .ok answer.table k := Op.eval_eq_ok_of_run hrun
  obtain ⟨hoperators, hservices⟩ := Op.eval_counts _ _ _ op _ _ _ heval
  rw [hstats]
  exact ⟨hoperators.trans (Nat.zero_add _), hservices.trans (Nat.zero_add _), rfl⟩

open Dispatcher (selfNaming)

/-- In the scope of each of two graphs there are both of them again, so that a silent service is
called four times, in vain. -/
theorem execute_counts_selfNaming :
    let e : Engine Unit := { dataset := selfNaming }
    let op : Op := .graph (.var ⟨"g"⟩) (.graph (.var ⟨"h"⟩) (.service (.iri ⟨"s"⟩) .null true))
    ∃ answer, e.execute op () = (.ok answer, ()) ∧ answer.stats.operators = 7 ∧
      answer.stats.services = 4 ∧ answer.stats.rows = 4 := by
  intro e op
  have hservice (g : Graph) : Run.Returns
      ((Op.service (.iri ⟨"s"⟩) .null true).eval e.context selfNaming g) (· = .unit) := by
    rw [Op.eval_eq_step]
    exact .tick fun j => ⟨_, _, rfl, rfl⟩
  have hinner (g : Graph) : Run.Returns
      ((Op.graph (.var ⟨"h"⟩) (.service (.iri ⟨"s"⟩) .null true)).eval e.context selfNaming g)
      (· = selfNaming.overGraphs ⟨"h"⟩ fun _ => .unit) := by
    rw [Op.eval_eq_step]
    exact .tick (Dispatcher.inGraph_returns_overGraphs hservice _)
  have houter : Run.Returns (op.eval e.context selfNaming selfNaming.defaultGraph)
      (· = selfNaming.overGraphs ⟨"g"⟩ fun _ => selfNaming.overGraphs ⟨"h"⟩ fun _ => .unit) := by
    rw [Op.eval_eq_step]
    exact .tick (Dispatcher.inGraph_returns_overGraphs hinner _)
  have hcheck : op.check e.context.config.maxDepth = .ok () := by cbv
  rw [← Op.run_eq_eval hcheck] at houter
  obtain ⟨answer, world, h, ht⟩ := exists_execute_of_returns houter ()
  obtain ⟨hoperators, hservices, hrows⟩ := execute_counts h
  have hweight : op.weight selfNaming (fun _ => 1) = 7 := by decide
  have hserviceCount : op.weight selfNaming Op.serviceCount = 4 := by decide
  refine ⟨_, h, hoperators.trans hweight, hservices.trans hserviceCount, hrows.trans ?_⟩
  rw [ht]
  decide

end Engine

end GraphAlgebra
