import GraphAlgebra.Proofs.Eval.Check
/-!
# The order of calls

`Op.schedule` says which services and procedures a tree calls over a dataset, in order, when
nothing goes wrong. A run over the dataset calls them in that order and no others
(`Op.run_follows_schedule`): it calls all of them when it succeeds, and when it fails it stops at
one operator, whose error it ends in. `Op.turns` lists the operators in the order in which they
get their tables, so that this operator has a place in it.
-/

namespace GraphAlgebra

inductive Request where
  | service (endpoint : Term) (sub : Op) (silent : Bool)
  | procedure (name : Iri) (args : ProcedureArgs)
deriving DecidableEq

namespace Call

def request : Call → Request
  | .service endpoint sub silent _ => .service endpoint sub silent
  | .procedure name _ args _ => .procedure name args

/-- Whether an evaluation goes on after a call: it has come out well, or it is silent and has not
crashed. -/
def goesOn : Call → Bool
  | .service _ _ _ (.ok _) => true
  | .service _ _ silent (.error e) => silent && e ≠ .crash
  | .procedure _ _ _ outcome => outcome.isOk

end Call

/-- How often the operand of a graph operator is evaluated: once if there is a graph of the name,
and once for every named graph for a variable. -/
def Dataset.rounds (d : Dataset) : TermPattern → Nat
  | .term name => if (d.graph? name).isSome then 1 else 0
  | .var _ => d.names.length

namespace Op

/-- The calls that a tree makes over a dataset, those of a left operand before those of a right
one and those of an operand before that of its procedure. The operand of a service makes none. -/
def schedule (d : Dataset) (allowService : Bool) : Op → List Request
  | .service endpoint sub silent =>
      if allowService then [.service endpoint sub silent] else []
  | .procedure sub name args => sub.schedule d allowService ++ [.procedure name args]
  | .graph p sub => (List.replicate (d.rounds p) (sub.schedule d allowService)).flatten
  | .join l r | .sequence l r | .leftJoin l r _ | .diff l r | .union l r =>
      l.schedule d allowService ++ r.schedule d allowService
  | .filter _ sub | .order sub _ | .project sub _ | .slice sub _ _ | .assign sub _
  | .group sub _ _ | .list sub | .distinct sub | .reduced sub => sub.schedule d allowService
  | .bgp _ | .quads .. | .datasetNames _ | .table _ | .extension .. | .null => []

/-- The operators of a tree in the order in which they get their tables over a dataset. -/
def turns (d : Dataset) (op : Op) : List Op :=
  (match op with
    | .graph p sub => (List.replicate (d.rounds p) (sub.turns d)).flatten
    | .join l r | .sequence l r | .leftJoin l r _ | .diff l r | .union l r =>
        l.turns d ++ r.turns d
    | .procedure sub _ _ | .filter _ sub | .order sub _ | .project sub _ | .slice sub _ _
    | .assign sub _ | .group sub _ _ | .list sub | .distinct sub | .reduced sub => sub.turns d
    | .bgp _ | .quads .. | .service .. | .datasetNames _ | .table _ | .extension .. | .null =>
        []) ++ [op]

def request? (allowService : Bool) : Op → Option Request
  | .service endpoint sub silent =>
      if allowService then some (.service endpoint sub silent) else none
  | .procedure _ name args => some (.procedure name args)
  | _ => none

theorem schedule_eq (d : Dataset) (allowService : Bool) (op : Op) :
    op.schedule d allowService = (op.turns d).filterMap (request? allowService) := by
  induction op with
  | service => cases allowService <;> rfl
  | graph p sub ih =>
      simp [schedule, turns, request?, ih, List.filterMap_flatten, List.map_replicate]
  | _ => simp [schedule, turns, request?, *]

end Op

variable {σ α β : Type}

/-- The calls are what some operators ask for, and the evaluation goes on after all of them. -/
structure Fulfils (allowService : Bool) (ops : List Op) (calls : List Call) : Prop where
  request : calls.map Call.request = ops.filterMap (Op.request? allowService)
  goesOn : ∀ call ∈ calls, call.goesOn = true

namespace Fulfils

theorem nil (allowService : Bool) : Fulfils allowService [] [] := ⟨rfl, by simp⟩

theorem append {allowService : Bool} {ops ops' : List Op} {calls calls' : List Call}
    (h : Fulfils allowService ops calls) (h' : Fulfils allowService ops' calls') :
    Fulfils allowService (ops ++ ops') (calls ++ calls') := by
  refine ⟨by rw [List.map_append, List.filterMap_append, h.request, h'.request], ?_⟩
  intro call hcall
  rcases List.mem_append.1 hcall with hcall | hcall
  · exact h.goesOn call hcall
  · exact h'.goesOn call hcall

end Fulfils

/-- How an operator can fail over a dataset, once its operands have their tables: the calls that it
has made itself, and its error. -/
inductive Op.FailsWith (c : Context σ) : Op → List Call → Error → Prop
  | disabled (h : c.config.allowService = false) :
      FailsWith c (.service endpoint sub false) [] (.service (.disabled endpoint))
  | service (h : c.config.allowService = true) :
      FailsWith c (.service endpoint sub false) [.service endpoint sub false (.error e)] e
  | crash (h : c.config.allowService = true) :
      FailsWith c (.service endpoint sub silent)
        [.service endpoint sub silent (.error .crash)] .crash
  | unknown {iri : Iri} (h : c.procedures iri = none) :
      FailsWith c (.procedure sub iri args) [] (.procedureNotFound iri)
  | procedure {iri : Iri} (h : (c.procedures iri).isSome) :
      FailsWith c (.procedure sub iri args) [.procedure iri input args (.error e)] e
  | graphName {t : Term} (h : t.isIri = false) :
      FailsWith c (.datasetNames (.term t)) [] (.badGraphNode t)
  | order {t : Table} (h : t.order cs = .error e) :
      FailsWith c (.order sub cs) [] e
  | group {t : Table} (h : t.group keys as = .error e) :
      FailsWith c (.group sub keys as) [] e

namespace Run

/-- A run in which some operators get their tables in turn, or would if none of them failed. -/
def Follows (c : Context σ) (ops : List Op) (x : Run σ α) : Prop :=
  ∀ j, match x.run j with
    | .ok _ j' => ∃ calls, j'.calls = j.calls ++ calls ∧
        Fulfils c.config.allowService ops calls
    | .error e j' => ∃ before op after made own, ops = before ++ op :: after ∧
        j'.calls = j.calls ++ (made ++ own) ∧
        Fulfils c.config.allowService before made ∧ op.FailsWith c own e

namespace Follows

variable {c : Context σ} {ops ops' : List Op}

theorem pure (a : α) : Follows c [] (Pure.pure a : Run σ α) := fun j =>
  ⟨[], by simp, .nil _⟩

theorem bind {x : Run σ α} {f : α → Run σ β} (hx : Follows c ops x)
    (hf : ∀ a, Follows c ops' (f a)) : Follows c (ops ++ ops') (x >>= f) := by
  intro j
  rw [EStateM.run_bind]
  have hx := hx j
  cases hr : x.run j with
  | error e j₁ =>
      rw [hr] at hx
      obtain ⟨before, op, after, made, own, rfl, hcalls, hmade, hop⟩ := hx
      exact ⟨before, op, after ++ ops', made, own, by simp, hcalls, hmade, hop⟩
  | ok a j₁ =>
      rw [hr] at hx
      obtain ⟨calls, hcalls, hdone⟩ := hx
      have hf := hf a j₁
      simp only
      cases hs : (f a).run j₁ with
      | ok b j₂ =>
          rw [hs] at hf
          obtain ⟨calls', hcalls', hdone'⟩ := hf
          exact ⟨calls ++ calls', by simp [hcalls', hcalls], hdone.append hdone'⟩
      | error e j₂ =>
          rw [hs] at hf
          obtain ⟨before, op, after, made, own, rfl, hcalls', hmade, hop⟩ := hf
          exact ⟨ops ++ before, op, after, calls ++ made, own, by simp,
            by simp [hcalls', hcalls], hdone.append hmade, hop⟩

theorem bind_pure {x : Run σ α} (hx : Follows c ops x) (f : α → β) :
    Follows c ops (x >>= fun a => Pure.pure (f a)) := by
  simpa using hx.bind fun a => Follows.pure (f a)

/-- An operator that asks for nothing and does not fail can have the last turn. -/
theorem concat {op : Op} {x : Run σ α} (hx : Follows c ops x)
    (h : op.request? c.config.allowService = none) : Follows c (ops ++ [op]) x := by
  intro j
  have hx := hx j
  cases hr : x.run j with
  | ok a j₁ =>
      rw [hr] at hx
      obtain ⟨calls, hcalls, hdone⟩ := hx
      exact ⟨calls, hcalls, by simp [hdone.request, h], hdone.goesOn⟩
  | error e j₁ =>
      rw [hr] at hx
      obtain ⟨before, op', after, made, own, rfl, hcalls, hmade, hop⟩ := hx
      exact ⟨before, op', after ++ [op], made, own, by simp, hcalls, hmade, hop⟩

theorem tick {x : Run σ α} (hx : Follows c ops x) :
    Follows c ops (do Run.tick; x) := fun j => hx { j with operators := j.operators + 1 }

theorem foldlM {f : β → α → Run σ β} {l : List α} (h : ∀ b, ∀ a ∈ l, Follows c ops (f b a))
    (b : β) : Follows c (List.replicate l.length ops).flatten (l.foldlM f b) := by
  induction l generalizing b with
  | nil => exact .pure b
  | cons a l ih =>
      rw [List.foldlM_cons, List.length_cons, List.replicate_succ, List.flatten_cons]
      exact (h b a List.mem_cons_self).bind fun b =>
        ih (fun b a ha => h b a (List.mem_cons_of_mem _ ha)) b

end Follows

end Run

namespace Dispatcher

variable {c : Context σ} {d : Dataset} {active : Graph} {ops : List Op}

/-- A computation follows its turns as often as it has rounds. -/
theorem inGraph_follows (p : TermPattern) {body : Graph → Run σ Table}
    (h : ∀ g, Run.Follows c ops (body g)) :
    Run.Follows c (List.replicate (d.rounds p) ops).flatten
      (inGraph (d.evaluator c.procedures active) p body) := by
  cases p with
  | term name =>
      simp only [inGraph, Dataset.evaluator, Dataset.rounds, pure_bind]
      cases d.graph? name with
      | none => exact .pure Table.empty
      | some g => simpa using h g
  | var v =>
      simp only [inGraph, Dataset.evaluator, Dataset.rounds, pure_bind]
      refine .foldlM (fun done name hname => ?_) Table.empty
      obtain ⟨g, hg⟩ := Option.isSome_iff_exists.1 (Dataset.isSome_graph?_of_mem_names hname)
      simp only [graphStep, pure_bind, hg]
      exact (h g).bind_pure fun t => done.union (t.join (.single v name))

/-- A service asks for a call and goes on after it, or fails with its error. -/
theorem callService_follows (endpoint : Term) (sub : Op) (silent : Bool) :
    Run.Follows c [.service endpoint sub silent]
      (c.toDispatcher.callService endpoint sub silent) := by
  intro j
  rw [callService]
  cases hallow : c.config.allowService with
  | false =>
      cases silent with
      | true => exact ⟨[], by simp, by simp [Op.request?], by simp⟩
      | false =>
          exact ⟨[], _, [], [], [], rfl, by simp, .nil _, .disabled hallow⟩
  | true =>
      rw [if_pos rfl, EStateM.run_bind, Run.run_ask]
      generalize StateT.run _ j.world = answer
      obtain ⟨outcome, world⟩ := answer
      cases outcome with
      | ok t => exact ⟨_, rfl, by simp [Call.request, Op.request?], by simp [Call.goesOn]⟩
      | error e =>
          by_cases hcrash : e = .crash
          · subst hcrash
            simp only [ne_eq, not_true_eq_false, and_false, if_false]
            exact ⟨[], _, [], [], _, rfl, by simp, .nil _, .crash hallow⟩
          cases silent with
          | true =>
              simp only [ne_eq, hcrash, not_false_eq_true, and_self, if_true]
              exact ⟨_, rfl, by simp [Call.request, Op.request?], by simp [Call.goesOn, hcrash]⟩
          | false => exact ⟨[], _, [], [], _, rfl, by simp, .nil _, .service hallow⟩

theorem call_follows (t : Table) (sub : Op) (name : Iri) (args : ProcedureArgs) :
    Run.Follows c [.procedure sub name args] (c.procedures.call t name args) := by
  intro j
  rw [Procedures.call]
  cases hp : c.procedures name with
  | none => exact ⟨[], _, [], [], [], rfl, by simp, .nil _, .unknown hp⟩
  | some p =>
      simp only
      rw [EStateM.run_bind, Run.run_ask]
      generalize StateT.run _ j.world = answer
      obtain ⟨outcome, world⟩ := answer
      cases outcome with
      | ok u =>
          refine ⟨_, rfl, by simp [Call.request, Op.request?], ?_⟩
          simp [Call.goesOn, Except.isOk, Except.toBool]
      | error e =>
          exact ⟨[], _, [], [], [.procedure name t args (.error e)], rfl, by simp, .nil _,
            .procedure (by simp [hp])⟩

theorem nameTable_follows (p : TermPattern) :
    Run.Follows c [.datasetNames p] (nameTable (d.evaluator c.procedures active) p) := by
  cases p with
  | var v => exact (Run.Follows.pure _).concat rfl
  | term name =>
      cases hname : name.isIri with
      | false =>
          intro j
          simp only [nameTable, hname]
          exact ⟨[], _, [], [], [], rfl, by simp, .nil _, .graphName hname⟩
      | true =>
          simp only [nameTable, Dataset.evaluator, hname, pure_bind]
          cases d.hasGraph name with
          | false => exact (Run.Follows.pure Table.empty).concat rfl
          | true => exact (Run.Follows.pure Table.unit).concat rfl

/-- A table that is computed makes no call, and the error of it is one of the operator. -/
theorem ofResult_follows {op : Op} (hop : op.request? c.config.allowService = none)
    {r : Except Error Table} (h : ∀ e, r = .error e → op.FailsWith c [] e) :
    Run.Follows c [op] (.ofResult r) := by
  cases r with
  | ok u => exact (Run.Follows.pure u).concat hop
  | error e => exact fun j => ⟨[], _, [], [], [], rfl, by simp, .nil _, h e rfl⟩

/-- A tree follows its turns if its operands follow theirs. -/
theorem step_follows (op : Op) {eval : (o : Op) → o ∈ op.operands → Graph → Run σ Table}
    (hop : ∀ name sub, op ≠ .extension name sub)
    (h : ∀ o ho g, Run.Follows c (o.turns d) (eval o ho g)) :
    Run.Follows c (op.turns d)
      (c.toDispatcher.step (d.evaluator c.procedures) active op eval) := by
  have two (l r : Op) (hl : l ∈ op.operands) (hr : r ∈ op.operands) (f : Table → Table → Table) :
      Run.Follows c (l.turns d ++ r.turns d)
        (eval l hl active >>= fun t => eval r hr active >>= fun u => pure (f t u)) :=
    (h l hl active).bind fun t => (h r hr active).bind_pure (f t)
  cases op with
  | bgp ps => exact (Run.Follows.pure _).concat rfl
  | quads p ps =>
      simp only [step]
      split
      · exact (Run.Follows.pure Table.unit).concat rfl
      · have hq : Run.Follows c []
            (inGraph (d.evaluator c.procedures active) p fun g => pure (g.matchPattern ps)) := by
          simpa using inGraph_follows p fun g => Run.Follows.pure (g.matchPattern ps)
        exact hq.concat rfl
  | procedure sub name args =>
      exact (h sub _ active).bind fun t => call_follows t sub name args
  | join l r => exact (two l r _ _ Table.join).concat rfl
  | sequence l r => exact (two l r _ _ Table.join).concat rfl
  | leftJoin l r es => exact (two l r _ _ fun t u => t.leftJoin u es).concat rfl
  | diff l r => exact (two l r _ _ Table.diff).concat rfl
  | union l r => exact (two l r _ _ Table.union).concat rfl
  | filter es sub => exact ((h sub _ active).bind_pure (Table.filter es)).concat rfl
  | graph p sub => exact (inGraph_follows p fun g => h sub _ g).concat rfl
  | service endpoint sub silent => exact callService_follows endpoint sub silent
  | datasetNames p => exact nameTable_follows p
  | table t => exact (Run.Follows.pure t).concat rfl
  | extension name sub => exact absurd rfl (hop name sub)
  | null => exact (Run.Follows.pure Table.empty).concat rfl
  | list sub => exact ((h sub _ active).bind_pure id).concat rfl
  | order sub cs =>
      exact (h sub _ active).bind fun t => ofResult_follows rfl fun e he => .order he
  | project sub vs => exact ((h sub _ active).bind_pure (Table.project · vs)).concat rfl
  | distinct sub => exact ((h sub _ active).bind_pure Table.distinct).concat rfl
  | reduced sub => exact ((h sub _ active).bind_pure Table.reduced).concat rfl
  | slice sub start length =>
      exact ((h sub _ active).bind_pure (Table.slice · start length)).concat rfl
  | assign sub as => exact ((h sub _ active).bind_pure (Table.assign · as)).concat rfl
  | group sub keys as =>
      exact (h sub _ active).bind fun t => ofResult_follows rfl fun e he => .group he

/-- A tree without extensions follows its turns in every graph. -/
theorem eval_follows {op : Op} {top : Nat}
    (h : ∀ o n, op.At top o n → ∀ name sub, o ≠ .extension name sub) (active : Graph) :
    Run.Follows c (op.turns d) (op.eval c d active) := by
  induction op using Op.operands_induction generalizing top active with
  | step op ih =>
      rw [Op.eval, eval]
      refine .tick (step_follows op (h op top .root) fun o ho g => ?_)
      exact ih o ho (fun p n hp => h p n (.of_operand ho hp)) g

end Dispatcher

namespace Op

theorem FailsWith.prefix_request? {c : Context σ} {op : Op} {own : List Call} {e : Error}
    (h : op.FailsWith c own e) :
    own.map Call.request <+: (op.request? c.config.allowService).toList := by
  cases h with
  | service h => simp [Call.request, request?, h]
  | crash h => simp [Call.request, request?, h]
  | procedure _ => simp [Call.request, request?]
  | _ => exact List.nil_prefix

/-- A run of a tree that passes the check makes calls in the order of the schedule. One that
succeeds makes all of them, and goes on after each. One that fails makes the first of them, up to
an operator that fails with the error of the run: those of the operators that have had their turns
before it, after which it goes on, and what the failed operator itself has asked for. -/
theorem run_follows_schedule (c : Context σ) (d : Dataset) (op : Op) (j : Journal σ)
    (h : op.check c.config.maxDepth = .ok ()) :
    match (op.run c d).run j with
    | .ok _ j' => ∃ calls, j'.calls = j.calls ++ calls ∧
        calls.map Call.request = op.schedule d c.config.allowService ∧
        ∀ call ∈ calls, call.goesOn = true
    | .error e j' => ∃ calls, j'.calls = j.calls ++ calls ∧
        calls.map Call.request <+: op.schedule d c.config.allowService ∧
        ∃ before failed after made own, op.turns d = before ++ failed :: after ∧
          calls = made ++ own ∧ Fulfils c.config.allowService before made ∧
          failed.FailsWith c own e := by
  have hrun : op.run c d = op.eval c d d.defaultGraph := by
    rw [run, Dispatcher.run, h, eval]
  have hturns := Dispatcher.eval_follows (c := c) (d := d)
    (fun o n ho => (check_eq_ok_iff.1 h o n ho).2) d.defaultGraph j
  rw [hrun, schedule_eq]
  cases hr : (op.eval c d d.defaultGraph).run j with
  | ok t j' =>
      rw [hr] at hturns
      obtain ⟨calls, hcalls, hdone⟩ := hturns
      exact ⟨calls, hcalls, hdone.request, hdone.goesOn⟩
  | error e j' =>
      rw [hr] at hturns
      obtain ⟨before, failed, after, made, own, hops, hcalls, hmade, hfails⟩ := hturns
      refine ⟨made ++ own, hcalls, ?_, before, failed, after, made, own, hops, rfl, hmade, hfails⟩
      have hown : own.map Call.request <+:
          (failed :: after).filterMap (request? c.config.allowService) := by
        refine hfails.prefix_request?.trans ?_
        cases hq : failed.request? c.config.allowService <;> simp [hq]
      rw [hops, List.map_append, List.filterMap_append, hmade.request]
      exact List.prefix_append_right_inj _ |>.2 hown

/-- Services that lose the connection after a row, and procedures that have no answer. The world
counts the calls of services. -/
def lossy : Context Nat where
  services _ _ _ := modifyGet fun n =>
    (.ok [.ok Binding.empty, .error (.service (.reported "connection lost"))], n + 1)
  procedures _ := some fun _ _ => pure (.error (.execution "no answer"))
  config := {}

def threeCalls : Op :=
  .join
    (.join (.service (.iri ⟨"s"⟩) .null true)
      (.procedure (.table .unit) ⟨"p"⟩ (.positional [])))
    (.service (.iri ⟨"s"⟩) .null false)

/-- The silent service loses its connection and the procedure fails: two calls are made of three. -/
theorem run_follows_schedule_lossy :
    threeCalls.check lossy.config.maxDepth = .ok () ∧
      ∃ j', (threeCalls.run lossy .empty).run (.start 0) = .error (.execution "no answer") j' ∧
        j'.world = 1 ∧ j'.calls.length = 2 ∧
        j'.calls.map Call.request <+: threeCalls.schedule .empty true := by
  have hcheck : threeCalls.check lossy.config.maxDepth = .ok () := by cbv
  have hrun : ∃ j', (threeCalls.run lossy .empty).run (.start 0) =
      .error (.execution "no answer") j' ∧ j'.world = 1 ∧ j'.calls.length = 2 := by
    rw [run, Dispatcher.run, hcheck]
    simp [threeCalls, Dispatcher.eval, Dispatcher.step, Dispatcher.callService, lossy,
      Dataset.evaluator, Procedures.call]
    exact ⟨_, rfl, rfl, rfl⟩
  obtain ⟨j', hrun, hworld, hlength⟩ := hrun
  have h := run_follows_schedule lossy .empty threeCalls (.start 0) hcheck
  rw [hrun] at h
  obtain ⟨calls, hcalls, hprefix, -⟩ := h
  obtain rfl : j'.calls = calls := by simpa [Journal.start] using hcalls
  exact ⟨hcheck, j', hrun, hworld, hlength, hprefix⟩

end Op

end GraphAlgebra
