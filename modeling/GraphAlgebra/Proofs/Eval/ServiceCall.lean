import GraphAlgebra.Eval.Engine
import GraphAlgebra.Proofs.Eval.GraphScope
import GraphAlgebra.Proofs.Except
/-!
# What comes of a service

A service operator leaves its operand to the service and waits for all rows. `settle` says what
becomes of a failure, and a call is the answer of the service, settled
(`Dispatcher.callService_of_enabled`). For datasets that are served locally this is a query of its
own, with its own check and limit. Main statement: `Dispatcher.service_delegates`.
-/

namespace GraphAlgebra

variable {σ : Type}

namespace Table

theorem ofCursor_eq_ok_iff {cursor : Cursor} {t : Table} :
    ofCursor cursor = .ok t ↔
      ∃ rows : List Binding, cursor = rows.map .ok ∧ t = .ofRows [] rows := by
  have hrows (cursor : Cursor) (rows : List Binding) :
      cursor.mapM id = .ok rows ↔ cursor = rows.map .ok := by
    induction cursor generalizing rows with
    | nil => cases rows <;> simp [pure, Except.pure]
    | cons row cursor ih =>
        simp only [List.mapM_cons, id, bind_eq_ok_iff, ih]
        constructor
        · rintro ⟨a, rfl, rest, rfl, h⟩
          obtain rfl := Except.ok.inj h
          rfl
        · intro h
          obtain ⟨a, rest, rfl, rfl, rfl⟩ := List.map_eq_cons_iff.1 h.symm
          exact ⟨a, rfl, rest, rfl, rfl⟩
  simp only [ofCursor, bind_eq_ok_iff, hrows]
  constructor
  · rintro ⟨rows, hcursor, h⟩
    exact ⟨rows, hcursor, (Except.ok.inj h).symm⟩
  · rintro ⟨rows, hcursor, rfl⟩
    exact ⟨rows, hcursor, rfl⟩

/-- A failure is all that is left of a cursor, whatever stands around it. -/
theorem ofCursor_append_error (rows : List Binding) (e : Error) (rest : Cursor) :
    ofCursor (rows.map .ok ++ .error e :: rest) = .error e := by
  have hrows : (rows.map .ok ++ .error e :: rest : Cursor).mapM id = .error e := by
    induction rows with
    | nil => rfl
    | cons row rows ih =>
        rw [List.map_cons, List.cons_append, List.mapM_cons, ih]
        rfl
  rw [ofCursor, hrows]
  rfl

end Table

theorem Engine.execute_eq_ok_iff {e : Engine σ} {op : Op} {world world' : σ} {answer : Answer} :
    e.execute op world = (.ok answer, world') ↔
      ∃ k, (op.run e.context e.dataset).run (.start world) = .ok answer.table k ∧
        answer.stats = ⟨k.operators, k.serviceCalls, answer.table.rows.length⟩ ∧
        k.world = world' := by
  obtain ⟨t, stats⟩ := answer
  rw [execute]
  cases (op.run e.context e.dataset).run (.start world) with
  | error err k =>
      constructor
      · nofun
      · nofun
  | ok u k =>
      constructor
      · intro h
        obtain ⟨hanswer, rfl⟩ := Prod.mk.inj h
        obtain ⟨rfl, rfl⟩ := Answer.mk.inj (Except.ok.inj hanswer)
        exact ⟨k, rfl, rfl, rfl⟩
      · rintro ⟨k', hrun, (rfl : stats = ⟨k'.operators, k'.serviceCalls, t.rows.length⟩), rfl⟩
        obtain ⟨rfl, rfl⟩ := EStateM.Result.ok.inj hrun
        rfl

theorem Engine.exists_execute_of_returns {e : Engine σ} {op : Op} {p : Table → Prop}
    (h : Run.Returns (op.run e.context e.dataset) p) (world : σ) :
    ∃ answer world', e.execute op world = (.ok answer, world') ∧ p answer.table := by
  obtain ⟨t, k, hrun, ht⟩ := h (.start world)
  exact ⟨⟨t, ⟨k.operators, k.serviceCalls, t.rows.length⟩⟩, k.world,
    execute_eq_ok_iff.2 ⟨k, hrun, rfl, rfl⟩, ht⟩

/-- What is left of what comes of a call: a silent one gives one empty row instead of an error,
unless the program has crashed. -/
def settle (silent : Bool) : Except Error Table → Except Error Table
  | .ok t => .ok t
  | .error e => if silent ∧ e ≠ .crash then .ok .unit else .error e

namespace Dispatcher

theorem callService_of_enabled {x : Dispatcher σ} (h : x.config.allowService = true)
    (endpoint : Term) (sub : Op) (silent : Bool) :
    x.callService endpoint sub silent = (do
      let outcome ← Run.ask (.service endpoint sub silent) do
        let answer ← x.services endpoint sub silent
        pure (answer.bind Table.ofCursor)
      Run.ofResult (settle silent outcome)) := by
  rw [callService, if_pos h]
  congr 1
  funext outcome
  cases outcome with
  | ok t => rfl
  | error e =>
      dsimp only [settle]
      split <;> rfl

theorem callService_of_disabled {x : Dispatcher σ} (h : x.config.allowService = false)
    (endpoint : Term) (sub : Op) (silent : Bool) :
    x.callService endpoint sub silent =
      Run.ofResult (settle silent (.error (.service (.disabled endpoint)))) := by
  rw [callService, h]
  cases silent <;> rfl

theorem run_service_eq {x : Dispatcher σ} (hallow : x.config.allowService = true)
    (hdepth : 1 ≤ x.config.maxDepth) {Scope : Type} (evs : Scope → Evaluator σ Scope) (s : Scope)
    {endpoint : Term} {sub : Op} {silent : Bool} {j : Journal σ} {answer : Except Error Cursor}
    {world : σ} (h : (x.services endpoint sub silent).run j.world = (answer, world))
    {outcome : Except Error Table} (houtcome : answer.bind Table.ofCursor = outcome) :
    (x.run evs (.service endpoint sub silent) s).run j =
      (Run.ofResult (settle silent outcome)).run
        ⟨j.operators + 1, j.calls ++ [.service endpoint sub silent outcome], world⟩ := by
  have hcheck : (Op.service endpoint sub silent).check x.config.maxDepth = .ok () := by
    refine Op.check_eq_ok_of_height_le hdepth (Op.forall_at_of_operands ?_ ?_)
    all_goals simp [Op.operands]
  have hasked : (do
      let answer ← x.services endpoint sub silent
      pure (answer.bind Table.ofCursor) : StateM σ (Except Error Table)).run j.world =
        (outcome, world) := by
    rw [StateT.run_bind, h, ← houtcome]
    rfl
  rw [run_eq_eval hcheck, eval, step, callService_of_enabled hallow]
  simp only [EStateM.run_bind, Run.run_tick, Run.run_ask, hasked]

theorem run_ofResult_settle_error (silent : Bool) (e : Error) (j : Journal σ) :
    (Run.ofResult (settle silent (.error e))).run j =
      if silent ∧ e ≠ .crash then .ok .unit j else .error e j := by
  rw [settle]
  split <;> rfl

end Dispatcher

section

variable {endpoints : SortedMap Term Dataset} {procedures : Procedures σ} {config : Config}
  {endpoint : Term} {remote : Dataset} {world world' : σ}

/-- A dataset that is served locally answers with the rows of a query of its own, or with its
error. -/
theorem run_localServices_of_execute (h : endpoints.get? endpoint = some remote) {sub : Op}
    {result : Except Error Answer}
    (hresult : Engine.execute { dataset := remote, procedures := procedures, config := config }
      sub world = (result, world')) (silent : Bool) :
    (localServices endpoints procedures config endpoint sub silent).run world =
      (result.map fun answer => answer.table.rows.map .ok, world') := by
  rw [localServices, h]
  change (((Engine.execute _ sub world).1.map _, (Engine.execute _ sub world).2) : _ × σ) = _
  rw [hresult]

theorem run_localServices_of_none (h : endpoints.get? endpoint = none)
    (procedures : Procedures σ) (config : Config) (world : σ) (sub : Op) (silent : Bool) :
    (localServices endpoints procedures config endpoint sub silent).run world =
      (.error (.service (.unknownEndpoint endpoint)), world) := by
  rw [localServices, h]
  rfl

end

namespace Dispatcher

/-- A service that is served locally gives the rows, in their order, that a query without services
over the dataset of its endpoint has. If there is no such dataset or the query fails, that is the
error, or one empty row where the operator is silent; a crash is a crash of the whole. No service
gets any row into the result before a failure. What the dataset and the active graph of the caller
are does not matter, nor does any other part of the caller than its services. -/
theorem service_delegates (c : Context σ) (hallow : c.config.allowService = true)
    (hdepth : 1 ≤ c.config.maxDepth) (d : Dataset) (active : Graph) (endpoint : Term) (sub : Op)
    (silent : Bool) (j : Journal σ) :
    let run (c : Context σ) (d : Dataset) (active : Graph) :=
      (c.toDispatcher.run (d.evaluator c.procedures) (.service endpoint sub silent) active).run j
    let failure (e : Error) (k : Journal σ) : EStateM.Result Error (Journal σ) Table :=
      if silent ∧ e ≠ .crash then .ok .unit k else .error e k
    (∀ endpoints procedures config, c.services = localServices endpoints procedures config →
      (∀ remote, endpoints.get? endpoint = some remote →
        let engine : Engine σ := { dataset := remote, procedures := procedures, config := config }
        (∀ answer world, engine.execute sub j.world = (.ok answer, world) →
          ∃ t k, run c d active = .ok t k ∧ t.rows = answer.table.rows ∧ k.world = world) ∧
        ∀ e world, engine.execute sub j.world = (.error e, world) →
          ∃ k, run c d active = failure e k ∧ k.world = world) ∧
      (endpoints.get? endpoint = none →
        ∃ k, run c d active = failure (.service (.unknownEndpoint endpoint)) k ∧
          k.world = j.world)) ∧
    (∀ (rows : List Binding) (e : Error) (rest : Cursor) (world : σ),
      (c.services endpoint sub silent).run j.world =
        (.ok (rows.map .ok ++ .error e :: rest), world) →
      ∃ k, run c d active = failure e k ∧ k.world = world) ∧
    ∀ (c' : Context σ) (d' : Dataset) (active' : Graph), c'.services = c.services →
      c'.config.allowService = true → 1 ≤ c'.config.maxDepth →
      run c' d' active' = run c d active := by
  intro run failure
  have hrun {c : Context σ} (hallow : c.config.allowService = true)
      (hdepth : 1 ≤ c.config.maxDepth) (d : Dataset) (active : Graph) {answer : Except Error Cursor}
      {world : σ} (h : (c.services endpoint sub silent).run j.world = (answer, world))
      {outcome : Except Error Table} (houtcome : answer.bind Table.ofCursor = outcome) :
      run c d active = (Run.ofResult (settle silent outcome)).run
        ⟨j.operators + 1, j.calls ++ [.service endpoint sub silent outcome], world⟩ :=
    run_service_eq hallow hdepth _ active h houtcome
  have hfailure {answer : Except Error Cursor} {world : σ} {e : Error}
      (h : (c.services endpoint sub silent).run j.world = (answer, world))
      (he : answer.bind Table.ofCursor = .error e) :
      ∃ k, run c d active = failure e k ∧ k.world = world :=
    ⟨_, (hrun hallow hdepth d active h he).trans (run_ofResult_settle_error silent e _), rfl⟩
  refine ⟨fun endpoints procedures config hservices => ⟨fun remote hremote => ⟨?_, ?_⟩, ?_⟩, ?_, ?_⟩
  · intro answer world hanswer
    have h := run_localServices_of_execute hremote hanswer silent
    rw [← hservices] at h
    have hrows : Table.ofCursor (answer.table.rows.map .ok) = .ok (.ofRows [] answer.table.rows) :=
      Table.ofCursor_eq_ok_iff.2 ⟨_, rfl, rfl⟩
    exact ⟨_, _, hrun hallow hdepth d active h hrows, rfl, rfl⟩
  · intro e world he
    have h := run_localServices_of_execute hremote he silent
    rw [← hservices] at h
    exact hfailure h rfl
  · intro hnone
    have h := run_localServices_of_none hnone procedures config j.world sub silent
    rw [← hservices] at h
    exact hfailure h rfl
  · intro rows e rest world h
    exact hfailure h (Table.ofCursor_append_error rows e rest)
  · intro c' d' active' hservices hallow' hdepth'
    rcases hanswer : (c.services endpoint sub silent).run j.world with ⟨answer, world⟩
    rw [hrun hallow hdepth d active hanswer rfl]
    rw [← hservices] at hanswer
    exact hrun hallow' hdepth' d' active' hanswer rfl

/-- A pattern below a graph operator is too high for the limit of the caller, but not for that of
the service, which finds a row in each of its graphs. The other service loses the connection after
the first row. -/
theorem service_delegates_selfNaming :
    let v : Var := ⟨"g"⟩
    let sub : Op := .graph (.var v) (.bgp [⟨.var v, .term (.iri ⟨"p"⟩), .var ⟨"o"⟩⟩])
    let endpoints : SortedMap Term Dataset := SortedMap.set Sorted.empty (.iri ⟨"s"⟩) selfNaming
    let low : Config := { maxDepth := 1 }
    let c : Context Unit := ⟨⟨localServices endpoints builtinProcedures {}, low⟩, fun _ => none⟩
    let broken : Context Unit := ⟨⟨fun _ _ _ => pure (.ok [.ok (.single v (.blank "x")),
      .error (.service (.reported "connection lost"))]), low⟩, fun _ => none⟩
    let run (c : Context Unit) :=
      (c.toDispatcher.run (Dataset.empty.evaluator c.procedures) (.service (.iri ⟨"s"⟩) sub false)
        Graph.empty).run (.start ())
    low.allowService = true ∧ 1 ≤ low.maxDepth ∧
      (∃ t k, run c = .ok t k ∧
        t.rows = [(Binding.single v (.iri ⟨"a"⟩)).set ⟨"o"⟩ (.blank "x"),
          (Binding.single v (.iri ⟨"b"⟩)).set ⟨"o"⟩ (.blank "z")]) ∧
      ∃ k, run broken = .error (.service (.reported "connection lost")) k := by
  intro v sub endpoints low c broken run
  have hallow : low.allowService = true := rfl
  have hdepth : 1 ≤ low.maxDepth := Nat.le_refl 1
  have hremote : endpoints.get? (.iri ⟨"s"⟩) = some selfNaming := rfl
  let engine : Engine Unit :=
    { dataset := selfNaming, procedures := builtinProcedures, config := {} }
  have hreturns : Run.Returns (sub.run engine.context selfNaming)
      (· = selfNaming.overGraphs v (·.matchPattern [⟨.var v, .term (.iri ⟨"p"⟩), .var ⟨"o"⟩⟩])) :=
    run_graph_var_returns (by decide) selfNaming.defaultGraph
  obtain ⟨answer, world, hanswer, ht⟩ := Engine.exists_execute_of_returns hreturns ()
  have hlocal := (service_delegates c hallow hdepth .empty .empty (.iri ⟨"s"⟩) sub false
    (.start ())).1 endpoints builtinProcedures {} rfl
  obtain ⟨t, k, hdelegated, hrows, -⟩ := (hlocal.1 selfNaming hremote).1 _ _ hanswer
  obtain ⟨k', hbroken, -⟩ := (service_delegates broken hallow hdepth .empty .empty (.iri ⟨"s"⟩) sub
    false (.start ())).2.1 [.single v (.blank "x")] _ [] () rfl
  refine ⟨hallow, hdepth, ⟨t, k, hdelegated, ?_⟩, k', hbroken⟩
  have hoverGraphs : answer.table.rows = [(Binding.single v (.iri ⟨"a"⟩)).set ⟨"o"⟩ (.blank "x"),
      (Binding.single v (.iri ⟨"b"⟩)).set ⟨"o"⟩ (.blank "z")] := by
    rw [ht]
    decide
  exact hrows.trans hoverGraphs

end Dispatcher

end GraphAlgebra
