import GraphAlgebra.Proofs.Eval.NormalForm
import GraphAlgebra.Proofs.NQuads.RoundTrip
import GraphAlgebra.Proofs.Sexp.Closure
/-!
# Queries over loaded datasets

Both notations make literals in normal form, so a query that is read from a text and evaluated over
datasets that are loaded from documents meets no other literals. Main statement:
`Engine.query_normal`.
-/

namespace GraphAlgebra

variable {σ : Type}

/-! ### What is read is in normal form -/

theorem Literal.Readable.normal {l : Literal} (h : l.Readable) : l.Normal := by
  cases h with
  | simple s => exact normal_simple s
  | tagged s => exact normal_tagged s _
  | typed s => exact normal_typed s _

theorem Term.Readable.normal {t : Term} (h : t.Readable) : t.Normal := by
  cases h with
  | literal h => exact h.normal
  | _ => trivial

theorem NQuads.each_normal_of_load {text : String} {d : Dataset} (h : load text = .ok d) :
    d.Each Term.Normal := by
  have hquad {q : Quad} (hq : q.triple ∈ (d.graphOf q.graph).toList) : q.Readable :=
    readable_of_load h q (Dataset.mem_quads_iff.2 hq)
  have hnormal {q : Quad} (hq : q.Readable) : q.triple.Each Term.Normal :=
    ⟨hq.subject.normal, hq.predicate.normal, hq.object.normal⟩
  obtain ⟨qs, -, rfl⟩ := map_eq_ok_iff.1 h
  refine ⟨fun t ht => hnormal (q := ⟨none, t⟩) (hquad ht), ?_⟩
  rintro ⟨name, g⟩ hg
  have hget : (Dataset.ofQuads qs).named.get? name = some g := SortedMap.get?_eq_some_iff.2 hg
  have hgraph : (Dataset.ofQuads qs).graphOf (some name) = g := by
    rw [Dataset.graphOf, Dataset.namedOrEmpty, hget]
    rfl
  have hreadable (t : Triple) (ht : t ∈ g.toList) : Quad.Readable ⟨some name, t⟩ :=
    hquad (q := ⟨some name, t⟩) (hgraph ▸ ht)
  -- A graph is named by a quad, since a loaded dataset has no empty named graph.
  obtain ⟨t, ht⟩ := List.exists_mem_of_ne_nil _ (Dataset.occupied_ofQuads qs name g hget)
  exact ⟨((hreadable t ht).graph name rfl).1.normal, fun t ht => hnormal (hreadable t ht)⟩

theorem Literal.Writable.normal {l : Literal} (h : l.Writable) : l.Normal := by
  rcases h with ⟨hlanguage, hdatatype⟩ | ⟨hdatatype, hlanguage⟩
  · refine ⟨.inl (by rw [hlanguage]; rfl), fun tag htag => ?_, fun hstring => ?_⟩
    · rw [hlanguage] at htag
      contradiction
    · exact (hdatatype _ hstring).2 rfl
  · refine ⟨.inr (by rw [hdatatype]; rfl), fun tag htag => (hlanguage tag htag).lowerAscii_eq, ?_⟩
    rw [hdatatype]
    exact nofun

theorem Sexp.Atom.Writable.normal {a : Sexp.Atom} (h : a.Writable) : a.Normal := by
  cases a with
  | term t =>
      cases t with
      | literal l => exact Literal.Writable.normal h
      | _ => trivial
  | _ => trivial

theorem Sexp.Node.Each.mono {p q : Sexp.Atom → Prop} (hpq : ∀ a, p a → q a) {n : Sexp.Node}
    (h : n.Each p) : n.Each q := by
  induction n using Sexp.Node.induction with
  | atom a pos => exact hpq a h
  | node b ns pos ih =>
      rw [each_node, eachAll_iff] at h ⊢
      exact fun n hn => ih n hn (h n hn)

theorem Op.normal_of_ofText {text : String} {op : Op} (h : Op.ofText text = .ok op) :
    op.Normal := by
  obtain ⟨n, hn, hread⟩ := bind_eq_ok_iff.1 h
  have hatoms : n.Each Sexp.Atom.Normal :=
    (Sexp.Node.each_writable_of_ofText? hn).mono fun _ ha => ha.normal
  exact Op.Each.mono (fun _ ho => ho.1) ((Sexp.readsOp_of_readOp hread).opOver hatoms)

/-! ### Collaborators -/

theorem noServices_keepNormal : (noServices : Services σ).KeepNormal :=
  fun _ _ _ _ _ => .error _

theorem splitRow_normal {row : Binding} (hrow : row.Each Term.Normal) (v : Var)
    (text separator : TermPattern) :
    YieldsOnly (fun rows => ∀ row ∈ rows, row.Each Term.Normal)
      (splitRow v text separator row) := by
  refine .of_bind fun text => .of_bind fun separator => ?_
  split
  · exact .error _
  · refine .ok fun m hm => ?_
    obtain ⟨piece, -, hm⟩ := List.mem_filterMap.1 hm
    exact hrow.unify? (Term.normal_string _) hm

theorem strSplit_normal {t : Table} (ht : t.Each Term.Normal) (args : ProcedureArgs) :
    YieldsOnly (Table.Each Term.Normal) (strSplit t args) := by
  unfold strSplit
  split
  next v text separator =>
    intro u hu
    obtain ⟨rows, hrows, h⟩ := bind_eq_ok_iff.1 hu
    obtain rfl := Except.ok.inj h
    have hparts : ∀ part ∈ rows, ∀ row ∈ part, row.Each Term.Normal :=
      forall_of_mapM_eq_ok (fun _ _ hrow h => splitRow_normal hrow v text separator _ h) hrows ht
    intro row hrow
    obtain ⟨part, hpart, hrow⟩ := List.mem_flatten.1 hrow
    exact hparts part hpart row hrow
  next => exact .error _

theorem builtinProcedures_keepNormal : (builtinProcedures : Procedures σ).KeepNormal := by
  intro name proc hproc t args w ht
  obtain rfl := eq_strSplit_of_builtinProcedures hproc
  exact strSplit_normal ht args

theorem localServices_keepNormal {endpoints : SortedMap Term Dataset} {procedures : Procedures σ}
    (hendpoints : ∀ e ∈ endpoints.toList, e.2.Each Term.Normal)
    (hprocedures : procedures.KeepNormal) (config : Config) :
    (localServices endpoints procedures config).KeepNormal := by
  intro endpoint sub silent w hsub
  cases hget : endpoints.get? endpoint with
  | none =>
      rw [run_localServices_of_none hget]
      exact .error _
  | some d =>
      let engine : Engine σ := { dataset := d, procedures := procedures, config := config }
      rcases hresult : engine.execute sub w with ⟨result, w'⟩
      rw [run_localServices_of_execute hget hresult]
      cases result with
      | error e => exact .error e
      | ok answer =>
          have hcontext : engine.context.KeepsNormal := ⟨noServices_keepNormal, hprocedures⟩
          have hanswer : answer.table.Each Term.Normal :=
            engine.execute_normal hcontext (hendpoints _ (SortedMap.get?_eq_some_iff.1 hget)) hsub
              hresult
          refine .ok fun row hrow => ?_
          obtain ⟨row', hrow', heq⟩ := List.mem_map.1 hrow
          obtain rfl := Except.ok.inj heq
          exact hanswer row' hrow'

/-! ### Queries -/

namespace Engine

/-- The dataset of the engine is loaded from a document. Its procedures are built in, and its
services, if it has any, are other loaded datasets. -/
structure Loaded (e : Engine σ) : Prop where
  dataset : ∃ document, NQuads.load document = .ok e.dataset
  procedures : e.procedures = builtinProcedures
  services : e.services = noServices ∨ ∃ endpoints config,
    e.services = localServices endpoints builtinProcedures config ∧
      ∀ entry ∈ endpoints.toList, ∃ document, NQuads.load document = .ok entry.2

theorem query_eq_ok_iff {e : Engine σ} {text : String} {world world' : σ} {answer : Answer} :
    e.query text world = (.ok answer, world') ↔
      ∃ op, Op.ofText text = .ok op ∧ e.execute op world = (.ok answer, world') := by
  rw [query]
  cases Op.ofText text with
  | error f =>
      constructor
      · intro h
        have herror : (.error (.query f) : Except Error Answer) = .ok answer := congrArg Prod.fst h
        contradiction
      · nofun
  | ok op => simp

/-- The literal stands in a table that an operator of the tree has in some graph of the dataset. -/
def Meets (e : Engine σ) (op : Op) (l : Literal) : Prop :=
  ∃ o depth name active j t k row v, op.At 1 o depth ∧ e.dataset.graph? name = some active ∧
    (o.eval e.context e.dataset active).run j = .ok t k ∧ row ∈ t.rows ∧
    Binding.get? row v = some (.literal l)

theorem Loaded.keepsNormal {e : Engine σ} (he : e.Loaded) : e.context.KeepsNormal := by
  have hprocedures : e.procedures.KeepNormal := he.procedures ▸ builtinProcedures_keepNormal
  suffices hservices : e.services.KeepNormal from ⟨hservices, hprocedures⟩
  rcases he.services with h | ⟨endpoints, config, h, hendpoints⟩
  · rw [h]
    exact noServices_keepNormal
  · have hnormal : ∀ entry ∈ endpoints.toList, entry.2.Each Term.Normal := by
      intro entry hentry
      obtain ⟨document, hload⟩ := hendpoints entry hentry
      exact NQuads.each_normal_of_load hload
    rw [h]
    exact localServices_keepNormal hnormal builtinProcedures_keepNormal config

theorem Loaded.each_normal {e : Engine σ} (he : e.Loaded) : e.dataset.Each Term.Normal := by
  obtain ⟨document, hload⟩ := he.dataset
  exact NQuads.each_normal_of_load hload

theorem Loaded.meets_normal {e : Engine σ} (he : e.Loaded) {op : Op} (hop : op.Normal)
    {l : Literal} (h : e.Meets op l) : l.Normal := by
  obtain ⟨o, depth, name, active, j, t, k, row, v, ho, hactive, hrun, hrow, hl⟩ := h
  have hd : e.dataset.Each Term.Normal := he.each_normal
  exact Op.eval_normal he.keepsNormal hd (hd.graph? hactive) (hop.of_at ho) j t k hrun row hrow v _
    hl

/-- The answer to a query over loaded datasets has literals in normal form only: not the datatype
of strings, not both a language and a datatype, and no capital letters in a tag. So have the tables
of all operators on the way to it, in whatever graph. Hence literals of these tables are equal if
they have the same characters, the same language up to case and the same datatype, whether it is
written or not. -/
theorem query_normal {e : Engine σ} (he : e.Loaded) {text : String} {world world' : σ}
    {answer : Answer} (h : e.query text world = (.ok answer, world')) :
    (∀ row ∈ answer.table.rows, ∀ v l, row.get? v = some (.literal l) →
      l.datatype ≠ some Iri.string ∧ ¬ (l.language.isSome ∧ l.datatype.isSome) ∧
        ∀ tag, l.language = some tag → ∀ c ∈ tag.toList, c.isUpper = false) ∧
    ∀ op, Op.ofText text = .ok op → ∀ l m, e.Meets op l → e.Meets op m →
      l.Normal ∧ (l.lexical = m.lexical → l.language.map lowerAscii = m.language.map lowerAscii →
        l.datatypeIri = m.datatypeIri → l = m) := by
  obtain ⟨op, hop, hexecute⟩ := query_eq_ok_iff.1 h
  have hnormal : op.Normal := Op.normal_of_ofText hop
  constructor
  · intro row hrow v l hl
    have hl : l.Normal :=
      execute_normal he.keepsNormal he.each_normal hnormal hexecute row hrow v _ hl
    refine ⟨hl.2.2, ?_, fun tag => hl.isUpper_eq_false⟩
    rintro ⟨hlanguage, hdatatype⟩
    rcases hl.1 with hnone | hnone
    · rw [Option.isNone_iff_eq_none.1 hnone] at hlanguage
      contradiction
    · rw [Option.isNone_iff_eq_none.1 hnone] at hdatatype
      contradiction
  · intro op' hop' l m hl hm
    have hl : l.Normal := he.meets_normal (Op.normal_of_ofText hop') hl
    have hm : m.Normal := he.meets_normal (Op.normal_of_ofText hop') hm
    exact ⟨hl, hl.ext hm⟩

/-- A dataset in which a string has its datatype written, joined with a row of the query in which
it has not. -/
theorem query_normal_join :
    let document := "<a> <p> \"x\"^^<http://www.w3.org/2001/XMLSchema#string> ."
    let d : Dataset := .ofQuads [⟨none, ⟨.iri ⟨"a"⟩, .iri ⟨"p"⟩, .string "x"⟩⟩]
    let e : Engine Unit := { dataset := d }
    let row : Binding := .single ⟨"o"⟩ (.string "x")
    let op : Op := .join (.bgp [⟨.term (.iri ⟨"a"⟩), .term (.iri ⟨"p"⟩), .var ⟨"o"⟩⟩])
      (.table (.ofRows [] [row]))
    NQuads.load document = .ok d ∧ e.Loaded ∧ Op.ofText op.text = .ok op ∧
      ∃ answer, e.query op.text () = (.ok answer, ()) ∧ answer.table.rows = [row] ∧
        ∀ row ∈ answer.table.rows, ∀ v l, row.get? v = some (.literal l) →
          l.datatype ≠ some Iri.string := by
  intro document d e row op
  have hload : NQuads.load document = .ok d := by
    have hlines : NQuads.lines document.toList =
        ["<a> <p> \"x\"^^<http://www.w3.org/2001/XMLSchema#string> .".toList] := by decide +kernel
    have hobject :
        NQuads.readTerm " \"x\"^^<http://www.w3.org/2001/XMLSchema#string> .".toList =
          .ok (.string "x", " .".toList) := by
      change NQuads.readLiteral (escapeText "x".toList ++
        '"' :: "^^<http://www.w3.org/2001/XMLSchema#string> .".toList) = _
      rw [NQuads.readLiteral, NQuads.readString_escapeText]
      rfl
    have hline :
        NQuads.readLine "<a> <p> \"x\"^^<http://www.w3.org/2001/XMLSchema#string> .".toList =
          .ok (some ⟨none, ⟨.iri ⟨"a"⟩, .iri ⟨"p"⟩, .string "x"⟩⟩) := by
      refine NQuads.readLine_eq_some_iff.2 ⟨⟨by decide, fun r h => ?_⟩, ?_⟩
      · exact absurd (List.cons.inj h).1 (by decide)
      · exact ⟨_, _, _, _, rfl, rfl, rfl, rfl, hobject, rfl, rfl⟩
    rw [NQuads.load, NQuads.statements, hlines]
    simp only [NQuads.readLines, hline]
    rfl
  have hloaded : e.Loaded := ⟨⟨document, hload⟩, rfl, .inl rfl⟩
  have hwritable : op.Writable := by
    have ho : Sexp.Atom.Writable (.var ⟨"o"⟩) := by decide
    have ha : Sexp.Atom.Writable (.term (.iri ⟨"a"⟩)) := by
      have h : Iri.Writable ⟨"a"⟩ := by decide
      exact h
    have hp : Sexp.Atom.Writable (.term (.iri ⟨"p"⟩)) := by
      have h : Iri.Writable ⟨"p"⟩ := by decide
      exact h
    have hx : Sexp.Atom.Writable (.term (.string "x")) :=
      .inl ⟨rfl, fun i hi => absurd hi.symm (Option.some_ne_none i)⟩
    have htable : (Table.ofRows [] [row]).Over Sexp.Atom.Writable := by
      refine Sexp.over_ofRows (List.forall_mem_nil _) (List.forall_mem_singleton.2 ?_)
      exact List.forall_mem_singleton.2 ⟨ho, hx⟩
    refine ⟨⟨trivial, trivial, trivial⟩, ⟨?_, trivial, trivial⟩, htable, trivial, trivial⟩
    exact List.forall_mem_singleton.2 ⟨ha, hp, ho⟩
  have hread : Op.ofText op.text = .ok op := by
    refine Op.ofText_text_of_isName (hwritable.mono fun _ => isName_of_isWord) ?_
    rw [Op.nesting_text hwritable]
    decide
  have hpattern : Run.Returns ((Op.bgp [⟨.term (.iri ⟨"a"⟩), .term (.iri ⟨"p"⟩), .var ⟨"o"⟩⟩]).eval
      e.context d d.defaultGraph) (·.rows = [row]) := by
    rw [Op.eval_eq_step]
    exact .tick (.pure (by decide))
  have htable : Run.Returns ((Op.table (.ofRows [] [row])).eval e.context d d.defaultGraph)
      (· = .ofRows [] [row]) := by
    rw [Op.eval_eq_step]
    exact .tick (.pure rfl)
  have hjoin : Run.Returns (op.eval e.context d d.defaultGraph) (·.rows = [row]) := by
    rw [Op.eval_eq_step]
    refine .tick (hpattern.bind fun t ht => htable.bind_pure fun u hu => ?_)
    rw [Table.join, ht, hu]
    change [row].flatMap (fun a => [row].filterMap a.merge?) = [row]
    decide
  have hcheck : op.check e.context.config.maxDepth = .ok () := by cbv
  rw [← Op.run_eq_eval hcheck] at hjoin
  obtain ⟨answer, world, hanswer, ht⟩ := exists_execute_of_returns hjoin ()
  have h : e.query op.text () = (.ok answer, ()) := query_eq_ok_iff.2 ⟨op, hread, hanswer⟩
  refine ⟨hload, hloaded, hread, answer, h, ht, fun row hrow v l hl => ?_⟩
  exact ((query_normal hloaded h).1 row hrow v l hl).1

end Engine

end GraphAlgebra
