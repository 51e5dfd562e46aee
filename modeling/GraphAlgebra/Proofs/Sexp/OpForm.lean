import GraphAlgebra.Proofs.Sexp.OpPart
/-!
# The written forms of operators

The form of an operator has its text (`Op.prints`), can be read where the leaves of the tree can
(`Op.isPart_sexp`), and is read as the operator (`readOp_of_matches`). The name of an extension
is an atom of any kind, so a form is given relative to a choice of atoms for the names.
-/

namespace GraphAlgebra

open Sexp

/-- The atom is written as the name and reported as the name. -/
structure Sexp.Leaf.Names (a : Leaf) (name : String) : Prop where
  writable : a.Writable
  text_eq : a.text = name
  describe_eq : ∀ pos, (Node.atom a.atom pos).describe = name

theorem Sexp.Leaf.names_word {name : String} (h : IsWord name) : (Leaf.word name).Names name :=
  ⟨h, rfl, fun _ => rfl⟩

namespace Op

/-- The form of an operator, with the given atoms for the names of extensions. -/
def sexp (leafOf : String → Leaf) : Op → Form
  | .bgp ps => .list (.word "bgp" :: ps.map fun p => .list (.word "triple" :: p.sexps))
  | .quads g [] => .list [.word "quadpattern", g.sexp]
  | .quads g (p :: ps) =>
      .list (.word "quadpattern" ::
        (p :: ps).map fun p => .list (.word "quad" :: g.sexp :: p.sexps))
  | .procedure sub name (.positional es) =>
      .list [.word "proc", .leaf (.full (.iri name)), .list (es.map Expr.sexp), sub.sexp leafOf]
  | .procedure sub name (.subjectObject s o) =>
      .list [.word "propfunc", .leaf (.full (.iri name)), s.sexp, o.sexp, sub.sexp leafOf]
  | .join l r => .list [.word "join", l.sexp leafOf, r.sexp leafOf]
  | .sequence l r => .list [.word "sequence", l.sexp leafOf, r.sexp leafOf]
  | .leftJoin l r [] => .list [.word "leftjoin", l.sexp leafOf, r.sexp leafOf]
  | .leftJoin l r (e :: es) =>
      .list [.word "leftjoin", l.sexp leafOf, r.sexp leafOf, exprListForm (e :: es)]
  | .diff l r => .list [.word "diff", l.sexp leafOf, r.sexp leafOf]
  | .union l r => .list [.word "union", l.sexp leafOf, r.sexp leafOf]
  | .filter es sub => .list [.word "filter", exprListForm es, sub.sexp leafOf]
  | .graph g sub => .list [.word "graph", g.sexp, sub.sexp leafOf]
  | .service endpoint sub false =>
      .list [.word "service", .leaf (.full endpoint), sub.sexp leafOf]
  | .service endpoint sub true =>
      .list [.word "service", .word "silent", .leaf (.full endpoint), sub.sexp leafOf]
  | .datasetNames g => .list [.word "datasetnames", g.sexp]
  | .table t => t.sexp
  | .extension name sub => .list [.word "ext", .leaf (leafOf name), sub.sexp leafOf]
  | .null => .list [.word "null"]
  | .list sub => .list [.word "list", sub.sexp leafOf]
  | .order sub cs =>
      .list [.word "order", .list (cs.map SortCondition.sexp), sub.sexp leafOf]
  | .project sub vs =>
      .list [.word "project", .list (vs.map fun v => .leaf (.var v)), sub.sexp leafOf]
  | .distinct sub => .list [.word "distinct", sub.sexp leafOf]
  | .reduced sub => .list [.word "reduced", sub.sexp leafOf]
  | .slice sub start length =>
      .list [.word "slice", boundForm start, boundForm length, sub.sexp leafOf]
  | .assign sub as => .list [.word "assign", .list (as.map assignmentForm), sub.sexp leafOf]
  | .group sub ks as =>
      .list [.word "group", .list (ks.map keyForm), .list (as.map aggregateForm), sub.sexp leafOf]

variable {leafOf : String → Leaf} {p : String → Prop}

theorem prints (hleaf : ∀ name, p name → (leafOf name).Names name) {op : Op}
    (h : op.WritableWith p) : Prints op.text (op.sexp leafOf) := by
  induction op with
  | join l r ihl ihr | sequence l r ihl ihr | diff l r ihl ihr | union l r ihl ihr =>
      exact Prints.form _ (.cons (ihl h.2.1) (.cons (ihr h.2.2) .nil))
  | leftJoin l r es ihl ihr =>
      cases es with
      | nil => exact Prints.form _ (.cons (ihl h.2.1) (.cons (ihr h.2.2) .nil))
      | cons e es =>
          exact Prints.form _ (.cons (ihl h.2.1) (.cons (ihr h.2.2)
            (.cons (prints_exprListForm (e :: es)) .nil)))
  | bgp ps =>
      refine Prints.form _ (Prints.map fun p _ => ?_)
      have hfront : "".toList = Form.tailChars [] := rfl
      exact p.prints hfront "triple"
  | quads g ps =>
      cases ps with
      | nil => exact Prints.form _ (.cons g.prints .nil)
      | cons p ps =>
          refine Prints.form _ (Prints.map fun p _ => ?_)
          have hg : (" " ++ g.short).toList = Form.tailChars [g.sexp] := by
            have hg : g.short.toList = g.sexp.chars := g.prints
            simp [Form.tailChars, hg]
          have hp := p.prints hg "quad"
          simpa [Prints] using hp
  | procedure sub name args ih =>
      have hname : Prints name.written (.leaf (.full (.iri name))) := rfl
      cases args with
      | positional es =>
          exact Prints.form _ (.cons hname
            (.cons (Prints.parenthesized (Prints.map fun e _ => e.prints)) (.cons (ih h.2) .nil)))
      | subjectObject s o =>
          exact Prints.form _ (.cons hname
            (.cons s.prints (.cons o.prints (.cons (ih h.2) .nil))))
  | filter es sub ih =>
      exact Prints.form _ (.cons (prints_exprListForm es) (.cons (ih h.2) .nil))
  | graph g sub ih => exact Prints.form _ (.cons g.prints (.cons (ih h.2) .nil))
  | service endpoint sub silent ih =>
      have hendpoint : Prints endpoint.written (.leaf (.full endpoint)) := rfl
      have hsilent : Prints "silent" (.word "silent") := rfl
      cases silent with
      | false => exact Prints.form _ (.cons hendpoint (.cons (ih h.2) .nil))
      | true => exact Prints.form _ (.cons hsilent (.cons hendpoint (.cons (ih h.2) .nil)))
  | datasetNames g => exact Prints.form _ (.cons g.prints .nil)
  | table t => exact t.prints
  | extension name sub ih =>
      have hname : Prints name (.leaf (leafOf name)) := by
        rw [Prints, Form.chars, (hleaf name h.1.2.2).text_eq]
      exact Prints.form _ (.cons hname (.cons (ih h.2) .nil))
  | null => exact Prints.form _ .nil
  | list sub ih | distinct sub ih | reduced sub ih =>
      exact Prints.form _ (.cons (ih h.2) .nil)
  | order sub cs ih =>
      exact Prints.form _ (.cons (Prints.parenthesized (Prints.map fun c _ => c.prints))
        (.cons (ih h.2) .nil))
  | project sub vs ih =>
      exact Prints.form _ (.cons (Prints.parenthesized (Prints.map fun v _ => rfl))
        (.cons (ih h.2) .nil))
  | slice sub start length ih =>
      exact Prints.form _ (.cons (prints_boundForm h.1.2.1.1)
        (.cons (prints_boundForm h.1.2.1.2) (.cons (ih h.2) .nil)))
  | assign sub as ih =>
      exact Prints.form _ (.cons
        (Prints.parenthesized (Prints.map fun a _ => prints_assignmentForm a))
        (.cons (ih h.2) .nil))
  | group sub ks as ih =>
      exact Prints.form _ (.cons (Prints.parenthesized (Prints.map fun k _ => prints_keyForm k))
        (.cons (Prints.parenthesized (Prints.map fun a _ => prints_aggregateForm a))
          (.cons (ih h.2) .nil)))

theorem isPart_sexp (hleaf : ∀ name, p name → (leafOf name).Names name) {op : Op}
    (h : op.WritableWith p) : (op.sexp leafOf).IsPart := by
  induction op with
  | join l r ihl ihr | sequence l r ihl ihr | diff l r ihl ihr | union l r ihl ihr =>
      refine Form.isPart_named (by decide) ?_
      simp [ihl h.2.1, ihr h.2.2]
  | leftJoin l r es ihl ihr =>
      cases es with
      | nil =>
          refine Form.isPart_named (by decide) ?_
          simp [ihl h.2.1, ihr h.2.2]
      | cons e es =>
          have hes : (exprListForm (e :: es)).IsPart := isPart_exprListForm h.1.1
          refine Form.isPart_named (by decide) ?_
          simp [ihl h.2.1, ihr h.2.2, hes]
  | bgp ps =>
      refine Form.isPart_named (by decide) (List.forall_mem_map.2 fun p hp => ?_)
      exact Form.isPart_named (by decide) (TriplePattern.isPart_of_mem_sexps (h.1 p hp))
  | quads g ps =>
      have hg : g.sexp.IsPart := TermPattern.isPart_sexp h.1.1
      cases ps with
      | nil => exact Form.isPart_named (by decide) (by simpa using hg)
      | cons p ps =>
          refine Form.isPart_named (by decide) (List.forall_mem_map.2 fun p hp => ?_)
          refine Form.isPart_named (by decide) (List.forall_mem_cons.2 ⟨hg, ?_⟩)
          exact TriplePattern.isPart_of_mem_sexps (h.1.2 p hp)
  | procedure sub name args ih =>
      obtain ⟨⟨⟨hname, hargs⟩, -⟩, hsub⟩ := h
      have hname : (Form.leaf (.full (.iri name))).IsPart := Form.isPart_full (t := .iri name) hname
      cases args with
      | positional es =>
          have hes : (Form.list (es.map Expr.sexp)).IsPart :=
            Form.isPart_list_map fun e he => Expr.isPart_sexp (hargs e he)
          refine Form.isPart_named (by decide) ?_
          simp [hname, hes, ih hsub]
      | subjectObject s o =>
          refine Form.isPart_named (by decide) ?_
          simp [hname, PlaceArg.isPart_sexp hargs.1, PlaceArg.isPart_sexp hargs.2, ih hsub]
  | filter es sub ih =>
      refine Form.isPart_named (by decide) ?_
      simp [isPart_exprListForm h.1.1, ih h.2]
  | graph g sub ih =>
      refine Form.isPart_named (by decide) ?_
      simp [TermPattern.isPart_sexp h.1.1, ih h.2]
  | service endpoint sub silent ih =>
      have hendpoint : (Form.leaf (.full endpoint)).IsPart := Form.isPart_full h.1.1
      have hsilent : (Form.word "silent").IsPart := Form.isPart_word (by decide)
      cases silent with
      | false =>
          refine Form.isPart_named (by decide) ?_
          simp [hendpoint, ih h.2]
      | true =>
          refine Form.isPart_named (by decide) ?_
          simp [hsilent, hendpoint, ih h.2]
  | datasetNames g =>
      refine Form.isPart_named (by decide) ?_
      simpa using TermPattern.isPart_sexp h.1
  | table t => exact Table.isPart_sexp h.1
  | extension name sub ih =>
      -- The name can be a symbol, which may only stand before another part.
      have hsub := ih h.2
      refine ⟨⟨?_, ?_⟩, id⟩
      · have hext : (Form.word "ext").IsPart := Form.isPart_word (by decide)
        exact hext.writable
      · exact ⟨(hleaf name h.1.2.2).writable, hsub.writable, hsub.not_isSymbol⟩
  | null => exact Form.isPart_named (by decide) (by simp)
  | list sub ih | distinct sub ih | reduced sub ih =>
      refine Form.isPart_named (by decide) ?_
      simpa using ih h.2
  | order sub cs ih =>
      have hcs : (Form.list (cs.map SortCondition.sexp)).IsPart :=
        Form.isPart_list_map fun c hc => SortCondition.isPart_sexp (h.1.1 c hc)
      refine Form.isPart_named (by decide) ?_
      simp [hcs, ih h.2]
  | project sub vs ih =>
      have hvs : (Form.list (vs.map fun v => .leaf (.var v))).IsPart :=
        Form.isPart_list_map fun v hv => Form.isPart_var (h.1.1 v hv)
      refine Form.isPart_named (by decide) ?_
      simp [hvs, ih h.2]
  | slice sub start length ih =>
      -- A bound that is left out is a symbol.
      have hword : (Form.word "slice").IsPart := Form.isPart_word (by decide)
      have hbounds : ∀ f ∈ [Form.word "slice", boundForm start, boundForm length], f.Writable := by
        simp [hword.writable, writable_boundForm]
      exact ⟨Form.writableAll_concat hbounds (ih h.2), id⟩
  | assign sub as ih =>
      have has : (Form.list (as.map assignmentForm)).IsPart :=
        Form.isPart_list_map fun a ha => isPart_assignmentForm (h.1.1 a ha)
      refine Form.isPart_named (by decide) ?_
      simp [has, ih h.2]
  | group sub ks as ih =>
      have hks : (Form.list (ks.map keyForm)).IsPart :=
        Form.isPart_list_map fun k hk => isPart_keyForm (h.1.1.1 k hk)
      have has : (Form.list (as.map aggregateForm)).IsPart :=
        Form.isPart_list_map fun a ha => isPart_aggregateForm (h.1.1.2 a ha)
      refine Form.isPart_named (by decide) ?_
      simp [hks, has, ih h.2]

end Op

namespace Sexp

variable {leafOf : String → Leaf} {p : String → Prop}

theorem readOp_bgp (args : List Node) (p pos : Nat) :
    readOp (.list (.atom (.word "bgp") p :: args) pos) = .bgp <$> args.mapM readTriple := by
  rw [readOp.eq_def]
  rfl

theorem readOp_quadPattern (args : List Node) (p pos : Nat) :
    readOp (.list (.atom (.word "quadpattern") p :: args) pos) = readQuadPattern args pos := by
  rw [readOp.eq_def]
  rfl

theorem readOp_table (args : List Node) (p pos : Nat) :
    readOp (.list (.atom (.word "table") p :: args) pos) = .table <$> readTable args pos := by
  rw [readOp.eq_def]
  rfl

theorem readOp_of_matches (hleaf : ∀ name, p name → (leafOf name).Names name) {op : Op}
    (h : op.WritableWith p) {n : Node} (hn : n.Matches (op.sexp leafOf)) : readOp n = .ok op := by
  induction op generalizing n with
  | join l r ihl ihr | sequence l r ihl ihr | union l r ihl ihr =>
      obtain ⟨_, _, pos, rfl, _ | ⟨hl, _ | ⟨hr, _ | _⟩⟩⟩ := Node.matches_named_iff.1 hn
      simp [readOp, Leaf.atom, Node.word?, readOps, ihl h.2.1 hl, ihr h.2.2 hr, combineAll,
        combine, bind, Except.bind]
  | diff l r ihl ihr =>
      obtain ⟨_, _, pos, rfl, _ | ⟨hl, _ | ⟨hr, _ | _⟩⟩⟩ := Node.matches_named_iff.1 hn
      simp [readOp, Leaf.atom, Node.word?, ihl h.2.1 hl, ihr h.2.2 hr, bind, Except.bind]
  | leftJoin l r es ihl ihr =>
      cases es with
      | nil =>
          obtain ⟨_, _, pos, rfl, _ | ⟨hl, _ | ⟨hr, _ | _⟩⟩⟩ := Node.matches_named_iff.1 hn
          simp [readOp, Leaf.atom, Node.word?, ihl h.2.1 hl, ihr h.2.2 hr, bind, Except.bind]
      | cons e es =>
          obtain ⟨_, _, pos, rfl, _ | ⟨hl, _ | ⟨hr, _ | ⟨hes, _ | _⟩⟩⟩⟩ :=
            Node.matches_named_iff.1 hn
          simp [readOp, Leaf.atom, Node.word?, ihl h.2.1 hl, ihr h.2.2 hr,
            readExprList_of_matches hes, bind, Except.bind]
  | bgp ps =>
      obtain ⟨_, _, pos, rfl, hps⟩ := Node.matches_named_iff.1 hn
      have hps := mapM_eq_ok_of_matches (fun _ _ _ => readTriple_of_matches) hps
      simp [readOp_bgp, Leaf.atom, hps]
  | quads g ps =>
      cases ps with
      | nil =>
          obtain ⟨_, _, pos, rfl, _ | ⟨hg, _ | _⟩⟩ := Node.matches_named_iff.1 hn
          simp [readOp_quadPattern, Leaf.atom, readQuadPattern_of_matches_graph hg]
      | cons p ps =>
          obtain ⟨_, _, pos, rfl, hps⟩ := Node.matches_named_iff.1 hn
          simp [readOp_quadPattern, Leaf.atom, readQuadPattern_of_matches hps]
  | procedure sub name args ih =>
      cases args with
      | positional es =>
          obtain ⟨_, _, pos, rfl, _ | ⟨hname, _ | ⟨hes, _ | ⟨hsub, _ | _⟩⟩⟩⟩ :=
            Node.matches_named_iff.1 hn
          obtain ⟨_, _, rfl, hitems⟩ := Node.matches_list_iff.1 hes
          rw [← Expr.sexps_eq] at hitems
          simp [readOp, Leaf.atom, Node.word?, Node.items, readIri_of_matches hname,
            readExprs_of_matches hitems, ih h.2 hsub, bind, Except.bind]
      | subjectObject s o =>
          obtain ⟨_, _, pos, rfl, _ | ⟨hname, _ | ⟨hs, _ | ⟨ho, _ | ⟨hsub, _ | _⟩⟩⟩⟩⟩ :=
            Node.matches_named_iff.1 hn
          simp [readOp, Leaf.atom, Node.word?, readIri_of_matches hname,
            readPlaceArg_of_matches hs, readPlaceArg_of_matches ho, ih h.2 hsub, bind, Except.bind]
  | filter es sub ih =>
      obtain ⟨_, _, pos, rfl, _ | ⟨hes, _ | ⟨hsub, _ | _⟩⟩⟩ := Node.matches_named_iff.1 hn
      simp [readOp, Leaf.atom, Node.word?, readExprList_of_matches hes, ih h.2 hsub, bind,
        Except.bind]
  | graph g sub ih =>
      obtain ⟨_, _, pos, rfl, _ | ⟨hg, _ | ⟨hsub, _ | _⟩⟩⟩ := Node.matches_named_iff.1 hn
      simp [readOp, Leaf.atom, Node.word?, readPlace_of_matches hg, ih h.2 hsub, bind, Except.bind]
  | service endpoint sub silent ih =>
      cases silent with
      | false =>
          obtain ⟨_, _, pos, rfl, _ | ⟨hendpoint, _ | ⟨hsub, _ | _⟩⟩⟩ := Node.matches_named_iff.1 hn
          obtain ⟨q, rfl⟩ := Node.matches_leaf_iff.1 hendpoint
          have hsilent : (Node.atom (.term endpoint) q).isWord "silent" = false := rfl
          have hread : readEndpoint (.atom (.term endpoint) q) = .ok endpoint := rfl
          simp [readOp, Leaf.atom, Node.word?, hsilent, hread, ih h.2 hsub, bind, Except.bind]
      | true =>
          obtain ⟨_, _, pos, rfl, _ | ⟨hsilent, _ | ⟨hendpoint, _ | ⟨hsub, _ | _⟩⟩⟩⟩ :=
            Node.matches_named_iff.1 hn
          have hword : lowerAscii "silent" = "silent" := by decide
          simp [readOp, Leaf.atom, Node.word?, isWord_of_matches hsilent, hword,
            readEndpoint_of_matches hendpoint, ih h.2 hsub, bind, Except.bind]
  | datasetNames g =>
      obtain ⟨_, _, pos, rfl, _ | ⟨hg, _ | _⟩⟩ := Node.matches_named_iff.1 hn
      simp [readOp, Leaf.atom, Node.word?, readPlace_of_matches hg]
  | table t =>
      obtain ⟨_, args, pos, rfl, hhead, hread⟩ := readTable_of_matches h.1.1 hn
      obtain ⟨_, rfl⟩ := Node.matches_leaf_iff.1 hhead
      simp [readOp_table, Leaf.atom, hread]
  | extension name sub ih =>
      obtain ⟨_, _, pos, rfl, _ | ⟨hname, _ | ⟨hsub, _ | _⟩⟩⟩ := Node.matches_named_iff.1 hn
      obtain ⟨q, rfl⟩ := Node.matches_leaf_iff.1 hname
      -- The reader takes the report of the atom, so it need not be known which atom it is.
      have hdescribe := (hleaf name h.1.2.2).describe_eq q
      generalize (leafOf name).atom = a at hdescribe ⊢
      simp [readOp, Leaf.atom, Node.word?, hdescribe, ih h.2 hsub]
  | null =>
      obtain ⟨_, _, pos, rfl, _ | _⟩ := Node.matches_named_iff.1 hn
      simp [readOp, Leaf.atom, Node.word?]
  | list sub ih | distinct sub ih | reduced sub ih =>
      obtain ⟨_, _, pos, rfl, _ | ⟨hsub, _ | _⟩⟩ := Node.matches_named_iff.1 hn
      simp [readOp, Leaf.atom, Node.word?, ih h.2 hsub]
  | order sub cs ih =>
      obtain ⟨_, _, pos, rfl, _ | ⟨hcs, _ | ⟨hsub, _ | _⟩⟩⟩ := Node.matches_named_iff.1 hn
      obtain ⟨_, hitems, hcs⟩ := items_of_matches (fun _ _ _ => readCondition_of_matches) hcs
      simp [readOp, Leaf.atom, Node.word?, hitems, hcs, ih h.2 hsub, bind, Except.bind]
  | project sub vs ih =>
      obtain ⟨_, _, pos, rfl, _ | ⟨hvs, _ | ⟨hsub, _ | _⟩⟩⟩ := Node.matches_named_iff.1 hn
      obtain ⟨_, hitems, hvs⟩ := items_of_matches (fun _ _ _ => readVar_of_matches) hvs
      simp [readOp, Leaf.atom, Node.word?, hitems, hvs, ih h.2 hsub, bind, Except.bind]
  | slice sub start length ih =>
      obtain ⟨_, _, pos, rfl, _ | ⟨hstart, _ | ⟨hlength, _ | ⟨hsub, _ | _⟩⟩⟩⟩ :=
        Node.matches_named_iff.1 hn
      obtain ⟨hs, hl⟩ := h.1.2.1
      simp [readOp, Leaf.atom, Node.word?, readBound_of_matches hs hstart,
        readBound_of_matches hl hlength, ih h.2 hsub, bind, Except.bind]
  | assign sub as ih =>
      obtain ⟨_, _, pos, rfl, _ | ⟨has, _ | ⟨hsub, _ | _⟩⟩⟩ := Node.matches_named_iff.1 hn
      obtain ⟨_, hitems, has⟩ := items_of_matches (fun _ _ _ => readAssignment_of_matches) has
      simp [readOp, Leaf.atom, Node.word?, hitems, has, ih h.2 hsub, bind, Except.bind]
  | group sub ks as ih =>
      obtain ⟨_, _, pos, rfl, _ | ⟨hks, _ | ⟨has, _ | ⟨hsub, _ | _⟩⟩⟩⟩ :=
        Node.matches_named_iff.1 hn
      obtain ⟨_, hkeys, hks⟩ := items_of_matches (fun _ _ _ => readKey_of_matches) hks
      obtain ⟨_, hitems, has⟩ := items_of_matches (fun _ _ _ => readAggregate_of_matches) has
      simp [readOp, Leaf.atom, Node.word?, hkeys, hks, hitems, has, ih h.2 hsub, bind, Except.bind]

end Sexp

end GraphAlgebra
