import GraphAlgebra.Proofs.Except
import GraphAlgebra.Proofs.Sexp.Grammar
import GraphAlgebra.Sexp.OpReader
/-!
# What the reader of operators can do

`ReadsOp n op` has one rule for each kind of operator and says which parts of the form `n` the
operator `op` and its operands are read from. Everything that is read follows these rules
(`readsOp_of_readOp`), so what holds for all trees that are read is shown along them.
-/

namespace GraphAlgebra

namespace Sexp

mutual

inductive ReadsOp : Node → Op → Prop
  | bgp {ts : BasicPattern} (h : args.mapM readTriple = .ok ts) :
      ReadsOp (.list (head :: args) pos) (.bgp ts)
  | quads (h : readQuadPattern args q = .ok op) : ReadsOp (.list (head :: args) pos) op
  | table {t : Table} (h : readTable args q = .ok t) :
      ReadsOp (.list (head :: args) pos) (.table t)
  | datasetNames {g : TermPattern} (h : readPlace n = .ok g) :
      ReadsOp (.list [head, n] pos) (.datasetNames g)
  | null : ReadsOp (.list [head] pos) .null
  | combine {head : Node} {args : List Node} {name : String} {l r : Op} {ops : List Op} {pos : Nat}
      (hhead : head.word? = some name) (hname : name ∈ ["join", "sequence", "union"])
      (h : ReadsOps args (l :: r :: ops)) :
      ReadsOp (.list (head :: args) pos) (ops.foldl (combine name) (combine name l r))
  | diff (hl : ReadsOp n₁ l) (hr : ReadsOp n₂ r) :
      ReadsOp (.list [head, n₁, n₂] pos) (.diff l r)
  | leftJoin (hl : ReadsOp n₁ l) (hr : ReadsOp n₂ r) :
      ReadsOp (.list [head, n₁, n₂] pos) (.leftJoin l r [])
  | leftJoinOn {es : List Expr} (hl : ReadsOp n₁ l) (hr : ReadsOp n₂ r)
      (hes : readExprList n₃ = .ok es) :
      ReadsOp (.list [head, n₁, n₂, n₃] pos) (.leftJoin l r es)
  | filter {es : List Expr} (hes : readExprList n₁ = .ok es) (h : ReadsOp n op) :
      ReadsOp (.list [head, n₁, n] pos) (.filter es op)
  | graph {g : TermPattern} (hg : readPlace n₁ = .ok g) (h : ReadsOp n op) :
      ReadsOp (.list [head, n₁, n] pos) (.graph g op)
  | service {endpoint : Term} (he : readEndpoint n₁ = .ok endpoint) (h : ReadsOp n op) :
      ReadsOp (.list [head, n₁, n] pos) (.service endpoint op false)
  | silent {endpoint : Term} (he : readEndpoint n₂ = .ok endpoint) (h : ReadsOp n op) :
      ReadsOp (.list [head, n₁, n₂, n] pos) (.service endpoint op true)
  | name {head n : Node} {pos : Nat} (hhead : head.word? = some "ext") :
      ReadsOp (.list [head, n] pos) (.extension n.describe .null)
  | extension (h : ReadsOp n op) :
      ReadsOp (.list [head, n₁, n] pos) (.extension n₁.describe op)
  | list (h : ReadsOp n op) : ReadsOp (.list [head, n] pos) (.list op)
  | distinct (h : ReadsOp n op) : ReadsOp (.list [head, n] pos) (.distinct op)
  | reduced (h : ReadsOp n op) : ReadsOp (.list [head, n] pos) (.reduced op)
  | order {cs : List SortCondition} (hitems : n₁.items "sort conditions" = .ok items)
      (hcs : items.mapM readCondition = .ok cs) (h : ReadsOp n op) :
      ReadsOp (.list [head, n₁, n] pos) (.order op cs)
  | project {vs : List Var} (hitems : n₁.items "variable list" = .ok items)
      (hvs : items.mapM readVar = .ok vs) (h : ReadsOp n op) :
      ReadsOp (.list [head, n₁, n] pos) (.project op vs)
  | slice {start length : Option Nat} (hs : readBound n₁ = .ok start)
      (hl : readBound n₂ = .ok length) (h : ReadsOp n op) :
      ReadsOp (.list [head, n₁, n₂, n] pos) (.slice op start length)
  | assign {as : List (Var × Expr)} (hitems : n₁.items "assignments" = .ok items)
      (has : items.mapM readAssignment = .ok as) (h : ReadsOp n op) :
      ReadsOp (.list [head, n₁, n] pos) (.assign op as)
  | group {ks : List (Var × Option Expr)} {as : List (Var × Aggregator)}
      (hitems : n₁.items "group variables" = .ok items) (hks : items.mapM readKey = .ok ks)
      (hitems' : n₂.items "aggregators" = .ok items') (has : items'.mapM readAggregate = .ok as)
      (h : ReadsOp n op) : ReadsOp (.list [head, n₁, n₂, n] pos) (.group op ks as)
  | positional {i : Iri} {es : List Expr} (hi : readIri n₁ = .ok i)
      (hitems : n₂.items "argument list" = .ok items) (hes : readExprs items = .ok es)
      (h : ReadsOp n op) :
      ReadsOp (.list [head, n₁, n₂, n] pos) (.procedure op i (.positional es))
  | subjectObject {i : Iri} {s o : PlaceArg} (hi : readIri n₁ = .ok i)
      (hs : readPlaceArg n₂ = .ok s) (ho : readPlaceArg n₃ = .ok o) (h : ReadsOp n op) :
      ReadsOp (.list [head, n₁, n₂, n₃, n] pos) (.procedure op i (.subjectObject s o))

inductive ReadsOps : List Node → List Op → Prop
  | nil : ReadsOps [] []
  | cons {ns : List Node} {ops : List Op} (h : ReadsOp n op) (hs : ReadsOps ns ops) :
      ReadsOps (n :: ns) (op :: ops)

end

theorem readsOps_of_forall {ns : List Node} {ops : List Op}
    (hread : ∀ n ∈ ns, ∀ op, readOp n = .ok op → ReadsOp n op) (h : readOps ns = .ok ops) :
    ReadsOps ns ops := by
  induction ns generalizing ops with
  | nil =>
      obtain rfl := Except.ok.inj h
      exact .nil
  | cons n ns ih =>
      obtain ⟨hn, hns⟩ := List.forall_mem_cons.1 hread
      simp only [readOps, bind_eq_ok_iff] at h
      obtain ⟨op, hop, ops, hops, heq⟩ := h
      obtain rfl := Except.ok.inj heq
      exact .cons (hn op hop) (ih hns hops)

theorem readsOp_of_combineAll {head : Node} {args : List Node} {name : String} {pos q : Nat}
    {ops : List Op} {op : Op} (hhead : head.word? = some name)
    (hname : name ∈ ["join", "sequence", "union"]) (hops : ReadsOps args ops)
    (h : combineAll name q ops = .ok op) : ReadsOp (.list (head :: args) pos) op := by
  unfold combineAll at h
  split at h
  next =>
    obtain rfl := Except.ok.inj h
    exact .combine hhead hname hops
  next => cases h

theorem Node.eq_of_word?_eq_some {n : Node} {name : String} (h : n.word? = some name) :
    ∃ p, n = .atom (.word name) p := by
  unfold Node.word? at h
  split at h
  next =>
    obtain rfl := Option.some.inj h
    exact ⟨_, rfl⟩
  next => cases h

/-- The reader of operators unfolds. The rules of the names share this equation, so that it is made
only once. -/
alias readOp_eq := readOp.eq_def

section

/-! ### The rule of each name

What a form with a given name is read as follows a rule for the name, where its parts follow the
rules. Once the reader is unfolded, `whnf` takes the branch of the name, which then only depends on
the number of the parts. -/

variable {head : Node} {name : String} {args : List Node} {p pos : Nat} {op : Op}

theorem readsOp_of_bgp
    (h : readOp (.list (.atom (.word "bgp") p :: args) pos) = .ok op) :
    ReadsOp (.list (.atom (.word "bgp") p :: args) pos) op := by
  rw [readOp_eq] at h
  conv at h => lhs; whnf
  obtain ⟨ts, hts, rfl⟩ := map_eq_ok_iff.1 h
  exact .bgp hts

theorem readsOp_of_quadPattern
    (h : readOp (.list (.atom (.word "quadpattern") p :: args) pos) = .ok op) :
    ReadsOp (.list (.atom (.word "quadpattern") p :: args) pos) op := by
  rw [readOp_eq] at h
  conv at h => lhs; whnf
  exact .quads h

theorem readsOp_of_table
    (h : readOp (.list (.atom (.word "table") p :: args) pos) = .ok op) :
    ReadsOp (.list (.atom (.word "table") p :: args) pos) op := by
  rw [readOp_eq] at h
  conv at h => lhs; whnf
  obtain ⟨t, ht, rfl⟩ := map_eq_ok_iff.1 h
  exact .table ht

theorem readsOp_of_datasetNames
    (h : readOp (.list (.atom (.word "datasetnames") p :: args) pos) = .ok op) :
    ReadsOp (.list (.atom (.word "datasetnames") p :: args) pos) op := by
  rw [readOp_eq] at h
  conv at h => lhs; whnf
  split at h
  next =>
    obtain ⟨g, hg, rfl⟩ := map_eq_ok_iff.1 h
    exact .datasetNames hg
  next => cases h

theorem readsOp_of_null
    (h : readOp (.list (.atom (.word "null") p :: args) pos) = .ok op) :
    ReadsOp (.list (.atom (.word "null") p :: args) pos) op := by
  rw [readOp_eq] at h
  conv at h => lhs; whnf
  split at h
  next =>
    obtain rfl := Except.ok.inj h
    exact .null
  next => cases h

variable (ih : ∀ n ∈ args, ∀ {op}, readOp n = .ok op → ReadsOp n op)
include ih

theorem readsOp_of_combine (hname : name ∈ ["join", "sequence", "union"])
    (h : readOp (.list (.atom (.word name) p :: args) pos) = .ok op) :
    ReadsOp (.list (.atom (.word name) p :: args) pos) op := by
  have hread : (do combineAll name pos (← readOps args)) = .ok op := by
    simp only [List.mem_cons, List.not_mem_nil, or_false] at hname
    rcases hname with rfl | rfl | rfl
    all_goals exact h
  obtain ⟨ops, hops, hall⟩ := bind_eq_ok_iff.1 hread
  exact readsOp_of_combineAll rfl hname (readsOps_of_forall (fun n hn op => ih n hn) hops) hall

theorem readsOp_of_diff (hname : name ∈ ["diff", "minus"])
    (h : readOp (.list (.atom (.word name) p :: args) pos) = .ok op) :
    ReadsOp (.list (.atom (.word name) p :: args) pos) op := by
  simp only [List.mem_cons, List.not_mem_nil, or_false] at hname
  rcases hname with rfl | rfl
  all_goals
    rw [readOp_eq] at h
    conv at h => lhs; whnf
    split at h
    next =>
      simp only [bind_eq_ok_iff] at h
      obtain ⟨l, hl, r, hr, heq⟩ := h
      obtain rfl := Except.ok.inj heq
      exact .diff (ih _ (by simp) hl) (ih _ (by simp) hr)
    next => cases h

theorem readsOp_of_leftJoin
    (h : readOp (.list (.atom (.word "leftjoin") p :: args) pos) = .ok op) :
    ReadsOp (.list (.atom (.word "leftjoin") p :: args) pos) op := by
  rw [readOp_eq] at h
  conv at h => lhs; whnf
  split at h
  next =>
    simp only [bind_eq_ok_iff] at h
    obtain ⟨l, hl, r, hr, heq⟩ := h
    obtain rfl := Except.ok.inj heq
    exact .leftJoin (ih _ (by simp) hl) (ih _ (by simp) hr)
  next =>
    simp only [bind_eq_ok_iff] at h
    obtain ⟨l, hl, r, hr, es, hes, heq⟩ := h
    obtain rfl := Except.ok.inj heq
    exact .leftJoinOn (ih _ (by simp) hl) (ih _ (by simp) hr) hes
  next => cases h

theorem readsOp_of_filter
    (h : readOp (.list (.atom (.word "filter") p :: args) pos) = .ok op) :
    ReadsOp (.list (.atom (.word "filter") p :: args) pos) op := by
  rw [readOp_eq] at h
  conv at h => lhs; whnf
  split at h
  next =>
    simp only [bind_eq_ok_iff, map_eq_ok_iff] at h
    obtain ⟨es, hes, sub, hsub, rfl⟩ := h
    exact .filter hes (ih _ (by simp) hsub)
  next => cases h

theorem readsOp_of_graph
    (h : readOp (.list (.atom (.word "graph") p :: args) pos) = .ok op) :
    ReadsOp (.list (.atom (.word "graph") p :: args) pos) op := by
  rw [readOp_eq] at h
  conv at h => lhs; whnf
  split at h
  next =>
    simp only [bind_eq_ok_iff, map_eq_ok_iff] at h
    obtain ⟨g, hg, sub, hsub, rfl⟩ := h
    exact .graph hg (ih _ (by simp) hsub)
  next => cases h

theorem readsOp_of_service
    (h : readOp (.list (.atom (.word "service") p :: args) pos) = .ok op) :
    ReadsOp (.list (.atom (.word "service") p :: args) pos) op := by
  rw [readOp_eq] at h
  conv at h => lhs; whnf
  split at h
  next =>
    split at h
    next => cases h
    next =>
      simp only [bind_eq_ok_iff] at h
      obtain ⟨endpoint, he, sub, hsub, heq⟩ := h
      obtain rfl := Except.ok.inj heq
      exact .service he (ih _ (by simp) hsub)
  next =>
    split at h
    next =>
      simp only [bind_eq_ok_iff] at h
      obtain ⟨endpoint, he, sub, hsub, heq⟩ := h
      obtain rfl := Except.ok.inj heq
      exact .silent he (ih _ (by simp) hsub)
    next => cases h
  next => cases h

theorem readsOp_of_extension
    (h : readOp (.list (.atom (.word "ext") p :: args) pos) = .ok op) :
    ReadsOp (.list (.atom (.word "ext") p :: args) pos) op := by
  rw [readOp_eq] at h
  conv at h => lhs; whnf
  split at h
  next =>
    obtain rfl := Except.ok.inj h
    exact .name rfl
  next =>
    obtain ⟨sub, hsub, rfl⟩ := map_eq_ok_iff.1 h
    exact .extension (ih _ (by simp) hsub)
  next => cases h

theorem readsOp_of_list
    (h : readOp (.list (.atom (.word "list") p :: args) pos) = .ok op) :
    ReadsOp (.list (.atom (.word "list") p :: args) pos) op := by
  rw [readOp_eq] at h
  conv at h => lhs; whnf
  split at h
  next =>
    obtain ⟨sub, hsub, rfl⟩ := map_eq_ok_iff.1 h
    exact .list (ih _ (by simp) hsub)
  next => cases h

theorem readsOp_of_distinct
    (h : readOp (.list (.atom (.word "distinct") p :: args) pos) = .ok op) :
    ReadsOp (.list (.atom (.word "distinct") p :: args) pos) op := by
  rw [readOp_eq] at h
  conv at h => lhs; whnf
  split at h
  next =>
    obtain ⟨sub, hsub, rfl⟩ := map_eq_ok_iff.1 h
    exact .distinct (ih _ (by simp) hsub)
  next => cases h

theorem readsOp_of_reduced
    (h : readOp (.list (.atom (.word "reduced") p :: args) pos) = .ok op) :
    ReadsOp (.list (.atom (.word "reduced") p :: args) pos) op := by
  rw [readOp_eq] at h
  conv at h => lhs; whnf
  split at h
  next =>
    obtain ⟨sub, hsub, rfl⟩ := map_eq_ok_iff.1 h
    exact .reduced (ih _ (by simp) hsub)
  next => cases h

theorem readsOp_of_order
    (h : readOp (.list (.atom (.word "order") p :: args) pos) = .ok op) :
    ReadsOp (.list (.atom (.word "order") p :: args) pos) op := by
  rw [readOp_eq] at h
  conv at h => lhs; whnf
  split at h
  next =>
    simp only [bind_eq_ok_iff] at h
    obtain ⟨items, hitems, cs, hcs, sub, hsub, heq⟩ := h
    obtain rfl := Except.ok.inj heq
    exact .order hitems hcs (ih _ (by simp) hsub)
  next => cases h

theorem readsOp_of_project
    (h : readOp (.list (.atom (.word "project") p :: args) pos) = .ok op) :
    ReadsOp (.list (.atom (.word "project") p :: args) pos) op := by
  rw [readOp_eq] at h
  conv at h => lhs; whnf
  split at h
  next =>
    simp only [bind_eq_ok_iff] at h
    obtain ⟨items, hitems, vs, hvs, sub, hsub, heq⟩ := h
    obtain rfl := Except.ok.inj heq
    exact .project hitems hvs (ih _ (by simp) hsub)
  next => cases h

/-- A slice reads its operand before the bounds. -/
theorem readsOp_of_slice
    (h : readOp (.list (.atom (.word "slice") p :: args) pos) = .ok op) :
    ReadsOp (.list (.atom (.word "slice") p :: args) pos) op := by
  rw [readOp_eq] at h
  conv at h => lhs; whnf
  split at h
  next =>
    simp only [bind_eq_ok_iff] at h
    obtain ⟨sub, hsub, start, hs, length, hl, heq⟩ := h
    obtain rfl := Except.ok.inj heq
    exact .slice hs hl (ih _ (by simp) hsub)
  next => cases h

theorem readsOp_of_assign
    (h : readOp (.list (.atom (.word "assign") p :: args) pos) = .ok op) :
    ReadsOp (.list (.atom (.word "assign") p :: args) pos) op := by
  rw [readOp_eq] at h
  conv at h => lhs; whnf
  split at h
  next =>
    simp only [bind_eq_ok_iff] at h
    obtain ⟨items, hitems, as, has, sub, hsub, heq⟩ := h
    obtain rfl := Except.ok.inj heq
    exact .assign hitems has (ih _ (by simp) hsub)
  next => cases h

theorem readsOp_of_group
    (h : readOp (.list (.atom (.word "group") p :: args) pos) = .ok op) :
    ReadsOp (.list (.atom (.word "group") p :: args) pos) op := by
  rw [readOp_eq] at h
  conv at h => lhs; whnf
  split at h
  next =>
    simp only [bind_eq_ok_iff] at h
    obtain ⟨items, hitems, ks, hks, items', hitems', as, has, sub, hsub, heq⟩ := h
    obtain rfl := Except.ok.inj heq
    exact .group hitems hks hitems' has (ih _ (by simp) hsub)
  next => cases h

/-- A procedure reads its name last. -/
theorem readsOp_of_positional
    (h : readOp (.list (.atom (.word "proc") p :: args) pos) = .ok op) :
    ReadsOp (.list (.atom (.word "proc") p :: args) pos) op := by
  rw [readOp_eq] at h
  conv at h => lhs; whnf
  split at h
  next =>
    simp only [bind_eq_ok_iff] at h
    obtain ⟨items, hitems, es, hes, sub, hsub, i, hi, heq⟩ := h
    obtain rfl := Except.ok.inj heq
    exact .positional hi hitems hes (ih _ (by simp) hsub)
  next => cases h

theorem readsOp_of_subjectObject
    (h : readOp (.list (.atom (.word "propfunc") p :: args) pos) = .ok op) :
    ReadsOp (.list (.atom (.word "propfunc") p :: args) pos) op := by
  rw [readOp_eq] at h
  conv at h => lhs; whnf
  split at h
  next =>
    simp only [bind_eq_ok_iff] at h
    obtain ⟨s, hs, o, ho, sub, hsub, i, hi, heq⟩ := h
    obtain rfl := Except.ok.inj heq
    exact .subjectObject hi hs ho (ih _ (by simp) hsub)
  next => cases h

/-- A form with a name is read by the rule of the name, where its parts are. -/
theorem readsOp_of_readOp_cons (h : readOp (.list (head :: args) pos) = .ok op) :
    ReadsOp (.list (head :: args) pos) op := by
  have hread := h
  rw [readOp_eq] at hread
  dsimp only at hread
  split at hread
  next => cases hread
  next hhead =>
    obtain ⟨p, rfl⟩ := Node.eq_of_word?_eq_some hhead
    split at hread
    next => exact readsOp_of_bgp h
    next => exact readsOp_of_quadPattern h
    -- A template alone is no operator.
    next => cases hread
    next => cases hread
    next => exact readsOp_of_combine ih (by simp) h
    next => exact readsOp_of_combine ih (by simp) h
    next => exact readsOp_of_combine ih (by simp) h
    next => exact readsOp_of_diff ih (by simp) h
    next => exact readsOp_of_diff ih (by simp) h
    next => exact readsOp_of_leftJoin ih h
    next => exact readsOp_of_filter ih h
    next => exact readsOp_of_graph ih h
    next => exact readsOp_of_service ih h
    next => exact readsOp_of_datasetNames h
    next => exact readsOp_of_table h
    next => exact readsOp_of_extension ih h
    next => exact readsOp_of_null h
    next => exact readsOp_of_list ih h
    next => exact readsOp_of_distinct ih h
    next => exact readsOp_of_reduced ih h
    next => exact readsOp_of_order ih h
    next => exact readsOp_of_project ih h
    next => exact readsOp_of_slice ih h
    next => exact readsOp_of_assign ih h
    next => exact readsOp_of_group ih h
    next => exact readsOp_of_positional ih h
    next => exact readsOp_of_subjectObject ih h
    next => cases hread

end

/-- Everything that is read follows the rules. -/
theorem readsOp_of_readOp {n : Node} {op : Op} (h : readOp n = .ok op) : ReadsOp n op := by
  induction n using Node.induction generalizing op with
  | atom a pos =>
      rw [readOp] at h
      cases h
  | node b ns pos ih =>
      cases b with
      | square =>
          rw [Bracket.node, readOp] at h
          cases h
      | round =>
          cases ns with
          | nil =>
              rw [Bracket.node, readOp] at h
              cases h
          | cons head args =>
              exact readsOp_of_readOp_cons (List.forall_mem_cons.1 ih).2 h

end Sexp

end GraphAlgebra
