import GraphAlgebra.Proofs.Sexp.Closure
/-!
# How deep the trees are that are read

An operator takes one level of brackets, but reading can add levels of its own: an operator that is
spelled with more than two operands becomes a tree that leans to the left, and an extension gets an
operand that is not spelled. `Op.depth_le_of_ofText` says that nothing else does: a tree is at most
as deep as its text is nested, plus the levels that are added along its forms. They have no bound
(`depth_wideOp`), so the limit for brackets is none for trees (`not_shallow`).
-/

namespace GraphAlgebra

open Sexp

/-- The number of operators on the longest way down a tree, also through the operands of services,
which are not evaluated in their place. -/
def Op.depth : Op → Nat
  | .join l r | .sequence l r | .leftJoin l r _ | .diff l r | .union l r =>
      max l.depth r.depth + 1
  | .procedure sub _ _ | .filter _ sub | .graph _ sub | .service _ sub _ | .extension _ sub
  | .list sub | .order sub _ | .project sub _ | .distinct sub | .reduced sub | .slice sub _ _
  | .assign sub _ | .group sub _ _ => sub.depth + 1
  | .bgp _ | .quads .. | .datasetNames _ | .table _ | .null => 1

namespace Sexp

theorem depth_combine (name : String) (l r : Op) :
    (combine name l r).depth = max l.depth r.depth + 1 := by
  unfold combine
  split <;> rfl

/-- Every operand that is combined adds at most one level. -/
theorem depth_foldl_combine_le (name : String) {ops : List Op} {op : Op} {d : Nat}
    (hop : op.depth ≤ d) (hops : ∀ o ∈ ops, o.depth ≤ d) :
    (ops.foldl (combine name) op).depth ≤ d + ops.length := by
  induction ops generalizing op d with
  | nil => exact hop
  | cons o ops ih =>
      obtain ⟨ho, hops⟩ := List.forall_mem_cons.1 hops
      have hstep : (combine name op o).depth ≤ d + 1 := by
        rw [depth_combine]
        omega
      have hrest := ih hstep fun o ho => Nat.le_succ_of_le (hops o ho)
      rw [List.foldl_cons, List.length_cons]
      omega

namespace Node

theorem each_true (n : Node) : n.Each fun _ => True := by
  induction n using Node.induction with
  | atom a pos => exact trivial
  | node b ns pos ih => exact each_node.2 (eachAll_iff.2 ih)

/-- The levels that reading adds to a form with some parts: one for each operand after the second of
an operator that may have many, and one for the operand of an extension that has none. -/
def addedByParts : List Node → Nat
  | [] => 0
  | head :: args =>
      match head.word? with
      | some "join" | some "sequence" | some "union" => args.length - 2
      | some "ext" => 2 - args.length
      | _ => 0

mutual

/-- The most levels that reading adds on a way down a form. -/
def addedLevels : Node → Nat
  | .atom .. => 0
  | .list items _ => addedByParts items + addedLevelsAll items
  | .bracket items _ => addedLevelsAll items

def addedLevelsAll : List Node → Nat
  | [] => 0
  | n :: ns => max n.addedLevels (addedLevelsAll ns)

end

theorem le_depthAll {n : Node} {ns : List Node} (h : n ∈ ns) : n.depth ≤ depthAll ns := by
  induction ns with
  | nil => cases h
  | cons m ns ih =>
      rw [depthAll]
      obtain rfl | h := List.mem_cons.1 h
      · exact Nat.le_max_left _ _
      · exact Nat.le_trans (ih h) (Nat.le_max_right _ _)

theorem le_addedLevelsAll {n : Node} {ns : List Node} (h : n ∈ ns) :
    n.addedLevels ≤ addedLevelsAll ns := by
  induction ns with
  | nil => cases h
  | cons m ns ih =>
      rw [addedLevelsAll]
      obtain rfl | h := List.mem_cons.1 h
      · exact Nat.le_max_left _ _
      · exact Nat.le_trans (ih h) (Nat.le_max_right _ _)

/-- The levels of a form: those of its brackets and those that reading adds. -/
def levels (n : Node) : Nat := n.depth + n.addedLevels

theorem levels_lt_list {n : Node} {items : List Node} {pos : Nat} (h : n ∈ items) :
    n.levels + 1 ≤ (Node.list items pos).levels := by
  have hdepth := le_depthAll h
  have hadded := le_addedLevelsAll h
  simp only [levels, depth, addedLevels]
  omega

end Node

theorem depth_succ_le_of_part {n : Node} {items : List Node} {pos : Nat} {op : Op}
    (h : op.depth ≤ n.levels) (hn : n ∈ items) :
    op.depth + 1 ≤ (Node.list items pos).levels :=
  Nat.le_trans (Nat.succ_le_succ h) (Node.levels_lt_list hn)

theorem depth_max_succ_le_of_parts {n m : Node} {items : List Node} {pos : Nat} {l r : Op}
    (hl : l.depth ≤ n.levels) (hr : r.depth ≤ m.levels) (hn : n ∈ items) (hm : m ∈ items) :
    max l.depth r.depth + 1 ≤ (Node.list items pos).levels := by
  have hleft : l.depth + 1 ≤ (Node.list items pos).levels := depth_succ_le_of_part hl hn
  have hright : r.depth + 1 ≤ (Node.list items pos).levels := depth_succ_le_of_part hr hm
  omega

theorem one_le_levels_list (items : List Node) (pos : Nat) : 1 ≤ (Node.list items pos).levels := by
  simp only [Node.levels, Node.depth]
  omega

/-- The operands of an operator that may have many are as many as its parts but for the name. -/
theorem addedByParts_of_combine {head : Node} {args : List Node} {name : String}
    (hhead : head.word? = some name) (hname : name ∈ ["join", "sequence", "union"]) :
    Node.addedByParts (head :: args) = args.length - 2 := by
  simp only [List.mem_cons, List.not_mem_nil, or_false] at hname
  obtain rfl | rfl | rfl := hname <;> simp only [Node.addedByParts, hhead]

theorem eq_quads_of_readQuadPattern {args : List Node} {pos : Nat} {op : Op}
    (h : readQuadPattern args pos = .ok op) : ∃ g ts, op = .quads g ts := by
  have hargs : Node.EachAll (fun _ => True) args :=
    Node.eachAll_iff.2 fun n _ => n.each_true
  obtain ⟨g, ts, hop, -⟩ := over_of_readQuadPattern h hargs
  exact ⟨g, ts, hop⟩

mutual

/-- A tree is at most as deep as the form that it is read from has levels. -/
theorem ReadsOp.depth_le {n : Node} {op : Op} (h : ReadsOp n op) : op.depth ≤ n.levels := by
  match n, op, h with
  | _, _, .bgp _ | _, _, .table _ | _, _, .datasetNames _ | _, _, .null =>
      exact one_le_levels_list _ _
  | _, _, .quads h =>
      obtain ⟨g, ts, rfl⟩ := eq_quads_of_readQuadPattern h
      exact one_le_levels_list _ _
  | _, _, @ReadsOp.combine head args name l r ops pos hhead hname h =>
      obtain ⟨hlength, hdepth⟩ := h.depth_le
      rw [List.forall_mem_cons, List.forall_mem_cons] at hdepth
      obtain ⟨hl, hr, hops⟩ := hdepth
      have hfirst : (combine name l r).depth ≤
          Node.depthAll args + Node.addedLevelsAll args + 1 := by
        rw [depth_combine]
        omega
      have hfold := depth_foldl_combine_le name hfirst fun o ho => Nat.le_succ_of_le (hops o ho)
      rw [List.length_cons, List.length_cons] at hlength
      simp only [Node.levels, Node.depth, Node.depthAll, Node.addedLevels, Node.addedLevelsAll,
        addedByParts_of_combine hhead hname]
      omega
  | _, _, .diff hl hr | _, _, .leftJoin hl hr | _, _, .leftJoinOn hl hr _ =>
      exact depth_max_succ_le_of_parts hl.depth_le hr.depth_le (by simp) (by simp)
  | _, _, @ReadsOp.name head n pos hhead =>
      have hadded : Node.addedByParts [head, n] = 1 := by simp [Node.addedByParts, hhead]
      simp only [Op.depth, Node.levels, Node.depth, Node.addedLevels, hadded]
      omega
  | _, _, .list h | _, _, .distinct h | _, _, .reduced h | _, _, .filter _ h | _, _, .graph _ h
  | _, _, .service _ h | _, _, .silent _ h | _, _, .extension h | _, _, .order _ _ h
  | _, _, .project _ _ h | _, _, .slice _ _ h | _, _, .assign _ _ h | _, _, .group _ _ _ _ h
  | _, _, .positional _ _ _ h | _, _, .subjectObject _ _ _ h =>
      exact depth_succ_le_of_part h.depth_le (by simp)

theorem ReadsOps.depth_le {ns : List Node} {ops : List Op} (h : ReadsOps ns ops) :
    ops.length = ns.length ∧
      ∀ op ∈ ops, op.depth ≤ Node.depthAll ns + Node.addedLevelsAll ns := by
  match ns, ops, h with
  | _, _, .nil => simp
  | _, _, @ReadsOps.cons n op ns ops h hs =>
      have hop := h.depth_le
      obtain ⟨hlength, hops⟩ := hs.depth_le
      simp only [Node.levels] at hop
      simp only [Node.depthAll, Node.addedLevelsAll, List.length_cons, hlength,
        List.forall_mem_cons, true_and]
      refine ⟨by omega, fun o ho => ?_⟩
      have ho := hops o ho
      omega

end

end Sexp

/-- A tree that is read is at most as deep as its text is nested, plus the levels that reading adds
for further operands and for operands that are not spelled. Without those it is within the limit for
brackets. -/
theorem Op.depth_le_of_ofText {text : String} {op : Op} (h : Op.ofText text = .ok op) :
    ∃ n, Node.ofText? text = .ok n ∧ nesting text ≤ 128 ∧
      op.depth ≤ nesting text + n.addedLevels ∧ (n.addedLevels = 0 → op.depth ≤ 128) := by
  obtain ⟨n, hn, hread⟩ := bind_eq_ok_iff.1 h
  have hnesting : nesting text ≤ 128 := nesting_le_of_ofText? hn
  have hbrackets : nesting text = n.depth := by
    obtain ⟨ps, hps, hreads, -⟩ := Node.ofText?_eq_ok_iff.1 hn
    exact hreads.nesting_eq hps
  have hdepth : op.depth ≤ nesting text + n.addedLevels := by
    rw [hbrackets]
    exact (readsOp_of_readOp hread).depth_le
  exact ⟨n, hn, hnesting, hdepth, by omega⟩

/-! ### Trees that are deeper than brackets may be -/

/-- A union of empty tables with two operands and `k` more. -/
def wideText (k : Nat) : String := form "union" (List.replicate (k + 2) "(null)")

def wideOp : Nat → Op
  | 0 => .union .null .null
  | k + 1 => .union (wideOp k) .null

def wideForm (k : Nat) : Form :=
  .list (.word "union" :: List.replicate (k + 2) (.list [.word "null"]))

theorem depth_wideOp (k : Nat) : (wideOp k).depth = k + 2 := by
  induction k with
  | zero => rfl
  | succ k ih => simp [wideOp, Op.depth, ih]

theorem depth_nestedOp (k : Nat) : (nestedOp k).depth = k + 2 := by
  induction k with
  | zero => rfl
  | succ k ih => simp [nestedOp, Op.depth, ih]

theorem prints_wideForm (k : Nat) : Prints (wideText k) (wideForm k) := by
  have hnull : Prints "(null)" (.list [.word "null"]) := rfl
  refine Prints.form "union" ?_
  exact List.forall₂_iff_get.2 ⟨by simp, fun i h h' => by simpa using hnull⟩

theorem isPart_wideForm (k : Nat) : (wideForm k).IsPart := by
  have hnull : (Form.list [.word "null"]).IsPart := Form.isPart_named (by decide) (by simp)
  refine Form.isPart_named (by decide) fun f hf => ?_
  rw [List.eq_of_mem_replicate hf]
  exact hnull

theorem depth_wideForm (k : Nat) : (wideForm k).depth = 2 := by
  have hnull (m : Nat) :
      Tree.depthAll (List.replicate (m + 1) (Form.list [.word "null"])) = 1 := by
    induction m with
    | zero => rfl
    | succ m ih => rw [List.replicate_succ, Tree.depthAll, ih]; rfl
  rw [wideForm, Tree.depth, Tree.depthAll, hnull]
  rfl

theorem readOps_of_matches_null {k : Nat} {ns : List Node}
    (h : List.Forall₂ Node.Matches ns (List.replicate k (.list [.word "null"]))) :
    readOps ns = .ok (List.replicate k .null) := by
  induction k generalizing ns with
  | zero =>
      cases h
      rfl
  | succ k ih =>
      rw [List.replicate_succ] at h
      obtain _ | ⟨hn, hns⟩ := h
      obtain ⟨_, _, pos, rfl, _ | _⟩ := Node.matches_named_iff.1 hn
      simp [readOps, readOp, Leaf.atom, Node.word?, ih hns, List.replicate_succ, bind, Except.bind]

theorem foldl_combine_null (k j : Nat) :
    (List.replicate k .null).foldl (combine "union") (wideOp j) = wideOp (j + k) := by
  induction k generalizing j with
  | zero => rfl
  | succ k ih =>
      rw [List.replicate_succ, List.foldl_cons]
      have hstep : combine "union" (wideOp j) .null = wideOp (j + 1) := rfl
      rw [hstep, ih, Nat.add_right_comm, Nat.add_assoc]

theorem readOp_of_matches_wideForm {k : Nat} {n : Node} (h : n.Matches (wideForm k)) :
    readOp n = .ok (wideOp k) := by
  obtain ⟨_, _, pos, rfl, hargs⟩ := Node.matches_named_iff.1 h
  have hfold := foldl_combine_null k 0
  rw [Nat.zero_add] at hfold
  rw [readOp.eq_def]
  simp only [Leaf.atom, Node.word?]
  rw [readOps_of_matches_null hargs]
  exact congrArg Except.ok hfold

theorem ofText_wideText (k : Nat) : Op.ofText (wideText k) = .ok (wideOp k) := by
  refine Op.ofText_eq_ok_of_prints (prints_wideForm k) (isPart_wideForm k) ?_ fun n hn =>
    readOp_of_matches_wideForm hn
  rw [depth_wideForm]
  decide

/-- A union of 129 tables opens two brackets at once and makes a tree of 129 levels. -/
theorem depth_le_wideText :
    Op.ofText (wideText 127) = .ok (wideOp 127) ∧ (wideOp 127).depth = 129 ∧
      ∃ n, Node.ofText? (wideText 127) = .ok n ∧ nesting (wideText 127) ≤ 128 ∧
        (wideOp 127).depth ≤ nesting (wideText 127) + n.addedLevels ∧
        (n.addedLevels = 0 → (wideOp 127).depth ≤ 128) :=
  ⟨ofText_wideText 127, depth_wideOp 127, Op.depth_le_of_ofText (ofText_wideText 127)⟩

/-- The tree of the text, if it has one, is at most as deep as brackets may be. -/
def Shallow (text : String) : Prop := ∀ op, Op.ofText text = .ok op → op.depth ≤ maxNesting

/-- Further operands make a tree deeper than brackets may be, and so does an operand that is not
spelled. -/
theorem not_shallow : ¬ Shallow (wideText 127) ∧ ¬ Shallow (nestedText 127) := by
  refine ⟨fun h => ?_, fun h => ?_⟩
  · have hle := h _ (ofText_wideText 127)
    rw [depth_wideOp] at hle
    exact absurd hle (by decide)
  · have hle := h _ (ofText_nestedText (by decide))
    rw [depth_nestedOp] at hle
    exact absurd hle (by decide)

end GraphAlgebra
