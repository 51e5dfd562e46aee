import GraphAlgebra.Proofs.Sexp.Part
import GraphAlgebra.Proofs.Solution.Heading
import GraphAlgebra.Sexp.OpReader
/-!
# The written forms of tables

A row is written cell by cell in the order of its variables, and reading the cells one after the
other builds the row again (`Binding.foldl_set_toList`). A table whose heading has all variables
of its rows is read back as it is (`readTable_of_matches`).
-/

namespace GraphAlgebra

open Std Sexp

/-! ### Rows that are built in order -/

theorem insertSorted_of_forall_lt {α κ : Type} [Ord κ] [OrientedOrd κ] {key : α → κ} {x : α}
    {l : List α} (h : ∀ y ∈ l, compare (key y) (key x) = .lt) :
    insertSorted key x l = l ++ [x] := by
  induction l with
  | nil => rfl
  | cons y l ih =>
      obtain ⟨hy, hl⟩ := List.forall_mem_cons.1 h
      have hgt : compare (key x) (key y) = .gt := OrientedCmp.gt_of_lt hy
      rw [insertSorted, hgt, ih hl, List.cons_append]

/-- A solution is built by its bindings in their order. -/
theorem Binding.foldl_set_toList (b : Binding) :
    b.toList.foldl (fun b e => b.set e.1 e.2) Binding.empty = b := by
  suffices h : ∀ (l : List (Var × Term)) (a : Binding),
      (a.toList ++ l).Pairwise (fun x y => compare x.1 y.1 = .lt) →
      (l.foldl (fun b e => b.set e.1 e.2) a).toList = a.toList ++ l by
    have hlist := h b.toList Binding.empty b.increasing
    refine Sorted.ext_mem fun e => ?_
    rw [hlist]
    rfl
  intro l
  induction l with
  | nil => simp
  | cons e l ih =>
      intro a h
      have hset : (a.set e.1 e.2).toList = a.toList ++ [e] := by
        refine insertSorted_of_forall_lt fun y hy => ?_
        exact (List.pairwise_append.1 h).2.2 y hy e (by simp)
      rw [List.foldl_cons, ih, hset, List.append_assoc, List.singleton_append]
      rw [hset, List.append_assoc, List.singleton_append]
      exact h

/-! ### Forms -/

def cellForm (e : Var × Term) : Form := .node .square [.leaf (.var e.1), .leaf (.short e.2)]

def rowForm (row : Binding) : Form := .list (.word "row" :: row.toList.map cellForm)

def headingForm (vs : List Var) : Form :=
  .list (.word "vars" :: vs.map fun v => .leaf (.var v))

def Table.sexp (t : Table) : Form :=
  if t = Table.empty then .list [.word "table", .word "empty"]
  else if t = Table.unit then .list [.word "table", .word "unit"]
  else .list (.word "table" :: headingForm t.vars :: t.rows.map rowForm)

theorem prints_rowForm (row : Binding) : Prints (rowText row) (rowForm row) := by
  have hcells : List.Forall₂ Prints
      (row.toList.map fun e => "[" ++ e.1.text ++ " " ++ e.2.short ++ "]")
      (row.toList.map cellForm) :=
    Prints.map fun e _ => by
      simp [Prints, cellForm, Form.chars, Form.tailChars, Leaf.text, Bracket.chars]
  exact Prints.form "row" hcells

theorem prints_headingForm (vs : List Var) :
    Prints ("(vars" ++ spaced (vs.map Var.text) ++ ")") (headingForm vs) := by
  have hvars : List.Forall₂ Prints (vs.map Var.text) (vs.map fun v => .leaf (.var v)) :=
    Prints.map fun v _ => rfl
  exact Prints.form "vars" hvars

theorem Table.prints (t : Table) : Prints t.text t.sexp := by
  unfold text sexp
  split
  · rfl
  split
  · rfl
  · have hrows : List.Forall₂ Prints (t.rows.map rowText) (t.rows.map rowForm) :=
      Prints.map fun row _ => prints_rowForm row
    have hparts := List.Forall₂.cons (prints_headingForm t.vars) hrows
    have hform := Prints.form "table" hparts
    simp only [Prints, form, spaced, List.map_cons, String.join_cons, String.toList_append,
      List.append_assoc] at hform ⊢
    exact hform

theorem isPart_rowForm {row : Binding} (hv : ∀ v ∈ row.vars, v.Writable)
    (ht : ∀ e ∈ row.toList, e.2.Writable) : (rowForm row).IsPart := by
  refine Form.isPart_named (by decide) ?_
  rw [List.forall_mem_map]
  intro e he
  refine Form.isPart_node .square ?_
  simp only [List.forall_mem_cons]
  exact ⟨Form.isPart_var (hv e.1 (List.mem_map_of_mem he)), Form.isPart_short (ht e he), by simp⟩

theorem isPart_headingForm {vs : List Var} (h : ∀ v ∈ vs, v.Writable) :
    (headingForm vs).IsPart := by
  refine Form.isPart_named (by decide) ?_
  rw [List.forall_mem_map]
  exact fun v hv => Form.isPart_var (h v hv)

theorem Table.isPart_sexp {t : Table} (h : t.Over Atom.Writable) : t.sexp.IsPart := by
  have hword : ∀ name ∈ ["table", "empty", "unit"], IsWord name := by decide
  obtain ⟨hcovers, hvars, hterms⟩ := h
  unfold sexp
  split
  · exact Form.isPart_named (hword _ (by simp)) (by simp [Form.isPart_word, hword])
  split
  · exact Form.isPart_named (hword _ (by simp)) (by simp [Form.isPart_word, hword])
  · refine Form.isPart_named (hword _ (by simp)) ?_
    rw [List.forall_mem_cons, List.forall_mem_map]
    refine ⟨isPart_headingForm hvars, fun row hrow => ?_⟩
    exact isPart_rowForm (fun v hv => hvars v (hcovers row hrow v hv)) (hterms row hrow)

namespace Sexp

theorem readVar_of_matches {v : Var} {n : Node} (h : n.Matches (.leaf (.var v))) :
    readVar n = .ok v := by
  obtain ⟨_, rfl⟩ := Node.matches_leaf_iff.1 h
  rfl

theorem readCell_of_matches {e : Var × Term} {n : Node} (h : n.Matches (cellForm e))
    (row : Binding) : readCell row n = .ok (row.set e.1 e.2) := by
  obtain ⟨_, pos, rfl, _ | ⟨hv, _ | ⟨ht, _ | _⟩⟩⟩ := Node.matches_node_iff.1 h
  obtain ⟨_, rfl⟩ := Node.matches_leaf_iff.1 hv
  obtain ⟨_, rfl⟩ := Node.matches_leaf_iff.1 ht
  rfl

theorem foldlM_readCell_of_matches {es : List (Var × Term)} {ns : List Node}
    (h : List.Forall₂ Node.Matches ns (es.map cellForm)) (row : Binding) :
    ns.foldlM readCell row = .ok (es.foldl (fun b e => b.set e.1 e.2) row) := by
  induction es generalizing ns row with
  | nil =>
      obtain _ | _ := h
      rfl
  | cons e es ih =>
      obtain _ | ⟨hn, hns⟩ := h
      simp [List.foldlM_cons, readCell_of_matches hn, bind, Except.bind, ih hns]

theorem readRow_of_matches {row : Binding} {n : Node} (h : n.Matches (rowForm row)) :
    readRow n = .ok row := by
  obtain ⟨_, pos, rfl, _ | ⟨hhead, hcells⟩⟩ := Node.matches_list_iff.1 h
  have hrow : lowerAscii "row" = "row" := by decide
  simp [readRow, Node.items, isWord_of_matches hhead, hrow, bind, Except.bind,
    foldlM_readCell_of_matches hcells, Binding.foldl_set_toList]

theorem readClauses_of_matches {vs : List Var} {rows : List Binding} {ns : List Node}
    (h : List.Forall₂ Node.Matches ns (headingForm vs :: rows.map rowForm)) :
    readClauses ns = .ok (vs, rows) := by
  obtain _ | ⟨hheading, hrows⟩ := h
  obtain ⟨_, pos, rfl, _ | ⟨hhead, hvars⟩⟩ := Node.matches_list_iff.1 hheading
  have hword : lowerAscii "vars" = "vars" := by decide
  have hvars := mapM_eq_ok_of_matches (fun _ _ _ => readVar_of_matches) hvars
  have hrows := mapM_eq_ok_of_matches (fun _ _ _ => readRow_of_matches) hrows
  simp [readClauses, isWord_of_matches hhead, hword, hvars, hrows, bind, Except.bind]

/-- A form in parentheses at the front is not one of the words for the smallest tables. -/
theorem readTable_list {items rest : List Node} {p : Nat} {vs : List Var} {rows : List Binding}
    (h : readClauses (.list items p :: rest) = .ok (vs, rows)) (pos : Nat) :
    readTable (.list items p :: rest) pos = .ok (.ofRows vs rows) := by
  cases rest with
  | nil => simp [readTable, readClauseTable, Node.isWord, Node.word?, h, bind, Except.bind]
  | cons => simp [readTable, readClauseTable, h, bind, Except.bind]

theorem readTable_of_matches {t : Table} (h : t.Covers) {n : Node} (hn : n.Matches t.sexp) :
    ∃ head args pos, n = .list (head :: args) pos ∧ head.Matches (.word "table") ∧
      readTable args pos = .ok t := by
  have hlower : lowerAscii "empty" = "empty" ∧ lowerAscii "unit" = "unit" := by decide
  unfold Table.sexp at hn
  split at hn
  next hempty =>
    obtain ⟨_, pos, rfl, _ | ⟨hhead, _ | ⟨hword, _ | _⟩⟩⟩ := Node.matches_list_iff.1 hn
    refine ⟨_, _, pos, rfl, hhead, ?_⟩
    simp [readTable, isWord_of_matches hword, hlower, hempty]
  split at hn
  next hunit =>
    obtain ⟨_, pos, rfl, _ | ⟨hhead, _ | ⟨hword, _ | _⟩⟩⟩ := Node.matches_list_iff.1 hn
    refine ⟨_, _, pos, rfl, hhead, ?_⟩
    simp [readTable, isWord_of_matches hword, hlower, hunit]
  next =>
    obtain ⟨_, pos, rfl, _ | ⟨hhead, hargs⟩⟩ := Node.matches_list_iff.1 hn
    refine ⟨_, _, pos, rfl, hhead, ?_⟩
    have hclauses := readClauses_of_matches hargs
    obtain _ | ⟨hheading, hrows⟩ := hargs
    obtain ⟨items, p, rfl, -⟩ := Node.matches_list_iff.1 hheading
    rw [readTable_list hclauses, Table.ofRows_eq h]

end Sexp

end GraphAlgebra
