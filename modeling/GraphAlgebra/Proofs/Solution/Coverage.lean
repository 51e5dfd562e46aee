import GraphAlgebra.Command.Results
import GraphAlgebra.Proofs.Solution.Merge
/-!
# What a covering heading shows

The two forms of output take the columns from the heading and the values from the rows. If the
heading covers the rows, no value is lost between them: in the grid every value stands in the line
of its row under its variable (`Covers.inGrid`), and in the JSON document every name in a row is a
name of the head (`Covers.namesInHead`).
-/

namespace GraphAlgebra

theorem infix_intercalate {s : String} {ss : List String} (h : s ∈ ss) (separator : String) :
    s.toList <:+: (separator.intercalate ss).toList := by
  induction ss with
  | nil => contradiction
  | cons x ss ih =>
      cases ss with
      | nil =>
          obtain rfl := List.mem_singleton.1 h
          have hsingle : separator.intercalate [s] = s := String.intercalate_singleton
          exact hsingle.symm ▸ List.infix_refl s.toList
      | cons y ss =>
          rw [String.intercalate_cons_cons, String.toList_append, String.toList_append]
          rcases List.mem_cons.1 h with rfl | h
          · rw [List.append_assoc]
            exact (List.prefix_append _ _).isInfix
          · exact (ih h).trans (List.suffix_append _ _).isInfix

namespace Grid

theorem length_widths {header : List String} {cells : List (List String)}
    (h : ∀ texts ∈ cells, texts.length = header.length) :
    (widths header cells).length = header.length := by
  have hfold (ws : List Nat) (hws : ws.length = header.length) :
      (cells.foldl (fun ws texts => ws.zipWith max (texts.map byteWidth)) ws).length =
        header.length := by
    induction cells generalizing ws with
    | nil => exact hws
    | cons texts cells ih =>
        obtain ⟨htexts, h⟩ := List.forall_mem_cons.1 h
        refine ih h _ ?_
        rw [List.length_zipWith, List.length_map, hws, htexts, Nat.min_self]
  exact hfold _ (List.length_map _)

theorem infix_line {ws : List Nat} {texts : List String} {k : Nat} {s : String}
    (hlength : ws.length = texts.length) (hk : texts[k]? = some s) :
    s.toList <:+: (line ws texts).toList := by
  obtain ⟨hlt, -⟩ := List.getElem?_eq_some_iff.1 hk
  obtain ⟨w, hw⟩ : ∃ w, ws[k]? = some w := ⟨_, List.getElem?_eq_getElem (hlength ▸ hlt)⟩
  have hmem : (s, w) ∈ texts.zip ws :=
    List.mem_of_getElem? (List.getElem?_zip_eq_some.2 ⟨hk, hw⟩)
  have hcell : s.toList <:+: (" " ++ pad w s ++ " ").toList := by
    refine ⟨[' '], List.replicate (w - s.length) ' ' ++ [' '], ?_⟩
    simp [pad]
  have hcells := infix_intercalate
    (List.mem_map_of_mem (f := fun e : String × Nat => " " ++ pad e.2 e.1 ++ " ") hmem) "|"
  refine (hcell.trans hcells).trans ⟨['|'], ['|'], ?_⟩
  simp [line]

/-- The lines of the rows stand below the heading and the two rules around it. -/
theorem getElem?_lines {t : Table} {i : Nat} {row : Binding} (hi : t.rows[i]? = some row) :
    (lines t)[i + 3]? = some
      (line (widths (t.vars.map Var.text) (t.rows.map (cells t.vars))) (cells t.vars row)) := by
  have hline (f : List String → String) :
      ((t.rows.map (cells t.vars)).map f)[i]? = some (f (cells t.vars row)) := by
    rw [List.getElem?_map, List.getElem?_map, hi]
    rfl
  simp only [lines, List.cons_append, List.nil_append, List.getElem?_cons_succ]
  rw [List.getElem?_append_left (List.getElem?_eq_some_iff.1 (hline _)).1]
  exact hline _

end Grid

namespace Table

instance (t : Table) : Decidable t.Covers :=
  inferInstanceAs (Decidable (∀ row ∈ t.rows, ∀ v ∈ row.vars, v ∈ t.vars))

/-- In the grid every value of a row stands in the line of the row, in the column that its
variable heads. -/
def InGrid (t : Table) : Prop :=
  ∀ i row, t.rows[i]? = some row → ∀ v s, row.get? v = some s →
    ∃ (ws : List Nat) (header cells : List String) (k : Nat),
      (Grid.lines t)[1]? = some (Grid.line ws header) ∧ header[k]? = some v.text ∧
      (Grid.lines t)[i + 3]? = some (Grid.line ws cells) ∧ cells[k]? = some s.written ∧
      s.written.toList <:+: (Grid.line ws cells).toList ∧
      (Grid.line ws cells).toList <:+: t.grid.toList

/-- In the JSON document every name in a row is one of the names in the head. -/
def NamesInHead (t : Table) : Prop :=
  ∃ (names : List String) (bindings : List (List (String × Json))),
    t.toJson = .object
      [("head", .object [("vars", .array (names.map Json.string))]),
        ("results", .object [("bindings", .array (bindings.map Json.object))])] ∧
    ∀ members ∈ bindings, ∀ m ∈ members, m.1 ∈ names

theorem Covers.inGrid {t : Table} (h : t.Covers) : t.InGrid := by
  intro i row hi v s hv
  have hrow : row ∈ t.rows := List.mem_of_getElem? hi
  have hvars : v ∈ row.vars := Binding.mem_vars_of_get? hv
  obtain ⟨k, hk⟩ := List.getElem?_of_mem (h row hrow v hvars)
  let ws := Grid.widths (t.vars.map Var.text) (t.rows.map (Grid.cells t.vars))
  have hlength : ws.length = (Grid.cells t.vars row).length := by
    rw [Grid.length_widths, Grid.cells, List.length_map, List.length_map]
    simp [Grid.cells]
  have hcell : (Grid.cells t.vars row)[k]? = some s.written := by
    simp [Grid.cells, hk, hv]
  have hline : (Grid.lines t)[i + 3]? = some (Grid.line ws (Grid.cells t.vars row)) :=
    Grid.getElem?_lines hi
  refine ⟨ws, t.vars.map Var.text, Grid.cells t.vars row, k, rfl, ?_, hline, hcell,
    Grid.infix_line hlength hcell, infix_intercalate (List.mem_of_getElem? hline) "\n"⟩
  rw [List.getElem?_map, hk]
  rfl

theorem Covers.namesInHead {t : Table} (h : t.Covers) : t.NamesInHead := by
  refine ⟨t.vars.map fun v => Json.encode v.name,
    t.rows.map fun row => row.toList.map fun e => (Json.encode e.1.name, e.2.toJson), ?_, ?_⟩
  · simp only [toJson, List.map_map]
    rfl
  · intro members hmembers m hm
    obtain ⟨row, hrow, rfl⟩ := List.mem_map.1 hmembers
    obtain ⟨e, he, rfl⟩ := List.mem_map.1 hm
    have hv : e.1 ∈ t.vars := h row hrow e.1 (List.mem_map_of_mem he)
    exact List.mem_map_of_mem (f := fun v : Var => Json.encode v.name) hv

end Table

end GraphAlgebra
