import GraphAlgebra.Op.Printer
import GraphAlgebra.Proofs.Sexp.Spelling
import Mathlib.Data.List.Forall2
/-!
# Forms part by part

What the parts of a written form say about the whole: `Prints` for its text, `Form.IsPart` for
its readability, and `Node.Matches` for the form that is read. A value with a written form is
read back from its text where the form that is read makes that value (`Prints.ofText?_eq_ok`).
-/

namespace GraphAlgebra

namespace Sexp

/-! ### Texts -/

def Prints (text : String) (f : Form) : Prop := text.toList = f.chars

theorem Prints.toList_spaced {ss : List String} {fs : List Form}
    (h : List.Forall₂ Prints ss fs) : (spaced ss).toList = Form.tailChars fs := by
  induction h with
  | nil => rfl
  | @cons s f ss fs hs _ ih =>
      have hsplit : spaced (s :: ss) = " " ++ s ++ spaced ss := by simp [spaced, String.join_cons]
      rw [hsplit, String.toList_append, String.toList_append, ih, hs]
      simp [Form.tailChars]

theorem Prints.form {ss : List String} {fs : List Form} (name : String)
    (h : List.Forall₂ Prints ss fs) : Prints (form name ss) (.list (.word name :: fs)) := by
  rw [Prints, Form.chars, GraphAlgebra.form]
  simp [Prints.toList_spaced h, Form.chars, Leaf.text, Bracket.chars]

theorem intercalate_eq (s : String) (ss : List String) :
    " ".intercalate (s :: ss) = s ++ spaced ss := by
  induction ss generalizing s with
  | nil => simp [spaced]
  | cons t ss ih =>
      rw [String.intercalate_cons_cons, ih]
      simp [spaced, String.join_cons, String.append_assoc]

theorem Prints.parenthesized {ss : List String} {fs : List Form}
    (h : List.Forall₂ Prints ss fs) : Prints (parenthesized ss) (.list fs) := by
  cases h with
  | nil => rfl
  | @cons s f ss fs hs h =>
      rw [Prints, Form.chars, GraphAlgebra.parenthesized, intercalate_eq]
      have htext : s.toList = f.chars := hs
      simp [Prints.toList_spaced h, htext, Bracket.chars]

theorem Prints.map {α : Type} {text : α → String} {tree : α → Form} {xs : List α}
    (h : ∀ x ∈ xs, Prints (text x) (tree x)) :
    List.Forall₂ Prints (xs.map text) (xs.map tree) := by
  rw [List.forall₂_map_left_iff, List.forall₂_map_right_iff, List.forall₂_same]
  exact h

/-! ### Readability -/

/-- The form can be read wherever it stands. -/
structure Form.IsPart (f : Form) : Prop where
  writable : f.Writable
  not_isSymbol : ¬ f.IsSymbol

namespace Form

theorem isPart_var {v : Var} (h : v.Writable) : IsPart (.leaf (.var v)) := ⟨h, id⟩

theorem isPart_short {t : Term} (h : t.Writable) : IsPart (.leaf (.short t)) := ⟨h, id⟩

theorem isPart_full {t : Term} (h : t.Writable) : IsPart (.leaf (.full t)) := ⟨h, id⟩

theorem isPart_word {name : String} (h : IsWord name) : IsPart (.word name) := ⟨h, id⟩

theorem writable_symbol (s : Symbol) : Writable (.leaf (.symbol s)) := trivial

theorem writableAll_of_isPart {fs : List Form} (h : ∀ f ∈ fs, f.IsPart) : WritableAll fs := by
  induction fs with
  | nil => exact trivial
  | cons f fs ih =>
      obtain ⟨hf, hfs⟩ := List.forall_mem_cons.1 h
      cases fs with
      | nil => exact ⟨hf.writable, hf.not_isSymbol⟩
      | cons g fs => exact ⟨hf.writable, ih hfs⟩

theorem isPart_node {fs : List Form} (b : Bracket) (h : ∀ f ∈ fs, f.IsPart) :
    IsPart (.node b fs) :=
  ⟨writableAll_of_isPart h, id⟩

theorem isPart_list {fs : List Form} (h : ∀ f ∈ fs, f.IsPart) : IsPart (.list fs) :=
  isPart_node .round h

theorem isPart_list_map {α : Type} {tree : α → Form} {xs : List α}
    (h : ∀ x ∈ xs, (tree x).IsPart) : IsPart (.list (xs.map tree)) :=
  isPart_list (List.forall_mem_map.2 h)

theorem isPart_named {name : String} {fs : List Form} (hname : IsWord name)
    (h : ∀ f ∈ fs, f.IsPart) : IsPart (.list (.word name :: fs)) :=
  isPart_list (List.forall_mem_cons.2 ⟨isPart_word hname, h⟩)

/-- Symbols may stand before the last part. -/
theorem writableAll_concat {f : Form} {fs : List Form} (h : ∀ g ∈ fs, g.Writable)
    (hf : f.IsPart) : WritableAll (fs ++ [f]) := by
  induction fs with
  | nil => exact ⟨hf.writable, hf.not_isSymbol⟩
  | cons g fs ih =>
      obtain ⟨hg, hfs⟩ := List.forall_mem_cons.1 h
      cases fs with
      | nil => exact ⟨hg, ih hfs⟩
      | cons g' fs => exact ⟨hg, ih hfs⟩

end Form

/-! ### Forms that are read -/

/-- Apart from its places, the form is the written one. -/
def Node.Matches (n : Node) (f : Form) : Prop := n.shape = f.shape

namespace Node

theorem matches_leaf_iff {n : Node} {a : Leaf} :
    n.Matches (.leaf a) ↔ ∃ pos, n = .atom a.atom pos := by
  constructor
  · exact shape_eq_leaf
  · rintro ⟨pos, rfl⟩
    rfl

theorem matches_node_iff {n : Node} {b : Bracket} {fs : List Form} :
    n.Matches (.node b fs) ↔ ∃ items pos, n = b.node items pos ∧ List.Forall₂ Matches items fs := by
  have hparts : ∀ items : List Node, items.map shape = fs.map Form.shape ↔
      List.Forall₂ Matches items fs := fun items => by
    rw [← List.forall₂_eq_eq_eq, List.forall₂_map_left_iff, List.forall₂_map_right_iff]
    rfl
  have hshape : Form.shape (.node b fs) = .node b (fs.map Form.shape) := by
    rw [Form.shape, Tree.map, Tree.mapAll_eq]
    rfl
  rw [Matches, hshape]
  constructor
  · intro h
    obtain ⟨items, pos, rfl, hitems⟩ := shape_eq_node h
    exact ⟨items, pos, rfl, (hparts items).1 hitems⟩
  · rintro ⟨items, pos, rfl, hitems⟩
    rw [shape_node, (hparts items).2 hitems]

theorem matches_list_iff {n : Node} {fs : List Form} :
    n.Matches (.list fs) ↔ ∃ items pos, n = .list items pos ∧ List.Forall₂ Matches items fs :=
  matches_node_iff

theorem matches_named_iff {n : Node} {a : Leaf} {fs : List Form} :
    n.Matches (.list (.leaf a :: fs)) ↔
      ∃ p args pos, n = .list (.atom a.atom p :: args) pos ∧ List.Forall₂ Matches args fs := by
  rw [matches_list_iff]
  constructor
  · rintro ⟨_, pos, rfl, _ | ⟨hhead, hargs⟩⟩
    obtain ⟨p, rfl⟩ := matches_leaf_iff.1 hhead
    exact ⟨p, _, pos, rfl, hargs⟩
  · rintro ⟨p, args, pos, rfl, hargs⟩
    exact ⟨_, pos, rfl, .cons (matches_leaf_iff.2 ⟨p, rfl⟩) hargs⟩

end Node

theorem isWord_of_matches {name : String} {n : Node} (h : n.Matches (.word name)) (w : String) :
    n.isWord w = (lowerAscii name == w) := by
  obtain ⟨_, rfl⟩ := Node.matches_leaf_iff.1 h
  rfl

theorem mapM_eq_ok {α β : Type} {read : α → Except Fault β} {ns : List α} {xs : List β}
    (h : List.Forall₂ (fun n x => read n = .ok x) ns xs) : ns.mapM read = .ok xs := by
  induction h with
  | nil => rfl
  | cons hx _ ih => simp [List.mapM_cons, hx, ih, bind, Except.bind, pure, Except.pure]

theorem mapM_eq_ok_of_matches {β : Type} {read : Node → Except Fault β} {tree : β → Form}
    {xs : List β} (h : ∀ x ∈ xs, ∀ n : Node, n.Matches (tree x) → read n = .ok x)
    {ns : List Node} (hns : List.Forall₂ Node.Matches ns (xs.map tree)) :
    ns.mapM read = .ok xs := by
  rw [List.forall₂_map_right_iff] at hns
  refine mapM_eq_ok ?_
  induction hns with
  | nil => exact .nil
  | cons hn _ ih =>
      exact .cons (h _ (by simp) _ hn) (ih fun x hx => h x (List.mem_cons_of_mem _ hx))

theorem items_of_matches {β : Type} {read : Node → Except Fault β} {tree : β → Form}
    {xs : List β} (h : ∀ x ∈ xs, ∀ n : Node, n.Matches (tree x) → read n = .ok x)
    {n : Node} (hn : n.Matches (.list (xs.map tree))) :
    ∃ items, (∀ what, n.items what = .ok items) ∧ items.mapM read = .ok xs := by
  obtain ⟨items, pos, rfl, hitems⟩ := Node.matches_list_iff.1 hn
  exact ⟨items, fun _ => rfl, mapM_eq_ok_of_matches h hitems⟩

/-- A text is read as whatever the forms of its tree make. -/
theorem Prints.ofText?_eq_ok {text : String} {f : Form} (h : Prints text f) (hf : f.IsPart)
    (hd : nesting text ≤ maxNesting) : ∃ n, Node.ofText? text = .ok n ∧ n.Matches f :=
  Form.ofText?_eq_ok hf.writable hf.not_isSymbol h hd

theorem Prints.nesting_eq {text : String} {f : Form} (h : Prints text f) (hf : f.IsPart) :
    nesting text = f.depth :=
  Form.nesting_eq hf.writable hf.not_isSymbol h

end Sexp

end GraphAlgebra
