import GraphAlgebra.Proofs.Sexp.Origin
import GraphAlgebra.Proofs.Sexp.RoundTrip
/-!
# Trees that were read

The leaves of a tree that was read from a text are writable, so the tree is read back from its
own text wherever the brackets of that text are not too deep. Main statement:
`Op.ofText_text_iff_nesting_le`. Printing can add brackets, and three texts show what is lost:
the tree of `nestedText 127` has a text that is nested too deeply, and two short texts have trees
that no text spells.
-/

namespace GraphAlgebra

open Sexp

theorem Op.Each.and {p q : Op → Prop} {op : Op} (hp : op.Each p) (hq : op.Each q) :
    op.Each fun o => p o ∧ q o := by
  induction op with
  | join l r ihl ihr | sequence l r ihl ihr | leftJoin l r es ihl ihr | diff l r ihl ihr
  | union l r ihl ihr =>
      exact ⟨⟨hp.1, hq.1⟩, ihl hp.2.1 hq.2.1, ihr hp.2.2 hq.2.2⟩
  | bgp | quads | datasetNames | table | null => exact ⟨hp, hq⟩
  | procedure _ _ _ ih | filter _ _ ih | graph _ _ ih | service _ _ _ ih | extension _ _ ih
  | list _ ih | order _ _ ih | project _ _ ih | distinct _ ih | reduced _ ih | slice _ _ _ ih
  | assign _ _ ih | group _ _ _ ih => exact ⟨⟨hp.1, hq.1⟩, ih hp.2 hq.2⟩

/-- The names that the reader gives to extensions are those of atoms, but for that of square
brackets. -/
theorem isName_of_nameFrom {name : String} (h : NameFrom Atom.Writable name)
    (hname : name ≠ "[...]") : IsName name := by
  rcases h with ⟨a, pos, ha, rfl⟩ | rfl | rfl
  · cases a with
    | var v => exact ⟨.var v, ha, rfl, fun _ => rfl⟩
    | term t => exact ⟨.full t, ha, rfl, fun _ => rfl⟩
    | word w => exact ⟨.word w, ha, rfl, fun _ => rfl⟩
    | symbol s => exact ⟨.symbol s, ha, rfl, fun _ => rfl⟩
  · exact isName_of_isWord (by decide)
  · exact absurd rfl hname

/-- The name of the operator, if it is an extension, is not that of square brackets. -/
def Op.NotBracketed (op : Op) : Prop := op.NameSatisfies (· ≠ "[...]")

theorem Op.writableWith_of_ofText {text : String} {op : Op} (h : Op.ofText text = .ok op)
    (hbounds : op.Each Op.BoundsFit) (hnames : op.Each Op.NotBracketed) :
    op.WritableWith IsName := by
  obtain ⟨n, hn, hread⟩ := bind_eq_ok_iff.1 h
  have hover : OpOver Atom.Writable op :=
    (readsOp_of_readOp hread).opOver (Node.each_writable_of_ofText? hn)
  refine Op.Each.mono (fun o ho => ⟨ho.1.1, ho.2.1, ?_⟩) (hover.and (hbounds.and hnames))
  obtain ⟨⟨-, hfrom⟩, -, hname⟩ := ho
  cases o with
  | extension name sub => exact isName_of_nameFrom hfrom hname
  | _ => trivial

theorem Op.nesting_le_of_ofText {text : String} {op : Op} (h : Op.ofText text = .ok op) :
    nesting text ≤ maxNesting := by
  obtain ⟨n, hn, -⟩ := bind_eq_ok_iff.1 h
  exact nesting_le_of_ofText? hn

/-! ### Brackets that printing adds -/

/-- An extension without an operand under `k` operators. -/
def nestedText : Nat → String
  | 0 => "(ext x)"
  | k + 1 => "(distinct " ++ nestedText k ++ ")"

/-- The tree of `nestedText k`, where the extension has got an operand. -/
def nestedOp : Nat → Op
  | 0 => .extension "x" .null
  | k + 1 => .distinct (nestedOp k)

def nestedForm : Nat → Form
  | 0 => .list [.word "ext", .word "x"]
  | k + 1 => .list [.word "distinct", nestedForm k]

theorem prints_nestedForm (k : Nat) : Prints (nestedText k) (nestedForm k) := by
  induction k with
  | zero => rfl
  | succ k ih =>
      have hsub : (nestedText k).toList = (nestedForm k).chars := ih
      simp [Prints, nestedText, nestedForm, Form.chars, Form.tailChars, Leaf.text, Bracket.chars,
        hsub]

theorem isPart_nestedForm (k : Nat) : (nestedForm k).IsPart := by
  induction k with
  | zero =>
      have hx : (Form.word "x").IsPart := Form.isPart_word (by decide)
      exact Form.isPart_named (by decide) (by simpa using hx)
  | succ k ih => exact Form.isPart_named (by decide) (by simpa using ih)

theorem depth_nestedForm (k : Nat) : (nestedForm k).depth = k + 1 := by
  induction k with
  | zero => rfl
  | succ k ih => simp [nestedForm, Tree.depth, Tree.depthAll, ih]

theorem readOp_of_matches_nestedForm {k : Nat} {n : Node} (h : n.Matches (nestedForm k)) :
    readOp n = .ok (nestedOp k) := by
  induction k generalizing n with
  | zero =>
      obtain ⟨_, _, pos, rfl, _ | ⟨hname, _ | _⟩⟩ := Node.matches_named_iff.1 h
      obtain ⟨_, rfl⟩ := Node.matches_leaf_iff.1 hname
      simp [readOp, Leaf.atom, Node.word?, Node.describe, nestedOp]
  | succ k ih =>
      obtain ⟨_, _, pos, rfl, _ | ⟨hsub, _ | _⟩⟩ := Node.matches_named_iff.1 h
      simp [readOp, Leaf.atom, Node.word?, ih hsub, nestedOp]

theorem Op.ofText_eq_ok_of_prints {text : String} {f : Form} {op : Op} (h : Prints text f)
    (hf : f.IsPart) (hd : f.depth ≤ maxNesting)
    (hread : ∀ n : Node, n.Matches f → readOp n = .ok op) : Op.ofText text = .ok op := by
  obtain ⟨n, hn, hmatches⟩ := h.ofText?_eq_ok hf (by rw [h.nesting_eq hf]; exact hd)
  exact bind_eq_ok_iff.2 ⟨n, hn, hread n hmatches⟩

theorem writable_nestedOp (k : Nat) : (nestedOp k).Writable := by
  have hname : IsWord "x" := by decide
  induction k with
  | zero => exact ⟨⟨trivial, trivial, hname⟩, trivial, trivial, trivial⟩
  | succ k ih => exact ⟨⟨trivial, trivial, trivial⟩, ih⟩

theorem depth_sexp_nestedOp (k : Nat) : ((nestedOp k).sexp Leaf.word).depth = k + 2 := by
  induction k with
  | zero => rfl
  | succ k ih => simp [nestedOp, Op.sexp, Tree.depth, Tree.depthAll, ih]

theorem ofText_nestedText {k : Nat} (h : k < maxNesting) :
    Op.ofText (nestedText k) = .ok (nestedOp k) := by
  refine Op.ofText_eq_ok_of_prints (prints_nestedForm k) (isPart_nestedForm k) ?_ fun n hn =>
    readOp_of_matches_nestedForm hn
  rw [depth_nestedForm]
  exact h

/-! ### Reading back -/

/-- A tree that was read, with bounds of slices in the value space and no extension named by
square brackets, is read back from its own text just where that text is not nested too deeply. -/
theorem Op.ofText_text_iff_nesting_le {text : String} {op : Op} (h : Op.ofText text = .ok op)
    (hbounds : op.Each Op.BoundsFit) (hnames : op.Each Op.NotBracketed) :
    Op.ofText op.text = .ok op ↔ nesting op.text ≤ maxNesting :=
  ⟨Op.nesting_le_of_ofText,
    Op.ofText_text_of_isName (Op.writableWith_of_ofText h hbounds hnames)⟩

theorem notBracketed_of_word (op : Op)
    (h : op.Over Atom.Writable ∧ op.BoundsFit ∧ op.NameSatisfies IsWord) : op.NotBracketed := by
  cases op with
  | extension name sub =>
      have hword : IsWord name := h.2.2
      rintro rfl
      exact absurd hword (by decide)
  | _ => trivial

/-- At the greatest depth, the text with an operand for the extension is read as well. -/
theorem ofText_text_nestedOp :
    (nestedOp 126).Each Op.BoundsFit ∧ (nestedOp 126).Each Op.NotBracketed ∧
      nesting (nestedOp 126).text ≤ maxNesting ∧
      Op.ofText (nestedOp 126).text = .ok (nestedOp 126) := by
  have hwritable : (nestedOp 126).WritableWith IsWord := writable_nestedOp 126
  have hbounds : (nestedOp 126).Each Op.BoundsFit :=
    Op.Each.mono (fun _ h => h.2.1) hwritable
  have hnames : (nestedOp 126).Each Op.NotBracketed :=
    Op.Each.mono notBracketed_of_word hwritable
  have hd : nesting (nestedOp 126).text ≤ maxNesting := by
    rw [Op.nesting_text hwritable, depth_sexp_nestedOp]
    decide
  exact ⟨hbounds, hnames, hd,
    (Op.ofText_text_iff_nesting_le (ofText_nestedText (by decide)) hbounds hnames).2 hd⟩

/-- The tree of the text, if it has one, is read back from its own text. -/
def ReadsBack (text : String) : Prop :=
  ∀ op, Op.ofText text = .ok op → Op.ofText op.text = .ok op

theorem Op.ofText_ne_ok_of_lex {text : String} (h : Token.lex text.toList = none) (op : Op) :
    Op.ofText text ≠ .ok op := by
  intro hread
  obtain ⟨n, hn, -⟩ := bind_eq_ok_iff.1 hread
  obtain ⟨ps, hps, -⟩ := Node.ofText?_eq_ok_iff.1 hn
  rw [Token.lex_of_tokens hps] at h
  cases h

/-- A bound of a slice that is greater than every number of the notation. -/
def greatBound : Literal := ⟨"9223372036854775808", none, some Iri.integer⟩

def greatSlice : String :=
  "(slice _ \"9223372036854775808\"^^<http://www.w3.org/2001/XMLSchema#integer> (null))"

def greatSliceForms : List Form :=
  [.word "slice", .leaf (.symbol .underscore), .leaf (.full (.literal greatBound))]

theorem writable_of_mem_greatSliceForms : ∀ f ∈ greatSliceForms, f.Writable := by
  have hword : (Form.word "slice").IsPart := Form.isPart_word (by decide)
  have hbound : Term.Writable (.literal greatBound) := .inl ⟨rfl, fun dt hdt => by
    obtain rfl := Option.some.inj hdt
    exact ⟨Iri.writable_integer, Iri.integer_ne_string⟩⟩
  simp [greatSliceForms, hword.writable, Form.writable_symbol, (Form.isPart_full hbound).writable]

theorem ofText_greatSlice :
    Op.ofText greatSlice = .ok (.slice .null none (some 9223372036854775808)) := by
  have hnull : (Form.list [.word "null"]).IsPart := Form.isPart_named (by decide) (by simp)
  have hprints : greatSlice.toList =
      Form.chars (.list (greatSliceForms ++ [.list [.word "null"]])) := by decide
  refine Op.ofText_eq_ok_of_prints hprints
    ⟨Form.writableAll_concat writable_of_mem_greatSliceForms hnull, id⟩ (by decide) fun n hn => ?_
  obtain ⟨_, _, pos, rfl, _ | ⟨hs, _ | ⟨hl, _ | ⟨hsub, _ | _⟩⟩⟩⟩ := Node.matches_named_iff.1 hn
  obtain ⟨q, rfl⟩ := Node.matches_leaf_iff.1 hl
  obtain ⟨_, _, _, rfl, _ | _⟩ := Node.matches_named_iff.1 hsub
  have hstart := readBound_of_matches (b := none) (by simp) hs
  have hlength : readBound (.atom (.term (.literal greatBound)) q) =
      .ok (some 9223372036854775808) := by
    have hinteger : greatBound.datatypeIri = Iri.integer := rfl
    have hbound : bound? greatBound.lexical.toList = some 9223372036854775808 := by
      decide
    rw [readBound, if_pos hinteger, hbound]
  simp [readOp, Leaf.atom, Node.word?, hstart, hlength, bind, Except.bind]

theorem ofText_bracketedName : Op.ofText "(ext [a])" = .ok (.extension "[...]" .null) := by
  have hword : (Form.word "a").IsPart := Form.isPart_word (by decide)
  have ha : Form.IsPart (.node .square [Form.word "a"]) :=
    Form.isPart_node .square (by simpa using hword)
  have hprints : "(ext [a])".toList =
      Form.chars (.list [.word "ext", .node .square [Form.word "a"]]) := by decide
  refine Op.ofText_eq_ok_of_prints hprints
    (Form.isPart_named (by decide) (by simpa using ha)) (by decide) fun n hn => ?_
  obtain ⟨_, _, pos, rfl, _ | ⟨hname, _ | _⟩⟩ := Node.matches_named_iff.1 hn
  obtain ⟨_, _, rfl, -⟩ := Node.matches_node_iff.1 hname
  simp [readOp, Leaf.atom, Node.word?, Bracket.node, Node.describe]

/-- Printing what was read can nest too deeply, and it can spell a bound or a name that is not
read. -/
theorem not_readsBack :
    ¬ ReadsBack (nestedText 127) ∧ ¬ ReadsBack greatSlice ∧ ¬ ReadsBack "(ext [a])" := by
  refine ⟨fun h => ?_, fun h => ?_, fun h => ?_⟩
  · have hread := h _ (ofText_nestedText (by decide))
    have hle := Op.nesting_le_of_ofText hread
    rw [Op.nesting_text (writable_nestedOp 127), depth_sexp_nestedOp] at hle
    exact absurd hle (by decide)
  · have hlex : Token.lex (Op.slice .null none (some 9223372036854775808)).text.toList = none := by
      decide +kernel
    exact Op.ofText_ne_ok_of_lex hlex _ (h _ ofText_greatSlice)
  · have hlex : Token.lex (Op.extension "[...]" .null).text.toList = none := by decide +kernel
    exact Op.ofText_ne_ok_of_lex hlex _ (h _ ofText_bracketedName)

end GraphAlgebra
