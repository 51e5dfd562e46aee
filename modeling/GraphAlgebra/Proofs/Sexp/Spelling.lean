import GraphAlgebra.Proofs.Sexp.Form
/-!
# The tokens of written forms

The tokens of a written atom stand for that atom (`Leaf.lex_append`), and those of a form spell
it, whatever their places are (`Form.lex_append`). Main statement: `Form.reads`, the text of a
form spells a form with the same atoms in the same tree.
-/

namespace GraphAlgebra

namespace Sexp

open Token

/-! ### Atoms -/

/-- What the lexer makes of some characters before `rest`: the tokens of one atom. -/
def LexesAtom (cs : List Char) (a : Atom) (rest : List Char) : Prop :=
  ∃ ts, Denotes ts a ∧ lex (cs ++ rest) = (lex rest).map (ts ++ ·)

theorem LexesAtom.of_lexesTo {E : List Char → Prop} {cs rest : List Char} {t : Token} {a : Atom}
    (h : LexesTo E cs t) (hrest : E rest) (ha : pieceOf t = .atom a) : LexesAtom cs a rest :=
  ⟨[t], .single ha, by rw [lex_append h hrest]; rfl⟩

theorem lexesAtom_var {v : Var} (h : v.Writable) {rest : List Char} (hrest : Ends rest) :
    LexesAtom v.text.toList (.var v) rest := by
  have htext : v.text.toList = '?' :: v.name.toList := by simp [Var.text]
  have hname : Var.ofText v.name = v := Var.ofText_of_writable h
  rw [htext]
  exact .of_lexesTo (lexesTo_variable h.1 h.2) hrest (by rw [pieceOf, hname])

theorem toList_iri_written (i : Iri) : i.written.toList = '<' :: (i.text.toList ++ ['>']) := by
  simp [Iri.written]

theorem toList_literal_written (l : Literal) :
    l.written.toList = '"' :: (escapeText l.lexical.toList ++ ['"']) ++
      (match l.language, l.datatype with
        | some tag, _ => '@' :: tag.toList
        | none, some dt => '^' :: '^' :: dt.written.toList
        | none, none => []) := by
  obtain ⟨lexical, language, datatype⟩ := l
  cases language <;> cases datatype <;> simp [Literal.written]

theorem lexesAtom_literal {l : Literal} (h : l.Writable) {rest : List Char} (hrest : Ends rest) :
    LexesAtom l.written.toList (.term (.literal l)) rest := by
  obtain ⟨lexical, language, datatype⟩ := l
  have hstring : ∀ cs, lex ('"' :: (escapeText lexical.toList ++ ['"']) ++ cs) =
      (lex cs).map (.string lexical :: ·) := fun cs => lex_append (lexesTo_string lexical) trivial
  rw [toList_literal_written]
  rcases h with ⟨hlang, hdt⟩ | ⟨hdt, hlang⟩
  · simp only at hlang hdt
    subst hlang
    cases datatype with
    | none =>
        refine ⟨[.string lexical], .single rfl, ?_⟩
        rw [List.append_nil, hstring]
        rfl
    | some dt =>
        obtain ⟨hiri, hne⟩ := hdt dt rfl
        refine ⟨[.string lexical, .doubleCaret, .iri dt.text], ?_, ?_⟩
        · exact .typed lexical hne
        · have hcaret : lex ('^' :: '^' :: dt.written.toList ++ rest) =
              (lex (dt.written.toList ++ rest)).map (.doubleCaret :: ·) :=
            lex_append lexesTo_doubleCaret trivial
          have hdatatype : lex (dt.written.toList ++ rest) = (lex rest).map (.iri dt.text :: ·) := by
            rw [toList_iri_written]
            exact lex_append (lexesTo_iri hiri) trivial
          rw [List.append_assoc, hstring, hcaret, hdatatype, Option.map_map, Option.map_map]
          rfl
  · simp only at hlang hdt
    subst hdt
    cases language with
    | none =>
        refine ⟨[.string lexical], .single rfl, ?_⟩
        rw [List.append_nil, hstring]
        rfl
    | some tag =>
        have htag := hlang tag rfl
        have htagged : Literal.tagged lexical tag = ⟨lexical, some tag, none⟩ := by
          rw [Literal.tagged, htag.lowerAscii_eq]
        refine ⟨[.string lexical, .language tag], ?_, ?_⟩
        · rw [← htagged]
          exact .tagged lexical tag
        · rw [List.append_assoc, hstring, lex_append htag.lexesTo hrest, Option.map_map]
          rfl

theorem lexesAtom_full {t : Term} (h : t.Writable) {rest : List Char}
    (hrest : Ends rest) : LexesAtom t.written.toList (.term t) rest := by
  cases t with
  | iri i =>
      rw [Term.written, toList_iri_written]
      exact .of_lexesTo (lexesTo_iri h) trivial rfl
  | blank label =>
      have htext : (Term.blank label).written.toList = '_' :: ':' :: label.toList := by
        simp [Term.written]
      rw [htext]
      exact .of_lexesTo (lexesTo_blank h.1 h.2) hrest rfl
  | literal l => exact lexesAtom_literal h hrest

theorem lexesAtom_word {name : String} (h : IsWord name) {rest : List Char} (hrest : Ends rest) :
    LexesAtom name.toList (.word name) rest := by
  obtain ⟨⟨c, cs, hname, hc, hcs⟩, htrue, hfalse⟩ := h
  have hlex := lexesTo_word hc hcs
  rw [← hname, String.ofList_toList] at hlex
  refine .of_lexesTo hlex hrest ?_
  rw [pieceOf, if_neg htrue, if_neg hfalse]

theorem lexesAtom_boolean (b : Bool) {rest : List Char} (hrest : Ends rest) :
    LexesAtom (if b then "true" else "false").toList (.term (.boolean b)) rest := by
  cases b with
  | true =>
      have hword : ∀ c ∈ ['r', 'u', 'e'], isWordChar c = true := by simp; decide
      exact .of_lexesTo (lexesTo_word (c := 't') rfl hword) hrest rfl
  | false =>
      have hword : ∀ c ∈ ['a', 'l', 's', 'e'], isWordChar c = true := by simp; decide
      exact .of_lexesTo (lexesTo_word (c := 'f') rfl hword) hrest rfl

/-- A literal of a datatype that has short forms lexes from its lexical form. -/
theorem lexesAtom_lexical {lexical : String} {dt : Iri}
    (h : Literal.hasShortForm ⟨lexical, none, some dt⟩ = true) {rest : List Char}
    (hrest : Ends rest) :
    LexesAtom lexical.toList (.term (.literal ⟨lexical, none, some dt⟩)) rest := by
  unfold Literal.hasShortForm at h
  dsimp only at h
  split at h
  next hdt =>
    obtain ⟨b, hb⟩ := isIntegerText_iff.1 h
    have hterm : Term.literal ⟨lexical, none, some dt⟩ = .integer b.val := by
      rw [hdt, Term.integer_eq, ← hb, String.ofList_toList]
    rw [hterm, hb]
    exact .of_lexesTo (lexesTo_integer b) hrest rfl
  split at h
  next hdt =>
    rw [hdt, ← Term.typed_of_ne lexical Iri.decimal_ne_string]
    exact .of_lexesTo (lexesTo_decimal h) hrest rfl
  split at h
  next hdt =>
    rw [hdt, ← Term.typed_of_ne lexical Iri.boolean_ne_string]
    simp only [Bool.or_eq_true, beq_iff_eq] at h
    rcases h with rfl | rfl
    · exact lexesAtom_boolean true hrest
    · exact lexesAtom_boolean false hrest
  next => simp at h

theorem lexesAtom_short {t : Term} (h : t.Writable) {rest : List Char} (hrest : Ends rest) :
    LexesAtom t.short.toList (.term t) rest := by
  cases t with
  | iri i => exact lexesAtom_full h hrest
  | blank label => exact lexesAtom_full h hrest
  | literal l =>
      by_cases hshort : l.hasShortForm = true
      · rw [Term.short, if_pos hshort]
        obtain ⟨lexical, language, _ | dt⟩ := l
        · simp [Literal.hasShortForm] at hshort
        · obtain rfl : language = none := by
            rcases h with ⟨hlang, -⟩ | ⟨hdt, -⟩
            · exact hlang
            · simp at hdt
          exact lexesAtom_lexical hshort hrest
      · have hfull : Term.short (.literal l) = Term.written (.literal l) := if_neg hshort
        rw [hfull]
        exact lexesAtom_full h hrest

theorem Leaf.lexesAtom {a : Leaf} (h : a.Writable) {rest : List Char} (hrest : Ends rest)
    (hblank : Form.IsSymbol (.leaf a) → Blank rest) : LexesAtom a.text.toList a.atom rest := by
  cases a with
  | var v => exact lexesAtom_var h hrest
  | short t => exact lexesAtom_short h hrest
  | full t => exact lexesAtom_full h hrest
  | word name => exact lexesAtom_word h hrest
  | symbol s => exact .of_lexesTo (lexesTo_symbol s) (hblank trivial) rfl

/-! ### Forms -/

/-- Wherever the tokens stand, they spell a form of the shape. -/
def Spells (ts : List Token) (s : Tree Atom) : Prop :=
  ∀ ps : List Placed, ps.map Placed.token = ts → ∃ n, Reads ps n ∧ n.shape = s

def SpellsAll (ts : List Token) (ss : List (Tree Atom)) : Prop :=
  ∀ ps : List Placed, ps.map Placed.token = ts → ∃ ns, ReadsAll ps ns ∧ ns.map Node.shape = ss

theorem Denotes.spells {ts : List Token} {a : Atom} (h : Denotes ts a) : Spells ts (.leaf a) := by
  rintro (_ | ⟨p, ps⟩) rfl
  · cases h
  · exact ⟨.atom a p.offset, .atom h, rfl⟩

theorem spellsAll_nil : SpellsAll [] [] := by
  intro ps hps
  obtain rfl := List.map_eq_nil_iff.1 hps
  exact ⟨[], .nil, rfl⟩

theorem SpellsAll.cons {ts us : List Token} {s : Tree Atom} {ss : List (Tree Atom)}
    (h : Spells ts s) (hs : SpellsAll us ss) : SpellsAll (ts ++ us) (s :: ss) := by
  intro ps hps
  obtain ⟨ps, qs, rfl, hps, hqs⟩ := List.map_eq_append_iff.1 hps
  obtain ⟨n, hn, hshape⟩ := h ps hps
  obtain ⟨ns, hns, hshapes⟩ := hs qs hqs
  exact ⟨n :: ns, .cons hn hns, by rw [List.map_cons, hshape, hshapes]⟩

theorem SpellsAll.node {ts : List Token} {ss : List (Tree Atom)} (h : SpellsAll ts ss)
    (b : Bracket) : Spells (b.opening :: (ts ++ [b.closing])) (.node b ss) := by
  intro ps hps
  obtain ⟨⟨_, pos⟩, rest, rfl, rfl, hrest⟩ := List.map_eq_cons_iff.1 hps
  obtain ⟨inner, qs, rfl, hinner, hqs⟩ := List.map_eq_append_iff.1 hrest
  obtain ⟨⟨_, close⟩, qs', rfl, rfl, hnil⟩ := List.map_eq_cons_iff.1 hqs
  obtain rfl := List.map_eq_nil_iff.1 hnil
  obtain ⟨ns, hns, hshapes⟩ := h inner hinner
  exact ⟨b.node ns pos, .node b pos close hns, by rw [Node.shape_node, hshapes]⟩

/-- What the lexer makes of some characters before `rest`: the tokens of one form. -/
def LexesForm (cs : List Char) (s : Tree Atom) (rest : List Char) : Prop :=
  ∃ ts, Spells ts s ∧ lex (cs ++ rest) = (lex rest).map (ts ++ ·)

theorem lex_opening (b : Bracket) (cs : List Char) :
    lex (b.chars.1 :: cs) = (lex cs).map (b.opening :: ·) := by
  cases b with
  | round => exact lex_append lexesTo_leftParen trivial
  | square => exact lex_append lexesTo_leftBracket trivial

theorem lex_closing (b : Bracket) (cs : List Char) :
    lex (b.chars.2 :: cs) = (lex cs).map (b.closing :: ·) := by
  cases b with
  | round => exact lex_append lexesTo_rightParen trivial
  | square => exact lex_append lexesTo_rightBracket trivial

theorem ends_closing (b : Bracket) (cs : List Char) : Ends (b.chars.2 :: cs) := by
  cases b <;> exact ends_cons (by simp [Bracket.chars])

namespace Form

def partsChars : List Form → List Char
  | [] => []
  | f :: fs => f.chars ++ tailChars fs

theorem chars_node (b : Bracket) (fs : List Form) :
    chars (.node b fs) = b.chars.1 :: (partsChars fs ++ [b.chars.2]) := by
  cases fs <;> simp [chars, partsChars]

mutual

theorem lex_append : ∀ {f : Form} {rest : List Char}, f.Writable → Ends rest →
    (f.IsSymbol → Blank rest) → LexesForm f.chars f.shape rest
  | .leaf a, rest, h, hrest, hblank => by
      obtain ⟨ts, hts, hlex⟩ := Leaf.lexesAtom h hrest hblank
      exact ⟨ts, hts.spells, hlex⟩
  | .node b fs, rest, h, hrest, hblank => by
      obtain ⟨ts, hts, hlex⟩ := lexAll_append b rest h
      refine ⟨b.opening :: (ts ++ [b.closing]), SpellsAll.node hts b, ?_⟩
      rw [chars_node, List.cons_append, List.append_assoc, List.singleton_append, lex_opening,
        hlex, lex_closing, Option.map_map, Option.map_map]
      simp [Function.comp_def]

theorem lexAll_append : ∀ {fs : List Form} (b : Bracket) (rest : List Char), WritableAll fs →
    ∃ ts, SpellsAll ts (Tree.mapAll Leaf.atom fs) ∧
      lex (partsChars fs ++ b.chars.2 :: rest) = (lex (b.chars.2 :: rest)).map (ts ++ ·)
  | [], b, rest, _ => ⟨[], spellsAll_nil, by simp [partsChars]⟩
  | [f], b, rest, h => by
      obtain ⟨ts, hts, hlex⟩ := lex_append h.1 (ends_closing b rest) fun hs => absurd hs h.2
      refine ⟨ts ++ [], SpellsAll.cons hts spellsAll_nil, ?_⟩
      rw [partsChars, tailChars, List.append_nil, List.append_nil, hlex]
  | f :: g :: fs, b, rest, h => by
      obtain ⟨us, hus, hlexAll⟩ := lexAll_append b rest h.2
      have hends : Ends (' ' :: (partsChars (g :: fs) ++ b.chars.2 :: rest)) := ends_cons (.inl rfl)
      obtain ⟨ts, hts, hlex⟩ := lex_append h.1 hends fun _ => rfl
      refine ⟨ts ++ us, SpellsAll.cons hts hus, ?_⟩
      have hsplit : partsChars (f :: g :: fs) ++ b.chars.2 :: rest =
          f.chars ++ ' ' :: (partsChars (g :: fs) ++ b.chars.2 :: rest) := by
        simp [partsChars, tailChars]
      rw [hsplit, hlex, lex_cons_of_isSpace (by decide), hlexAll, Option.map_map]
      simp [Function.comp_def]

end

theorem reads {f : Form} (h : f.Writable) (hf : ¬ f.IsSymbol) {text : String}
    (htext : text.toList = f.chars) :
    ∃ ps n, Token.tokens text = .ok ps ∧ Reads ps n ∧ n.shape = f.shape := by
  obtain ⟨ts, hts, hlex⟩ := lex_append h ends_nil fun hs => absurd hs hf
  rw [List.append_nil, lex_nil, ← htext] at hlex
  obtain ⟨ps, hps, hmap⟩ := tokens_of_lex hlex
  obtain ⟨n, hn, hshape⟩ := hts ps (by simpa using hmap)
  exact ⟨ps, n, hps, hn, hshape⟩

theorem nesting_eq {f : Form} (h : f.Writable) (hf : ¬ f.IsSymbol) {text : String}
    (htext : text.toList = f.chars) : nesting text = f.depth := by
  obtain ⟨ps, n, hps, hn, hshape⟩ := reads h hf htext
  rw [hn.nesting_eq hps, ← Node.depth_shape, hshape, shape, Tree.depth_map]

theorem ofText?_eq_ok {f : Form} (h : f.Writable) (hf : ¬ f.IsSymbol) {text : String}
    (htext : text.toList = f.chars) (hd : nesting text ≤ maxNesting) :
    ∃ n, Node.ofText? text = .ok n ∧ n.shape = f.shape := by
  obtain ⟨ps, n, hps, hn, hshape⟩ := reads h hf htext
  rw [hn.nesting_eq hps] at hd
  exact ⟨n, Node.ofText?_eq_ok_iff.2 ⟨ps, hps, hn, hd⟩, hshape⟩

end Form

end Sexp

end GraphAlgebra
