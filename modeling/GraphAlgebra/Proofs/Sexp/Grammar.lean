import GraphAlgebra.Sexp.Node
/-!
# The grammar of nested forms

`Reads ps n` says that the tokens `ps` spell the form `n`: an atom is one token, or a string with
its suffix, and forms stand between matching brackets. The place of a form is that of its first
token. No form begins with a suffix (`Reads.unsuffixed`), so a string takes the one that follows it.
`pieces_of_denotes` says that the tokens of an atom make one piece where no suffix follows.
-/

namespace GraphAlgebra

namespace Sexp

namespace Bracket

def opening : Bracket → Token
  | .round => .leftParen
  | .square => .leftBracket

def closing : Bracket → Token
  | .round => .rightParen
  | .square => .rightBracket

def node : Bracket → List Node → Nat → Node
  | .round, items, pos => .list items pos
  | .square, items, pos => .bracket items pos

end Bracket

theorem Frame.close_eq (f : Frame) : f.close = f.bracket.node f.items.reverse f.pos := by
  obtain ⟨b, pos, items⟩ := f
  cases b <;> rfl

namespace Node

mutual

def depth : Node → Nat
  | .atom .. => 0
  | .list items _ => depthAll items + 1
  | .bracket items _ => depthAll items + 1

def depthAll : List Node → Nat
  | [] => 0
  | n :: ns => max n.depth (depthAll ns)

end

@[simp] theorem depth_atom (a : Atom) (pos : Nat) : (Node.atom a pos).depth = 0 := rfl

@[simp] theorem depth_node (b : Bracket) (ns : List Node) (pos : Nat) :
    (b.node ns pos).depth = depthAll ns + 1 := by
  cases b <;> rfl

theorem depthAll_append (ns ms : List Node) :
    depthAll (ns ++ ms) = max (depthAll ns) (depthAll ms) := by
  induction ns with
  | nil => simp [depthAll]
  | cons n ns ih => simp [depthAll, ih, Nat.max_assoc]

/-- Induction over a form, with all of its parts at once. -/
theorem induction {motive : Node → Prop} (atom : ∀ a pos, motive (.atom a pos))
    (node : ∀ (b : Bracket) ns pos, (∀ n ∈ ns, motive n) → motive (b.node ns pos)) :
    ∀ n, motive n
  | .atom a pos => atom a pos
  | .list items pos => node .round items pos fun n _ => induction atom node n
  | .bracket items pos => node .square items pos fun n _ => induction atom node n

end Node

/-- The atom that some tokens stand for together: one token, or a string with its suffix. Tags are
taken in lower case, and the datatype of strings is left out. -/
inductive Denotes : List Token → Atom → Prop
  | variable (name : String) : Denotes [.variable name] (.var (.ofText name))
  | iri (text : String) : Denotes [.iri text] (.term (.iri ⟨text⟩))
  | blank (label : String) : Denotes [.blank label] (.term (.blank label))
  | integer (n : BoundedInt) :
      Denotes [.integer n]
        (.term (.literal ⟨String.ofList (integerText n.val), none, some Iri.integer⟩))
  | decimal (text : String) :
      Denotes [.decimal text] (.term (.literal ⟨text, none, some Iri.decimal⟩))
  | double (text : String) :
      Denotes [.double text] (.term (.literal ⟨text, none, some Iri.double⟩))
  | true : Denotes [.word "true"] (.term (.literal ⟨"true", none, some Iri.boolean⟩))
  | false : Denotes [.word "false"] (.term (.literal ⟨"false", none, some Iri.boolean⟩))
  | word {name : String} (htrue : name ≠ "true") (hfalse : name ≠ "false") :
      Denotes [.word name] (.word name)
  | symbol (s : Symbol) : Denotes [.symbol s] (.symbol s)
  | string (s : String) : Denotes [.string s] (.term (.literal ⟨s, none, none⟩))
  | tagged (s tag : String) :
      Denotes [.string s, .language tag] (.term (.literal ⟨s, some (lowerAscii tag), none⟩))
  | typed (s : String) {datatype : String} (h : ⟨datatype⟩ ≠ Iri.string) :
      Denotes [.string s, .doubleCaret, .iri datatype]
        (.term (.literal ⟨s, none, some ⟨datatype⟩⟩))
  | typedString (s : String) :
      Denotes [.string s, .doubleCaret, .iri Iri.string.text] (.term (.literal ⟨s, none, none⟩))

namespace Denotes

theorem single {t : Token} {a : Atom} (h : pieceOf t = .atom a) : Denotes [t] a := by
  match t, h with
  | .symbol _, h | .variable _, h | .iri _, h | .blank _, h | .string _, h | .integer _, h
  | .decimal _, h | .double _, h =>
      obtain rfl := Piece.atom.inj h
      constructor
  | .word name, h =>
      rw [pieceOf] at h
      split at h
      next hname =>
        obtain rfl := Piece.atom.inj h
        exact hname ▸ .true
      next htrue =>
        split at h
        next hname =>
          obtain rfl := Piece.atom.inj h
          exact hname ▸ .false
        next hfalse =>
          obtain rfl := Piece.atom.inj h
          exact .word htrue hfalse

theorem withDatatype (s datatype : String) :
    Denotes [.string s, .doubleCaret, .iri datatype] (.term (.typed s ⟨datatype⟩)) := by
  rw [Term.typed, Literal.typed]
  split
  next h =>
    obtain rfl : datatype = Iri.string.text := congrArg Iri.text h
    exact .typedString s
  next h => exact .typed s h

/-- Tokens that stand for an atom are one that makes it alone, or a string with its suffix. -/
theorem pieceCases {motive : (ts : List Token) → (a : Atom) → Denotes ts a → Prop}
    (single : ∀ t a (h : pieceOf t = .atom a), motive [t] a (.single h))
    (tagged : ∀ s tag, motive _ _ (.tagged s tag))
    (withDatatype : ∀ s datatype, motive _ _ (.withDatatype s datatype))
    {ts : List Token} {a : Atom} (h : Denotes ts a) : motive ts a h := by
  cases h with
  | tagged s tag => exact tagged s tag
  | @typed s datatype h =>
      have hmotive := withDatatype s datatype
      simp only [Term.typed_of_ne s h] at hmotive
      exact hmotive
  | typedString s => exact withDatatype s Iri.string.text
  | word htrue hfalse => exact single _ _ (by rw [pieceOf, if_neg htrue, if_neg hfalse])
  | _ => exact single _ _ rfl

end Denotes

mutual

/-- The tokens spell the form. -/
inductive Reads : List Placed → Node → Prop
  | atom {p : Placed} {ps : List Placed} {a : Atom} (h : Denotes ((p :: ps).map Placed.token) a) :
      Reads (p :: ps) (.atom a p.offset)
  | node {ps : List Placed} {ns : List Node} (b : Bracket) (pos close : Nat) (h : ReadsAll ps ns) :
      Reads (⟨b.opening, pos⟩ :: (ps ++ [⟨b.closing, close⟩])) (b.node ns pos)

inductive ReadsAll : List Placed → List Node → Prop
  | nil : ReadsAll [] []
  | cons {ps qs : List Placed} {n : Node} {ns : List Node} (h : Reads ps n)
      (hs : ReadsAll qs ns) : ReadsAll (ps ++ qs) (n :: ns)

end

theorem ReadsAll.append {ps qs : List Placed} {ns ms : List Node} (hn : ReadsAll ps ns)
    (hm : ReadsAll qs ms) : ReadsAll (ps ++ qs) (ns ++ ms) := by
  induction ns generalizing ps with
  | nil =>
      cases hn
      exact hm
  | cons n ns ih =>
      cases hn with
      | cons h hs =>
          rw [List.append_assoc, List.cons_append]
          exact .cons h (ih hs)

theorem ReadsAll.concat {ps qs : List Placed} {ns : List Node} {n : Node} (hn : ReadsAll ps ns)
    (h : Reads qs n) : ReadsAll (ps ++ qs) (ns ++ [n]) := by
  simpa using hn.append (.cons h .nil)

def IsSuffix (t : Token) : Prop := t = .doubleCaret ∨ ∃ tag, t = .language tag

/-- Some tokens do not go on with a suffix. -/
def Unsuffixed (ps : List Placed) : Prop := ∀ p ∈ ps.head?, ¬ IsSuffix p.token

theorem unsuffixed_nil : Unsuffixed [] := by simp [Unsuffixed]

theorem unsuffixed_closing (b : Bracket) (pos : Nat) (ps : List Placed) :
    Unsuffixed (⟨b.closing, pos⟩ :: ps) := by
  cases b <;> simp [Unsuffixed, IsSuffix, Bracket.closing]

theorem Reads.unsuffixed {ps : List Placed} {n : Node} (h : Reads ps n) (more : List Placed) :
    Unsuffixed (ps ++ more) := by
  cases h with
  | node b pos close h => cases b <;> simp [Unsuffixed, IsSuffix, Bracket.opening]
  | @atom p ps a h =>
      simp only [Unsuffixed, List.cons_append, List.head?_cons, Option.mem_some_iff,
        forall_eq', IsSuffix]
      generalize hts : (p :: ps).map Placed.token = ts at h
      simp only [List.map_cons] at hts
      cases h using Denotes.pieceCases with
      | single t a h =>
          rw [(List.cons.inj hts).1]
          rintro (rfl | ⟨tag, rfl⟩) <;> simp [pieceOf] at h
      | tagged s tag => simp [(List.cons.inj hts).1]
      | withDatatype s datatype => simp [(List.cons.inj hts).1]

theorem ReadsAll.unsuffixed {ps more : List Placed} {ns : List Node} (h : ReadsAll ps ns)
    (hmore : Unsuffixed more) : Unsuffixed (ps ++ more) := by
  cases h with
  | nil => exact hmore
  | cons h hs =>
      rw [List.append_assoc]
      exact h.unsuffixed _

/-! ### Pieces -/

theorem pieces_cons {p : Placed} {ps : List Placed} (h : Unsuffixed ps) :
    pieces (p :: ps) = (pieceOf p.token, p.offset) :: pieces ps := by
  obtain ⟨t, pos⟩ := p
  cases ps with
  | nil => cases t <;> rfl
  | cons q ps =>
      obtain ⟨u, pos'⟩ := q
      have hu : ¬ IsSuffix u := h ⟨u, pos'⟩ (by simp)
      cases t <;> cases u <;> first | rfl | exact absurd (.inl rfl) hu | exact absurd (.inr ⟨_, rfl⟩) hu

theorem pieces_opening (b : Bracket) (pos : Nat) (ps : List Placed) :
    pieces (⟨b.opening, pos⟩ :: ps) = (.opening b, pos) :: pieces ps := by
  cases b <;> rfl

theorem pieces_closing (b : Bracket) (pos : Nat) (ps : List Placed) :
    pieces (⟨b.closing, pos⟩ :: ps) = (.closing b, pos) :: pieces ps := by
  cases b <;> rfl

theorem pieces_of_denotes {p : Placed} {ps more : List Placed} {a : Atom}
    (h : Denotes ((p :: ps).map Placed.token) a) (hmore : Unsuffixed more) :
    pieces (p :: (ps ++ more)) = (.atom a, p.offset) :: pieces more := by
  generalize hts : (p :: ps).map Placed.token = ts at h
  obtain ⟨t, pos⟩ := p
  cases h using Denotes.pieceCases with
  | single u a h =>
      cases ps with
      | nil =>
          obtain rfl : t = u := by simpa using hts
          rw [List.nil_append, pieces_cons hmore]
          simp [h]
      | cons q ps => simp at hts
  | tagged s tag =>
      simp only [List.map_cons, List.cons.injEq, List.map_eq_cons_iff, List.map_eq_nil_iff] at hts
      obtain ⟨rfl, ⟨u, pos'⟩, ps, rfl, rfl, rfl⟩ := hts
      simp [pieces, Literal.tagged]
  | withDatatype s datatype =>
      simp only [List.map_cons, List.cons.injEq, List.map_eq_cons_iff, List.map_eq_nil_iff] at hts
      obtain ⟨rfl, ⟨u, pos'⟩, ps, rfl, rfl, ⟨v, pos''⟩, ps', rfl, rfl, rfl⟩ := hts
      simp [pieces]

end Sexp

end GraphAlgebra
