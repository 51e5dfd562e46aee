import GraphAlgebra.Proofs.Sexp.Reading
import GraphAlgebra.Proofs.Sexp.Writable
/-!
# The texts of the tokens that are scanned

A token that is scanned has a text of the characters that the notation allows for its kind
(`Token.wellFormed_of_tokens`), and so the atoms of a form that is read can be written
(`Reads.each_writable`).
-/

namespace GraphAlgebra

open Sexp

namespace Token

/-- The text of the token has the characters that the notation allows for its kind. -/
def WellFormed : Token → Prop
  | .variable name => Var.Writable ⟨name⟩
  | .iri text => Iri.Writable ⟨text⟩
  | .blank label => IsLabel label
  | .language tag => IsLanguageTag (lowerAscii tag)
  | .word name => isWordText name.toList = true
  | _ => True

theorem take_spanLength (p : Char → Bool) (cs : List Char) :
    cs.take (spanLength p cs) = cs.takeWhile p := by
  have hprefix : cs.takeWhile p <+: cs := List.takeWhile_prefix p
  exact (List.prefix_iff_eq_take.1 hprefix).symm

theorem of_mem_take_spanLength {p : Char → Bool} {cs : List Char} {c : Char}
    (h : c ∈ cs.take (spanLength p cs)) : p c = true := by
  rw [take_spanLength] at h
  exact List.all_eq_true.1 List.all_takeWhile c h

theorem take_spanLength_ne_nil {p : Char → Bool} {cs : List Char} (h : spanLength p cs ≠ 0) :
    cs.take (spanLength p cs) ≠ [] := by
  rw [take_spanLength]
  exact fun hnil => h (by rw [spanLength, hnil, List.length_nil])

theorem of_span?_eq_some {make : String → Token} {p : Char → Bool} {cs : List Char} {t : Token}
    {n : Nat} (h : span? make p cs = some (t, n)) :
    ∃ name : String, t = make name ∧ name.toList ≠ [] ∧ ∀ c ∈ name.toList, p c = true := by
  unfold span? at h
  dsimp only at h
  split at h
  next => cases h
  next hn =>
    obtain ⟨rfl, rfl⟩ := Prod.mk.inj (Option.some.inj h)
    refine ⟨_, rfl, ?_, ?_⟩
    · rw [String.toList_ofList]
      exact take_spanLength_ne_nil hn
    · rw [String.toList_ofList]
      exact fun c hc => of_mem_take_spanLength hc

theorem wellFormed_of_angle? {cs : List Char} {t : Token} {n : Nat} (h : angle? cs = some (t, n)) :
    t.WellFormed := by
  unfold angle? at h
  dsimp only at h
  split at h
  · obtain ⟨rfl, -⟩ := Prod.mk.inj (Option.some.inj h)
    intro c hc
    rw [String.toList_ofList] at hc
    exact of_mem_take_spanLength hc
  · split at h
    · obtain ⟨rfl, -⟩ := Prod.mk.inj (Option.some.inj h)
      exact trivial
    · split at h
      · obtain ⟨rfl, -⟩ := Prod.mk.inj (Option.some.inj h)
        exact trivial
      · cases h

/-! ### Language tags -/

theorem take_subtagsLength (fuel : Nat) (cs : List Char) :
    ∃ subtags : List (List Char), cs.take (subtagsLength fuel cs) = tagChars [] subtags ∧
      ∀ t ∈ subtags, t ≠ [] ∧ ∀ c ∈ t, c.isAlphanum = true := by
  induction fuel generalizing cs with
  | zero => exact ⟨[], by simp [subtagsLength, tagChars], by simp⟩
  | succ fuel ih =>
      unfold subtagsLength
      split
      next r =>
        dsimp only
        split
        next => exact ⟨[], by simp [tagChars], by simp⟩
        next hn =>
          obtain ⟨subtags, htake, hsub⟩ := ih (r.drop (spanLength Char.isAlphanum r))
          refine ⟨r.take (spanLength Char.isAlphanum r) :: subtags, ?_, ?_⟩
          · have hlength : spanLength Char.isAlphanum r + 1 + subtagsLength fuel
                (r.drop (spanLength Char.isAlphanum r)) = spanLength Char.isAlphanum r +
                subtagsLength fuel (r.drop (spanLength Char.isAlphanum r)) + 1 := by omega
            rw [hlength, List.take_succ_cons, List.take_add, htake]
            simp [tagChars]
          · rw [List.forall_mem_cons]
            exact ⟨⟨take_spanLength_ne_nil hn, fun c hc => of_mem_take_spanLength hc⟩, hsub⟩
      next => exact ⟨[], by simp [tagChars], by simp⟩

theorem wellFormed_of_language? {cs : List Char} {t : Token} {n : Nat}
    (h : language? cs = some (t, n)) : t.WellFormed := by
  unfold language? at h
  dsimp only at h
  split at h
  next => cases h
  next hn =>
    obtain ⟨rfl, -⟩ := Prod.mk.inj (Option.some.inj h)
    obtain ⟨subtags, htake, hsub⟩ :=
      take_subtagsLength cs.length (cs.drop (spanLength Char.isAlpha cs))
    refine ⟨(cs.take (spanLength Char.isAlpha cs)).map Char.toLower,
      subtags.map (·.map Char.toLower), ?_, ?_, ?_, ?_⟩
    · rw [List.take_add, htake]
      simp [lowerAscii, tagChars, List.map_flatMap, List.flatMap_map]
    · simpa using take_spanLength_ne_nil hn
    · intro c hc
      obtain ⟨d, hd, rfl⟩ := List.mem_map.1 hc
      exact isLower_toLower (of_mem_take_spanLength hd)
    · intro t ht
      obtain ⟨u, hu, rfl⟩ := List.mem_map.1 ht
      refine ⟨by simpa using (hsub u hu).1, fun c hc => ?_⟩
      obtain ⟨d, hd, rfl⟩ := List.mem_map.1 hc
      rcases isAlphanum_iff.1 ((hsub u hu).2 d hd) with halpha | hdigit
      · exact .inl (isLower_toLower halpha)
      · exact .inr (by rw [toLower_of_isDigit hdigit, hdigit])

/-! ### All tokens -/

theorem wellFormed_of_scanNumber {cs : List Char} {t : Token} {n : Nat}
    (h : scanNumber cs = .number t n) : t.WellFormed := by
  unfold scanNumber at h
  dsimp only at h
  generalize (if cs.head? = some '+' ∨ cs.head? = some '-' then 1 else 0) = sign at h
  split at h
  · split at h
    · cases h
    split at h
    · obtain ⟨rfl, -⟩ := Scan.number.inj h
      exact trivial
    split at h
    · obtain ⟨rfl, -⟩ := Scan.number.inj h
      exact trivial
    · cases h
  · split at h
    · cases h
    split at h
    · obtain ⟨rfl, -⟩ := Scan.number.inj h
      exact trivial
    split at h
    · obtain ⟨rfl, -⟩ := Scan.number.inj h
      exact trivial
    · cases h

theorem wellFormed_of_number? {c : Char} {alone : Option Symbol} {cs : List Char} {t : Token}
    {n : Nat} (h : number? c alone cs = some (t, n)) : t.WellFormed := by
  unfold number? at h
  split at h
  next hscan =>
    obtain ⟨rfl, -⟩ := Prod.mk.inj (Option.some.inj h)
    exact wellFormed_of_scanNumber hscan
  next => cases h
  next =>
    obtain ⟨s, -, hs⟩ := Option.map_eq_some_iff.1 h
    obtain ⟨rfl, -⟩ := Prod.mk.inj hs
    exact trivial

theorem wellFormed_of_pair? {second : Char} {both : Token} {alone : Option Token}
    {cs : List Char} {t : Token} {n : Nat} (hboth : both.WellFormed)
    (halone : ∀ u ∈ alone, u.WellFormed) (h : pair? second both alone cs = some (t, n)) :
    t.WellFormed := by
  unfold pair? at h
  split at h
  · obtain ⟨rfl, -⟩ := Prod.mk.inj (Option.some.inj h)
    exact hboth
  · obtain ⟨u, hu, heq⟩ := Option.map_eq_some_iff.1 h
    obtain ⟨rfl, -⟩ := Prod.mk.inj heq
    exact halone u hu

theorem wellFormed_of_string? {cs : List Char} {t : Token} {n : Nat}
    (h : string? cs = some (t, n)) : t.WellFormed := by
  simp only [string?, Option.bind_eq_bind, Option.bind_eq_some_iff, Option.some.injEq] at h
  obtain ⟨_, _, _, _, heq⟩ := h
  obtain ⟨rfl, -⟩ := Prod.mk.inj heq
  exact trivial

theorem wellFormed_of_scan? {c : Char} {cs : List Char} {t : Token} {n : Nat}
    (h : scan? c cs = some (t, n)) : t.WellFormed := by
  unfold scan? at h
  split at h
  case h_8 | h_9 | h_10 => exact wellFormed_of_pair? (by exact trivial) (by simp) h
  case h_11 | h_12 => exact wellFormed_of_pair? (by exact trivial) (by simp [WellFormed]) h
  case h_13 => exact wellFormed_of_angle? h
  case h_14 =>
    obtain ⟨name, rfl, hne, hname⟩ := of_span?_eq_some h
    exact ⟨hne, hname⟩
  case h_15 => exact wellFormed_of_string? h
  case h_16 => exact wellFormed_of_language? h
  case h_17 =>
    split at h
    · split at h
      next hspan =>
        obtain ⟨rfl, -⟩ := Prod.mk.inj (Option.some.inj h)
        obtain ⟨label, rfl, hne, hlabel⟩ := of_span?_eq_some hspan
        exact ⟨hne, hlabel⟩
      next =>
        obtain ⟨rfl, -⟩ := Prod.mk.inj (Option.some.inj h)
        exact trivial
    · obtain ⟨rfl, -⟩ := Prod.mk.inj (Option.some.inj h)
      exact trivial
  case h_18 | h_19 | h_20 => exact wellFormed_of_number? h
  case h_21 =>
    split at h
    · exact wellFormed_of_number? h
    split at h
    next halpha =>
      obtain ⟨rfl, -⟩ := Prod.mk.inj (Option.some.inj h)
      have hword : ∀ d ∈ cs.take (spanLength isWordChar cs), isWordChar d = true :=
        fun d hd => of_mem_take_spanLength hd
      simpa [WellFormed, isWordText, halpha] using hword
    next => cases h
  all_goals
    obtain ⟨rfl, -⟩ := Prod.mk.inj (Option.some.inj h)
    exact trivial

theorem wellFormed_of_tokensFrom {offset : Nat} {cs : List Char} {ps : List Placed}
    (h : tokensFrom offset cs = .ok ps) : ∀ p ∈ ps, p.token.WellFormed := by
  induction hn : cs.length using Nat.strongRecOn generalizing offset cs ps with
  | ind n ih =>
      cases cs with
      | nil =>
          rw [tokensFrom, Except.ok.injEq] at h
          simp [← h]
      | cons c cs =>
          have hdrop : ∀ m, (cs.drop m).length < n := fun m => by
            simp only [List.length_cons, List.length_drop] at hn ⊢
            omega
          rw [tokensFrom] at h
          split at h
          · exact ih cs.length (by simp [← hn]) h rfl
          split at h
          · exact ih _ (hdrop _) h rfl
          split at h
          · cases h
          next t m hscan =>
            simp only [bind, Except.bind] at h
            split at h
            · cases h
            next ts hts =>
              obtain rfl := Except.ok.inj h
              rw [List.forall_mem_cons]
              exact ⟨wellFormed_of_scan? hscan, ih _ (hdrop m) hts rfl⟩

theorem wellFormed_of_tokens {text : String} {ps : List Placed} (h : tokens text = .ok ps) :
    ∀ p ∈ ps, p.token.WellFormed := wellFormed_of_tokensFrom h

end Token

namespace Sexp

/-! ### Atoms -/

/-- What well-formed tokens stand for can be written. -/
theorem Denotes.writable {ts : List Token} {a : Atom} (h : Denotes ts a)
    (hts : ∀ t ∈ ts, t.WellFormed) : a.Writable := by
  cases h using Denotes.pieceCases with
  | single t a h =>
      have ht := hts t (by simp)
      match t, h, ht with
      | .symbol s, h, _ =>
          obtain rfl := Piece.atom.inj h
          exact trivial
      | .variable name, h, ht =>
          obtain rfl := Piece.atom.inj h
          rw [Var.ofText_of_writable ht]
          exact ht
      | .iri text, h, ht | .blank label, h, ht =>
          obtain rfl := Piece.atom.inj h
          exact ht
      | .string text, h, _ =>
          obtain rfl := Piece.atom.inj h
          exact .inl ⟨rfl, by simp [Literal.simple]⟩
      | .integer n, h, _ =>
          obtain rfl := Piece.atom.inj h
          exact Term.writable_typed _ Iri.writable_integer
      | .decimal text, h, _ =>
          obtain rfl := Piece.atom.inj h
          exact Term.writable_typed _ Iri.writable_decimal
      | .double text, h, _ =>
          obtain rfl := Piece.atom.inj h
          exact Term.writable_typed _ Iri.writable_double
      | .word name, h, ht =>
          rw [pieceOf] at h
          split at h
          · obtain rfl := Piece.atom.inj h
            exact Term.writable_typed _ Iri.writable_boolean
          split at h
          · obtain rfl := Piece.atom.inj h
            exact Term.writable_typed _ Iri.writable_boolean
          next htrue hfalse =>
            obtain rfl := Piece.atom.inj h
            exact isWord_iff.2 ⟨ht, htrue, hfalse⟩
  | tagged s tag =>
      refine .inr ⟨rfl, fun tag' htag => ?_⟩
      obtain rfl := Option.some.inj htag
      exact hts (.language tag) (by simp)
  | withDatatype s datatype => exact Term.writable_typed s (hts (.iri datatype) (by simp))

namespace Node

mutual

def Each (p : Atom → Prop) : Node → Prop
  | .atom a _ => p a
  | .list items _ => EachAll p items
  | .bracket items _ => EachAll p items

def EachAll (p : Atom → Prop) : List Node → Prop
  | [] => True
  | n :: ns => n.Each p ∧ EachAll p ns

end

theorem eachAll_iff {p : Atom → Prop} {ns : List Node} : EachAll p ns ↔ ∀ n ∈ ns, n.Each p := by
  induction ns with
  | nil => simp [EachAll]
  | cons n ns ih => simp [EachAll, ih]

theorem each_node {p : Atom → Prop} {b : Bracket} {ns : List Node} {pos : Nat} :
    (b.node ns pos).Each p ↔ EachAll p ns := by
  cases b <;> rfl

end Node

mutual

theorem Reads.each_writable {ps : List Placed} {n : Node} (h : Reads ps n)
    (hps : ∀ p ∈ ps, p.token.WellFormed) : n.Each Atom.Writable := by
  match ps, n, h with
  | _, _, .atom h => exact h.writable (by simpa using hps)
  | _, _, .node b pos close h =>
      rw [Node.each_node]
      exact h.each_writable fun p hp => hps p (by simp [hp])

theorem ReadsAll.each_writable {ps : List Placed} {ns : List Node} (h : ReadsAll ps ns)
    (hps : ∀ p ∈ ps, p.token.WellFormed) : Node.EachAll Atom.Writable ns := by
  match ps, ns, h with
  | _, _, .nil => exact trivial
  | _, _, .cons h hs =>
      exact ⟨h.each_writable fun p hp => hps p (by simp [hp]),
        hs.each_writable fun p hp => hps p (by simp [hp])⟩

end

theorem Node.each_writable_of_ofText? {text : String} {n : Node}
    (h : Node.ofText? text = .ok n) : n.Each Atom.Writable := by
  obtain ⟨ps, hps, hn, -⟩ := Node.ofText?_eq_ok_iff.1 h
  exact hn.each_writable (Token.wellFormed_of_tokens hps)

end Sexp

end GraphAlgebra
