import GraphAlgebra.Proofs.NQuads.Writing
import GraphAlgebra.Proofs.Sexp.Quoted
import GraphAlgebra.Proofs.Text.Hexadecimal
/-!
# Escapes in quoted texts

The grammar of escapes (`Escapes.Stands`) and of what stands between quotation marks
(`Escapes.Spells`), and the two readers of quoted texts against it. A code of a character has four or
eight digits, but the readers are lenient: both take a plus sign for the first digit, and that of the
algebra takes fewer digits at the end of a text. `readsQuoted` says that this is all they let pass,
and that they keep to the exact grammar where a text that they read has no such lapse.
-/

namespace GraphAlgebra

/-- What a language can write with a backslash: characters with a letter of their own, and
characters by their number, where a letter says how many digits there are. -/
structure Escapes where
  letters : List (Char × Char)
  codes : List (Char × Nat)
  apart : ∀ p ∈ letters, ∀ q ∈ codes, p.1 ≠ q.1
  width : ∀ p ∈ codes, ∀ q ∈ codes, p.1 = q.1 → p.2 = q.2

/-- What is let pass in the code of a character. -/
structure CodeRule where
  /-- a plus sign before the digits, counted as one of them -/
  signed : Bool
  /-- too few digits, where the text ends behind them -/
  short : Bool

namespace CodeRule

def exact : CodeRule := ⟨false, false⟩

/-- Some characters, behind which `rest` follows, are the code of `x` with `k` digits. -/
structure Allows (r : CodeRule) (k : Nat) (ds rest : List Char) (x : Char) : Prop where
  length : ds.length = k ∨ r.short = true ∧ ds.length < k ∧ rest = []
  number : SpellsNumber ds x.toNat ∨
    r.signed = true ∧ ∃ ds', ds = '+' :: ds' ∧ SpellsNumber ds' x.toNat

end CodeRule

namespace Escapes

def algebra : Escapes where
  letters := [('t', '\t'), ('n', '\n'), ('r', '\r'), ('"', '"'), ('\'', '\''), ('\\', '\\')]
  codes := [('u', 4)]
  apart := by decide
  width := by decide

def nquads : Escapes where
  letters := algebra.letters ++ [('b', '\x08'), ('f', '\x0c')]
  codes := [('u', 4), ('U', 8)]
  apart := by decide
  width := by decide

variable {E : Escapes} {r : CodeRule}

/-- What follows a backslash stands for a character and leaves a rest. -/
inductive Stands (E : Escapes) (r : CodeRule) : List Char → Char → List Char → Prop
  | letter {e x : Char} (h : (e, x) ∈ E.letters) (rest : List Char) : Stands E r (e :: rest) x rest
  | code {e x : Char} {k : Nat} {ds rest : List Char} (h : (e, k) ∈ E.codes)
      (hx : r.Allows k ds rest x) : Stands E r (e :: (ds ++ rest)) x rest

theorem Stands.exists_cons {cs rest : List Char} {x : Char} (h : E.Stands r cs x rest) :
    ∃ e es, cs = e :: es := by
  cases h <;> exact ⟨_, _, rfl⟩

/-- The characters between quotation marks spell a text. -/
inductive Spells (E : Escapes) (r : CodeRule) : List Char → List Char → Prop
  | nil : Spells E r [] []
  | char {c : Char} {body text : List Char} (hquote : c ≠ '"') (hback : c ≠ '\\')
      (h : Spells E r body text) : Spells E r (c :: body) (c :: text)
  | escape {cs body text : List Char} {x : Char} (hx : E.Stands r cs x body)
      (h : Spells E r body text) : Spells E r ('\\' :: cs) (x :: text)

/-- A text begins with characters that spell `text`, a quotation mark behind them, and `rest`. -/
def Quoted (E : Escapes) (r : CodeRule) (cs body text rest : List Char) : Prop :=
  cs = body ++ '"' :: rest ∧ E.Spells r body text

/-- Behind characters and exact escapes there is the code of a character that has a sign or breaks
off with the text. -/
inductive Lapses (E : Escapes) : List Char → Prop
  | sign {e : Char} {k : Nat} (h : (e, k) ∈ E.codes) (body : List Char) :
      Lapses E ('\\' :: e :: '+' :: body)
  | short {e : Char} {k : Nat} {body : List Char} (h : (e, k) ∈ E.codes) (hlt : body.length < k) :
      Lapses E ('\\' :: e :: body)
  | char {c : Char} {body : List Char} (hback : c ≠ '\\') (h : Lapses E body) : Lapses E (c :: body)
  | escape {cs body : List Char} {x : Char} (hx : E.Stands .exact cs x body) (h : Lapses E body) :
      Lapses E ('\\' :: cs)

end Escapes

open Escapes

/-! ### Codes -/

theorem CodeRule.allows_exact_iff {k : Nat} {ds rest : List Char} {x : Char} :
    CodeRule.exact.Allows k ds rest x ↔ ds.length = k ∧ SpellsNumber ds x.toNat := by
  constructor
  · intro h
    exact ⟨h.length.resolve_right (nomatch ·.1), h.number.resolve_right (nomatch ·.1)⟩
  · exact fun h => ⟨.inl h.1, .inl h.2⟩

theorem CodeRule.Allows.ne {r : CodeRule} {k : Nat} {ds rest : List Char} {x : Char}
    (h : r.Allows k ds rest x) : ∀ c ∈ ds, c ≠ '"' ∧ c ≠ '\\' := by
  have hdigit {c : Char} {d : Nat} (hc : HexDigit c d) : c ≠ '"' ∧ c ≠ '\\' := by
    have hvalue := hexDigitValue?_eq_some_iff.2 hc
    constructor <;> rintro rfl <;> simp [hexDigitValue?] at hvalue
  have hdigits {ds : List Char} {n : Nat} (hds : SpellsNumber ds n) :
      ∀ c ∈ ds, c ≠ '"' ∧ c ≠ '\\' := by
    obtain ⟨-, vs, hvs, -⟩ := hds
    exact ((List.forall₂_and_left _ _).1 (hvs.imp fun c d hc => ⟨hdigit hc, hc⟩)).1
  obtain hds | ⟨-, ds', rfl, hds⟩ := h.number
  · exact hdigits hds
  · exact List.forall_mem_cons.2 ⟨by decide, hdigits hds⟩

/-- A code is the next characters, as many as it should have. -/
theorem CodeRule.Allows.take_drop {r : CodeRule} {k : Nat} {ds rest : List Char} {x : Char}
    (h : r.Allows k ds rest x) : (ds ++ rest).take k = ds ∧ (ds ++ rest).drop k = rest := by
  obtain rfl | ⟨-, hlt, rfl⟩ := h.length
  · exact ⟨List.take_left, List.drop_left⟩
  · rw [List.append_nil]
    exact ⟨List.take_of_length_le hlt.le, List.drop_of_length_le hlt.le⟩

/-- The number of a code with a sign or without one is what is read. -/
theorem codePoint?_of_allows {r : CodeRule} {k : Nat} {ds rest : List Char} {x : Char}
    (h : r.Allows k ds rest x) : codePoint? ds = some x := by
  obtain hds | ⟨-, hds⟩ := h.number
  · exact codePoint?_eq_some_iff.2 (.inl hds)
  · exact codePoint?_eq_some_iff.2 (.inr hds)

theorem CodeRule.number_of_codePoint? {r : CodeRule} (hr : r.signed = true) {ds : List Char}
    {x : Char} (h : codePoint? ds = some x) :
    SpellsNumber ds x.toNat ∨
      r.signed = true ∧ ∃ ds', ds = '+' :: ds' ∧ SpellsNumber ds' x.toNat := by
  obtain h | h := codePoint?_eq_some_iff.1 h
  · exact .inl h
  · exact .inr ⟨hr, h⟩

/-! ### Quoted texts of the algebra -/

namespace Token

/-- Codes of the algebra may have a sign, and may break off with the text. -/
def codeRule : CodeRule := ⟨true, true⟩

theorem escape?_eq_some_iff {e x : Char} {cs rest : List Char} :
    (∃ n, escape? e cs = some (x, n) ∧ cs.drop n = rest) ↔
      algebra.Stands codeRule (e :: cs) x rest := by
  constructor
  · rintro ⟨n, h, rfl⟩
    unfold escape? at h
    split at h
    case h_7 =>
      obtain ⟨x, hx, heq⟩ := Option.map_eq_some_iff.1 h
      obtain ⟨rfl, rfl⟩ := Prod.mk.inj heq
      have hlength : (cs.take 4).length = 4 ∨
          codeRule.short = true ∧ (cs.take 4).length < 4 ∧ cs.drop 4 = [] := by
        rw [List.length_take, List.drop_eq_nil_iff]
        simp only [codeRule, true_and]
        omega
      have hcode : algebra.Stands codeRule ('u' :: (cs.take 4 ++ cs.drop 4)) x (cs.drop 4) :=
        .code (by decide) ⟨hlength, CodeRule.number_of_codePoint? rfl hx⟩
      rwa [List.take_append_drop] at hcode
    case h_8 => cases h
    all_goals
      obtain ⟨rfl, rfl⟩ := Prod.mk.inj (Option.some.inj h)
      exact .letter (by decide) cs
  · rintro (⟨h, rest⟩ | ⟨h, hx⟩)
    · simp only [algebra, List.mem_cons, Prod.mk.injEq, List.not_mem_nil, or_false] at h
      rcases h with ⟨rfl, rfl⟩ | ⟨rfl, rfl⟩ | ⟨rfl, rfl⟩ | ⟨rfl, rfl⟩ | ⟨rfl, rfl⟩ | ⟨rfl, rfl⟩
      all_goals exact ⟨0, rfl, rfl⟩
    · obtain ⟨rfl, rfl⟩ := Prod.mk.inj (List.mem_singleton.1 h)
      obtain ⟨htake, hdrop⟩ := hx.take_drop
      refine ⟨4, ?_, hdrop⟩
      simp [escape?, htake, codePoint?_of_allows hx]

/-- Characters that can stand between quotation marks: no mark ends them, and no backslash is
without a character of its own, which is not a line feed. -/
inductive IsBody : List Char → Prop
  | nil : IsBody []
  | char {c : Char} {cs : List Char} (hquote : c ≠ '"') (hback : c ≠ '\\') (h : IsBody cs) :
      IsBody (c :: cs)
  | pair {e : Char} {cs : List Char} (he : e ≠ '\n') (h : IsBody cs) : IsBody ('\\' :: e :: cs)

theorem isBody_cons_iff {c : Char} {cs : List Char} (hquote : c ≠ '"') (hback : c ≠ '\\') :
    IsBody (c :: cs) ↔ IsBody cs := by
  refine ⟨fun h => ?_, .char hquote hback⟩
  cases h with
  | char _ _ h => exact h
  | pair _ _ => exact absurd rfl hback

theorem isBody_append_iff {ds body : List Char} (h : ∀ c ∈ ds, c ≠ '"' ∧ c ≠ '\\') :
    IsBody (ds ++ body) ↔ IsBody body := by
  induction ds with
  | nil => exact Iff.rfl
  | cons c ds ih =>
      obtain ⟨⟨hquote, hback⟩, hds⟩ := List.forall_mem_cons.1 h
      rw [List.cons_append, isBody_cons_iff hquote hback, ih hds]

theorem isBody_pair_iff {e : Char} {cs : List Char} (he : e ≠ '\n') :
    IsBody ('\\' :: e :: cs) ↔ IsBody cs := by
  refine ⟨fun h => ?_, .pair he⟩
  cases h with
  | char _ hback _ => exact absurd rfl hback
  | pair _ h => exact h

theorem isBody_escape_iff {cs rest : List Char} {x : Char}
    (h : algebra.Stands codeRule cs x rest) : IsBody ('\\' :: cs) ↔ IsBody rest := by
  have hletters : ∀ p ∈ algebra.letters, p.1 ≠ '\n' := by decide
  have hcodes : ∀ p ∈ algebra.codes, p.1 ≠ '\n' := by decide
  cases h with
  | letter h => exact isBody_pair_iff (hletters _ h)
  | code h hx => exact (isBody_pair_iff (hcodes _ h)).trans (isBody_append_iff hx.ne)

theorem bodyLength?_of_isBody {body : List Char} (h : IsBody body) (rest : List Char) :
    bodyLength? (body ++ '"' :: rest) = some body.length := by
  induction h with
  | nil => exact bodyLength?_quote rest
  | char hquote hback _ ih => simp [bodyLength?_cons_of_ne hquote hback, ih]
  | pair he _ ih => simp [bodyLength?_escape he, ih]

theorem isBody_of_bodyLength? {cs : List Char} {n : Nat} (h : bodyLength? cs = some n) :
    ∃ body rest, cs = body ++ '"' :: rest ∧ IsBody body ∧ n = body.length := by
  fun_induction bodyLength? cs generalizing n with
  | case1 => cases h
  | case2 cs =>
      obtain rfl := Option.some.inj h
      exact ⟨[], cs, rfl, .nil, rfl⟩
  | case3 => cases h
  | case4 => cases h
  | case5 e cs he _ ih =>
      obtain ⟨m, hm, rfl⟩ := Option.map_eq_some_iff.1 h
      obtain ⟨body, rest, rfl, hbody, rfl⟩ := ih hm
      exact ⟨'\\' :: e :: body, rest, rfl, .pair he hbody, rfl⟩
  | case6 c cs hquote hback ih =>
      obtain ⟨m, hm, rfl⟩ := Option.map_eq_some_iff.1 h
      obtain ⟨body, rest, rfl, hbody, rfl⟩ := ih hm
      exact ⟨c :: body, rest, rfl, .char hquote hback hbody, rfl⟩

theorem spells_of_resolve? {body text : List Char} (hbody : IsBody body)
    (h : resolve? body = some text) : algebra.Spells codeRule body text := by
  fun_induction resolve? body generalizing text with
  | case1 =>
      obtain rfl := Option.some.inj h
      exact .nil
  | case2 => cases h
  | case3 e cs ih =>
      obtain ⟨⟨x, n⟩, he, h⟩ := Option.bind_eq_some_iff.1 h
      obtain ⟨text, htext, rfl⟩ := Option.map_eq_some_iff.1 h
      have hx := escape?_eq_some_iff.1 ⟨n, he, rfl⟩
      exact .escape hx (ih n ((isBody_escape_iff hx).1 hbody) htext)
  | case4 c cs hback ih =>
      obtain ⟨text, htext, rfl⟩ := Option.map_eq_some_iff.1 h
      obtain _ | ⟨hquote, -, hbody⟩ := hbody
      · exact .char hquote hback (ih hbody htext)
      · exact absurd rfl hback

theorem isBody_of_spells {body text : List Char} (h : algebra.Spells codeRule body text) :
    IsBody body := by
  induction h with
  | nil => exact .nil
  | char hquote hback _ ih => exact .char hquote hback ih
  | escape hx _ ih => exact (isBody_escape_iff hx).2 ih

theorem resolve?_of_spells {body text : List Char} (h : algebra.Spells codeRule body text) :
    resolve? body = some text := by
  induction h with
  | nil => simp [resolve?]
  | char _ hback _ ih => simp [resolve?_cons_of_ne hback, ih]
  | @escape cs body text x hx _ ih =>
      obtain ⟨e, cs, rfl⟩ := hx.exists_cons
      obtain ⟨n, he, hrest⟩ := escape?_eq_some_iff.2 hx
      rw [resolve?_escape he, hrest, ih, Option.map_some]

theorem string?_eq_some_iff {cs : List Char} {t : Token} {n : Nat} :
    string? cs = some (t, n) ↔
      ∃ body text rest, algebra.Quoted codeRule cs body text rest ∧
        t = .string (String.ofList text) ∧ n = body.length + 1 := by
  constructor
  · intro h
    obtain ⟨m, hm, h⟩ := Option.bind_eq_some_iff.1 h
    obtain ⟨text, htext, h⟩ := Option.bind_eq_some_iff.1 h
    obtain ⟨rfl, rfl⟩ := Prod.mk.inj (Option.some.inj h)
    obtain ⟨body, rest, rfl, hbody, rfl⟩ := isBody_of_bodyLength? hm
    rw [List.take_left] at htext
    exact ⟨body, text, rest, ⟨rfl, spells_of_resolve? hbody htext⟩, rfl, rfl⟩
  · rintro ⟨body, text, rest, ⟨rfl, h⟩, rfl, rfl⟩
    simp [string?, bodyLength?_of_isBody (isBody_of_spells h), resolve?_of_spells h]

end Token

/-! ### Quoted texts of statements -/

namespace NQuads

/-- Codes of statements may have a sign. -/
def codeRule : CodeRule := ⟨true, false⟩

theorem length_of_allows {k : Nat} {ds rest : List Char} {x : Char}
    (h : codeRule.Allows k ds rest x) : ds.length = k :=
  h.length.resolve_right fun hshort => nomatch hshort.1

theorem readCode_eq_ok_iff {k n : Nat} {cs : List Char} {x : Char} :
    readCode k cs = .ok (x, n) ↔ k ≤ cs.length ∧ codePoint? (cs.take k) = some x ∧ n = k := by
  unfold readCode
  split_ifs with hshort
  · simp [hshort]
  · split <;> simp_all [eq_comm]

theorem stands_of_readCode {e x : Char} {k n : Nat} {cs : List Char} (he : (e, k) ∈ nquads.codes)
    (h : readCode k cs = .ok (x, n)) : nquads.Stands codeRule (e :: cs) x (cs.drop n) := by
  obtain ⟨hlength, hx, rfl⟩ := readCode_eq_ok_iff.1 h
  have hcode : nquads.Stands codeRule (e :: (cs.take n ++ cs.drop n)) x (cs.drop n) :=
    .code he ⟨.inl (List.length_take_of_le hlength), CodeRule.number_of_codePoint? rfl hx⟩
  rwa [List.take_append_drop] at hcode

theorem readCode_of_allows {k : Nat} {ds rest : List Char} {x : Char}
    (h : codeRule.Allows k ds rest x) : readCode k (ds ++ rest) = .ok (x, k) := by
  obtain ⟨htake, -⟩ := h.take_drop
  rw [readCode_eq_ok_iff, htake]
  exact ⟨by simp [length_of_allows h], codePoint?_of_allows h, rfl⟩

theorem readEscape_eq_ok_iff {e x : Char} {cs rest : List Char} :
    (∃ n, readEscape e cs = .ok (x, n) ∧ cs.drop n = rest) ↔
      nquads.Stands codeRule (e :: cs) x rest := by
  constructor
  · rintro ⟨n, h, rfl⟩
    unfold readEscape at h
    split at h
    case h_9 | h_10 => exact stands_of_readCode (by decide) h
    case h_11 => cases h
    all_goals
      obtain ⟨rfl, rfl⟩ := Prod.mk.inj (Except.ok.inj h)
      exact .letter (by decide) cs
  · rintro (⟨h, rest⟩ | ⟨h, hx⟩)
    · simp only [nquads, algebra, List.cons_append, List.nil_append, List.mem_cons,
        Prod.mk.injEq, List.not_mem_nil, or_false] at h
      rcases h with ⟨rfl, rfl⟩ | ⟨rfl, rfl⟩ | ⟨rfl, rfl⟩ | ⟨rfl, rfl⟩ | ⟨rfl, rfl⟩ | ⟨rfl, rfl⟩ |
        ⟨rfl, rfl⟩ | ⟨rfl, rfl⟩
      all_goals exact ⟨0, rfl, rfl⟩
    · simp only [nquads, List.mem_cons, Prod.mk.injEq, List.not_mem_nil, or_false] at h
      obtain ⟨rfl, rfl⟩ | ⟨rfl, rfl⟩ := h
      all_goals exact ⟨_, readCode_of_allows hx, hx.take_drop.2⟩

/-- Codes that may not break off do not depend on what follows them. -/
theorem stands_append {cs rest : List Char} {x : Char} (h : nquads.Stands codeRule cs x rest)
    (more : List Char) : nquads.Stands codeRule (cs ++ more) x (rest ++ more) := by
  cases h with
  | letter h => exact .letter h (rest ++ more)
  | @code e x k ds rest h hx =>
      have hcode : nquads.Stands codeRule (e :: (ds ++ (rest ++ more))) x (rest ++ more) :=
        .code h ⟨.inl (length_of_allows hx), hx.number⟩
      rwa [← List.append_assoc] at hcode

theorem exists_stands_of_append {cs rest more : List Char} {x : Char}
    (h : nquads.Stands codeRule cs x (rest ++ more)) :
    ∃ cs', cs = cs' ++ more ∧ nquads.Stands codeRule cs' x rest := by
  generalize hrest : rest ++ more = all at h
  cases h with
  | @letter e _ h =>
      subst hrest
      exact ⟨e :: rest, rfl, .letter h rest⟩
  | @code e x k ds _ h hx =>
      subst hrest
      exact ⟨e :: (ds ++ rest), by simp, .code h ⟨.inl (length_of_allows hx), hx.number⟩⟩

theorem quoted_of_readString {cs text rest : List Char} (h : readString cs = .ok (text, rest)) :
    ∃ body, nquads.Quoted codeRule cs body text rest := by
  fun_induction readString cs generalizing text rest with
  | case1 => cases h
  | case2 cs =>
      obtain ⟨rfl, rfl⟩ := Prod.mk.inj (Except.ok.inj h)
      exact ⟨[], rfl, .nil⟩
  | case3 => cases h
  | case4 e cs _ ih =>
      obtain ⟨⟨x, n⟩, he, h⟩ := bind_eq_ok_iff.1 h
      obtain ⟨⟨xs, _⟩, hxs, h⟩ := bind_eq_ok_iff.1 h
      obtain ⟨rfl, rfl⟩ := Prod.mk.inj (Except.ok.inj h)
      obtain ⟨body, hrest, hbody⟩ := ih n hxs
      obtain ⟨cs', hcs, hx⟩ := exists_stands_of_append (readEscape_eq_ok_iff.1 ⟨n, he, hrest⟩)
      exact ⟨'\\' :: cs', congrArg ('\\' :: ·) hcs, .escape hx hbody⟩
  | case5 c cs hquote hback ih =>
      obtain ⟨⟨xs, _⟩, hxs, h⟩ := bind_eq_ok_iff.1 h
      obtain ⟨rfl, rfl⟩ := Prod.mk.inj (Except.ok.inj h)
      obtain ⟨body, hcs, hbody⟩ := ih hxs
      exact ⟨c :: body, congrArg (c :: ·) hcs, .char hquote hback hbody⟩

theorem readString_of_spells {body text : List Char} (h : nquads.Spells codeRule body text)
    (rest : List Char) : readString (body ++ '"' :: rest) = .ok (text, rest) := by
  induction h with
  | nil => exact readString_quote rest
  | char hquote hback _ ih =>
      rw [List.cons_append, readString_cons_of_ne hquote hback, ih]
      rfl
  | @escape cs body text x hx _ ih =>
      obtain ⟨e, cs, rfl⟩ := hx.exists_cons
      have hmore : nquads.Stands codeRule (e :: (cs ++ '"' :: rest)) x (body ++ '"' :: rest) :=
        stands_append hx _
      obtain ⟨n, he, hrest⟩ := readEscape_eq_ok_iff.2 hmore
      rw [List.cons_append, List.cons_append, readString_escape he, hrest, ih]
      rfl

theorem readString_eq_ok_iff {cs text rest : List Char} :
    readString cs = .ok (text, rest) ↔ ∃ body, nquads.Quoted codeRule cs body text rest := by
  refine ⟨quoted_of_readString, ?_⟩
  rintro ⟨body, rfl, h⟩
  exact readString_of_spells h rest

end NQuads

/-! ### Exact codes -/

namespace Escapes

variable {E : Escapes} {r : CodeRule} {cs body text rest : List Char} {x : Char}

theorem Stands.of_exact (h : E.Stands .exact cs x rest) (r : CodeRule) : E.Stands r cs x rest := by
  cases h with
  | letter h => exact .letter h rest
  | code h hx =>
      obtain ⟨hlength, hnumber⟩ := CodeRule.allows_exact_iff.1 hx
      exact .code h ⟨.inl hlength, .inl hnumber⟩

theorem Spells.of_exact (h : E.Spells .exact body text) (r : CodeRule) : E.Spells r body text := by
  induction h with
  | nil => exact .nil
  | char hquote hback _ ih => exact .char hquote hback ih
  | escape hx _ ih => exact .escape (hx.of_exact r) ih

/-- An escape that a lenient rule lets pass is exact, or it is a lapse. -/
theorem Stands.exact_or_lapses (h : E.Stands r cs x rest) :
    E.Stands .exact cs x rest ∨ E.Lapses ('\\' :: cs) := by
  cases h with
  | letter h => exact .inl (.letter h rest)
  | code h hx =>
      obtain hlength | ⟨-, hlt, rfl⟩ := hx.length
      · obtain hnumber | ⟨-, ds, rfl, -⟩ := hx.number
        · exact .inl (.code h (CodeRule.allows_exact_iff.2 ⟨hlength, hnumber⟩))
        · exact .inr (.sign h _)
      · exact .inr (.short h (by rwa [List.append_nil]))

theorem Spells.exact_or_lapses (h : E.Spells r body text) :
    E.Spells .exact body text ∨ E.Lapses body := by
  induction h with
  | nil => exact .inl .nil
  | char hquote hback _ ih => exact ih.imp (.char hquote hback) (.char hback)
  | escape hx _ ih =>
      obtain hx | hlapse := hx.exact_or_lapses
      · exact ih.imp (.escape hx) (.escape hx)
      · exact .inr hlapse

theorem Spells.exists_stands (h : E.Spells .exact ('\\' :: cs) text) :
    ∃ x body text', E.Stands .exact cs x body ∧ E.Spells .exact body text' := by
  cases h with
  | char _ hback _ => exact absurd rfl hback
  | escape hx h => exact ⟨_, _, _, hx, h⟩

theorem Stands.exists_digits {e : Char} {k : Nat} (he : (e, k) ∈ E.codes)
    (h : E.Stands .exact (e :: cs) x rest) :
    ∃ ds, cs = ds ++ rest ∧ ds.length = k ∧ SpellsNumber ds x.toNat := by
  cases h with
  | letter h => exact absurd rfl (E.apart _ h _ he)
  | @code e x k' ds rest h hx =>
      obtain ⟨hlength, hnumber⟩ := CodeRule.allows_exact_iff.1 hx
      exact ⟨ds, rfl, hlength.trans (E.width _ h _ he rfl), hnumber⟩

theorem Stands.rest_eq {y : Char} {rest' : List Char} (h : E.Stands .exact cs x rest)
    (h' : E.Stands .exact cs y rest') : rest = rest' := by
  cases h with
  | letter h =>
      cases h' with
      | letter => rfl
      | code h' _ => exact absurd rfl (E.apart _ h _ h')
  | code h hx =>
      obtain ⟨ds', heq, hlength', -⟩ := h'.exists_digits h
      have hlength := (CodeRule.allows_exact_iff.1 hx).1
      exact (List.append_inj heq (hlength.trans hlength'.symm)).2

theorem Spells.not_lapses (h : E.Spells .exact body text) : ¬ E.Lapses body := by
  intro hlapse
  induction hlapse generalizing text with
  | sign he body =>
      obtain ⟨x, rest, _, hx, -⟩ := h.exists_stands
      obtain ⟨ds, hds, -, hnumber⟩ := hx.exists_digits he
      cases ds with
      | nil => exact hnumber.1 rfl
      | cons c ds =>
          obtain ⟨rfl, -⟩ := List.cons.inj hds
          exact not_spellsNumber_plus hnumber
  | short he hlt =>
      obtain ⟨x, rest, _, hx, -⟩ := h.exists_stands
      obtain ⟨ds, rfl, hlength, -⟩ := hx.exists_digits he
      rw [List.length_append] at hlt
      omega
  | char hback _ ih =>
      cases h with
      | char _ _ h => exact ih h
      | escape _ _ => exact hback rfl
  | escape hx _ ih =>
      obtain ⟨x, rest, _, hx', h⟩ := h.exists_stands
      exact ih (hx.rest_eq hx' ▸ h)

/-- What a lenient rule lets pass is exact if there is no lapse in it. -/
theorem Spells.exact_iff (h : E.Spells r body text) :
    E.Spells .exact body text ↔ ¬ E.Lapses body :=
  ⟨Spells.not_lapses, h.exact_or_lapses.resolve_right⟩

end Escapes

/-! ### Both readers -/

/-- At a quotation mark, before some characters, the algebra reads a string if its escapes spell one
by a rule for codes, and has a fault else. -/
structure Token.ReadsQuoted (r : CodeRule) (cs : List Char) : Prop where
  string (t : Token) (n : Nat) :
    Token.string? cs = some (t, n) ↔
      ∃ body text rest, algebra.Quoted r cs body text rest ∧
        t = .string (String.ofList text) ∧ n = body.length + 1
  fault (offset : Nat) :
    (¬ ∃ body text rest, algebra.Quoted r cs body text rest) →
      Token.tokensFrom offset ('"' :: cs) = .error offset

/-- Behind a quotation mark, a statement has a quoted text if its escapes spell one by a rule for
codes, and a fault else. -/
structure NQuads.ReadsQuoted (r : CodeRule) (cs : List Char) : Prop where
  string (text rest : List Char) :
    NQuads.readString cs = .ok (text, rest) ↔ ∃ body, nquads.Quoted r cs body text rest
  fault :
    (¬ ∃ body text rest, nquads.Quoted r cs body text rest) →
      ∃ f, NQuads.readLiteral cs = .error f

variable {cs : List Char}

theorem Token.readsQuoted_codeRule : Token.ReadsQuoted codeRule cs := by
  refine ⟨fun t n => string?_eq_some_iff, fun offset h => ?_⟩
  have hscan : scan? '"' cs = none := by
    refine Option.eq_none_iff_forall_ne_some.2 fun ⟨t, n⟩ ht => h ?_
    obtain ⟨body, text, rest, hquoted, -, -⟩ := string?_eq_some_iff.1 ht
    exact ⟨body, text, rest, hquoted⟩
  rw [tokensFrom, if_neg (by decide), if_neg (by decide), hscan]

theorem NQuads.readsQuoted_codeRule : NQuads.ReadsQuoted codeRule cs := by
  refine ⟨fun text rest => readString_eq_ok_iff, fun h => ?_⟩
  cases hread : readString cs with
  | error f => exact ⟨f, by rw [readLiteral, hread]; rfl⟩
  | ok r =>
      obtain ⟨body, hquoted⟩ := readString_eq_ok_iff.1 hread
      exact absurd ⟨body, _, _, hquoted⟩ h

/-- Without lapses the texts that are spelled by a rule are those that are spelled exactly. -/
theorem Escapes.quoted_iff_of_not_lapses {E : Escapes} {r : CodeRule}
    (h : ∀ body text rest, E.Quoted r cs body text rest → ¬ E.Lapses body)
    {body text rest : List Char} :
    E.Quoted r cs body text rest ↔ E.Quoted .exact cs body text rest := by
  constructor
  · exact fun hquoted => ⟨hquoted.1, hquoted.2.exact_iff.2 (h _ _ _ hquoted)⟩
  · exact fun hquoted => ⟨hquoted.1, hquoted.2.of_exact r⟩

theorem Token.readsQuoted_exact_iff :
    Token.ReadsQuoted .exact cs ↔
      ∀ body text rest, algebra.Quoted codeRule cs body text rest → ¬ algebra.Lapses body := by
  constructor
  · rintro hexact body text rest ⟨rfl, h⟩
    have hread := string?_eq_some_iff.2 ⟨body, text, rest, ⟨rfl, h⟩, rfl, rfl⟩
    obtain ⟨body', text', rest', ⟨heq, h'⟩, -, hlength⟩ := (hexact.string _ _).1 hread
    obtain ⟨rfl, -⟩ := List.append_inj heq (Nat.succ.inj hlength)
    exact h'.not_lapses
  · intro h
    refine ⟨fun t n => ?_, fun offset hnone => readsQuoted_codeRule.fault offset ?_⟩
    · simp only [string?_eq_some_iff, quoted_iff_of_not_lapses h]
    · simpa only [quoted_iff_of_not_lapses h] using hnone

theorem NQuads.readsQuoted_exact_iff :
    NQuads.ReadsQuoted .exact cs ↔
      ∀ body text rest, nquads.Quoted codeRule cs body text rest → ¬ nquads.Lapses body := by
  constructor
  · rintro hexact body text rest ⟨rfl, h⟩
    obtain ⟨body', heq, h'⟩ := (hexact.string _ _).1 (readString_eq_ok_iff.2 ⟨body, rfl, h⟩)
    obtain rfl := List.append_cancel_right heq
    exact h'.not_lapses
  · intro h
    refine ⟨fun text rest => ?_, fun hnone => readsQuoted_codeRule.fault ?_⟩
    · simp only [readString_eq_ok_iff, quoted_iff_of_not_lapses h]
    · simpa only [quoted_iff_of_not_lapses h] using hnone

/-- Escapes are read by their grammar, where a code may have a sign, and in the algebra may break off
with the text. They are read by the exact grammar just where no string is read in which a code does. -/
theorem readsQuoted (cs : List Char) :
    (Token.ReadsQuoted ⟨true, true⟩ cs ∧
      (Token.ReadsQuoted .exact cs ↔
        ∀ body text rest, algebra.Quoted ⟨true, true⟩ cs body text rest →
          ¬ algebra.Lapses body)) ∧
    NQuads.ReadsQuoted ⟨true, false⟩ cs ∧
      (NQuads.ReadsQuoted .exact cs ↔
        ∀ body text rest, nquads.Quoted ⟨true, false⟩ cs body text rest → ¬ nquads.Lapses body) :=
  ⟨⟨Token.readsQuoted_codeRule, Token.readsQuoted_exact_iff⟩,
    NQuads.readsQuoted_codeRule, NQuads.readsQuoted_exact_iff⟩

/-- Too few digits and a sign are read in the algebra, and a sign is read in statements, behind the
letters of both lengths. -/
theorem not_readsQuoted_exact :
    ¬ Token.ReadsQuoted .exact ['\\', 'u', '4', '1', '"'] ∧
      ¬ Token.ReadsQuoted .exact ['\\', 'u', '+', '0', '4', '1', '"'] ∧
      ¬ NQuads.ReadsQuoted .exact ['\\', 'u', '+', '0', '4', '1', '"'] ∧
      ¬ NQuads.ReadsQuoted .exact ['\\', 'U', '+', '0', '0', '0', '0', '0', '4', '1', '"'] := by
  have hnumber {ds : List Char} (h : hexNumber? ds = some 65) : SpellsNumber ds 'A'.toNat :=
    hexNumber?_eq_some_iff.1 h
  have hshort : Token.codeRule.Allows 4 ['4', '1'] [] 'A' :=
    ⟨.inr ⟨rfl, by decide, rfl⟩, .inl (hnumber rfl)⟩
  have hsigned : Token.codeRule.Allows 4 ['+', '0', '4', '1'] [] 'A' :=
    ⟨.inl rfl, .inr ⟨rfl, _, rfl, hnumber rfl⟩⟩
  have hsmall : NQuads.codeRule.Allows 4 ['+', '0', '4', '1'] [] 'A' :=
    ⟨.inl rfl, .inr ⟨rfl, _, rfl, hnumber rfl⟩⟩
  have hlarge : NQuads.codeRule.Allows 8 ['+', '0', '0', '0', '0', '0', '4', '1'] [] 'A' :=
    ⟨.inl rfl, .inr ⟨rfl, _, rfl, hnumber rfl⟩⟩
  refine ⟨fun h => ?_, fun h => ?_, fun h => ?_, fun h => ?_⟩
  · exact Token.readsQuoted_exact_iff.1 h _ _ [] ⟨rfl, .escape (.code (by decide) hshort) .nil⟩
      (.short (e := 'u') (k := 4) (by decide) (by decide))
  · exact Token.readsQuoted_exact_iff.1 h _ _ [] ⟨rfl, .escape (.code (by decide) hsigned) .nil⟩
      (.sign (e := 'u') (k := 4) (by decide) _)
  · exact NQuads.readsQuoted_exact_iff.1 h _ _ [] ⟨rfl, .escape (.code (by decide) hsmall) .nil⟩
      (.sign (e := 'u') (k := 4) (by decide) _)
  · exact NQuads.readsQuoted_exact_iff.1 h _ _ [] ⟨rfl, .escape (.code (by decide) hlarge) .nil⟩
      (.sign (e := 'U') (k := 8) (by decide) _)

end GraphAlgebra
