import GraphAlgebra.Sexp.Lexer
/-!
# Texts that are one token

`Token.lex` gives the tokens of a text without their places. A text that `LexesTo` a token is
scanned as that token where a blank, a closing bracket or nothing follows it, so the tokens of a
longer text are found token by token (`lex_append`).
-/

namespace GraphAlgebra

namespace Token

/-- The tokens of a text without their places. -/
def lex (cs : List Char) : Option (List Token) :=
  (tokensFrom 0 cs).toOption.map (·.map Placed.token)

theorem toOption_tokensFrom (offset : Nat) (cs : List Char) :
    (tokensFrom offset cs).toOption.map (·.map Placed.token) = lex cs := by
  suffices h : ∀ a b : Nat, (tokensFrom a cs).toOption.map (·.map Placed.token) =
      (tokensFrom b cs).toOption.map (·.map Placed.token) from h offset 0
  induction hn : cs.length using Nat.strongRecOn generalizing cs with
  | ind n ih =>
      intro a b
      cases cs with
      | nil => simp [tokensFrom]
      | cons c cs =>
          have hdrop : ∀ m, (cs.drop m).length < n := fun m => by
            simp only [List.length_cons, List.length_drop] at hn ⊢
            omega
          rw [tokensFrom, tokensFrom]
          split
          · exact ih cs.length (by simp [← hn]) cs rfl _ _
          split
          · exact ih _ (hdrop _) _ rfl _ _
          split
          · rfl
          next t m _ =>
            have h := ih _ (hdrop m) _ rfl (a + byteLength (c :: cs.take m))
              (b + byteLength (c :: cs.take m))
            revert h
            cases tokensFrom (a + byteLength (c :: cs.take m)) (cs.drop m) <;>
              cases tokensFrom (b + byteLength (c :: cs.take m)) (cs.drop m) <;>
              simp [bind, Except.bind, Except.toOption]

theorem lex_nil : lex [] = some [] := by simp [lex, tokensFrom, Except.toOption]

theorem lex_cons_of_isSpace {c : Char} (h : isSpace c = true) (cs : List Char) :
    lex (c :: cs) = lex cs := by
  rw [lex, tokensFrom, if_pos h, toOption_tokensFrom]

theorem lex_cons_of_scan? {c : Char} {cs : List Char} {t : Token} {n : Nat}
    (hspace : isSpace c = false) (hcomment : c ≠ ';') (h : scan? c cs = some (t, n)) :
    lex (c :: cs) = (lex (cs.drop n)).map (t :: ·) := by
  rw [lex, tokensFrom, if_neg (by simp [hspace]), if_neg hcomment, h,
    ← toOption_tokensFrom (0 + byteLength (c :: cs.take n))]
  simp only [bind, Except.bind]
  cases tokensFrom (0 + byteLength (c :: cs.take n)) (cs.drop n) <;> rfl

theorem tokens_of_lex {text : String} {ts : List Token} (h : lex text.toList = some ts) :
    ∃ ps, tokens text = .ok ps ∧ ps.map Placed.token = ts := by
  unfold lex at h
  unfold tokens
  cases hps : tokensFrom 0 text.toList with
  | error e => simp [hps, Except.toOption] at h
  | ok ps => exact ⟨ps, rfl, by simpa [hps, Except.toOption] using h⟩

theorem lex_of_tokens {text : String} {ps : List Placed} (h : tokens text = .ok ps) :
    lex text.toList = some (ps.map Placed.token) := by
  unfold tokens at h
  simp [lex, h, Except.toOption]

/-- What can follow a token: a blank, a closing bracket or nothing. -/
def Ends (cs : List Char) : Prop := ∀ c ∈ cs.head?, c = ' ' ∨ c = ')' ∨ c = ']'

theorem ends_nil : Ends [] := by simp [Ends]

theorem ends_cons {c : Char} {cs : List Char} (h : c = ' ' ∨ c = ')' ∨ c = ']') :
    Ends (c :: cs) := by
  simpa [Ends] using h

/-- The characters are scanned as the token where what follows them satisfies `E`. -/
def LexesTo (E : List Char → Prop) (cs : List Char) (t : Token) : Prop :=
  ∃ c r, cs = c :: r ∧ isSpace c = false ∧ c ≠ ';' ∧
    ∀ rest, E rest → scan? c (r ++ rest) = some (t, r.length)

theorem lex_append {E : List Char → Prop} {cs rest : List Char} {t : Token}
    (h : LexesTo E cs t) (hrest : E rest) : lex (cs ++ rest) = (lex rest).map (t :: ·) := by
  obtain ⟨c, r, rfl, hspace, hcomment, hscan⟩ := h
  rw [List.cons_append, lex_cons_of_scan? hspace hcomment (hscan rest hrest),
    List.drop_left]

/-! ### Runs of characters -/

theorem spanLength_append {p : Char → Bool} {cs rest : List Char} (h : ∀ c ∈ cs, p c = true)
    (hrest : ∀ c ∈ rest.head?, p c = false) : spanLength p (cs ++ rest) = cs.length := by
  rw [spanLength, List.takeWhile_append_of_pos h]
  cases rest with
  | nil => simp
  | cons c rest => simp [hrest c (by simp)]

theorem head_cons_eq_false {p : Char → Bool} {c : Char} (h : p c = false) (cs : List Char) :
    ∀ d ∈ (c :: cs).head?, p d = false := by
  simpa using h

/-- Whatever can follow a token does not hold `p`, where `p` fails for blanks and closing
brackets. -/
theorem Ends.head_eq_false {p : Char → Bool} {rest : List Char} (h : Ends rest)
    (hp : [' ', ')', ']'].all (fun c => !p c) = true) : ∀ c ∈ rest.head?, p c = false := by
  intro c hc
  simp only [List.all_cons, List.all_nil, Bool.and_true, Bool.and_eq_true,
    Bool.not_eq_true'] at hp
  rcases h c hc with rfl | rfl | rfl
  · exact hp.1
  · exact hp.2.1
  · exact hp.2.2

theorem span?_append {make : String → Token} {p : Char → Bool} {cs rest : List Char}
    (hne : cs ≠ []) (h : ∀ c ∈ cs, p c = true) (hrest : ∀ c ∈ rest.head?, p c = false) :
    span? make p (cs ++ rest) = some (make (String.ofList cs), cs.length) := by
  simp [span?, spanLength_append h hrest, hne]

end Token

end GraphAlgebra
