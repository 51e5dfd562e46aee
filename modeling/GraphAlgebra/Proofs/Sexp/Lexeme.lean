import GraphAlgebra.Proofs.Number.Digits
import GraphAlgebra.Proofs.Sexp.Lexing
import GraphAlgebra.Proofs.Sexp.Quoted
import GraphAlgebra.Proofs.Text.Ascii
/-!
# The texts of single tokens

One lemma for each kind of token says which texts lex to it. Brackets, strings, identifiers and
the marks of datatypes may be followed by anything, symbols by a blank, and all others by a blank
or a closing bracket.
-/

namespace GraphAlgebra

namespace Token

/-- Where a token may be followed by anything. -/
def Anything (_ : List Char) : Prop := True

theorem lexesTo_leftParen : LexesTo Anything ['('] .leftParen :=
  ⟨'(', [], rfl, by decide, by decide, fun _ _ => rfl⟩

theorem lexesTo_rightParen : LexesTo Anything [')'] .rightParen :=
  ⟨')', [], rfl, by decide, by decide, fun _ _ => rfl⟩

theorem lexesTo_leftBracket : LexesTo Anything ['['] .leftBracket :=
  ⟨'[', [], rfl, by decide, by decide, fun _ _ => rfl⟩

theorem lexesTo_rightBracket : LexesTo Anything [']'] .rightBracket :=
  ⟨']', [], rfl, by decide, by decide, fun _ _ => rfl⟩

theorem lexesTo_doubleCaret : LexesTo Anything ['^', '^'] .doubleCaret :=
  ⟨'^', ['^'], rfl, by decide, by decide, fun _ _ => by simp [scan?, pair?]⟩

theorem lexesTo_variable {name : String} (hne : name.toList ≠ [])
    (h : ∀ c ∈ name.toList, isNameChar c = true) :
    LexesTo Ends ('?' :: name.toList) (.variable name) := by
  refine ⟨'?', name.toList, rfl, by decide, by decide, fun rest hrest => ?_⟩
  have hscan : scan? '?' (name.toList ++ rest) = span? .variable isNameChar (name.toList ++ rest) :=
    rfl
  rw [hscan, span?_append hne h (hrest.head_eq_false (by decide)), String.ofList_toList]

theorem lexesTo_iri {text : String} (h : ∀ c ∈ text.toList, isIriChar c = true) :
    LexesTo Anything ('<' :: (text.toList ++ ['>'])) (.iri text) := by
  refine ⟨'<', text.toList ++ ['>'], rfl, by decide, by decide, fun rest _ => ?_⟩
  have hscan : scan? '<' (text.toList ++ ['>'] ++ rest) = angle? (text.toList ++ '>' :: rest) := by
    rw [List.append_assoc]
    rfl
  have hspan : spanLength isIriChar (text.toList ++ '>' :: rest) = text.toList.length :=
    spanLength_append h (head_cons_eq_false (by decide) rest)
  rw [hscan, angle?, hspan]
  simp

theorem lexesTo_blank {label : String} (hne : label.toList ≠ [])
    (h : ∀ c ∈ label.toList, isWordChar c = true) :
    LexesTo Ends ('_' :: ':' :: label.toList) (.blank label) := by
  refine ⟨'_', ':' :: label.toList, rfl, by decide, by decide, fun rest hrest => ?_⟩
  simp [scan?, span?_append hne h (hrest.head_eq_false (by decide))]

theorem lexesTo_string (s : String) :
    LexesTo Anything ('"' :: (escapeText s.toList ++ ['"'])) (.string s) := by
  refine ⟨'"', escapeText s.toList ++ ['"'], rfl, by decide, by decide, fun rest _ => ?_⟩
  have hscan : scan? '"' (escapeText s.toList ++ ['"'] ++ rest) =
      string? (escapeText s.toList ++ '"' :: rest) := by
    rw [List.append_assoc]
    rfl
  rw [hscan, string?_escapeText]
  simp

theorem isDigit_of_isAlpha {c : Char} (h : c.isAlpha = true) : isDigit c = false := by
  rw [isDigit_eq, Bool.eq_false_iff]
  intro hd
  rw [isDecimalDigit_iff] at hd
  rw [isAlpha_iff, isUpper_iff, isLower_iff] at h
  omega

theorem lexesTo_word {c : Char} {cs : List Char} (hc : c.isAlpha = true)
    (hcs : ∀ d ∈ cs, isWordChar d = true) :
    LexesTo Ends (c :: cs) (.word (String.ofList (c :: cs))) := by
  have hne : ∀ d : Char, d.isAlpha = false → c ≠ d := fun d hd h => by simp [h, hd] at hc
  refine ⟨c, cs, rfl, ?_, hne ';' (by decide), fun rest hrest => ?_⟩
  · simp [isSpace, hne ' ' (by decide), hne '\t' (by decide), hne '\r' (by decide),
      hne '\n' (by decide), hne '\x0c' (by decide)]
  · have hspan := spanLength_append hcs (hrest.head_eq_false (p := isWordChar) (by decide))
    unfold scan?
    split <;> first | exact absurd rfl (hne _ (by decide)) | skip
    simp [isDigit_of_isAlpha hc, hc, hspan]

/-- Where a blank follows. Only before a blank is an angle that begins no identifier sure to be
a symbol, since closing brackets may stand in identifiers. -/
def Blank (cs : List Char) : Prop := cs.head? = some ' '

theorem lexesTo_of_blank (c : Char) (cs : List Char) {text : List Char} {t : Token}
    (htext : text = c :: cs ∧ isSpace c = false ∧ c ≠ ';')
    (h : ∀ rest, scan? c (cs ++ ' ' :: rest) = some (t, cs.length)) : LexesTo Blank text t := by
  obtain ⟨rfl, hspace, hcomment⟩ := htext
  refine ⟨c, cs, rfl, hspace, hcomment, fun rest hrest => ?_⟩
  cases rest with
  | nil => simp [Blank] at hrest
  | cons d rest =>
      obtain rfl : d = ' ' := by simpa [Blank] using hrest
      exact h rest

theorem lexesTo_symbol (s : Symbol) : LexesTo Blank s.text.toList (.symbol s) := by
  have hiri : isIriChar ' ' = false := by decide
  have hdigit : isDigit ' ' = false := by decide
  cases s
  case underscore => exact lexesTo_of_blank '_' [] (by decide) fun _ => rfl
  case equals => exact lexesTo_of_blank '=' [] (by decide) fun _ => rfl
  case star => exact lexesTo_of_blank '*' [] (by decide) fun _ => rfl
  case slash => exact lexesTo_of_blank '/' [] (by decide) fun _ => rfl
  case notEquals => exact lexesTo_of_blank '!' ['='] (by decide) fun _ => by simp [scan?, pair?]
  case greaterEquals =>
    exact lexesTo_of_blank '>' ['='] (by decide) fun _ => by simp [scan?, pair?]
  case and => exact lexesTo_of_blank '&' ['&'] (by decide) fun _ => by simp [scan?, pair?]
  case or => exact lexesTo_of_blank '|' ['|'] (by decide) fun _ => by simp [scan?, pair?]
  case bang => exact lexesTo_of_blank '!' [] (by decide) fun _ => by simp [scan?, pair?]
  case greater => exact lexesTo_of_blank '>' [] (by decide) fun _ => by simp [scan?, pair?]
  case less =>
    refine lexesTo_of_blank '<' [] (by decide) fun _ => ?_
    simp [scan?, angle?, spanLength, hiri]
  case lessEquals =>
    have heq : isIriChar '=' = true := by decide
    refine lexesTo_of_blank '<' ['='] (by decide) fun _ => ?_
    simp [scan?, angle?, spanLength, heq, hiri]
  case plus =>
    refine lexesTo_of_blank '+' [] (by decide) fun _ => ?_
    simp [scan?, number?, scanNumber, spanLength, hdigit]
  case minus =>
    refine lexesTo_of_blank '-' [] (by decide) fun _ => ?_
    simp [scan?, number?, scanNumber, spanLength, hdigit]

/-! ### Language tags -/

/-- The characters of a language tag: a primary part, then parts after hyphens. -/
def tagChars (primary : List Char) (subtags : List (List Char)) : List Char :=
  primary ++ subtags.flatMap ('-' :: ·)

theorem head_subtags_eq_false {p : Char → Bool} (hdash : p '-' = false)
    (subtags : List (List Char)) {rest : List Char} (hrest : ∀ c ∈ rest.head?, p c = false) :
    ∀ c ∈ (subtags.flatMap ('-' :: ·) ++ rest).head?, p c = false := by
  cases subtags with
  | nil => exact hrest
  | cons t subtags => exact head_cons_eq_false hdash _

theorem length_le_length_subtags (subtags : List (List Char)) :
    subtags.length ≤ (subtags.flatMap ('-' :: ·)).length := by
  induction subtags with
  | nil => exact Nat.zero_le _
  | cons t subtags ih =>
      simp only [List.flatMap_cons, List.length_cons, List.length_append]
      omega

theorem subtagsLength_append {subtags : List (List Char)}
    (h : ∀ t ∈ subtags, t ≠ [] ∧ ∀ c ∈ t, c.isAlphanum = true) {rest : List Char}
    (hrest : Ends rest) {fuel : Nat} (hfuel : subtags.length < fuel) :
    subtagsLength fuel (subtags.flatMap ('-' :: ·) ++ rest) =
      (subtags.flatMap ('-' :: ·)).length := by
  induction subtags generalizing fuel with
  | nil =>
      obtain ⟨fuel, rfl⟩ := Nat.exists_eq_succ_of_ne_zero (Nat.pos_iff_ne_zero.1 hfuel)
      cases rest with
      | nil => rfl
      | cons c rest =>
          rcases hrest c (by simp) with rfl | rfl | rfl <;> rfl
  | cons t subtags ih =>
      obtain ⟨fuel, rfl⟩ := Nat.exists_eq_succ_of_ne_zero (Nat.ne_zero_of_lt hfuel)
      obtain ⟨hne, ht⟩ := h t (by simp)
      have htail : ∀ c ∈ (subtags.flatMap ('-' :: ·) ++ rest).head?, c.isAlphanum = false :=
        head_subtags_eq_false (by decide) subtags (hrest.head_eq_false (by decide))
      have hspan : spanLength Char.isAlphanum (t ++ (subtags.flatMap ('-' :: ·) ++ rest)) =
          t.length := spanLength_append ht htail
      have hpos : t.length ≠ 0 := by simpa using hne
      have hlength : subtags.length < fuel := by simpa using hfuel
      have ih := ih (fun u hu => h u (List.mem_cons_of_mem t hu)) hlength
      simp only [List.flatMap_cons, List.cons_append, List.append_assoc, subtagsLength, hspan,
        if_neg hpos, List.drop_left, ih, List.length_cons, List.length_append]
      omega

theorem lexesTo_language {primary : List Char} {subtags : List (List Char)} (hne : primary ≠ [])
    (hp : ∀ c ∈ primary, c.isAlpha = true)
    (hs : ∀ t ∈ subtags, t ≠ [] ∧ ∀ c ∈ t, c.isAlphanum = true) :
    LexesTo Ends ('@' :: tagChars primary subtags)
      (.language (String.ofList (tagChars primary subtags))) := by
  refine ⟨'@', tagChars primary subtags, rfl, by decide, by decide, fun rest hrest => ?_⟩
  have hscan : scan? '@' (tagChars primary subtags ++ rest) =
      language? (primary ++ (subtags.flatMap ('-' :: ·) ++ rest)) := by
    rw [tagChars, List.append_assoc]
    rfl
  have htail : ∀ c ∈ (subtags.flatMap ('-' :: ·) ++ rest).head?, c.isAlpha = false :=
    head_subtags_eq_false (by decide) subtags (hrest.head_eq_false (by decide))
  have hspan := spanLength_append hp htail
  have hpos : primary.length ≠ 0 := by simpa using hne
  have hcount : subtags.length < (primary ++ (subtags.flatMap ('-' :: ·) ++ rest)).length := by
    have hle := length_le_length_subtags subtags
    simp only [List.length_append]
    omega
  rw [hscan, language?, hspan, if_neg hpos, List.drop_left,
    subtagsLength_append hs hrest hcount]
  simp only [tagChars, List.length_append]
  rw [← List.append_assoc, List.take_left' (by simp)]

/-! ### Numbers -/

theorem scan?_eq_number? {c : Char} (h : c = '+' ∨ c = '-' ∨ c = '.' ∨ isDigit c = true) :
    ∃ alone, ∀ cs, scan? c cs = number? c alone cs := by
  rcases h with rfl | rfl | rfl | h
  · exact ⟨some .plus, fun _ => rfl⟩
  · exact ⟨some .minus, fun _ => rfl⟩
  · exact ⟨none, fun _ => rfl⟩
  · have hne : ∀ d : Char, isDigit d = false → c ≠ d := fun d hd e => by simp [e, hd] at h
    refine ⟨none, fun cs => ?_⟩
    unfold scan?
    split <;> first | exact absurd rfl (hne _ (by decide)) | skip
    rw [if_pos h]

/-- A text that begins with a sign, a digit or a point lexes to the number that is scanned. -/
theorem lexesTo_of_scanNumber {c : Char} {cs : List Char} {t : Token}
    (h : c = '+' ∨ c = '-' ∨ c = '.' ∨ isDigit c = true)
    (hscan : ∀ rest, Ends rest →
      scanNumber (c :: (cs ++ rest)) = .number t (cs.length + 1)) :
    LexesTo Ends (c :: cs) t := by
  obtain ⟨alone, halone⟩ := scan?_eq_number? h
  have hne : ∀ d : Char, d ≠ '+' → d ≠ '-' → d ≠ '.' → isDigit d = false → c ≠ d := by
    rintro d h₁ h₂ h₃ h₄ rfl
    rcases h with h | h | h | h
    · exact h₁ h
    · exact h₂ h
    · exact h₃ h
    · simp [h] at h₄
  refine ⟨c, cs, rfl, ?_, ?_, fun rest hrest => ?_⟩
  · simp [isSpace, hne ' ' (by decide) (by decide) (by decide) (by decide),
      hne '\t' (by decide) (by decide) (by decide) (by decide),
      hne '\r' (by decide) (by decide) (by decide) (by decide),
      hne '\n' (by decide) (by decide) (by decide) (by decide),
      hne '\x0c' (by decide) (by decide) (by decide) (by decide)]
  · exact hne ';' (by decide) (by decide) (by decide) (by decide)
  · rw [halone, number?, hscan rest hrest]
    rfl

theorem signLength_append {sign cs : List Char} (h : IsSign sign)
    (hcs : ∀ c ∈ cs.head?, c ≠ '+' ∧ c ≠ '-') :
    (if (sign ++ cs).head? = some '+' ∨ (sign ++ cs).head? = some '-' then 1 else 0) =
      sign.length := by
  rcases h with rfl | rfl | rfl
  · rw [List.nil_append, if_neg]
    · rfl
    · rintro (h | h)
      · exact (hcs _ h).1 rfl
      · exact (hcs _ h).2 rfl
  · rfl
  · rfl

theorem exponentLength_of_ends {rest : List Char} (h : Ends rest) : exponentLength rest = 0 := by
  cases rest with
  | nil => rfl
  | cons c rest => rcases h c (by simp) with rfl | rfl | rfl <;> rfl

theorem isDigit_of_ends {rest : List Char} (h : Ends rest) :
    ∀ c ∈ rest.head?, isDigit c = false := h.head_eq_false (by decide)

theorem head_digits_ne_sign {digits rest : List Char} (h : ∀ c ∈ digits, isDigit c = true)
    (hrest : ∀ c ∈ rest.head?, c ≠ '+' ∧ c ≠ '-') :
    ∀ c ∈ (digits ++ rest).head?, c ≠ '+' ∧ c ≠ '-' := by
  cases digits with
  | nil => exact hrest
  | cons d digits =>
      intro c hc
      obtain rfl : d = c := by simpa using hc
      have hd : isDigit d = true := h d List.mem_cons_self
      constructor
      · rintro rfl
        exact absurd hd (by decide)
      · rintro rfl
        exact absurd hd (by decide)

theorem scanNumber_integer {sign digits rest : List Char} {b : BoundedInt} (hsign : IsSign sign)
    (hne : digits ≠ []) (hdigits : ∀ c ∈ digits, isDigit c = true) (hrest : Ends rest)
    (hb : BoundedInt.ofText? (sign ++ digits) = some b) :
    scanNumber (sign ++ (digits ++ rest)) = .number (.integer b) (sign ++ digits).length := by
  have hhead : ∀ c ∈ (digits ++ rest).head?, c ≠ '+' ∧ c ≠ '-' :=
    head_digits_ne_sign hdigits fun c hc => by
      rcases hrest c hc with rfl | rfl | rfl <;> decide
  have hspan := spanLength_append hdigits (isDigit_of_ends hrest)
  have hpos : digits.length ≠ 0 := by simpa using hne
  have hdrop : (sign ++ (digits ++ rest)).drop (sign.length + digits.length) = rest := by
    rw [← List.append_assoc, List.drop_left' (by simp)]
  have htake : (sign ++ (digits ++ rest)).take (sign.length + digits.length) = sign ++ digits := by
    rw [← List.append_assoc, List.take_left' (by simp)]
  have hpoint : ∀ r, rest ≠ '.' :: r := by
    rintro r rfl
    simpa using hrest '.' (by simp)
  unfold scanNumber
  simp only [signLength_append hsign hhead, List.drop_left, hspan, hdrop, if_neg hpos,
    exponentLength_of_ends hrest, htake, hb, ne_eq, not_true_eq_false, if_false]
  rw [List.length_append]

theorem scanNumber_decimal {sign whole fraction rest : List Char} (hsign : IsSign sign)
    (hwhole : ∀ c ∈ whole, isDigit c = true) (hne : fraction ≠ [])
    (hfraction : ∀ c ∈ fraction, isDigit c = true) (hrest : Ends rest) :
    scanNumber (sign ++ (whole ++ '.' :: (fraction ++ rest))) =
      .number (.decimal (String.ofList (sign ++ (whole ++ '.' :: fraction))))
        (sign ++ (whole ++ '.' :: fraction)).length := by
  have hhead : ∀ c ∈ (whole ++ '.' :: (fraction ++ rest)).head?, c ≠ '+' ∧ c ≠ '-' :=
    head_digits_ne_sign hwhole (by simp)
  have hspan := spanLength_append hwhole
    (head_cons_eq_false (p := isDigit) (c := '.') (by decide) (fraction ++ rest))
  have hspan' := spanLength_append hfraction (isDigit_of_ends hrest)
  have hpos : fraction.length ≠ 0 := by simpa using hne
  have hdrop : (sign ++ (whole ++ '.' :: (fraction ++ rest))).drop (sign.length + whole.length) =
      '.' :: (fraction ++ rest) := by
    rw [← List.append_assoc, List.drop_left' (by simp)]
  have hsplit : sign ++ (whole ++ '.' :: (fraction ++ rest)) =
      (sign ++ (whole ++ '.' :: fraction)) ++ rest := by simp
  have htake : (sign ++ (whole ++ '.' :: (fraction ++ rest))).take
      (sign.length + whole.length + 1 + fraction.length) = sign ++ (whole ++ '.' :: fraction) := by
    rw [hsplit, List.take_left']
    simp only [List.length_append, List.length_cons]
    omega
  unfold scanNumber
  simp only [signLength_append hsign hhead, List.drop_left, hspan, hdrop, hspan',
    exponentLength_of_ends hrest, htake]
  simp only [ne_eq, not_true_eq_false, hpos, not_false_eq_true, if_true, if_false,
    Nat.add_eq_zero_iff, and_false, List.length_append, List.length_cons]
  congr 1
  omega

/-- The same where a sign may stand before the digit or the point. -/
theorem lexesTo_of_sign {sign cs : List Char} {t : Token} (hsign : IsSign sign)
    (hcs : ∃ c r, cs = c :: r ∧ (c = '.' ∨ isDigit c = true))
    (hscan : ∀ rest, Ends rest →
      scanNumber (sign ++ cs ++ rest) = .number t (sign ++ cs).length) :
    LexesTo Ends (sign ++ cs) t := by
  rcases hsign with rfl | rfl | rfl
  · obtain ⟨c, r, rfl, hc⟩ := hcs
    exact lexesTo_of_scanNumber (.inr (.inr hc)) hscan
  · exact lexesTo_of_scanNumber (.inl rfl) hscan
  · exact lexesTo_of_scanNumber (.inr (.inl rfl)) hscan

theorem lexesTo_integer (b : BoundedInt) : LexesTo Ends (integerText b.val) (.integer b) := by
  obtain ⟨sign, digits, hsign, htext, hne, hdigits⟩ := integerText_eq_append b.val
  have hb := BoundedInt.ofText?_integerText b
  rw [htext] at hb ⊢
  refine lexesTo_of_sign hsign ?_ fun rest hrest => ?_
  · obtain ⟨d, r, rfl⟩ := List.exists_cons_of_ne_nil hne
    exact ⟨d, r, rfl, .inr (hdigits d List.mem_cons_self)⟩
  · rw [List.append_assoc]
    exact scanNumber_integer hsign hne hdigits hrest hb

theorem lexesTo_decimal {s : String} (h : isDecimalText s.toList = true) :
    LexesTo Ends s.toList (.decimal s) := by
  obtain ⟨sign, whole, fraction, hsign, htext, hwhole, hne, hfraction⟩ := isDecimalText_iff.1 h
  have hs : s = String.ofList (sign ++ (whole ++ '.' :: fraction)) := by
    rw [← htext, String.ofList_toList]
  rw [htext]
  refine lexesTo_of_sign hsign ?_ fun rest hrest => ?_
  · cases whole with
    | nil => exact ⟨'.', fraction, rfl, .inl rfl⟩
    | cons d whole => exact ⟨d, whole ++ '.' :: fraction, rfl, .inr (hwhole d List.mem_cons_self)⟩
  · have hsplit : sign ++ (whole ++ '.' :: fraction) ++ rest =
        sign ++ (whole ++ '.' :: (fraction ++ rest)) := by simp
    rw [hsplit, scanNumber_decimal hsign hwhole hne hfraction hrest, ← hs]

end Token

end GraphAlgebra
