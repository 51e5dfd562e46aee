import GraphAlgebra.Expr.Printer
import GraphAlgebra.Rdf.Value
/-!
# Decimal digits that read back

The digits of a number spell it, with or without a sign, so a bounded integer is read back from
its text and from its term. Main statements: `BoundedInt.ofText?_integerText`,
`Term.numeric?_integer`, and the two forms of texts that stand for numbers on their own,
`isIntegerText_iff` and `isDecimalText_iff`.
-/

namespace GraphAlgebra

theorem isDigit_eq (c : Char) : isDigit c = c.isDigit := by
  have h : ('0' ≤ c ∧ c ≤ '9') ↔ c.isDigit = true := by
    rw [Char.isDigit_iff_toNat]
    rfl
  unfold isDigit digitValue?
  split
  next hc => simp [h.1 hc]
  next hc => simp [Bool.eq_false_iff.2 fun hd => hc (h.2 hd)]

theorem digitValue?_of_isDigit {c : Char} (h : isDigit c = true) :
    digitValue? c = some (c.toNat - '0'.toNat) := by
  unfold isDigit at h
  unfold digitValue? at h ⊢
  split at h
  next hc => simp [hc]
  next => simp at h

theorem digitsValue_eq {cs : List Char} (h : ∀ c ∈ cs, isDigit c = true) (acc : Nat) :
    digitsValue acc cs = Nat.ofDigitChars 10 cs acc := by
  induction cs generalizing acc with
  | nil => simp [digitsValue]
  | cons c cs ih =>
      have hc : digitValue? c = some (c.toNat - '0'.toNat) := digitValue?_of_isDigit (h c (by simp))
      rw [digitsValue, Nat.ofDigitChars_cons, hc, Option.getD_some, Nat.mul_comm acc 10]
      exact ih (fun d hd => h d (List.mem_cons_of_mem c hd)) _

theorem isDigit_of_mem_naturalText {n : Nat} {c : Char} (h : c ∈ naturalText n) :
    isDigit c = true := by
  rw [isDigit_eq]
  exact Nat.isDigit_of_mem_toDigits (by decide) (by decide) h

theorem naturalText_ne_nil (n : Nat) : naturalText n ≠ [] := Nat.toDigits_ne_nil

theorem natural?_naturalText (n : Nat) : natural? (naturalText n) = some n := by
  have hall : (naturalText n).all isDigit = true :=
    List.all_eq_true.2 fun c hc => isDigit_of_mem_naturalText hc
  have hvalue : digitsValue 0 (naturalText n) = n := by
    rw [digitsValue_eq fun c hc => isDigit_of_mem_naturalText hc]
    exact Nat.ofDigitChars_ten_toDigits
  simp [natural?, hall, naturalText_ne_nil, hvalue]

/-- A list of digits has no sign at its front. -/
theorem integer?_of_isDigit {cs : List Char} (h : ∀ c ∈ cs, isDigit c = true) :
    integer? cs = (natural? cs).map Int.ofNat := by
  unfold integer?
  split
  next => exact absurd (h '-' (by simp)) (by decide)
  next => exact absurd (h '+' (by simp)) (by decide)
  next => rfl

theorem integer?_integerText (i : Int) : integer? (integerText i) = some i := by
  cases i with
  | ofNat n =>
      rw [integerText, integer?_of_isDigit fun c hc => isDigit_of_mem_naturalText hc,
        natural?_naturalText]
      rfl
  | negSucc n =>
      rw [integerText, integer?, natural?_naturalText]
      rfl

theorem BoundedInt.ofText?_integerText (b : BoundedInt) :
    BoundedInt.ofText? (integerText b.val) = some b := by
  rw [BoundedInt.ofText?, integer?_integerText, Option.bind_some, BoundedInt.ofInt?_eq_some_iff]

theorem isBlank_of_isDigit {c : Char} (h : isDigit c = true) : isBlank c = false := by
  rw [isDigit_eq, Char.isDigit_iff_toNat] at h
  obtain ⟨hlow, hhigh⟩ := h
  rw [isBlank, CharClass.holds]
  generalize c.toNat = n at hlow hhigh
  have hbetween : ∀ n ≤ 57, 48 ≤ n → whiteSpace.mem n = false := by decide
  exact hbetween n hhigh hlow

theorem isBlank_of_mem_integerText {i : Int} {c : Char} (h : c ∈ integerText i) :
    isBlank c = false := by
  cases i with
  | ofNat n => exact isBlank_of_isDigit (isDigit_of_mem_naturalText h)
  | negSucc n =>
      obtain rfl | h := List.mem_cons.1 h
      · decide
      · exact isBlank_of_isDigit (isDigit_of_mem_naturalText h)

theorem trimBlank_eq_self {cs : List Char} (h : ∀ c ∈ cs, isBlank c = false) :
    trimBlank cs = cs := by
  have hkeep {ds : List Char} (hds : ∀ c ∈ ds, isBlank c = false) : ds.dropWhile isBlank = ds := by
    cases ds with
    | nil => rfl
    | cons d ds => simp [hds d List.mem_cons_self]
  rw [trimBlank, hkeep h, hkeep fun c hc => h c (List.mem_reverse.1 hc), List.reverse_reverse]

namespace Term

theorem integer_eq (n : Int) :
    integer n = .literal ⟨String.ofList (integerText n), none, some Iri.integer⟩ :=
  typed_of_ne _ Iri.integer_ne_string

theorem numeric?_integer (b : BoundedInt) :
    (integer b.val).numeric? = some (.integer b) := by
  have htext : trimBlank (integerText b.val) = integerText b.val :=
    trimBlank_eq_self fun c hc => isBlank_of_mem_integerText hc
  simp [integer_eq, numeric?, literal?, Literal.numeric?, htext, BoundedInt.ofText?_integerText]

theorem integer_injective : Function.Injective integer := by
  intro m n h
  have htext : integerText m = integerText n := by
    simpa [integer_eq, String.ofList_inj] using h
  have hread := integer?_integerText m
  rw [htext, integer?_integerText] at hread
  exact (Option.some.inj hread).symm

end Term

theorem isIntegerText_iff {cs : List Char} :
    isIntegerText cs = true ↔ ∃ b : BoundedInt, cs = integerText b.val := by
  constructor
  · intro h
    unfold isIntegerText at h
    split at h
    next b _ => exact ⟨b, (beq_iff_eq.1 h).symm⟩
    next => simp at h
  · rintro ⟨b, rfl⟩
    simp [isIntegerText, BoundedInt.ofText?_integerText]

def IsSign (cs : List Char) : Prop := cs = [] ∨ cs = ['+'] ∨ cs = ['-']

theorem integerText_eq_append (i : Int) :
    ∃ sign digits, IsSign sign ∧ integerText i = sign ++ digits ∧ digits ≠ [] ∧
      ∀ c ∈ digits, isDigit c = true := by
  cases i with
  | ofNat n =>
      exact ⟨[], naturalText n, .inl rfl, rfl, naturalText_ne_nil n,
        fun c hc => isDigit_of_mem_naturalText hc⟩
  | negSucc n =>
      exact ⟨['-'], naturalText (n + 1), .inr (.inr rfl), rfl, naturalText_ne_nil _,
        fun c hc => isDigit_of_mem_naturalText hc⟩

theorem dropWhile_eq_cons {p : Char → Bool} {cs : List Char} {c : Char} {r : List Char}
    (h : cs.dropWhile p = c :: r) : cs = cs.takeWhile p ++ c :: r := by
  rw [← h, List.takeWhile_append_dropWhile]

theorem isUnsignedDecimalText_iff {cs : List Char} :
    isUnsignedDecimalText cs = true ↔
      ∃ whole fraction, cs = whole ++ '.' :: fraction ∧
        (∀ c ∈ whole, isDigit c = true) ∧ fraction ≠ [] ∧ ∀ c ∈ fraction, isDigit c = true := by
  unfold isUnsignedDecimalText
  constructor
  · intro h
    split at h
    next fraction hcs =>
      simp only [Bool.and_eq_true, Bool.not_eq_true', List.isEmpty_eq_false_iff,
        List.all_eq_true] at h
      exact ⟨cs.takeWhile isDigit, fraction, dropWhile_eq_cons hcs,
        List.all_eq_true.1 List.all_takeWhile, h.1, h.2⟩
    next => cases h
  · rintro ⟨whole, fraction, rfl, hw, hne, hf⟩
    have hpoint : isDigit '.' = false := by decide
    rw [List.dropWhile_append_of_pos hw, List.dropWhile_cons_of_neg (by simp [hpoint])]
    simpa [hne] using hf

theorem head_of_point {whole fraction r : List Char} {c : Char}
    (h : whole ++ '.' :: fraction = c :: r) (hw : ∀ d ∈ whole, isDigit d = true) :
    isDigit c = true ∨ c = '.' := by
  cases whole with
  | nil => exact .inr (List.cons.inj h).1.symm
  | cons d whole =>
      obtain ⟨rfl, -⟩ := List.cons.inj h
      exact .inl (hw d List.mem_cons_self)

theorem isDecimalText_iff {cs : List Char} :
    isDecimalText cs = true ↔
      ∃ sign whole fraction, IsSign sign ∧ cs = sign ++ (whole ++ '.' :: fraction) ∧
        (∀ c ∈ whole, isDigit c = true) ∧ fraction ≠ [] ∧ ∀ c ∈ fraction, isDigit c = true := by
  constructor
  · intro h
    unfold isDecimalText at h
    split at h <;> obtain ⟨whole, fraction, hcs, hrest⟩ := isUnsignedDecimalText_iff.1 h
    next r => exact ⟨['+'], whole, fraction, .inr (.inl rfl), by rw [hcs]; rfl, hrest⟩
    next r => exact ⟨['-'], whole, fraction, .inr (.inr rfl), by rw [hcs]; rfl, hrest⟩
    next => exact ⟨[], whole, fraction, .inl rfl, hcs, hrest⟩
  · rintro ⟨sign, whole, fraction, hsign, rfl, hw, hf⟩
    have hunsigned := isUnsignedDecimalText_iff.2 ⟨whole, fraction, rfl, hw, hf⟩
    rcases hsign with rfl | rfl | rfl
    · rw [List.nil_append]
      unfold isDecimalText
      split
      next heq => exact absurd (head_of_point heq hw) (by decide)
      next heq => exact absurd (head_of_point heq hw) (by decide)
      next => exact hunsigned
    · exact hunsigned
    · exact hunsigned

end GraphAlgebra
