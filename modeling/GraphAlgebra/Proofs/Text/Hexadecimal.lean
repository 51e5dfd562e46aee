import GraphAlgebra.Text.Hexadecimal
import Mathlib.Data.List.Forall2
import Mathlib.Data.Nat.Digits.Defs
/-!
# What hexadecimal digits spell

The value of digits is that of the positional system with base 16, and a code point is spelled by
digits whose value is its number, or by a plus sign and such digits (`codePoint?_eq_some_iff`).
-/

namespace GraphAlgebra

/-- The digit with a value below 16. It may be a small or a capital letter where it is a letter. -/
def HexDigit (c : Char) (d : Nat) : Prop := d < 16 ∧ (c = d.digitChar ∨ c = d.digitChar.toUpper)

instance (c : Char) (d : Nat) : Decidable (HexDigit c d) := inferInstanceAs (Decidable (_ ∧ _))

/-- Some digits spell a number, the first one being the most significant. -/
def SpellsNumber (ds : List Char) (n : Nat) : Prop :=
  ds ≠ [] ∧ ∃ vs, List.Forall₂ HexDigit ds vs ∧ Nat.ofDigits 16 vs.reverse = n

theorem toNat_le_of_hexDigitValue? {c : Char} {d : Nat} (h : hexDigitValue? c = some d) :
    c.toNat ≤ 102 := by
  have hle (a b : Char) : a ≤ b ↔ a.toNat ≤ b.toNat := Iff.rfl
  simp only [hexDigitValue?, hle, Char.reduceToNat] at h
  split_ifs at h <;> omega

theorem hexDigitValue?_eq_some_iff {c : Char} {d : Nat} :
    hexDigitValue? c = some d ↔ HexDigit c d := by
  constructor
  · intro h
    have hdigit : ∀ n < 103, ∀ d ∈ hexDigitValue? (Char.ofNat n), HexDigit (Char.ofNat n) d := by
      decide
    have hc := hdigit c.toNat (Nat.lt_succ_of_le (toNat_le_of_hexDigitValue? h))
    rw [Char.ofNat_toNat] at hc
    exact hc d h
  · rintro ⟨hd, rfl | rfl⟩
    · revert d; decide
    · revert d; decide

/-- Every further digit has 16 times less weight than those before it. -/
theorem hexValue?_eq_some_iff {acc : Nat} {ds : List Char} {n : Nat} :
    hexValue? acc ds = some n ↔
      ∃ vs, List.Forall₂ HexDigit ds vs ∧ acc * 16 ^ ds.length + Nat.ofDigits 16 vs.reverse = n := by
  induction ds generalizing acc with
  | nil => simp [hexValue?, List.forall₂_nil_left_iff]
  | cons c ds ih =>
      simp only [hexValue?, Option.bind_eq_some_iff, hexDigitValue?_eq_some_iff, ih,
        List.forall₂_cons_left_iff]
      have hvalue (d : Nat) {vs : List Nat} (h : List.Forall₂ HexDigit ds vs) :
          (acc * 16 + d) * 16 ^ ds.length + Nat.ofDigits 16 vs.reverse =
            acc * 16 ^ (c :: ds).length + Nat.ofDigits 16 (d :: vs).reverse := by
        rw [List.reverse_cons, Nat.ofDigits_append, Nat.ofDigits_singleton, List.length_reverse,
          List.length_cons, h.length_eq]
        ring
      constructor
      · rintro ⟨d, hd, vs, hvs, rfl⟩
        exact ⟨d :: vs, ⟨d, vs, hd, hvs, rfl⟩, (hvalue d hvs).symm⟩
      · rintro ⟨_, ⟨d, vs, hd, hvs, rfl⟩, rfl⟩
        exact ⟨d, hd, vs, hvs, hvalue d hvs⟩

theorem hexNumber?_eq_some_iff {ds : List Char} {n : Nat} :
    hexNumber? ds = some n ↔ SpellsNumber ds n := by
  cases ds with
  | nil => simp [hexNumber?, SpellsNumber]
  | cons c ds => simp [hexNumber?, SpellsNumber, hexValue?_eq_some_iff]

theorem charOfNat?_eq_some_iff {n : Nat} {x : Char} : charOfNat? n = some x ↔ x.toNat = n := by
  by_cases h : n.isValidChar
  · have hchar : charOfNat? n = some (Char.ofNatAux n h) := dif_pos h
    rw [hchar, Option.some.injEq]
    constructor
    · rintro rfl
      rfl
    · rintro rfl
      exact Char.ext rfl
  · have hnone : charOfNat? n = none := dif_neg h
    rw [hnone]
    refine iff_of_false nofun ?_
    rintro rfl
    exact h x.valid

/-- The digits of a number do not begin with a sign. -/
theorem not_spellsNumber_plus {ds : List Char} {n : Nat} : ¬ SpellsNumber ('+' :: ds) n := by
  rintro ⟨-, _, hvs, -⟩
  obtain ⟨d, _, hd, -⟩ := List.forall₂_cons_left_iff.1 hvs
  exact absurd (hexDigitValue?_eq_some_iff.2 hd) (by simp [hexDigitValue?])

/-- The character of a number is spelled by its digits, and also with a plus sign before them. -/
theorem codePoint?_eq_some_iff {ds : List Char} {x : Char} :
    codePoint? ds = some x ↔
      SpellsNumber ds x.toNat ∨ ∃ ds', ds = '+' :: ds' ∧ SpellsNumber ds' x.toNat := by
  have hspells (ds : List Char) :
      (hexNumber? ds).bind charOfNat? = some x ↔ SpellsNumber ds x.toNat := by
    simp only [Option.bind_eq_some_iff, hexNumber?_eq_some_iff, charOfNat?_eq_some_iff]
    simp
  unfold codePoint?
  split
  next ds => simp [hspells, not_spellsNumber_plus]
  next hplus =>
    rw [hspells]
    refine (or_iff_left ?_).symm
    rintro ⟨ds', rfl, -⟩
    exact hplus ds' rfl

end GraphAlgebra
