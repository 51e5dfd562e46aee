import GraphAlgebra.Text.Case
/-!
# Letters and digits of ASCII

The classes of characters that words and language tags are made of, as ranges of code points, and
what turning letters into small ones does to them.
-/

namespace GraphAlgebra

theorem isUpper_iff {c : Char} : c.isUpper = true ↔ 65 ≤ c.toNat ∧ c.toNat ≤ 90 :=
  decide_eq_true_iff

theorem isLower_iff {c : Char} : c.isLower = true ↔ 97 ≤ c.toNat ∧ c.toNat ≤ 122 :=
  Bool.and_eq_true_iff.trans (and_congr decide_eq_true_iff decide_eq_true_iff)

theorem isDecimalDigit_iff {c : Char} : c.isDigit = true ↔ 48 ≤ c.toNat ∧ c.toNat ≤ 57 :=
  Char.isDigit_iff_toNat

theorem isAlpha_iff {c : Char} : c.isAlpha = true ↔ c.isUpper = true ∨ c.isLower = true :=
  Bool.or_eq_true_iff

theorem isAlphanum_iff {c : Char} : c.isAlphanum = true ↔ c.isAlpha = true ∨ c.isDigit = true :=
  Bool.or_eq_true_iff

theorem toLower_of_not_isUpper {c : Char} (h : ¬ c.isUpper = true) : c.toLower = c :=
  dif_neg fun hrange => h (decide_eq_true hrange)

theorem toNat_toLower {c : Char} (h : c.isUpper = true) : c.toLower.toNat = c.toNat + 32 := by
  have hrange : c.val ≥ 'A'.val ∧ c.val ≤ 'Z'.val := of_decide_eq_true h
  have hle : c.toNat ≤ 90 := hrange.2
  have hval : c.toLower.val = c.val + 32 := congrArg Char.val (dif_pos hrange)
  change c.toLower.val.toNat = c.toNat + 32
  rw [hval, UInt32.toNat_add]
  change (c.toNat + 32) % 4294967296 = c.toNat + 32
  omega

theorem toLower_of_isLower {c : Char} (h : c.isLower = true) : c.toLower = c := by
  refine toLower_of_not_isUpper fun hupper => ?_
  rw [isLower_iff] at h
  rw [isUpper_iff] at hupper
  omega

theorem toLower_of_isDigit {c : Char} (h : c.isDigit = true) : c.toLower = c := by
  refine toLower_of_not_isUpper fun hupper => ?_
  rw [isDecimalDigit_iff] at h
  rw [isUpper_iff] at hupper
  omega

theorem isLower_toLower {c : Char} (h : c.isAlpha = true) : c.toLower.isLower = true := by
  by_cases hupper : c.isUpper = true
  · rw [isLower_iff, toNat_toLower hupper]
    rw [isUpper_iff] at hupper
    omega
  · rw [toLower_of_not_isUpper hupper]
    exact (isAlpha_iff.1 h).resolve_left hupper

theorem toLower_toLower (c : Char) : c.toLower.toLower = c.toLower := by
  by_cases h : c.isUpper = true
  · exact toLower_of_isLower (isLower_toLower (isAlpha_iff.2 (.inl h)))
  · rw [toLower_of_not_isUpper h, toLower_of_not_isUpper h]

theorem isUpper_toLower (c : Char) : c.toLower.isUpper = false := by
  by_cases h : c.isUpper = true
  · rw [Bool.eq_false_iff, ne_eq, isUpper_iff, toNat_toLower h]
    rw [isUpper_iff] at h
    omega
  · rw [toLower_of_not_isUpper h]
    exact Bool.eq_false_iff.2 h

theorem lowerAscii_lowerAscii (s : String) : lowerAscii (lowerAscii s) = lowerAscii s := by
  rw [lowerAscii, lowerAscii, String.toList_ofList, List.map_map]
  exact congrArg String.ofList (List.map_congr_left fun c _ => toLower_toLower c)

theorem isUpper_of_mem_lowerAscii {s : String} {c : Char} (h : c ∈ (lowerAscii s).toList) :
    c.isUpper = false := by
  rw [lowerAscii, String.toList_ofList] at h
  obtain ⟨x, -, rfl⟩ := List.mem_map.1 h
  exact isUpper_toLower x

theorem isAlphanum_toLower {c : Char} (h : c.isAlphanum = true) : c.toLower.isAlphanum = true := by
  rcases isAlphanum_iff.1 h with halpha | hdigit
  · exact isAlphanum_iff.2 (.inl (isAlpha_iff.2 (.inr (isLower_toLower halpha))))
  · rw [toLower_of_isDigit hdigit]
    exact h

end GraphAlgebra
