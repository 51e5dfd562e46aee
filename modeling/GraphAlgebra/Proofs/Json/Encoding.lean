import GraphAlgebra.Json.Reader
import GraphAlgebra.Proofs.Text.Hexadecimal
/-!
# Written strings are read back

The escapes of a written string stand for the characters that they were written for, so every text
is the text of its written form (`Json.text?_ofText`), and different texts are written differently
(`Json.encode_injective`).
-/

namespace GraphAlgebra

namespace Json

/-- A character stands for itself, or it is written with a backslash before a letter that stands for
it, or it is a control character that is written by its number. -/
theorem encodeChar_cases (c : Char) :
    (encodeChar c = [c] ∧ c ≠ '\\') ∨
      (∃ e, encodeChar c = ['\\', e] ∧ simpleEscape? e = some c) ∨
      (c.toNat < 32 ∧ encodeChar c =
        ['\\', 'u', '0', '0', hexDigit (c.toNat / 16), hexDigit (c.toNat % 16)]) := by
  unfold encodeChar
  split
  · exact .inr (.inl ⟨'"', rfl, rfl⟩)
  · exact .inr (.inl ⟨'\\', rfl, rfl⟩)
  · exact .inr (.inl ⟨'n', rfl, rfl⟩)
  · exact .inr (.inl ⟨'r', rfl, rfl⟩)
  · exact .inr (.inl ⟨'t', rfl, rfl⟩)
  · exact .inr (.inl ⟨'b', rfl, rfl⟩)
  · exact .inr (.inl ⟨'f', rfl, rfl⟩)
  next hback _ _ _ _ _ =>
    split
    next hcontrol => exact .inr (.inr ⟨hcontrol, rfl⟩)
    next => exact .inl ⟨rfl, hback⟩

theorem decode?_cons_of_ne {c : Char} (h : c ≠ '\\') (cs : List Char) :
    decode? (c :: cs) = (decode? cs).map (c :: ·) := by
  rw [decode?.eq_def]
  simp only [if_neg h]

theorem decode?_escape {e c : Char} (h : simpleEscape? e = some c) (cs : List Char) :
    decode? ('\\' :: e :: cs) = (decode? cs).map (c :: ·) := by
  rw [decode?, if_pos rfl]
  simp only [h]

theorem decode?_unit {c : Char} {cs : List Char} (h : unit? cs = some c.toNat) :
    decode? ('\\' :: 'u' :: cs) = (decode? (cs.drop 4)).map (c :: ·) := by
  have hu : simpleEscape? 'u' = none := rfl
  have hc : charOfNat? c.toNat = some c := charOfNat?_eq_some_iff.2 rfl
  rw [decode?, if_pos rfl]
  simp only [hu, h, Option.bind_eq_bind, Option.bind_some, hc]

theorem unit?_control {n : Nat} (h : n < 32) (cs : List Char) :
    unit? ('0' :: '0' :: hexDigit (n / 16) :: hexDigit (n % 16) :: cs) = some n := by
  have hvalue : ∀ n < 32, hexValue? 0 ['0', '0', hexDigit (n / 16), hexDigit (n % 16)] = some n := by
    decide
  simpa [unit?] using hvalue n h

/-- A written character is read as that character, whatever follows it. -/
theorem decode?_encodeChar (c : Char) (cs : List Char) :
    decode? (encodeChar c ++ cs) = (decode? cs).map (c :: ·) := by
  obtain ⟨hc, hback⟩ | ⟨e, hc, he⟩ | ⟨hcontrol, hc⟩ := encodeChar_cases c
  · rw [hc]
    exact decode?_cons_of_ne hback cs
  · rw [hc]
    exact decode?_escape he cs
  · rw [hc]
    exact decode?_unit (unit?_control hcontrol cs)

theorem decode?_flatMap_encodeChar (cs : List Char) :
    decode? (cs.flatMap encodeChar) = some cs := by
  induction cs with
  | nil => rw [List.flatMap_nil, decode?]
  | cons c cs ih => rw [List.flatMap_cons, decode?_encodeChar, ih, Option.map_some]

theorem text?_ofText (s : String) : (ofText s).text? = some s := by
  rw [ofText, encode, text?, String.toList_ofList, decode?_flatMap_encodeChar, Option.map_some,
    String.ofList_toList]

theorem encode_injective : Function.Injective encode := by
  intro s t h
  have htext : (ofText s).text? = (ofText t).text? := congrArg (fun w => (string w).text?) h
  rwa [text?_ofText, text?_ofText, Option.some.injEq] at htext

end Json

end GraphAlgebra
