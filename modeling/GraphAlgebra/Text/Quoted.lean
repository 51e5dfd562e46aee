/-!
# Quoted text

The written form of a text stands between quotation marks. Five characters are written with a
backslash before a letter or before themselves, all others stand for themselves.
-/

namespace GraphAlgebra

def escapeChar : Char → List Char
  | '"' => ['\\', '"']
  | '\\' => ['\\', '\\']
  | '\n' => ['\\', 'n']
  | '\r' => ['\\', 'r']
  | '\t' => ['\\', 't']
  | c => [c]

def escapeText (cs : List Char) : List Char := cs.flatMap escapeChar

/-- The text between quotation marks, with its special characters escaped. -/
def quoted (s : String) : String := "\"" ++ String.ofList (escapeText s.toList) ++ "\""

@[simp] theorem escapeText_nil : escapeText [] = [] := rfl

@[simp] theorem escapeText_cons (c : Char) (cs : List Char) :
    escapeText (c :: cs) = escapeChar c ++ escapeText cs := rfl

@[simp] theorem toList_quoted (s : String) :
    (quoted s).toList = '"' :: (escapeText s.toList ++ ['"']) := by
  simp [quoted]

/-- A character stands for itself inside quotation marks, or it is written with a backslash before
a letter that stands for it. -/
theorem escapeChar_cases (c : Char) :
    (escapeChar c = [c] ∧ c ≠ '"' ∧ c ≠ '\\' ∧ c ≠ '\n') ∨
      ∃ e, escapeChar c = ['\\', e] ∧
        (e, c) ∈ [('"', '"'), ('\\', '\\'), ('n', '\n'), ('r', '\r'), ('t', '\t')] := by
  unfold escapeChar
  split
  · exact .inr ⟨'"', rfl, by decide⟩
  · exact .inr ⟨'\\', rfl, by decide⟩
  · exact .inr ⟨'n', rfl, by decide⟩
  · exact .inr ⟨'r', rfl, by decide⟩
  · exact .inr ⟨'t', rfl, by decide⟩
  next hquote hback hfeed _ _ => exact .inl ⟨rfl, hquote, hback, hfeed⟩

end GraphAlgebra
