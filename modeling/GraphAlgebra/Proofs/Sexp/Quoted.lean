import GraphAlgebra.Sexp.Lexer
import GraphAlgebra.Text.Quoted
/-!
# Quoted texts are read back

Main statement: `Token.string?_escapeText`, a text between quotation marks is scanned as that
text, whatever follows the closing mark.
-/

namespace GraphAlgebra

namespace Token

theorem escape?_of_mem {e c : Char}
    (h : (e, c) ∈ [('"', '"'), ('\\', '\\'), ('n', '\n'), ('r', '\r'), ('t', '\t')]) :
    e ≠ '\n' ∧ ∀ cs, escape? e cs = some (c, 0) := by
  simp only [List.mem_cons, Prod.mk.injEq, List.not_mem_nil, or_false] at h
  rcases h with ⟨rfl, rfl⟩ | ⟨rfl, rfl⟩ | ⟨rfl, rfl⟩ | ⟨rfl, rfl⟩ | ⟨rfl, rfl⟩
  all_goals exact ⟨by decide, fun _ => rfl⟩

theorem bodyLength?_quote (cs : List Char) : bodyLength? ('"' :: cs) = some 0 := by
  unfold bodyLength?
  exact if_pos rfl

theorem bodyLength?_cons_of_ne {c : Char} (hquote : c ≠ '"') (hback : c ≠ '\\') (cs : List Char) :
    bodyLength? (c :: cs) = (bodyLength? cs).map (· + 1) := by
  rw [bodyLength?.eq_def]
  simp only [if_neg hquote, if_neg hback]

theorem bodyLength?_escape {e : Char} (he : e ≠ '\n') (cs : List Char) :
    bodyLength? ('\\' :: e :: cs) = (bodyLength? cs).map (· + 2) := by
  rw [bodyLength?.eq_def]
  simp only [if_neg (by decide : '\\' ≠ '"'), if_pos, if_neg he]

theorem bodyLength?_escapeText (cs rest : List Char) :
    bodyLength? (escapeText cs ++ '"' :: rest) = some (escapeText cs).length := by
  induction cs with
  | nil => exact bodyLength?_quote rest
  | cons c cs ih =>
      rcases escapeChar_cases c with ⟨hc, hquote, hback, -⟩ | ⟨e, hc, he⟩
      · rw [escapeText_cons, hc, List.append_assoc, List.singleton_append,
          bodyLength?_cons_of_ne hquote hback, ih]
        rfl
      · rw [escapeText_cons, hc, List.append_assoc]
        change bodyLength? ('\\' :: e :: (escapeText cs ++ '"' :: rest)) = _
        rw [bodyLength?_escape (escape?_of_mem he).1, ih]
        rfl

theorem resolve?_cons_of_ne {c : Char} (h : c ≠ '\\') (cs : List Char) :
    resolve? (c :: cs) = (resolve? cs).map (c :: ·) := by
  rw [resolve?.eq_def]
  simp only [if_neg h]

theorem resolve?_escape {e x : Char} {cs : List Char} {n : Nat} (h : escape? e cs = some (x, n)) :
    resolve? ('\\' :: e :: cs) = (resolve? (cs.drop n)).map (x :: ·) := by
  rw [resolve?.eq_def]
  simp only [if_pos, h]
  rfl

theorem resolve?_escapeText (cs : List Char) : resolve? (escapeText cs) = some cs := by
  induction cs with
  | nil => simp [resolve?]
  | cons c cs ih =>
      rcases escapeChar_cases c with ⟨hc, -, hback, -⟩ | ⟨e, hc, he⟩
      · rw [escapeText_cons, hc, List.singleton_append, resolve?_cons_of_ne hback, ih]
        rfl
      · rw [escapeText_cons, hc]
        change resolve? ('\\' :: e :: escapeText cs) = _
        rw [resolve?_escape ((escape?_of_mem he).2 _), List.drop_zero, ih]
        rfl

/-- A quoted text is scanned as that text, whatever follows it. -/
theorem string?_escapeText (s : String) (rest : List Char) :
    string? (escapeText s.toList ++ '"' :: rest) =
      some (.string s, (escapeText s.toList).length + 1) := by
  simp [string?, bodyLength?_escapeText, resolve?_escapeText]

end Token

end GraphAlgebra
