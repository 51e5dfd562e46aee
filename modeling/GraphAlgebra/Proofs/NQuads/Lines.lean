import GraphAlgebra.NQuads.Document
import GraphAlgebra.Proofs.Except
/-!
# Documents line by line

A text that is joined from lines has these lines, but for an empty one at the end, which does not
count (`NQuads.exists_lines_append`). Each line is read by itself: the statements of a document are
those of its lines (`NQuads.mem_of_readLines_eq_ok`), and the document is unreadable exactly if some
line is, of which the first one gives the fault (`NQuads.readLines_eq_error_iff`).
-/

namespace GraphAlgebra

namespace NQuads

/-! ### The lines of a text -/

theorem linesFrom_append {l : List Char} (h : '\n' ∉ l) (seen rest : List Char) :
    linesFrom seen (l ++ '\n' :: rest) = endLine (l.reverse ++ seen) :: linesFrom [] rest := by
  -- What was seen of the line is kept in reverse.
  induction l generalizing seen with
  | nil => simp [linesFrom]
  | cons c l ih =>
      rw [List.mem_cons, not_or] at h
      rw [List.cons_append, linesFrom, if_neg (Ne.symm h.1), ih h.2]
      simp

theorem linesFrom_of_not_mem {l : List Char} (h : '\n' ∉ l) {seen : List Char}
    (hne : l.reverse ++ seen ≠ []) : linesFrom seen l = [seen.reverse ++ l] := by
  induction l generalizing seen with
  | nil =>
      have hseen : seen ≠ [] := by simpa using hne
      simp [linesFrom, hseen]
  | cons c l ih =>
      rw [List.mem_cons, not_or] at h
      rw [linesFrom, if_neg (Ne.symm h.1), ih h.2 (by simp)]
      simp

/-- A line without carriage returns is not shortened. -/
theorem endLine_reverse {l : List Char} (h : '\r' ∉ l) : endLine l.reverse = l := by
  rw [endLine.eq_def]
  split
  next r heq =>
    have hmem : '\r' ∈ l.reverse := heq ▸ List.mem_cons_self
    exact absurd (List.mem_reverse.1 hmem) h
  next => exact List.reverse_reverse l

theorem lines_append {l : List Char} (hn : '\n' ∉ l) (hr : '\r' ∉ l) (rest : List Char) :
    lines (l ++ '\n' :: rest) = l :: lines rest := by
  rw [lines, linesFrom_append hn, List.append_nil, endLine_reverse hr, lines]

/-- The text that is joined from some lines has these lines, but for an empty one at the end. -/
theorem exists_lines_append {ls : List String}
    (h : ∀ l ∈ ls, '\n' ∉ l.toList ∧ '\r' ∉ l.toList) :
    ∃ rest, ls.map String.toList = lines ("\n".intercalate ls).toList ++ rest ∧
      ∀ l ∈ rest, l = [] := by
  induction ls with
  | nil => exact ⟨[], rfl, List.forall_mem_nil _⟩
  | cons l ls ih =>
      obtain ⟨⟨hn, hr⟩, hls⟩ := List.forall_mem_cons.1 h
      cases ls with
      | nil =>
          rw [String.intercalate_singleton, List.map_singleton]
          by_cases hempty : l.toList = []
          · exact ⟨[[]], by rw [hempty]; rfl, List.forall_mem_singleton.2 rfl⟩
          · have hlines : lines l.toList = [l.toList] :=
              linesFrom_of_not_mem hn (by simpa using hempty)
            exact ⟨[], by rw [hlines, List.append_nil], List.forall_mem_nil _⟩
      | cons p ls =>
          obtain ⟨rest, hrest, hblank⟩ := ih hls
          have htext : ("\n".intercalate (l :: p :: ls)).toList =
              l.toList ++ '\n' :: ("\n".intercalate (p :: ls)).toList := by
            simp [String.intercalate_cons_cons]
          refine ⟨rest, ?_, hblank⟩
          rw [htext, lines_append hn hr, List.map_cons, hrest, List.cons_append]

/-! ### The statements of lines -/

theorem readLines_cons (n : Nat) (l : List Char) (ls : List (List Char)) :
    readLines n (l :: ls) =
      match readLine l with
      | .error e => .error ⟨n, e⟩
      | .ok q => (q.toList ++ ·) <$> readLines (n + 1) ls := by
  rw [readLines]
  cases readLine l with
  | error e => rfl
  | ok q => cases readLines (n + 1) ls <;> rfl

theorem readLines_append_of_blank {rest : List (List Char)} (h : ∀ l ∈ rest, l = []) (n : Nat)
    (ls : List (List Char)) : readLines n (ls ++ rest) = readLines n ls := by
  induction ls generalizing n with
  | nil =>
      have hempty : readLine [] = .ok none := rfl
      induction rest generalizing n with
      | nil => rfl
      | cons l rest ih =>
          obtain ⟨rfl, hrest⟩ := List.forall_mem_cons.1 h
          have hnil : readLines (n + 1) rest = .ok [] := ih hrest (n + 1)
          rw [List.nil_append, readLines_cons, hempty, hnil]
          rfl
  | cons l ls ih => rw [List.cons_append, readLines_cons, readLines_cons, ih]

theorem exists_readLines_eq_ok_iff {n : Nat} {ls : List (List Char)} :
    (∃ qs, readLines n ls = .ok qs) ↔ ∀ l ∈ ls, ∃ q, readLine l = .ok q := by
  induction ls generalizing n with
  | nil => simp [readLines]
  | cons l ls ih =>
      rw [readLines_cons, List.forall_mem_cons, ← ih (n := n + 1)]
      cases readLine l with
      | error e => simp
      | ok q => simp

theorem mem_of_readLines_eq_ok {n : Nat} {ls : List (List Char)} {qs : List Quad}
    (h : readLines n ls = .ok qs) {q : Quad} : q ∈ qs ↔ ∃ l ∈ ls, readLine l = .ok (some q) := by
  induction ls generalizing n qs with
  | nil =>
      obtain rfl := Except.ok.inj h
      simp
  | cons l ls ih =>
      rw [readLines_cons] at h
      cases hl : readLine l with
      | error e =>
          rw [hl] at h
          contradiction
      | ok p =>
          rw [hl] at h
          obtain ⟨ps, hps, rfl⟩ := map_eq_ok_iff.1 h
          rw [List.mem_append, ih hps, List.exists_mem_cons_iff, hl, Option.mem_toList]
          simp

/-- The fault is the one of the first line that cannot be read, where the lines are counted from
`n`. -/
def IsFirstFault (n : Nat) (ls : List (List Char)) (f : Fault) : Prop :=
  ∃ before l after, ls = before ++ l :: after ∧ f.line = n + before.length ∧
    readLine l = .error f.fault ∧ ∀ l' ∈ before, ∃ q, readLine l' = .ok q

section

variable {n : Nat} {l : List Char} {ls : List (List Char)} {f : Fault}

theorem not_isFirstFault_nil : ¬ IsFirstFault n [] f := by
  rintro ⟨before, l, after, h, -⟩
  simp at h

theorem isFirstFault_cons_of_error {e : LineFault} (hl : readLine l = .error e) :
    IsFirstFault n (l :: ls) f ↔ f = ⟨n, e⟩ := by
  constructor
  · rintro ⟨before, l', after, h, hline, hfault, hbefore⟩
    cases before with
    | nil =>
        obtain ⟨rfl, -⟩ := List.cons.inj h
        exact congrArg₂ Fault.mk hline (Except.error.inj (hfault.symm.trans hl))
    | cons l₀ before =>
        obtain ⟨rfl, -⟩ := List.cons.inj h
        obtain ⟨q, hq⟩ := hbefore _ List.mem_cons_self
        rw [hl] at hq
        contradiction
  · rintro rfl
    exact ⟨[], l, ls, rfl, rfl, hl, List.forall_mem_nil _⟩

theorem isFirstFault_cons_of_ok {q : Option Quad} (hl : readLine l = .ok q) :
    IsFirstFault n (l :: ls) f ↔ IsFirstFault (n + 1) ls f := by
  constructor
  · rintro ⟨before, l', after, h, hline, hfault, hbefore⟩
    cases before with
    | nil =>
        obtain ⟨rfl, -⟩ := List.cons.inj h
        rw [hl] at hfault
        contradiction
    | cons l₀ before =>
        obtain ⟨-, rfl⟩ := List.cons.inj h
        refine ⟨before, l', after, rfl, ?_, hfault, (List.forall_mem_cons.1 hbefore).2⟩
        rw [hline, List.length_cons]
        omega
  · rintro ⟨before, l', after, rfl, hline, hfault, hbefore⟩
    refine ⟨l :: before, l', after, rfl, ?_, hfault, List.forall_mem_cons.2 ⟨⟨q, hl⟩, hbefore⟩⟩
    rw [hline, List.length_cons]
    omega

theorem readLines_eq_error_iff : readLines n ls = .error f ↔ IsFirstFault n ls f := by
  induction ls generalizing n with
  | nil => exact iff_of_false nofun not_isFirstFault_nil
  | cons l ls ih =>
      rw [readLines_cons]
      cases hl : readLine l with
      | error e =>
          rw [isFirstFault_cons_of_error hl, Except.error.injEq]
          exact eq_comm
      | ok q => rw [isFirstFault_cons_of_ok hl, ← ih, map_eq_error_iff]

end

end NQuads

end GraphAlgebra
