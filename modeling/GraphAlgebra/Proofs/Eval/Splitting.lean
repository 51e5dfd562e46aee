import GraphAlgebra.Eval.Procedure
import GraphAlgebra.Proofs.Except
import GraphAlgebra.Proofs.Rdf.Matching
/-!
# Splitting texts

A text is split at the first place of a separator, and what is behind it is split again
(`SplitsInto`). This determines the pieces (`SplitsInto.unique`): with the separator between them
they make the text, and none of them has the separator in it. The procedure that splits texts makes
a block of each row of its table, or fails because of one row (`strSplit_splits`).
-/

namespace GraphAlgebra

/-! ### The first place of a separator -/

/-- The separator begins at no place of the piece, if the rest comes behind the piece. -/
def BeginsNowhere (separator piece rest : List Char) : Prop :=
  ∀ b, b <:+ piece → b ≠ [] → ¬ separator <+: b ++ rest

section

variable {separator piece rest : List Char}

theorem beginsNowhere_nil (separator rest : List Char) : BeginsNowhere separator [] rest :=
  fun _ hsuffix hb => absurd (List.suffix_nil.1 hsuffix) hb

namespace BeginsNowhere

theorem concat {c : Char} (h : BeginsNowhere separator piece (c :: rest))
    (hc : ¬ separator <+: c :: rest) : BeginsNowhere separator (piece ++ [c]) rest := by
  intro b hsuffix hb
  rw [List.suffix_concat_iff] at hsuffix
  obtain rfl | ⟨b, rfl, hsuffix⟩ := hsuffix
  · contradiction
  · rw [List.append_assoc, List.singleton_append]
    by_cases hnil : b = []
    · rwa [hnil, List.nil_append]
    · exact h b hsuffix hnil

theorem of_append {rest' : List Char} (h : BeginsNowhere separator piece (rest ++ rest')) :
    BeginsNowhere separator piece rest := by
  intro b hsuffix hb hpre
  refine h b hsuffix hb ?_
  rw [← List.append_assoc]
  exact hpre.trans (List.prefix_append _ rest')

theorem not_infix (h : BeginsNowhere separator piece rest) (hne : separator ≠ []) :
    ¬ separator <:+: piece := by
  intro hinfix
  obtain ⟨b, hpre, hsuffix⟩ := List.infix_iff_prefix_suffix.1 hinfix
  have hb : b ≠ [] := by
    rintro rfl
    exact hne (List.prefix_nil.1 hpre)
  exact h b hsuffix hb (hpre.trans (List.prefix_append b rest))

theorem eq_nil_of_append {b rest' : List Char} (h : BeginsNowhere separator (piece ++ b) separator)
    (heq : separator ++ rest = b ++ (separator ++ rest')) : b = [] := by
  by_contra hb
  have hearlier : separator <+: b ++ separator := by
    rw [← List.append_assoc] at heq
    refine List.prefix_of_prefix_length_le (List.prefix_append separator rest) ?_ (by simp)
    exact heq ▸ List.prefix_append (b ++ separator) rest'
  exact h b (List.suffix_append piece b) hb hearlier

end BeginsNowhere

end

/-! ### The pieces of a text -/

/-- A text has some pieces between the places of a separator, which are found from left to right and
do not overlap. -/
inductive SplitsInto (separator : List Char) : List Char → List (List Char) → Prop
  | last {piece : List Char} (h : ¬ separator <:+: piece) : SplitsInto separator piece [piece]
  | next {piece rest : List Char} {pieces : List (List Char)}
      (hfirst : BeginsNowhere separator piece separator)
      (hrest : SplitsInto separator rest pieces) :
      SplitsInto separator (piece ++ separator ++ rest) (piece :: pieces)

namespace SplitsInto

variable {separator text : List Char} {pieces pieces' : List (List Char)}

theorem ne_nil (h : SplitsInto separator text pieces) : pieces ≠ [] := by
  cases h <;> exact List.cons_ne_nil _ _

theorem intercalate_eq (h : SplitsInto separator text pieces) :
    separator.intercalate pieces = text := by
  induction h with
  | last => exact List.intercalate_singleton
  | next _ hrest ih => rw [List.intercalate_cons_of_ne_nil hrest.ne_nil, ih]

theorem not_infix (h : SplitsInto separator text pieces) (hne : separator ≠ []) :
    ∀ piece ∈ pieces, ¬ separator <:+: piece := by
  induction h with
  | last h => exact List.forall_mem_singleton.2 h
  | next hfirst _ ih => exact List.forall_mem_cons.2 ⟨hfirst.not_infix hne, ih⟩

theorem unique (h : SplitsInto separator text pieces) (h' : SplitsInto separator text pieces') :
    pieces = pieces' := by
  induction h generalizing pieces' with
  | last h =>
      cases h' with
      | last => rfl
      | next => exact absurd ⟨_, _, rfl⟩ h
  | @next piece rest pieces hfirst _ ih =>
      generalize htext : piece ++ separator ++ rest = text at h'
      cases h' with
      | last h => exact absurd ⟨_, _, htext⟩ h
      | @next piece' rest' pieces' hfirst' hrest' =>
          rw [List.append_assoc, List.append_assoc, List.append_eq_append_iff] at htext
          -- The longer one of two first pieces would pass the first place behind the other one.
          have hsame : piece = piece' ∧ rest = rest' := by
            obtain ⟨b, rfl, hrest⟩ | ⟨b, rfl, hrest⟩ := htext
            · obtain rfl := hfirst'.eq_nil_of_append hrest
              simpa using hrest
            · obtain rfl := hfirst.eq_nil_of_append hrest
              simpa [eq_comm] using hrest
          obtain ⟨rfl, rfl⟩ := hsame
          rw [ih hrest']

end SplitsInto

/-- What is left of a text is split, where the separator begins at no place of the piece so far. -/
theorem splitsInto_splitFrom {separator : List Char} (hne : separator ≠ []) {fuel : Nat}
    {piece cs : List Char} (hfuel : cs.length < fuel)
    (hpiece : BeginsNowhere separator piece.reverse cs) :
    SplitsInto separator (piece.reverse ++ cs) (splitFrom separator piece fuel cs) := by
  -- Every step takes a character or the separator, so there is fuel for all that is left.
  induction fuel generalizing piece cs with
  | zero => contradiction
  | succ fuel ih =>
      cases cs with
      | nil =>
          rw [splitFrom, List.append_nil]
          exact .last (hpiece.not_infix hne)
      | cons c r =>
          rw [splitFrom]
          split
          next hsep =>
            obtain ⟨rest, hrest⟩ := List.isPrefixOf_iff_prefix.1 hsep
            rw [← hrest] at hpiece hfuel ⊢
            have hlength : rest.length < fuel := by
              have hpos := List.length_pos_iff.2 hne
              rw [List.length_append] at hfuel
              omega
            rw [List.drop_left, ← List.append_assoc]
            exact .next hpiece.of_append (@ih [] rest hlength (beginsNowhere_nil separator rest))
          next hsep =>
            have hnext : BeginsNowhere separator (c :: piece).reverse r := by
              rw [List.reverse_cons]
              exact hpiece.concat fun hpre => hsep (List.isPrefixOf_iff_prefix.2 hpre)
            have hsplit := ih (Nat.lt_of_succ_lt_succ hfuel) hnext
            rwa [List.reverse_cons, List.append_assoc, List.singleton_append] at hsplit

theorem splitsInto_splitText {separator : List Char} (hne : separator ≠ []) (cs : List Char) :
    SplitsInto separator cs (splitText separator cs) :=
  @splitsInto_splitFrom separator hne (cs.length + 1) [] cs (Nat.lt_succ_self _)
    (beginsNowhere_nil separator cs)

/-! ### Arguments -/

def Error.OfArguments (e : Error) : Prop := ∃ f, e = .procedureArgs f

theorem argumentText_eq_of_instantiate? {p : TermPattern} {row : Binding} {t : Term}
    (h : p.instantiate? row = some t) : argumentText p row = argumentText (.term t) row := by
  cases p with
  | term s =>
      obtain rfl := Option.some.inj h
      rfl
  | var v =>
      have hget : row.get? v = some t := h
      simp only [argumentText, hget]

theorem argumentText_eq_ok_iff {p : TermPattern} {row : Binding} {s : String} :
    argumentText p row = .ok s ↔ ∃ l, p.instantiate? row = some (.literal l) ∧ l.lexical = s := by
  cases h : p.instantiate? row with
  | some t =>
      rw [argumentText_eq_of_instantiate? h]
      cases t <;> simp [argumentText]
  | none =>
      cases p with
      | term t => contradiction
      | var v =>
          have hget : row.get? v = none := h
          simp [argumentText, hget]

theorem argumentText_failsOnly (p : TermPattern) (row : Binding) :
    FailsOnly Error.OfArguments (argumentText p row) := by
  cases h : p.instantiate? row with
  | some t =>
      rw [argumentText_eq_of_instantiate? h]
      cases t with
      | iri i => exact .error ⟨_, rfl⟩
      | blank label => exact .error ⟨_, rfl⟩
      | literal l => exact .ok _
  | none =>
      cases p with
      | term t => contradiction
      | var v =>
          have hget : row.get? v = none := h
          rw [argumentText, hget]
          exact .error ⟨_, rfl⟩

/-! ### Blocks of rows -/

/-- The row gives a text and a separator that is not empty. -/
def Splittable (text separator : TermPattern) (row : Binding) : Prop :=
  ∃ l s, text.instantiate? row = some (.literal l) ∧
    separator.instantiate? row = some (.literal s) ∧ s.lexical ≠ ""

/-- The rows that some pieces make of a row: it gets each of them for a free variable, and it stays
as it is for each of them that is the term of a bound one. -/
def rowsOfPieces (v : Var) (row : Binding) (pieces : List String) : List Binding :=
  match row.get? v with
  | none => pieces.map fun piece => row.set v (.string piece)
  | some t => List.replicate (pieces.countP fun piece => .string piece = t) row

/-- The block of a row is made of the pieces of its text: joined by the separator they are the text,
and none of them contains the separator. -/
def SplitBlock (v : Var) (text separator : TermPattern) (row : Binding)
    (block : List Binding) : Prop :=
  ∃ (l s : Literal) (pieces : List String),
    text.instantiate? row = some (.literal l) ∧ separator.instantiate? row = some (.literal s) ∧
    SplitsInto s.lexical.toList l.lexical.toList (pieces.map String.toList) ∧
    s.lexical.intercalate pieces = l.lexical ∧
    (∀ piece ∈ pieces, ¬ s.lexical.toList <:+: piece.toList) ∧
    block = rowsOfPieces v row pieces

theorem filterMap_unify?_eq (v : Var) (row : Binding) (pieces : List String) :
    (pieces.filterMap fun piece => row.unify? (.var v) (.string piece)) =
      rowsOfPieces v row pieces := by
  rw [rowsOfPieces]
  cases hget : row.get? v with
  | none => simp [Binding.unify?, hget]
  | some t =>
      have hunify (piece : String) : row.unify? (.var v) (.string piece) =
          if .string piece = t then some row else none := by
        simp [Binding.unify?, hget, eq_comm]
      simp only [hunify]
      induction pieces with
      | nil => rfl
      | cons piece pieces ih =>
          rw [List.filterMap_cons, List.countP_cons, ih]
          by_cases h : .string piece = t
          · simp [h, List.replicate_succ]
          · simp [h]

variable {v : Var} {text separator : TermPattern} {row : Binding} {block : List Binding}

theorem splitRow_failsOnly (v : Var) (text separator : TermPattern) (row : Binding) :
    FailsOnly Error.OfArguments (splitRow v text separator row) := by
  refine (argumentText_failsOnly text row).bind fun _ =>
    (argumentText_failsOnly separator row).bind fun _ => ?_
  split
  · exact .error ⟨_, rfl⟩
  · exact .ok _

theorem splitRow_eq_ok_iff :
    splitRow v text separator row = .ok block ↔
      ∃ l s, text.instantiate? row = some (.literal l) ∧
        separator.instantiate? row = some (.literal s) ∧ s.lexical ≠ "" ∧
        rowsOfPieces v row ((splitText s.lexical.toList l.lexical.toList).map String.ofList) =
          block := by
  simp only [splitRow, bind_eq_ok_iff, argumentText_eq_ok_iff]
  constructor
  · rintro ⟨_, ⟨l, hl, rfl⟩, _, ⟨s, hs, rfl⟩, h⟩
    split at h
    next => contradiction
    next hne =>
      refine ⟨l, s, hl, hs, fun heq => hne (String.isEmpty_iff.2 heq), ?_⟩
      rw [← filterMap_unify?_eq, List.filterMap_map]
      exact Except.ok.inj h
  · rintro ⟨l, s, hl, hs, hne, rfl⟩
    refine ⟨_, ⟨l, hl, rfl⟩, _, ⟨s, hs, rfl⟩, ?_⟩
    rw [if_neg fun h => hne (String.isEmpty_iff.1 h), ← filterMap_unify?_eq, List.filterMap_map]
    rfl

theorem exists_splitRow_eq_ok_iff :
    (∃ block, splitRow v text separator row = .ok block) ↔ Splittable text separator row := by
  simp only [splitRow_eq_ok_iff]
  constructor
  · rintro ⟨_, l, s, hl, hs, hne, -⟩
    exact ⟨l, s, hl, hs, hne⟩
  · rintro ⟨l, s, hl, hs, hne⟩
    exact ⟨_, l, s, hl, hs, hne, rfl⟩

theorem splitBlock_of_splitRow (h : splitRow v text separator row = .ok block) :
    SplitBlock v text separator row block := by
  obtain ⟨l, s, hl, hs, hne, rfl⟩ := splitRow_eq_ok_iff.1 h
  have hne : s.lexical.toList ≠ [] := fun h => hne (String.toList_eq_nil_iff.1 h)
  have hsplit := splitsInto_splitText hne l.lexical.toList
  have hpieces : ((splitText s.lexical.toList l.lexical.toList).map String.ofList).map
      String.toList = splitText s.lexical.toList l.lexical.toList := by
    simp [Function.comp_def]
  refine ⟨l, s, _, hl, hs, hpieces.symm ▸ hsplit, ?_, ?_, rfl⟩
  · rw [← String.toList_inj, String.toList_intercalate, hpieces, hsplit.intercalate_eq]
  · intro piece hpiece
    refine hsplit.not_infix hne piece.toList ?_
    rw [← hpieces]
    exact List.mem_map_of_mem hpiece

/-! ### Tables -/

/-- If every row of a table has a text and a separator that is not empty, then the rows of the
result are one block after the other, each made of the pieces of one text. If some row has not,
there is no result. -/
theorem strSplit_splits (t : Table) (v : Var) (text separator : TermPattern) :
    let args : ProcedureArgs := .subjectObject (.place (.var v)) (.list [text, separator])
    ((∀ row ∈ t.rows, Splittable text separator row) →
      ∃ blocks, strSplit t args = .ok (.ofRows [] blocks.flatten) ∧
        List.Forall₂ (SplitBlock v text separator) t.rows blocks) ∧
    ((∃ row ∈ t.rows, ¬ Splittable text separator row) →
      ∃ f, strSplit t args = .error (.procedureArgs f)) := by
  intro args
  have hrun : strSplit t args =
      (t.rows.mapM (splitRow v text separator) >>= fun blocks => .ok (.ofRows [] blocks.flatten)) :=
    rfl
  constructor
  · intro h
    obtain ⟨blocks, hblocks⟩ := exists_mapM_eq_ok fun row hrow =>
      (exists_splitRow_eq_ok_iff (v := v)).2 (h row hrow)
    refine ⟨blocks, by rw [hrun, hblocks]; rfl, ?_⟩
    exact (forall₂_of_mapM_eq_ok hblocks).imp fun _ _ => splitBlock_of_splitRow
  · rintro ⟨row, hrow, hnot⟩
    cases hblocks : t.rows.mapM (splitRow v text separator) with
    | ok blocks =>
        have hrow := exists_eq_ok_of_mapM_eq_ok hblocks row hrow
        exact absurd (exists_splitRow_eq_ok_iff.1 hrow) hnot
    | error e =>
        obtain ⟨f, rfl⟩ := FailsOnly.mapM (splitRow_failsOnly v text separator) t.rows e hblocks
        exact ⟨f, by rw [hrun, hblocks]; rfl⟩

/-- The separator of the first row overlaps itself in the text. The second row binds the variable to
a piece that its text has twice. A further row without a separator leaves no result. -/
theorem strSplit_splits_overlapping :
    let x : Var := ⟨"text"⟩
    let y : Var := ⟨"separator"⟩
    let v : Var := ⟨"piece"⟩
    let row (text separator : String) : Binding :=
      (Binding.single x (.string text)).set y (.string separator)
    let bound : Binding := (row "b,a,b" ",").set v (.string "b")
    let t : Table := ⟨[x, y], [row "aaa" "aa", bound]⟩
    let u : Table := t.push (.single x (.string "a"))
    let args : ProcedureArgs := .subjectObject (.place (.var v)) (.list [.var x, .var y])
    (∀ row ∈ t.rows, Splittable (.var x) (.var y) row) ∧
      (∃ blocks, strSplit t args = .ok (.ofRows [] blocks.flatten) ∧
        List.Forall₂ (SplitBlock v (.var x) (.var y)) t.rows blocks) ∧
      strSplit t args = .ok ⟨[v, y, x],
        [(row "aaa" "aa").set v (.string ""), (row "aaa" "aa").set v (.string "a"), bound, bound]⟩ ∧
      (∃ row ∈ u.rows, ¬ Splittable (.var x) (.var y) row) ∧
      ∃ f, strSplit u args = .error (.procedureArgs f) := by
  intro x y v row bound t u args
  have hrow : Splittable (.var x) (.var y) (row "aaa" "aa") :=
    ⟨.simple "aaa", .simple "aa", by decide, by decide, by decide⟩
  have hbound : Splittable (.var x) (.var y) bound :=
    ⟨.simple "b,a,b", .simple ",", by decide, by decide, by decide⟩
  have ht : ∀ row ∈ t.rows, Splittable (.var x) (.var y) row := by
    simp [t, hrow, hbound]
  have hu : ∃ row ∈ u.rows, ¬ Splittable (.var x) (.var y) row := by
    refine ⟨.single x (.string "a"), List.mem_append_right _ (List.mem_singleton_self _), ?_⟩
    rintro ⟨_, s, -, hs, -⟩
    have hnone : (TermPattern.var y).instantiate? (.single x (.string "a")) = none := by decide
    rw [hnone] at hs
    contradiction
  exact ⟨ht, (strSplit_splits t v (.var x) (.var y)).1 ht, by decide, hu,
    (strSplit_splits u v (.var x) (.var y)).2 hu⟩

end GraphAlgebra
