import GraphAlgebra.Eval.Evaluator
import GraphAlgebra.Proofs.Order.StableSort
import GraphAlgebra.Proofs.Rdf.Comparison
/-!
# Sorting solutions

Where the literal values of each sort condition are of one kind, the rows of a table are in order by
their keys. Sorting is then what it should be (`Dataset.order_sorts`): the rows are those of the
table, no row comes after one that it is smaller than, rows with equal keys stay in their order, and
a row in which a condition has no value stands where the absence of a value stands.
-/

namespace GraphAlgebra

open Std

namespace SortCondition

def key (c : SortCondition) (row : Binding) : Option Term := (c.expr.eval row).toOption

/-- The order of two rows by the condition alone. -/
def compareRows (c : SortCondition) (a b : Binding) : Ordering :=
  Table.directed c.direction (orderTerms (c.key a) (c.key b))

/-- Whether the literal values of the condition in some rows can be compared with each other: all
of them are integers, or none of them has a value other than its text. -/
def Comparable (c : SortCondition) (rows : List Binding) : Prop :=
  (∀ row ∈ rows, ∀ l, c.key row = some (.literal l) → ∃ n, l.numeric? = some (.integer n)) ∨
    ∀ row ∈ rows, ∀ l, c.key row = some (.literal l) →
      l.numeric? = none ∧ l.boolean? = none ∧ l.instant? = none

theorem Comparable.exists_kind {c : SortCondition} {rows : List Binding} (h : c.Comparable rows) :
    ∃ k, ∀ row ∈ rows, LiteralsIn (· = k) (c.key row) := by
  obtain h | h := h
  · exact ⟨.integer, fun row hrow l hl => Literal.kind_eq_integer_iff.2 (h row hrow l hl)⟩
  · refine ⟨.text, fun row hrow l hl => ?_⟩
    obtain ⟨hn, hb, hi⟩ := h row hrow l hl
    exact Literal.kind_eq_text hn hb hi

theorem Comparable.preordersOn {c : SortCondition} {rows : List Binding} (h : c.Comparable rows) :
    PreordersOn c.compareRows (· ∈ rows) := by
  obtain ⟨k, hk⟩ := h.exists_kind
  have hkey := ((preordersOn_orderTerms k).comap c.key).mono hk
  obtain ⟨expr, direction⟩ := c
  cases direction with
  | ascending => exact hkey
  | descending => exact hkey.reverse

end SortCondition

namespace Table

def compareRows (cs : List SortCondition) (a b : Binding) : Ordering :=
  compareKeys cs (keyed cs a).keys (keyed cs b).keys

theorem compareRows_cons (c : SortCondition) (cs : List SortCondition) (a b : Binding) :
    compareRows (c :: cs) a b = (c.compareRows a b).then (compareRows cs a b) := rfl

theorem compareRows_append (cs ds : List SortCondition) (a b : Binding) :
    compareRows (cs ++ ds) a b = (compareRows cs a b).then (compareRows ds a b) := by
  induction cs with
  | nil => rfl
  | cons c cs ih =>
      rw [List.cons_append, compareRows_cons, compareRows_cons, ih, Ordering.then_assoc]

theorem preordersOn_compareRows {cs : List SortCondition} {rows : List Binding}
    (h : ∀ c ∈ cs, c.Comparable rows) : PreordersOn (compareRows cs) (· ∈ rows) := by
  induction cs with
  | nil => exact (PreordersOn.comap_of_transCmp compare fun _ => 0).congr fun _ _ _ _ => rfl
  | cons c cs ih =>
      rw [List.forall_mem_cons] at h
      exact h.1.preordersOn.andThen (ih h.2)

/-- Sorting permutes the rows, whatever their keys are. -/
theorem exists_perm_of_order {t u : Table} {cs : List SortCondition} (h : t.order cs = .ok u) :
    ∃ rows : List Binding, rows.Perm t.rows ∧ u = .ofRows t.vars rows := by
  unfold order at h
  extract_lets less at h
  split at h
  case h_1 sorted hsort =>
    have hperm := (StableSort.permutes_sort less _ _ hsort).map Keyed.row
    rw [List.map_map] at hperm
    exact ⟨_, hperm.trans (.of_eq (List.map_id _)), (Except.ok.inj h).symm⟩
  case h_2 => cases h

/-- The one thing that can go wrong is that the keys turn out not to be in order. -/
theorem eq_crash_of_order {t : Table} {cs : List SortCondition} {e : Error}
    (h : t.order cs = .error e) : e = .crash := by
  unfold order at h
  extract_lets less at h
  split at h
  · cases h
  · exact (Except.error.inj h).symm

/-- A short table is sorted by insertion, which asks nothing of the keys. -/
theorem exists_order_of_length_le {t : Table} (h : t.rows.length ≤ 20) (cs : List SortCondition) :
    ∃ u, t.order cs = .ok u := by
  have hlength : (t.rows.map (keyed cs)).length ≤ 20 := by rwa [List.length_map]
  exact ⟨_, by rw [order, StableSort.sort, if_pos hlength]⟩

theorem exists_order {t : Table} {cs : List SortCondition}
    (h : PreordersOn (compareRows cs) (· ∈ t.rows)) :
    ∃ u, t.order cs = .ok u ∧ u.rows.Perm t.rows ∧ u.rows.Pairwise (compareRows cs · · ≠ .gt) ∧
      ∀ a ∈ t.rows, u.rows.filter (compareRows cs a · = .eq) =
        t.rows.filter (compareRows cs a · = .eq) := by
  let compareKeyed (a b : Keyed) := compareKeys cs a.keys b.keys
  have hkeyed : ∀ k ∈ t.rows.map (keyed cs), k.row ∈ t.rows ∧ keyed cs k.row = k :=
    List.forall_mem_map.2 fun row hrow => ⟨hrow, rfl⟩
  have hpre : PreordersOn compareKeyed (· ∈ t.rows.map (keyed cs)) := by
    refine ((h.comap Keyed.row).mono fun k hk => (hkeyed k hk).1).congr fun a b ha hb => ?_
    rw [compareRows, (hkeyed a ha).2, (hkeyed b hb).2]
  obtain ⟨sorted, hsort, hperm, hsorted, hstable⟩ := hpre.exists_sort
  have hrows (l : List Binding) : (l.map (keyed cs)).map Keyed.row = l := by
    rw [List.map_map]
    exact List.map_id _
  -- What is sorted are the rows with their keys, and the keys can be read off the rows.
  obtain ⟨rows, rfl⟩ : ∃ rows : List Binding, sorted = rows.map (keyed cs) := by
    refine ⟨sorted.map Keyed.row, ?_⟩
    rw [List.map_map]
    exact (List.map_id sorted).symm.trans
      (List.map_congr_left fun k hk => (hkeyed k (hperm.mem_iff.1 hk)).2.symm)
  have horder : t.order cs = .ok (.ofRows t.vars rows) := by
    unfold order
    extract_lets less
    rw [hsort]
    exact congrArg (fun rows => Except.ok (ofRows t.vars rows)) (hrows rows)
  refine ⟨_, horder, ?_, List.pairwise_map.1 hsorted, fun a ha => ?_⟩
  · have hperm := hperm.map Keyed.row
    rwa [hrows, hrows] at hperm
  · have hclass := congrArg (List.map Keyed.row) (hstable (keyed cs a) (List.mem_map_of_mem ha))
    rw [List.filter_map, List.filter_map, hrows, hrows] at hclass
    exact hclass

/-- Sorting permutes the rows, or it crashes on more than 20 rows that the conditions do not put in
order. -/
theorem order_eq (t : Table) (cs : List SortCondition) :
    (∃ rows : List Binding, rows.Perm t.rows ∧ t.order cs = .ok (.ofRows t.vars rows)) ∨
      t.order cs = .error .crash ∧ 20 < t.rows.length ∧
        ¬PreordersOn (compareRows cs) (· ∈ t.rows) := by
  cases h : t.order cs with
  | ok u =>
      obtain ⟨rows, hperm, rfl⟩ := exists_perm_of_order h
      exact .inl ⟨rows, hperm, rfl⟩
  | error e =>
      obtain rfl := eq_crash_of_order h
      refine .inr ⟨rfl, Nat.lt_of_not_le fun hle => ?_, fun hpre => ?_⟩
      · obtain ⟨u, hu⟩ := exists_order_of_length_le hle cs
        cases h.symm.trans hu
      · obtain ⟨u, hu, -⟩ := exists_order hpre
        cases h.symm.trans hu

/-- The absence of a value comes before any value. -/
theorem directed_ne_gt_none {d : Direction} {s t : Option Term} :
    directed d (orderTerms s t) ≠ .gt →
      match d with
      | .ascending => t = none → s = none
      | .descending => s = none → t = none := by
  intro h
  cases d with
  | ascending =>
      rintro rfl
      cases s with
      | none => rfl
      | some s => cases s <;> exact absurd rfl h
  | descending =>
      rintro rfl
      cases t with
      | none => rfl
      | some t => cases t <;> exact absurd rfl h

end Table

def SortCondition.FailsIn (c : SortCondition) (row : Binding) : Prop :=
  ∃ e, c.expr.eval row = .error e

theorem SortCondition.failsIn_iff {c : SortCondition} {row : Binding} :
    c.FailsIn row ↔ c.key row = none := by
  rw [FailsIn, key]
  cases c.expr.eval row <;> simp [Except.toOption]

variable {σ : Type}

/-- Sorting a table by conditions with comparable values permutes its rows, puts none after a
smaller one and keeps the order of the rows that compare as equal. Among rows that the earlier
conditions do not tell apart, those in which a condition fails are the first ones, or the last ones
in descending order. -/
theorem Dataset.order_sorts (d : Dataset) (procedures : Procedures σ) (active : Graph) (t : Table)
    (cs : List SortCondition) (h : ∀ c ∈ cs, c.Comparable t.rows) :
    ∃ u, (d.evaluator procedures active).order t cs = pure u ∧
      u.rows.Perm t.rows ∧
      u.rows.Pairwise (Table.compareRows cs · · ≠ .gt) ∧
      (∀ a ∈ t.rows, u.rows.filter (Table.compareRows cs a · = .eq) =
        t.rows.filter (Table.compareRows cs a · = .eq)) ∧
      ∀ before c after, cs = before ++ c :: after →
        u.rows.Pairwise fun a b => Table.compareRows before a b = .eq →
          match c.direction with
          | .ascending => c.FailsIn b → c.FailsIn a
          | .descending => c.FailsIn a → c.FailsIn b := by
  obtain ⟨u, horder, hperm, hsorted, hstable⟩ :=
    Table.exists_order (Table.preordersOn_compareRows h)
  refine ⟨u, ?_, hperm, hsorted, hstable, ?_⟩
  · change Run.ofResult (t.order cs) = _
    rw [horder]
    rfl
  · rintro before c after rfl
    refine hsorted.imp fun {a b} hab htie => ?_
    rw [Table.compareRows_append, htie, Table.compareRows_cons] at hab
    have hc : Table.directed c.direction (orderTerms (c.key a) (c.key b)) ≠ .gt := by
      intro hgt
      rw [SortCondition.compareRows, hgt] at hab
      exact hab rfl
    have hnone := Table.directed_ne_gt_none hc
    simp only [SortCondition.failsIn_iff]
    exact hnone

/-- In descending order by a number, two spellings of one number keep their order and a row without
the number comes last. -/
theorem Dataset.order_sorts_numbers :
    let x : Var := ⟨"x"⟩
    let unbound := Binding.single ⟨"n"⟩ (.string "a")
    let row (text : String) : Binding := .single x (.typed text Iri.integer)
    let t : Table := ⟨[⟨"n"⟩, x], [unbound, row "2", row "10", row "02"]⟩
    let c : SortCondition := ⟨.var x, .descending⟩
    let ev : Evaluator Unit Graph := Dataset.empty.evaluator builtinProcedures Graph.empty
    (∀ c' ∈ [c], c'.Comparable t.rows) ∧
      ∃ u, ev.order t [c] = pure u ∧ u.rows.Perm t.rows ∧
        u.rows.Pairwise (Table.compareRows [c] · · ≠ .gt) ∧
        u.rows.filter (Table.compareRows [c] (row "2") · = .eq) = [row "2", row "02"] ∧
        u.rows.Pairwise fun a b => c.FailsIn a → c.FailsIn b := by
  intro x unbound row t c ev
  have hkeys : t.rows.map c.key =
      [none, some (.typed "2" Iri.integer), some (.typed "10" Iri.integer),
        some (.typed "02" Iri.integer)] := by decide +kernel
  have hliterals : ∀ k ∈ t.rows.map c.key, LiteralsIn (· = .integer) k := by
    rw [hkeys]
    simp only [List.forall_mem_cons]
    refine ⟨nofun, ?_, ?_, ?_, nofun⟩ <;> (rintro l ⟨⟩; decide +kernel)
  have hc : ∀ c' ∈ [c], c'.Comparable t.rows := by
    rintro c' hc'
    obtain rfl := List.mem_singleton.1 hc'
    exact .inl fun r hr l hl =>
      Literal.kind_eq_integer_iff.1 (hliterals _ (List.mem_map_of_mem hr) l hl)
  obtain ⟨u, hu, hperm, hsorted, hstable, hfails⟩ :=
    Dataset.order_sorts Dataset.empty builtinProcedures Graph.empty t [c] hc
  have htie : t.rows.filter (Table.compareRows [c] (row "2") · = .eq) = [row "2", row "02"] := by
    decide +kernel
  refine ⟨hc, u, hu, hperm, hsorted, (hstable _ (by simp [t])).trans htie, ?_⟩
  exact (hfails [] c [] rfl).imp fun h => h rfl

end GraphAlgebra
