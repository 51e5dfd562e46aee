import GraphAlgebra.Proofs.Order.Occurrence
import GraphAlgebra.Proofs.Solution.Heading
import Mathlib.Data.List.Destutter
/-!
# Repeated rows

There are two ways to drop repeated rows: all rows that have come before (`Table.distinct`), or only
those that are equal to the row before them (`Table.reduced`). Both leave out nothing but elements
that have come before (`Thins`), and so they keep all elements and their first occurrences. This is
all that is needed to see how the two ways go together with each other and with unions
(`Table.distinct_reduced`).
-/

namespace GraphAlgebra

section

variable {α : Type}

/-- The second list is the first one without some elements that are seen or have come before. -/
inductive Thins : List α → List α → List α → Prop
  | nil (seen : List α) : Thins seen [] []
  | keep {seen xs ys : List α} {x : α} (h : Thins (x :: seen) xs ys) :
      Thins seen (x :: xs) (x :: ys)
  | drop {seen xs ys : List α} {x : α} (hx : x ∈ seen) (h : Thins seen xs ys) :
      Thins seen (x :: xs) ys

namespace Thins

variable {seen seen' xs ys xs' ys' : List α}

theorem mem_or_iff (h : Thins seen xs ys) {x : α} : x ∈ ys ∨ x ∈ seen ↔ x ∈ xs ∨ x ∈ seen := by
  induction h with
  | nil => exact Iff.rfl
  | keep _ ih =>
      simp only [List.mem_cons, or_left_comm, or_assoc] at ih ⊢
      exact ih
  | drop hx _ ih =>
      rw [ih, List.mem_cons, or_assoc]
      exact ⟨.inr, fun h => h.elim (fun heq => .inr (heq ▸ hx)) id⟩

theorem mem_iff (h : Thins [] xs ys) {x : α} : x ∈ ys ↔ x ∈ xs := by
  simpa using h.mem_or_iff (x := x)

theorem subset (h : Thins [] xs ys) : ys ⊆ xs := fun _ => h.mem_iff.1

theorem mono (h : Thins seen xs ys) (hsub : seen ⊆ seen') : Thins seen' xs ys := by
  induction h generalizing seen' with
  | nil => exact .nil seen'
  | keep _ ih => exact .keep (ih (List.cons_subset_cons _ hsub))
  | drop hx _ ih => exact .drop (hsub hx) (ih hsub)

theorem append (h : Thins seen xs ys) (h' : Thins seen xs' ys') :
    Thins seen (xs ++ xs') (ys ++ ys') := by
  induction h with
  | nil => exact h'
  | keep _ ih => exact .keep (ih (h'.mono (List.subset_cons_self _ _)))
  | drop hx _ ih => exact .drop hx (ih h')

/-- What is left out makes no difference to what is appended. -/
theorem foldl_appendNew [BEq α] [LawfulBEq α] (h : Thins seen xs ys) {zs : List α}
    (hsub : seen ⊆ zs) : ys.foldl appendNew zs = xs.foldl appendNew zs := by
  induction h generalizing zs with
  | nil => rfl
  | @keep seen xs ys x _ ih =>
      refine ih fun y hy => ?_
      rw [appendNew]
      split
      next hold =>
        obtain rfl | hy := List.mem_cons.1 hy
        · exact List.contains_iff_mem.1 hold
        · exact hsub hy
      next =>
        obtain rfl | hy := List.mem_cons.1 hy
        · exact List.mem_append_right zs (List.mem_singleton_self y)
        · exact List.mem_append_left _ (hsub hy)
  | drop hx _ ih =>
      rw [List.foldl_cons, appendNew, if_pos (List.contains_iff_mem.2 (hsub hx)), ih hsub]

theorem firstOccurrences_eq [BEq α] [LawfulBEq α] (h : Thins [] xs ys) :
    firstOccurrences ys = firstOccurrences xs :=
  h.foldl_appendNew (List.nil_subset _)

end Thins

variable [DecidableEq α]

/-! ### Elements that have come before -/

theorem thins_dropSeen (seen l : List α) : Thins seen l (dropSeen seen l) := by
  induction l generalizing seen with
  | nil => exact .nil seen
  | cons x l ih =>
      rw [dropSeen]
      split
      next hx => exact .drop hx (ih seen)
      next => exact .keep (ih (x :: seen))

theorem nodup_append_dropSeen {seen : List α} (hseen : seen.Nodup) (l : List α) :
    (seen.reverse ++ dropSeen seen l).Nodup := by
  induction l generalizing seen with
  | nil => simpa [dropSeen] using hseen
  | cons x l ih =>
      rw [dropSeen]
      split
      next => exact ih hseen
      next hx => simpa using ih (List.nodup_cons.2 ⟨hx, hseen⟩)

theorem dropSeen_nil_eq (l : List α) : dropSeen [] l = firstOccurrences l := by
  have hnodup : (dropSeen [] l).Nodup := nodup_append_dropSeen List.nodup_nil l
  rw [← firstOccurrences_eq_self hnodup, (thins_dropSeen [] l).firstOccurrences_eq]

/-! ### Elements that are equal to the one before -/

theorem thins_dropRepeats {seen : List α} {last : Option α} (h : ∀ x ∈ last, x ∈ seen)
    (l : List α) : Thins seen l (dropRepeats last l) := by
  induction l generalizing seen last with
  | nil => exact .nil seen
  | cons x l ih =>
      rw [dropRepeats]
      split
      next hx => exact .drop (h x hx) (ih h)
      next =>
        refine .keep (ih fun y hy => ?_)
        obtain rfl := Option.some.inj hy
        exact List.mem_cons_self

theorem cons_dropRepeats (x : α) (l : List α) :
    x :: dropRepeats (some x) l = l.destutter' (· ≠ ·) x := by
  induction l generalizing x with
  | nil => rfl
  | cons y l ih =>
      rw [dropRepeats, List.destutter'_cons]
      by_cases h : x = y
      · rw [if_pos (congrArg some h), if_neg (not_not_intro h), ih]
      · rw [if_neg fun heq => h (Option.some.inj heq), if_pos h, ih]

/-- The elements that differ from the one before them make the list that is greedily chosen to have
no repetition. -/
theorem dropRepeats_none_eq (l : List α) : dropRepeats none l = l.destutter (· ≠ ·) := by
  cases l with
  | nil => rfl
  | cons x l => exact cons_dropRepeats x l

end

/-! ### Tables -/

namespace Table

theorem rows_distinct (t : Table) : t.distinct.rows = firstOccurrences t.rows :=
  dropSeen_nil_eq t.rows

theorem rows_reduced (t : Table) : t.reduced.rows = t.rows.destutter (· ≠ ·) :=
  dropRepeats_none_eq t.rows

theorem thins_distinct (t : Table) : Thins [] t.rows t.distinct.rows := thins_dropSeen [] t.rows

theorem thins_reduced (t : Table) : Thins [] t.rows t.reduced.rows := thins_dropRepeats nofun t.rows

theorem nodup_distinct (t : Table) : t.distinct.rows.Nodup := by
  rw [rows_distinct]
  exact (listsFirsts_firstOccurrences t.rows).nodup

theorem distinct_distinct (t : Table) : t.distinct.distinct = t.distinct := by
  have hrows : dropSeen [] t.distinct.rows = t.distinct.rows := by
    rw [dropSeen_nil_eq, firstOccurrences_eq_self t.nodup_distinct]
  rw [distinct, hrows]
  exact ofRows_eq (covers_ofRows _ _)

theorem reduced_reduced (t : Table) : t.reduced.reduced = t.reduced := by
  have hrows : dropRepeats none t.reduced.rows = t.reduced.rows := by
    rw [dropRepeats_none_eq, rows_reduced, List.destutter_idem]
  rw [reduced, hrows]
  exact ofRows_eq (covers_ofRows _ _)

theorem rows_distinct_reduced (t : Table) : t.reduced.distinct.rows = t.distinct.rows := by
  rw [rows_distinct, rows_distinct, t.thins_reduced.firstOccurrences_eq]

theorem rows_reduced_distinct (t : Table) : t.distinct.reduced.rows = t.distinct.rows := by
  rw [rows_reduced, List.destutter_eq_self_iff]
  exact t.nodup_distinct.isChain

theorem rows_distinct_union (t u : Table) :
    (t.distinct.union u.distinct).distinct.rows = (t.union u).distinct.rows := by
  rw [rows_distinct, rows_distinct]
  exact (t.thins_distinct.append u.thins_distinct).firstOccurrences_eq

/-- The distinct rows of a table are all of its rows, each of them once, in the order of their first
places. The reduced rows are chosen greedily so that no row is equal to the one before it, and none
is lost. Doing either a second time changes nothing, the distinct rows are the same before and after
the others are dropped, and those of a union may be found in each of the tables before. -/
theorem distinct_reduced (t : Table) :
    (t.distinct.rows.Nodup ∧ ListsFirsts t.rows t.distinct.rows) ∧
      (t.reduced.rows.Sublist t.rows ∧ (∀ row, row ∈ t.reduced.rows ↔ row ∈ t.rows) ∧
        t.reduced.rows.IsChain (· ≠ ·) ∧ t.reduced.rows = t.rows.destutter (· ≠ ·)) ∧
      t.distinct.distinct = t.distinct ∧ t.reduced.reduced = t.reduced ∧
      t.reduced.distinct.rows = t.distinct.rows ∧ t.distinct.reduced.rows = t.distinct.rows ∧
      ∀ u : Table, (t.union u).distinct.rows = (t.distinct.union u.distinct).distinct.rows := by
  refine ⟨⟨t.nodup_distinct, ?_⟩, ⟨?_, fun _ => t.thins_reduced.mem_iff, ?_, t.rows_reduced⟩,
    t.distinct_distinct, t.reduced_reduced, t.rows_distinct_reduced, t.rows_reduced_distinct,
    fun u => (rows_distinct_union t u).symm⟩
  · rw [rows_distinct]
    exact listsFirsts_firstOccurrences t.rows
  · rw [rows_reduced]
    exact List.destutter_sublist _ t.rows
  · rw [rows_reduced]
    exact List.isChain_destutter _ t.rows

/-- A row that comes again behind another one is left out by one of the two ways. -/
example :
    let a : Binding := .single ⟨"x"⟩ (.blank "a")
    let t : Table := ⟨[], [a, a, .empty, a]⟩
    t.distinct.rows = [a, .empty] ∧ t.reduced.rows = [a, .empty, a] := by decide

end Table

end GraphAlgebra
