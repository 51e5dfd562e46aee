import GraphAlgebra.Expr.Aggregate
import Mathlib.Data.List.Induction
import Mathlib.Data.List.Nodup
import Mathlib.Data.List.Perm.Subperm
/-!
# First occurrences

The first occurrences of the elements of a list are all of its elements, each of them once, in the
order of their first places (`listsFirsts_firstOccurrences`). An order of the elements gives an order
of the first occurrences, and every one comes from some (`exists_perm_firstOccurrences_eq`). Elements
that are taken into blocks by their keys are all kept (`flatMap_filter_perm`).
-/

namespace GraphAlgebra

/-- The second list has the elements of the first one, each of them once, in the order of their
first places. -/
structure ListsFirsts {α : Type} [BEq α] (xs ys : List α) : Prop where
  mem_iff : ∀ x, x ∈ ys ↔ x ∈ xs
  increasing : ys.Pairwise fun x y => xs.idxOf x < xs.idxOf y

section

variable {α : Type} [BEq α]

theorem ListsFirsts.nodup {xs ys : List α} (h : ListsFirsts xs ys) : ys.Nodup :=
  h.increasing.imp fun hlt heq => Nat.ne_of_lt hlt (congrArg xs.idxOf heq)

theorem firstOccurrences_concat (xs : List α) (x : α) :
    firstOccurrences (xs ++ [x]) = appendNew (firstOccurrences xs) x := List.foldl_concat ..

variable [LawfulBEq α]

theorem ListsFirsts.appendNew {xs ys : List α} (h : ListsFirsts xs ys) (x : α) :
    ListsFirsts (xs ++ [x]) (appendNew ys x) := by
  have hold : ys.Pairwise fun y z => (xs ++ [x]).idxOf y < (xs ++ [x]).idxOf z := by
    refine h.increasing.imp_of_mem fun {y z} hy hz hlt => ?_
    rw [List.idxOf_append_of_mem ((h.mem_iff y).1 hy), List.idxOf_append_of_mem ((h.mem_iff z).1 hz)]
    exact hlt
  rw [GraphAlgebra.appendNew]
  split
  next hmem =>
    have hx : x ∈ xs := (h.mem_iff x).1 (List.contains_iff_mem.1 hmem)
    refine ⟨fun y => ?_, hold⟩
    rw [h.mem_iff, List.mem_append, List.mem_singleton]
    exact ⟨.inl, fun hy => hy.elim id fun heq => heq ▸ hx⟩
  next hnew =>
    have hx : x ∉ xs := fun hx => hnew (List.contains_iff_mem.2 ((h.mem_iff x).2 hx))
    refine ⟨fun y => by rw [List.mem_append, List.mem_append, h.mem_iff], ?_⟩
    refine List.pairwise_append.2 ⟨hold, List.pairwise_singleton _ x, fun y hy z hz => ?_⟩
    obtain rfl := List.mem_singleton.1 hz
    have hy : y ∈ xs := (h.mem_iff y).1 hy
    rw [List.idxOf_append_of_mem hy, List.idxOf_append_of_notMem hx]
    exact Nat.lt_add_right _ (List.idxOf_lt_length_of_mem hy)

theorem listsFirsts_firstOccurrences (xs : List α) : ListsFirsts xs (firstOccurrences xs) := by
  induction xs using List.reverseRecOn with
  | nil => exact ⟨fun _ => Iff.rfl, .nil⟩
  | append_singleton xs x ih =>
      rw [firstOccurrences_concat]
      exact ih.appendNew x

theorem firstOccurrences_perm {xs ys : List α} (h : xs.Perm ys) :
    (firstOccurrences xs).Perm (firstOccurrences ys) := by
  have hxs := listsFirsts_firstOccurrences xs
  have hys := listsFirsts_firstOccurrences ys
  refine (List.perm_ext_iff_of_nodup hxs.nodup hys.nodup).2 fun x => ?_
  rw [hxs.mem_iff, hys.mem_iff, h.mem_iff]

theorem firstOccurrences_eq_self {xs : List α} (h : xs.Nodup) : firstOccurrences xs = xs := by
  induction xs using List.reverseRecOn with
  | nil => rfl
  | append_singleton xs x ih =>
      obtain ⟨hxs, -, hx⟩ := List.nodup_append.1 h
      have hnew : xs.contains x = false := by
        simpa using fun hmem => hx x hmem x (List.mem_singleton_self x) rfl
      rw [firstOccurrences_concat, ih hxs, appendNew, hnew, if_neg Bool.false_ne_true]

theorem find?_firstOccurrences (p : α → Bool) (xs : List α) :
    (firstOccurrences xs).find? p = xs.find? p := by
  induction xs using List.reverseRecOn with
  | nil => rfl
  | append_singleton xs x ih =>
      rw [firstOccurrences_concat, appendNew, List.find?_append, ← ih]
      split
      next hold =>
        cases hfind : (firstOccurrences xs).find? p with
        | some y => rfl
        | none =>
            have hx := List.find?_eq_none.1 hfind x (List.contains_iff_mem.1 hold)
            simp [hx]
      next => rw [List.find?_append]

theorem firstOccurrences_append_of_subset {xs ys : List α} (h : ys ⊆ xs) :
    firstOccurrences (xs ++ ys) = firstOccurrences xs := by
  induction ys using List.reverseRecOn with
  | nil => rw [List.append_nil]
  | append_singleton ys y ih =>
      obtain ⟨hys, hy⟩ := List.append_subset.1 h
      have hold : (firstOccurrences xs).contains y = true := by
        rw [List.contains_iff_mem, (listsFirsts_firstOccurrences xs).mem_iff]
        exact hy (List.mem_singleton_self y)
      rw [← List.append_assoc, firstOccurrences_concat, ih hys, appendNew, if_pos hold]

/-- Every order of the first occurrences is the one that some order of the elements has. -/
theorem exists_perm_firstOccurrences_eq {xs ys : List α} (h : ys.Perm (firstOccurrences xs)) :
    ∃ zs : List α, zs.Perm xs ∧ firstOccurrences zs = ys := by
  have hfirsts := listsFirsts_firstOccurrences xs
  have hmem (x : α) : x ∈ ys ↔ x ∈ xs := by rw [h.mem_iff, hfirsts.mem_iff]
  have hys : ys.Nodup := h.nodup_iff.2 hfirsts.nodup
  have hsub : ys.Subperm xs := hys.subperm fun x hx => (hmem x).1 hx
  refine ⟨ys ++ xs.diff ys, ?_, ?_⟩
  · exact List.subperm_append_diff_self_of_count_le (List.subperm_ext_iff.1 hsub)
  · have hrest : xs.diff ys ⊆ ys := fun x hx => (hmem x).2 ((List.diff_sublist xs ys).subset hx)
    rw [firstOccurrences_append_of_subset hrest, firstOccurrences_eq_self hys]

end

/-- Every element of a list is in the block of its key, and in no other one. -/
theorem flatMap_filter_perm {α κ : Type} [DecidableEq κ] {key : α → κ} {ks : List κ}
    (hks : ks.Nodup) {as : List α} (has : ∀ a ∈ as, key a ∈ ks) :
    (ks.flatMap fun k => as.filter (key · = k)).Perm as := by
  induction ks generalizing as with
  | nil =>
      obtain rfl : as = [] := List.eq_nil_iff_forall_not_mem.2 fun a ha => by simpa using has a ha
      exact .nil
  | cons k ks ih =>
      obtain ⟨hk, hks⟩ := List.nodup_cons.1 hks
      -- The later blocks are blocks of the elements that the first one leaves.
      have hblock (k' : κ) (hk' : k' ∈ ks) :
          as.filter (key · = k') = (as.filter fun a => !decide (key a = k)).filter (key · = k') := by
        rw [List.filter_filter]
        refine List.filter_congr fun a _ => ?_
        by_cases ha : key a = k'
        · have hne : k' ≠ k := fun heq => hk (heq ▸ hk')
          simp [ha, hne]
        · simp [ha]
      have hlater : ∀ a ∈ as.filter (fun a => !decide (key a = k)), key a ∈ ks := by
        intro a ha
        obtain ⟨ha, hne⟩ := List.mem_filter.1 ha
        exact (List.mem_cons.1 (has a ha)).resolve_left (by simpa using hne)
      rw [List.flatMap_cons, List.flatMap_congr hblock]
      exact ((ih hks hlater).append_left _).trans (List.filter_append_perm _ as)

end GraphAlgebra
