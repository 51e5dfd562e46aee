import GraphAlgebra.Order.Sorted
import Mathlib.Data.List.Nodup
/-!
# Looking up keys

A map has at most one entry of a key, so looking up a key finds a value exactly when the pair is an
entry (`SortedMap.get?_eq_some_iff`). What the updates do to the entries is restated for lookups,
and two maps in which every key has the same value are the same (`SortedMap.ext_get?`).
-/

namespace GraphAlgebra

open Std

namespace Sorted

variable {α κ : Type} [Ord κ] {key : α → κ}

theorem nodup_map_key [ReflOrd κ] (s : Sorted key) : (s.toList.map key).Nodup := by
  refine List.pairwise_map.2 (s.increasing.imp fun {x y} hlt heq => ?_)
  rw [heq, ReflOrd.compare_self] at hlt
  contradiction

theorem nodup_toList [ReflOrd κ] (s : Sorted key) : s.toList.Nodup :=
  s.nodup_map_key.of_map key

theorem eq_of_key_eq [ReflOrd κ] {s : Sorted key} {x y : α} (hx : x ∈ s.toList)
    (hy : y ∈ s.toList) (h : key x = key y) : x = y :=
  List.inj_on_of_nodup_map s.nodup_map_key hx hy h

end Sorted

namespace SortedMap

variable {κ α : Type} [Ord κ]

section

variable [LawfulEqOrd κ]

theorem get?_eq_some_iff {m : SortedMap κ α} {k : κ} {v : α} :
    m.get? k = some v ↔ (k, v) ∈ m.toList := by
  rw [get?, Option.map_eq_some_iff]
  constructor
  · rintro ⟨⟨k', v'⟩, hfind, rfl⟩
    have hkey : k' = k := by simpa using List.find?_some hfind
    exact hkey ▸ List.mem_of_find?_eq_some hfind
  · intro hmem
    have hsome : (m.find? k).isSome := List.find?_isSome.2 ⟨(k, v), hmem, by simp⟩
    obtain ⟨⟨k', v'⟩, hfind⟩ := Option.isSome_iff_exists.1 hsome
    have hkey : k' = k := by simpa using List.find?_some hfind
    have heq : (k', v') = (k, v) :=
      Sorted.eq_of_key_eq (List.mem_of_find?_eq_some hfind) hmem hkey
    exact ⟨(k', v'), hfind, congrArg Prod.snd heq⟩

theorem mem_keys_iff {m : SortedMap κ α} {k : κ} : k ∈ m.keys ↔ (m.get? k).isSome := by
  refine ⟨isSome_get?_of_mem_keys, fun h => ?_⟩
  obtain ⟨v, hv⟩ := Option.isSome_iff_exists.1 h
  exact List.mem_map_of_mem (f := Prod.fst) (get?_eq_some_iff.1 hv)

theorem get?_filter (m : SortedMap κ α) (p : κ → Bool) (k : κ) :
    get? (m.filter fun e => p e.1) k = if p k then m.get? k else none := by
  refine Option.ext fun w => ?_
  rw [get?_eq_some_iff, Sorted.toList_filter, List.mem_filter]
  by_cases h : p k = true
  · simp [h, get?_eq_some_iff]
  · simp [h]

variable [TransOrd κ]

theorem ext_get? {m n : SortedMap κ α} (h : ∀ k, m.get? k = n.get? k) : m = n := by
  refine Sorted.ext_mem fun e => ?_
  rw [← get?_eq_some_iff (k := e.1) (v := e.2), h, get?_eq_some_iff]

theorem get?_set [DecidableEq κ] (m : SortedMap κ α) (k k' : κ) (v : α) :
    (m.set k v).get? k' = if k' = k then some v else m.get? k' := by
  refine Option.ext fun w => ?_
  rw [get?_eq_some_iff, set, Sorted.mem_insert_iff]
  by_cases h : k' = k
  · simp [h, eq_comm]
  · have hne : k ≠ k' := fun heq => h heq.symm
    simp [h, hne, get?_eq_some_iff]

end

end SortedMap

namespace SortedSet

variable {α : Type} [Ord α] [TransOrd α] [LawfulEqOrd α]

theorem mem_insert_iff {s : SortedSet α} {x y : α} :
    y ∈ (s.insert x).toList ↔ y = x ∨ y ∈ s.toList := by
  rw [Sorted.mem_insert_iff]
  by_cases h : y = x
  · simp [h]
  · have hne : x ≠ y := fun heq => h heq.symm
    simp [hne]

end SortedSet

end GraphAlgebra
