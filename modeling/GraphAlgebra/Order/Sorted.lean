/-!
# Collections kept in increasing order of a key

A `Sorted key` is a list whose keys strictly increase, so it holds one entry per key and two
of them with the same entries are the same value. With the identity as key it is a finite
set, with the first component of a pair as key it is a finite map. Main statements:
`mem_insert_iff` and `mem_erase_iff` say what the updates do to the entries, and `ext_mem`
that the entries determine the collection.
-/

namespace GraphAlgebra

open Std

/-- Puts `x` at the place of its key, in exchange for an entry of the same key. -/
def insertSorted {α κ : Type} [Ord κ] (key : α → κ) (x : α) : List α → List α
  | [] => [x]
  | y :: ys =>
      match compare (key x) (key y) with
      | .lt => x :: y :: ys
      | .eq => x :: ys
      | .gt => y :: insertSorted key x ys

/-- A list of entries whose keys strictly increase. -/
structure Sorted {α κ : Type} [Ord κ] (key : α → κ) where
  toList : List α
  increasing : toList.Pairwise fun x y => compare (key x) (key y) = .lt

namespace Sorted

variable {α κ : Type} [Ord κ] {key : α → κ}

instance [DecidableEq α] : DecidableEq (Sorted key) := fun s t =>
  if h : s.toList = t.toList then
    isTrue (by cases s; cases t; simp_all)
  else
    isFalse fun e => h (by rw [e])

def empty : Sorted key := ⟨[], List.Pairwise.nil⟩

instance : Inhabited (Sorted key) := ⟨empty⟩

def size (s : Sorted key) : Nat := s.toList.length

def isEmpty (s : Sorted key) : Bool := s.toList.isEmpty

def find? (s : Sorted key) (k : κ) : Option α :=
  s.toList.find? fun x => compare (key x) k == .eq

def contains (s : Sorted key) (k : κ) : Bool := (s.find? k).isSome

def erase (s : Sorted key) (k : κ) : Sorted key :=
  ⟨s.toList.filter fun x => compare (key x) k != .eq, s.increasing.filter _⟩

def filter (p : α → Bool) (s : Sorted key) : Sorted key :=
  ⟨s.toList.filter p, s.increasing.filter p⟩

theorem mem_insertSorted [TransOrd κ] {x y : α} {l : List α}
    (h : y ∈ insertSorted key x l) : y = x ∨ y ∈ l := by
  induction l with
  | nil => simpa [insertSorted] using h
  | cons z l ih =>
      rw [insertSorted] at h
      split at h <;> simp only [List.mem_cons] at h ⊢
      · exact h
      · exact h.imp id Or.inr
      · rcases h with h | h
        · exact Or.inr (Or.inl h)
        · exact (ih h).imp id Or.inr

theorem pairwise_insertSorted [TransOrd κ] (x : α) {l : List α}
    (h : l.Pairwise fun x y => compare (key x) (key y) = .lt) :
    (insertSorted key x l).Pairwise fun x y => compare (key x) (key y) = .lt := by
  induction l with
  | nil => simp [insertSorted]
  | cons y l ih =>
      obtain ⟨hy, hl⟩ := List.pairwise_cons.1 h
      rw [insertSorted]
      split
      next hxy =>
        refine List.pairwise_cons.2 ⟨fun z hz => ?_, h⟩
        rcases List.mem_cons.1 hz with rfl | hz
        · exact hxy
        · exact TransCmp.lt_trans hxy (hy z hz)
      next hxy =>
        exact List.pairwise_cons.2
          ⟨fun z hz => TransCmp.lt_of_eq_of_lt hxy (hy z hz), hl⟩
      next hxy =>
        refine List.pairwise_cons.2 ⟨fun z hz => ?_, ih hl⟩
        rcases mem_insertSorted hz with rfl | hz
        · exact OrientedCmp.lt_of_gt hxy
        · exact hy z hz

/-- Adds an entry, in exchange for an entry of the same key. -/
def insert [TransOrd κ] (s : Sorted key) (x : α) : Sorted key :=
  ⟨insertSorted key x s.toList, pairwise_insertSorted x s.increasing⟩

/-- The collection of the entries of a list, where a later entry of a key counts. -/
def ofList [TransOrd κ] (l : List α) : Sorted key := l.foldl insert empty

@[simp] theorem toList_empty : (empty : Sorted key).toList = [] := rfl

@[simp] theorem toList_insert [TransOrd κ] (s : Sorted key) (x : α) :
    (s.insert x).toList = insertSorted key x s.toList := rfl

@[simp] theorem toList_filter (p : α → Bool) (s : Sorted key) :
    (s.filter p).toList = s.toList.filter p := rfl

theorem mem_insert_iff [TransOrd κ] {s : Sorted key} {x y : α} :
    y ∈ (s.insert x).toList ↔
      y = x ∨ (y ∈ s.toList ∧ compare (key x) (key y) ≠ .eq) := by
  obtain ⟨l, hl⟩ := s
  simp only [toList_insert]
  induction l with
  | nil => simp [insertSorted]
  | cons z l ih =>
      obtain ⟨hz, hl⟩ := List.pairwise_cons.1 hl
      have later : compare (key x) (key z) ≠ .gt →
          ∀ w ∈ l, compare (key x) (key w) = .lt := fun h w hw => by
        cases hxz : compare (key x) (key z) with
        | lt => exact TransCmp.lt_trans hxz (hz w hw)
        | eq => exact TransCmp.lt_of_eq_of_lt hxz (hz w hw)
        | gt => exact absurd hxz h
      rw [insertSorted]
      split
      next hxz =>
        simp only [List.mem_cons]
        refine or_congr_right ⟨fun h => ⟨h, ?_⟩, fun h => h.1⟩
        rcases h with rfl | h
        · simp [hxz]
        · simp [later (by simp [hxz]) y h]
      next hxz =>
        simp only [List.mem_cons]
        refine or_congr_right ⟨fun h => ⟨Or.inr h, ?_⟩, fun h => ?_⟩
        · simp [later (by simp [hxz]) y h]
        · rcases h.1 with rfl | h'
          · exact absurd hxz h.2
          · exact h'
      next hxz =>
        simp only [List.mem_cons, ih hl]
        constructor
        · rintro (rfl | h | h)
          · exact Or.inr ⟨Or.inl rfl, by simp [hxz]⟩
          · exact Or.inl h
          · exact Or.inr ⟨Or.inr h.1, h.2⟩
        · rintro (h | ⟨h | h, h'⟩)
          · exact Or.inr (Or.inl h)
          · exact Or.inl h
          · exact Or.inr (Or.inr ⟨h, h'⟩)

theorem mem_erase_iff {s : Sorted key} {k : κ} {x : α} :
    x ∈ (s.erase k).toList ↔ x ∈ s.toList ∧ compare (key x) k ≠ .eq := by
  simp [erase]

theorem ext_mem [TransOrd κ] {s t : Sorted key}
    (h : ∀ x, x ∈ s.toList ↔ x ∈ t.toList) : s = t := by
  obtain ⟨l, hl⟩ := s
  obtain ⟨m, hm⟩ := t
  simp only [Sorted.mk.injEq]
  simp only at h
  have strict : ∀ x : α, compare (key x) (key x) ≠ .lt := fun x => by simp
  have nodup : ∀ {l : List α},
      (l.Pairwise fun x y => compare (key x) (key y) = .lt) → l.Nodup := fun hl =>
    hl.imp fun {x y} hxy => fun e => strict x (by rw [← e] at hxy; exact hxy)
  have hp : l.Perm m := (List.perm_ext_iff_of_nodup (nodup hl) (nodup hm)).2 h
  refine hp.eq_of_pairwise (fun a b _ _ hab hba => ?_) hl hm
  exact absurd (TransCmp.lt_trans hab hba) (strict a)

end Sorted

abbrev SortedSet (α : Type) [Ord α] : Type := Sorted (id : α → α)

abbrev SortedMap (κ α : Type) [Ord κ] : Type := Sorted (Prod.fst : κ × α → κ)

namespace SortedMap

variable {κ α : Type} [Ord κ]

def get? (m : SortedMap κ α) (k : κ) : Option α := (m.find? k).map Prod.snd

def keys (m : SortedMap κ α) : List κ := m.toList.map Prod.fst

def set [TransOrd κ] (m : SortedMap κ α) (k : κ) (v : α) : SortedMap κ α := m.insert (k, v)

theorem isSome_get?_of_mem_keys [ReflOrd κ] {m : SortedMap κ α} {k : κ} (h : k ∈ m.keys) :
    (m.get? k).isSome := by
  obtain ⟨e, he, rfl⟩ := List.mem_map.1 h
  rw [get?, Option.isSome_map, Sorted.find?, List.find?_isSome]
  exact ⟨e, he, by simp [ReflCmp.compare_self]⟩

end SortedMap

end GraphAlgebra
