import GraphAlgebra.Proofs.Order.Lookup
import GraphAlgebra.Solution.Algebra
/-!
# Merging solutions

A solution is known by what it binds (`Binding.ext_get?`). The merge of two solutions exists
exactly when they agree on the variables that both bind, and it is their union
(`Binding.merge?_eq_some_iff`). So solutions make a partial commutative monoid, with the solution
that binds nothing as its unit (`Binding.merge?_laws`).
-/

namespace GraphAlgebra

namespace Binding

theorem get?_eq_some_iff {b : Binding} {v : Var} {t : Term} :
    b.get? v = some t ↔ (v, t) ∈ b.toList :=
  SortedMap.get?_eq_some_iff

theorem mem_vars_iff {b : Binding} {v : Var} : v ∈ b.vars ↔ (b.get? v).isSome :=
  SortedMap.mem_keys_iff

theorem mem_vars_of_get? {b : Binding} {v : Var} {t : Term} (h : b.get? v = some t) : v ∈ b.vars :=
  mem_vars_iff.2 (h ▸ rfl)

theorem get?_eq_none {b : Binding} {v : Var} (h : v ∉ b.vars) : b.get? v = none :=
  Option.not_isSome_iff_eq_none.1 (mt mem_vars_iff.2 h)

theorem ext_get? {a b : Binding} (h : ∀ v, a.get? v = b.get? v) : a = b := SortedMap.ext_get? h

@[simp] theorem get?_empty (v : Var) : empty.get? v = none := rfl

theorem get?_set (b : Binding) (v w : Var) (t : Term) :
    Binding.get? (b.set v t) w = if w = v then some t else b.get? w :=
  SortedMap.get?_set b v w t

theorem get?_single (v w : Var) (t : Term) :
    (single v t).get? w = if w = v then some t else none :=
  get?_set empty v w t

theorem get?_restrict (b : Binding) (vs : List Var) (v : Var) :
    (b.restrict vs).get? v = if v ∈ vs then b.get? v else none := by
  have h := SortedMap.get?_filter b (fun w => vs.contains w) v
  simp only [List.contains_iff_mem] at h
  exact h

def Extends (m b : Binding) : Prop := ∀ v t, b.get? v = some t → m.get? v = some t

namespace Extends

theorem refl (b : Binding) : Extends b b := fun _ _ h => h

theorem trans {a b m : Binding} (h : m.Extends b) (h' : b.Extends a) : m.Extends a :=
  fun v t ht => h v t (h' v t ht)

/-- A solution is the only one with its variables that another solution extends. -/
theorem unique {a b m : Binding} (ha : m.Extends a) (hb : m.Extends b)
    (h : ∀ v, (a.get? v).isSome ↔ (b.get? v).isSome) : a = b := by
  refine ext_get? fun v => ?_
  cases hv : a.get? v with
  | none =>
      have hnone : ¬ (b.get? v).isSome := by rw [← h, hv]; nofun
      exact (Option.not_isSome_iff_eq_none.1 hnone).symm
  | some s =>
      have hsome : (b.get? v).isSome := by rw [← h, hv]; rfl
      obtain ⟨t, ht⟩ := Option.isSome_iff_exists.1 hsome
      rw [ht, ← ha v s hv, hb v t ht]

end Extends

/-- `m` binds what either of two solutions binds, which agree on the variables that both bind. -/
structure IsUnion (a b m : Binding) : Prop where
  agree : ∀ v s t, a.get? v = some s → b.get? v = some t → s = t
  get?_iff : ∀ v t, m.get? v = some t ↔ a.get? v = some t ∨ b.get? v = some t

/-- A solution admits the terms of another one if they agree. -/
theorem admitsAll_iff {a b : Binding} :
    b.admitsAll a = true ↔ ∀ v s t, a.get? v = some s → b.get? v = some t → s = t := by
  simp only [admitsAll, List.all_eq_true, Prod.forall, ← get?_eq_some_iff, admits]
  constructor
  · intro h v s t hs ht
    have h := h v s hs
    rw [ht] at h
    exact (beq_iff_eq.1 h).symm
  · intro h v s hs
    split
    next t ht => exact beq_iff_eq.2 (h v s t hs ht).symm
    next => rfl

theorem admitsAll_comm (a b : Binding) : a.admitsAll b = b.admitsAll a := by
  rw [Bool.eq_iff_iff, admitsAll_iff, admitsAll_iff]
  exact ⟨fun h v s t hs ht => (h v t s ht hs).symm, fun h v s t hs ht => (h v t s ht hs).symm⟩

theorem compatible_iff {a b : Binding} :
    a.compatible b = true ↔ ∀ v s t, a.get? v = some s → b.get? v = some t → s = t := by
  rw [compatible, admitsAll_comm a b, ite_self, admitsAll_iff]

theorem get?_addIfFree (b : Binding) (e : Var × Term) (v : Var) :
    (b.addIfFree e).get? v = (b.get? v).or (if v = e.1 then some e.2 else none) := by
  unfold addIfFree
  split
  next h =>
    obtain ⟨t, ht⟩ := Option.isSome_iff_exists.1 h
    by_cases hv : v = e.1
    · rw [hv, ht, Option.some_or]
    · rw [if_neg hv, Option.or_none]
  next h =>
    rw [get?_set]
    by_cases hv : v = e.1
    · rw [if_pos hv, if_pos hv, hv, Option.not_isSome_iff_eq_none.1 h, Option.none_or]
    · rw [if_neg hv, if_neg hv, Option.or_none]

/-- Bindings that are added in turn give a variable the term that it has, or else the first one
that is added for it. -/
theorem get?_foldl_addIfFree (l : List (Var × Term)) (a : Binding) (v : Var) :
    Binding.get? (l.foldl addIfFree a) v =
      (a.get? v).or ((l.find? fun e => e.1 = v).map Prod.snd) := by
  induction l generalizing a with
  | nil => simp
  | cons e l ih =>
      rw [List.foldl_cons, ih, get?_addIfFree, Option.or_assoc, List.find?_cons]
      by_cases h : e.1 = v
      · simp [h]
      · have hv : v ≠ e.1 := fun heq => h heq.symm
        simp [h, hv]

theorem get?_foldl_addIfFree_toList (a b : Binding) (v : Var) :
    Binding.get? (b.toList.foldl addIfFree a) v = (a.get? v).or (b.get? v) := by
  have h : (b.toList.find? fun e => e.1 = v).map Prod.snd = b.get? v := by
    rw [get?, SortedMap.get?, Sorted.find?]
    congr 2
    funext e
    rw [Bool.eq_iff_iff, decide_eq_true_iff, beq_iff_eq, Std.LawfulEqOrd.compare_eq_iff_eq]
  rw [get?_foldl_addIfFree, h]

/-- Two solutions have a merge exactly when they agree, and it is their union. -/
theorem merge?_eq_some_iff {a b m : Binding} : a.merge? b = some m ↔ IsUnion a b m := by
  have hget (h : a.compatible b = true) (v : Var) (t : Term) :
      Binding.get? (b.toList.foldl addIfFree a) v = some t ↔
        a.get? v = some t ∨ b.get? v = some t := by
    rw [get?_foldl_addIfFree_toList]
    cases ha : a.get? v with
    | none => simp
    | some s =>
        rw [Option.some_or]
        refine ⟨.inl, fun h' => h'.elim id fun ht => ?_⟩
        rw [compatible_iff.1 h v s t ha ht]
  rw [merge?]
  constructor
  · intro h
    split at h
    next hc =>
      obtain rfl := Option.some.inj h
      exact ⟨compatible_iff.1 hc, hget hc⟩
    next => contradiction
  · rintro ⟨hagree, hm⟩
    have hc : a.compatible b = true := compatible_iff.2 hagree
    rw [if_pos hc]
    refine congrArg some (ext_get? fun v => Option.ext fun t => ?_)
    rw [hget hc, hm]

theorem isUnion_single_iff {a m : Binding} {v : Var} {t : Term} :
    IsUnion a (single v t) m ↔
      m.get? v = some t ∧ (∀ s, a.get? v = some s → s = t) ∧ ∀ w, w ≠ v → m.get? w = a.get? w := by
  constructor
  · rintro ⟨hagree, hm⟩
    refine ⟨(hm v t).2 (.inr (by simp [get?_single])), fun s hs => ?_, fun w hw => ?_⟩
    · exact hagree v s t hs (by simp [get?_single])
    · refine Option.ext fun s => ?_
      simp [hm, get?_single, hw]
  · rintro ⟨hv, hagree, hm⟩
    refine ⟨fun w s u hs hu => ?_, fun w s => ?_⟩
    · rw [get?_single] at hu
      split at hu
      next heq => exact (hagree s (heq ▸ hs)).trans (Option.some.inj hu)
      next => contradiction
    · by_cases hw : w = v
      · subst hw
        rw [hv, get?_single, if_pos rfl]
        refine ⟨.inr, fun h => h.elim (fun hs => ?_) id⟩
        rw [hagree s hs]
      · rw [hm w hw, get?_single, if_neg hw]
        simp

theorem isUnion_iff {a b m : Binding} :
    IsUnion a b m ↔ ∀ v t, m.get? v = some t ↔ a.get? v = some t ∨ b.get? v = some t := by
  constructor
  · intro h
    exact h.get?_iff
  · intro h
    refine ⟨?_, h⟩
    intro v s t hs ht
    exact Option.some.inj (((h v s).2 (.inl hs)).symm.trans ((h v t).2 (.inr ht)))

theorem IsUnion.extends_left {a b m : Binding} (h : IsUnion a b m) : m.Extends a :=
  fun v t ht => (h.get?_iff v t).2 (.inl ht)

/-- A union gives a variable what the left solution gives it, or else what the right one does. -/
theorem IsUnion.get?_eq_or {a b m : Binding} (h : IsUnion a b m) (v : Var) :
    m.get? v = (a.get? v).or (b.get? v) := by
  cases ha : a.get? v with
  | some t => rw [Option.some_or, h.extends_left v t ha]
  | none =>
      rw [Option.none_or]
      refine Option.ext fun t => ?_
      rw [h.get?_iff, ha]
      simp

theorem IsUnion.get?_eq_left {a b m : Binding} (h : IsUnion a b m) {v : Var}
    (hv : v ∈ b.vars → v ∈ a.vars) : m.get? v = a.get? v := by
  rw [h.get?_eq_or]
  cases ha : a.get? v with
  | some t => rfl
  | none =>
      have hb : v ∉ b.vars := fun hmem => by simpa [mem_vars_iff, ha] using hv hmem
      rw [Option.none_or, get?_eq_none hb]

theorem IsUnion.restrict_left {a b m : Binding} (h : IsUnion a b m) : m.restrict a.vars = a := by
  refine ext_get? fun v => ?_
  rw [get?_restrict]
  by_cases hv : v ∈ a.vars
  · rw [if_pos hv, h.get?_eq_left fun _ => hv]
  · rw [if_neg hv, get?_eq_none hv]

theorem exists_isUnion {a b m : Binding} (ha : ∀ v t, a.get? v = some t → m.get? v = some t)
    (hb : ∀ v t, b.get? v = some t → m.get? v = some t) : ∃ x, IsUnion a b x := by
  have hc : a.compatible b = true := by
    rw [compatible_iff]
    intro v s t hs ht
    exact Option.some.inj ((ha v s hs).symm.trans (hb v t ht))
  exact ⟨_, merge?_eq_some_iff.1 (if_pos hc)⟩

/-! ### Laws of merging -/

theorem IsUnion.symm {a b m : Binding} (h : IsUnion a b m) : IsUnion b a m :=
  isUnion_iff.2 fun v t => (h.get?_iff v t).trans or_comm

theorem merge?_comm (a b : Binding) : a.merge? b = b.merge? a := by
  refine Option.ext fun m => ?_
  rw [merge?_eq_some_iff, merge?_eq_some_iff]
  exact ⟨IsUnion.symm, IsUnion.symm⟩

theorem merge?_empty (a : Binding) : a.merge? empty = some a :=
  merge?_eq_some_iff.2 (isUnion_iff.2 fun v t => by simp)

theorem empty_merge? (a : Binding) : empty.merge? a = some a := by
  rw [merge?_comm, merge?_empty]

theorem merge?_self (a : Binding) : a.merge? a = some a :=
  merge?_eq_some_iff.2 (isUnion_iff.2 fun _ _ => or_self_iff.symm)

/-- Three solutions have a merge when one solution binds what any of them binds. -/
theorem bind_merge?_eq_some_iff {a b c m : Binding} :
    (a.merge? b).bind (·.merge? c) = some m ↔
      ∀ v t, m.get? v = some t ↔ (a.get? v = some t ∨ b.get? v = some t) ∨ c.get? v = some t := by
  simp only [Option.bind_eq_some_iff, merge?_eq_some_iff]
  constructor
  · rintro ⟨x, hx, hm⟩ v t
    rw [hm.get?_iff, hx.get?_iff]
  · intro h
    obtain ⟨x, hx⟩ := exists_isUnion (a := a) (b := b) (m := m)
      (fun v t ha => (h v t).2 (.inl (.inl ha))) fun v t hb => (h v t).2 (.inl (.inr hb))
    refine ⟨x, hx, isUnion_iff.2 fun v t => ?_⟩
    rw [h, hx.get?_iff]

theorem bind_merge?_right_comm (a b c : Binding) :
    (a.merge? b).bind (·.merge? c) = (a.merge? c).bind (·.merge? b) := by
  refine Option.ext fun m => ?_
  rw [bind_merge?_eq_some_iff, bind_merge?_eq_some_iff]
  exact forall₂_congr fun _ _ => iff_congr Iff.rfl or_right_comm

theorem merge?_assoc (a b c : Binding) :
    (a.merge? b).bind (·.merge? c) = (b.merge? c).bind a.merge? := by
  rw [merge?_comm a b, bind_merge?_right_comm, funext (merge?_comm a)]

/-- It makes no difference whether a solution is merged with two others before or after these are
merged with each other. -/
theorem merge?_bind_merge? (a b c : Binding) :
    (a.merge? b).bind (·.merge? c) =
      (a.merge? c).bind fun a' => (b.merge? c).bind fun b' => a'.merge? b' := by
  have hself (x : Binding) : (x.merge? c).bind (·.merge? c) = x.merge? c := by
    rw [merge?_assoc, merge?_self, Option.bind_some]
  calc (a.merge? b).bind (·.merge? c)
      = (a.merge? b).bind fun x => (x.merge? c).bind (·.merge? c) := by simp only [hself]
    _ = ((a.merge? c).bind (·.merge? b)).bind (·.merge? c) := by
        rw [← Option.bind_assoc, bind_merge?_right_comm]
    _ = (a.merge? c).bind fun a' => (a'.merge? b).bind (·.merge? c) := Option.bind_assoc ..
    _ = (a.merge? c).bind fun a' => (b.merge? c).bind fun b' => a'.merge? b' :=
        congrArg _ (funext fun a' => merge?_assoc a' b c)

theorem isSome_merge?_iff {a b : Binding} :
    (a.merge? b).isSome ↔ ∀ v s t, a.get? v = some s → b.get? v = some t → s = t := by
  rw [merge?, Option.isSome_ite, compatible_iff]

/-- Solutions make a partial commutative monoid under merging. Two of them have a merge exactly if
they have the same term for every variable that both bind, and it makes no difference which of them
is gone through to see this. A merge gives a variable the term of the first solution or else that of
the second one, and the variables of either of them restrict it to that solution. The order of two
solutions makes no difference, nor does it which two of three are merged first, whether there is a
merge or not, and the solution that binds nothing is neutral. -/
theorem merge?_laws (a b c : Binding) :
    ((a.merge? b).isSome ↔ ∀ v s t, a.get? v = some s → b.get? v = some t → s = t) ∧
      (a.merge? b).isSome = a.admitsAll b ∧ (a.merge? b).isSome = b.admitsAll a ∧
      (∀ m, a.merge? b = some m →
        (∀ v, m.get? v = (a.get? v).or (b.get? v)) ∧
          m.restrict a.vars = a ∧ m.restrict b.vars = b) ∧
      a.merge? b = b.merge? a ∧
      (a.merge? b).bind (·.merge? c) = (b.merge? c).bind a.merge? ∧
      a.merge? empty = some a ∧ empty.merge? a = some a := by
  have hadmits : (a.merge? b).isSome = b.admitsAll a := by
    rw [Bool.eq_iff_iff, isSome_merge?_iff, admitsAll_iff]
  refine ⟨isSome_merge?_iff, hadmits.trans (admitsAll_comm b a), hadmits, fun m hm => ?_,
    merge?_comm a b, merge?_assoc a b c, merge?_empty a, empty_merge? a⟩
  have hunion : IsUnion a b m := merge?_eq_some_iff.1 hm
  exact ⟨hunion.get?_eq_or, hunion.restrict_left, hunion.symm.restrict_left⟩

/-- The first two solutions share one variable and agree on it, and the smaller one stands on the
right or on the left. The third one disagrees with the second one only, so there is no merge of all
three, in whatever way they are merged. -/
theorem merge?_laws_overlapping :
    let x : Var := ⟨"x"⟩
    let y : Var := ⟨"y"⟩
    let z : Var := ⟨"z"⟩
    let one : Term := .blank "1"
    let two : Term := .blank "2"
    let a : Binding := (Binding.single x one).set y two
    let b : Binding := ((Binding.single y two).set z one).set ⟨"w"⟩ one
    let c : Binding := (Binding.single x one).set z two
    let m : Binding := b.set x one
    a.merge? b = some m ∧ b.merge? a = some m ∧ m.restrict a.vars = a ∧ m.restrict b.vars = b ∧
      (a.merge? c).isSome ∧ b.merge? c = none ∧ (a.merge? b).bind (·.merge? c) = none := by
  intro x y z one two a b c m
  have hm : a.merge? b = some m := by decide
  have hbc : b.merge? c = none := by decide
  obtain ⟨-, -, -, hparts, hcomm, hassoc, -⟩ := merge?_laws a b c
  obtain ⟨-, ha, hb⟩ := hparts m hm
  refine ⟨hm, hcomm.symm.trans hm, ha, hb, by decide, hbc, ?_⟩
  rw [hassoc, hbc]
  rfl

end Binding

namespace Table

theorem mem_join_iff {l r : Table} {m : Binding} :
    m ∈ (l.join r).rows ↔ ∃ a ∈ l.rows, ∃ b ∈ r.rows, Binding.IsUnion a b m := by
  simp only [join, rows_ofRows, List.mem_flatMap, List.mem_filterMap, Binding.merge?_eq_some_iff]

end Table

end GraphAlgebra
