/-!
# Comparisons that put some elements in order

A comparison may be total and transitive among some elements of a type without being so on the whole
type. `PreordersOn f p` says that it is so among the elements with the property `p`: there it agrees
with a comparison that is lawful everywhere. Orders by one comparison and then another, and reversed
ones, are of this kind again.
-/

namespace GraphAlgebra

open Std

variable {α β : Type}

/-- Among the elements with a property a comparison agrees with a lawful one. -/
def PreordersOn (f : α → α → Ordering) (p : α → Prop) : Prop :=
  ∃ cmp : α → α → Ordering, TransCmp cmp ∧ ∀ a b, p a → p b → f a b = cmp a b

/-- The order of two elements that may be absent, absence first. -/
def compareOptions (f : α → α → Ordering) : Option α → Option α → Ordering
  | none, none => .eq
  | none, some _ => .lt
  | some _, none => .gt
  | some a, some b => f a b

theorem compareOptions_swap {f : α → α → Ordering} (h : ∀ a b, f b a = (f a b).swap)
    (o o' : Option α) : compareOptions f o' o = (compareOptions f o o').swap := by
  cases o <;> cases o'
  case some.some a b => exact h a b
  all_goals rfl

instance (cmp : α → α → Ordering) [TransCmp cmp] : TransCmp (compareOptions cmp) where
  eq_swap {o o'} := compareOptions_swap (f := cmp) (fun _ _ => OrientedCmp.eq_swap) o' o
  isLE_trans := by
    rintro (_ | a) (_ | b) (_ | c) hab hbc
    case some.some.some =>
      have hac : (cmp a c).isLE := TransCmp.isLE_trans hab hbc
      exact hac
    all_goals first | rfl | cases hab | cases hbc

theorem transCmp_comap (cmp : α → α → Ordering) [TransCmp cmp] (f : β → α) :
    TransCmp fun a b => cmp (f a) (f b) where
  eq_swap := OrientedCmp.eq_swap
  isLE_trans := TransCmp.isLE_trans

namespace PreordersOn

variable {f g : α → α → Ordering} {p q : α → Prop}

theorem of_transCmp (cmp : α → α → Ordering) [h : TransCmp cmp] : PreordersOn cmp p :=
  ⟨cmp, h, fun _ _ _ _ => rfl⟩

theorem mono (h : PreordersOn f p) (hq : ∀ a, q a → p a) : PreordersOn f q := by
  obtain ⟨cmp, hcmp, heq⟩ := h
  exact ⟨cmp, hcmp, fun a b ha hb => heq a b (hq a ha) (hq b hb)⟩

theorem congr (h : PreordersOn f p) (hg : ∀ a b, p a → p b → g a b = f a b) :
    PreordersOn g p := by
  obtain ⟨cmp, hcmp, heq⟩ := h
  exact ⟨cmp, hcmp, fun a b ha hb => (hg a b ha hb).trans (heq a b ha hb)⟩

theorem comap (h : PreordersOn f p) (k : β → α) :
    PreordersOn (fun a b => f (k a) (k b)) fun b => p (k b) := by
  obtain ⟨cmp, hcmp, heq⟩ := h
  exact ⟨fun a b => cmp (k a) (k b), transCmp_comap cmp k, fun a b => heq (k a) (k b)⟩

theorem comap_of_transCmp (cmp : α → α → Ordering) [TransCmp cmp] (k : β → α) {q : β → Prop} :
    PreordersOn (fun a b => cmp (k a) (k b)) q :=
  ((of_transCmp cmp (p := fun _ => True)).comap k).mono fun _ _ => trivial

theorem reverse (h : PreordersOn f p) : PreordersOn (fun a b => (f a b).swap) p := by
  obtain ⟨cmp, hcmp, heq⟩ := h
  refine ⟨fun a b => cmp b a, ?_, fun a b ha hb => ?_⟩
  · exact {
      eq_swap := OrientedCmp.eq_swap
      isLE_trans := fun hab hbc => TransCmp.isLE_trans hbc hab }
  · exact (congrArg Ordering.swap (heq a b ha hb)).trans OrientedCmp.eq_swap.symm

/-- A second comparison may decide where the first one does not. -/
theorem andThen (hf : PreordersOn f p) (hg : PreordersOn g p) :
    PreordersOn (fun a b => (f a b).then (g a b)) p := by
  obtain ⟨cmp, hcmp, heq⟩ := hf
  obtain ⟨cmp', hcmp', heq'⟩ := hg
  refine ⟨compareLex cmp cmp', inferInstance, fun a b ha hb => ?_⟩
  change (f a b).then (g a b) = (cmp a b).then (cmp' a b)
  rw [heq a b ha hb, heq' a b ha hb]

theorem option (h : PreordersOn f p) :
    PreordersOn (compareOptions f) fun o => ∀ a, o = some a → p a := by
  obtain ⟨cmp, hcmp, heq⟩ := h
  refine ⟨compareOptions cmp, inferInstance, fun o o' ho ho' => ?_⟩
  cases o with
  | none => cases o' <;> rfl
  | some a =>
      cases o' with
      | none => rfl
      | some b => exact heq a b (ho a rfl) (ho' b rfl)

theorem trans (h : PreordersOn f p) {a b c : α} (ha : p a) (hb : p b) (hc : p c)
    (hab : f a b ≠ .gt) (hbc : f b c ≠ .gt) : f a c ≠ .gt := by
  obtain ⟨cmp, hcmp, heq⟩ := h
  rw [heq a b ha hb, ne_eq, ← Ordering.isLE_iff_ne_gt] at hab
  rw [heq b c hb hc, ne_eq, ← Ordering.isLE_iff_ne_gt] at hbc
  rw [heq a c ha hc, ne_eq, ← Ordering.isLE_iff_ne_gt]
  exact TransCmp.isLE_trans hab hbc

theorem gt_iff_gt (h : PreordersOn f p) {a b c : α} (ha : p a) (hb : p b) (hc : p c)
    (hiff : f a b = .gt ↔ f b c = .gt) : f a c = .gt ↔ f a b = .gt := by
  by_cases hab : f a b = .gt
  · obtain ⟨cmp, hcmp, heq⟩ := h
    have hbc := hiff.1 hab
    rw [heq a b ha hb] at hab
    rw [heq b c hb hc] at hbc
    rw [heq a c ha hc, heq a b ha hb]
    exact iff_of_true (TransCmp.gt_trans hab hbc) hab
  · exact iff_of_false (h.trans ha hb hc hab fun hbc => hab (hiff.2 hbc)) hab

end PreordersOn

end GraphAlgebra
