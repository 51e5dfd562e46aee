import Mathlib.Data.List.Forall2
/-!
# Results that may be errors

When a computation over `Except` succeeds, each of its steps does. `FailsOnly` says which errors a
computation may end in, and `YieldsOnly` which results it may have; they follow the shape of the
computation.
-/

namespace GraphAlgebra

variable {ε α β : Type}

@[simp] theorem bind_eq_ok_iff {x : Except ε α} {f : α → Except ε β} {b : β} :
    x >>= f = .ok b ↔ ∃ a, x = .ok a ∧ f a = .ok b := by
  cases x with
  | error e => simp [bind, Except.bind]
  | ok a => simp [bind, Except.bind]

@[simp] theorem map_eq_ok_iff {f : α → β} {x : Except ε α} {b : β} :
    f <$> x = .ok b ↔ ∃ a, x = .ok a ∧ f a = b := by
  cases x with
  | error e => simp [Functor.map, Except.map]
  | ok a => simp [Functor.map, Except.map]

@[simp] theorem map_eq_error_iff {f : α → β} {x : Except ε α} {e : ε} :
    f <$> x = .error e ↔ x = .error e := by
  cases x with
  | error e => simp [Functor.map, Except.map]
  | ok a => simp [Functor.map, Except.map]

theorem toOption_map (f : α → β) (x : Except ε α) : (f <$> x).toOption = x.toOption.map f := by
  cases x <;> rfl

/-- A computation goes on where a check does not throw. -/
theorem ite_throw_eq_ok_iff {c : Prop} [Decidable c] {e : ε} {x : Except ε α} {a : α} :
    (if c then (do throw e; x) else x) = .ok a ↔ ¬ c ∧ x = .ok a := by
  split
  next hc => exact iff_of_false nofun fun h => h.1 hc
  next hc => exact (and_iff_right hc).symm

theorem forall₂_of_mapM_eq_ok {f : α → Except ε β} {as : List α} {bs : List β}
    (h : as.mapM f = .ok bs) : List.Forall₂ (fun a b => f a = .ok b) as bs := by
  induction as generalizing bs with
  | nil =>
      obtain rfl : [] = bs := Except.ok.inj h
      exact .nil
  | cons a as ih =>
      simp only [List.mapM_cons, bind_eq_ok_iff] at h
      obtain ⟨b, hb, bs, hbs, heq⟩ := h
      obtain rfl := Except.ok.inj heq
      exact .cons hb (ih hbs)

theorem exists_eq_ok_of_mapM_eq_ok {f : α → Except ε β} {as : List α} {bs : List β}
    (h : as.mapM f = .ok bs) : ∀ a ∈ as, ∃ b, f a = .ok b := by
  have hpairs := forall₂_of_mapM_eq_ok h
  clear h
  induction hpairs with
  | nil => exact List.forall_mem_nil _
  | cons hb _ ih => exact List.forall_mem_cons.2 ⟨⟨_, hb⟩, ih⟩

theorem forall_of_mapM_eq_ok {read : α → Except ε β} {p : α → Prop} {q : β → Prop}
    (hread : ∀ a b, p a → read a = .ok b → q b) {as : List α} {bs : List β}
    (h : as.mapM read = .ok bs) (has : ∀ a ∈ as, p a) : ∀ b ∈ bs, q b := by
  have hpairs := forall₂_of_mapM_eq_ok h
  clear h
  induction hpairs with
  | nil => simp
  | cons hb _ ih =>
      obtain ⟨ha, has⟩ := List.forall_mem_cons.1 has
      exact List.forall_mem_cons.2 ⟨hread _ _ ha hb, ih has⟩

theorem mapError_eq_error_iff {ε' : Type} {f : ε → ε'} {x : Except ε α} {e' : ε'} :
    x.mapError f = .error e' ↔ ∃ e, x = .error e ∧ f e = e' := by
  cases x with
  | error e =>
      change (Except.error (f e) : Except ε' α) = .error e' ↔ _
      simp
  | ok a =>
      change (Except.ok a : Except ε' α) = .error e' ↔ _
      simp

theorem exists_mapM_eq_ok {f : α → Except ε β} {as : List α}
    (h : ∀ a ∈ as, ∃ b, f a = .ok b) : ∃ bs, as.mapM f = .ok bs := by
  induction as with
  | nil => exact ⟨[], rfl⟩
  | cons a as ih =>
      obtain ⟨ha, has⟩ := List.forall_mem_cons.1 h
      obtain ⟨b, hb⟩ := ha
      obtain ⟨bs, hbs⟩ := ih has
      exact ⟨b :: bs, by rw [List.mapM_cons, hb, hbs]; rfl⟩

def FailsOnly (p : ε → Prop) (x : Except ε α) : Prop := ∀ e, x = .error e → p e

namespace FailsOnly

variable {p : ε → Prop}

theorem ok (a : α) : FailsOnly p (.ok a : Except ε α) := nofun

theorem error {e : ε} (h : p e) : FailsOnly p (.error e : Except ε α) := by
  intro e' he
  obtain rfl := Except.error.inj he
  exact h

theorem bind {x : Except ε α} {f : α → Except ε β} (hx : FailsOnly p x)
    (hf : ∀ a, FailsOnly p (f a)) : FailsOnly p (x >>= f) := by
  cases x with
  | error e => exact .error (hx e rfl)
  | ok a => exact hf a

theorem map {x : Except ε α} (hx : FailsOnly p x) (f : α → β) : FailsOnly p (f <$> x) := by
  cases x with
  | error e => exact .error (hx e rfl)
  | ok a => exact .ok (f a)

theorem foldlM {f : β → α → Except ε β} (hf : ∀ b a, FailsOnly p (f b a)) (l : List α) (b : β) :
    FailsOnly p (l.foldlM f b) := by
  induction l generalizing b with
  | nil => exact .ok b
  | cons a l ih =>
      rw [List.foldlM_cons]
      exact (hf b a).bind ih

theorem mapM {f : α → Except ε β} (hf : ∀ a, FailsOnly p (f a)) (l : List α) :
    FailsOnly p (l.mapM f) := by
  induction l with
  | nil => exact .ok []
  | cons a l ih =>
      rw [List.mapM_cons]
      exact (hf a).bind fun _ => ih.bind fun _ => .ok _

end FailsOnly

def YieldsOnly (p : α → Prop) (x : Except ε α) : Prop := ∀ a, x = .ok a → p a

namespace YieldsOnly

variable {p : α → Prop} {q : β → Prop}

theorem ok {a : α} (h : p a) : YieldsOnly p (.ok a : Except ε α) := by
  intro b hb
  obtain rfl := Except.ok.inj hb
  exact h

theorem error (e : ε) : YieldsOnly p (.error e : Except ε α) := nofun

theorem bind {x : Except ε α} {f : α → Except ε β} (hx : YieldsOnly p x)
    (hf : ∀ a, p a → YieldsOnly q (f a)) : YieldsOnly q (x >>= f) := by
  cases x with
  | error e => exact .error e
  | ok a => exact hf a (hx a rfl)

/-- What goes on after a value need not know anything of it. -/
theorem of_bind {x : Except ε α} {f : α → Except ε β} (hf : ∀ a, YieldsOnly q (f a)) :
    YieldsOnly q (x >>= f) :=
  bind (fun _ _ => trivial) fun a (_ : True) => hf a

theorem map {f : α → β} (h : ∀ a, q (f a)) (x : Except ε α) : YieldsOnly q (f <$> x) := by
  cases x with
  | error e => exact .error e
  | ok a => exact .ok (h a)

theorem foldlM {f : β → α → Except ε β} {l : List α}
    (hf : ∀ b, q b → ∀ a ∈ l, YieldsOnly q (f b a)) {b : β} (hb : q b) :
    YieldsOnly q (l.foldlM f b) := by
  induction l generalizing b with
  | nil => exact .ok hb
  | cons a l ih =>
      rw [List.foldlM_cons]
      refine bind (hf b hb a List.mem_cons_self) fun b' hb' => ?_
      exact ih (fun b hb a ha => hf b hb a (List.mem_cons_of_mem _ ha)) hb'

end YieldsOnly

end GraphAlgebra
