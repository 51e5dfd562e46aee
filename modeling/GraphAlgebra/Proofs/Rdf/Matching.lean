import GraphAlgebra.Proofs.Solution.Merge
import GraphAlgebra.Rdf.Graph
import Mathlib.Data.List.Nodup
/-!
# The matches of a pattern

A solution instantiates a template when it binds all its variables. Making a template agree with a
triple finds the least extension that instantiates it to the triple (`Binding.unifyTriple?_sound`,
`Binding.unifyTriple?_complete`). So the matches of a pattern are the solutions that bind its
variables and no others and instantiate every template to a triple of the graph
(`Graph.mem_matchPattern_iff`), and no match is listed twice (`Graph.nodup_matchPattern`).
-/

namespace GraphAlgebra

/-! ### Templates under a solution -/

def TermPattern.instantiate? (b : Binding) : TermPattern → Option Term
  | .var v => b.get? v
  | .term t => some t

def TriplePattern.instantiate? (b : Binding) (p : TriplePattern) : Option Triple :=
  match p.subject.instantiate? b, p.predicate.instantiate? b, p.object.instantiate? b with
  | some s, some p, some o => some ⟨s, p, o⟩
  | _, _, _ => none

def BasicPattern.vars (ps : BasicPattern) : List Var := ps.flatMap TriplePattern.vars

theorem TriplePattern.instantiate?_eq_some_iff {b : Binding} {p : TriplePattern} {t : Triple} :
    p.instantiate? b = some t ↔
      p.subject.instantiate? b = some t.subject ∧
        p.predicate.instantiate? b = some t.predicate ∧
        p.object.instantiate? b = some t.object := by
  obtain ⟨s, p', o⟩ := t
  unfold instantiate?
  split
  next hs hp ho => simp [hs, hp, ho]
  next h =>
    refine iff_of_false nofun ?_
    rintro ⟨hs, hp, ho⟩
    exact h _ _ _ hs hp ho

theorem TriplePattern.mem_vars_iff {p : TriplePattern} {v : Var} :
    v ∈ p.vars ↔ p.subject = .var v ∨ p.predicate = .var v ∨ p.object = .var v := by
  have hvar (q : TermPattern) : q.var? = some v ↔ q = .var v := by
    cases q <;> simp [TermPattern.var?]
  simp only [vars, List.mem_filterMap, List.mem_cons, List.not_mem_nil, or_false,
    exists_eq_or_imp, exists_eq_left, hvar]

theorem TermPattern.instantiate?_congr {a b : Binding} {p : TermPattern}
    (h : ∀ v, p = .var v → a.get? v = b.get? v) : p.instantiate? a = p.instantiate? b := by
  cases p with
  | var v => exact h v rfl
  | term t => rfl

theorem TriplePattern.instantiate?_congr {a b : Binding} {p : TriplePattern}
    (h : ∀ v ∈ p.vars, a.get? v = b.get? v) : p.instantiate? a = p.instantiate? b := by
  simp only [mem_vars_iff] at h
  rw [instantiate?, instantiate?,
    TermPattern.instantiate?_congr fun v hv => h v (.inl hv),
    TermPattern.instantiate?_congr fun v hv => h v (.inr (.inl hv)),
    TermPattern.instantiate?_congr fun v hv => h v (.inr (.inr hv))]

namespace Binding

namespace Extends

theorem instantiate?_eq_some {b m : Binding} (h : m.Extends b) {p : TermPattern} {t : Term}
    (hp : p.instantiate? b = some t) : p.instantiate? m = some t := by
  cases p with
  | var v => exact h v t hp
  | term s => exact hp

theorem instantiateTriple?_eq_some {b m : Binding} (h : m.Extends b) {p : TriplePattern}
    {t : Triple} (hp : p.instantiate? b = some t) : p.instantiate? m = some t := by
  rw [TriplePattern.instantiate?_eq_some_iff] at hp ⊢
  exact ⟨h.instantiate?_eq_some hp.1, h.instantiate?_eq_some hp.2.1, h.instantiate?_eq_some hp.2.2⟩

end Extends

/-! ### Agreement with a triple -/

theorem unify?_sound {b m : Binding} {p : TermPattern} {t : Term} (h : b.unify? p t = some m) :
    m.Extends b ∧ p.instantiate? m = some t ∧
      ∀ v, (m.get? v).isSome ↔ (b.get? v).isSome ∨ p = .var v := by
  cases p with
  | term s =>
      rw [unify?] at h
      split at h
      next heq =>
        obtain rfl := Option.some.inj h
        exact ⟨.refl b, congrArg some heq, fun v => by simp⟩
      next => contradiction
  | var w =>
      rw [unify?] at h
      split at h
      next s hs =>
        split at h
        next heq =>
          obtain rfl := Option.some.inj h
          refine ⟨.refl b, heq ▸ hs, fun v => ⟨.inl, fun hv => hv.elim id ?_⟩⟩
          rintro ⟨rfl⟩
          rw [hs]
          rfl
        next => contradiction
      next hnone =>
        obtain rfl := Option.some.inj h
        refine ⟨fun v s hs => ?_, ?_, fun v => ?_⟩
        · have hne : v ≠ w := by
            rintro rfl
            rw [hnone] at hs
            contradiction
          rw [get?_set, if_neg hne, hs]
        · exact (get?_set b w w t).trans (if_pos rfl)
        · rw [get?_set]
          by_cases hv : v = w
          · simp [hv]
          · have hne : w ≠ v := fun heq => hv heq.symm
            simp [hv, hne]

theorem unify?_complete {b m : Binding} {p : TermPattern} {t : Term} (h : m.Extends b)
    (hp : p.instantiate? m = some t) : ∃ b', b.unify? p t = some b' ∧ m.Extends b' := by
  cases p with
  | term s => exact ⟨b, if_pos (Option.some.inj hp), h⟩
  | var w =>
      rw [unify?]
      cases hw : b.get? w with
      | some s =>
          have heq : s = t := Option.some.inj ((h w s hw).symm.trans hp)
          exact ⟨b, if_pos heq, h⟩
      | none =>
          refine ⟨_, rfl, fun v s hs => ?_⟩
          rw [get?_set] at hs
          split at hs
          next heq =>
            obtain rfl := Option.some.inj hs
            exact heq ▸ hp
          next => exact h v s hs

theorem unifyTriple?_eq_some_iff {b m : Binding} {p : TriplePattern} {t : Triple} :
    b.unifyTriple? p t = some m ↔
      ∃ b₁ b₂, b.unify? p.subject t.subject = some b₁ ∧
        b₁.unify? p.predicate t.predicate = some b₂ ∧ b₂.unify? p.object t.object = some m := by
  simp only [unifyTriple?, Option.bind_eq_bind, Option.bind_eq_some_iff, exists_and_left]

theorem unifyTriple?_sound {b m : Binding} {p : TriplePattern} {t : Triple}
    (h : b.unifyTriple? p t = some m) :
    m.Extends b ∧ p.instantiate? m = some t ∧
      ∀ v, (m.get? v).isSome ↔ (b.get? v).isSome ∨ v ∈ p.vars := by
  obtain ⟨b₁, b₂, hs, hp, ho⟩ := unifyTriple?_eq_some_iff.1 h
  obtain ⟨hext₁, hs, hvars₁⟩ := unify?_sound hs
  obtain ⟨hext₂, hp, hvars₂⟩ := unify?_sound hp
  obtain ⟨hext₃, ho, hvars₃⟩ := unify?_sound ho
  refine ⟨hext₃.trans (hext₂.trans hext₁), ?_, fun v => ?_⟩
  · rw [TriplePattern.instantiate?_eq_some_iff]
    exact ⟨(hext₃.trans hext₂).instantiate?_eq_some hs, hext₃.instantiate?_eq_some hp, ho⟩
  · rw [hvars₃, hvars₂, hvars₁, TriplePattern.mem_vars_iff, or_assoc, or_assoc]

theorem unifyTriple?_complete {b m : Binding} {p : TriplePattern} {t : Triple}
    (h : m.Extends b) (hp : p.instantiate? m = some t) :
    ∃ b', b.unifyTriple? p t = some b' ∧ m.Extends b' := by
  obtain ⟨hs, hp, ho⟩ := TriplePattern.instantiate?_eq_some_iff.1 hp
  obtain ⟨b₁, hb₁, hext₁⟩ := unify?_complete h hs
  obtain ⟨b₂, hb₂, hext₂⟩ := unify?_complete hext₁ hp
  obtain ⟨b₃, hb₃, hext₃⟩ := unify?_complete hext₂ ho
  exact ⟨b₃, unifyTriple?_eq_some_iff.2 ⟨b₁, b₂, hb₁, hb₂, hb₃⟩, hext₃⟩

end Binding

namespace Graph

open Binding

/-! ### Patterns -/

/-- A solution instantiates every template of a pattern to a triple of the graph. -/
def Satisfies (g : Graph) (ps : BasicPattern) (m : Binding) : Prop :=
  ∀ p ∈ ps, ∃ t ∈ g.toList, p.instantiate? m = some t

theorem satisfies_nil (g : Graph) (m : Binding) : g.Satisfies [] m := List.forall_mem_nil _

theorem satisfies_cons_iff {g : Graph} {p : TriplePattern} {ps : BasicPattern} {m : Binding} :
    g.Satisfies (p :: ps) m ↔ (∃ t ∈ g.toList, p.instantiate? m = some t) ∧ g.Satisfies ps m :=
  List.forall_mem_cons

theorem satisfies_congr {g : Graph} {ps : BasicPattern} {a b : Binding}
    (h : ∀ v ∈ ps.vars, a.get? v = b.get? v) : g.Satisfies ps a ↔ g.Satisfies ps b := by
  refine forall₂_congr fun p hp => ?_
  rw [TriplePattern.instantiate?_congr fun v hv => h v (List.mem_flatMap.2 ⟨p, hp, hv⟩)]

theorem mem_extend_iff {g : Graph} {p : TriplePattern} {b m : Binding} :
    m ∈ g.extend p b ↔ ∃ t ∈ g.toList, b.unifyTriple? p t = some m :=
  List.mem_filterMap

/-- Matching finds the least extensions of the given solutions that satisfy the pattern. -/
theorem mem_solutions_iff {g : Graph} {ps : BasicPattern} {bs : List Binding} {m : Binding} :
    m ∈ g.solutions bs ps ↔
      ∃ b ∈ bs, m.Extends b ∧ g.Satisfies ps m ∧
        ∀ v, (m.get? v).isSome ↔ (b.get? v).isSome ∨ v ∈ ps.vars := by
  induction ps generalizing bs with
  | nil =>
      constructor
      · intro h
        exact ⟨m, h, .refl m, g.satisfies_nil m, fun v => by simp [BasicPattern.vars]⟩
      · rintro ⟨b, hb, hext, -, hvars⟩
        have hsame (v : Var) : (m.get? v).isSome ↔ (b.get? v).isSome := by
          simp [hvars, BasicPattern.vars]
        exact (Extends.refl m).unique hext hsame ▸ hb
  | cons p ps ih =>
      have hvars (v : Var) :
          v ∈ BasicPattern.vars (p :: ps) ↔ v ∈ p.vars ∨ v ∈ BasicPattern.vars ps :=
        List.mem_append
      simp only [solutions, ih, List.mem_flatMap, mem_extend_iff]
      constructor
      · rintro ⟨b', ⟨b, hb, t, ht, hunify⟩, hext, hps, hbound⟩
        obtain ⟨hext', hp, hbound'⟩ := unifyTriple?_sound hunify
        refine ⟨b, hb, hext.trans hext', ?_, fun v => ?_⟩
        · exact satisfies_cons_iff.2 ⟨⟨t, ht, hext.instantiateTriple?_eq_some hp⟩, hps⟩
        · rw [hbound, hbound', hvars, or_assoc]
      · rintro ⟨b, hb, hext, hps, hbound⟩
        obtain ⟨⟨t, ht, hp⟩, hps⟩ := satisfies_cons_iff.1 hps
        obtain ⟨b', hunify, hext'⟩ := unifyTriple?_complete hext hp
        obtain ⟨-, -, hbound'⟩ := unifyTriple?_sound hunify
        refine ⟨b', ⟨b, hb, t, ht, hunify⟩, hext', hps, fun v => ?_⟩
        rw [hbound, hbound', hvars, or_assoc]

theorem mem_matchPattern_iff {g : Graph} {ps : BasicPattern} {m : Binding} :
    m ∈ (g.matchPattern ps).rows ↔
      (∀ v, (m.get? v).isSome ↔ v ∈ ps.vars) ∧ g.Satisfies ps m := by
  have hempty : m.Extends Binding.empty := by
    intro v t h
    contradiction
  rw [matchPattern, Table.rows_ofRows, mem_solutions_iff]
  simp [hempty, and_comm]

/-- Solutions with the same variables have different extensions. -/
theorem nodup_solutions {g : Graph} {ps : BasicPattern} {bs : List Binding} (hbs : bs.Nodup)
    (hvars : ∀ a ∈ bs, ∀ b ∈ bs, ∀ v, (a.get? v).isSome ↔ (b.get? v).isSome) :
    (g.solutions bs ps).Nodup := by
  induction ps generalizing bs with
  | nil => exact hbs
  | cons p ps ih =>
      refine ih (List.nodup_flatMap.2 ⟨fun b _ => ?_, ?_⟩) ?_
      · refine g.nodup_toList.filterMap fun t t' m ht ht' => ?_
        have heq := (unifyTriple?_sound ht).2.1.symm.trans (unifyTriple?_sound ht').2.1
        exact Option.some.inj heq
      · refine hbs.imp_of_mem fun {a b} ha hb hne m hma hmb => hne ?_
        obtain ⟨t, -, ht⟩ := mem_extend_iff.1 hma
        obtain ⟨u, -, hu⟩ := mem_extend_iff.1 hmb
        exact (unifyTriple?_sound ht).1.unique (unifyTriple?_sound hu).1 (hvars a ha b hb)
      · intro m hm n hn v
        obtain ⟨a, ha, hma⟩ := List.mem_flatMap.1 hm
        obtain ⟨b, hb, hnb⟩ := List.mem_flatMap.1 hn
        obtain ⟨t, -, ht⟩ := mem_extend_iff.1 hma
        obtain ⟨u, -, hu⟩ := mem_extend_iff.1 hnb
        rw [(unifyTriple?_sound ht).2.2, (unifyTriple?_sound hu).2.2, hvars a ha b hb]

theorem nodup_matchPattern (g : Graph) (ps : BasicPattern) : (g.matchPattern ps).rows.Nodup := by
  rw [matchPattern, Table.rows_ofRows]
  refine nodup_solutions (List.nodup_singleton _) ?_
  simp

/-! ### What a pattern means -/

theorem all_instantiate?_of_extends {b m : Binding} {p : TermPattern} {t : Term}
    (h : m.Extends b) (hp : p.instantiate? m = some t) :
    (p.instantiate? b).all (· == t) = true := by
  cases hs : p.instantiate? b with
  | none => rfl
  | some s =>
      have heq : some s = some t := (h.instantiate?_eq_some hs).symm.trans hp
      exact beq_iff_eq.2 (Option.some.inj heq)

/-- Nothing is lost by looking up only the triples with the terms that a template stands for
already. -/
theorem extend_eq_search (g : Graph) (p : TriplePattern) (b : Binding) :
    g.extend p b = (g.search (p.subject.instantiate? b) (p.predicate.instantiate? b)
      (p.object.instantiate? b)).filterMap (b.unifyTriple? p) := by
  rw [extend, search, List.filterMap_filter]
  refine List.filterMap_congr fun t _ => ?_
  -- A triple that agrees with the template is found, since the extension keeps what `b` binds.
  cases h : b.unifyTriple? p t with
  | none => rw [ite_self]
  | some m =>
      obtain ⟨hext, hp, -⟩ := unifyTriple?_sound h
      obtain ⟨hs, hp, ho⟩ := TriplePattern.instantiate?_eq_some_iff.1 hp
      rw [all_instantiate?_of_extends hext hs, all_instantiate?_of_extends hext hp,
        all_instantiate?_of_extends hext ho]
      rfl

/-- The matches of a pattern are the solutions of its variables that make a triple of the graph
of every template, each of them once. Neither the order of the templates nor their repetition
changes more than the order of the matches. -/
theorem matchPattern_correct (g : Graph) (ps : BasicPattern) :
    (g.matchPattern ps).rows.Nodup ∧
      (∀ m : Binding, m ∈ (g.matchPattern ps).rows ↔
        (∀ v, v ∈ m.vars ↔ v ∈ ps.vars) ∧ ∀ p ∈ ps, ∃ t ∈ g.toList, p.instantiate? m = some t) ∧
      ∀ qs : BasicPattern, (∀ p, p ∈ qs ↔ p ∈ ps) →
        (g.matchPattern qs).rows.Perm (g.matchPattern ps).rows := by
  refine ⟨g.nodup_matchPattern ps, fun m => ?_, fun qs h => ?_⟩
  · simp only [mem_vars_iff]
    exact mem_matchPattern_iff
  · have hvars (v : Var) : v ∈ BasicPattern.vars qs ↔ v ∈ ps.vars := by
      simp only [BasicPattern.vars, List.mem_flatMap, h]
    refine (List.perm_ext_iff_of_nodup (g.nodup_matchPattern qs) (g.nodup_matchPattern ps)).2
      fun m => ?_
    simp only [mem_matchPattern_iff, hvars, Satisfies, h]

end Graph

end GraphAlgebra
