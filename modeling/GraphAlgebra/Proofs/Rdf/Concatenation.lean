import GraphAlgebra.Proofs.Rdf.Matching
import GraphAlgebra.Proofs.Solution.Heading
/-!
# Patterns one after the other

A template is matched under the solutions of the templates before it, by looking up the triples that
agree with them (`Graph.extend_eq_search`). It may as well be matched on its own and its solutions be
merged with the earlier ones: making a place agree with a term commutes with a merge, since it is one
(`Binding.unify?_var`). So the table of two patterns one after the other is the join of their tables
(`Graph.matchPattern_append`), with its heading and the order of its rows.
-/

namespace GraphAlgebra

namespace Binding

/-! ### Agreement under a merge -/

theorem unify?_var (b : Binding) (v : Var) (t : Term) :
    b.unify? (.var v) t = b.merge? (single v t) := by
  have hcompatible : b.compatible (single v t) = true ↔ ∀ s, b.get? v = some s → s = t := by
    rw [compatible_iff]
    simp only [get?_single, Option.ite_none_right_eq_some, Option.some.injEq]
    exact ⟨fun h s hs => h v s t hs ⟨rfl, rfl⟩, fun h w s u hs hu => hu.2 ▸ h s (hu.1 ▸ hs)⟩
  have hadd : (single v t).toList.foldl addIfFree b = b.addIfFree (v, t) := rfl
  rw [merge?, unify?, hadd, addIfFree]
  simp only [hcompatible]
  cases b.get? v <;> simp

theorem merge?_bind_unify? (a b : Binding) (p : TermPattern) (t : Term) :
    (a.merge? b).bind (·.unify? p t) = (b.unify? p t).bind a.merge? := by
  cases p with
  | term s =>
      by_cases h : s = t
      · simp [unify?, h]
      · simp [unify?, h]
  | var v =>
      simp only [unify?_var]
      exact merge?_assoc a b (single v t)

/-- Steps that commute with a merge do so one after the other. -/
theorem merge?_bind_bind {a : Binding} {f g : Binding → Option Binding}
    (hf : ∀ b, (a.merge? b).bind f = (f b).bind a.merge?)
    (hg : ∀ b, (a.merge? b).bind g = (g b).bind a.merge?) (b : Binding) :
    (a.merge? b).bind (fun m => (f m).bind g) = ((f b).bind g).bind a.merge? :=
  calc (a.merge? b).bind (fun m => (f m).bind g)
      = ((a.merge? b).bind f).bind g := (Option.bind_assoc ..).symm
    _ = (f b).bind fun m => (a.merge? m).bind g := by rw [hf, Option.bind_assoc]
    _ = ((f b).bind g).bind a.merge? := by simp only [hg, Option.bind_assoc]

theorem merge?_bind_unifyTriple? (a b : Binding) (p : TriplePattern) (t : Triple) :
    (a.merge? b).bind (·.unifyTriple? p t) = (b.unifyTriple? p t).bind a.merge? :=
  merge?_bind_bind (merge?_bind_unify? a · p.subject t.subject)
    (merge?_bind_bind (merge?_bind_unify? a · p.predicate t.predicate)
      (merge?_bind_unify? a · p.object t.object)) b

end Binding

namespace Graph

open Binding

variable (g : Graph)

/-! ### Solutions of patterns in turn -/

theorem solutions_append (bs : List Binding) (ps qs : BasicPattern) :
    g.solutions bs (ps ++ qs) = g.solutions (g.solutions bs ps) qs := by
  induction ps generalizing bs with
  | nil => rfl
  | cons p ps ih => exact ih _

theorem solutions_flatMap (f : Binding → List Binding) (bs : List Binding) (ps : BasicPattern) :
    g.solutions (bs.flatMap f) ps = bs.flatMap fun b => g.solutions (f b) ps := by
  induction ps generalizing f with
  | nil => rfl
  | cons p ps ih =>
      simp only [solutions, List.flatMap_assoc]
      exact ih fun b => (f b).flatMap (g.extend p)

theorem extend_merge? (p : TriplePattern) (a b : Binding) :
    (a.merge? b).toList.flatMap (g.extend p) = (g.extend p b).filterMap a.merge? := by
  rw [extend, List.filterMap_filterMap]
  simp only [← merge?_bind_unifyTriple?]
  cases a.merge? b with
  | none => simp
  | some m => simp [extend]

/-- The solutions under the merges with `a` are the merges of the solutions with `a`. -/
theorem solutions_filterMap_merge? (a : Binding) (bs : List Binding) (ps : BasicPattern) :
    g.solutions (bs.filterMap a.merge?) ps = (g.solutions bs ps).filterMap a.merge? := by
  induction ps generalizing bs with
  | nil => rfl
  | cons p ps ih =>
      simp only [solutions]
      rw [← ih, List.filterMap_flatMap, List.filterMap_eq_flatMap_toList, List.flatMap_assoc]
      simp only [extend_merge?]

theorem solutions_eq_flatMap_merge? (bs : List Binding) (ps : BasicPattern) :
    g.solutions bs ps = bs.flatMap fun a => (g.solutions [Binding.empty] ps).filterMap a.merge? := by
  have hempty (a : Binding) : [Binding.empty].filterMap a.merge? = [a] := by simp [merge?_empty]
  simp only [← solutions_filterMap_merge?, hempty, ← solutions_flatMap, List.flatMap_singleton']

/-! ### Two patterns -/

theorem covers_matchPattern (ps : BasicPattern) : (g.matchPattern ps).Covers :=
  Table.covers_ofRows _ _

theorem vars_matchPattern (ps : BasicPattern) :
    (g.matchPattern ps).vars = Table.mergeVars [] ps.vars := by
  refine Table.vars_ofRows fun m hm v hv => ?_
  exact Table.mem_mergeVars_iff.2 (.inr (((mem_matchPattern_iff.1 hm).1 v).1 (mem_vars_iff.1 hv)))

/-- The matches of two patterns one after the other are the join of their matches, row by row and
under one heading. -/
theorem matchPattern_append (ps qs : BasicPattern) :
    g.matchPattern (ps ++ qs) = (g.matchPattern ps).join (g.matchPattern qs) := by
  refine Table.ext ?_ ?_
  · rw [Table.vars_join (g.covers_matchPattern ps) (g.covers_matchPattern qs)]
    simp only [vars_matchPattern, BasicPattern.vars, List.flatMap_append]
    rw [Table.mergeVars_append, Table.mergeVars_assoc, Table.mergeVars_nil]
  · change g.solutions [Binding.empty] (ps ++ qs) = _
    rw [solutions_append, solutions_eq_flatMap_merge?]
    rfl

end Graph

end GraphAlgebra
