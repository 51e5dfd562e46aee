import GraphAlgebra.Command.Results
import GraphAlgebra.Proofs.Json.Encoding
import GraphAlgebra.Proofs.Solution.Terms
/-!
# What a JSON document tells of a table

The order of the members of an object has no meaning, so two values are taken to be the same if
their objects have the same members under each name (`Json.Same`). The objects of two terms have the
same members only if the terms have the same fields, and the objects of two rows only if the rows
bind the same variables to the same terms. So the document of a table determines the table
(`Table.same_toJson_iff`), but for the datatypes of literals that have a language as well.
-/

namespace GraphAlgebra

namespace Json

/-- Two values are the same, in whatever order the members of their objects are listed. -/
inductive Same : Json → Json → Prop
  | null : Same .null .null
  | bool (b : Bool) : Same (.bool b) (.bool b)
  | number (written : String) : Same (.number written) (.number written)
  | string (written : String) : Same (.string written) (.string written)
  | array {vs ws : List Json} (h : List.Forall₂ Same vs ws) : Same (.array vs) (.array ws)
  | object {ms ns : List (String × Json)}
      (h : ∀ name, Option.Rel Same (ms.lookup name) (ns.lookup name)) :
      Same (.object ms) (.object ns)

namespace Same

theorem refl : ∀ v, Same v v
  | .null => .null
  | .bool b => .bool b
  | .number written => .number written
  | .string written => .string written
  | .array vs => .array (List.forall₂_same.2 fun v _ => refl v)
  | .object ms => .object fun name => by
      cases h : ms.lookup name with
      | none => exact .none
      | some v =>
          have hmem : (name, v) ∈ ms := by
            obtain ⟨_, _, rfl, -⟩ := List.lookup_eq_some_iff.1 h
            simp
          exact .some (refl v)
termination_by v => sizeOf v
decreasing_by
  · have := List.sizeOf_lt_of_mem ‹v ∈ vs›
    simp only [array.sizeOf_spec]
    omega
  · have := List.sizeOf_lt_of_mem hmem
    simp only [object.sizeOf_spec, Prod.mk.sizeOf_spec] at this ⊢
    omega

theorem string_inj {s t : String} (h : Same (.string s) (.string t)) : s = t := by
  cases h
  rfl

theorem ofText_inj {s t : String} (h : Same (ofText s) (ofText t)) : s = t :=
  encode_injective h.string_inj

theorem lookup {ms ns : List (String × Json)} (h : Same (.object ms) (.object ns)) (name : String) :
    Option.Rel Same (ms.lookup name) (ns.lookup name) := by
  cases h with
  | object h => exact h name

theorem of_lookup {ms ns : List (String × Json)} {v w : Json} (h : Same (.object ms) (.object ns))
    (name : String) (hv : ms.lookup name = some v) (hw : ns.lookup name = some w) : Same v w := by
  have hname := h.lookup name
  rw [hv, hw] at hname
  cases hname with
  | some h => exact h

variable {α : Type} {f : α → Json}

/-- A member that may be absent tells apart what it is made of, if its value does. -/
theorem eq_of_map {a b : Option α} (h : Option.Rel Same (a.map f) (b.map f))
    (hf : ∀ x y, a = some x → b = some y → Same (f x) (f y) → x = y) : a = b := by
  cases a with
  | none =>
      cases b with
      | none => rfl
      | some y => cases h
  | some x =>
      cases b with
      | none => cases h
      | some y =>
          cases h with
          | some h => rw [hf x y rfl rfl h]

theorem eq_of_array {xs ys : List α} (h : Same (.array (xs.map f)) (.array (ys.map f)))
    (hf : ∀ x ∈ xs, ∀ y ∈ ys, Same (f x) (f y) → x = y) : xs = ys := by
  cases h with
  | array h =>
      rw [List.forall₂_map_left_iff, List.forall₂_map_right_iff] at h
      induction h with
      | nil => rfl
      | @cons x y xs ys hxy _ ih =>
          obtain ⟨hfirst, hrest⟩ := List.forall_mem_cons.1 hf
          rw [hfirst y List.mem_cons_self hxy,
            ih fun x hx y hy => hrest x hx y (List.mem_cons_of_mem _ hy)]

end Same

end Json

attribute [ext] Term.Fields

namespace Term

/-- The term is not a literal with both a language and a datatype. -/
def OneMark : Term → Prop
  | .literal l => l.language = none ∨ l.datatype = none
  | _ => True

def kindName : Term → String
  | .iri _ => "uri"
  | .blank _ => "bnode"
  | .literal _ => "literal"

theorem rank_eq_of_kindName_eq {s t : Term} (h : s.kindName = t.kindName) :
    s.fields.rank = t.fields.rank := by
  cases s <;> cases t <;> simp_all [kindName, fields]

theorem exists_toJson_eq {t : Term} (ht : t.OneMark) :
    ∃ ms, t.toJson = .object ms ∧
      ms.lookup "type" = some (.ofText t.kindName) ∧
      ms.lookup "value" = some (.ofText t.fields.text) ∧
      ms.lookup "xml:lang" = t.fields.language.map .ofText ∧
      ms.lookup "datatype" = t.fields.datatype.map .ofText := by
  cases t with
  | iri i => exact ⟨_, rfl, rfl, rfl, rfl, rfl⟩
  | blank label => exact ⟨_, rfl, rfl, rfl, rfl, rfl⟩
  | literal l =>
      obtain ⟨text, language, datatype⟩ := l
      have ht : language = none ∨ datatype = none := ht
      obtain rfl | rfl := ht
      · cases datatype with
        | none => exact ⟨_, rfl, rfl, rfl, rfl, rfl⟩
        | some dt => exact ⟨_, rfl, rfl, rfl, rfl, rfl⟩
      · cases language with
        | none => exact ⟨_, rfl, rfl, rfl, rfl, rfl⟩
        | some tag => exact ⟨_, rfl, rfl, rfl, rfl, rfl⟩

theorem eq_of_same {s t : Term} (hs : s.OneMark) (ht : t.OneMark)
    (h : Json.Same s.toJson t.toJson) : s = t := by
  obtain ⟨ms, hms, hkind, htext, htag, hdt⟩ := exists_toJson_eq hs
  obtain ⟨ns, hns, hkind', htext', htag', hdt'⟩ := exists_toJson_eq ht
  rw [hms, hns] at h
  refine fields_injective (Fields.ext ?_ ?_ ?_ ?_)
  · exact rank_eq_of_kindName_eq (h.of_lookup "type" hkind hkind').ofText_inj
  · exact (h.of_lookup "value" htext htext').ofText_inj
  · have hlookup := h.lookup "xml:lang"
    rw [htag, htag'] at hlookup
    exact Json.Same.eq_of_map hlookup fun _ _ _ _ => Json.Same.ofText_inj
  · have hlookup := h.lookup "datatype"
    rw [hdt, hdt'] at hlookup
    exact Json.Same.eq_of_map hlookup fun _ _ _ _ => Json.Same.ofText_inj

/-- The datatype of a literal with a language is not told. -/
example : (literal ⟨"a", some "en", some ⟨"d"⟩⟩).toJson = (literal ⟨"a", some "en", none⟩).toJson :=
  rfl

end Term

theorem Var.encode_name_inj {v w : Var} : Json.encode v.name = Json.encode w.name ↔ v = w := by
  rw [Json.encode_injective.eq_iff]
  exact ⟨fun h => by cases v; cases w; exact congrArg Var.mk h, congrArg Var.name⟩

namespace Binding

/-- The object of a row has the object of a term under the name of its variable, and no other
members. -/
theorem lookup_encode_name (b : Binding) (v : Var) :
    (b.toList.map fun e => (Json.encode e.1.name, e.2.toJson)).lookup (Json.encode v.name) =
      (b.get? v).map Term.toJson := by
  have hlist (l : List (Var × Term)) :
      (l.map fun e => (Json.encode e.1.name, e.2.toJson)).lookup (Json.encode v.name) =
        ((l.find? fun e => compare e.1 v == .eq).map Prod.snd).map Term.toJson := by
    induction l with
    | nil => rfl
    | cons e l ih =>
        have hkey : (Json.encode v.name == Json.encode e.1.name) = (compare e.1 v == .eq) := by
          rw [Bool.eq_iff_iff, beq_iff_eq, beq_iff_eq, Var.encode_name_inj,
            Std.LawfulEqOrd.compare_eq_iff_eq, eq_comm]
        rw [List.map_cons, List.lookup_cons, List.find?_cons, ih, hkey]
        cases compare e.1 v == .eq <;> rfl
  exact hlist b.toList

theorem eq_of_same {a b : Binding} (ha : a.Each Term.OneMark) (hb : b.Each Term.OneMark)
    (h : Json.Same a.toJson b.toJson) : a = b := by
  refine ext_get? fun v => ?_
  have hv := h.lookup (Json.encode v.name)
  rw [lookup_encode_name, lookup_encode_name] at hv
  exact Json.Same.eq_of_map hv fun s t hs ht => Term.eq_of_same (ha v s hs) (hb v t ht)

end Binding

namespace Table

/-- Tables in which no literal has both a language and a datatype are the same table if their
documents are the same value, and only then: they have the same variables in the same order, and the
same rows in the same order, in which the same variables have the same terms. -/
theorem same_toJson_iff {t u : Table} (ht : t.Each Term.OneMark) (hu : u.Each Term.OneMark) :
    Json.Same t.toJson u.toJson ↔ t = u := by
  constructor
  · intro h
    have hvars := (h.of_lookup "head" rfl rfl).of_lookup "vars" rfl rfl
    have hrows := (h.of_lookup "results" rfl rfl).of_lookup "bindings" rfl rfl
    refine Table.ext ?_ ?_
    · exact hvars.eq_of_array fun v _ w _ hvw => Var.encode_name_inj.1 hvw.string_inj
    · exact hrows.eq_of_array fun a ha b hb => Binding.eq_of_same (ht a ha) (hu b hb)
  · rintro rfl
    exact Json.Same.refl t.toJson

/-- The tables differ in one literal, which has a language in one of them and a datatype of the same
text in the other. A variable is free in one row and all of them are in the last one. -/
theorem same_toJson_iff_marks :
    let x : Var := ⟨"x"⟩
    let y : Var := ⟨"y"⟩
    let row : Binding := (Binding.single x (.iri ⟨"en"⟩)).set y (.blank "en")
    let t : Table := ⟨[x, y], [row, .single y (.literal ⟨"a\n", some "en", none⟩), .empty]⟩
    let u : Table := ⟨[x, y], [row, .single y (.literal ⟨"a\n", none, some ⟨"en"⟩⟩), .empty]⟩
    t.Each Term.OneMark ∧ u.Each Term.OneMark ∧ t ≠ u ∧ ¬ Json.Same t.toJson u.toJson := by
  intro x y row t u
  have hrow : row.Each Term.OneMark := (Binding.each_single trivial).set trivial
  have hrows (b : Binding) (hb : b.Each Term.OneMark) :
      (Table.mk [x, y] [row, b, .empty]).Each Term.OneMark :=
    List.forall_mem_cons.2 ⟨hrow, List.forall_mem_cons.2 ⟨hb,
      List.forall_mem_singleton.2 Binding.each_empty⟩⟩
  have ht : t.Each Term.OneMark := hrows _ (Binding.each_single (.inr rfl))
  have hu : u.Each Term.OneMark := hrows _ (Binding.each_single (.inl rfl))
  have hne : t ≠ u := by decide
  exact ⟨ht, hu, hne, fun h => hne ((same_toJson_iff ht hu).1 h)⟩

end Table

end GraphAlgebra
