import GraphAlgebra.Proofs.Number.FloatOrder
/-!
# The order of terms for sorting

Literals are compared by value where both have values that can be compared, and by their texts
else. Among the literals of one kind this is an order; with it `orderTerms` is one of all terms
whose literals are of that kind (`preordersOn_orderTerms`). Two kinds do not go together: of any two
there are three literals that stand in a circle (`Literal.haveCircle_of_ne`), most often because two
of them compare by value and each of them with the third as texts.
-/

namespace GraphAlgebra

open Std FloatOrder

instance : TransCmp Instant.compare :=
  inferInstanceAs (TransCmp
    (compareLex (compareOn Instant.seconds) (compareOn Instant.nanoseconds)))

theorem Numeric.compare?_swap (a b : Numeric) :
    b.compare? a = (a.compare? b).map Ordering.swap := by
  cases a <;> cases b
  case integer.integer m n => exact congrArg some OrientedCmp.eq_swap
  all_goals exact compareFloats_swap _ _

theorem Numeric.compare?_eq_compareFloats {a b : Numeric} (h : ∀ m, a ≠ .integer m) :
    a.compare? b = compareFloats a.toFloat b.toFloat := by
  cases a with
  | integer m => exact absurd rfl (h m)
  | decimal x => rfl
  | double x => rfl

namespace Literal

instance : TransCmp compareTexts :=
  inferInstanceAs (TransCmp (compareLex (compareOn lexical)
    (compareLex (compareOn language) (compareOn fun l => l.datatypeIri.text))))

/-- The kinds of literals that have a common way to be compared. Values of floating-point
datatypes that are no numbers go with the texts. -/
inductive Kind where
  | integer
  | real
  | truth
  | instant
  | text
deriving DecidableEq

def kind (l : Literal) : Kind :=
  match l.numeric?, l.boolean?, l.instant? with
  | some (.integer _), _, _ => .integer
  | some n, _, _ => if n.toFloat.isNaN then .text else .real
  | none, some _, _ => .truth
  | none, none, some _ => .instant
  | none, none, none => .text

/-- The order of two literals by value, or else by their texts. -/
def compareForSort (l r : Literal) : Ordering := (l.compare? r).getD (l.compareTexts r)

/-! ### One order for each kind -/

theorem kind_eq_integer_iff {l : Literal} :
    l.kind = .integer ↔ ∃ n, l.numeric? = some (.integer n) := by
  rw [kind]
  split <;> grind

theorem numeric?_of_kind_real {l : Literal} (h : l.kind = .real) :
    ∃ n, l.numeric? = some n ∧ (∀ m, n ≠ .integer m) ∧ n.toFloat.isNaN = false := by
  rw [kind] at h
  split at h <;> grind

theorem boolean?_of_kind_truth {l : Literal} (h : l.kind = .truth) :
    l.numeric? = none ∧ ∃ b, l.boolean? = some b := by
  rw [kind] at h
  split at h <;> grind

theorem instant?_of_kind_instant {l : Literal} (h : l.kind = .instant) :
    l.numeric? = none ∧ l.boolean? = none ∧ ∃ i, l.instant? = some i := by
  rw [kind] at h
  split at h <;> grind

theorem kind_eq_text {l : Literal} (hn : l.numeric? = none) (hb : l.boolean? = none)
    (hi : l.instant? = none) : l.kind = .text := by
  simp only [kind, hn, hb, hi]

def integerValue (l : Literal) : Int :=
  match l.numeric? with
  | some (.integer n) => n.val
  | _ => 0

def realValue (l : Literal) : Float := l.numeric?.elim 0 Numeric.toFloat

theorem compareForSort_of_integer {l r : Literal} (hl : l.kind = .integer)
    (hr : r.kind = .integer) :
    l.compareForSort r = compare l.integerValue r.integerValue := by
  obtain ⟨m, hm⟩ := kind_eq_integer_iff.1 hl
  obtain ⟨n, hn⟩ := kind_eq_integer_iff.1 hr
  simp only [compareForSort, compare?, integerValue, hm, hn]
  rfl

theorem compareForSort_of_real {l r : Literal} (hl : l.kind = .real) (hr : r.kind = .real) :
    l.compareForSort r =
      compareKeys l.realValue.toModel.unpack r.realValue.toModel.unpack := by
  obtain ⟨m, hm, hmint, hmnum⟩ := numeric?_of_kind_real hl
  obtain ⟨n, hn, -, hnnum⟩ := numeric?_of_kind_real hr
  have hmn : m.compare? n =
      some (compareKeys m.toFloat.toModel.unpack n.toFloat.toModel.unpack) := by
    rw [Numeric.compare?_eq_compareFloats hmint, compareFloats_eq_compareKeys hmnum hnnum]
  simp only [compareForSort, compare?, realValue, hm, hn, hmn]
  rfl

theorem compareForSort_of_truth {l r : Literal} (hl : l.kind = .truth) (hr : r.kind = .truth) :
    l.compareForSort r = compare l.boolean? r.boolean? := by
  obtain ⟨hln, a, ha⟩ := boolean?_of_kind_truth hl
  obtain ⟨hrn, b, hb⟩ := boolean?_of_kind_truth hr
  simp only [compareForSort, compare?, hln, ha, hb]
  rfl

theorem compareForSort_of_instant {l r : Literal} (hl : l.kind = .instant)
    (hr : r.kind = .instant) :
    l.compareForSort r = compareOptions Instant.compare l.instant? r.instant? := by
  obtain ⟨hln, hlb, i, hi⟩ := instant?_of_kind_instant hl
  obtain ⟨hrn, hrb, j, hj⟩ := instant?_of_kind_instant hr
  simp only [compareForSort, compare?, hln, hlb, hi, hj]
  rfl

theorem no_other_value_of_numeric {l : Literal} (h : l.numeric? ≠ none) :
    l.boolean? = none ∧ l.instant? = none ∧ l.isString = false := by
  cases hd : l.datatype with
  | none =>
      simp only [numeric?, hd] at h
      exact absurd rfl h
  | some dt =>
      have hb : dt ≠ Iri.boolean := by
        rintro rfl
        simp only [numeric?, hd] at h
        exact absurd rfl h
      have hi : dt ≠ Iri.dateTime := by
        rintro rfl
        simp only [numeric?, hd] at h
        exact absurd rfl h
      simp [boolean?, instant?, isString, hd, hb, hi]

theorem values_of_kind_text {l : Literal} (h : l.kind = .text) :
    (∀ n, l.numeric? = some n → (∀ m, n ≠ .integer m) ∧ n.toFloat.isNaN = true) ∧
      l.boolean? = none ∧ l.instant? = none := by
  have hother := no_other_value_of_numeric (l := l)
  rw [kind] at h
  split at h <;> grind

/-- Two strings compare as texts, since neither has a language or a datatype. -/
theorem compareTexts_of_isString {l r : Literal} (hl : l.isString = true)
    (hr : r.isString = true) : l.compareTexts r = compare l.lexical r.lexical := by
  simp only [isString, Bool.and_eq_true, Option.isNone_iff_eq_none] at hl hr
  simp [compareTexts, datatypeIri, hl, hr]

/-- Two literals of this kind are strings, or they have no values to compare. -/
theorem compareForSort_of_text {l r : Literal} (hl : l.kind = .text) (hr : r.kind = .text) :
    l.compareForSort r = l.compareTexts r := by
  obtain ⟨hln, hlb, hli⟩ := values_of_kind_text hl
  obtain ⟨hrn, hrb, hri⟩ := values_of_kind_text hr
  have hstrings : (if l.isString && r.isString then some (compare l.lexical r.lexical)
      else none).getD (l.compareTexts r) = l.compareTexts r := by
    split
    next h =>
      rw [Bool.and_eq_true] at h
      exact (compareTexts_of_isString h.1 h.2).symm
    next => rfl
  simp only [compareForSort, compare?, hlb, hli]
  cases hm : l.numeric? with
  | none => exact hstrings
  | some m =>
      cases hn : r.numeric? with
      | none => exact hstrings
      | some n =>
          have hmn : m.compare? n = none := by
            rw [Numeric.compare?_eq_compareFloats (hln m hm).1,
              compareFloats_eq_none (.inl (hln m hm).2)]
          simp only [hmn]
          rfl

theorem preordersOn_compareForSort (k : Kind) : PreordersOn compareForSort fun l => l.kind = k := by
  cases k with
  | integer =>
      exact (PreordersOn.comap_of_transCmp compare integerValue).congr
        fun _ _ hl hr => compareForSort_of_integer hl hr
  | real =>
      exact (PreordersOn.comap_of_transCmp compareKeys (·.realValue.toModel.unpack)).congr
        fun _ _ hl hr => compareForSort_of_real hl hr
  | truth =>
      exact (PreordersOn.comap_of_transCmp compare boolean?).congr
        fun _ _ hl hr => compareForSort_of_truth hl hr
  | instant =>
      exact (PreordersOn.comap_of_transCmp (compareOptions Instant.compare) instant?).congr
        fun _ _ hl hr => compareForSort_of_instant hl hr
  | text =>
      exact (PreordersOn.of_transCmp compareTexts).congr
        fun _ _ hl hr => compareForSort_of_text hl hr

theorem compare?_swap (l r : Literal) : r.compare? l = (l.compare? r).map Ordering.swap := by
  rw [compare?, compare?]
  cases l.numeric? <;> cases r.numeric?
  case some.some a b => exact Numeric.compare?_swap a b
  all_goals
    cases l.boolean? <;> cases r.boolean?
    case some.some a b => exact congrArg some OrientedCmp.eq_swap
    all_goals
      cases l.instant? <;> cases r.instant?
      case some.some a b => exact congrArg some OrientedCmp.eq_swap
      all_goals
        dsimp only
        rw [Bool.and_comm]
        split
        · exact congrArg some OrientedCmp.eq_swap
        · rfl

theorem compareForSort_swap (l r : Literal) : r.compareForSort l = (l.compareForSort r).swap := by
  rw [compareForSort, compareForSort, compare?_swap]
  cases l.compare? r with
  | none =>
      change r.compareTexts l = (l.compareTexts r).swap
      exact OrientedCmp.eq_swap
  | some o => rfl

/-! ### Circles of two kinds -/

/-- Three literals of which the first comes after the last, although each comes before or with
the next. -/
def InCircle (a b c : Literal) : Prop :=
  orderTerms (some (.literal a)) (some (.literal b)) ≠ .gt ∧
    orderTerms (some (.literal b)) (some (.literal c)) ≠ .gt ∧
    orderTerms (some (.literal a)) (some (.literal c)) = .gt

instance (a b c : Literal) : Decidable (InCircle a b c) := inferInstanceAs (Decidable (_ ∧ _ ∧ _))

/-- Some literals of two kinds stand in a circle. -/
def HaveCircle (k k' : Kind) : Prop :=
  ∃ a b c : Literal, (∀ l ∈ [a, b, c], l.kind = k ∨ l.kind = k') ∧ InCircle a b c

theorem HaveCircle.symm {k k' : Kind} (h : HaveCircle k k') : HaveCircle k' k := by
  obtain ⟨a, b, c, hkind, hcircle⟩ := h
  exact ⟨a, b, c, fun l hl => (hkind l hl).symm, hcircle⟩

def ofKind (k : Kind) (text : String) : Literal :=
  ⟨text, none,
    match k with
    | .integer => some Iri.integer
    | .real => some Iri.decimal
    | .truth => some Iri.boolean
    | .instant => some Iri.dateTime
    | .text => none⟩

/-- Two literals of a kind that has values. The first is not the later one by its value, but it is
by its text. -/
def crossed : Kind → Literal × Literal
  | .truth => (ofKind .truth "true", ofKind .truth "1")
  | .instant =>
      (ofKind .instant "1500-01-01T00:00:00Z", ofKind .instant "1499-12-31T14:00:00-10:00")
  | k => (ofKind k "2", ofKind k "10")

def between : Kind → Literal
  | .instant => ofKind .instant "1500-01-01T00:00:00Z"
  | k => ofKind k "15"

/-- Pairs of kinds: crossed literals of the first have one of the second between them. -/
def crossings : List (Kind × Kind) :=
  [(.truth, .integer), (.truth, .real), (.truth, .instant), (.truth, .text),
    (.integer, .instant), (.integer, .text), (.real, .instant), (.real, .text),
    (.instant, .text)]

theorem haveCircle_of_mem_crossings {k k' : Kind} (h : (k, k') ∈ crossings) : HaveCircle k k' := by
  have hcircle : ∀ p ∈ crossings,
      (∀ l ∈ [(crossed p.1).1, (crossed p.1).2, between p.2], l.kind = p.1 ∨ l.kind = p.2) ∧
        InCircle (crossed p.1).1 (crossed p.1).2 (between p.2) := by decide +kernel
  exact ⟨_, _, _, hcircle _ h⟩

/-- A decimal rounds two integers to one. -/
theorem haveCircle_integer_real : HaveCircle .integer .real :=
  ⟨ofKind .integer "9007199254740993", ofKind .real "9007199254740992",
    ofKind .integer "9007199254740992", by decide +kernel⟩

/-- No two kinds go together. -/
theorem haveCircle_of_ne {k k' : Kind} (h : k ≠ k') : HaveCircle k k' := by
  cases k <;> cases k' <;>
    first
    | exact absurd rfl h
    | exact haveCircle_of_mem_crossings (by decide)
    | exact (haveCircle_of_mem_crossings (by decide)).symm
    | exact haveCircle_integer_real
    | exact haveCircle_integer_real.symm

end Literal

/-! ### Terms -/

/-- A term, or the absence of one, that is of one of some kinds if it is a literal. -/
def LiteralsIn (K : Literal.Kind → Prop) (t : Option Term) : Prop :=
  ∀ l, t = some (.literal l) → K l.kind

def nameText : Option Term → String
  | some (.blank label) => label
  | some (.iri i) => i.text
  | _ => ""

/-- Terms are in order by their kinds first, and within a kind in a way of its own. -/
theorem orderTerms_eq_then (s t : Option Term) :
    orderTerms s t = (compare (kindRank s) (kindRank t)).then
      ((compare (nameText s) (nameText t)).then
        (compareOptions Literal.compareForSort (s.bind Term.literal?) (t.bind Term.literal?))) := by
  obtain _ | (i | label | l) := s <;> obtain _ | (i' | label' | l') := t
  case some.iri.some.iri => exact Ordering.then_eq.symm
  case some.blank.some.blank => exact Ordering.then_eq.symm
  all_goals rfl

theorem orderTerms_swap (s t : Option Term) : orderTerms t s = (orderTerms s t).swap := by
  have hliterals : compareOptions Literal.compareForSort (t.bind Term.literal?)
      (s.bind Term.literal?) = (compareOptions Literal.compareForSort (s.bind Term.literal?)
        (t.bind Term.literal?)).swap :=
    compareOptions_swap Literal.compareForSort_swap _ _
  rw [orderTerms_eq_then, orderTerms_eq_then, hliterals, Ordering.swap_then, Ordering.swap_then,
    OrientedOrd.eq_swap (a := kindRank t), OrientedOrd.eq_swap (a := nameText t)]

theorem preordersOn_orderTerms (k : Literal.Kind) :
    PreordersOn orderTerms (LiteralsIn (· = k)) := by
  have hliterals := (Literal.preordersOn_compareForSort k).option.comap
    fun t : Option Term => t.bind Term.literal?
  have hin (t : Option Term) (ht : LiteralsIn (· = k) t) :
      ∀ l, t.bind Term.literal? = some l → l.kind = k := by
    intro l hl
    obtain ⟨t, rfl, ht'⟩ := Option.bind_eq_some_iff.1 hl
    cases t with
    | literal l' =>
        cases ht'
        exact ht l rfl
    | _ => cases ht'
  exact (((PreordersOn.comap_of_transCmp compare kindRank).andThen
    ((PreordersOn.comap_of_transCmp compare nameText).andThen (hliterals.mono hin)))).congr
      fun s t _ _ => orderTerms_eq_then s t

/-- Going the other way reverses the order of any two terms, but the order is transitive only where
all literals are of one kind: wherever two kinds may occur, a circle occurs. -/
theorem orderTerms_trans_iff_one_kind (K : Literal.Kind → Prop) :
    (∀ s t, orderTerms t s = (orderTerms s t).swap) ∧
      ((∀ s t u, LiteralsIn K s → LiteralsIn K t → LiteralsIn K u →
          orderTerms s t ≠ .gt → orderTerms t u ≠ .gt → orderTerms s u ≠ .gt) ↔
        ∀ k k', K k → K k' → k = k') := by
  refine ⟨orderTerms_swap, fun htrans k k' hk hk' => ?_, fun hone s t u hs ht hu => ?_⟩
  · refine Decidable.of_not_not fun hne => ?_
    obtain ⟨a, b, c, hkinds, hab, hbc, hac⟩ := Literal.haveCircle_of_ne hne
    have hin : ∀ l ∈ [a, b, c], LiteralsIn K (some (.literal l)) := by
      intro l hl l' hl'
      cases hl'
      obtain h | h := hkinds l hl
      · exact h ▸ hk
      · exact h ▸ hk'
    exact htrans _ _ _ (hin a (by simp)) (hin b (by simp)) (hin c (by simp)) hab hbc hac
  · by_cases hk : ∃ k, K k
    · obtain ⟨k, hk⟩ := hk
      have hmono (t : Option Term) (ht : LiteralsIn K t) : LiteralsIn (· = k) t :=
        fun l hl => hone _ _ (ht l hl) hk
      exact (preordersOn_orderTerms k).trans (hmono s hs) (hmono t ht) (hmono u hu)
    · -- There are no literals at all, so one kind is as good as another.
      have hmono (t : Option Term) (ht : LiteralsIn K t) : LiteralsIn (· = .text) t :=
        fun l hl => absurd ⟨_, ht l hl⟩ hk
      exact (preordersOn_orderTerms .text).trans (hmono s hs) (hmono t ht) (hmono u hu)

/-- The integers 2 and 10 and the string 15: the integers go by value, each of them and the string
by their texts. -/
theorem not_orderTerms_preorder :
    ¬∀ s t u, orderTerms t s = (orderTerms s t).swap ∧
      (orderTerms s t ≠ .gt → orderTerms t u ≠ .gt → orderTerms s u ≠ .gt) := by
  intro h
  have htrans := (h (some (.typed "2" Iri.integer)) (some (.typed "10" Iri.integer))
    (some (.string "15"))).2
  exact htrans (by decide +kernel) (by decide +kernel) (by decide +kernel)

end GraphAlgebra
