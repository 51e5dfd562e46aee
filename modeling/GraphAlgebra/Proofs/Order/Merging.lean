import Mathlib.Data.List.TakeWhile
import GraphAlgebra.Order.StableSort
import GraphAlgebra.Proofs.Order.Rearrangement
/-!
# Merging and sorting short lists

What the steps of a sort on short lists give is a permutation of its input, whatever the comparison
is. Where the comparison is an order, it is the stable sort of the input. A merge from both ends
then comes to what a merge from the front gives (`mergeBoth_eq_merge`), since a merge from the end
gives the same and so both find the same list for every element.
-/

namespace GraphAlgebra

open Std

namespace StableSort

variable {α β : Type} {less : α → α → Bool}

/-! ### Permutations -/

theorem merge_perm (l r : List α) : (merge less l r).Perm (l ++ r) := by
  induction l generalizing r with
  | nil => exact .refl r
  | cons a l ih =>
      have hrest := (ih (r.dropWhile (less · a))).append_left (r.takeWhile (less · a))
      calc (r.takeWhile (less · a) ++ a :: merge less l (r.dropWhile (less · a))).Perm
            (a :: (r.takeWhile (less · a) ++ merge less l (r.dropWhile (less · a)))) :=
          List.perm_middle
        _ |>.Perm (a :: (r.takeWhile (less · a) ++ (l ++ r.dropWhile (less · a)))) := hrest.cons a
        _ |>.Perm (a :: (l ++ (r.takeWhile (less · a) ++ r.dropWhile (less · a)))) :=
          List.perm_append_comm_assoc .. |>.cons a
        _ = a :: l ++ r := by rw [List.takeWhile_append_dropWhile, List.cons_append]

theorem mergeBack_perm (l r : List α) : (mergeBack less l r).Perm (l ++ r) := by
  refine (List.reverse_perm _).trans ((merge_perm _ _).trans ?_)
  rw [← List.reverse_append]
  exact List.reverse_perm _

@[simp] theorem insertAll_nil (s : List α) : insertAll less s [] = s := rfl

@[simp] theorem insertAll_cons (s : List α) (a : α) (l : List α) :
    insertAll less s (a :: l) = insertAll less (mergeBack less s [a]) l := rfl

theorem insertAll_perm (s l : List α) : (insertAll less s l).Perm (s ++ l) := by
  induction l generalizing s with
  | nil => simp
  | cons a l ih =>
      have hinsert := (ih (mergeBack less s [a])).trans ((mergeBack_perm s [a]).append_right l)
      simpa using hinsert

theorem insertionSort_perm (less : α → α → Bool) (l : List α) : (insertionSort less l).Perm l :=
  insertAll_perm [] l

theorem sortTwo_perm (less : α → α → Bool) (a b : α) :
    [(sortTwo less a b).1, (sortTwo less a b).2].Perm [a, b] := by
  rw [sortTwo]
  split
  · exact .swap a b []
  · exact .refl _

theorem placeEnds_perm (a b c d : α) :
    let q := placeEnds less a b c d
    [q.1, q.2.1, q.2.2.1, q.2.2.2].Perm [a, b, c, d] := by
  intro q
  cases hca : less c a <;> cases hdb : less d b <;> simp only [q, placeEnds, hca, hdb]
  case false.false => exact .refl _
  case false.true => exact (List.perm_append_comm : ([c, d] ++ [b]).Perm _).cons a
  case true.false => exact (List.perm_append_comm : ([c] ++ [a, b]).Perm _).append_right [d]
  case true.true =>
      exact (List.Perm.swap a c [d, b]).trans
        ((List.perm_append_comm : ([c, d] ++ [b]).Perm _).cons a)

theorem sortFour_perm (v₀ v₁ v₂ v₃ : α) : (sortFour less v₀ v₁ v₂ v₃).Perm [v₀, v₁, v₂, v₃] := by
  let p := sortTwo less v₀ v₁
  let q := sortTwo less v₂ v₃
  let e := placeEnds less p.1 p.2 q.1 q.2
  have hpairs : [p.1, p.2, q.1, q.2].Perm [v₀, v₁, v₂, v₃] :=
    (sortTwo_perm less v₀ v₁).append (sortTwo_perm less v₂ v₃)
  have hmiddle := ((sortTwo_perm less e.2.1 e.2.2.1).append_right [e.2.2.2]).cons e.1
  exact hmiddle.trans ((placeEnds_perm p.1 p.2 q.1 q.2).trans hpairs)

theorem sortHalf_perm (four : Bool) (l : List α) : (sortHalf less four l).Perm l := by
  unfold sortHalf
  split
  · exact (insertAll_perm _ _).trans ((sortFour_perm ..).append_right _)
  · exact insertionSort_perm less _

/-! ### Merging from both ends -/

theorem middle_of_append (x y z : List α) :
    x.length ≤ (x ++ y ++ z).length - z.length ∧
      y = ((x ++ y ++ z).take ((x ++ y ++ z).length - z.length)).drop x.length := by
  have hstop : (x ++ y ++ z).length - z.length = (x ++ y).length := by
    rw [List.length_append, Nat.add_sub_cancel]
  rw [hstop, List.take_left' rfl, List.drop_left' rfl]
  simp

theorem take_append_middle_append_drop {j k : Nat} (h : j ≤ k) (l : List α) :
    l.take j ++ (l.take k).drop j ++ l.drop k = l := by
  have htake : (l.take k).take j = l.take j := by rw [List.take_take, Nat.min_eq_left h]
  rw [← htake, List.take_append_drop, List.take_append_drop]

/-- A merge keeps either list where a property tells them apart. -/
theorem filter_merge_left {q : α → Bool} {l r : List α} (hl : ∀ a ∈ l, q a)
    (hr : ∀ a ∈ r, ¬q a) : (merge less l r).filter q = l := by
  induction l generalizing r with
  | nil => exact List.filter_eq_nil_iff.2 hr
  | cons a l ih =>
      rw [List.forall_mem_cons] at hl
      have hbefore : (r.takeWhile (less · a)).filter q = [] :=
        List.filter_eq_nil_iff.2 fun b hb => hr b ((List.takeWhile_sublist _).subset hb)
      rw [merge, List.filter_append, hbefore, List.nil_append, List.filter_cons_of_pos hl.1,
        ih hl.2 fun b hb => hr b ((List.dropWhile_sublist _).subset hb)]

theorem filter_merge_right {q : α → Bool} {l r : List α} (hl : ∀ a ∈ l, ¬q a)
    (hr : ∀ a ∈ r, q a) : (merge less l r).filter q = r := by
  induction l generalizing r with
  | nil => exact List.filter_eq_self.2 hr
  | cons a l ih =>
      rw [List.forall_mem_cons] at hl
      have hbefore : (r.takeWhile (less · a)).filter q = r.takeWhile (less · a) :=
        List.filter_eq_self.2 fun b hb => hr b ((List.takeWhile_sublist _).subset hb)
      rw [merge, List.filter_append, hbefore, List.filter_cons_of_neg hl.1,
        ih hl.2 fun b hb => hr b ((List.dropWhile_sublist _).subset hb),
        List.takeWhile_append_dropWhile]

theorem map_merge (f : β → α) (l r : List β) :
    (merge (fun a b => less (f a) (f b)) l r).map f = merge less (l.map f) (r.map f) := by
  induction l generalizing r with
  | nil => rfl
  | cons a l ih =>
      rw [List.map_cons, merge, merge, List.map_append, List.map_cons, ih, List.takeWhile_map,
        List.dropWhile_map]
      rfl

/-- Two lists stand in one, each of them in its order, with marks that tell them apart. -/
structure Interleaves (l r : List α) (m : List (Bool × α)) : Prop where
  left : m.filter (·.1) = l.map (Prod.mk true)
  right : m.filter (!·.1) = r.map (Prod.mk false)

theorem interleaves_merge (less : Bool × α → Bool × α → Bool) (l r : List α) :
    Interleaves l r (merge less (l.map (Prod.mk true)) (r.map (Prod.mk false))) where
  left := filter_merge_left (by simp) (by simp)
  right := filter_merge_right (by simp) (by simp)

theorem interleaves_mergeBack (less : Bool × α → Bool × α → Bool) (l r : List α) :
    Interleaves l r (mergeBack less (l.map (Prod.mk true)) (r.map (Prod.mk false))) where
  left := by
    rw [mergeBack, List.filter_reverse, filter_merge_right (by simp) (by simp),
      List.reverse_reverse]
  right := by
    rw [mergeBack, List.filter_reverse, filter_merge_left (by simp) (by simp),
      List.reverse_reverse]

namespace Interleaves

variable {l r : List α} {m : List (Bool × α)}

theorem map_filter_take {q : Bool × α → Bool} {mark : Bool} (h : m.filter q = l.map (Prod.mk mark))
    (k : Nat) : ((m.take k).filter q).map Prod.snd = l.take ((m.take k).countP q) := by
  have htaken := List.prefix_iff_eq_take.1 ((List.take_prefix k m).filter q)
  rw [h, ← List.countP_eq_length_filter] at htaken
  rw [htaken, ← List.map_take, List.map_map]
  exact List.map_id _

theorem map_filter_drop {q : Bool × α → Bool} {mark : Bool} (h : m.filter q = l.map (Prod.mk mark))
    (k : Nat) : ((m.drop k).filter q).map Prod.snd = l.drop (l.length - (m.drop k).countP q) := by
  have hdropped := List.suffix_iff_eq_drop.1 ((List.drop_suffix k m).filter q)
  rw [h, ← List.countP_eq_length_filter, List.length_map] at hdropped
  rw [hdropped, ← List.map_drop, List.map_map]
  exact List.map_id _

/-- What is between the front and the end belongs to one list where it is between the elements of
that list there. -/
theorem map_filter_middle {q : Bool × α → Bool} {mark : Bool}
    (h : m.filter q = l.map (Prod.mk mark)) {j k : Nat} (hjk : j ≤ k) :
    (m.take j).countP q ≤ l.length - (m.drop k).countP q ∧
      (((m.take k).drop j).filter q).map Prod.snd =
        (l.take (l.length - (m.drop k).countP q)).drop ((m.take j).countP q) := by
  have hlist : l = ((m.take j).filter q).map Prod.snd ++
      (((m.take k).drop j).filter q).map Prod.snd ++ ((m.drop k).filter q).map Prod.snd := by
    rw [← List.map_append, ← List.map_append, ← List.filter_append, ← List.filter_append,
      take_append_middle_append_drop hjk, h, List.map_map]
    exact (List.map_id _).symm
  have hfront : (((m.take j).filter q).map Prod.snd).length = (m.take j).countP q := by
    rw [List.length_map, List.countP_eq_length_filter]
  have hback : (((m.drop k).filter q).map Prod.snd).length = (m.drop k).countP q := by
    rw [List.length_map, List.countP_eq_length_filter]
  rw [← hfront, ← hback]
  have hmiddle := middle_of_append (((m.take j).filter q).map Prod.snd)
    (((m.take k).drop j).filter q |>.map Prod.snd) (((m.drop k).filter q).map Prod.snd)
  rw [← hlist] at hmiddle
  exact hmiddle

theorem take_perm (h : Interleaves l r m) (k : Nat) :
    ((m.take k).map Prod.snd).Perm
      (l.take ((m.take k).countP (·.1)) ++ r.take ((m.take k).countP (!·.1))) := by
  rw [← map_filter_take h.left, ← map_filter_take h.right, ← List.map_append]
  exact ((List.filter_append_perm _ _).map _).symm

theorem drop_perm (h : Interleaves l r m) (k : Nat) :
    ((m.drop k).map Prod.snd).Perm
      (l.drop (l.length - (m.drop k).countP (·.1)) ++
        r.drop (r.length - (m.drop k).countP (!·.1))) := by
  rw [← map_filter_drop h.left, ← map_filter_drop h.right, ← List.map_append]
  exact ((List.filter_append_perm _ _).map _).symm

end Interleaves

theorem filter_append_filter_not {q : α → Bool} {l : List α} (h : l.length ≤ 1) :
    l.filter q ++ l.filter (!q ·) = l := by
  match l, h with
  | [], _ => rfl
  | [a], _ => cases hq : q a <;> simp [hq]

/-- The ends of one merge meet where nothing is left between them, or one element. -/
theorem joinEnds_take_drop {l r : List α} {m : List (Bool × α)} (h : Interleaves l r m) {j k : Nat}
    (hjk : j ≤ k) (hk : k ≤ j + 1) :
    joinEnds l r (m.take j) (m.drop k) = some (m.map Prod.snd) := by
  obtain ⟨hleft, hlefts⟩ := Interleaves.map_filter_middle h.left hjk
  obtain ⟨hright, hrights⟩ := Interleaves.map_filter_middle h.right hjk
  have hshort : ((m.take k).drop j).length ≤ 1 := by
    rw [List.length_drop, List.length_take]
    omega
  have hmiddle : ((m.take k).drop j).map Prod.snd =
      (((m.take k).drop j).filter (·.1)).map Prod.snd ++
        (((m.take k).drop j).filter (!·.1)).map Prod.snd := by
    rw [← List.map_append, filter_append_filter_not hshort]
  rw [joinEnds, if_pos ⟨hleft, hright⟩, ← hlefts, ← hrights, List.append_assoc (m.take j |>.map _),
    ← hmiddle, ← List.map_append, ← List.map_append, take_append_middle_append_drop hjk]

theorem joinEnds_perm {l r o : List α} {m m' : List (Bool × α)} (h : Interleaves l r m)
    (h' : Interleaves l r m') {j k : Nat} (ho : joinEnds l r (m.take j) (m'.drop k) = some o) :
    o.Perm (l ++ r) := by
  unfold joinEnds at ho
  extract_lets leftStart leftStop rightStart rightStop at ho
  split at ho
  case isFalse => cases ho
  case isTrue hle =>
    obtain rfl := Option.some.inj ho
    have hfront : ((m.take j).map Prod.snd).Perm (l.take leftStart ++ r.take rightStart) :=
      h.take_perm j
    have hback : ((m'.drop k).map Prod.snd).Perm (l.drop leftStop ++ r.drop rightStop) :=
      h'.drop_perm k
    have hl := take_append_middle_append_drop hle.1 l
    have hr := take_append_middle_append_drop hle.2 r
    classical
    refine List.perm_iff_count.2 fun c => ?_
    have hfront := hfront.count_eq c
    have hback := hback.count_eq c
    have hl := congrArg (List.count c) hl
    have hr := congrArg (List.count c) hr
    simp only [List.count_append] at hfront hback hl hr ⊢
    omega

theorem mergeBoth_perm {l r m : List α} (h : mergeBoth less l r = some m) : m.Perm (l ++ r) :=
  joinEnds_perm (interleaves_merge _ l r) (interleaves_mergeBack _ l r) h

/-- All outcomes of a function are permutations of its argument. -/
def Permutes (f : List α → Option (List α)) : Prop := ∀ l m, f l = some m → m.Perm l

theorem permutes_smallSort (less : α → α → Bool) : Permutes (smallSort less) := fun l m h => by
  have hhalves := (mergeBoth_perm h).trans ((sortHalf_perm _ _).append (sortHalf_perm _ _))
  rwa [List.take_append_drop] at hhalves

/-! ### Stable sorting by an order -/

/-- Among the elements with a property, `less` is the strict part of a comparison. -/
def IsLess (less : α → α → Bool) (cmp : α → α → Ordering) (p : α → Prop) : Prop :=
  ∀ a b, p a → p b → (less a b ↔ cmp a b = .lt)

variable {cmp : α → α → Ordering} {p : α → Prop}

theorem IsLess.flip (h : IsLess less cmp p) :
    IsLess (fun a b => less b a) (fun a b => cmp b a) p := fun a b ha hb => h b a hb ha

theorem IsLess.comap (h : IsLess less cmp p) (f : β → α) :
    IsLess (fun a b => less (f a) (f b)) (fun a b => cmp (f a) (f b)) (p <| f ·) :=
  fun a b => h (f a) (f b)

variable [TransCmp cmp]

theorem IsLess.not_iff (h : IsLess less cmp p) {a b : α} (ha : p a) (hb : p b) :
    ¬less a b ↔ (cmp b a).isLE := by
  rw [h a b ha hb, isLE_iff_ne_lt]

theorem IsLess.congr_left (h : IsLess less cmp p) {a b c : α} (ha : p a) (hb : p b) (hc : p c)
    (heq : cmp a b = .eq) : less a c = less b c := by
  rw [Bool.eq_iff_iff, h a c ha hc, h b c hb hc, TransCmp.congr_left heq]

theorem sortsTo_merge (h : IsLess less cmp p) {l r : List α} (hl : ∀ a ∈ l, p a)
    (hr : ∀ a ∈ r, p a) (hls : l.Pairwise fun a b => (cmp a b).isLE)
    (hrs : r.Pairwise fun a b => (cmp a b).isLE) : SortsTo cmp (l ++ r) (merge less l r) := by
  induction l generalizing r with
  | nil => exact ⟨.refl r, hrs⟩
  | cons a l ih =>
      rw [List.forall_mem_cons] at hl
      rw [List.pairwise_cons] at hls
      have hbefore : ∀ b ∈ r.takeWhile (less · a), cmp b a = .lt := fun b hb => by
        have hba := List.mem_takeWhile_imp hb
        exact (h b a (hr b ((List.takeWhile_sublist _).subset hb)) hl.1).1 hba
      have hrest : ∀ b ∈ r.dropWhile (less · a), p b := fun b hb =>
        hr b ((List.dropWhile_sublist _).subset hb)
      have hrests := hrs.sublist (List.dropWhile_sublist (less · a))
      have hafter : ∀ b ∈ r.dropWhile (less · a), (cmp a b).isLE := by
        have hhead := List.head?_dropWhile_not (less · a) r
        generalize r.dropWhile (less · a) = rest at *
        cases rest with
        | nil => exact nofun
        | cons b rest =>
            have hab : (cmp a b).isLE := (h.not_iff (hrest b (.head rest)) hl.1).1 (by simp_all)
            exact List.forall_mem_cons.2
              ⟨hab, fun c hc => TransCmp.isLE_trans hab (List.rel_of_pairwise_cons hrests hc)⟩
      have hle : ∀ b ∈ a :: (l ++ r.dropWhile (less · a)), (cmp a b).isLE :=
        List.forall_mem_cons.2 ⟨ReflCmp.isLE_rfl, List.forall_mem_append.2 ⟨hls.1, hafter⟩⟩
      have hlt : ∀ b ∈ r.takeWhile (less · a), ∀ c ∈ a :: (l ++ r.dropWhile (less · a)),
          cmp b c = .lt := fun b hb c hc => TransCmp.lt_of_lt_of_isLE (hbefore b hb) (hle c hc)
      have hmove : SameClasses cmp (a :: l ++ r.takeWhile (less · a))
          (r.takeWhile (less · a) ++ a :: l) := by
        refine .append_comm fun c hc b hb hcb => ?_
        have hbc := hlt b hb c (List.mem_append_left _ hc)
        rw [OrientedCmp.eq_symm hcb] at hbc
        cases hbc
      have hsame := hmove.append (.refl (r.dropWhile (less · a)))
      rw [List.append_assoc, List.takeWhile_append_dropWhile, List.append_assoc] at hsame
      refine .append hsame ⟨.refl _, hrs.sublist (List.takeWhile_sublist _)⟩
        ((ih hl.2 hrest hls.2 hrests).cons fun b hb => hle b (.tail a hb)) fun b hb c hc => ?_
      rw [hlt b hb c hc]
      rfl

theorem sortsTo_mergeBack (h : IsLess less cmp p) {l r : List α} (hl : ∀ a ∈ l, p a)
    (hr : ∀ a ∈ r, p a) (hls : l.Pairwise fun a b => (cmp a b).isLE)
    (hrs : r.Pairwise fun a b => (cmp a b).isLE) : SortsTo cmp (l ++ r) (mergeBack less l r) := by
  have : TransCmp fun a b => cmp b a := .opposite
  refine .of_reverse ?_
  rw [List.reverse_append]
  exact sortsTo_merge h.flip (by simpa using hr) (by simpa using hl) (List.pairwise_reverse.2 hrs)
    (List.pairwise_reverse.2 hls)

theorem sortsTo_insertAll (h : IsLess less cmp p) {l s : List α} (hs : SortsTo cmp l s)
    (hl : ∀ a ∈ l, p a) {m : List α} (hm : ∀ a ∈ m, p a) :
    SortsTo cmp (l ++ m) (insertAll less s m) := by
  induction m generalizing l s with
  | nil => simpa using hs
  | cons a m ih =>
      rw [List.forall_mem_cons] at hm
      have ha : ∀ b ∈ [a], p b := List.forall_mem_singleton.2 hm.1
      have hinsert : SortsTo cmp (l ++ [a]) (mergeBack less s [a]) :=
        .of_same (hs.same.append (.refl [a])) <|
          sortsTo_mergeBack h (fun b hb => hl b (hs.mem_iff.2 hb)) ha hs.sorted
            (List.pairwise_singleton ..)
      have hall := ih hinsert (List.forall_mem_append.2 ⟨hl, ha⟩) hm.2
      rwa [List.append_assoc] at hall

theorem sortsTo_insertionSort (h : IsLess less cmp p) {l : List α} (hl : ∀ a ∈ l, p a) :
    SortsTo cmp l (insertionSort less l) :=
  sortsTo_insertAll h ⟨.refl [], .nil⟩ nofun hl

theorem sortsTo_sortTwo (h : IsLess less cmp p) {a b : α} (ha : p a) (hb : p b) :
    SortsTo cmp [a, b] [(sortTwo less a b).1, (sortTwo less a b).2] := by
  rw [sortTwo]
  split
  case isTrue hba =>
    have hlt := (h b a hb ha).1 hba
    exact ⟨(SameClasses.swap hlt []).symm, by simp [hlt]⟩
  case isFalse hba => exact ⟨.refl _, by simpa using (h.not_iff hb ha).1 hba⟩

theorem placeEnds_spec (h : IsLess less cmp p) {a b c d : α} (hp : ∀ x ∈ [a, b, c, d], p x)
    (hab : (cmp a b).isLE) (hcd : (cmp c d).isLE) :
    let q := placeEnds less a b c d
    SameClasses cmp [a, b, c, d] [q.1, q.2.1, q.2.2.1, q.2.2.2] ∧
      ∀ x ∈ [q.2.1, q.2.2.1], (cmp q.1 x).isLE ∧ (cmp x q.2.2.2).isLE := by
  simp only [List.forall_mem_cons, List.not_mem_nil, false_imp_iff, implies_true, and_true] at hp ⊢
  obtain ⟨ha, hb, hc, hd⟩ := hp
  -- The greater of two elements passes the other one and what that one is not less than.
  have hpass {x y z : α} (hxy : (cmp x y).isLE) (hyz : cmp y z = .lt) :
      SameClasses cmp [z, x, y] [x, y, z] := by
    have hxz := TransCmp.lt_of_isLE_of_lt hxy hyz
    exact (SameClasses.swap hxz [y]).symm.trans ((SameClasses.swap hyz []).symm.cons x)
  cases hca : less c a <;> cases hdb : less d b <;> simp only [placeEnds, hca, hdb]
  case false.false =>
    have hac : (cmp a c).isLE := (h.not_iff hc ha).1 (by simp [hca])
    have hbd : (cmp b d).isLE := (h.not_iff hd hb).1 (by simp [hdb])
    exact ⟨.refl _, ⟨hab, hbd⟩, hac, hcd⟩
  case false.true =>
    have hac : (cmp a c).isLE := (h.not_iff hc ha).1 (by simp [hca])
    have hdb : cmp d b = .lt := (h d b hd hb).1 hdb
    have hcb := TransCmp.lt_of_isLE_of_lt hcd hdb
    exact ⟨(hpass hcd hdb).cons a, ⟨hac, by simp [hcb]⟩, TransCmp.isLE_trans hac hcd,
      by simp [hdb]⟩
  case true.false =>
    have hca : cmp c a = .lt := (h c a hc ha).1 hca
    have hbd : (cmp b d).isLE := (h.not_iff hd hb).1 (by simp [hdb])
    have hcb := TransCmp.lt_of_lt_of_isLE hca hab
    have hmove : SameClasses cmp [a, b, c] [c, a, b] :=
      ((SameClasses.swap hcb []).symm.cons a).trans (SameClasses.swap hca [b]).symm
    exact ⟨hmove.append (.refl [d]), ⟨by simp [hca], TransCmp.isLE_trans hab hbd⟩, by simp [hcb],
      hbd⟩
  case true.true =>
    have hca : cmp c a = .lt := (h c a hc ha).1 hca
    have hdb : cmp d b = .lt := (h d b hd hb).1 hdb
    exact ⟨((hpass hcd hdb).cons a).trans (SameClasses.swap hca [d, b]).symm,
      ⟨by simp [hca], hab⟩, hcd, by simp [hdb]⟩

theorem sortsTo_sortFour (h : IsLess less cmp p) {v₀ v₁ v₂ v₃ : α}
    (hp : ∀ a ∈ [v₀, v₁, v₂, v₃], p a) :
    SortsTo cmp [v₀, v₁, v₂, v₃] (sortFour less v₀ v₁ v₂ v₃) := by
  let x := sortTwo less v₀ v₁
  let y := sortTwo less v₂ v₃
  let e := placeEnds less x.1 x.2 y.1 y.2
  let m := sortTwo less e.2.1 e.2.2.1
  change SortsTo cmp _ [e.1, m.1, m.2, e.2.2.2]
  have hx : SortsTo cmp [v₀, v₁] [x.1, x.2] := sortsTo_sortTwo h (hp _ (by simp)) (hp _ (by simp))
  have hy : SortsTo cmp [v₂, v₃] [y.1, y.2] := sortsTo_sortTwo h (hp _ (by simp)) (hp _ (by simp))
  have hpairs : SameClasses cmp [v₀, v₁, v₂, v₃] [x.1, x.2, y.1, y.2] := hx.same.append hy.same
  obtain ⟨hsame, hends⟩ := placeEnds_spec h (fun a ha => hp a (hpairs.mem_iff.2 ha))
    (List.rel_of_pairwise_cons hx.sorted (by simp)) (List.rel_of_pairwise_cons hy.sorted (by simp))
  have he := hpairs.trans hsame
  have hm : SortsTo cmp [e.2.1, e.2.2.1] [m.1, m.2] :=
    sortsTo_sortTwo h (hp _ (he.mem_iff.2 (by simp [e]))) (hp _ (he.mem_iff.2 (by simp [e])))
  have hhigh : SortsTo cmp [e.2.1, e.2.2.1, e.2.2.2] [m.1, m.2, e.2.2.2] := by
    have hlast : SortsTo cmp [e.2.2.2] [e.2.2.2] := ⟨.refl _, List.pairwise_singleton ..⟩
    exact .append (.refl _) hm hlast fun a ha => List.forall_mem_singleton.2 (hends a ha).2
  refine .of_same he (hhigh.cons fun a ha => ?_)
  obtain ha | ha : a ∈ [e.2.1, e.2.2.1] ∨ a ∈ [e.2.2.2] := List.mem_append.1 ha
  · exact (hends a ha).1
  · obtain rfl := List.mem_singleton.1 ha
    obtain ⟨hlow, hhigh⟩ := hends e.2.1 (.head _)
    exact TransCmp.isLE_trans hlow hhigh

theorem sortsTo_sortHalf (h : IsLess less cmp p) (four : Bool) {l : List α} (hl : ∀ a ∈ l, p a) :
    SortsTo cmp l (sortHalf less four l) := by
  unfold sortHalf
  split
  case h_1 a b c d l =>
    have hsplit : a :: b :: c :: d :: l = [a, b, c, d] ++ l := rfl
    rw [hsplit, List.forall_mem_append] at hl
    exact sortsTo_insertAll h (sortsTo_sortFour h hl.1) hl.1 hl.2
  case h_2 => exact sortsTo_insertionSort h hl

/-- Merging from both ends gives what merging from the front does. -/
theorem mergeBoth_eq_merge (h : IsLess less cmp p) {l r : List α} (hl : ∀ a ∈ l, p a)
    (hr : ∀ a ∈ r, p a) (hls : l.Pairwise fun a b => (cmp a b).isLE)
    (hrs : r.Pairwise fun a b => (cmp a b).isLE) : mergeBoth less l r = some (merge less l r) := by
  have := transCmp_comap cmp (Prod.snd : Bool × α → α)
  let lessMarked (a b : Bool × α) := less a.2 b.2
  -- A stable sort of the marked elements is unique, so the marks are the same from the end.
  have hback : mergeBack lessMarked (l.map (Prod.mk true)) (r.map (Prod.mk false)) =
      merge lessMarked (l.map (Prod.mk true)) (r.map (Prod.mk false)) := by
    have hless := h.comap (Prod.snd : Bool × α → α)
    refine SortsTo.unique (sortsTo_mergeBack hless ?_ ?_ ?_ ?_) (sortsTo_merge hless ?_ ?_ ?_ ?_)
    all_goals simpa [List.pairwise_map]
  change joinEnds _ _ _ ((mergeBack lessMarked _ _).drop _) = _
  rw [hback, joinEnds_take_drop (interleaves_merge _ l r) (by omega) (by omega), map_merge]
  simp [Function.comp_def]

/-- A function gives a stable sort of every list of elements with a property. -/
def Sorts (f : List α → Option (List α)) (cmp : α → α → Ordering) (p : α → Prop) : Prop :=
  ∀ l, (∀ a ∈ l, p a) → ∃ m, f l = some m ∧ SortsTo cmp l m

theorem sorts_smallSort (h : IsLess less cmp p) : Sorts (smallSort less) cmp p := fun l hl => by
  let four := decide (8 ≤ l.length)
  have hfirst : ∀ a ∈ l.take (l.length / 2), p a := fun a ha => hl a (List.mem_of_mem_take ha)
  have hsecond : ∀ a ∈ l.drop (l.length / 2), p a := fun a ha => hl a (List.mem_of_mem_drop ha)
  have hf := sortsTo_sortHalf h four hfirst
  have hs := sortsTo_sortHalf h four hsecond
  have hpf : ∀ a ∈ sortHalf less four (l.take (l.length / 2)), p a :=
    fun a ha => hfirst a (hf.mem_iff.2 ha)
  have hps : ∀ a ∈ sortHalf less four (l.drop (l.length / 2)), p a :=
    fun a ha => hsecond a (hs.mem_iff.2 ha)
  refine ⟨_, mergeBoth_eq_merge h hpf hps hf.sorted hs.sorted, .of_same ?_
    (sortsTo_merge h hpf hps hf.sorted hs.sorted)⟩
  simpa using hf.same.append hs.same

end StableSort

end GraphAlgebra
