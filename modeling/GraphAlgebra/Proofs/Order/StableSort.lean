import Mathlib.Data.List.Chain
import GraphAlgebra.Proofs.Order.Quicksort
/-!
# Stable sorting

Whatever `less` is, a sorted list is a permutation of the list (`StableSort.permutes_sort`). Where
`less` is the strict part of an order on the elements of the list, there is an outcome and it is the
stable sort (`StableSort.sorts_sort`): the runs of a list, which are merged with their neighbours
only, are stable rearrangements of its parts from the beginning to the end.
-/

namespace GraphAlgebra

open Std

namespace StableSort

variable {α : Type} {less : α → α → Bool}

/-! ### Cutting runs -/

theorem isChain_take_followers (down : Bool) (a : α) (l : List α) :
    ((a :: l).take (followers less down a l + 1)).IsChain fun x y => less y x = down := by
  induction l generalizing a with
  | nil => exact List.isChain_singleton a
  | cons b l ih =>
      rw [followers]
      split
      case isTrue h =>
        rw [List.take_succ_cons, List.take_succ_cons, List.isChain_cons_cons]
        have ih := ih b
        rw [List.take_succ_cons] at ih
        exact ⟨h, ih⟩
      case isFalse => exact List.isChain_singleton a

theorem isChain_naturalRun (l : List α) :
    (l.take (naturalRun less l).1).IsChain fun x y => less y x = (naturalRun less l).2 := by
  match l with
  | [] => exact .nil
  | [a] => exact List.isChain_singleton a
  | a :: b :: l => exact isChain_take_followers _ a (b :: l)

theorem enoughFor_pos {n : Nat} (hn : 0 < n) : 0 < enoughFor n := by
  rw [enoughFor]
  split
  case isTrue => omega
  case isFalse hlong =>
    have hlog : 1 ≤ n.log2 := (Nat.le_log2 (by omega)).2 (by omega)
    have hpow : 2 ^ 1 ≤ 2 ^ ((1 + n.log2) / 2) := Nat.pow_le_pow_right (by omega) (by omega)
    have hshift : 2 ≤ 1 <<< ((1 + n.log2) / 2) := by rwa [Nat.one_shiftLeft]
    exact Nat.div_pos (Nat.le_add_right_of_le hshift) (by omega)

theorem eq_of_firstRun {enough : Nat} {eager : Bool} {l : List α} {run : Run α}
    (h : firstRun less enough eager l = some run) :
    (enough ≤ (naturalRun less l).1 ∧ (run = ⟨l.take (naturalRun less l).1, true⟩ ∨
        run = ⟨(l.take (naturalRun less l).1).reverse, true⟩)) ∨
      (∃ m, smallSort less (l.take shortLength) = some m ∧ run = ⟨m, true⟩) ∨
      run = ⟨l.take enough, false⟩ := by
  unfold firstRun at h
  split at h
  next n down hnatural =>
    rw [hnatural]
    split at h
    case isTrue hn =>
      obtain rfl := Option.some.inj h
      cases down
      · exact .inl ⟨hn, .inl rfl⟩
      · exact .inl ⟨hn, .inr rfl⟩
    case isFalse =>
      split at h
      case isTrue =>
        obtain ⟨m, hm, h⟩ := Option.bind_eq_some_iff.1 h
        exact .inr (.inl ⟨m, hm, (Option.some.inj h).symm⟩)
      case isFalse => exact .inr (.inr (Option.some.inj h).symm)

/-- A run is a part of the list from its beginning on, and it is not empty. -/
theorem exists_perm_take_of_firstRun {enough : Nat} (henough : 0 < enough) {eager : Bool}
    {l : List α} {run : Run α} (h : firstRun less enough eager l = some run) :
    ∃ n, 0 < n ∧ run.toList.Perm (l.take n) := by
  obtain ⟨hn, rfl | rfl⟩ | ⟨m, hm, rfl⟩ | rfl := eq_of_firstRun h
  · exact ⟨_, by omega, .refl _⟩
  · exact ⟨_, by omega, List.reverse_perm _⟩
  · exact ⟨_, by decide, permutes_smallSort less _ m hm⟩
  · exact ⟨_, henough, .refl _⟩

theorem take_eq_cons {a : α} {l m : List α} {n : Nat} (hn : 0 < n)
    (hm : m.length = ((a :: l).take n).length) : (a :: l).take n = a :: l.take (m.length - 1) := by
  obtain ⟨n, rfl⟩ := Nat.exists_eq_succ_of_ne_zero hn.ne'
  rw [hm, List.take_succ_cons, List.length_cons, Nat.add_sub_cancel, List.length_take,
    ← List.take_eq_take_min]

theorem permutes_cutRuns {enough : Nat} (henough : 0 < enough) {eager : Bool} {l : List α}
    {runs : List (Run α)} (h : cutRuns less enough eager l = some runs) :
    (runs.flatMap Run.toList).Perm l := by
  induction l using cutRuns.induct generalizing runs with
  | case1 =>
      rw [cutRuns] at h
      obtain rfl := Option.some.inj h
      exact .nil
  | case2 a l ih =>
      rw [cutRuns] at h
      obtain ⟨run, hrun, h⟩ := Option.bind_eq_some_iff.1 h
      obtain ⟨rest, hrest, h⟩ := Option.bind_eq_some_iff.1 h
      obtain rfl := Option.some.inj h
      obtain ⟨n, hn, hperm⟩ := exists_perm_take_of_firstRun henough hrun
      rw [take_eq_cons hn hperm.length_eq] at hperm
      simpa using hperm.append (ih run hrest)

/-! ### Merging runs -/

variable {sortRun : List α → Option (List α)} {room : Nat}

theorem perm_of_toSorted (hsort : Permutes sortRun) {run : Run α} {l : List α}
    (h : run.toSorted sortRun = some l) : l.Perm run.toList := by
  rw [Run.toSorted] at h
  split at h
  · obtain rfl := Option.some.inj h
    exact .refl _
  · exact hsort _ l h

theorem perm_of_mergePair (hsort : Permutes sortRun) {left right run : Run α}
    (h : mergePair less sortRun room left right = some run) :
    run.toList.Perm (left.toList ++ right.toList) := by
  rw [mergePair] at h
  split at h
  · obtain rfl := Option.some.inj h
    exact .refl _
  · obtain ⟨l, hl, h⟩ := Option.bind_eq_some_iff.1 h
    obtain ⟨r, hr, h⟩ := Option.bind_eq_some_iff.1 h
    obtain rfl := Option.some.inj h
    have hparts := (perm_of_toSorted hsort hl).append (perm_of_toSorted hsort hr)
    refine List.Perm.trans ?_ hparts
    dsimp only
    split
    · exact merge_perm l r
    · exact mergeBack_perm l r

/-- The elements of the earlier runs, which are kept from the last one to the first one. -/
def earlierList : List (Run α × Nat) → List α
  | [] => []
  | (run, _) :: earlier => earlierList earlier ++ run.toList

theorem perm_of_mergeDown (hsort : Permutes sortRun) {level : Nat}
    {earlier earlier' : List (Run α × Nat)} {run run' : Run α}
    (h : mergeDown less sortRun room level earlier run = some (earlier', run')) :
    (earlierList earlier' ++ run'.toList).Perm (earlierList earlier ++ run.toList) := by
  induction earlier generalizing run with
  | nil =>
      obtain ⟨rfl, rfl⟩ := Prod.mk.inj (Option.some.inj h)
      exact .refl _
  | cons e earlier ih =>
      obtain ⟨left, l⟩ := e
      rw [mergeDown] at h
      split at h
      · obtain ⟨both, hboth, h⟩ := Option.bind_eq_some_iff.1 h
        refine (ih h).trans (((perm_of_mergePair hsort hboth).append_left _).trans ?_)
        rw [earlierList, List.append_assoc]
      · obtain ⟨rfl, rfl⟩ := Prod.mk.inj (Option.some.inj h)
        exact .refl _

/-- Every run is met at the lowest level. -/
theorem eq_nil_of_mergeDown_zero {earlier earlier' : List (Run α × Nat)} {run run' : Run α}
    (h : mergeDown less sortRun room 0 earlier run = some (earlier', run')) : earlier' = [] := by
  induction earlier generalizing run with
  | nil => exact (Prod.mk.inj (Option.some.inj h)).1.symm
  | cons e earlier ih =>
      rw [mergeDown, if_pos (Nat.zero_le _)] at h
      obtain ⟨both, -, h⟩ := Option.bind_eq_some_iff.1 h
      exact ih h

theorem perm_of_mergeRuns (hsort : Permutes sortRun) {n mid : Nat} {earlier : List (Run α × Nat)}
    {run run' : Run α} {runs : List (Run α)}
    (h : mergeRuns less sortRun room n mid earlier run runs = some run') :
    run'.toList.Perm (earlierList earlier ++ run.toList ++ runs.flatMap Run.toList) := by
  induction runs generalizing mid earlier run with
  | nil =>
      obtain ⟨⟨rest, both⟩, hboth, h⟩ := Option.bind_eq_some_iff.1 h
      obtain rfl := Option.some.inj h
      obtain rfl := eq_nil_of_mergeDown_zero hboth
      simpa [earlierList] using perm_of_mergeDown hsort hboth
  | cons next runs ih =>
      rw [mergeRuns] at h
      obtain ⟨⟨rest, both⟩, hboth, h⟩ := Option.bind_eq_some_iff.1 h
      refine (ih h).trans ?_
      simpa [earlierList] using (perm_of_mergeDown hsort hboth).append_right
        (next.toList ++ runs.flatMap Run.toList)

theorem runSort_nil (less : α → α → Bool) (sortRun : List α → Option (List α)) (room : Nat)
    (eager : Bool) : runSort less sortRun room eager [] = some [] := by
  rw [runSort, cutRuns]
  rfl

theorem permutes_runSort (less : α → α → Bool) (hsort : Permutes sortRun) (room : Nat)
    (eager : Bool) : Permutes (runSort less sortRun room eager) := fun l m h => by
  obtain rfl | hpos := Nat.eq_zero_or_pos l.length |>.imp_left List.length_eq_zero_iff.1
  · rw [runSort_nil] at h
    obtain rfl := Option.some.inj h
    exact .nil
  obtain ⟨runs, hruns, h⟩ := Option.bind_eq_some_iff.1 h
  have hcut := permutes_cutRuns (enoughFor_pos hpos) hruns
  cases runs with
  | nil =>
      obtain rfl := Option.some.inj h
      exact hcut
  | cons run runs =>
      obtain ⟨all, hall, h⟩ := Option.bind_eq_some_iff.1 h
      have hmerge := (perm_of_toSorted hsort h).trans (perm_of_mergeRuns hsort hall)
      exact hmerge.trans (by simpa [earlierList] using hcut)

theorem permutes_insertionSort (less : α → α → Bool) :
    Permutes fun l => some (insertionSort less l) := fun l m h => by
  obtain rfl := Option.some.inj h
  exact insertionSort_perm less l

theorem permutes_fastSort (less : α → α → Bool) (room : Nat) : Permutes (fastSort less room) :=
  fun l => permutes_quicksort
    (permutes_runSort less (permutes_insertionSort less) room true) (2 * l.length.log2) none l

theorem permutes_sort (less : α → α → Bool) : Permutes (sort less) := fun l m h => by
  rw [sort] at h
  split at h
  · exact permutes_insertionSort less l m h
  · exact permutes_runSort less (permutes_fastSort less _) _ _ l m h

/-- What is taken for sorted is in order. -/
def Run.InOrder (cmp : α → α → Ordering) (run : Run α) : Prop :=
  run.sorted → run.toList.Pairwise fun a b => (cmp a b).isLE

variable {cmp : α → α → Ordering} {p : α → Prop} [TransCmp cmp]

/-- The natural run is in order, or it goes down without equal elements and is reversed. -/
theorem sortsTo_naturalRun (h : IsLess less cmp p) {l : List α} (hl : ∀ a ∈ l, p a) :
    let m := l.take (naturalRun less l).1
    SortsTo cmp m (if (naturalRun less l).2 then m.reverse else m) := by
  intro m
  have hchain : m.IsChain fun a b => less b a = (naturalRun less l).2 := isChain_naturalRun l
  have hm : ∀ a ∈ m, p a := fun a ha => hl a (List.mem_of_mem_take ha)
  split
  case isTrue hdown =>
    rw [hdown] at hchain
    have : Trans (fun a b => cmp b a = .lt) (fun a b => cmp b a = .lt) fun a b => cmp b a = .lt :=
      ⟨fun hab hbc => TransCmp.lt_trans hbc hab⟩
    have hdescends : m.Pairwise fun a b => cmp b a = .lt :=
      (hchain.imp_of_mem_imp fun a b ha hb hba => (h b a (hm b hb) (hm a ha)).1 hba).pairwise
    refine ⟨.reverse_of_pairwise (hdescends.imp fun hba hab => ?_),
      List.pairwise_reverse.2 (hdescends.imp fun hba => by rw [hba]; rfl)⟩
    rw [OrientedCmp.eq_symm hab] at hba
    cases hba
  case isFalse hup =>
    rw [Bool.not_eq_true] at hup
    rw [hup] at hchain
    have : Trans (fun a b => (cmp a b).isLE = true) (fun a b => (cmp a b).isLE = true)
        fun a b => (cmp a b).isLE = true := ⟨TransCmp.isLE_trans⟩
    refine ⟨.refl m, List.IsChain.pairwise ?_⟩
    exact hchain.imp_of_mem_imp fun a b ha hb hba =>
      (h.not_iff (hm b hb) (hm a ha)).1 (by simp [hba])

theorem exists_firstRun (h : IsLess less cmp p) {enough : Nat} (henough : 0 < enough) (eager : Bool)
    {l : List α} (hl : ∀ a ∈ l, p a) :
    ∃ run, firstRun less enough eager l = some run ∧ run.InOrder cmp ∧
      ∃ n, 0 < n ∧ SameClasses cmp (l.take n) run.toList := by
  have hnatural := sortsTo_naturalRun h hl
  unfold firstRun
  generalize naturalRun less l = natural at hnatural
  obtain ⟨n, down⟩ := natural
  dsimp only at hnatural ⊢
  split
  case isTrue hn => exact ⟨_, rfl, fun _ => hnatural.sorted, n, by omega, hnatural.same⟩
  case isFalse =>
    split
    case isTrue =>
      obtain ⟨m, hm, hsorts⟩ := sorts_smallSort h (l.take shortLength) fun a ha =>
        hl a (List.mem_of_mem_take ha)
      exact ⟨_, by rw [hm]; rfl, fun _ => hsorts.sorted, shortLength, by decide, hsorts.same⟩
    case isFalse => exact ⟨_, rfl, nofun, enough, henough, .refl _⟩

theorem exists_cutRuns (h : IsLess less cmp p) {enough : Nat} (henough : 0 < enough) (eager : Bool)
    {l : List α} (hl : ∀ a ∈ l, p a) :
    ∃ runs, cutRuns less enough eager l = some runs ∧ (∀ run ∈ runs, run.InOrder cmp) ∧
      SameClasses cmp l (runs.flatMap Run.toList) := by
  induction l using cutRuns.induct with
  | case1 => exact ⟨[], by rw [cutRuns], nofun, .refl []⟩
  | case2 a l ih =>
      obtain ⟨run, hrun, hinOrder, n, hn, hsame⟩ := exists_firstRun h henough eager hl
      obtain ⟨rest, hrest, hinOrders, hsames⟩ := ih run fun b hb =>
        hl b (.tail a (List.mem_of_mem_drop hb))
      refine ⟨run :: rest, by rw [cutRuns, hrun, Option.bind_eq_bind, Option.bind_some, hrest]; rfl,
        List.forall_mem_cons.2 ⟨hinOrder, hinOrders⟩, ?_⟩
      rw [take_eq_cons hn hsame.perm.length_eq.symm] at hsame
      simpa using hsame.append hsames

omit [TransCmp cmp] in
theorem exists_toSorted (hsort : Sorts sortRun cmp p) {run : Run α} (hrun : ∀ a ∈ run.toList, p a)
    (hinOrder : run.InOrder cmp) :
    ∃ l, run.toSorted sortRun = some l ∧ SortsTo cmp run.toList l := by
  rw [Run.toSorted]
  split
  case isTrue hsorted => exact ⟨_, rfl, .refl _, hinOrder hsorted⟩
  case isFalse => exact hsort _ hrun

theorem exists_mergePair (room : Nat) (h : IsLess less cmp p) (hsort : Sorts sortRun cmp p)
    {left right : Run α} (hp : ∀ a ∈ left.toList ++ right.toList, p a) (hleft : left.InOrder cmp)
    (hright : right.InOrder cmp) :
    ∃ run, mergePair less sortRun room left right = some run ∧ run.InOrder cmp ∧
      SameClasses cmp (left.toList ++ right.toList) run.toList := by
  rw [List.forall_mem_append] at hp
  rw [mergePair]
  split
  case isTrue => exact ⟨_, rfl, nofun, .refl _⟩
  case isFalse =>
    obtain ⟨l, hl, hlsorts⟩ := exists_toSorted hsort hp.1 hleft
    obtain ⟨r, hr, hrsorts⟩ := exists_toSorted hsort hp.2 hright
    have hpl : ∀ a ∈ l, p a := fun a ha => hp.1 a (hlsorts.mem_iff.2 ha)
    have hpr : ∀ a ∈ r, p a := fun a ha => hp.2 a (hrsorts.mem_iff.2 ha)
    have hmerge : SortsTo cmp (l ++ r)
        (if l.length ≤ r.length then merge less l r else mergeBack less l r) := by
      split
      · exact sortsTo_merge h hpl hpr hlsorts.sorted hrsorts.sorted
      · exact sortsTo_mergeBack h hpl hpr hlsorts.sorted hrsorts.sorted
    exact ⟨_, by rw [hl, hr]; rfl, fun _ => hmerge.sorted,
      (hlsorts.same.append hrsorts.same).trans hmerge.same⟩

theorem exists_mergeDown (room : Nat) (h : IsLess less cmp p) (hsort : Sorts sortRun cmp p)
    (level : Nat) {earlier : List (Run α × Nat)} {run : Run α}
    (hp : ∀ a ∈ earlierList earlier ++ run.toList, p a)
    (hearlier : ∀ e ∈ earlier, e.1.InOrder cmp) (hrun : run.InOrder cmp) :
    ∃ earlier' run', mergeDown less sortRun room level earlier run = some (earlier', run') ∧
      (∀ e ∈ earlier', e.1.InOrder cmp) ∧ run'.InOrder cmp ∧
      SameClasses cmp (earlierList earlier ++ run.toList)
        (earlierList earlier' ++ run'.toList) := by
  induction earlier generalizing run with
  | nil => exact ⟨[], run, rfl, nofun, hrun, .refl _⟩
  | cons e earlier ih =>
      obtain ⟨left, l⟩ := e
      rw [List.forall_mem_cons] at hearlier
      rw [mergeDown]
      split
      case isTrue =>
        rw [earlierList, List.append_assoc] at hp ⊢
        obtain ⟨both, hboth, hinOrder, hsame⟩ := exists_mergePair room h hsort
          (fun a ha => hp a (List.mem_append_right _ ha)) hearlier.1 hrun
        have hsames := (SameClasses.refl (earlierList earlier)).append hsame
        obtain ⟨earlier', run', hdown, hearlier', hrun', hsame'⟩ :=
          ih (fun a ha => hp a (hsames.mem_iff.2 ha)) hearlier.2 hinOrder
        exact ⟨earlier', run', by rw [hboth]; exact hdown, hearlier', hrun', hsames.trans hsame'⟩
      case isFalse => exact ⟨_, run, rfl, List.forall_mem_cons.2 hearlier, hrun, .refl _⟩

theorem exists_mergeRuns (room : Nat) (h : IsLess less cmp p) (hsort : Sorts sortRun cmp p)
    (n mid : Nat) (earlier : List (Run α × Nat)) {run : Run α} {runs : List (Run α)}
    (hp : ∀ a ∈ earlierList earlier ++ run.toList ++ runs.flatMap Run.toList, p a)
    (hearlier : ∀ e ∈ earlier, e.1.InOrder cmp) (hruns : ∀ r ∈ run :: runs, r.InOrder cmp) :
    ∃ run', mergeRuns less sortRun room n mid earlier run runs = some run' ∧ run'.InOrder cmp ∧
      SameClasses cmp (earlierList earlier ++ run.toList ++ runs.flatMap Run.toList)
        run'.toList := by
  induction runs generalizing mid earlier run with
  | nil =>
      rw [List.flatMap_nil, List.append_nil] at hp ⊢
      obtain ⟨earlier', run', hdown, -, hrun', hsame⟩ :=
        exists_mergeDown room h hsort 0 hp hearlier (hruns run (.head _))
      obtain rfl := eq_nil_of_mergeDown_zero hdown
      exact ⟨run', by rw [mergeRuns, hdown]; rfl, hrun', hsame⟩
  | cons next runs ih =>
      rw [List.forall_mem_cons] at hruns
      let stop := mid + next.toList.length
      let level := meetLevel n (mid - run.toList.length) mid stop
      obtain ⟨earlier', run', hdown, hearlier', hrun', hsame⟩ := exists_mergeDown room h hsort level
        (fun a ha => hp a (List.mem_append_left _ ha)) hearlier hruns.1
      have hsames := hsame.append (.refl ((next :: runs).flatMap Run.toList))
      have hall :
          earlierList ((run', level) :: earlier') ++ next.toList ++ runs.flatMap Run.toList =
            earlierList earlier' ++ run'.toList ++ (next :: runs).flatMap Run.toList := by
        simp [earlierList]
      obtain ⟨all, hmerge, hinOrder, hsame'⟩ := ih stop ((run', level) :: earlier')
        (fun a ha => hp a (hsames.mem_iff.2 (hall ▸ ha)))
        (List.forall_mem_cons.2 ⟨hrun', hearlier'⟩) hruns.2
      rw [hall] at hsame'
      exact ⟨all, by rw [mergeRuns, hdown]; exact hmerge, hinOrder, hsames.trans hsame'⟩

theorem sorts_runSort (h : IsLess less cmp p) (hsort : Sorts sortRun cmp p) (room : Nat)
    (eager : Bool) : Sorts (runSort less sortRun room eager) cmp p := fun l hl => by
  obtain rfl | hpos := Nat.eq_zero_or_pos l.length |>.imp_left List.length_eq_zero_iff.1
  · exact ⟨[], runSort_nil .., .refl [], .nil⟩
  obtain ⟨runs, hruns, hinOrders, hsame⟩ := exists_cutRuns h (enoughFor_pos hpos) eager hl
  cases runs with
  | nil => exact ⟨[], by rw [runSort, hruns]; rfl, hsame, .nil⟩
  | cons run runs =>
      obtain ⟨all, hall, hinOrder, hsame'⟩ :=
        exists_mergeRuns room h hsort l.length run.toList.length []
          (fun a ha => hl a (hsame.mem_iff.2 ha)) nofun hinOrders
      have hsames := hsame.trans hsame'
      obtain ⟨m, hm, hsorts⟩ :=
        exists_toSorted hsort (fun a ha => hl a (hsames.mem_iff.2 ha)) hinOrder
      refine ⟨m, ?_, .of_same hsames hsorts⟩
      rw [runSort, hruns]
      change (mergeRuns less sortRun room l.length run.toList.length [] run runs).bind _ = _
      rw [hall]
      exact hm

theorem sorts_insertionSort (h : IsLess less cmp p) :
    Sorts (fun l => some (insertionSort less l)) cmp p := fun _ hl =>
  ⟨_, rfl, sortsTo_insertionSort h hl⟩

theorem sorts_fastSort (h : IsLess less cmp p) (room : Nat) : Sorts (fastSort less room) cmp p :=
  fun l hl => sorts_quicksort h (sorts_runSort h (sorts_insertionSort h) room true)
    (2 * l.length.log2) hl nofun

theorem sorts_sort (h : IsLess less cmp p) : Sorts (sort less) cmp p := fun l hl => by
  rw [sort]
  split
  · exact sorts_insertionSort h l hl
  · exact sorts_runSort h (sorts_fastSort h _) _ _ l hl

end StableSort

/-- Elements that a comparison puts in order have a stable sort, and sorting finds it. -/
theorem PreordersOn.exists_sort {α : Type} {f : α → α → Ordering} {l : List α}
    (h : PreordersOn f (· ∈ l)) :
    ∃ m, StableSort.sort (f · · == .lt) l = some m ∧ m.Perm l ∧ m.Pairwise (f · · ≠ .gt) ∧
      ∀ a ∈ l, m.filter (f a · = .eq) = l.filter (f a · = .eq) := by
  obtain ⟨cmp, hcmp, heq⟩ := h
  have hless : StableSort.IsLess (f · · == .lt) cmp (· ∈ l) := fun a b ha hb => by
    rw [beq_iff_eq, heq a b ha hb]
  obtain ⟨m, hm, hsorts⟩ := StableSort.sorts_sort hless l fun _ ha => ha
  have hperm := hsorts.same.perm.symm
  refine ⟨m, hm, hperm, hsorts.sorted.imp_of_mem fun {a b} ha hb hab => ?_, fun a ha => ?_⟩
  · rw [heq a b (hperm.mem_iff.1 ha) (hperm.mem_iff.1 hb)]
    exact Ordering.isLE_iff_ne_gt.1 hab
  · have hclass (k : List α) (hk : ∀ b ∈ k, b ∈ l) :
        k.filter (f a · = .eq) = k.filter (cmp a · = .eq) :=
      List.filter_congr fun b hb => by rw [heq a b ha (hk b hb)]
    rw [hclass m fun b hb => hperm.mem_iff.1 hb, hclass l fun _ hb => hb, hsorts.same a]

end GraphAlgebra
