import GraphAlgebra.Proofs.Order.Occurrence
import GraphAlgebra.Proofs.Solution.Grouping
import GraphAlgebra.Proofs.Solution.Merge
import Mathlib.Algebra.GroupWithZero.Nat
/-!
# Groups are the rows of one key

Rows are put into groups one by one. What comes of it is the list of the distinct keys in the order
of their first rows, each with all rows that have it (`Table.groups_eq`), so grouping is a
partition of the rows. The row of a group binds the parts of its key and the aggregates of its rows
(`Table.bindsGroup_of_groupRow`). Main statement: `Table.group_partition`.
-/

namespace GraphAlgebra

namespace Table

variable {keys : List (Var × Option Expr)} {as : List (Var × Aggregator)}

/-! ### Groups -/

/-- The values of the grouping keys in a row, where a failing or unbound one counts as none. -/
def groupKey (keys : List (Var × Option Expr)) (row : Binding) : List (Option Term) :=
  keys.map (keyValue row)

def groupOf (keys : List (Var × Option Expr)) (rows : List Binding) (key : List (Option Term)) :
    Group :=
  ⟨key, rows.filter (groupKey keys · = key)⟩

theorem groupOf_concat_self (keys : List (Var × Option Expr)) (rows : List Binding)
    (row : Binding) : groupOf keys (rows ++ [row]) (groupKey keys row) =
      ⟨groupKey keys row, (groupOf keys rows (groupKey keys row)).rows ++ [row]⟩ := by
  simp [groupOf]

theorem groupOf_concat_of_ne {rows : List Binding} {row : Binding} {key : List (Option Term)}
    (h : key ≠ groupKey keys row) : groupOf keys (rows ++ [row]) key = groupOf keys rows key := by
  simp [groupOf, h.symm]

theorem groupOf_eq_nil {rows : List Binding} {key : List (Option Term)}
    (h : ∀ row ∈ rows, groupKey keys row ≠ key) : groupOf keys rows key = ⟨key, []⟩ := by
  simpa [groupOf] using h

/-- One more row goes to the group of its key, and if there is none yet it makes the last group. -/
theorem addToGroups_map_groupOf {ks : List (List (Option Term))} (hks : ks.Nodup)
    {rows : List Binding} {row : Binding}
    (hnew : groupKey keys row ∉ ks → ∀ r ∈ rows, groupKey keys r ≠ groupKey keys row) :
    addToGroups (groupKey keys row) row (ks.map (groupOf keys rows)) =
      (appendNew ks (groupKey keys row)).map (groupOf keys (rows ++ [row])) := by
  induction ks with
  | nil =>
      have hold := groupOf_eq_nil (hnew (List.not_mem_nil))
      have hgroup := groupOf_concat_self keys rows row
      rw [hold] at hgroup
      exact (congrArg (fun g => [g]) hgroup).symm
  | cons k ks ih =>
      obtain ⟨hk, hks⟩ := List.nodup_cons.1 hks
      have hkey : (groupOf keys rows k).key = k := rfl
      rw [List.map_cons, addToGroups, hkey]
      by_cases heq : k = groupKey keys row
      · -- The group is found, and the keys of all others differ from its key.
        subst heq
        have hrest : ks.map (groupOf keys rows) = ks.map (groupOf keys (rows ++ [row])) :=
          List.map_congr_left fun k' hk' =>
            (groupOf_concat_of_ne fun heq => hk (heq ▸ hk')).symm
        rw [if_pos rfl, hrest, appendNew, if_pos (by simp), List.map_cons, groupOf_concat_self]
      · have hnew' : groupKey keys row ∉ ks →
            ∀ r ∈ rows, groupKey keys r ≠ groupKey keys row := by
          intro h
          refine hnew fun hmem => ?_
          exact (List.mem_cons.1 hmem).elim (fun h => heq h.symm) h
        have hcons : appendNew (k :: ks) (groupKey keys row) =
            k :: appendNew ks (groupKey keys row) := by
          have hne : groupKey keys row ≠ k := fun h => heq h.symm
          by_cases hmem : groupKey keys row ∈ ks <;> simp [appendNew, hmem, hne]
        rw [if_neg heq, ih hks hnew', hcons, List.map_cons, groupOf_concat_of_ne heq]

/-- The groups that are built row by row have the distinct keys of the rows, in the order of their
first rows. -/
theorem foldl_addToGroups_eq (keys : List (Var × Option Expr)) (rows : List Binding) :
    rows.foldl (fun gs row => addToGroups (groupKey keys row) row gs) [] =
      (firstOccurrences (rows.map (groupKey keys))).map (groupOf keys rows) := by
  induction rows using List.reverseRecOn with
  | nil => rfl
  | append_singleton rows row ih =>
      have hfirsts := listsFirsts_firstOccurrences (rows.map (groupKey keys))
      rw [List.foldl_concat, ih, List.map_append, List.map_singleton, firstOccurrences_concat]
      refine addToGroups_map_groupOf hfirsts.nodup fun hnot r hr heq => hnot ?_
      exact (hfirsts.mem_iff _).2 (heq ▸ List.mem_map_of_mem hr)

/-- The keys of the groups of some rows. Without grouping keys there is one group, even of no
rows. -/
def groupKeys (keys : List (Var × Option Expr)) (rows : List Binding) :
    List (List (Option Term)) :=
  if rows.isEmpty && keys.isEmpty then [[]] else firstOccurrences (rows.map (groupKey keys))

theorem groups_eq (keys : List (Var × Option Expr)) (rows : List Binding) :
    groups keys rows = (groupKeys keys rows).map (groupOf keys rows) := by
  cases rows with
  | nil => cases keys <;> rfl
  | cons row rows =>
      have hfold := foldl_addToGroups_eq keys (row :: rows)
      rw [groups]
      split
      next h =>
        have hmem : groupKey keys row ∈ firstOccurrences ((row :: rows).map (groupKey keys)) :=
          ((listsFirsts_firstOccurrences _).mem_iff _).2 (List.mem_map_of_mem List.mem_cons_self)
        have hnil := List.map_eq_nil_iff.1 (hfold.symm.trans h)
        rw [hnil] at hmem
        contradiction
      next => exact hfold

theorem listsFirsts_groupKeys {rows : List Binding} (h : rows ≠ []) :
    ListsFirsts (rows.map (groupKey keys)) (groupKeys keys rows) := by
  cases rows with
  | nil => contradiction
  | cons row rows => exact listsFirsts_firstOccurrences _

theorem flatMap_groupKeys_perm (keys : List (Var × Option Expr)) (rows : List Binding) :
    ((groupKeys keys rows).flatMap fun k => rows.filter (groupKey keys · = k)).Perm rows := by
  by_cases h : rows = []
  · subst h
    simp
  · have hfirsts : ListsFirsts (rows.map (groupKey keys)) (groupKeys keys rows) :=
      listsFirsts_groupKeys h
    exact flatMap_filter_perm hfirsts.nodup fun row hrow =>
      (hfirsts.mem_iff _).2 (List.mem_map_of_mem hrow)

/-! ### The row of a group -/

theorem get?_setIfSome (row : Binding) (v w : Var) (o : Option Term) :
    (setIfSome row v o).get? w = if w = v then o.or (row.get? w) else row.get? w := by
  cases o with
  | none => simp [setIfSome]
  | some t => exact Binding.get?_set row v w t

/-- The solution that binds some variables to terms, where there are any. -/
def rowOf (l : List (Var × Option Term)) : Binding :=
  l.foldl (fun row e => setIfSome row e.1 e.2) Binding.empty

/-- Terms that no other one overwrites are the ones that are bound in the end. -/
theorem get?_rowOf_eq_some_iff {l : List (Var × Option Term)}
    (hl : ∀ e ∈ l, ∀ e' ∈ l, e.1 = e'.1 → e.2 = e'.2) {v : Var} {t : Term} :
    (rowOf l).get? v = some t ↔ (v, some t) ∈ l := by
  induction l using List.reverseRecOn with
  | nil => simp [rowOf]
  | append_singleton l e ih =>
      have ih := ih fun e he e' he' => hl e (by simp [he]) e' (by simp [he'])
      have hconcat : rowOf (l ++ [e]) = setIfSome (rowOf l) e.1 e.2 := List.foldl_concat ..
      rw [hconcat, get?_setIfSome]
      obtain ⟨w, o⟩ := e
      by_cases hv : v = w
      · subst hv
        cases o with
        | none => simp [ih]
        | some s =>
            have hagree (h : (v, some t) ∈ l) : some t = some s :=
              hl (v, some t) (List.mem_append_left _ h) (v, some s) (by simp) rfl
            simp only [if_pos, Option.some_or, List.mem_append, List.mem_singleton, Prod.mk.injEq,
              true_and]
            exact ⟨fun h => .inr h.symm, fun h => (h.elim hagree id).symm⟩
      · simp [hv, ih]

def aggregateOf (rows : List Binding) (a : Aggregator) : Option Term :=
  (a.apply rows).toOption.join

theorem aggregateOf_eq_some_iff {rows : List Binding} {a : Aggregator} {t : Term} :
    aggregateOf rows a = some t ↔ a.apply rows = .ok (some t) := by
  rw [aggregateOf]
  cases a.apply rows <;> simp [Except.toOption]

theorem foldlM_addAggregate_eq_ok {rows : List Binding} {row out : Binding}
    (h : as.foldlM (addAggregate rows) row = .ok out) :
    out = (as.map fun a => (a.1, aggregateOf rows a.2)).foldl
      (fun row e => setIfSome row e.1 e.2) row := by
  induction as generalizing row with
  | nil => exact (Except.ok.inj h).symm
  | cons a as ih =>
      rw [List.foldlM_cons, bind_eq_ok_iff] at h
      obtain ⟨row', hrow, h⟩ := h
      rw [addAggregate] at hrow
      split at hrow
      next => contradiction
      next o ho =>
        obtain rfl := Except.ok.inj hrow
        rw [List.map_cons, List.foldl_cons, aggregateOf, ho]
        exact ih h

theorem groupRow_eq_ok {g : Group} {out : Binding} (h : groupRow keys as g = .ok out) :
    out = rowOf ((keys.map Prod.fst).zip g.key ++ as.map fun a => (a.1, aggregateOf g.rows a.2)) := by
  have hkeys : keyRow keys g = rowOf ((keys.map Prod.fst).zip g.key) := by
    rw [rowOf, List.zip_map_left, List.foldl_map]
    rfl
  rw [foldlM_addAggregate_eq_ok h, hkeys, rowOf, rowOf, List.foldl_append]

/-- The keys and the aggregates of a grouping write to different variables; only a key that is
listed twice writes to one variable twice. -/
structure OutputsApart (keys : List (Var × Option Expr)) (as : List (Var × Aggregator)) : Prop where
  key_unique : ∀ k ∈ keys, ∀ k' ∈ keys, k.1 = k'.1 → k = k'
  aggregates_nodup : (as.map Prod.fst).Nodup
  key_ne : ∀ k ∈ keys, ∀ a ∈ as, k.1 ≠ a.1

/-- A row binds the parts of a key and the aggregates of some rows, and nothing else. -/
def BindsGroup (keys : List (Var × Option Expr)) (as : List (Var × Aggregator))
    (key : List (Option Term)) (rows : List Binding) (out : Binding) : Prop :=
  ∀ v t, out.get? v = some t ↔
    (v, some t) ∈ (keys.map Prod.fst).zip key ∨
      ∃ a, (v, a) ∈ as ∧ a.apply rows = .ok (some t)

theorem bindsGroup_of_groupRow (hout : OutputsApart keys as) {g : Group} {out : Binding}
    {part : Var × Option Expr → Option Term} (hkey : g.key = keys.map part)
    (h : groupRow keys as g = .ok out) : BindsGroup keys as g.key g.rows out := by
  intro v t
  have hzip : (keys.map Prod.fst).zip g.key = keys.map fun k => (k.1, part k) := by
    rw [hkey, List.zip_map']
  rw [groupRow_eq_ok h, get?_rowOf_eq_some_iff, List.mem_append]
  · refine or_congr_right ?_
    simp [aggregateOf_eq_some_iff]
  · rw [hzip]
    simp only [List.mem_append, List.mem_map]
    rintro _ (⟨k, hk, rfl⟩ | ⟨a, ha, rfl⟩) _ (⟨k', hk', rfl⟩ | ⟨a', ha', rfl⟩) heq
    · rw [hout.key_unique k hk k' hk' heq]
    · exact absurd heq (hout.key_ne k hk a' ha')
    · exact absurd heq.symm (hout.key_ne k' hk' a ha)
    · rw [List.inj_on_of_nodup_map hout.aggregates_nodup ha ha' heq]

theorem exists_eq_map_of_mem_groupKeys {rows : List Binding} {key : List (Option Term)}
    (h : key ∈ groupKeys keys rows) : ∃ part, key = keys.map part := by
  by_cases hrows : rows = []
  · subst hrows
    cases keys with
    | nil => exact ⟨fun _ => none, List.mem_singleton.1 h⟩
    | cons k keys => contradiction
  · obtain ⟨row, -, rfl⟩ := List.mem_map.1 (((listsFirsts_groupKeys hrows).mem_iff _).1 h)
    exact ⟨keyValue row, rfl⟩

/-! ### Grouping -/

/-- There is one row for each key, and it is that of the rows with the key. -/
theorem bindsGroup_of_group {t u : Table} (hout : OutputsApart keys as)
    (h : t.group keys as = .ok u) :
    List.Forall₂ (fun k out => BindsGroup keys as k (t.rows.filter (groupKey keys · = k)) out)
      (groupKeys keys t.rows) u.rows := by
  rw [group, bind_eq_ok_iff] at h
  obtain ⟨rows, hrows, h⟩ := h
  obtain rfl := Except.ok.inj h
  rw [groups_eq] at hrows
  have hrows := List.forall₂_map_left_iff.1 (forall₂_of_mapM_eq_ok hrows)
  have hmem : ∀ k ∈ groupKeys keys t.rows, k ∈ groupKeys keys t.rows := fun _ hk => hk
  refine ((List.forall₂_and_left _ _).2 ⟨hmem, hrows⟩).imp fun k out hk => ?_
  obtain ⟨part, hpart⟩ := exists_eq_map_of_mem_groupKeys hk.1
  exact bindsGroup_of_groupRow (g := groupOf keys t.rows k) hout hpart hk.2

theorem exists_counts_of_group {ks : List (List (Option Term))} {t u : Table} {v : Var}
    (hrows : List.Forall₂
      (fun k out => BindsGroup keys as k (t.rows.filter (groupKey keys · = k)) out) ks u.rows)
    (hperm : (ks.flatMap fun k => t.rows.filter (groupKey keys · = k)).Perm t.rows)
    (hv : (v, .countRows false) ∈ as) :
    ∃ ns : List Nat, u.rows.map (·.get? v) = ns.map (fun n : Nat => some (Term.integer n)) ∧
      ns.sum = t.rows.length := by
  refine ⟨ks.map fun k => (t.rows.filter (groupKey keys · = k)).length, ?_, ?_⟩
  · have hcount : List.Forall₂ (fun (out : Binding) k =>
        out.get? v = some (Term.integer (t.rows.filter (groupKey keys · = k)).length)) u.rows ks :=
      hrows.flip.imp fun out k hk => (hk v _).2 (.inr ⟨_, hv, rfl⟩)
    have hmap := List.forall₂_map_left_iff.2 (List.forall₂_map_right_iff.2 hcount)
    rw [List.forall₂_eq_eq_eq] at hmap
    rw [List.map_map]
    exact hmap
  · rw [← hperm.length_eq, List.length_flatMap]

/-- Grouping by keys whose variables are not overwritten makes one row for each distinct key, in the
order of the first rows that have it. The row of a key binds the parts of the key and the aggregates
of the rows that have it, and every row has one of the keys. Where there are no rows, there is one
row of aggregates of nothing if there are no keys, and none otherwise. In any case the numbers of
rows that are counted add up. -/
theorem group_partition {t u : Table} (hout : OutputsApart keys as)
    (h : t.group keys as = .ok u) :
    (t.rows ≠ [] → ∃ ks : List (List (Option Term)),
        ListsFirsts (t.rows.map (groupKey keys)) ks ∧
        List.Forall₂ (fun k out => BindsGroup keys as k (t.rows.filter (groupKey keys · = k)) out)
          ks u.rows ∧
        (ks.flatMap fun k => t.rows.filter (groupKey keys · = k)).Perm t.rows) ∧
      (t.rows = [] → keys = [] → ∃ out, u.rows = [out] ∧ BindsGroup [] as [] [] out) ∧
      (t.rows = [] → keys ≠ [] → u.rows = []) ∧
      ∀ v, (v, .countRows false) ∈ as →
        ∃ ns : List Nat, u.rows.map (·.get? v) = ns.map (fun n : Nat => some (Term.integer n)) ∧
          ns.sum = t.rows.length := by
  have hrows := bindsGroup_of_group hout h
  have hperm := flatMap_groupKeys_perm keys t.rows
  refine ⟨fun hne => ⟨_, listsFirsts_groupKeys hne, hrows, hperm⟩, ?_, ?_,
    fun v hv => exists_counts_of_group hrows hperm hv⟩
  · rintro hnil rfl
    rw [hnil] at hrows
    obtain ⟨out, rest, hbinds, hrest, heq⟩ := List.forall₂_cons_left_iff.1 hrows
    obtain rfl := List.forall₂_nil_left_iff.1 hrest
    exact ⟨out, heq, hbinds⟩
  · intro hnil hkeys
    rw [hnil] at hrows
    have hks : groupKeys keys [] = [] := by
      simp [groupKeys, hkeys, firstOccurrences]
    rw [hks] at hrows
    exact List.forall₂_nil_left_iff.1 hrows

/-- The first and the last row have no value for the key, and are a group of their own. -/
theorem group_partition_unboundKey :
    let x : Var := ⟨"x"⟩
    let y : Var := ⟨"y"⟩
    let n : Var := ⟨"n"⟩
    let keys : List (Var × Option Expr) := [(x, none)]
    let as : List (Var × Aggregator) :=
      [(n, .countRows false), (⟨"m"⟩, .values .sample (.var y) false)]
    let t : Table := ⟨[x, y], [.single y (.blank "b"), .single x (.blank "a"),
      (Binding.single x (.blank "a")).set y (.blank "c"), .single y (.blank "d")]⟩
    let u : Table := ⟨[x, n, ⟨"m"⟩], [(Binding.single n (.integer 2)).set ⟨"m"⟩ (.blank "b"),
      ((Binding.single x (.blank "a")).set n (.integer 2)).set ⟨"m"⟩ (.blank "c")]⟩
    OutputsApart keys as ∧ t.group keys as = .ok u ∧
      (∃ ks : List (List (Option Term)),
        ListsFirsts (t.rows.map (groupKey keys)) ks ∧
        List.Forall₂ (fun k out => BindsGroup keys as k (t.rows.filter (groupKey keys · = k)) out)
          ks u.rows ∧
        (ks.flatMap fun k => t.rows.filter (groupKey keys · = k)).Perm t.rows) ∧
      ∃ ns : List Nat, u.rows.map (·.get? n) = ns.map (fun n : Nat => some (Term.integer n)) ∧
        ns.sum = 4 := by
  intro x y n keys as t u
  have hout : OutputsApart keys as := ⟨by decide, by decide, by decide⟩
  have hgroup : t.group keys as = .ok u := by decide +kernel
  obtain ⟨hparts, -, -, hcounts⟩ := group_partition hout hgroup
  exact ⟨hout, hgroup, hparts (by decide), hcounts n List.mem_cons_self⟩

end Table

end GraphAlgebra
