-- SUMMARY: Grouped queries: the rows of each group counted and summed, and what the groups say together.
import Mathlib.Algebra.BigOperators.Group.List.Basic
import Mathlib.Algebra.Order.BigOperators.Group.List
import Mathlib.Algebra.Order.Ring.Int
import Mathlib.Data.List.Dedup
import Mathlib.Data.List.Sort

/-!
# Grouped queries

`SELECT key, COUNT(*), SUM(amount) … GROUP BY key` has one row for each key of the rows that
are grouped. The rows are spread over the groups: counts and sums of the groups add up to
those of the rows, and so do the counts and sums for the keys of any list that has them all.
-/

namespace Library

universe u v w

/-- The rows of a group, counted and summed. -/
structure Totals where
  count : Nat
  total : Int
deriving DecidableEq, Repr

namespace Totals

/-- `COUNT(*)` and `COALESCE(SUM(amount), 0)` -/
def of {α : Type u} (amount : α → Int) (rows : List α) : Totals where
  count := rows.length
  total := (rows.map amount).sum

instance : Zero Totals := ⟨⟨0, 0⟩⟩

instance : Add Totals := ⟨fun left right => ⟨left.count + right.count, left.total + right.total⟩⟩

@[simp] theorem count_zero : (0 : Totals).count = 0 := rfl

@[simp] theorem total_zero : (0 : Totals).total = 0 := rfl

@[simp] theorem count_add (left right : Totals) : (left + right).count = left.count + right.count :=
  rfl

@[simp] theorem total_add (left right : Totals) : (left + right).total = left.total + right.total :=
  rfl

@[ext] theorem ext {left right : Totals} (hcount : left.count = right.count)
    (htotal : left.total = right.total) : left = right := by
  cases left
  cases right
  simp only at hcount htotal
  rw [hcount, htotal]

instance : AddCommMonoid Totals where
  add_assoc a b c := ext (Nat.add_assoc ..) (Int.add_assoc ..)
  zero_add a := ext (Nat.zero_add _) (Int.zero_add _)
  add_zero a := ext (Nat.add_zero _) (Int.add_zero _)
  add_comm a b := ext (Nat.add_comm ..) (Int.add_comm ..)
  nsmul := nsmulRec

variable {α : Type u} {amount : α → Int}

@[simp] theorem of_nil : of amount [] = 0 := rfl

theorem of_cons (row : α) (rows : List α) : of amount (row :: rows) = ⟨1, amount row⟩ + of amount rows :=
  ext (Nat.add_comm _ 1) List.sum_cons

theorem of_append (rows rows' : List α) :
    of amount (rows ++ rows') = of amount rows + of amount rows' :=
  ext List.length_append (by simp [of])

/-- Totals do not depend on the order of the rows. -/
theorem of_perm {rows rows' : List α} (h : rows.Perm rows') : of amount rows = of amount rows' :=
  ext h.length_eq (h.map amount).sum_eq

theorem of_map {β : Type v} (f : β → α) (rows : List β) :
    of amount (rows.map f) = of (fun row => amount (f row)) rows :=
  ext (List.length_map f) (by simp [of, Function.comp_def])

/-- Rows with positive amounts have a positive sum, unless there are none. -/
theorem total_pos {rows : List α} (hpos : ∀ row ∈ rows, 0 < amount row) (hne : rows ≠ []) :
    0 < (of amount rows).total := by
  refine List.sum_pos _ (List.forall_mem_map.2 hpos) ?_
  rwa [Ne, List.map_eq_nil_iff]

theorem total_nonneg {rows : List α} (hpos : ∀ row ∈ rows, 0 < amount row) :
    0 ≤ (of amount rows).total :=
  List.sum_nonneg (List.forall_mem_map.2 fun row hrow => Int.le_of_lt (hpos row hrow))

variable {κ : Type v} [DecidableEq κ] {key : α → κ}

/-- One value for one key of a list without repetitions, and none for the others. -/
theorem sum_ite_eq (value : Totals) (k : κ) : ∀ {keys : List κ}, keys.Nodup → k ∈ keys →
    (keys.map (fun j => if k = j then value else 0)).sum = value
  | [], _, hk => absurd hk List.not_mem_nil
  | j :: rest, hnodup, hk => by
    obtain ⟨hj, hrest⟩ := List.nodup_cons.1 hnodup
    rw [List.map_cons, List.sum_cons]
    by_cases hkj : k = j
    · subst hkj
      have hnone : rest.map (fun j => if k = j then value else 0) = rest.map (fun _ => 0) :=
        List.map_congr_left fun i hi => if_neg (ne_of_mem_of_not_mem hi hj).symm
      rw [if_pos rfl, hnone, List.map_const', List.sum_replicate, nsmul_zero, add_zero]
    · rw [if_neg hkj, zero_add]
      exact sum_ite_eq value k hrest ((List.mem_cons.1 hk).resolve_left hkj)

/-- The rows are spread over the keys of a list that has them all: each row counts for one. -/
theorem sum_fibers {keys : List κ} (hnodup : keys.Nodup) {rows : List α}
    (hcover : ∀ row ∈ rows, key row ∈ keys) :
    (keys.map (fun k => of amount (rows.filter (fun row => key row = k)))).sum = of amount rows := by
  induction rows with
  | nil => simp
  | cons row rest ih =>
    have hsplit : ∀ k, of amount ((row :: rest).filter (fun row => key row = k)) =
        (if key row = k then ⟨1, amount row⟩ else 0) +
          of amount (rest.filter (fun row => key row = k)) := by
      intro k
      rw [List.filter_cons]
      by_cases hk : key row = k
      · simp only [hk, decide_true, if_true, of_cons]
      · simp only [hk, decide_false, Bool.false_eq_true, if_false, zero_add]
    simp only [hsplit]
    rw [List.sum_map_add, sum_ite_eq _ _ hnodup (hcover row List.mem_cons_self),
      ih fun r hr => hcover r (List.mem_cons_of_mem _ hr), of_cons]

/-- Some of the keys together have the rows with these keys. -/
theorem sum_fibers_filter {keys : List κ} (hnodup : keys.Nodup) {rows : List α}
    (hcover : ∀ row ∈ rows, key row ∈ keys) (p : κ → Bool) :
    ((keys.filter p).map (fun k => of amount (rows.filter (fun row => key row = k)))).sum =
      of amount (rows.filter (fun row => p (key row))) := by
  have hkeys : (keys.filter p).map (fun k => of amount (rows.filter (fun row => key row = k))) =
      (keys.filter p).map (fun k =>
        of amount ((rows.filter (fun row => p (key row))).filter (fun row => key row = k))) := by
    refine List.map_congr_left fun k hk => ?_
    have hp : p k = true := (List.mem_filter.1 hk).2
    -- the rows of such a key all pass the condition
    rw [List.filter_filter]
    refine congrArg (of amount) (List.filter_congr fun row _ => ?_)
    by_cases hkey : key row = k
    · simp [hkey, hp]
    · simp [hkey]
  rw [hkeys]
  refine sum_fibers (hnodup.filter _) fun row hrow => ?_
  obtain ⟨hmem, hp⟩ := List.mem_filter.1 hrow
  exact List.mem_filter.2 ⟨hcover row hmem, hp⟩

end Totals

/-! ## Groups -/

/-- A row of a grouped query. -/
structure GroupRow (κ : Type v) extends Totals where
  key : κ
deriving DecidableEq, Repr

variable {α : Type u} {κ : Type v} [DecidableEq κ]

/-- `SELECT key, COUNT(*), SUM(amount) … GROUP BY key` -/
def groupBy (key : α → κ) (amount : α → Int) (rows : List α) : List (GroupRow κ) :=
  (rows.map key).dedup.map (fun k =>
    ⟨Totals.of amount (rows.filter (fun row => key row = k)), k⟩)

variable {key : α → κ} {amount : α → Int} {rows : List α}

theorem map_key_groupBy : (groupBy key amount rows).map (·.key) = (rows.map key).dedup := by
  rw [groupBy, List.map_map]
  exact List.map_id _

/-- No two groups have one key. -/
theorem nodup_groupBy : ((groupBy key amount rows).map (·.key)).Nodup := by
  rw [map_key_groupBy]
  exact List.nodup_dedup _

theorem mem_groupBy {g : GroupRow κ} : g ∈ groupBy key amount rows ↔
    (∃ row ∈ rows, key row = g.key) ∧
      g.toTotals = Totals.of amount (rows.filter (fun row => key row = g.key)) := by
  simp only [groupBy, List.mem_map, List.mem_dedup]
  constructor
  · rintro ⟨k, hk, rfl⟩
    exact ⟨hk, rfl⟩
  · rintro ⟨hk, htotals⟩
    exact ⟨g.key, hk, by rw [← htotals]⟩

/-- The groups together are the rows. -/
theorem sum_groupBy : ((groupBy key amount rows).map (·.toTotals)).sum = Totals.of amount rows := by
  rw [groupBy, List.map_map]
  exact Totals.sum_fibers (List.nodup_dedup _) fun row hrow =>
    List.mem_dedup.2 (List.mem_map_of_mem hrow)

/-- The groups with certain keys together are the rows with these keys. -/
theorem sum_groupBy_filter (p : κ → Bool) :
    (((groupBy key amount rows).filter (fun g => p g.key)).map (·.toTotals)).sum =
      Totals.of amount (rows.filter (fun row => p (key row))) := by
  rw [groupBy, List.filter_map, List.map_map]
  exact Totals.sum_fibers_filter (List.nodup_dedup _)
    (fun row hrow => List.mem_dedup.2 (List.mem_map_of_mem hrow)) p

/-- The totals of a key: none where no row has it. -/
def groupAt (groups : List (GroupRow κ)) (k : κ) : Totals :=
  ((groups.find? (fun g => g.key = k)).map (·.toTotals)).getD 0

/-- A key is looked up among the groups as its rows are counted and summed. -/
theorem groupAt_groupBy (k : κ) : groupAt (groupBy key amount rows) k =
    Totals.of amount (rows.filter (fun row => key row = k)) := by
  unfold groupAt
  cases hfind : (groupBy key amount rows).find? (fun g => g.key = k) with
  | none =>
    have hnone : rows.filter (fun row => key row = k) = [] := by
      refine List.filter_eq_nil_iff.2 fun row hrow hk => ?_
      have hmem : (⟨Totals.of amount (rows.filter (fun row => key row = k)), k⟩ : GroupRow κ) ∈
          groupBy key amount rows := mem_groupBy.2 ⟨⟨row, hrow, of_decide_eq_true hk⟩, rfl⟩
      exact absurd (decide_eq_true rfl) (List.find?_eq_none.1 hfind _ hmem)
    rw [hnone]
    rfl
  | some g =>
    have hkey : g.key = k := by simpa using List.find?_some hfind
    rw [Option.map_some, Option.getD_some, (mem_groupBy.1 (List.mem_of_find?_eq_some hfind)).2, hkey]

/-- Every group has a row, so positive amounts make its sum positive. -/
theorem total_pos_of_mem_groupBy (hpos : ∀ row ∈ rows, 0 < amount row) {g : GroupRow κ}
    (hg : g ∈ groupBy key amount rows) : 0 < g.count ∧ 0 < g.total := by
  obtain ⟨⟨row, hrow, hkey⟩, htotals⟩ := mem_groupBy.1 hg
  have hne : rows.filter (fun row => key row = g.key) ≠ [] :=
    List.ne_nil_of_mem (List.mem_filter.2 ⟨hrow, decide_eq_true hkey⟩)
  rw [htotals]
  exact ⟨List.length_pos_of_ne_nil hne,
    Totals.total_pos (fun row hrow => hpos row (List.mem_filter.1 hrow).1) hne⟩

/-! ## The greatest groups -/

/-- `ORDER BY total DESC` -/
def byTotal (left right : GroupRow κ) : Prop := right.total ≤ left.total

instance : DecidableRel (byTotal (κ := κ)) := fun left right =>
  inferInstanceAs (Decidable (right.total ≤ left.total))

instance : Std.Total (byTotal (κ := κ)) := ⟨fun left right => Int.le_total right.total left.total⟩

instance : IsTrans (GroupRow κ) byTotal := ⟨fun _ _ _ h h' => Int.le_trans h' h⟩

omit [DecidableEq κ] in
/-- The first groups in the order of their totals have no smaller totals than the others. -/
theorem total_le_of_take_byTotal (groups : List (GroupRow κ)) (n : Nat) {g g' : GroupRow κ}
    (hg : g ∈ (groups.insertionSort byTotal).take n)
    (hg' : g' ∈ (groups.insertionSort byTotal).drop n) : g'.total ≤ g.total := by
  have hsorted := List.pairwise_insertionSort byTotal groups
  rw [← List.take_append_drop n (groups.insertionSort byTotal)] at hsorted
  exact (List.pairwise_append.1 hsorted).2.2 g hg g' hg'

end Library
