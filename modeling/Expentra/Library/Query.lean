-- SUMMARY: Joins and counts, as queries have them: left joins, anti-joins, tallies by key.
import Expentra.Library.Table
import Mathlib.Data.List.Count

/-!
# Queries

A left join keeps each row of the left table, with every row that matches it or with
none. Counting the rows without a match, or the rows of each key of a given list, is
counting in the left table.
-/

namespace Library

universe u v

variable {α : Type u} {β : Type v}

/-! ## Left joins -/

/-- `LEFT JOIN … ON` -/
def leftJoin (on : α → β → Bool) (left : List α) (right : List β) : List (α × Option β) :=
  left.flatMap (fun a =>
    match right.filter (on a) with
    | [] => [(a, none)]
    | b :: rest => (b :: rest).map (fun b => (a, some b)))

variable {on : α → β → Bool} {left : List α} {right : List β}

/-- `LEFT JOIN … WHERE … IS NULL` selects the rows without a match. -/
theorem filter_isNone_leftJoin : (leftJoin on left right).filter (·.2.isNone) =
    (left.filter (fun a => right.all (fun b => !on a b))).map (fun a => (a, none)) := by
  induction left with
  | nil => rfl
  | cons a rest ih =>
    rw [leftJoin, List.flatMap_cons, List.filter_append, ← leftJoin, ih, List.filter_cons]
    cases hmatch : right.filter (on a) with
    | nil =>
      have hnone : right.all (fun b => !on a b) = true := by
        simpa [List.filter_eq_nil_iff] using hmatch
      simp [hnone]
    | cons b others =>
      have hsome : right.all (fun b => !on a b) = false := by
        have hb : b ∈ right.filter (on a) := hmatch ▸ List.mem_cons_self
        simp only [List.mem_filter] at hb
        simp only [List.all_eq_false, Bool.not_eq_true, Bool.not_eq_false']
        exact ⟨b, hb.1, hb.2⟩
      simp [hsome, List.filter_map, Function.comp_def]

/-- With one match at most, a left join looks the match up. -/
theorem leftJoin_of_unique {lookup : α → Option β}
    (hlookup : ∀ a ∈ left, right.filter (on a) = (lookup a).toList) :
    leftJoin on left right = left.map (fun a => (a, lookup a)) := by
  induction left with
  | nil => rfl
  | cons a rest ih =>
    have hrest := ih fun a ha => hlookup a (List.mem_cons_of_mem _ ha)
    rw [leftJoin, List.flatMap_cons, ← leftJoin, hrest, hlookup a List.mem_cons_self]
    cases hfound : lookup a with
    | none => simp [hfound]
    | some b => simp [hfound]

/-! ## Counts -/

/-- The rows that satisfy a condition, by another one. -/
theorem countP_eq_add (p q : α → Bool) (rows : List α) :
    rows.countP p = rows.countP (fun a => p a && q a) + rows.countP (fun a => p a && !q a) := by
  rw [← List.countP_filter, ← List.countP_filter, ← List.countP_eq_countP_filter_add]

section Tally

variable {κ : Type u} [DecidableEq κ] {counts : Table (Prod.fst : κ × Nat → κ)} {k : κ} {n : Nat}

/-- One more for the key, if it is counted at all. -/
def tally (counts : Table (Prod.fst : κ × Nat → κ)) (key : κ) : Table (Prod.fst : κ × Nat → κ) :=
  match counts.find? key with
  | none => counts
  | some entry => counts.upsert (key, entry.2 + 1)

theorem find?_tally (h : counts.find? k = some (k, n)) (key : κ) :
    (tally counts key).find? k = some (k, n + if key = k then 1 else 0) := by
  unfold tally
  by_cases hkey : key = k
  · subst hkey
    rw [h, if_pos rfl]
    exact Table.find?_upsert_self
  · rw [if_neg hkey, Nat.add_zero]
    split
    · exact h
    · rw [Table.find?_upsert_ne (Ne.symm hkey), h]

theorem find?_foldl_tally (h : counts.find? k = some (k, n)) (keys : List κ) :
    (keys.foldl tally counts).find? k = some (k, n + keys.count k) := by
  induction keys generalizing counts n with
  | nil => exact h
  | cons key rest ih =>
    rw [List.foldl_cons, ih (find?_tally h key), List.count_cons, Nat.add_assoc,
      Nat.add_comm (if key = k then 1 else 0)]
    simp only [beq_iff_eq]

end Tally

/-- Bounds that add up to no more than what they bound are attained. -/
theorem eq_of_sum_le {f g : α → Nat} {l : List α} (hle : ∀ a ∈ l, f a ≤ g a)
    (h : (l.map g).sum ≤ (l.map f).sum) : ∀ a ∈ l, f a = g a := by
  induction l with
  | nil => exact fun a ha => absurd ha List.not_mem_nil
  | cons b l ih =>
    obtain ⟨hb, hl⟩ := List.forall_mem_cons.1 hle
    have hsum := List.sum_le_sum hl
    rw [List.map_cons, List.map_cons, List.sum_cons, List.sum_cons] at h
    exact List.forall_mem_cons.2 ⟨by omega, ih hl (by omega)⟩

end Library
