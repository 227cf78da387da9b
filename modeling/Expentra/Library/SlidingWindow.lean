-- SUMMARY: Times of which no half-open window has more than a limit, and the rule for one more.
import Mathlib.Algebra.Order.Monoid.Unbundled.Basic
import Mathlib.Data.Finset.Card

/-!
# Sliding windows

A list of times is within a limit when every half-open window of one length contains
at most that many of them. One more time keeps it so when the window that ends in it
has room. The times of that window may be counted in a record that has each of them,
if none occurs twice.
-/

namespace Library

universe u

variable {α : Type u} [LinearOrder α] {limit : Nat} {times : List α}

/-- No window `[a, a + window)` has more than `limit` of the times. -/
def WithinLimit [Add α] (limit : Nat) (window : α) (times : List α) : Prop :=
  ∀ a, times.countP (fun t => a ≤ t ∧ t < a + window) ≤ limit

namespace WithinLimit

variable [Add α] {window : α}

theorem nil : WithinLimit limit window ([] : List α) := fun _ => Nat.zero_le limit

/-- One more time, when the window that ends in it has room. -/
theorem append [AddRightMono α] (h : WithinLimit limit window times) {now : α}
    (hroom : times.countP (fun t => now < t + window) < limit) :
    WithinLimit limit window (times ++ [now]) := by
  intro a
  rw [List.countP_append, List.countP_singleton]
  split
  · rename_i hnow
    rw [decide_eq_true_eq] at hnow
    have hle : times.countP (fun t => a ≤ t ∧ t < a + window) ≤
        times.countP (fun t => now < t + window) := by
      refine List.countP_mono_left (fun t _ ht => ?_)
      rw [decide_eq_true_eq] at ht ⊢
      exact hnow.2.trans_le (add_le_add_left ht.1 window)
    omega
  · exact h a

end WithinLimit

/-- A record that has the times, none of which occurs twice, has at least as many. -/
theorem countP_le_card {q : α → Bool} {record : Finset α} (honce : ∀ t, q t = true → times.count t ≤ 1)
    (hrecorded : ∀ t ∈ times, q t = true → t ∈ record) : times.countP q ≤ record.card := by
  have hnodup : (times.filter q).Nodup := by
    refine List.nodup_iff_count_le_one.2 (fun t => ?_)
    by_cases hq : q t = true
    · rw [List.count_filter hq]
      exact honce t hq
    · rw [List.count_eq_zero_of_not_mem (fun ht => hq (List.mem_filter.1 ht).2)]
      exact Nat.zero_le 1
  rw [List.countP_eq_length_filter, ← List.toFinset_card_of_nodup hnodup]
  refine Finset.card_le_card (fun t ht => ?_)
  rw [List.mem_toFinset, List.mem_filter] at ht
  exact hrecorded t ht.1 ht.2

end Library
