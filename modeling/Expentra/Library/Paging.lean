-- SUMMARY: Pages of a list: together they are the list.
import Mathlib.Data.List.Basic
import Mathlib.Order.Lattice

/-!
# Pages

Page `k` of a list has the elements from position `k * limit` on, `limit` of them at most.
The pages, one after the other, are the list, so that an element is on one page and at one
place of it.
-/

namespace Library

universe u

variable {α : Type u}

/-- The page with a number, counted from zero. -/
def pageAt (limit : Nat) (rows : List α) (page : Nat) : List α := (rows.drop (page * limit)).take limit

/-- How many pages there are. -/
def pageCount (limit total : Nat) : Nat := (total + limit - 1) / limit

/-- The pages up to a number are the start of the list. -/
theorem flatMap_pageAt (limit : Nat) (rows : List α) (pages : Nat) :
    (List.range pages).flatMap (pageAt limit rows) = rows.take (pages * limit) := by
  induction pages with
  | zero => simp
  | succ pages ih =>
    rw [List.range_succ, List.flatMap_append, ih, List.flatMap_singleton, pageAt, Nat.succ_mul,
      List.take_add]

theorem le_pageCount_mul {limit : Nat} (hlimit : 0 < limit) (total : Nat) :
    total ≤ pageCount limit total * limit := by
  have hdiv := Nat.div_add_mod (total + limit - 1) limit
  have hmod := Nat.mod_lt (total + limit - 1) hlimit
  rw [Nat.mul_comm] at hdiv
  unfold pageCount
  omega

/-- All pages together are the list. -/
theorem flatMap_pages {limit : Nat} (hlimit : 0 < limit) (rows : List α) :
    (List.range (pageCount limit rows.length)).flatMap (pageAt limit rows) = rows := by
  rw [flatMap_pageAt, List.take_of_length_le (le_pageCount_mul hlimit rows.length)]

end Library
