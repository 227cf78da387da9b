-- SUMMARY: Tables of rows with a unique key, their operations, and the algebra of sums over a table.
import Mathlib.Algebra.Order.BigOperators.Group.List
import Mathlib.Algebra.Order.Ring.Int
import Mathlib.Data.List.Induction
import Mathlib.Data.List.Nodup
import Mathlib.Tactic.Ring

/-!
# Keyed tables

A `Table key` is a list of rows in which no two rows have the same key, so that
a row is determined by its key. The uniqueness is a field of the structure: an
insertion that would break it yields no table.

Sums over a table (`Table.sum`) change by the weight of the rows an operation
touches. That is the algebra behind a counter maintained by deltas.
-/

namespace Library

universe u v w

/-- Rows with pairwise distinct keys. -/
structure Table {ρ : Type u} {κ : Type v} (key : ρ → κ) where
  rows : List ρ
  nodup : (rows.map key).Nodup

namespace Table

variable {ρ : Type u} {κ : Type v} {key : ρ → κ} {t : Table key} {r old : ρ} {k : κ}

@[ext] theorem ext {t t' : Table key} (h : t.rows = t'.rows) : t = t' := by
  cases t; cases t'; simp only at h; subst h; rfl

instance : Membership ρ (Table key) := ⟨fun t r => r ∈ t.rows⟩

theorem mem_iff : r ∈ t ↔ r ∈ t.rows := Iff.rfl

instance [DecidableEq ρ] : DecidableEq (Table key) := fun t t' =>
  decidable_of_iff (t.rows = t'.rows) ⟨ext, fun h => h ▸ rfl⟩

instance {p : ρ → Prop} [DecidablePred p] : Decidable (∃ r ∈ t, p r) :=
  inferInstanceAs (Decidable (∃ r ∈ t.rows, p r))

/-- The table without rows. -/
def empty : Table key := ⟨[], List.nodup_nil⟩

instance : EmptyCollection (Table key) := ⟨empty⟩

@[simp] theorem rows_empty : (∅ : Table key).rows = [] := rfl

/-- Two rows of a table with one key are one row. -/
theorem eq_of_key_eq {r r' : ρ} (hr : r ∈ t) (hr' : r' ∈ t) (h : key r = key r') : r = r' :=
  List.inj_on_of_nodup_map t.nodup hr hr' h

variable [DecidableEq κ]

/-! ## Lookup -/

/-- The row with a key. -/
def find? (t : Table key) (k : κ) : Option ρ := t.rows.find? (fun r => key r = k)

theorem find?_eq_some : t.find? k = some r ↔ r ∈ t ∧ key r = k := by
  constructor
  · intro h
    exact ⟨List.mem_of_find?_eq_some h, by simpa using List.find?_some h⟩
  · rintro ⟨hr, hk⟩
    cases hf : t.find? k with
    | none => exact absurd hk (by simpa using List.find?_eq_none.1 hf r hr)
    | some r' =>
      have hr' : r' ∈ t := List.mem_of_find?_eq_some hf
      have hk' : key r' = k := by simpa using List.find?_some hf
      rw [eq_of_key_eq hr' hr (hk'.trans hk.symm)]

theorem mem_of_find? (h : t.find? k = some r) : r ∈ t := (find?_eq_some.1 h).1

theorem key_of_find? (h : t.find? k = some r) : key r = k := (find?_eq_some.1 h).2

theorem find?_of_mem (h : r ∈ t) : t.find? (key r) = some r := find?_eq_some.2 ⟨h, rfl⟩

theorem find?_eq_none : t.find? k = none ↔ ∀ r ∈ t, key r ≠ k := by
  simp [find?, List.find?_eq_none, mem_iff]

/-- A key selects one row at most. -/
theorem filter_key_eq (t : Table key) (k : κ) :
    t.rows.filter (fun r => key r = k) = (t.find? k).toList := by
  cases hfind : t.find? k with
  | none =>
    rw [Option.toList_none, List.filter_eq_nil_iff]
    intro r hr
    exact fun hk => find?_eq_none.1 hfind r hr (of_decide_eq_true hk)
  | some r =>
    obtain ⟨hk, before, after, hrows, hbefore⟩ := List.find?_eq_some_iff_append.1 hfind
    have hnodup := t.nodup
    rw [hrows, List.map_append, List.map_cons, List.nodup_append, List.nodup_cons] at hnodup
    have hnone : before.filter (fun r => key r = k) = [] :=
      List.filter_eq_nil_iff.2 fun x hx => by simpa using hbefore x hx
    have hlast : after.filter (fun r => key r = k) = [] := by
      refine List.filter_eq_nil_iff.2 fun x hx hxk => hnodup.2.1.1 ?_
      rw [of_decide_eq_true hk, ← of_decide_eq_true hxk]
      exact List.mem_map_of_mem hx
    rw [hrows, List.filter_append, List.filter_cons, if_pos hk, hnone, hlast]
    rfl

/-! ## Replacing a row -/

/-- Put `r` in the place of the row with its key; a table without such a row is
    left alone. -/
def replace (t : Table key) (r : ρ) : Table key where
  rows := t.rows.map (fun x => if key x = key r then r else x)
  nodup := by
    have h : (t.rows.map (fun x => if key x = key r then r else x)).map key = t.rows.map key := by
      rw [List.map_map]
      refine List.map_congr_left (fun x _ => ?_)
      by_cases hx : key x = key r <;> simp [hx]
    rw [h]
    exact t.nodup

theorem mem_replace {x : ρ} :
    x ∈ t.replace r ↔ (x = r ∧ ∃ y ∈ t, key y = key r) ∨ (x ∈ t ∧ key x ≠ key r) := by
  simp only [mem_iff, replace, List.mem_map]
  constructor
  · rintro ⟨y, hy, rfl⟩
    by_cases hk : key y = key r
    · simp only [hk, if_true]
      exact .inl ⟨trivial, y, hy, hk⟩
    · simp only [hk, if_false]
      exact .inr ⟨hy, hk⟩
  · rintro (⟨rfl, y, hy, hk⟩ | ⟨hx, hk⟩)
    · exact ⟨y, hy, by simp [hk]⟩
    · exact ⟨x, hx, by simp [hk]⟩

/-- A row of the changed table is the new row or an old one with another key. -/
theorem eq_or_mem_of_mem_replace {x : ρ} (h : x ∈ t.replace r) :
    x = r ∨ (x ∈ t ∧ key x ≠ key r) :=
  (mem_replace.1 h).imp And.left id

theorem mem_replace_self (h : t.find? (key r) = some old) : r ∈ t.replace r :=
  mem_replace.2 (.inl ⟨rfl, old, mem_of_find? h, key_of_find? h⟩)

theorem mem_replace_of_ne {x : ρ} (hx : x ∈ t) (hk : key x ≠ key r) : x ∈ t.replace r :=
  mem_replace.2 (.inr ⟨hx, hk⟩)

theorem find?_replace_self (h : t.find? (key r) = some old) :
    (t.replace r).find? (key r) = some r :=
  find?_of_mem (mem_replace_self h)

theorem find?_replace_ne (hk : k ≠ key r) : (t.replace r).find? k = t.find? k := by
  cases h : t.find? k with
  | some x =>
    obtain ⟨hx, hxk⟩ := find?_eq_some.1 h
    exact find?_eq_some.2 ⟨mem_replace_of_ne hx (hxk ▸ hk), hxk⟩
  | none =>
    refine find?_eq_none.2 (fun x hx hxk => ?_)
    rcases eq_or_mem_of_mem_replace hx with rfl | ⟨hx, -⟩
    · exact hk hxk.symm
    · exact find?_eq_none.1 h x hx hxk

/-- A selection that takes neither the old row nor the new one does not see the change. -/
theorem filter_replace {p : ρ → Bool} (hnew : p r = false)
    (hold : ∀ x ∈ t, key x = key r → p x = false) :
    (t.replace r).rows.filter p = t.rows.filter p := by
  rw [replace, List.filter_map]
  have hsame : ∀ x ∈ t.rows, p (if key x = key r then r else x) = p x := by
    intro x hx
    split
    · rename_i hkey
      rw [hnew, hold x hx hkey]
    · rfl
  have hselect : t.rows.filter (p ∘ fun x => if key x = key r then r else x) = t.rows.filter p :=
    List.filter_congr hsame
  rw [hselect]
  refine (List.map_congr_left (fun x hx => ?_)).trans (List.map_id _)
  obtain ⟨hx, hpx⟩ := List.mem_filter.1 hx
  split
  · rename_i hkey
    rw [hold x hx hkey] at hpx
    cases hpx
  · rfl

/-- A selection that takes the old row if and only if it takes the new one selects the
    same keys. -/
theorem map_filter_replace {p : ρ → Bool} (hsame : ∀ x ∈ t, key x = key r → p x = p r) :
    ((t.replace r).rows.filter p).map key = (t.rows.filter p).map key := by
  rw [replace, List.filter_map, List.map_map]
  have hselect : t.rows.filter (p ∘ fun x => if key x = key r then r else x) = t.rows.filter p := by
    refine List.filter_congr (fun x hx => ?_)
    rw [Function.comp_apply]
    split
    · rename_i hkey
      exact (hsame x hx hkey).symm
    · rfl
  rw [hselect]
  refine List.map_congr_left (fun x _ => ?_)
  rw [Function.comp_apply]
  split
  · rename_i hkey
    exact hkey.symm
  · rfl

/-- A search that finds neither the old row nor the new one does not see the change. -/
theorem search_replace {p : ρ → Bool} (hnew : p r = false)
    (hold : ∀ x ∈ t, key x = key r → p x = false) :
    (t.replace r).rows.find? p = t.rows.find? p := by
  rw [← List.head?_filter, filter_replace hnew hold, List.head?_filter]

/-- A search that found the old row and accepts the new one finds it in its place. -/
theorem search_replace_self {p : ρ → Bool} (hfind : t.rows.find? p = some old)
    (hkey : key r = key old) (hnew : p r = true) : (t.replace r).rows.find? p = some r := by
  obtain ⟨-, before, after, hrows, hbefore⟩ := List.find?_eq_some_iff_append.1 hfind
  have hnodup := t.nodup
  rw [hrows, List.map_append, List.map_cons, List.nodup_append] at hnodup
  have hne : ∀ x ∈ before, key x ≠ key r := by
    intro x hx heq
    exact hnodup.2.2 (key x) (List.mem_map_of_mem hx) (key old) List.mem_cons_self (heq.trans hkey)
  have hsame : before.map (fun x => if key x = key r then r else x) = before := by
    refine (List.map_congr_left (fun x hx => ?_)).trans (List.map_id before)
    exact if_neg (hne x hx)
  have hreplaced : (t.replace r).rows =
      before ++ r :: after.map (fun x => if key x = key r then r else x) := by
    refine (congrArg (List.map _) hrows).trans ?_
    rw [List.map_append, hsame, List.map_cons, if_pos hkey.symm]
  exact List.find?_eq_some_iff_append.2 ⟨hnew, before, _, hreplaced, hbefore⟩

/-! ## Inserting a row -/

/-- Append a row whose key is new. -/
def insert? (t : Table key) (r : ρ) : Option (Table key) :=
  if h : key r ∈ t.rows.map key then none
  else some ⟨t.rows ++ [r], by
    rw [List.map_append, List.nodup_append]
    exact ⟨t.nodup, by simp, fun a ha b hb => by
      rw [List.map_singleton, List.mem_singleton] at hb
      rintro rfl
      exact h (hb ▸ ha)⟩⟩

theorem insert?_eq_some {t' : Table key} :
    t.insert? r = some t' ↔ (∀ x ∈ t, key x ≠ key r) ∧ t'.rows = t.rows ++ [r] := by
  unfold insert?
  split
  · rename_i h
    obtain ⟨x, hx, hk⟩ := List.mem_map.1 h
    simp only [reduceCtorEq, false_iff, not_and]
    exact fun hne => absurd hk (hne x hx)
  · rename_i h
    simp only [Option.some.injEq]
    constructor
    · rintro rfl
      exact ⟨fun x hx hk => h (List.mem_map.2 ⟨x, hx, hk⟩), rfl⟩
    · rintro ⟨-, hrows⟩
      exact ext hrows.symm

theorem insert?_eq_none : t.insert? r = none ↔ ∃ x ∈ t, key x = key r := by
  unfold insert?
  split
  · rename_i h
    simpa [mem_iff] using h
  · rename_i h
    simpa [mem_iff] using h

theorem mem_insert {t' : Table key} (h : t.insert? r = some t') {x : ρ} :
    x ∈ t' ↔ x ∈ t ∨ x = r := by
  rw [mem_iff, (insert?_eq_some.1 h).2, List.mem_append, List.mem_singleton]
  exact Iff.rfl

theorem find?_insert_ne {t' : Table key} (h : t.insert? r = some t') (hk : k ≠ key r) :
    t'.find? k = t.find? k := by
  rw [find?, (insert?_eq_some.1 h).2, List.find?_append]
  simp [find?, Ne.symm hk]

theorem find?_insert_self {t' : Table key} (h : t.insert? r = some t') :
    t'.find? (key r) = some r :=
  find?_of_mem ((mem_insert h).2 (.inr rfl))

/-! ## Setting the row of a key -/

/-- Put `r` in the place of the row with its key, or append it. -/
def upsert (t : Table key) (r : ρ) : Table key :=
  match t.insert? r with
  | some t' => t'
  | none => t.replace r

/-- The row that was set, and the rows with other keys. -/
theorem mem_upsert {x : ρ} : x ∈ t.upsert r ↔ x = r ∨ (x ∈ t ∧ key x ≠ key r) := by
  unfold upsert
  split
  · rename_i hins
    have hnew := (insert?_eq_some.1 hins).1
    rw [mem_insert hins, or_comm, and_iff_left_of_imp (hnew x)]
  · rename_i hins
    rw [mem_replace, and_iff_left (insert?_eq_none.1 hins)]

theorem mem_of_mem_upsert {x : ρ} (h : x ∈ t.upsert r) : x ∈ t ∨ x = r :=
  (mem_upsert.1 h).symm.imp And.left id

theorem find?_upsert_self : (t.upsert r).find? (key r) = some r :=
  find?_of_mem (mem_upsert.2 (.inl rfl))

theorem find?_upsert_ne (hk : k ≠ key r) : (t.upsert r).find? k = t.find? k := by
  unfold upsert
  split
  · rename_i hins
    exact find?_insert_ne hins hk
  · exact find?_replace_ne hk

/-- Rows are set one after the other, and only one row is set for the key. -/
theorem find?_foldl_upsert {rows : List ρ} (hr : r ∈ rows) (honly : ∀ r' ∈ rows, key r' = key r → r' = r)
    (t : Table key) : (rows.foldl upsert t).find? (key r) = some r := by
  induction rows using List.reverseRecOn with
  | nil => cases hr
  | append_singleton rows last ih =>
    rw [List.foldl_append, List.foldl_cons, List.foldl_nil]
    by_cases hlast : key last = key r
    · obtain rfl := honly last (by simp) hlast
      exact find?_upsert_self
    · rw [find?_upsert_ne (Ne.symm hlast)]
      rcases List.mem_append.1 hr with hr | hr
      · exact ih hr fun r' hr' => honly r' (List.mem_append_left _ hr')
      · exact absurd (congrArg key (List.mem_singleton.1 hr).symm) hlast

/-! ## Changing rows -/

/-- Read every row by a function that keeps the keys. -/
def map {ρ' : Type w} {key' : ρ' → κ} (t : Table key) (f : ρ → ρ')
    (hf : ∀ r, key' (f r) = key r) : Table key' where
  rows := t.rows.map f
  nodup := by
    have h : (t.rows.map f).map key' = t.rows.map key := by
      rw [List.map_map]
      exact List.map_congr_left (fun r _ => hf r)
    rw [h]
    exact t.nodup

/-- Change every row by a function that keeps the keys. -/
def modify (t : Table key) (f : ρ → ρ) (hf : ∀ r, key (f r) = key r) : Table key := t.map f hf

omit [DecidableEq κ] in
theorem mem_modify {f : ρ → ρ} {hf : ∀ r, key (f r) = key r} {x : ρ} :
    x ∈ t.modify f hf ↔ ∃ r ∈ t, f r = x := List.mem_map

theorem find?_modify {f : ρ → ρ} {hf : ∀ r, key (f r) = key r} :
    (t.modify f hf).find? k = (t.find? k).map f := by
  have hkeys : (fun r => decide (key r = k)) ∘ f = fun r => decide (key r = k) :=
    funext fun r => by rw [Function.comp_apply, hf]
  rw [find?, modify, map, List.find?_map, hkeys, find?]

/-! ## Deleting rows -/

/-- Keep the rows that satisfy `p`. -/
def keep (t : Table key) (p : ρ → Bool) : Table key where
  rows := t.rows.filter p
  nodup := t.nodup.sublist (List.filter_sublist.map key)

omit [DecidableEq κ] in
theorem mem_keep {p : ρ → Bool} {x : ρ} : x ∈ t.keep p ↔ x ∈ t ∧ p x = true :=
  List.mem_filter

/-! ## Sums -/

/-- The sum of a weight over the rows. -/
def sum (t : Table key) (w : ρ → Int) : Int := (t.rows.map w).sum

omit [DecidableEq κ] in
@[simp] theorem sum_empty (w : ρ → Int) : (∅ : Table key).sum w = 0 := rfl

omit [DecidableEq κ] in
/-- Weights that agree on the rows have one sum. -/
theorem sum_congr {w w' : ρ → Int} (h : ∀ x ∈ t, w x = w' x) : t.sum w = t.sum w' := by
  unfold sum
  rw [List.map_congr_left h]

omit [DecidableEq κ] in
theorem sum_nonneg {w : ρ → Int} (h : ∀ x ∈ t, 0 ≤ w x) : 0 ≤ t.sum w :=
  List.sum_nonneg (fun i hi => by
    obtain ⟨x, hx, rfl⟩ := List.mem_map.1 hi
    exact h x hx)

omit [DecidableEq κ] in
/-- With nonnegative weights no row weighs more than the table. -/
theorem le_sum {w : ρ → Int} (h : ∀ x ∈ t, 0 ≤ w x) (hr : r ∈ t) : w r ≤ t.sum w :=
  List.single_le_sum (fun i hi => by
    obtain ⟨x, hx, rfl⟩ := List.mem_map.1 hi
    exact h x hx) _ (List.mem_map_of_mem hr)

omit [DecidableEq κ] in
/-- Nonnegative weights cancel only if all are zero. -/
theorem sum_eq_zero_iff {w : ρ → Int} (h : ∀ x ∈ t, 0 ≤ w x) : t.sum w = 0 ↔ ∀ x ∈ t, w x = 0 := by
  refine ⟨fun hsum x hx => le_antisymm (hsum ▸ le_sum h hx) (h x hx), fun hzero => ?_⟩
  refine List.sum_eq_zero (fun i hi => ?_)
  obtain ⟨x, hx, rfl⟩ := List.mem_map.1 hi
  exact hzero x hx

omit [DecidableEq κ] in
theorem sum_add (w w' : ρ → Int) : t.sum (fun x => w x + w' x) = t.sum w + t.sum w' :=
  List.sum_map_add

omit [DecidableEq κ] in
/-- Several sums over a table are one sum of several weights. -/
theorem sum_sums {ι : Type*} (indices : List ι) (w : ι → ρ → Int) :
    (indices.map (fun i => t.sum (w i))).sum = t.sum (fun x => (indices.map (w · x)).sum) := by
  induction indices with
  | nil => exact ((sum_eq_zero_iff (fun _ _ => le_refl 0)).2 (fun _ _ => rfl)).symm
  | cons i rest ih =>
    simp only [List.map_cons, List.sum_cons]
    rw [ih, sum_add]

private theorem sum_map_replace {rows : List ρ} (w : ρ → Int)
    (hnd : (rows.map key).Nodup) (hold : old ∈ rows) (hk : key old = key r) :
    ((rows.map (fun x => if key x = key r then r else x)).map w).sum =
      (rows.map w).sum - w old + w r := by
  induction rows with
  | nil => simp at hold
  | cons x rows ih =>
    rw [List.map_cons, List.nodup_cons] at hnd
    rcases List.mem_cons.1 hold with rfl | hmem
    · -- the changed row comes first, and the rest has other keys
      have hrest : rows.map (fun x => if key x = key r then r else x) = rows := by
        refine (List.map_congr_left (fun y hy => ?_)).trans (List.map_id rows)
        have hne : key y ≠ key r := fun h =>
          hnd.1 (List.mem_map.2 ⟨y, hy, h.trans hk.symm⟩)
        simp [hne]
      simp only [List.map_cons, hk, if_true, List.sum_cons]
      rw [hrest]
      ring
    · have hne : key x ≠ key r := fun h =>
        hnd.1 (List.mem_map.2 ⟨old, hmem, hk.trans h.symm⟩)
      simp only [List.map_cons, hne, if_false, List.sum_cons]
      rw [ih hnd.2 hmem]
      ring

/-- Replacing a row changes the sum by the difference of the two weights. -/
theorem sum_replace (w : ρ → Int) (h : t.find? (key r) = some old) :
    (t.replace r).sum w = t.sum w - w old + w r :=
  sum_map_replace w t.nodup (mem_of_find? h) (key_of_find? h)

theorem sum_insert {t' : Table key} (w : ρ → Int) (h : t.insert? r = some t') :
    t'.sum w = t.sum w + w r := by
  simp [sum, (insert?_eq_some.1 h).2]

/-- Setting a row changes the sum by its weight less that of the row it displaces. -/
theorem sum_upsert (w : ρ → Int) :
    (t.upsert r).sum w = t.sum w - ((t.find? (key r)).map w).getD 0 + w r := by
  unfold upsert
  cases h : t.insert? r with
  | some t' =>
    have hnone : t.find? (key r) = none := find?_eq_none.2 (insert?_eq_some.1 h).1
    simp only
    rw [sum_insert w h, hnone]
    simp
  | none =>
    obtain ⟨old, hold, hk⟩ := insert?_eq_none.1 h
    have hfind : t.find? (key r) = some old := find?_eq_some.2 ⟨hold, hk⟩
    simp only
    rw [sum_replace w hfind, hfind]
    rfl

omit [DecidableEq κ] in
/-- Deleting rows that weigh nothing keeps the sum. -/
theorem sum_keep {w : ρ → Int} {p : ρ → Bool} (h : ∀ x ∈ t, p x = false → w x = 0) :
    (t.keep p).sum w = t.sum w := by
  suffices ∀ rows : List ρ, (∀ x ∈ rows, p x = false → w x = 0) →
      ((rows.filter p).map w).sum = (rows.map w).sum from this t.rows h
  intro rows hrows
  induction rows with
  | nil => rfl
  | cons x rows ih =>
    have hrest := ih (fun y hy => hrows y (List.mem_cons_of_mem _ hy))
    cases hp : p x with
    | true => simp [hp, hrest]
    | false => simp [hp, hrest, hrows x List.mem_cons_self hp]

end Table

end Library
