-- SUMMARY: Traversals of a list with a function that may fail.
import Mathlib.Data.List.Forall2
import Expentra.Library.Transaction

/-!
# Traversals

`mapM` in `Except` succeeds when the function succeeds on every element, and fails with
the error of the first element it fails on.
-/

namespace Library

universe u v w

namespace Except

variable {ε : Type u} {α : Type w} {β : Type v} {f : α → Except ε β} {xs : List α} {ys : List β} {e : ε}

theorem mapM_eq_ok : xs.mapM f = .ok ys ↔ List.Forall₂ (fun x y => f x = .ok y) xs ys := by
  induction xs generalizing ys with
  | nil =>
    rw [List.mapM_nil, List.forall₂_nil_left_iff]
    exact ⟨fun h => (Except.ok.inj h).symm, fun h => congrArg Except.ok h.symm⟩
  | cons x rest ih =>
    rw [List.mapM_cons, List.forall₂_cons_left_iff]
    constructor
    · intro h
      obtain ⟨y, hy, h⟩ := Except.bind_eq_ok.1 h
      obtain ⟨others, hothers, h⟩ := Except.bind_eq_ok.1 h
      exact ⟨y, others, hy, ih.1 hothers, (Except.ok.inj h).symm⟩
    · rintro ⟨y, others, hy, hothers, rfl⟩
      exact Except.bind_eq_ok.2 ⟨y, hy, Except.bind_eq_ok.2 ⟨others, ih.2 hothers, rfl⟩⟩

theorem mapM_congr {g : α → Except ε β} (h : ∀ x ∈ xs, f x = g x) : xs.mapM f = xs.mapM g := by
  induction xs with
  | nil => rfl
  | cons x rest ih =>
    rw [List.mapM_cons, List.mapM_cons, h x List.mem_cons_self,
      ih (fun y hy => h y (List.mem_cons_of_mem _ hy))]

theorem map_eq_ok {g : α → β} {x : Except ε α} {y : β} : x.map g = .ok y ↔ ∃ a, x = .ok a ∧ g a = y := by
  cases x with
  | error e => simp [Except.map]
  | ok a => simp [Except.map]

theorem exists_of_mapM_eq_error (h : xs.mapM f = .error e) : ∃ x ∈ xs, f x = .error e := by
  induction xs with
  | nil =>
    rw [List.mapM_nil] at h
    cases h
  | cons x rest ih =>
    rw [List.mapM_cons] at h
    rcases Except.bind_eq_error.1 h with hfirst | ⟨_, -, h⟩
    · exact ⟨x, List.mem_cons_self, hfirst⟩
    · rcases Except.bind_eq_error.1 h with hothers | ⟨_, -, h⟩
      · obtain ⟨other, hmem, hother⟩ := ih hothers
        exact ⟨other, List.mem_cons_of_mem _ hmem, hother⟩
      · cases h

/-- Every element has a result. -/
theorem exists_of_mapM_eq_ok (h : xs.mapM f = .ok ys) : ∀ x ∈ xs, ∃ y ∈ ys, f x = .ok y := by
  rw [mapM_eq_ok] at h
  induction h with
  | nil => exact fun _ h => absurd h List.not_mem_nil
  | cons hfirst _ ih =>
    refine List.forall_mem_cons.2 ⟨⟨_, List.mem_cons_self, hfirst⟩, fun x hx => ?_⟩
    obtain ⟨y, hy, hxy⟩ := ih x hx
    exact ⟨y, List.mem_cons_of_mem _ hy, hxy⟩

/-- Every result is that of an element. -/
theorem exists_of_mem_mapM (h : xs.mapM f = .ok ys) : ∀ y ∈ ys, ∃ x ∈ xs, f x = .ok y := by
  rw [mapM_eq_ok] at h
  induction h with
  | nil => exact fun _ h => absurd h List.not_mem_nil
  | cons hfirst _ ih =>
    refine List.forall_mem_cons.2 ⟨⟨_, List.mem_cons_self, hfirst⟩, fun y hy => ?_⟩
    obtain ⟨x, hx, hxy⟩ := ih y hy
    exact ⟨x, List.mem_cons_of_mem _ hx, hxy⟩

/-- A value that every result has, as a function of its element. -/
theorem map_of_mapM {γ : Type*} {g : α → γ} {k : β → γ} (h : xs.mapM f = .ok ys)
    (hvalue : ∀ x ∈ xs, ∀ y, f x = .ok y → k y = g x) : ys.map k = xs.map g := by
  rw [mapM_eq_ok] at h
  induction h with
  | nil => rfl
  | cons hfirst _ ih =>
    rw [List.map_cons, List.map_cons, hvalue _ List.mem_cons_self _ hfirst,
      ih (fun x hx => hvalue x (List.mem_cons_of_mem _ hx))]

theorem exists_mapM_eq_ok (h : ∀ x ∈ xs, ∃ y, f x = .ok y) : ∃ ys, xs.mapM f = .ok ys := by
  cases hrun : xs.mapM f with
  | ok ys => exact ⟨ys, rfl⟩
  | error e =>
    obtain ⟨x, hx, herror⟩ := exists_of_mapM_eq_error hrun
    obtain ⟨y, hy⟩ := h x hx
    cases herror.symm.trans hy

end Except

end Library
