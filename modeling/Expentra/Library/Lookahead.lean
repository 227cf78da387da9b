-- SUMMARY: Loops over a text that look at one symbol ahead and may skip it.
import Mathlib.Data.List.Basic

/-!
# Scanners with a lookahead

A turn of the loop sees a symbol and the next one, and may step over the next. What a loop
does is said by one rule for a symbol after which it stays, and one for a symbol after which
it skips; what each turn conserves, the loop conserves.
-/

namespace Library

universe u v w

variable {σ : Type u} {α : Type v}

/-- The loop: each turn gives the state after it, and whether the next symbol is skipped. -/
def scan (turn : σ → α → Option α → σ × Bool) : σ → List α → σ
  | s, [] => s
  | s, [a] => (turn s a none).1
  | s, a :: b :: rest =>
    if (turn s a (some b)).2 then scan turn (turn s a (some b)).1 rest
    else scan turn (turn s a (some b)).1 (b :: rest)

variable {turn : σ → α → Option α → σ × Bool} {s s' : σ} {a b : α} {rest : List α}

@[simp] theorem scan_nil : scan turn s [] = s := by rw [scan]

/-- A turn that skips nothing. -/
theorem scan_cons (h : turn s a rest.head? = (s', false)) :
    scan turn s (a :: rest) = scan turn s' rest := by
  cases rest with
  | nil =>
    rw [List.head?_nil] at h
    simp only [scan, h]
  | cons b rest =>
    rw [List.head?_cons] at h
    rw [scan, h, if_neg Bool.false_ne_true]

/-- A turn that skips the next symbol. -/
theorem scan_cons_skip (h : turn s a (some b) = (s', true)) :
    scan turn s (a :: b :: rest) = scan turn s' rest := by
  rw [scan, h, if_pos rfl]

/-- A quantity of the state and of the text before it that every turn conserves. -/
structure Conserved {ν : Type w} (turn : σ → α → Option α → σ × Bool) (weight : σ → List α → ν) :
    Prop where
  stays : ∀ s a rest, (turn s a rest.head?).2 = false →
    weight (turn s a rest.head?).1 rest = weight s (a :: rest)
  skips : ∀ s a b rest, (turn s a (some b)).2 = true →
    weight (turn s a (some b)).1 rest = weight s (a :: b :: rest)
  /-- Nothing is skipped after the last symbol. -/
  ends : ∀ s a, (turn s a none).2 = false

theorem Conserved.scan {ν : Type w} {weight : σ → List α → ν} (h : Conserved turn weight) (s : σ)
    (text : List α) : weight (scan turn s text) [] = weight s text := by
  induction s, text using Library.scan.induct turn with
  | case1 s => rw [scan_nil]
  | case2 s a =>
    rw [Library.scan]
    exact h.stays s a [] (h.ends s a)
  | case3 s a b rest hskip ih =>
    rw [scan_cons_skip (Prod.ext rfl hskip), ih]
    exact h.skips s a b rest hskip
  | case4 s a b rest hstay ih =>
    have hstay := Bool.eq_false_iff.2 hstay
    rw [scan_cons (Prod.ext rfl hstay), List.head?_cons, ih]
    exact h.stays s a (b :: rest) hstay

end Library
