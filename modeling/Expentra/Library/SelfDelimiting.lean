-- SUMMARY: Texts that tell the value they were written from and where they end, and the rules to compose them.
import Mathlib.Data.List.Basic

/-!
# Self-delimiting texts

A way of writing values tells them when equal texts, whatever follows them, were written
from equal values and are followed by the same. What may follow is a parameter: a number
is told only where no digit follows. Sequences, lists with separators and a closing
symbol, and runs of symbols of one kind are told when their parts are.
-/

namespace Library

universe u v w

variable {α : Type u} {β : Type v} {γ : Type w}

/-- The text of `x`, followed by a stop, tells the value of `x` and what follows it. -/
def Tells (text : α → List γ) (value : α → β) (Stop : List γ → Prop) (x : α) : Prop :=
  ∀ y rest rest', Stop rest → Stop rest' → text x ++ rest = text y ++ rest' →
    value x = value y ∧ rest = rest'

namespace Tells

variable {α' : Type u} {β' : Type v} {text : α → List γ} {value : α → β} {text' : α' → List γ}
  {value' : α' → β'} {Stop Stop' : List γ → Prop} {x y : α}

/-- Texts that end where they end tell their values. -/
theorem value_eq (h : Tells text value Stop x) (hend : Stop []) (heq : text x = text y) :
    value x = value y :=
  (h y [] [] hend hend (by rw [heq])).1

/-- A text after another one, with a symbol between. -/
theorem pair {symbol : γ} {x' : α'} (h : Tells text value Stop x)
    (h' : Tells text' value' Stop' x') (hsymbol : ∀ rest, Stop (symbol :: rest)) :
    Tells (fun p : α × α' => text p.1 ++ symbol :: text' p.2) (fun p => (value p.1, value' p.2))
      Stop' (x, x') := by
  rintro ⟨y, y'⟩ rest rest' hrest hrest' heq
  simp only [List.append_assoc, List.cons_append] at heq
  obtain ⟨hvalue, hafter⟩ := h y _ _ (hsymbol _) (hsymbol _) heq
  obtain ⟨hvalue', hrest⟩ := h' y' rest rest' hrest hrest' (List.cons.inj hafter).2
  exact ⟨Prod.ext hvalue hvalue', hrest⟩

end Tells

/-! ## Lists -/

section Lists

variable {text : α → List γ} {value : α → β} {Stop : List γ → Prop} {separator closing : γ}
  {xs ys : List α} {rest rest' : List γ}

/-- The texts of a list, with a separator between them. -/
def separated (separator : γ) (text : α → List γ) : List α → List γ
  | [] => []
  | [x] => text x
  | x :: y :: others => text x ++ separator :: separated separator text (y :: others)

/-- What a list writes after its first element, up to the closing symbol. -/
theorem separated_cons (x : α) (xs : List α) (closing : γ) (rest : List γ) :
    separated separator text (x :: xs) ++ closing :: rest =
      text x ++ (if xs = [] then closing :: rest
        else separator :: (separated separator text xs ++ closing :: rest)) := by
  cases xs with
  | nil => rfl
  | cons y others => simp [separated]

/-- A list is told when its elements are, if no element starts like the end of the list. -/
theorem separated_tells (htells : ∀ x ∈ xs, Tells text value Stop x)
    (hseparator : ∀ rest, Stop (separator :: rest)) (hclosing : ∀ rest, Stop (closing :: rest))
    (hne : separator ≠ closing) (hopens : ∀ x tail tail', text x ++ tail ≠ closing :: tail')
    (heq : separated separator text xs ++ closing :: rest =
      separated separator text ys ++ closing :: rest') :
    xs.map value = ys.map value ∧ rest = rest' := by
  induction xs generalizing ys with
  | nil =>
    cases ys with
    | nil => exact ⟨rfl, (List.cons.inj heq).2⟩
    | cons y others =>
      rw [separated_cons] at heq
      exact absurd heq.symm (hopens y _ _)
  | cons x xs ih =>
    cases ys with
    | nil =>
      rw [separated_cons] at heq
      exact absurd heq (hopens x _ _)
    | cons y ys =>
      obtain ⟨hfirst, hothers⟩ := List.forall_mem_cons.1 htells
      rw [separated_cons, separated_cons] at heq
      have hstop : ∀ (zs : List α) (tail : List γ), Stop (if zs = [] then closing :: tail
          else separator :: (separated separator text zs ++ closing :: tail)) := by
        intro zs tail
        split
        · exact hclosing _
        · exact hseparator _
      obtain ⟨hvalue, hafter⟩ := hfirst y _ _ (hstop xs rest) (hstop ys rest') heq
      by_cases hxs : xs = [] <;> by_cases hys : ys = []
      · subst hxs hys
        rw [if_pos rfl, if_pos rfl] at hafter
        exact ⟨by rw [List.map_cons, hvalue]; rfl, (List.cons.inj hafter).2⟩
      · rw [if_pos hxs, if_neg hys] at hafter
        exact absurd (List.cons.inj hafter).1.symm hne
      · rw [if_neg hxs, if_pos hys] at hafter
        exact absurd (List.cons.inj hafter).1 hne
      · rw [if_neg hxs, if_neg hys] at hafter
        obtain ⟨hvalues, hrest⟩ := ih hothers (List.cons.inj hafter).2
        exact ⟨by rw [List.map_cons, List.map_cons, hvalue, hvalues], hrest⟩

/-- Texts one after the other, up to a closing symbol. -/
theorem flatMap_tells (htells : ∀ x ∈ xs, Tells text value (fun _ => True) x)
    (hopens : ∀ x tail tail', text x ++ tail ≠ closing :: tail')
    (heq : xs.flatMap text ++ closing :: rest = ys.flatMap text ++ closing :: rest') :
    xs.map value = ys.map value ∧ rest = rest' := by
  induction xs generalizing ys with
  | nil =>
    cases ys with
    | nil => exact ⟨rfl, (List.cons.inj heq).2⟩
    | cons y others =>
      rw [List.flatMap_cons, List.append_assoc] at heq
      exact absurd heq.symm (hopens y _ _)
  | cons x xs ih =>
    cases ys with
    | nil =>
      rw [List.flatMap_cons, List.append_assoc] at heq
      exact absurd heq (hopens x _ _)
    | cons y ys =>
      obtain ⟨hfirst, hothers⟩ := List.forall_mem_cons.1 htells
      rw [List.flatMap_cons, List.flatMap_cons, List.append_assoc, List.append_assoc] at heq
      obtain ⟨hvalue, hafter⟩ := hfirst y _ _ trivial trivial heq
      obtain ⟨hvalues, hrest⟩ := ih hothers hafter
      exact ⟨by rw [List.map_cons, List.map_cons, hvalue, hvalues], hrest⟩

end Lists

/-! ## Runs -/

/-- A text does not start with a symbol of the kind. -/
def StopsRun (p : γ → Bool) (rest : List γ) : Prop := ∀ c ∈ rest.head?, p c = false

/-- Two runs of symbols of one kind, each followed by something else. -/
theorem run_tells {p : γ → Bool} {run run' rest rest' : List γ} (hrun : ∀ c ∈ run, p c = true)
    (hrun' : ∀ c ∈ run', p c = true) (hrest : StopsRun p rest) (hrest' : StopsRun p rest')
    (heq : run ++ rest = run' ++ rest') : run = run' ∧ rest = rest' := by
  induction run generalizing run' with
  | nil =>
    cases run' with
    | nil => exact ⟨rfl, heq⟩
    | cons c others =>
      rw [List.nil_append] at heq
      have hc := hrest c (by rw [heq]; rfl)
      rw [hrun' c List.mem_cons_self] at hc
      cases hc
  | cons c others ih =>
    cases run' with
    | nil =>
      rw [List.nil_append] at heq
      have hc := hrest' c (by rw [← heq]; rfl)
      rw [hrun c List.mem_cons_self] at hc
      cases hc
    | cons c' others' =>
      obtain ⟨rfl, hafter⟩ := List.cons.inj heq
      obtain ⟨rfl, hrest⟩ := ih (fun d hd => hrun d (List.mem_cons_of_mem _ hd))
        (fun d hd => hrun' d (List.mem_cons_of_mem _ hd)) hafter
      exact ⟨rfl, hrest⟩

end Library
