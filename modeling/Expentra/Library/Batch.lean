-- SUMMARY: Batches of calls that commit one by one, and what they do to the subjects they name.
import Expentra.Library.Transaction
import Mathlib.Data.List.Basic
import Mathlib.Tactic.Common

/-!
# Batches

A batch runs its calls in order. Each commits on its own, or is refused and leaves the
state. When an accepted call adds weight to the one subject it names, a subject is left
as it was exactly when all calls that name it are refused.
-/

namespace Library

universe u v w

variable {σ : Type u} {ε κ ι ν : Type v}

/-- The state after every call. -/
def runBatch (single : κ → Transaction σ ε Unit) (s : σ) (calls : List κ) : σ :=
  calls.foldl (fun s call => (single call).commit s) s

/-- The calls, each with the state it finds. -/
def visits (single : κ → Transaction σ ε Unit) : σ → List κ → List (κ × σ)
  | _, [] => []
  | s, call :: rest => (call, s) :: visits single ((single call).commit s) rest

/-- The call goes through in the state it finds. -/
def accepted (single : κ → Transaction σ ε Unit) (visit : κ × σ) : Bool :=
  (single visit.1 visit.2).isOk

theorem map_fst_visits (single : κ → Transaction σ ε Unit) (s : σ) (calls : List κ) :
    (visits single s calls).map Prod.fst = calls := by
  induction calls generalizing s with
  | nil => rfl
  | cons call rest ih => rw [visits, List.map_cons, ih]

theorem runBatch_cons {single : κ → Transaction σ ε Unit} {s : σ} {call : κ} {rest : List κ} :
    runBatch single s (call :: rest) = runBatch single ((single call).commit s) rest := rfl

/-- Calls that change the view of the subject they name, and no other, to one of more
    weight, while an invariant holds. -/
structure Batch (σ : Type u) (ε κ ι ν : Type v) where
  single : κ → Transaction σ ε Unit
  subject : κ → Option ι
  view : σ → ι → ν
  weight : ν → Nat
  Inv : σ → Prop
  step : ∀ {call s s'}, Inv s → single call s = .ok ((), s') →
    Inv s' ∧ ∃ i, subject call = some i ∧ (∀ j, j ≠ i → view s' j = view s j) ∧
      weight (view s i) < weight (view s' i)

namespace Batch

variable {b : Batch σ ε κ ι ν} {s : σ} {calls : List κ}

/-- An accepted call of a batch names a subject. -/
theorem subject_of_accepted (hs : b.Inv s) {visit : κ × σ} (hmem : visit ∈ visits b.single s calls)
    (haccepted : accepted b.single visit = true) : ∃ i, b.subject visit.1 = some i := by
  induction calls generalizing s with
  | nil => cases hmem
  | cons call rest ih =>
    rcases List.mem_cons.1 hmem with rfl | hmem
    · obtain ⟨s', hok⟩ := Transaction.exists_of_isOk haccepted
      obtain ⟨-, i, hi, -⟩ := b.step hs hok
      exact ⟨i, hi⟩
    · refine ih ?_ hmem
      exact Transaction.commit_induction hs fun _ s' hok => (b.step hs hok).1

variable [DecidableEq ι] (b)

def Names (i : ι) (visit : κ × σ) : Bool := b.subject visit.1 = some i

/-- The number of accepted calls that name a subject. -/
def acceptances (s : σ) (calls : List κ) (i : ι) : Nat :=
  (visits b.single s calls).countP (fun visit => b.Names i visit && accepted b.single visit)

def refusals (s : σ) (calls : List κ) (i : ι) : Nat :=
  (visits b.single s calls).countP (fun visit => b.Names i visit && !accepted b.single visit)

theorem acceptances_add_refusals (s : σ) (calls : List κ) (i : ι) :
    b.acceptances s calls i + b.refusals s calls i =
      calls.countP (fun call => b.subject call = some i) := by
  conv_rhs => rw [← map_fst_visits b.single s calls, List.countP_map]
  rw [acceptances, refusals, ← List.countP_filter, ← List.countP_filter,
    ← List.countP_eq_countP_filter_add]
  rfl

variable {b}

theorem acceptances_eq_zero {i : ι} : b.acceptances s calls i = 0 ↔
    ∀ visit ∈ visits b.single s calls, b.subject visit.1 = some i →
      accepted b.single visit = false := by
  simp [acceptances, Names]

theorem acceptances_pos {i : ι} : 0 < b.acceptances s calls i ↔
    ∃ visit ∈ visits b.single s calls, b.subject visit.1 = some i ∧
      accepted b.single visit = true := by
  simp [acceptances, Names, List.countP_pos_iff]

theorem refusals_pos {i : ι} : 0 < b.refusals s calls i ↔
    ∃ visit ∈ visits b.single s calls, b.subject visit.1 = some i ∧
      accepted b.single visit = false := by
  simp [refusals, Names, List.countP_pos_iff]

/-- A batch adds at least one to the weight for every accepted call, and changes nothing
    without one. -/
theorem view_runBatch (hs : b.Inv s) (calls : List κ) (i : ι) :
    b.weight (b.view s i) + b.acceptances s calls i ≤
        b.weight (b.view (runBatch b.single s calls) i) ∧
      (b.acceptances s calls i = 0 → b.view (runBatch b.single s calls) i = b.view s i) := by
  induction calls generalizing s with
  | nil => exact ⟨Nat.le_refl _, fun _ => rfl⟩
  | cons call rest ih =>
    have hcount : b.acceptances s (call :: rest) i =
        b.acceptances ((b.single call).commit s) rest i +
          if (b.Names i (call, s) && accepted b.single (call, s)) = true then 1 else 0 :=
      List.countP_cons
    rw [hcount, runBatch_cons]
    by_cases haccepted : accepted b.single (call, s) = true
    · obtain ⟨s', hok⟩ := Transaction.exists_of_isOk haccepted
      rw [Transaction.commit_of_ok hok]
      obtain ⟨hinv, j, hj, hframe, hweight⟩ := b.step hs hok
      obtain ⟨hle, hzero⟩ := ih hinv
      by_cases hij : j = i
      · subst hij
        have hnames : b.Names j (call, s) = true := decide_eq_true hj
        simp only [hnames, haccepted, Bool.and_self, if_true]
        exact ⟨by omega, by omega⟩
      · have hnames : b.Names i (call, s) = false :=
          decide_eq_false fun h => hij (Option.some.inj (hj.symm.trans h))
        simp only [hnames, Bool.false_and, Bool.false_eq_true, if_false, Nat.add_zero]
        rw [← hframe i (Ne.symm hij)]
        exact ⟨hle, hzero⟩
    · have hsame : (b.single call).commit s = s := by
        cases hresult : b.single call s with
        | ok r => exact absurd (by rw [accepted, hresult]; rfl) haccepted
        | error e => exact Transaction.commit_of_error hresult
      simp only [haccepted, Bool.and_false, Bool.false_eq_true, if_false, Nat.add_zero]
      rw [hsame]
      exact ih hs

/-- A subject is left as it was exactly when no call that names it is accepted. -/
theorem view_eq_iff (hs : b.Inv s) (calls : List κ) (i : ι) :
    b.view (runBatch b.single s calls) i = b.view s i ↔ b.acceptances s calls i = 0 := by
  obtain ⟨hle, hzero⟩ := view_runBatch hs calls i
  refine ⟨fun h => ?_, hzero⟩
  rw [h] at hle
  omega

/-- Refused calls leave their subjects and accepted calls are the only ones of theirs,
    exactly when every subject is named once at most, or by refused calls only. -/
theorem once_iff (hs : b.Inv s) (calls : List κ) :
    ((∀ visit ∈ visits b.single s calls, ∀ i, b.subject visit.1 = some i →
        accepted b.single visit = false →
          b.view (runBatch b.single s calls) i = b.view s i) ∧
      ∀ visit ∈ visits b.single s calls, ∀ i, b.subject visit.1 = some i →
        accepted b.single visit = true → b.acceptances s calls i = 1) ↔
    ∀ i, calls.countP (fun call => b.subject call = some i) ≤ 1 ∨
      ∀ visit ∈ visits b.single s calls, b.subject visit.1 = some i →
        accepted b.single visit = false := by
  have hrefused : (∀ visit ∈ visits b.single s calls, ∀ i, b.subject visit.1 = some i →
      accepted b.single visit = false →
        b.view (runBatch b.single s calls) i = b.view s i) ↔
      ∀ i, 0 < b.refusals s calls i → b.acceptances s calls i = 0 := by
    simp only [refusals_pos, view_eq_iff hs calls]
    constructor
    · rintro h i ⟨visit, hmem, hi, hno⟩
      exact h visit hmem i hi hno
    · intro h visit hmem i hi hno
      exact h i ⟨visit, hmem, hi, hno⟩
  have haccepted : (∀ visit ∈ visits b.single s calls, ∀ i, b.subject visit.1 = some i →
      accepted b.single visit = true → b.acceptances s calls i = 1) ↔
      ∀ i, 0 < b.acceptances s calls i → b.acceptances s calls i = 1 := by
    constructor
    · intro h i hpos
      obtain ⟨visit, hmem, hi, hyes⟩ := acceptances_pos.1 hpos
      exact h visit hmem i hi hyes
    · intro h visit hmem i hi hyes
      exact h i (acceptances_pos.2 ⟨visit, hmem, hi, hyes⟩)
  simp only [hrefused, haccepted, ← acceptances_eq_zero, ← forall_and]
  refine forall_congr' fun i => ?_
  have hsum := b.acceptances_add_refusals s calls i
  omega

end Batch

end Library
