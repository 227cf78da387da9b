-- SUMMARY: Transactions over one database, statement by statement, with row locks that are held until the end.
import Mathlib.Logic.Function.Basic
import Expentra.Library.Interleaving

/-!
# Transactions with row locks

A transaction is a sequence of statements. A statement reads the committed state
alone, or takes a row lock first, for which it waits while another transaction
holds it. What a transaction writes is its own until it commits; the locks are
released when it commits or is rolled back. This is the isolation level READ
COMMITTED: two statements of one transaction may see two states.

A row that is locked changes by the holder only, as long as every transaction
writes the rows it holds (`Locked.step_frame`).
-/

namespace Library

universe u v w

/-- The committed state, and the transaction that holds each row. -/
structure Locked (σ : Type u) (κ : Type v) where
  committed : σ
  holder : κ → Option Nat

/-- What a transaction does next, and its local state after that. -/
inductive Statement (σ : Type u) (κ : Type v) (τ : Type w) where
  | read (next : σ → τ)
  /-- Take the lock of a row, if the row exists, and read then. -/
  | lock (row : σ → Option κ) (next : σ → τ)
  | commit (write : σ → σ) (next : τ)
  | rollback (next : τ)

namespace Statement

variable {σ : Type u} {κ : Type v} {τ : Type w}

/-- The committed state after the statement. -/
def written (s : σ) : Statement σ κ τ → σ
  | .commit write _ => write s
  | _ => s

/-- The local state after the statement. -/
def after (s : σ) : Statement σ κ τ → τ
  | .read next => next s
  | .lock _ next => next s
  | .commit _ next => next
  | .rollback next => next

end Statement

namespace Locked

variable {σ : Type u} {κ : Type v} {τ : Type w}

def unlocked (s : σ) : Locked σ κ := ⟨s, fun _ => none⟩

/-- The locks after the transaction `i` has ended. -/
def release (i : Nat) (holder : κ → Option Nat) : κ → Option Nat :=
  fun k => if holder k = some i then none else holder k

/-- A statement of the transaction `i`; nothing while it has to wait. -/
def step [DecidableEq κ] (i : Nat) (s : Locked σ κ) : Statement σ κ τ → Option (Locked σ κ × τ)
  | .read next => some (s, next s.committed)
  | .lock row next =>
    match row s.committed with
    | none => some (s, next s.committed)
    | some k =>
      if s.holder k = none ∨ s.holder k = some i then
        some ({ s with holder := Function.update s.holder k (some i) }, next s.committed)
      else none
  | .commit write next => some (⟨write s.committed, release i s.holder⟩, next)
  | .rollback next => some (⟨s.committed, release i s.holder⟩, next)

variable [DecidableEq κ] {i j : Nat} {s s' : Locked σ κ} {statement : Statement σ κ τ} {t : τ} {k : κ}

/-- A lock is granted when there is no row, or nobody else holds it. -/
theorem step_lock_eq_some {row : σ → Option κ} {next : σ → τ}
    (hstep : step i s (.lock row next) = some (s', t)) :
    t = next s.committed ∧ s'.committed = s.committed ∧
      ((row s.committed = none ∧ s'.holder = s.holder) ∨
        ∃ k, row s.committed = some k ∧ (s.holder k = none ∨ s.holder k = some i) ∧
          s'.holder = Function.update s.holder k (some i)) := by
  simp only [step] at hstep
  cases hrow : row s.committed with
  | none =>
    rw [hrow] at hstep
    cases hstep
    exact ⟨rfl, rfl, .inl ⟨rfl, rfl⟩⟩
  | some k =>
    simp only [hrow] at hstep
    split at hstep
    · rename_i hfree
      cases hstep
      exact ⟨rfl, rfl, .inr ⟨k, rfl, hfree, rfl⟩⟩
    · cases hstep

/-- Locks decide when a statement is executed, and not what it does. -/
theorem step_eq_some (hstep : step i s statement = some (s', t)) :
    s'.committed = statement.written s.committed ∧ t = statement.after s.committed := by
  cases statement with
  | lock row next =>
    obtain ⟨hnext, hcommitted, -⟩ := step_lock_eq_some hstep
    exact ⟨hcommitted, hnext⟩
  | read next | commit write next | rollback next =>
    cases hstep
    exact ⟨rfl, rfl⟩

/-- A transaction keeps its locks while it runs, and gets those it asks for. -/
theorem holder_of_lock {row : σ → Option κ} {next : σ → τ}
    (hstep : step i s (.lock row next) = some (s', t)) :
    (∀ k, s.holder k = some i → s'.holder k = some i) ∧
      ∀ k, row s.committed = some k → s'.holder k = some i := by
  obtain ⟨-, -, ⟨hrow, hholder⟩ | ⟨k', hrow, -, hholder⟩⟩ := step_lock_eq_some hstep
  · rw [hholder, hrow]
    exact ⟨fun _ => id, nofun⟩
  · rw [hholder, hrow]
    refine ⟨fun k hk => ?_, fun k hk => ?_⟩
    · by_cases hkk : k = k'
      · exact hkk ▸ Function.update_self ..
      · exact (Function.update_of_ne hkk ..).trans hk
    · cases hk
      exact Function.update_self ..

/-- The transaction writes no row that it does not hold, as far as `content` tells. -/
def WritesHeld {ρ : Type w} (content : κ → σ → ρ) (i : Nat) (s : Locked σ κ) :
    Statement σ κ τ → Prop
  | .commit write _ => ∀ k, s.holder k ≠ some i → content k (write s.committed) = content k s.committed
  | _ => True

/-- A row that one transaction holds stays locked and unchanged while another one
    takes a step. -/
theorem step_frame {ρ : Type w} {content : κ → σ → ρ} (hwrites : WritesHeld content i s statement)
    (hstep : step i s statement = some (s', t)) (hheld : s.holder k = some j) (hij : j ≠ i) :
    s'.holder k = some j ∧ content k s'.committed = content k s.committed := by
  have hother : s.holder k ≠ some i := by
    rw [hheld]
    exact fun h => hij (Option.some.inj h)
  have hrelease : release i s.holder k = some j := by
    rw [release, if_neg hother, hheld]
  cases statement with
  | read next =>
    cases hstep
    exact ⟨hheld, rfl⟩
  | lock row next =>
    obtain ⟨-, hcommitted, ⟨-, hholder⟩ | ⟨k', -, hfree, hholder⟩⟩ := step_lock_eq_some hstep
    · rw [hcommitted, hholder]
      exact ⟨hheld, rfl⟩
    · rw [hcommitted, hholder]
      have hne : k ≠ k' := by
        rintro rfl
        rcases hfree with h | h
        · cases hheld.symm.trans h
        · exact hother h
      exact ⟨(Function.update_of_ne hne ..).trans hheld, rfl⟩
  | commit write next =>
    cases hstep
    exact ⟨hrelease, hwrites k hother⟩
  | rollback next =>
    cases hstep
    exact ⟨hrelease, rfl⟩

end Locked

end Library
