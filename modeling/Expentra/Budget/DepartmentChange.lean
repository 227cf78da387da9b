-- SUMMARY: The recalculation of committed amounts when a user moves between departments.
import Expentra.Budget.Reconciliation

/-!
# Moves between departments

Expenses that were submitted without a department count in the department of their
owner. When the owner moves, the years of these expenses are recalculated for the old
and the new department, inside the transaction of the move.
-/

namespace Expentra.BudgetService

open Library

/-- `recalculateCommittedAmountForDepartmentYear` inside a transaction. -/
def recalculateCommittedAmountForDepartmentYear (cfg : Config) (departmentId : Nat) (year : Int) :
    Tx Unit := do
  Transaction.lift (assertValidYear year)
  let period ← Transaction.lift (BudgetPeriod.budgetYearRangeInTimeZone year cfg.budgetTimeZone)
  let committedAmount ←
    Transaction.read (Reconciliation.committedSum · (departmentId, year) period)
  let row ← Transaction.read (fun db =>
    (db.budgets.find? (departmentId, year)).filter (·.deletedAt.isNone))
  match row with
  | none => pure ()
  | some budget =>
    let updated ← Transaction.getOrThrow
      (budget.withCounters committedAmount.toNat budget.reimbursedAmount) (.queryFailed "22003")
    Transaction.write (fun db => { db with budgets := db.budgets.replace updated })

/-- The loop over departments and years. -/
def recalculateCommittedAmounts (cfg : Config) : List (Nat × Int) → Tx Unit
  | [] => pure ()
  | (departmentId, year) :: keys => do
    recalculateCommittedAmountForDepartmentYear cfg departmentId year
    recalculateCommittedAmounts cfg keys

/-- The years of the submitted expenses of a user that have no department. -/
def undepartmentedYears (cfg : Config) (db : Db) (userId : Nat) : List Int :=
  (db.expenses.rows.filterMap (fun e =>
    if e.userId = userId && e.departmentId = none && countsTowardCommittedBudget e.status then
      e.submittedAt.map (BudgetPeriod.resolveBudgetYear · cfg.budgetTimeZone)
    else none)).dedup

def syncCommittedAmountForUserDepartmentChange (cfg : Config) (userId : Nat)
    (previousDepartmentId nextDepartmentId : Option Nat) : Tx Unit :=
  if previousDepartmentId = nextDepartmentId then pure ()
  else do
    let years ← Transaction.read (undepartmentedYears cfg · userId)
    recalculateCommittedAmounts cfg
      ((previousDepartmentId.toList ++ nextDepartmentId.toList).flatMap (fun departmentId =>
        years.map (fun year => (departmentId, year))))

section Specs

variable {cfg : Config} {db db' : Db} {u : Unit}

theorem recalculateCommittedAmountForDepartmentYear_ok {departmentId : Nat} {year : Int}
    (h : recalculateCommittedAmountForDepartmentYear cfg departmentId year db = .ok (u, db')) :
    ∃ budgets, db' = { db with budgets := budgets } := by
  simp only [recalculateCommittedAmountForDepartmentYear, Transaction.lift_bind_eq_ok,
    Transaction.read_bind] at h
  obtain ⟨_, -, _, -, h⟩ := h
  cases hrow : (db.budgets.find? (departmentId, year)).filter (·.deletedAt.isNone) with
  | none =>
    rw [hrow] at h
    obtain ⟨-, rfl⟩ := Transaction.pure_eq_ok.1 h
    exact ⟨db.budgets, rfl⟩
  | some budget =>
    rw [hrow] at h
    obtain ⟨updated, -, h⟩ := Transaction.getOrThrow_bind_eq_ok.1 h
    cases Transaction.write_eq_ok.1 h
    exact ⟨_, rfl⟩

theorem recalculateCommittedAmounts_ok {keys : List (Nat × Int)}
    (h : recalculateCommittedAmounts cfg keys db = .ok (u, db')) :
    ∃ budgets, db' = { db with budgets := budgets } := by
  induction keys generalizing db with
  | nil =>
    obtain ⟨-, rfl⟩ := Transaction.pure_eq_ok.1 h
    exact ⟨db.budgets, rfl⟩
  | cons key keys ih =>
    obtain ⟨_, _, hfirst, hrest⟩ := Transaction.bind_eq_ok.1 h
    obtain ⟨_, rfl⟩ := recalculateCommittedAmountForDepartmentYear_ok hfirst
    obtain ⟨budgets, rfl⟩ := ih hrest
    exact ⟨budgets, rfl⟩

/-- A move changes no other table than the budgets. -/
theorem syncCommittedAmountForUserDepartmentChange_ok {userId : Nat}
    {previousDepartmentId nextDepartmentId : Option Nat}
    (h : syncCommittedAmountForUserDepartmentChange cfg userId previousDepartmentId nextDepartmentId
      db = .ok (u, db')) :
    ∃ budgets, db' = { db with budgets := budgets } := by
  unfold syncCommittedAmountForUserDepartmentChange at h
  split at h
  · obtain ⟨-, rfl⟩ := Transaction.pure_eq_ok.1 h
    exact ⟨db.budgets, rfl⟩
  · exact recalculateCommittedAmounts_ok h

end Specs

end Expentra.BudgetService
