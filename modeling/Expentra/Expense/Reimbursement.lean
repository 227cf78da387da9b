-- SUMMARY: Reimbursement of approved expenses.
import Expentra.Expense.Support

/-!
# The reimbursement service
-/

namespace Expentra.ExpenseReimbursement

open Library ExpenseMutationSupport

def assertCanReimburseExpense (authUser : AuthUser) : Except HttpException Unit :=
  if hasPermission authUser .REIMBURSE .EXPENSE none then .ok ()
  else .error (.forbidden "You do not have permission to mark expenses as reimbursed")

/-- `PAY-`, the day, and the last six characters of the reference. -/
def buildReimbursementReference (expenseReference : String) (reimbursedAt : Instant) : String :=
  let chars := expenseReference.toList.filter (· ≠ '-')
  let suffix := Js.toUpperCase (String.ofList (chars.drop (chars.length - 6)))
  "PAY-" ++ Date.compactDay reimbursedAt ++ "-" ++ suffix

/-- The assignments of `reimburse`. -/
def reimbursed (expense : ExpenseEntity) (reimbursedAt : Instant) : ExpenseEntity :=
  { expense with
    status := .REIMBURSED
    reimbursedAt := .value reimbursedAt
    reimbursementReference := .value (buildReimbursementReference expense.reference reimbursedAt) }

def reimburse (cfg : Config) (now : Instant) (authUser : AuthUser) (reference : String) :
    Tx Unit := do
  Transaction.lift (assertCanReimburseExpense authUser)
  let expense ← Transaction.query (loadExpenseForMutation · reference)
  Transaction.require (expense.status = .APPROVED)
    (.badRequest "Only approved expenses can be marked as reimbursed")
  persistTransition cfg.budgetTimeZone (toExpenseBudgetSnapshot expense) (reimbursed expense now)
  publishTransitions [.expenseReimbursed] expense.id now

/-- A reimbursed expense was approved. -/
theorem reimburse_ok {cfg : Config} {now : Instant} {authUser : AuthUser} {reference : String}
    {db db' : Db} {u : Unit} (h : reimburse cfg now authUser reference db = .ok (u, db')) :
    ∃ row db₁, row ∈ db.expenses ∧ row.status = .APPROVED ∧
      persistTransition cfg.budgetTimeZone (toExpenseBudgetSnapshot (row.toEntity none none))
        (reimbursed (row.toEntity none none) now) db = .ok ((), db₁) ∧
      db' = { db₁ with outbox := db₁.outbox ++ transitionEvents [.expenseReimbursed] row.id now } := by
  simp only [reimburse, Transaction.lift_bind_eq_ok, Transaction.query_bind_eq_ok,
    Transaction.require_bind_eq_ok] at h
  obtain ⟨_, -, expense, hload, hstatus, h⟩ := h
  obtain ⟨row, -, hmem, rfl⟩ := loadExpenseForMutation_eq_ok hload
  obtain ⟨_, db₁, hpersist, hpublish⟩ := Transaction.bind_eq_ok.1 h
  obtain ⟨-, rfl⟩ := (publishTransitions_eq_ok (List.nodup_singleton _)).1 hpublish
  exact ⟨row, db₁, hmem, hstatus, hpersist, rfl⟩

end Expentra.ExpenseReimbursement
