-- SUMMARY: Checks and loading shared by the expense services, and the save that every transition ends in.
import Expentra.Budget.Service
import Expentra.Authorization.AccessPolicy

/-!
# Expense mutation support

The assertions on a draft, the loading of an expense for a mutation, and
`persistTransition`: save the expense and hand the snapshots before and after to
the budget synchronisation, as every transition does.
-/

namespace Expentra

open Library

namespace ExpenseMutationSupport

def assertNonEmptyTitle (title : String) : Except HttpException Unit :=
  if Js.trim title = "" then .error (.badRequest "Expense title cannot be empty") else .ok ()

/-- `assertPositiveAmount`, for the integers the request validation lets through. -/
def assertPositiveAmount (amount : Int) : Except HttpException Amount :=
  if h : 0 < amount then .ok ⟨amount, h⟩
  else .error (.badRequest "Expense amount must be a positive whole number in minor units")

def assertIncurredAt (cfg : Config) (now : Instant) (incurredAt : Option Instant) :
    Except HttpException Unit :=
  match incurredAt with
  | none => .ok ()
  | some incurredAt =>
    if BudgetPeriod.resolveBudgetYear incurredAt cfg.budgetTimeZone <
        BudgetPeriod.resolveBudgetYear now cfg.budgetTimeZone then
      .error (.badRequest "Incurred date cannot be before the current year")
    else .ok ()

def draftVerb : ExpenseDraftMutation → String
  | .delete => "deleted"
  | .submit => "submitted"
  | .modify => "modified"

/-- The message of `assertDraftStatus` for a status other than DRAFT. -/
def draftStatusRefusal (status : ExpenseStatus) (action : ExpenseDraftMutation) : String :=
  match action, status with
  | .submit, .SUBMITTED => "Expense has already been submitted"
  | .delete, .SUBMITTED => "Cannot delete an expense that has been submitted for approval"
  | .delete, .APPROVED => "Cannot delete an approved expense"
  | .delete, .REJECTED => "Cannot delete a rejected expense"
  | _, _ => "Only draft expenses can be " ++ draftVerb action

def assertDraftStatus (status : ExpenseStatus) (action : ExpenseDraftMutation) :
    Except HttpException Unit :=
  if status = .DRAFT then .ok () else .error (.badRequest (draftStatusRefusal status action))

theorem assertDraftStatus_eq_ok {status : ExpenseStatus} {action : ExpenseDraftMutation} {u : Unit} :
    assertDraftStatus status action = .ok u ↔ status = .DRAFT := by
  unfold assertDraftStatus
  split <;> simp_all

def assertCanMutateExpenseDraft (authUser : AuthUser) (expense : ExpenseEntity)
    (action : ExpenseDraftMutation) (ownerOnly : Bool) : Except HttpException Unit :=
  if ExpenseAccessPolicy.canMutateExpenseDraft authUser expense action ownerOnly then .ok ()
  else .error (ExpenseAccessPolicy.mutateDraftRefusal action ownerOnly)

theorem assertCanMutateExpenseDraft_eq_ok {authUser : AuthUser} {expense : ExpenseEntity}
    {action : ExpenseDraftMutation} {ownerOnly : Bool} {u : Unit} :
    assertCanMutateExpenseDraft authUser expense action ownerOnly = .ok u ↔
      ExpenseAccessPolicy.canMutateExpenseDraft authUser expense action ownerOnly = true := by
  unfold assertCanMutateExpenseDraft
  split <;> simp_all

/-- The row of a reference. -/
def findExpense (db : Db) (reference : String) : Except HttpException Expense :=
  findEntityByReference db.expenses.rows (·.reference) reference "Expense not found"

/-- The locked row, without relations. -/
def loadExpenseForMutation (db : Db) (reference : String) : Except HttpException ExpenseEntity :=
  (findExpense db reference).map Db.withoutRelations

theorem loadExpenseForMutation_eq_ok {db : Db} {reference : String} {expense : ExpenseEntity}
    (h : loadExpenseForMutation db reference = .ok expense) :
    ∃ row, findExpense db reference = .ok row ∧ row ∈ db.expenses ∧
      expense = row.toEntity none none := by
  unfold loadExpenseForMutation at h
  cases hrow : findExpense db reference with
  | error e => simp [hrow, Except.map] at h
  | ok row =>
    simp only [hrow, Except.map, Except.ok.injEq] at h
    exact ⟨row, rfl, (findEntityByReference_eq_ok hrow).1, h.symm⟩

end ExpenseMutationSupport

/-- `ExpenseQueryService.findOne`: the expense, if the user may read it. -/
def findReadableExpense (db : Db) (authUser : AuthUser) (reference : String) :
    Except HttpException ExpenseEntity :=
  match ExpenseMutationSupport.findExpense db reference with
  | .error e => .error e
  | .ok row =>
    let expense := db.withRelations row
    if ExpenseAccessPolicy.canReadExpense authUser expense then .ok expense
    else .error (.forbidden "You do not have access to this expense")

theorem findReadableExpense_eq_ok {db : Db} {authUser : AuthUser} {reference : String}
    {expense : ExpenseEntity} :
    findReadableExpense db authUser reference = .ok expense ↔
      ∃ row, ExpenseMutationSupport.findExpense db reference = .ok row ∧
        expense = db.withRelations row ∧
        ExpenseAccessPolicy.canReadExpense authUser expense = true := by
  unfold findReadableExpense
  cases hrow : ExpenseMutationSupport.findExpense db reference with
  | error e => simp
  | ok row =>
    simp only [Except.ok.injEq, exists_eq_left']
    split
    · rename_i hread
      simp only [Except.ok.injEq, eq_comm (a := db.withRelations row)]
      exact ⟨fun h => ⟨h, h ▸ hread⟩, And.left⟩
    · rename_i hread
      simp only [reduceCtorEq, false_iff, not_and]
      rintro rfl
      exact hread

/-! ## Saving a transition -/

/-- Save the expense, then synchronise the budgets from the snapshot taken before
    the change to the saved one. -/
def persistTransition (timeZone : TimeZone) (before : ExpenseBudgetSnapshot)
    (expense : ExpenseEntity) : Tx Unit := do
  saveExpense expense
  syncCommittedAmountForExpenseTransition timeZone (some before)
    (some (toExpenseBudgetSnapshot expense))

/-- A saved transition replaces one row and shifts the budgets. -/
theorem persistTransition_ok {timeZone : TimeZone} {before : ExpenseBudgetSnapshot}
    {expense : ExpenseEntity} {db db' : Db} {u : Unit}
    (h : persistTransition timeZone before expense db = .ok (u, db')) :
    ∃ row budgets, db.expenses.find? expense.id = some row ∧
      db' = { db with expenses := db.expenses.replace (row.save expense), budgets := budgets } ∧
      Shifted (committedDelta timeZone db (some before) (some (toExpenseBudgetSnapshot expense)))
        (reimbursedDelta timeZone db (some before) (some (toExpenseBudgetSnapshot expense)))
        db.budgets budgets := by
  obtain ⟨_, db₁, hsave, hsync⟩ := Transaction.bind_eq_ok.1 h
  obtain ⟨row, hrow, rfl⟩ := saveExpense_eq_ok.1 hsave
  obtain ⟨budgets, rfl, hshift⟩ := syncCommittedAmountForExpenseTransition_ok hsync
  exact ⟨row, budgets, hrow, rfl, hshift⟩

end Expentra
