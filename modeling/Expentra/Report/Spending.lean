-- SUMMARY: The export rows of the spending report.
import Expentra.Budget.Period
import Expentra.Database.Store
import Expentra.Authorization.AccessPolicy

/-!
# The spending report

`getExpenseExportRows`: the expenses of a period in the statuses of the report, as
far as the list visibility of the user reaches.
-/

namespace Expentra

open Library

inductive ReportPeriodMode where
  | MONTH
  | QUARTER
  | YEAR
deriving DecidableEq, Repr

inductive ReportSpendMode where
  | SETTLED
  | PIPELINE
  | APPROVED_UNPAID
deriving DecidableEq, Repr

structure SpendingReportQuery where
  year : Int
  periodMode : Option ReportPeriodMode
  month : Option Int
  quarter : Option Int
  departmentReference : Option String
  category : Option ExpenseCategory
  includePipeline : Bool
  mode : Option ReportSpendMode
deriving DecidableEq, Repr

/-- A row of the export. -/
structure ExpenseExportRow where
  expenseReference : String
  title : String
  amount : Int
  category : ExpenseCategory
  status : ExpenseStatus
  userReference : String
  userEmail : String
  departmentReference : Option String
  submittedAt : Option Instant
  approvedAt : Option Instant
  reimbursedAt : Option Instant
deriving DecidableEq, Repr

namespace ReportService

/-- Approved/reimbursed only: default spending report scope. -/
def REPORT_SETTLED_STATUSES : List ExpenseStatus := [.APPROVED, .REIMBURSED]

/-- Includes in-flight pipeline statuses when `includePipeline` / mode=pipeline. -/
def REPORT_PIPELINE_STATUSES : List ExpenseStatus :=
  [.SUBMITTED, .UNDER_REVIEW, .APPROVED, .REIMBURSED]

/-- Approved but not yet reimbursed: unpaid liability for the period. -/
def REPORT_APPROVED_UNPAID_STATUSES : List ExpenseStatus := [.APPROVED]

def resolveReportStatuses (mode : Option ReportSpendMode) (includePipeline : Bool) :
    List ExpenseStatus :=
  match mode with
  | some .PIPELINE => REPORT_PIPELINE_STATUSES
  | some .APPROVED_UNPAID => REPORT_APPROVED_UNPAID_STATUSES
  | some .SETTLED => REPORT_SETTLED_STATUSES
  | none => if includePipeline then REPORT_PIPELINE_STATUSES else REPORT_SETTLED_STATUSES

/-- A report has no drafts. -/
theorem ne_draft_of_mem_resolveReportStatuses {mode : Option ReportSpendMode} {includePipeline : Bool}
    {status : ExpenseStatus} (h : status ∈ resolveReportStatuses mode includePipeline) :
    status ≠ .DRAFT := by
  rintro rfl
  unfold resolveReportStatuses at h
  split at h
  · exact absurd h (by decide)
  · exact absurd h (by decide)
  · exact absurd h (by decide)
  · split at h <;> exact absurd h (by decide)

def resolveReportPeriodRange (query : SpendingReportQuery) : Instant × Instant :=
  match query.periodMode.getD .MONTH with
  | .YEAR => BudgetPeriod.budgetYearRange query.year
  | .QUARTER => BudgetPeriod.budgetQuarterRange query.year (query.quarter.getD 1)
  | .MONTH => BudgetPeriod.budgetPeriodRange query.year (query.month.getD 1)

/-- `resolveDepartmentFilter`, without the option of the dashboard. An empty reference
    is no reference. -/
def resolveDepartmentFilter (db : Db) (query : SpendingReportQuery) :
    Except HttpException (Option Nat) :=
  match query.departmentReference with
  | none => .ok none
  | some reference =>
    if reference = "" then .ok none
    else (findEntityByReference (db.departments.rows.filter (·.deletedAt.isNone)) (·.reference)
      reference "Department not found").map (fun department => some department.id)

/-- `applyExpenseOwnerVisibility` -/
def isVisible (authUser : AuthUser) (row : Expense) : Bool :=
  match ExpenseAccessPolicy.expenseListVisibility authUser with
  | .all => true
  | .ownAndSubmitted => row.userId = authUser.id || row.status.isPending
  | .own => row.userId = authUser.id

/-- What the query of the report asks of a row, the visibility apart. The owner is
    joined by an inner join. -/
def isSelected (db : Db) (query : SpendingReportQuery) (departmentId : Option Nat) (row : Expense) :
    Bool :=
  let (start, end_) := resolveReportPeriodRange query
  (db.users.find? row.userId).any (fun expenseOwner =>
    departmentId.all (expenseOwner.departmentId = some ·)) &&
  (resolveReportStatuses query.mode query.includePipeline).contains row.status &&
  row.submittedAt.any (fun submittedAt => start ≤ submittedAt && submittedAt < end_) &&
  query.category.all (row.category = ·)

/-- `ORDER BY submitted_at DESC`, of rows that have it. -/
def bySubmittedAt (left right : Expense) : Prop :=
  right.submittedAt.getD 0 ≤ left.submittedAt.getD 0

instance : DecidableRel bySubmittedAt := fun _ _ => inferInstanceAs (Decidable (_ ≤ _))

/-- The expenses `getExpenseExportRows` loads, with their owners. -/
def scopedExpenses (db : Db) (authUser : AuthUser) (query : SpendingReportQuery) :
    Except HttpException (List ExpenseEntity) := do
  let departmentId ← resolveDepartmentFilter db query
  let rows := db.expenses.rows.filter (fun row =>
    isSelected db query departmentId row && isVisible authUser row)
  pure ((rows.insertionSort bySubmittedAt).map db.withRelations)

def toExportRow (db : Db) (expense : ExpenseEntity) : ExpenseExportRow where
  expenseReference := expense.reference
  title := expense.title
  amount := expense.amount.val
  category := expense.category
  status := expense.status
  userReference := (expense.user.map (·.reference)).getD ""
  userEmail := (expense.user.map (·.email)).getD ""
  departmentReference :=
    (expense.user.bind (fun user => db.departmentRelation user.departmentId)).map (·.reference)
  submittedAt := expense.submittedAt.toOption
  approvedAt := expense.approvedAt.toOption
  reimbursedAt := expense.reimbursedAt.toOption

def getExpenseExportRows (db : Db) (authUser : AuthUser) (query : SpendingReportQuery) :
    Except HttpException (List ExpenseExportRow) :=
  (scopedExpenses db authUser query).map (List.map (toExportRow db))

end ReportService

end Expentra
