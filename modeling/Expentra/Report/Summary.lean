-- SUMMARY: The summary of the spending report and its breakdowns, computed by queries of their own.
import Expentra.Audit.Log
import Expentra.Budget.Summaries
import Expentra.Export.Listings
import Expentra.Policy.Engine
import Expentra.Report.Payout
import Expentra.Report.Periods

/-!
# The summary of the spending report

Each part of the report is a query of its own over the expenses in scope: totals, the rows by
status, category, department and owner, and the totals of the two periods it compares with.
-/

namespace Expentra

open Library

structure UserNames where
  firstName : Option String
  lastName : Option String
deriving DecidableEq

/-- The database, with the tables and columns that only the report reads. -/
structure Reporting where
  db : Db
  departmentColumns : Nat → DepartmentColumns
  userNames : Nat → UserNames
  audits : List AuditLog
  policies : List ExpensePolicy

structure CategorySpendingRow extends Totals where
  category : ExpenseCategory
deriving DecidableEq

structure StatusSpendingRow extends Totals where
  status : ExpenseStatus
deriving DecidableEq

structure DepartmentSpendingRow extends Totals where
  departmentReference : String
  departmentName : String
  departmentCode : String
deriving DecidableEq

structure TopSpenderRow extends Totals where
  userReference : String
  userEmail : String
  firstName : Option String
  lastName : Option String
  departmentName : Option String
deriving DecidableEq

structure PeriodComparisonPoint extends Totals where
  year : Int
  month : Option Int
  quarter : Option Int
  amountChangePercent : Option Float
  countChangePercent : Option Float

structure SpendComparisonSummary where
  monthOverMonth : PeriodComparisonPoint
  yearOverYear : PeriodComparisonPoint

structure ReimbursementSlaSummary where
  avgDays : Option Float
  reimbursedCount : Nat

structure PolicyViolationByPolicy where
  policyReference : String
  policyName : Option String
  count : Nat
deriving DecidableEq

structure PolicyViolationSummary where
  exceptionCount : Nat
  expenseCount : Nat
  byPolicy : List PolicyViolationByPolicy
deriving DecidableEq

structure SpendingSummaryReport extends Totals where
  year : Int
  periodMode : ReportPeriodMode
  month : Option Int
  quarter : Option Int
  byStatus : List StatusSpendingRow
  organizationBudget : BudgetSummaries.OrganizationBudgetSummary
  pendingPayout : PendingPayoutSummary
  reimbursementSla : ReimbursementSlaSummary
  comparison : SpendComparisonSummary
  policyViolations : PolicyViolationSummary
  topSpenders : List TopSpenderRow

/-- The part of a query that names its period. -/
def SpendingReportQuery.period (query : SpendingReportQuery) : ReportPeriod :=
  ⟨query.year, query.periodMode, query.month, query.quarter⟩

/-- `{ ...query, ...period }` -/
def SpendingReportQuery.withPeriod (query : SpendingReportQuery) (period : ReportPeriod) :
    SpendingReportQuery :=
  { query with
    year := period.year
    periodMode := period.periodMode
    month := period.month
    quarter := period.quarter }

namespace ReportService

def ORGANIZATION_BUDGET_NEAR_LIMIT_PERCENT : Float := 80

def TOP_SPENDERS_LIMIT : Nat := 10

def percentChange (current previous : Int) : Option Float :=
  if previous = 0 then if current = 0 then some 0 else none
  else some (Js.round ((Float.ofInt current - Float.ofInt previous) / Float.ofInt previous * 1000) / 10)

/-! ## Scope -/

/-- The rows of `scopedExpenseQuery`. -/
def scopedRows (db : Db) (authUser : AuthUser) (query : SpendingReportQuery)
    (departmentId : Option Nat) : List Expense :=
  db.expenses.rows.filter (fun row => isSelected db query departmentId row && isVisible authUser row)

/-- `INNER JOIN users` -/
def withOwners (db : Db) (rows : List Expense) : List (Expense × User) :=
  rows.filterMap (fun row => (db.users.find? row.userId).map (fun owner => (row, owner)))

/-- `resolveDepartmentFilter` with `restrictToUserDepartment`. -/
def resolveOwnDepartmentFilter (db : Db) (authUser : AuthUser) (query : SpendingReportQuery) :
    Except HttpException (Option Nat) :=
  if query.departmentReference.any (· ≠ "") then resolveDepartmentFilter db query
  else if ExpenseAccessPolicy.expenseListVisibility authUser ≠ .all then
    .ok ((db.users.find? authUser.id).bind (·.departmentId))
  else .ok none

/-! ## Breakdowns -/

def byStatus (rows : List Expense) : List StatusSpendingRow :=
  ((groupBy (·.status) amountOf rows).insertionSort (fun left right =>
    left.key.position ≤ right.key.position)).map (fun g => ⟨g.toTotals, g.key⟩)

def byCategory (rows : List Expense) : List CategorySpendingRow :=
  ((groupBy (·.category) amountOf rows).insertionSort byTotal).map (fun g => ⟨g.toTotals, g.key⟩)

structure DepartmentGroup where
  reference : String
  name : String
  code : String
deriving DecidableEq

/-- The columns of the joined department, unless there is none. -/
def departmentGroup (r : Reporting) (row : Expense × User) : Option DepartmentGroup :=
  (r.db.departmentRelation row.2.departmentId).map (fun department =>
    ⟨department.reference, (r.departmentColumns department.id).name,
      (r.departmentColumns department.id).code⟩)

/-- Groups without a department are dropped after the query. -/
def byDepartment (r : Reporting) (rows : List (Expense × User)) : List DepartmentSpendingRow :=
  ((groupBy (departmentGroup r) (fun row => amountOf row.1) rows).insertionSort byTotal).filterMap
    (fun g => (g.key.filter (·.reference ≠ "")).map (fun department =>
      ⟨g.toTotals, department.reference, department.name, department.code⟩))

structure SpenderGroup where
  reference : String
  email : String
  names : UserNames
  departmentName : Option String
deriving DecidableEq

def spenderGroup (r : Reporting) (row : Expense × User) : SpenderGroup where
  reference := row.2.reference
  email := row.2.email
  names := r.userNames row.2.id
  departmentName := (r.db.departmentRelation row.2.departmentId).map (fun department =>
    (r.departmentColumns department.id).name)

def topSpenders (r : Reporting) (rows : List (Expense × User)) : List TopSpenderRow :=
  (((groupBy (spenderGroup r) (fun row => amountOf row.1) rows).insertionSort byTotal).take
    TOP_SPENDERS_LIMIT).map (fun g => ⟨g.toTotals, g.key.reference, g.key.email,
      g.key.names.firstName, g.key.names.lastName, g.key.departmentName⟩)

def getSpendingByCategory (r : Reporting) (authUser : AuthUser) (query : SpendingReportQuery) :
    Except HttpException (List CategorySpendingRow) := do
  let departmentId ← resolveDepartmentFilter r.db query
  pure (byCategory (scopedRows r.db authUser query departmentId))

def getSpendingByDepartment (r : Reporting) (authUser : AuthUser) (query : SpendingReportQuery) :
    Except HttpException (List DepartmentSpendingRow) := do
  let departmentId ← resolveOwnDepartmentFilter r.db authUser query
  pure (byDepartment r (withOwners r.db (scopedRows r.db authUser query departmentId)))

/-! ## The parts of the summary -/

def getPeriodTotals (db : Db) (authUser : AuthUser) (query : SpendingReportQuery)
    (departmentId : Option Nat) : Totals :=
  Totals.of amountOf (scopedRows db authUser query departmentId)

/-- The point of a period, against the totals of the report. -/
def comparisonPoint (db : Db) (authUser : AuthUser) (query : SpendingReportQuery)
    (departmentId : Option Nat) (current : Totals) (period : ReportPeriod) : PeriodComparisonPoint :=
  let totals := getPeriodTotals db authUser (query.withPeriod period) departmentId
  { toTotals := totals
    year := period.year
    month := period.month
    quarter := period.quarter
    amountChangePercent := percentChange current.total totals.total
    countChangePercent := percentChange current.count totals.count }

def getSpendComparison (db : Db) (authUser : AuthUser) (query : SpendingReportQuery)
    (departmentId : Option Nat) (current : Totals) : SpendComparisonSummary where
  monthOverMonth :=
    comparisonPoint db authUser query departmentId current (previousReportPeriod query.period)
  yearOverYear :=
    comparisonPoint db authUser query departmentId current (yearAgoReportPeriod query.period)

/-- The time between approval and reimbursement, of what was reimbursed in the period. -/
def slaTimes (db : Db) (authUser : AuthUser) (query : SpendingReportQuery)
    (departmentId : Option Nat) : List Int :=
  let (start, end_) := resolveReportPeriodRange query
  (db.expenses.rows.filter (fun row =>
    (db.users.find? row.userId).any (fun expenseOwner =>
      departmentId.all (expenseOwner.departmentId = some ·)) &&
    row.status = .REIMBURSED &&
    row.reimbursedAt.any (fun reimbursedAt => start ≤ reimbursedAt && reimbursedAt < end_) &&
    query.category.all (row.category = ·) && isVisible authUser row)).filterMap (fun row =>
      row.approvedAt.bind (fun approvedAt => row.reimbursedAt.map (· - approvedAt)))

/-- The average is `NULL` when there is nothing to average. -/
def getReimbursementSla (db : Db) (authUser : AuthUser) (query : SpendingReportQuery)
    (departmentId : Option Nat) : ReimbursementSlaSummary :=
  let times := slaTimes db authUser query departmentId
  { avgDays :=
      if times.length = 0 then none
      else some (Js.round (Float.ofInt times.sum / Float.ofInt (Date.msPerDay * times.length) * 10) / 10)
    reimbursedCount := times.length }

def getOrganizationBudget (cfg : Config) (db : Db) (year : Int) :
    Except HttpException BudgetSummaries.OrganizationBudgetSummary := do
  let period ← BudgetPeriod.budgetYearRangeInTimeZone year cfg.budgetTimeZone
  let row := BudgetSummaries.fetchOrganizationBudgetSummary db year period
  let committedAmount := row.pipelineAmount + row.reimbursedAmount
  let utilizationPercent :=
    if 0 < row.amountLimit then
      Js.round (Float.ofInt committedAmount / Float.ofInt row.amountLimit * 10000) / 100
    else 0
  let isOverBudget : Bool := row.amountLimit < committedAmount
  pure {
    year
    amountLimit := row.amountLimit
    committedAmount
    reimbursedAmount := row.reimbursedAmount
    remainingAmount := max 0 (row.amountLimit - committedAmount)
    overBudgetAmount := max 0 (committedAmount - row.amountLimit)
    utilizationPercent
    isOverBudget
    isNearLimit := 0 < row.amountLimit && !isOverBudget &&
      ORGANIZATION_BUDGET_NEAR_LIMIT_PERCENT ≤ utilizationPercent
    departmentCount := row.departmentCount
    hasBudget := 0 < row.departmentCount && 0 < row.amountLimit }

/-- The violations in scope, each with its expense. -/
def violationRows (r : Reporting) (authUser : AuthUser) (query : SpendingReportQuery)
    (departmentId : Option Nat) : List (AuditLog × Expense) :=
  let (start, end_) := resolveReportPeriodRange query
  r.audits.flatMap (fun audit =>
    (r.db.expenses.rows.filter (fun row =>
      row.reference = audit.resourceReference &&
      (r.db.users.find? row.userId).any (fun expenseOwner =>
        departmentId.all (expenseOwner.departmentId = some ·)) &&
      audit.action = .POLICY_VIOLATION && audit.resourceType = .EXPENSE &&
      start ≤ audit.createdAt && audit.createdAt < end_ &&
      isVisible authUser row && query.category.all (row.category = ·))).map (fun row => (audit, row)))

def policyReferenceOf (audit : AuditLog) : String :=
  (audit.metadata.string? "policyReference").getD "unknown"

/-- The counts by policy: one group for each reference, the greatest first. -/
def getPolicyViolationSummary (r : Reporting) (authUser : AuthUser) (query : SpendingReportQuery)
    (departmentId : Option Nat) : PolicyViolationSummary :=
  let rows := violationRows r authUser query departmentId
  let nameByRef : String → Option String := fun reference =>
    (r.policies.find? (fun policy => policy.reference = reference)).map (·.name)
  { exceptionCount := rows.length
    expenseCount := (rows.map (·.2.reference)).dedup.length
    byPolicy := ((groupBy (fun row => policyReferenceOf row.1) (fun _ => 1) rows).map (fun g =>
      (⟨g.key, if g.key = "unknown" then none else nameByRef g.key, g.count⟩ :
        PolicyViolationByPolicy))).insertionSort (fun left right => right.count ≤ left.count) }

/-! ## The summary -/

def getSpendingSummary (cfg : Config) (now : Instant) (r : Reporting) (authUser : AuthUser)
    (query : SpendingReportQuery) : Except HttpException SpendingSummaryReport := do
  let departmentId ← resolveDepartmentFilter r.db query
  let rows := scopedRows r.db authUser query departmentId
  let totals := Totals.of amountOf rows
  let organizationBudget ← getOrganizationBudget cfg r.db query.year
  let periodMode := resolveReportPeriodMode query.period
  pure {
    toTotals := totals
    year := query.year
    periodMode
    month := if periodMode = .MONTH then query.month else none
    quarter := if periodMode = .QUARTER then query.quarter else none
    byStatus := byStatus rows
    organizationBudget
    pendingPayout := getPendingPayoutSummary r.db now
    reimbursementSla := getReimbursementSla r.db authUser query departmentId
    comparison := getSpendComparison r.db authUser query departmentId totals
    policyViolations := getPolicyViolationSummary r authUser query departmentId
    topSpenders := topSpenders r (withOwners r.db rows) }

end ReportService

end Expentra
