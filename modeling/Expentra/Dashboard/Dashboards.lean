-- SUMMARY: The personal dashboard and the dashboard of a team: totals of a period, and the spend of its parts.
import Expentra.Department.PendingCounts
import Expentra.Report.Yearly

/-!
# Dashboards

The totals of a period and its spend over time are separate queries. A month is shown by
weeks, a quarter and a year by months; the database tells them by the clock of its session,
the service by the numbers it expects.
-/

namespace Expentra

open Library

/-- The database, with the columns that only dashboards read, by the id of the expense. -/
structure Dashboards where
  db : Db
  createdAt : Nat → Instant
  updatedAt : Nat → Instant

structure DashboardSpendPeriodRow extends Totals where
  period : Int
  label : String
  categoryAmounts : CategoryAmounts
deriving DecidableEq

structure DashboardReimbursementStats where
  avgDays : Option Float
  reimbursedCount : Nat

structure DashboardPeriodTrend where
  previous : Totals
  totalAmountChangePercent : Option Float
  expenseCountChangePercent : Option Float
  label : String

inductive SpendGranularity where
  | month
  | week
deriving DecidableEq, Repr

structure PersonalDashboard extends Totals where
  year : Int
  month : Option Int
  quarter : Option Int
  periodLabel : String
  pendingReimbursement : Totals
  inApproval : Totals
  drafts : Totals
  rejected : Totals
  reimbursementStats : DashboardReimbursementStats
  spendOverTime : List DashboardSpendPeriodRow
  spendOverTimeGranularity : SpendGranularity
  recentExpenses : List Expense
  trend : DashboardPeriodTrend

structure TeamDashboard extends Totals where
  year : Int
  month : Option Int
  quarter : Option Int
  departmentReference : String
  budgetLimit : Int
  committedAmount : Option Nat
  remainingAmount : Option Int
  utilizationPercent : Option Float
  projectedUtilizationPercent : Option Float
  pendingApprovals : Nat
  agingApprovals : Nat
  spendOverTime : List DashboardSpendPeriodRow
  spendOverTimeGranularity : SpendGranularity

/-- What the query of a dashboard is checked for. -/
structure DashboardPeriodQuery.Valid (query : DashboardPeriodQuery) : Prop where
  year : ∀ year, query.year = some year → 2000 ≤ year ∧ year ≤ 2100
  month : ∀ month, query.month = some month → 1 ≤ month ∧ month ≤ 12
  quarter : ∀ quarter, query.quarter = some quarter → 1 ≤ quarter ∧ quarter ≤ 4

namespace DashboardService

open ReportService (amountOf monthRow percentChange twelveMonths)

def AGING_DAYS : Int := 3

def RECENT_EXPENSE_LIMIT : Nat := 8

def IN_APPROVAL_STATUSES : List ExpenseStatus := [.SUBMITTED, .UNDER_REVIEW]

def MONTHLY_SPEND_STATUSES : List ExpenseStatus :=
  [.SUBMITTED, .UNDER_REVIEW, .APPROVED, .REIMBURSED]

/-- `created_at >= :start AND created_at < :end` -/
def isCreatedIn (d : Dashboards) (start end_ : Instant) (e : Expense) : Bool :=
  start ≤ d.createdAt e.id && d.createdAt e.id < end_

/-! ## Spend over time -/

def resolveMonthsInPeriod (query : DashboardPeriodQuery) : List Int :=
  match truthy query.quarter with
  | some quarter =>
    let startMonth := (quarter - 1) * 3 + 1
    [startMonth, startMonth + 1, startMonth + 2]
  | none => twelveMonths

/-- `EXTRACT(MONTH FROM created_at)` -/
def monthOf (session : Instant → Instant) (d : Dashboards) (e : Expense) : Int :=
  Date.getUTCMonth (session (d.createdAt e.id)) + 1

/-- `CEIL(EXTRACT(DAY FROM created_at) / 7.0)` -/
def weekOf (session : Instant → Instant) (d : Dashboards) (e : Expense) : Int :=
  (Date.getUTCDate (session (d.createdAt e.id)) + 6) / 7

/-- The row of a month or a week; both are looked up among the groups of a query. -/
def spendRow (periodOf : Expense → Int) (label : Int → String) (rows : List Expense) (period : Int) :
    DashboardSpendPeriodRow :=
  let row := monthRow periodOf rows period
  ⟨row.toTotals, period, label period, row.categoryAmounts⟩

def getMonthlySpendOverTime (session : Instant → Instant) (d : Dashboards) (rows : List Expense)
    (months : List Int) : List DashboardSpendPeriodRow :=
  months.map (spendRow (monthOf session d) (fun month =>
    String.ofList ((monthName month).toList.take 3)) rows)

def getWeeklySpendOverTime (session : Instant → Instant) (d : Dashboards) (rows : List Expense) :
    List DashboardSpendPeriodRow :=
  [1, 2, 3, 4, 5].map (spendRow (weekOf session d) (fun week => "Wk " ++ toString week) rows)

/-- `getPersonalSpendOverTime` and `getTeamSpendOverTime`, over the rows of their scope that
    were created in the period. -/
def getSpendOverTime (session : Instant → Instant) (d : Dashboards) (query : DashboardPeriodQuery)
    (rows : List Expense) : List DashboardSpendPeriodRow :=
  if (truthy query.month).isSome then getWeeklySpendOverTime session d rows
  else getMonthlySpendOverTime session d rows (resolveMonthsInPeriod query)

def resolveSpendOverTimeMeta (query : DashboardPeriodQuery) : SpendGranularity :=
  if (truthy query.month).isSome then .week else .month

/-! ## The personal dashboard -/

def ownExpenses (d : Dashboards) (userId : Nat) : List Expense :=
  d.db.expenses.rows.filter (·.userId = userId)

/-- `getPeriodTotals` -/
def getPeriodTotals (d : Dashboards) (userId : Nat) (start end_ : Instant) : Totals :=
  Totals.of amountOf ((ownExpenses d userId).filter (isCreatedIn d start end_))

/-- `getActionBucket` -/
def getActionBucket (d : Dashboards) (userId : Nat) (status : ExpenseStatus) : Totals :=
  Totals.of amountOf ((ownExpenses d userId).filter (·.status = status))

def getRecentExpenses (d : Dashboards) (userId : Nat) : List Expense :=
  ((ownExpenses d userId).insertionSort (fun left right =>
    d.updatedAt right.id ≤ d.updatedAt left.id)).take RECENT_EXPENSE_LIMIT

def getReimbursementStats (d : Dashboards) (userId : Nat) (start end_ : Instant) :
    DashboardReimbursementStats :=
  let times := ((ownExpenses d userId).filter (fun e =>
    e.status = .REIMBURSED && isCreatedIn d start end_ e)).filterMap (fun e =>
      e.approvedAt.bind (fun approvedAt => e.reimbursedAt.map (· - approvedAt)))
  { avgDays :=
      if times.length = 0 then none
      else some (Js.round (Float.ofInt times.sum / Float.ofInt (Date.msPerDay * times.length) * 10) / 10)
    reimbursedCount := times.length }

def getPeriodTrend (d : Dashboards) (userId : Nat) (current previous : ResolvedPeriod) :
    DashboardPeriodTrend :=
  let currentTotals := getPeriodTotals d userId current.start current.end_
  let previousTotals := getPeriodTotals d userId previous.start previous.end_
  { previous := previousTotals
    totalAmountChangePercent := percentChange currentTotals.total previousTotals.total
    expenseCountChangePercent := percentChange currentTotals.count previousTotals.count
    label := previous.label }

/-- `getPersonalDashboard`, without the warnings of the policies. -/
def getPersonalDashboard (timeZone : TimeZone) (now : Instant) (session : Instant → Instant)
    (d : Dashboards) (authUser : AuthUser) (query : DashboardPeriodQuery) : PersonalDashboard :=
  let period := resolvePeriod timeZone now query
  let previousPeriod := resolvePreviousPeriod timeZone now query period
  let rows := (ownExpenses d authUser.id).filter (isCreatedIn d period.start period.end_)
  { toTotals := Totals.of amountOf rows
    year := period.year
    month := period.month
    quarter := period.quarter
    periodLabel := period.label
    pendingReimbursement := getActionBucket d authUser.id .APPROVED
    inApproval := Totals.of amountOf ((ownExpenses d authUser.id).filter (fun e =>
      IN_APPROVAL_STATUSES.contains e.status))
    drafts := getActionBucket d authUser.id .DRAFT
    rejected := getActionBucket d authUser.id .REJECTED
    reimbursementStats := getReimbursementStats d authUser.id period.start period.end_
    spendOverTime := getSpendOverTime session d query rows
    spendOverTimeGranularity := resolveSpendOverTimeMeta query
    recentExpenses := getRecentExpenses d authUser.id
    trend := getPeriodTrend d authUser.id period previousPeriod }

/-! ## The dashboard of a team -/

/-- `(expense.department_id = :departmentId OR owner.department_id = :departmentId)` -/
def isOfTeam (db : Db) (departmentId : Nat) (e : Expense) : Bool :=
  e.departmentId = some departmentId ||
    (db.users.find? e.userId).bind (·.departmentId) = some departmentId

def teamExpenses (d : Dashboards) (departmentId : Nat) : List Expense :=
  d.db.expenses.rows.filter (isOfTeam d.db departmentId)

def getTeamDashboardForDepartment (cfg : Config) (now : Instant) (session : Instant → Instant)
    (d : Dashboards) (department : Department) (query : DashboardPeriodQuery) :
    Except HttpException TeamDashboard := do
  let period := resolvePeriod cfg.budgetTimeZone now query
  let team := teamExpenses d department.id
  let rows := team.filter (fun e => MONTHLY_SPEND_STATUSES.contains e.status &&
    isCreatedIn d period.start period.end_ e)
  let agingCutoff := now - AGING_DAYS * Date.msPerDay
  let pending := team.filter (fun e => IN_APPROVAL_STATUSES.contains e.status)
  let budgetSummary ← BudgetService.getDepartmentSummary cfg d.db department.id period.year
  let committed := budgetSummary.budget.map (·.committedAmount)
  let limit := budgetSummary.amountLimit
  pure {
    toTotals := Totals.of amountOf rows
    year := period.year
    month := period.month
    quarter := period.quarter
    departmentReference := department.reference
    budgetLimit := limit
    committedAmount := committed
    remainingAmount := committed.map (fun committed : Nat => max 0 (limit - (committed : Int)))
    utilizationPercent := budgetSummary.budget.map (·.utilizationPercent)
    projectedUtilizationPercent :=
      if limit = 0 then none
      else committed.map (fun committed : Nat =>
        Js.round (Float.ofNat committed / Float.ofInt limit * 10000) / 100)
    pendingApprovals := pending.length
    agingApprovals := (pending.filter (fun e => e.submittedAt.any (· < agingCutoff))).length
    spendOverTime := getSpendOverTime session d query rows
    spendOverTimeGranularity := resolveSpendOverTimeMeta query }

end DashboardService

end Expentra
