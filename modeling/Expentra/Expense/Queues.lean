-- SUMMARY: The queues of approvers and of finance: their summaries are those of their lists and of the report.
import Expentra.Expense.Lists
import Expentra.Expense.Reimbursement

/-!
# Queues

An approver sees a summary of the expenses waiting for a decision, and the list of them;
finance sees a summary of the expenses waiting for their payment, and the file for the payroll.
The summaries are computed apart from the list, from the file and from the report.
-/

namespace Expentra

open Library Text Csv

structure PendingApprovalSummary where
  awaitingApprovalCount : Nat
  awaitingApprovalAmount : Int
  agingApprovalCount : Nat
deriving DecidableEq

structure FinanceRecentlyReimbursed extends Totals where
  windowDays : Int
deriving DecidableEq

structure FinanceQueueSummary where
  approvedCount : Nat
  approvedAmount : Int
  oldestApprovedAt : Option Instant
  agingBuckets : List AgingBucket
  recentlyReimbursed : FinanceRecentlyReimbursed
deriving DecidableEq

structure PayrollExportRow where
  employeeEmail : Text
  employeeName : Text
  expenseReference : Text
  title : Text
  amountMajor : Text
  currency : Text
  departmentName : Text
  approvedAt : Text
  narration : Text
deriving DecidableEq

/-! ## The file for the payroll -/

namespace PayrollExport

def PAYROLL_HEADERS : List Text :=
  [ascii "Employee Email", ascii "Employee Name", ascii "Expense Reference", ascii "Title",
    ascii "Amount", ascii "Currency", ascii "Department", ascii "Approved Date", ascii "Narration"]

def payrollCells (row : PayrollExportRow) : List CsvCellValue :=
  [.string row.employeeEmail, .string row.employeeName, .string row.expenseReference,
    .string row.title, .string row.amountMajor, .string row.currency, .string row.departmentName,
    .string row.approvedAt, .string row.narration]

def buildPayrollExportCsv (rows : List PayrollExportRow) : Text :=
  buildCsv PAYROLL_HEADERS (rows.map payrollCells)

/-- `[firstName, lastName].filter(Boolean).join(' ') || email` -/
def employeeName (names : UserNames) (email : String) : String :=
  let full := " ".intercalate ([names.firstName, names.lastName].filterMap (fun name =>
    name.filter (· ≠ "")))
  if full = "" then email else full

def payrollRow (t : ExpenseExportTable) (row : Expense) : PayrollExportRow :=
  let expense := t.db.withRelations row
  { employeeEmail := ofString ((expense.user.map (·.email)).getD "")
    employeeName := ofString ((expense.user.map (fun user =>
      employeeName (t.userNames user.id) user.email)).getD "")
    expenseReference := ofString row.reference
    title := ofString row.title
    amountMajor := formatAmountMajor row.amount.val.toNat
    currency := ofString (t.currency row.id)
    departmentName := ExpenseListExport.departmentName t expense
    approvedAt := (row.approvedAt.map Date.toISOString).getD []
    narration := ofString row.title }

end PayrollExport

namespace ExpenseQueryService

open ReportService PayrollExport

/-! ## The summaries -/

def getPendingApprovalSummary (db : Db) (now : Instant) (authUser : AuthUser) :
    Except HttpException PendingApprovalSummary := do
  assertCanListForApprovalExpenses authUser
  let actionableIds := ActionableApprovalQueue.getActionableExpenseIds db now authUser
  if actionableIds.length = 0 then pure ⟨0, 0, 0⟩
  else
    let rows := db.expenses.rows.filter (fun row => actionableIds.contains row.id)
    let totals := Totals.of amountOf rows
    pure ⟨totals.count, totals.total, (rows.filter (isAging now)).length⟩

def canActOnApproval (db : Db) (now : Instant) (authUser : AuthUser) (expense : ExpenseEntity) : Bool :=
  if expense.status ≠ .SUBMITTED && expense.status ≠ .UNDER_REVIEW then false
  else (ActionableApprovalQueue.getActionableExpenseIds db now authUser).contains expense.id

def FINANCE_AGING_BUCKET_DEFS : List (AgingBucketKey × String) :=
  [(.days0_7, "0–7 days"), (.days8_14, "8–14 days"), (.days15_30, "15–30 days"),
    (.days30_plus, "30+ days")]

def emptyFinanceAgingBuckets : List AgingBucket :=
  FINANCE_AGING_BUCKET_DEFS.map (fun d => ⟨0, d.1, d.2⟩)

/-- What the loop over the approved rows has computed. -/
structure FinanceTotals where
  totalAmount : Int
  oldestApprovedAt : Option Instant
  agingBuckets : List AgingBucket

/-- One turn of the loop. -/
def addApproved (now : Instant) (totals : FinanceTotals) (row : PayoutRow) : FinanceTotals :=
  let ageMs := now - row.approvedAt
  let ageDays := max 0 (ageMs / (24 * 60 * 60 * 1000))
  let key : AgingBucketKey :=
    if ageDays < 8 then .days0_7
    else if ageDays < 15 then .days8_14
    else if ageDays < 31 then .days15_30
    else .days30_plus
  { totalAmount := totals.totalAmount + row.amount
    oldestApprovedAt := some (match totals.oldestApprovedAt with
      | none => row.approvedAt
      | some oldest => if row.approvedAt < oldest then row.approvedAt else oldest)
    agingBuckets := totals.agingBuckets.map (fun bucket =>
      if bucket.key = key then
        { bucket with count := bucket.count + 1, total := bucket.total + row.amount }
      else bucket) }

/-- `status = REIMBURSED AND reimbursed_at IS NOT NULL AND reimbursed_at >= since` -/
def isRecentlyReimbursed (since : Instant) (row : Expense) : Bool :=
  row.status = .REIMBURSED && row.reimbursedAt.any (since ≤ ·)

def getRecentlyReimbursedSummary (db : Db) (now : Instant) : FinanceRecentlyReimbursed :=
  let windowDays := 7
  let since := now - windowDays * Date.msPerDay
  ⟨Totals.of amountOf (db.expenses.rows.filter (isRecentlyReimbursed since)), windowDays⟩

def getFinanceQueueSummary (db : Db) (now : Instant) (authUser : AuthUser) :
    Except HttpException FinanceQueueSummary := do
  ExpenseReimbursement.assertCanReimburseExpense authUser
  let approvedRows := payoutRows db
  let totals := approvedRows.foldl (addApproved now) ⟨0, none, emptyFinanceAgingBuckets⟩
  pure
    { approvedCount := approvedRows.length
      approvedAmount := totals.totalAmount
      oldestApprovedAt := totals.oldestApprovedAt
      agingBuckets := totals.agingBuckets
      recentlyReimbursed := getRecentlyReimbursedSummary db now }

/-- `ORDER BY approved_at ASC`: what is missing comes last. Rows of one date are taken in the
    order of the table, which PostgreSQL leaves open. -/
def approvedBefore (left right : Expense) : Bool :=
  compareColumn .ASC left.approvedAt right.approvedAt ≠ .gt

def buildPayrollExportCsv (t : ExpenseExportTable) (authUser : AuthUser) :
    Except HttpException Text := do
  ExpenseReimbursement.assertCanReimburseExpense authUser
  let expenses := ((approvedExpenses t.db).insertionSort (fun left right =>
    approvedBefore left right = true)).take EXPORT_ROW_LIMIT
  pure (PayrollExport.buildPayrollExportCsv (expenses.map (payrollRow t)))

/-! ## What can be decided is what is listed -/

section Approval

open ApprovalAccessPolicy ActionableApprovalQueue

variable {db : Db} {now : Instant} {authUser : AuthUser} {row : Expense}

theorem isPending_of_isActionable (hrow : row ∈ db.expenses)
    (h : isActionable db now authUser row = true) : row.status.isPending = true := by
  obtain ⟨row', stage, hfind, hmay⟩ :=
    Approval.mem_getActionableExpenseIds.1 (List.contains_iff_mem.1 h)
  obtain rfl : row = row' := Option.some.inj ((Table.find?_of_mem hrow).symm.trans hfind)
  exact (ApprovalRouting.getActiveStage_eq_some.1 hmay.active).1

/-- The scope of an approver's list has every expense the approver may act on. -/
theorem scope_of_isActionable (hrow : row ∈ db.expenses) (h : isActionable db now authUser row = true) :
    (if (isManagerApprover authUser && !hasGlobalApprovalPermission authUser) = true
      then managerScope db authUser row else globalScope authUser row) = true := by
  have hpending := isPending_of_isActionable hrow h
  split
  · next hmanager =>
    obtain ⟨row', stage, hfind, hmay⟩ :=
      Approval.mem_getActionableExpenseIds.1 (List.contains_iff_mem.1 h)
    obtain rfl : row = row' := Option.some.inj ((Table.find?_of_mem hrow).symm.trans hfind)
    rw [Bool.and_eq_true, Bool.not_eq_true'] at hmanager
    rw [managerScope, hpending, Bool.true_and, Bool.or_eq_true]
    exact .inr (Approval.inScope_of_canDecide hmay.canDecide hmanager.2)
  · rw [globalScope, hpending, Bool.true_or]

theorem canActOnApproval_iff (hrow : row ∈ db.expenses) :
    canActOnApproval db now authUser (db.withRelations row) = isActionable db now authUser row := by
  change (if (decide (row.status ≠ .SUBMITTED) && decide (row.status ≠ .UNDER_REVIEW)) = true then false
    else isActionable db now authUser row) = isActionable db now authUser row
  split
  · next hstatus =>
    symm
    rw [Bool.eq_false_iff]
    intro hactionable
    rcases ExpenseStatus.isPending_eq_true.1 (isPending_of_isActionable hrow hactionable) with h | h <;>
      simp [h] at hstatus
  · rfl

variable {t : ExpenseTable} {query : ListExpensesQuery} {result : PaginatedExpensesResult}

/-- The request is for what the user may decide, whatever the status. -/
structure AsksActionable (query : ListExpensesQuery) : Prop where
  needsAction : query.needsAction = false
  status : query.status = none
  actionableOnly : query.actionableOnly ≠ some false

/-- What waits for the user's decision, all of it or what has waited for long. -/
def waitingRows (db : Db) (now : Instant) (authUser : AuthUser) (agingOnly : Bool) : List Expense :=
  db.expenses.rows.filter (fun row =>
    isActionable db now authUser row && (!agingOnly || isAging now row))

/-- The rows of the list for approval. -/
def approvalRows (t : ExpenseTable) (now : Instant) (authUser : AuthUser)
    (query : ListExpensesQuery) : List Expense :=
  applyListSort t query (t.db.expenses.rows.filter (fun row =>
    (if isManagerApprover authUser && !hasGlobalApprovalPermission authUser then
      managerScope t.db authUser row else globalScope authUser row) &&
        applyListFilters query row &&
        (query.actionableOnly = some false || isActionable t.db now authUser row) &&
        (!query.agingOnly || isAging now row)))

theorem findForApprovalExpenses_eq (hcheck : assertCanListForApprovalExpenses authUser = .ok ()) :
    findForApprovalExpenses t now authUser query =
      .ok (executePaginatedQuery t.db (resolvePagination query) (approvalRows t now authUser query)) := by
  have hsome : ¬ (isManagerApprover authUser && !hasGlobalApprovalPermission authUser &&
      authUser.managedDepartmentIds.length = 0) = true := by
    simp only [isManagerApprover, Bool.and_eq_true, decide_eq_true_eq]
    omega
  rw [findForApprovalExpenses, hcheck]
  exact if_neg hsome

/-- The filters for the scope leave out nothing the user may decide. -/
theorem perm_approvalRows (hasks : AsksActionable query) :
    (approvalRows t now authUser query).Perm (waitingRows t.db now authUser query.agingOnly) := by
  refine (List.perm_insertionSort _ _).trans (List.Perm.of_eq (List.filter_congr fun row hrow => ?_))
  have hfilters : applyListFilters query row = true := by
    rw [applyListFilters, hasks.needsAction, hasks.status]
    rfl
  rw [hfilters, Bool.and_true, decide_eq_false hasks.actionableOnly, Bool.false_or]
  cases hactionable : isActionable t.db now authUser row with
  | true => rw [scope_of_isActionable hrow hactionable, Bool.true_and]
  | false => rw [Bool.and_false]

theorem withRelations_inj {left right : Expense} (hleft : left ∈ t.db.expenses)
    (hright : right ∈ t.db.expenses) (h : t.db.withRelations left = t.db.withRelations right) :
    left = right :=
  Table.eq_of_key_eq hleft hright (congrArg (fun e : ExpenseEntity => e.id) h)

/-- The list holds what the pages of the expenses offer to decide on. -/
theorem mem_approvalRows {row : Expense} (hasks : AsksActionable query) (hall : query.agingOnly = false)
    (hrow : row ∈ t.db.expenses) : row ∈ approvalRows t now authUser query ↔
      canActOnApproval t.db now authUser (t.db.withRelations row) = true := by
  rw [canActOnApproval_iff hrow, (perm_approvalRows hasks).mem_iff, hall, waitingRows, List.mem_filter]
  simp only [Bool.not_false, Bool.true_or, Bool.and_true]
  exact and_iff_right hrow

theorem getPendingApprovalSummary_eq (hcheck : assertCanListForApprovalExpenses authUser = .ok ()) :
    getPendingApprovalSummary db now authUser = .ok
      ⟨(waitingRows db now authUser false).length,
        ((waitingRows db now authUser false).map amountOf).sum,
        (waitingRows db now authUser true).length⟩ := by
  have hall : waitingRows db now authUser false = db.expenses.rows.filter (fun row =>
      (ActionableApprovalQueue.getActionableExpenseIds db now authUser).contains row.id) :=
    List.filter_congr fun row _ => Bool.and_true _
  have haging : waitingRows db now authUser true = (db.expenses.rows.filter (fun row =>
      (ActionableApprovalQueue.getActionableExpenseIds db now authUser).contains row.id)).filter
        (isAging now) := by
    rw [List.filter_filter]
    exact List.filter_congr fun row _ => Bool.and_comm _ _
  rw [getPendingApprovalSummary, hcheck, hall, haging]
  change (if _ then _ else _) = _
  split
  · next hnone =>
    rw [List.eq_nil_of_length_eq_zero hnone]
    simp
    rfl
  · rfl

/-- All pages of the list for approval. -/
theorem flatMap_approvalPages {results : Nat → PaginatedExpensesResult}
    (hcheck : assertCanListForApprovalExpenses authUser = .ok ())
    (hpages : ∀ page, findForApprovalExpenses t now authUser (onPage query page) = .ok (results page)) :
    (List.range (results 0).totalPages).flatMap (fun page => (results page).data) =
      (approvalRows t now authUser query).map t.db.withRelations := by
  have hresults : ∀ page, results page = executePaginatedQuery t.db
      (resolvePagination (onPage query page)) (approvalRows t now authUser query) := fun page => by
    have hpage := hpages page
    rw [findForApprovalExpenses_eq hcheck] at hpage
    exact (Except.ok.inj hpage).symm
  simp only [hresults]
  exact flatMap_executePaginatedQuery t.db query _

end Approval

/-- The summary for an approver and the button of an expense say what the list says. -/
structure ApprovalQueueAgrees (t : ExpenseTable) (now : Instant) (authUser : AuthUser) : Prop where
  refused : ∀ query e, findForApprovalExpenses t now authUser query = .error e ↔
    getPendingApprovalSummary t.db now authUser = .error e
  counts : ∀ summary query result, getPendingApprovalSummary t.db now authUser = .ok summary →
    AsksActionable query → findForApprovalExpenses t now authUser query = .ok result →
    result.total =
      if query.agingOnly then summary.agingApprovalCount else summary.awaitingApprovalCount
  pages : ∀ summary query (results : Nat → PaginatedExpensesResult),
    getPendingApprovalSummary t.db now authUser = .ok summary →
    AsksActionable query → query.agingOnly = false →
    (∀ page, findForApprovalExpenses t now authUser (onPage query page) = .ok (results page)) →
    let expenses := (List.range (results 0).totalPages).flatMap (fun page => (results page).data)
    expenses.Nodup ∧ (expenses.map (·.amount.val)).sum = summary.awaitingApprovalAmount ∧
      ∀ row ∈ t.db.expenses, canActOnApproval t.db now authUser (t.db.withRelations row) = true ↔
        t.db.withRelations row ∈ expenses

/-- For every approver and whatever the tables hold, the summary has the totals of the list over
    all its pages, and an expense is on the list if and only if its page offers to decide on it. -/
theorem approval_queue_agrees (t : ExpenseTable) (now : Instant) (authUser : AuthUser) :
    ApprovalQueueAgrees t now authUser := by
  cases hcheck : assertCanListForApprovalExpenses authUser with
  | error e =>
    have hlist : ∀ query, findForApprovalExpenses t now authUser query = .error e := fun query => by
      rw [findForApprovalExpenses, hcheck]
      rfl
    have hsummary : getPendingApprovalSummary t.db now authUser = .error e := by
      rw [getPendingApprovalSummary, hcheck]
      rfl
    constructor
    · intro query e'
      rw [hlist, hsummary, Except.error.injEq, Except.error.injEq]
    · intro summary query result h
      rw [hsummary] at h
      cases h
    · intro summary query results h
      rw [hsummary] at h
      cases h
  | ok _ =>
    constructor
    · intro query e
      rw [findForApprovalExpenses_eq hcheck, getPendingApprovalSummary_eq hcheck]
      exact iff_of_false (fun h => by cases h) (fun h => by cases h)
    · intro summary query result hsummary hasks hlist
      rw [getPendingApprovalSummary_eq hcheck] at hsummary
      rw [findForApprovalExpenses_eq hcheck] at hlist
      cases hsummary
      cases hlist
      change (approvalRows t now authUser query).length = _
      rw [(perm_approvalRows hasks).length_eq]
      cases query.agingOnly <;> rfl
    · intro summary query results hsummary hasks hall hpages
      rw [getPendingApprovalSummary_eq hcheck] at hsummary
      cases hsummary
      have hperm : (approvalRows t now authUser query).Perm
          (waitingRows t.db now authUser query.agingOnly) := perm_approvalRows hasks
      rw [hall] at hperm
      have hstored : ∀ row ∈ approvalRows t now authUser query, row ∈ t.db.expenses :=
        fun row hrow => (List.mem_filter.1 (hperm.mem_iff.1 hrow)).1
      dsimp only
      rw [flatMap_approvalPages hcheck hpages]
      refine ⟨?_, ?_, fun row hrow => ?_⟩
      · refine List.Nodup.map_on (fun left hleft right hright =>
          withRelations_inj (hstored left hleft) (hstored right hright)) ?_
        exact hperm.nodup_iff.2 ((List.Nodup.of_map _ t.db.expenses.nodup).filter _)
      · rw [List.map_map]
        exact (hperm.map amountOf).sum_eq
      · rw [← mem_approvalRows hasks hall hrow, List.mem_map]
        constructor
        · intro hlisted
          exact ⟨row, hlisted, rfl⟩
        · rintro ⟨row', hlisted, heq⟩
          exact withRelations_inj (hstored row' hlisted) hrow heq ▸ hlisted

/-! ## What waits for its payment -/

section Finance

variable {t : ExpenseExportTable} {db db₀ : Db} {now : Instant} {authUser : AuthUser}

/-- The loop of the finance queue makes the turns of the report's loop. -/
theorem foldl_addApproved (now : Instant) (rows : List PayoutRow) (summary : PendingPayoutSummary) :
    rows.foldl (addApproved now) ⟨summary.total, summary.oldestApprovedAt, summary.agingBuckets⟩ =
      ⟨(rows.foldl (addPayout now) summary).total, (rows.foldl (addPayout now) summary).oldestApprovedAt,
        (rows.foldl (addPayout now) summary).agingBuckets⟩ := by
  induction rows generalizing summary with
  | nil => rfl
  | cons row rest ih => exact ih (addPayout now summary row)

/-- The finance queue shows the pending payouts of the report. -/
theorem getFinanceQueueSummary_eq
    (hcheck : ExpenseReimbursement.assertCanReimburseExpense authUser = .ok ()) :
    getFinanceQueueSummary db now authUser = .ok
      ⟨(getPendingPayoutSummary db now).count, (getPendingPayoutSummary db now).total,
        (getPendingPayoutSummary db now).oldestApprovedAt,
        (getPendingPayoutSummary db now).agingBuckets, getRecentlyReimbursedSummary db now⟩ := by
  have hloop : (payoutRows db).foldl (addApproved now) ⟨0, none, emptyFinanceAgingBuckets⟩ =
      ⟨(getPendingPayoutSummary db now).total, (getPendingPayoutSummary db now).oldestApprovedAt,
        (getPendingPayoutSummary db now).agingBuckets⟩ :=
    foldl_addApproved now (payoutRows db) ⟨0, none, emptyAgingBuckets⟩
  have hcount : (getPendingPayoutSummary db now).count = (payoutRows db).length := by
    rw [getPendingPayoutSummary_eq]
    rfl
  rw [getFinanceQueueSummary, hcheck, hcount]
  dsimp only [bind, Except.bind]
  rw [hloop]
  rfl

theorem oldest_perm {rows rows' : List PayoutRow} (h : rows.Perm rows') : oldest rows = oldest rows' := by
  refine Option.ext fun t => ?_
  rw [oldest_eq_some, oldest_eq_some]
  simp only [h.mem_iff]

/-- Of dated rows in the order of their dates, the first has the oldest. -/
theorem oldest_sorted {rows : List Expense} (hdated : ∀ e ∈ rows, e.approvedAt.isSome = true)
    (hsorted : rows.Pairwise (fun left right => approvedBefore left right = true)) :
    oldest (rows.map toPayoutRow) = rows.head?.bind (·.approvedAt) := by
  cases rows with
  | nil => rfl
  | cons first rest =>
    obtain ⟨t, ht⟩ := Option.isSome_iff_exists.1 (hdated first List.mem_cons_self)
    rw [List.head?_cons, Option.bind_some, ht, oldest_eq_some]
    refine ⟨⟨toPayoutRow first, List.mem_map_of_mem List.mem_cons_self, by simp [toPayoutRow, ht]⟩, ?_⟩
    refine List.forall_mem_map.2 (List.forall_mem_cons.2 ⟨by simp [toPayoutRow, ht], fun e he => ?_⟩)
    obtain ⟨t', ht'⟩ := Option.isSome_iff_exists.1 (hdated e (List.mem_cons_of_mem _ he))
    have hle := (List.pairwise_cons.1 hsorted).1 e he
    rw [approvedBefore, ht, ht', decide_eq_true_eq] at hle
    simpa [toPayoutRow, ht'] using Int.compare_ne_gt.1 hle

theorem sorted_approved (rows : List Expense) : (rows.insertionSort (fun left right =>
    approvedBefore left right = true)).Pairwise (fun left right => approvedBefore left right = true) := by
  have hle : ∀ left right : Expense, approvedBefore left right = true ↔
      columnKey .ASC left.approvedAt ≤ columnKey .ASC right.approvedAt := fun left right => by
    rw [approvedBefore, decide_eq_true_eq, compareColumn_eq]
    exact compare_le_iff_le
  have : Std.Total (fun left right : Expense => approvedBefore left right = true) :=
    ⟨fun left right => by simpa only [hle] using le_total (columnKey .ASC left.approvedAt) _⟩
  have : IsTrans Expense (fun left right => approvedBefore left right = true) :=
    ⟨fun a b c hab hbc => (hle a c).2 (le_trans ((hle a b).1 hab) ((hle b c).1 hbc))⟩
  exact List.pairwise_insertionSort _ _

theorem parse_buildPayrollExportCsv (rows : List PayrollExportRow) :
    parseCsv (PayrollExport.buildPayrollExportCsv rows) =
      PAYROLL_HEADERS :: rows.map (fun row => (payrollCells row).map CsvCellValue.text) := by
  rw [PayrollExport.buildPayrollExportCsv, parse_file (by decide) (List.forall_mem_map.2 fun row _ => by
    simp [payrollCells]), table, List.map_map]
  rfl

theorem amount_payrollCells (t : ExpenseExportTable) (row : Expense) :
    ((payrollCells (payrollRow t row)).map CsvCellValue.text).getD 4 [] =
      formatAmountMajor row.amount.val.toNat := by
  simp only [payrollCells, payrollRow, List.map_cons, List.getD_cons_succ, List.getD_cons_zero,
    CsvCellValue.text]

end Finance

/-- The payroll is the approved expenses, the oldest approval first. -/
structure PayrollOf (t : ExpenseExportTable) (summary : FinanceQueueSummary) (file : Text)
    (rows : List Expense) : Prop where
  perm : rows.Perm (approvedExpenses t.db)
  sorted : rows.Pairwise (fun left right => approvedBefore left right = true)
  count : rows.length = summary.approvedCount
  oldest : rows.head?.bind (·.approvedAt) = summary.oldestApprovedAt
  parsed : parseCsv file = PAYROLL_HEADERS :: (rows.take EXPORT_ROW_LIMIT).map (fun row =>
    (payrollCells (payrollRow t row)).map CsvCellValue.text)
  amounts : rows.length ≤ EXPORT_ROW_LIMIT → (∀ row ∈ rows, row.amount.val.toNat < 2 ^ 52) →
    (((parseCsv file).tail.map (fun cells => (readAmountMajor (cells.getD 4 []) : Int))).sum) =
      summary.approvedAmount

/-- The approved expenses in the order of their dates are the payroll of the report's payouts. -/
theorem payrollOf_approved {t : ExpenseExportTable} {now : Instant} (hdated : AllDated t.db) :
    PayrollOf t ⟨(getPendingPayoutSummary t.db now).count, (getPendingPayoutSummary t.db now).total,
        (getPendingPayoutSummary t.db now).oldestApprovedAt,
        (getPendingPayoutSummary t.db now).agingBuckets, getRecentlyReimbursedSummary t.db now⟩
      (PayrollExport.buildPayrollExportCsv
        ((((approvedExpenses t.db).insertionSort (fun left right =>
          approvedBefore left right = true)).take EXPORT_ROW_LIMIT).map (payrollRow t)))
      ((approvedExpenses t.db).insertionSort (fun left right => approvedBefore left right = true)) := by
  have hperm := List.perm_insertionSort (fun left right : Expense => approvedBefore left right = true)
    (approvedExpenses t.db)
  have hsorted := sorted_approved (approvedExpenses t.db)
  generalize (approvedExpenses t.db).insertionSort
    (fun left right => approvedBefore left right = true) = rows at hperm hsorted ⊢
  have hrows := payoutRows_eq hdated
  have hdates : ∀ e ∈ rows, e.approvedAt.isSome = true := by
    intro e he
    obtain ⟨hmem, happroved⟩ := List.mem_filter.1 (hperm.mem_iff.1 he)
    exact (hdated e hmem).approved (.inl (of_decide_eq_true happroved))
  have htotals : (getPendingPayoutSummary t.db now).toTotals = Totals.of amountOf rows := by
    rw [getPendingPayoutSummary_eq, payoutSummary, hrows, Totals.of_map]
    exact Totals.of_perm hperm.symm
  have hparsed := parse_buildPayrollExportCsv ((rows.take EXPORT_ROW_LIMIT).map (payrollRow t))
  rw [List.map_map] at hparsed
  refine ⟨hperm, hsorted, (congrArg Totals.count htotals).symm, ?_, hparsed, fun hlimit hbound => ?_⟩
  · rw [← oldest_sorted hdates hsorted, oldest_perm (hperm.map toPayoutRow), ← hrows,
      getPendingPayoutSummary_eq]
    rfl
  · rw [hparsed, List.tail_cons, List.map_map, List.take_of_length_le hlimit]
    refine Eq.trans ?_ (congrArg Totals.total htotals).symm
    refine congrArg List.sum (List.map_congr_left fun row hrow => ?_)
    rw [Function.comp_apply, Function.comp_apply, amount_payrollCells,
      readAmountMajor_formatAmountMajor (hbound row hrow)]
    exact Int.toNat_of_nonneg (Int.le_of_lt row.amount.property)

/-- The queue of finance, the report and the file for the payroll say the same. -/
structure FinanceAgrees (t : ExpenseExportTable) (now : Instant) (authUser : AuthUser) : Prop where
  refused : ∀ e, getFinanceQueueSummary t.db now authUser = .error e ↔
    buildPayrollExportCsv t authUser = .error e
  report : ∀ summary, getFinanceQueueSummary t.db now authUser = .ok summary →
    getPendingPayoutSummary t.db now = ⟨⟨summary.approvedCount, summary.approvedAmount⟩,
      summary.oldestApprovedAt, summary.agingBuckets⟩
  payroll : ∀ summary file, getFinanceQueueSummary t.db now authUser = .ok summary →
    buildPayrollExportCsv t authUser = .ok file → ∃ rows, PayrollOf t summary file rows

/-- In every state of every run of the expense operations, the queue of finance shows the pending
    payouts of the report, and the file for the payroll has their expenses and adds up to them. -/
theorem finance_agrees {cfg : Config} {db₀ : Db} {t : ExpenseExportTable} (hdated : AllDated db₀)
    (hreach : Reaches (Step cfg) db₀ t.db) (now : Instant) (authUser : AuthUser) :
    FinanceAgrees t now authUser := by
  cases hcheck : ExpenseReimbursement.assertCanReimburseExpense authUser with
  | error e =>
    have hqueue : getFinanceQueueSummary t.db now authUser = .error e := by
      rw [getFinanceQueueSummary, hcheck]
      rfl
    have hfile : buildPayrollExportCsv t authUser = .error e := by
      rw [buildPayrollExportCsv, hcheck]
      rfl
    constructor
    · intro e'
      rw [hqueue, hfile, Except.error.injEq, Except.error.injEq]
    · intro summary h
      rw [hqueue] at h
      cases h
    · intro summary file h
      rw [hqueue] at h
      cases h
  | ok _ =>
    have hfile : buildPayrollExportCsv t authUser = .ok (PayrollExport.buildPayrollExportCsv
        ((((approvedExpenses t.db).insertionSort (fun left right =>
          approvedBefore left right = true)).take EXPORT_ROW_LIMIT).map (payrollRow t))) := by
      rw [buildPayrollExportCsv, hcheck]
      rfl
    constructor
    · intro e
      rw [getFinanceQueueSummary_eq hcheck, hfile]
      exact iff_of_false (fun h => by cases h) (fun h => by cases h)
    · intro summary hsummary
      rw [getFinanceQueueSummary_eq hcheck] at hsummary
      cases hsummary
      rfl
    · intro summary file hsummary hbuilt
      rw [getFinanceQueueSummary_eq hcheck] at hsummary
      rw [hfile] at hbuilt
      cases hsummary
      cases hbuilt
      exact ⟨_, payrollOf_approved (allDated_of_reaches hdated hreach)⟩

end ExpenseQueryService

/-- The database after an expense was approved. -/
def Sample.approvedTable : ExpenseExportTable :=
  { exportTable with db := runAll config (lifecycle.take 4) db }

open ExpenseQueryService in
theorem finance_agrees_sample :
    FinanceAgrees Sample.approvedTable (Sample.now + 9 * Date.msPerDay) Sample.authFinance ∧
      (getFinanceQueueSummary Sample.approvedTable.db (Sample.now + 9 * Date.msPerDay)
        Sample.authFinance).map (fun summary => (summary.approvedCount, summary.approvedAmount)) =
          .ok (1, 5000) :=
  ⟨finance_agrees Sample.fresh.allDated (reaches_runAll Sample.config _ Sample.db) _ _,
    by decide +kernel⟩

end Expentra
