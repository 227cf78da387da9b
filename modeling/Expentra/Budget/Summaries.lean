-- SUMMARY: The summaries of one department's budget and of the organisation's, and when they tell the same spend.
import Expentra.Library.Traversal
import Expentra.Budget.Reconciliation

/-!
# Summaries

The summary of a department reads the counters of its live budget row, or sums over the
expenses when it has none. The summary of the organisation always sums, over the
departments that have a budget, and counts an expense without a department in the
department of its owner.
-/

namespace Expentra

open Library

namespace BudgetSummaries

open BudgetService (assertValidYear sumSpendForDepartmentYear liveBudget)
open Reconciliation (reimbursedSum committedSum Recomputed)

structure BudgetUsageSummary where
  department : Department
  year : Int
  amountLimit : Int
  committedAmount : Int
  reimbursedAmount : Int
  remainingAmount : Int
  utilizationPercent : Float
  isOverBudget : Bool
  isNearLimit : Bool
  budget : Option DepartmentBudget

structure OrganizationBudgetSummary where
  year : Int
  amountLimit : Int
  committedAmount : Int
  reimbursedAmount : Int
  remainingAmount : Int
  overBudgetAmount : Int
  utilizationPercent : Float
  isOverBudget : Bool
  isNearLimit : Bool
  departmentCount : Nat
  hasBudget : Bool

/-- `assertValidYear` and the period of the year. -/
def yearPeriod (cfg : Config) (year : Int) : Except HttpException (Instant × Instant) := do
  assertValidYear year
  BudgetPeriod.budgetYearRangeInTimeZone year cfg.budgetTimeZone

/-! ## A department -/

def fetchDepartmentBudgetSummary (db : Db) (departmentId : Nat) (year : Int)
    (period : Instant × Instant) (nearLimitThresholdPercent : Float) : Option BudgetUsageSummary :=
  match db.departmentRelation (some departmentId) with
  | none => none
  | some department =>
    match liveBudget db departmentId year with
    | some budget =>
      let utilizationPercent := if 0 < budget.amountLimit then budget.utilizationPercent else 0
      some {
        department
        year
        amountLimit := budget.amountLimit
        committedAmount := budget.committedAmount
        reimbursedAmount := budget.reimbursedAmount
        remainingAmount := budget.remainingAmount
        utilizationPercent
        isOverBudget := budget.isOverBudget
        isNearLimit := 0 < budget.amountLimit && nearLimitThresholdPercent ≤ utilizationPercent
        budget := some budget }
    | none =>
      some {
        department
        year
        amountLimit := 0
        committedAmount := sumSpendForDepartmentYear db departmentId period countsTowardCommittedBudget
        reimbursedAmount := 0
        remainingAmount := 0
        utilizationPercent := 0
        isOverBudget := false
        isNearLimit := false
        budget := none }

/-- The threshold is `BUDGET_ALERT_THRESHOLD_PERCENT`. -/
def getDepartmentSummary (cfg : Config) (threshold : Float) (db : Db) (departmentId : Nat) (year : Int) :
    Except HttpException BudgetUsageSummary := do
  let period ← yearPeriod cfg year
  match fetchDepartmentBudgetSummary db departmentId year period threshold with
  | some summary => pure summary
  | none => throw (.notFound "Department not found")

/-- The checks of submit and approve read the same summary. -/
theorem getDepartmentSummary_eq (cfg : Config) (threshold : Float) (db : Db) (departmentId : Nat) (year : Int) :
    (getDepartmentSummary cfg threshold db departmentId year).map (fun summary =>
        (⟨summary.amountLimit, summary.committedAmount, summary.budget⟩ : Expentra.BudgetUsageSummary)) =
      BudgetService.getDepartmentSummary cfg db departmentId year := by
  unfold getDepartmentSummary yearPeriod fetchDepartmentBudgetSummary
    BudgetService.getDepartmentSummary BudgetService.loadDepartmentBudgetSummary
  cases assertValidYear year with
  | error e => rfl
  | ok _ =>
    cases BudgetPeriod.budgetYearRangeInTimeZone year cfg.budgetTimeZone with
    | error e => rfl
    | ok period =>
      cases db.departmentRelation (some departmentId) with
      | none => rfl
      | some department => cases liveBudget db departmentId year <;> rfl

/-! ## The organisation -/

/-- `budgeted_departments`: the live budgets of the year, of departments that are there. -/
def budgetedDepartments (db : Db) (year : Int) : List DepartmentBudget :=
  db.budgets.rows.filter (fun b => b.year = year && b.isLive &&
    (db.departments.find? b.departmentId).any (fun d => d.deletedAt.isNone && d.isActive))

/-- What an expense contributes to `expense_totals`: once for every budget that is joined,
    and nothing without an owner. -/
def joinedAmount (db : Db) (year : Int) (period : Instant × Instant) (statuses : ExpenseStatus → Bool)
    (e : Expense) : Int :=
  if statuses e.status && e.submittedAt.any (fun t => period.1 ≤ t && t < period.2) then
    match db.users.find? e.userId with
    | none => 0
    | some u => ((budgetedDepartments db year).map (fun b =>
        if e.departmentId.or u.departmentId = some b.departmentId then e.amount.val else 0)).sum
  else 0

structure OrganizationBudgetSummaryRow where
  departmentCount : Nat
  amountLimit : Int
  pipelineAmount : Int
  reimbursedAmount : Int

def fetchOrganizationBudgetSummary (db : Db) (year : Int) (period : Instant × Instant) :
    OrganizationBudgetSummaryRow where
  departmentCount := (budgetedDepartments db year).length
  amountLimit := ((budgetedDepartments db year).map (fun b => (b.amountLimit : Int))).sum
  pipelineAmount := db.expenses.sum (joinedAmount db year period countsTowardCommittedBudget)
  reimbursedAmount := db.expenses.sum (joinedAmount db year period (· = .REIMBURSED))

def getOrganizationSummary (cfg : Config) (threshold : Float) (db : Db) (year : Int) :
    Except HttpException OrganizationBudgetSummary := do
  let period ← yearPeriod cfg year
  let row := fetchOrganizationBudgetSummary db year period
  let committedAmount := row.pipelineAmount + row.reimbursedAmount
  let utilizationPercent :=
    if 0 < row.amountLimit then
      Js.round (Float.ofInt committedAmount / Float.ofInt row.amountLimit * 10000) / 100
    else 0
  let isOverBudget : Bool := row.amountLimit < committedAmount
  pure {
    year
    amountLimit := row.amountLimit
    committedAmount
    reimbursedAmount := row.reimbursedAmount
    remainingAmount := max 0 (row.amountLimit - committedAmount)
    overBudgetAmount := max 0 (committedAmount - row.amountLimit)
    utilizationPercent
    isOverBudget
    isNearLimit := 0 < row.amountLimit && !isOverBudget && threshold ≤ utilizationPercent
    departmentCount := row.departmentCount
    hasBudget := 0 < row.departmentCount }

/-! ## One spend -/

/-- The counters of the live budgets equal the recomputed sums. -/
def CountersMatch (cfg : Config) (db : Db) : Prop :=
  ∀ b ∈ db.budgets, b.isLive = true → Recomputed cfg db b

/-- The constraint `FK_expenses_user_id`. -/
def OwnersExist (db : Db) : Prop := ∀ e ∈ db.expenses, (db.users.find? e.userId).isSome = true

/-- A department has one spend, with these budget rows and with others, and the spend of
    the organisation is that of its budgeted departments together. -/
structure ReadingsAgree (cfg : Config) (threshold : Float) (db : Db) (budgets : Table DepartmentBudget.key)
    (year : Int) : Prop where
  department : ∀ departmentId summary summary',
    getDepartmentSummary cfg threshold db departmentId year = .ok summary →
    getDepartmentSummary cfg threshold { db with budgets } departmentId year = .ok summary' →
    summary.committedAmount = summary'.committedAmount ∧
      summary.reimbursedAmount = summary'.reimbursedAmount
  organization : ∀ org, getOrganizationSummary cfg threshold db year = .ok org →
    ∃ summaries, (budgetedDepartments db year).mapM (fun b =>
        getDepartmentSummary cfg threshold db b.departmentId year) = .ok summaries ∧
      org.committedAmount = (summaries.map BudgetUsageSummary.committedAmount).sum ∧
      org.reimbursedAmount = (summaries.map BudgetUsageSummary.reimbursedAmount).sum

/-- Submitted in the period. -/
def SubmittedIn (period : Instant × Instant) (e : Expense) : Bool :=
  e.submittedAt.any (fun t => period.1 ≤ t && t < period.2)

/-- No department has reimbursed spend of the year if it has a live row only here or only
    there, and no spend of the year is without a department while its owner is in a
    budgeted one. -/
structure SpendHasOnePlace (db : Db) (budgets : Table DepartmentBudget.key) (year : Int)
    (period : Instant × Instant) : Prop where
  reimbursed : ∀ departmentId, (db.departmentRelation (some departmentId)).isSome = true →
    (liveBudget db departmentId year).isSome ≠ (liveBudget { db with budgets } departmentId year).isSome →
    ∀ e ∈ db.expenses, e.departmentId = some departmentId → e.status = .REIMBURSED →
      SubmittedIn period e = false
  charged : ∀ e ∈ db.expenses, e.departmentId = none →
    countsTowardCommittedBudget e.status = true ∨ e.status = .REIMBURSED → SubmittedIn period e = true →
    ∀ u, db.users.find? e.userId = some u → ∀ b ∈ budgetedDepartments db year,
      u.departmentId ≠ some b.departmentId

section Department

variable {cfg : Config} {threshold : Float} {db : Db} {budgets : Table DepartmentBudget.key}
  {departmentId : Nat} {year : Int} {period : Instant × Instant} {summary : BudgetUsageSummary}

theorem yearPeriod_eq_ok (h : yearPeriod cfg year = .ok period) :
    BudgetPeriod.budgetYearRangeInTimeZone year cfg.budgetTimeZone = .ok period := by
  obtain ⟨_, -, hrange⟩ := Except.bind_eq_ok.1 h
  exact hrange

theorem liveBudget_eq_some {b : DepartmentBudget} (h : liveBudget db departmentId year = some b) :
    b ∈ db.budgets ∧ b.key = (departmentId, year) ∧ b.isLive = true := by
  obtain ⟨hfind, hlive⟩ := Option.filter_eq_some_iff.1 h
  exact ⟨Table.mem_of_find? hfind, Table.key_of_find? hfind, hlive⟩

/-- What a summary of spend is read from: the counters of the live row, or the sum over the
    expenses of the pipeline. -/
inductive ReadFrom (db : Db) (departmentId : Nat) (year : Int) (period : Instant × Instant)
    (summary : BudgetUsageSummary) : Prop
  | row (b : DepartmentBudget) (hlive : liveBudget db departmentId year = some b)
    (hcommitted : summary.committedAmount = b.committedAmount)
    (hreimbursed : summary.reimbursedAmount = b.reimbursedAmount)
  | pipeline (hlive : liveBudget db departmentId year = none)
    (hcommitted : summary.committedAmount =
      sumSpendForDepartmentYear db departmentId period countsTowardCommittedBudget)
    (hreimbursed : summary.reimbursedAmount = 0)

theorem getDepartmentSummary_eq_ok (hperiod : yearPeriod cfg year = .ok period)
    (h : getDepartmentSummary cfg threshold db departmentId year = .ok summary) :
    (db.departmentRelation (some departmentId)).isSome = true ∧
      ReadFrom db departmentId year period summary := by
  unfold getDepartmentSummary fetchDepartmentBudgetSummary at h
  rw [hperiod] at h
  obtain ⟨_, hsame, h⟩ := Except.bind_eq_ok.1 h
  cases hsame
  cases hrelation : db.departmentRelation (some departmentId) with
  | none =>
    rw [hrelation] at h
    cases h
  | some department =>
    rw [hrelation] at h
    refine ⟨rfl, ?_⟩
    cases hlive : liveBudget db departmentId year with
    | some b =>
      rw [hlive] at h
      cases h
      exact .row b hlive rfl rfl
    | none =>
      rw [hlive] at h
      cases h
      exact .pipeline hlive rfl rfl

/-- What the summary of a department with a live row says. -/
theorem summary_of_live (hperiod : yearPeriod cfg year = .ok period) (hcounters : CountersMatch cfg db)
    (hlive : (liveBudget db departmentId year).isSome = true)
    (h : getDepartmentSummary cfg threshold db departmentId year = .ok summary) :
    summary.committedAmount = committedSum db (departmentId, year) period ∧
      summary.reimbursedAmount = reimbursedSum db (departmentId, year) period := by
  cases (getDepartmentSummary_eq_ok hperiod h).2 with
  | row b hb hcommitted hreimbursed =>
    obtain ⟨hmem, hkey, hblive⟩ := liveBudget_eq_some hb
    obtain ⟨period', hperiod', hcommitted', hreimbursed'⟩ := hcounters b hmem hblive
    have hyear : b.year = year := congrArg Prod.snd hkey
    rw [hyear, yearPeriod_eq_ok hperiod] at hperiod'
    cases hperiod'
    rw [hkey] at hcommitted' hreimbursed'
    exact ⟨hcommitted.trans hcommitted', hreimbursed.trans hreimbursed'⟩
  | pipeline hnone =>
    rw [hnone] at hlive
    cases hlive

/-- What it says without one. -/
theorem summary_of_not_live (hperiod : yearPeriod cfg year = .ok period)
    (hlive : (liveBudget db departmentId year).isSome = false)
    (h : getDepartmentSummary cfg threshold db departmentId year = .ok summary) :
    summary.committedAmount + reimbursedSum db (departmentId, year) period =
        committedSum db (departmentId, year) period ∧ summary.reimbursedAmount = 0 := by
  cases (getDepartmentSummary_eq_ok hperiod h).2 with
  | row b hb =>
    rw [hb] at hlive
    cases hlive
  | pipeline hnone hcommitted hreimbursed =>
    rw [hcommitted]
    exact ⟨rfl, hreimbursed⟩

/-- A department that is there has a summary. -/
theorem exists_summary (threshold : Float) (hperiod : yearPeriod cfg year = .ok period)
    (h : (db.departmentRelation (some departmentId)).isSome = true) :
    ∃ summary, getDepartmentSummary cfg threshold db departmentId year = .ok summary := by
  obtain ⟨department, hdepartment⟩ := Option.isSome_iff_exists.1 h
  unfold getDepartmentSummary fetchDepartmentBudgetSummary
  rw [hperiod, hdepartment]
  cases liveBudget db departmentId year with
  | none => exact ⟨_, rfl⟩
  | some budget => exact ⟨_, rfl⟩

theorem ite_amount_nonneg (counted : Bool) (e : Expense) :
    0 ≤ (if counted = true then e.amount.val else 0) := by
  split
  · exact e.amount.property.le
  · exact le_refl 0

theorem ite_amount_eq_zero {counted : Bool} {e : Expense} :
    (if counted = true then e.amount.val else 0) = 0 ↔ counted = false := by
  have hpositive := e.amount.property
  cases counted with
  | true => simpa using hpositive.ne'
  | false => simp

theorem reimbursedSum_eq_zero_iff : reimbursedSum db (departmentId, year) period = 0 ↔
    ∀ e ∈ db.expenses, e.departmentId = some departmentId → e.status = .REIMBURSED →
      SubmittedIn period e = false := by
  unfold reimbursedSum sumSpendForDepartmentYear
  rw [Table.sum_eq_zero_iff (fun e _ => ite_amount_nonneg _ e)]
  refine forall₂_congr (fun e _ => ite_amount_eq_zero.trans ?_)
  by_cases hdepartment : e.departmentId = some departmentId <;>
    by_cases hstatus : e.status = .REIMBURSED <;> simp [hdepartment, hstatus, SubmittedIn]

/-- A department reads the same with these rows and with others exactly when it has a live
    row in both or in neither, or has no reimbursed spend. -/
theorem department_agrees_iff (hperiod : yearPeriod cfg year = .ok period) (hcounters : CountersMatch cfg db)
    (hcounters' : CountersMatch cfg { db with budgets })
    (hdepartment : (db.departmentRelation (some departmentId)).isSome = true) :
    (∀ summary summary', getDepartmentSummary cfg threshold db departmentId year = .ok summary →
      getDepartmentSummary cfg threshold { db with budgets } departmentId year = .ok summary' →
      summary.committedAmount = summary'.committedAmount ∧
        summary.reimbursedAmount = summary'.reimbursedAmount) ↔
    ((liveBudget db departmentId year).isSome ≠ (liveBudget { db with budgets } departmentId year).isSome →
      reimbursedSum db (departmentId, year) period = 0) := by
  obtain ⟨summary, hsummary⟩ := exists_summary threshold hperiod hdepartment
  obtain ⟨summary', hsummary'⟩ : ∃ summary',
      getDepartmentSummary cfg threshold { db with budgets } departmentId year = .ok summary' :=
    exists_summary threshold hperiod hdepartment
  have hpair : (∀ s s', getDepartmentSummary cfg threshold db departmentId year = .ok s →
      getDepartmentSummary cfg threshold { db with budgets } departmentId year = .ok s' →
      s.committedAmount = s'.committedAmount ∧ s.reimbursedAmount = s'.reimbursedAmount) ↔
      summary.committedAmount = summary'.committedAmount ∧
        summary.reimbursedAmount = summary'.reimbursedAmount := by
    refine ⟨fun h => h _ _ hsummary hsummary', fun h s s' hs hs' => ?_⟩
    cases hsummary.symm.trans hs
    cases hsummary'.symm.trans hs'
    exact h
  rw [hpair]
  cases hlive : (liveBudget db departmentId year).isSome <;>
    cases hlive' : (liveBudget { db with budgets } departmentId year).isSome
  · -- both sum over the expenses
    obtain ⟨hcommitted, hreimbursed⟩ := summary_of_not_live hperiod hlive hsummary
    obtain ⟨hcommitted', hreimbursed'⟩ := summary_of_not_live hperiod hlive' hsummary'
    refine ⟨fun _ h => absurd rfl h, fun _ => ⟨?_, hreimbursed.trans hreimbursed'.symm⟩⟩
    exact add_right_cancel (hcommitted.trans hcommitted'.symm)
  · obtain ⟨hcommitted, hreimbursed⟩ := summary_of_not_live hperiod hlive hsummary
    obtain ⟨hcommitted', hreimbursed'⟩ := summary_of_live hperiod hcounters' hlive' hsummary'
    refine ⟨fun h _ => ?_, fun h => ?_⟩
    · exact hreimbursed'.symm.trans (h.2.symm.trans hreimbursed)
    · have hzero := h (by decide)
      rw [hzero, add_zero] at hcommitted
      exact ⟨hcommitted.trans hcommitted'.symm, hreimbursed.trans (hzero.symm.trans hreimbursed'.symm)⟩
  · obtain ⟨hcommitted, hreimbursed⟩ := summary_of_live hperiod hcounters hlive hsummary
    obtain ⟨hcommitted', hreimbursed'⟩ := summary_of_not_live hperiod hlive' hsummary'
    refine ⟨fun h _ => ?_, fun h => ?_⟩
    · exact hreimbursed.symm.trans (h.2.trans hreimbursed')
    · have hzero : reimbursedSum db (departmentId, year) period = 0 := h (by decide)
      have hzero' : reimbursedSum { db with budgets } (departmentId, year) period = 0 := hzero
      rw [hzero', add_zero] at hcommitted'
      exact ⟨hcommitted.trans hcommitted'.symm, hreimbursed.trans (hzero.trans hreimbursed'.symm)⟩
  · -- both read the counters
    obtain ⟨hcommitted, hreimbursed⟩ := summary_of_live hperiod hcounters hlive hsummary
    obtain ⟨hcommitted', hreimbursed'⟩ := summary_of_live hperiod hcounters' hlive' hsummary'
    exact ⟨fun _ h => absurd rfl h, fun _ =>
      ⟨hcommitted.trans hcommitted'.symm, hreimbursed.trans hreimbursed'.symm⟩⟩

end Department

section Organization

variable {cfg : Config} {threshold : Float} {db : Db} {year : Int} {period : Instant × Instant}
  {statuses : ExpenseStatus → Bool} {b : DepartmentBudget} {e : Expense}

/-- A budgeted department is there, and has a live row. -/
theorem of_mem_budgetedDepartments (h : b ∈ budgetedDepartments db year) :
    (db.departmentRelation (some b.departmentId)).isSome = true ∧
      (liveBudget db b.departmentId year).isSome = true := by
  obtain ⟨hmem, hselected⟩ := List.mem_filter.1 h
  simp only [Bool.and_eq_true, decide_eq_true_eq] at hselected
  obtain ⟨⟨hyear, hlive⟩, hdepartment⟩ := hselected
  obtain ⟨d, hd, hthere⟩ := (Option.any_eq_true _ _).1 hdepartment
  constructor
  · refine Option.isSome_iff_exists.2 ⟨d, Option.filter_eq_some_iff.2 ⟨hd, ?_⟩⟩
    exact (Bool.and_eq_true_iff.1 hthere).1
  · have hkey : b.key = (b.departmentId, year) := Prod.ext rfl hyear
    refine Option.isSome_iff_exists.2 ⟨b, Option.filter_eq_some_iff.2 ⟨?_, hlive⟩⟩
    exact Table.find?_eq_some.2 ⟨hmem, hkey⟩

/-- What an expense counts for in a department, in the period and the statuses. -/
def chargedAmount (period : Instant × Instant) (statuses : ExpenseStatus → Bool) (b : DepartmentBudget)
    (e : Expense) : Int :=
  if e.departmentId = some b.departmentId && statuses e.status &&
      e.submittedAt.any (fun t => period.1 ≤ t && t < period.2)
  then e.amount.val else 0

/-- What it counts for through its owner. -/
def attributedAmount (db : Db) (year : Int) (period : Instant × Instant) (statuses : ExpenseStatus → Bool)
    (e : Expense) : Int :=
  if e.departmentId = none then joinedAmount db year period statuses e else 0

theorem sum_eq_zero_of_none (h : e.departmentId = none) (bs : List DepartmentBudget) :
    (bs.map (chargedAmount period statuses · e)).sum = 0 := by
  refine List.sum_eq_zero (fun n hn => ?_)
  obtain ⟨b, -, rfl⟩ := List.mem_map.1 hn
  simp [chargedAmount, h]

/-- The organisation counts what the departments count, and what it attributes. -/
theorem joinedAmount_eq (howner : (db.users.find? e.userId).isSome = true) :
    joinedAmount db year period statuses e =
      ((budgetedDepartments db year).map (chargedAmount period statuses · e)).sum +
        attributedAmount db year period statuses e := by
  unfold attributedAmount
  cases hdepartment : e.departmentId with
  | none => rw [sum_eq_zero_of_none hdepartment, zero_add, if_pos rfl]
  | some departmentId =>
    obtain ⟨u, hu⟩ := Option.isSome_iff_exists.1 howner
    rw [if_neg (by simp), add_zero]
    unfold joinedAmount
    rw [hu, hdepartment]
    by_cases hcounted :
        (statuses e.status && e.submittedAt.any (fun t => period.1 ≤ t && t < period.2)) = true
    · rw [if_pos hcounted]
      refine congrArg List.sum (List.map_congr_left (fun b _ => ?_))
      simp [chargedAmount, hdepartment, Bool.and_assoc, hcounted]
    · rw [if_neg hcounted]
      refine (List.sum_eq_zero (fun n hn => ?_)).symm
      obtain ⟨b, -, rfl⟩ := List.mem_map.1 hn
      simp [chargedAmount, Bool.and_assoc, hcounted]

theorem joinedAmount_nonneg : 0 ≤ joinedAmount db year period statuses e := by
  unfold joinedAmount
  split
  · split
    · exact le_refl 0
    · refine List.sum_nonneg (fun n hn => ?_)
      obtain ⟨b, -, rfl⟩ := List.mem_map.1 hn
      split
      · exact e.amount.property.le
      · exact le_refl 0
  · exact le_refl 0

theorem attributedAmount_nonneg : 0 ≤ attributedAmount db year period statuses e := by
  unfold attributedAmount
  split
  · exact joinedAmount_nonneg
  · exact le_refl 0

/-- Nothing is attributed of an expense unless its owner is in a budgeted department. -/
theorem attributedAmount_eq_zero_iff : attributedAmount db year period statuses e = 0 ↔
    (e.departmentId = none → statuses e.status = true → SubmittedIn period e = true →
      ∀ u, db.users.find? e.userId = some u → ∀ b ∈ budgetedDepartments db year,
        u.departmentId ≠ some b.departmentId) := by
  have hpositive := e.amount.property
  unfold attributedAmount
  by_cases hdepartment : e.departmentId = none
  · rw [if_pos hdepartment]
    unfold joinedAmount
    rw [hdepartment]
    by_cases hcounted :
        (statuses e.status && e.submittedAt.any (fun t => period.1 ≤ t && t < period.2)) = true
    · obtain ⟨hstatus, hsubmitted⟩ := Bool.and_eq_true_iff.1 hcounted
      rw [if_pos hcounted]
      cases hu : db.users.find? e.userId with
      | none => simp
      | some u =>
        dsimp only
        constructor
        · rintro hzero - - - _ ⟨⟩ b hb hsame
          have hle := List.single_le_sum (l := (budgetedDepartments db year).map (fun b =>
            if Option.or none u.departmentId = some b.departmentId then e.amount.val else 0)) ?_ _
            (List.mem_map_of_mem hb)
          · rw [hzero, Option.none_or, if_pos hsame] at hle
            omega
          · intro n hn
            obtain ⟨b, -, rfl⟩ := List.mem_map.1 hn
            split <;> omega
        · intro hnone
          refine List.sum_eq_zero (fun n hn => ?_)
          obtain ⟨b, hb, rfl⟩ := List.mem_map.1 hn
          rw [Option.none_or, if_neg (hnone rfl hstatus hsubmitted u rfl b hb)]
    · rw [if_neg hcounted]
      simp only [true_iff]
      exact fun _ hstatus hsubmitted => absurd (Bool.and_eq_true_iff.2 ⟨hstatus, hsubmitted⟩) hcounted
  · rw [if_neg hdepartment]
    simp only [true_iff]
    exact fun h => absurd h hdepartment

/-- What the organisation counts, by departments. -/
theorem sum_joinedAmount (howners : OwnersExist db) :
    db.expenses.sum (joinedAmount db year period statuses) =
      ((budgetedDepartments db year).map (fun b =>
        sumSpendForDepartmentYear db b.departmentId period statuses)).sum +
        db.expenses.sum (attributedAmount db year period statuses) := by
  have hsplit : db.expenses.sum (joinedAmount db year period statuses) = db.expenses.sum (fun e =>
      ((budgetedDepartments db year).map (chargedAmount period statuses · e)).sum +
        attributedAmount db year period statuses e) :=
    Table.sum_congr (fun e he => joinedAmount_eq (howners e he))
  rw [hsplit, Table.sum_add, ← Table.sum_sums]
  rfl

theorem sum_attributedAmount_eq_zero_iff :
    db.expenses.sum (attributedAmount db year period statuses) = 0 ↔ ∀ e ∈ db.expenses,
      e.departmentId = none → statuses e.status = true → SubmittedIn period e = true →
        ∀ u, db.users.find? e.userId = some u → ∀ b ∈ budgetedDepartments db year,
          u.departmentId ≠ some b.departmentId := by
  rw [Table.sum_eq_zero_iff (fun _ _ => attributedAmount_nonneg)]
  exact forall₂_congr (fun e _ => attributedAmount_eq_zero_iff)

/-- The amounts of the organisation are those of the departments and what is attributed. -/
theorem getOrganizationSummary_eq_ok (threshold : Float) (hperiod : yearPeriod cfg year = .ok period)
    (hcounters : CountersMatch cfg db) (howners : OwnersExist db) :
    ∃ org summaries, getOrganizationSummary cfg threshold db year = .ok org ∧
      (budgetedDepartments db year).mapM (fun b =>
        getDepartmentSummary cfg threshold db b.departmentId year) = .ok summaries ∧
      org.committedAmount = (summaries.map BudgetUsageSummary.committedAmount).sum +
        (db.expenses.sum (attributedAmount db year period countsTowardCommittedBudget) +
          db.expenses.sum (attributedAmount db year period (· = .REIMBURSED))) ∧
      org.reimbursedAmount = (summaries.map BudgetUsageSummary.reimbursedAmount).sum +
        db.expenses.sum (attributedAmount db year period (· = .REIMBURSED)) := by
  obtain ⟨summaries, hsummaries⟩ : ∃ summaries, (budgetedDepartments db year).mapM (fun b =>
      getDepartmentSummary cfg threshold db b.departmentId year) = .ok summaries :=
    Except.exists_mapM_eq_ok (fun b hb =>
      exists_summary threshold hperiod (of_mem_budgetedDepartments hb).1)
  have hcommitted : summaries.map BudgetUsageSummary.committedAmount = (budgetedDepartments db year).map
      (fun b => committedSum db (b.departmentId, year) period) :=
    Except.map_of_mapM hsummaries (fun b hb summary hsummary =>
      (summary_of_live hperiod hcounters (of_mem_budgetedDepartments hb).2 hsummary).1)
  have hreimbursed : summaries.map BudgetUsageSummary.reimbursedAmount = (budgetedDepartments db year).map
      (fun b => reimbursedSum db (b.departmentId, year) period) :=
    Except.map_of_mapM hsummaries (fun b hb summary hsummary =>
      (summary_of_live hperiod hcounters (of_mem_budgetedDepartments hb).2 hsummary).2)
  have hrun : ∃ org, getOrganizationSummary cfg threshold db year = .ok org ∧
      org.committedAmount = db.expenses.sum (joinedAmount db year period countsTowardCommittedBudget) +
        db.expenses.sum (joinedAmount db year period (· = .REIMBURSED)) ∧
      org.reimbursedAmount = db.expenses.sum (joinedAmount db year period (· = .REIMBURSED)) := by
    unfold getOrganizationSummary
    rw [hperiod]
    exact ⟨_, rfl, rfl, rfl⟩
  obtain ⟨org, horg, horgCommitted, horgReimbursed⟩ := hrun
  refine ⟨org, summaries, horg, hsummaries, ?_, ?_⟩
  · have hsum : ((budgetedDepartments db year).map (fun b =>
        committedSum db (b.departmentId, year) period)).sum =
        ((budgetedDepartments db year).map (fun b =>
          sumSpendForDepartmentYear db b.departmentId period countsTowardCommittedBudget)).sum +
        ((budgetedDepartments db year).map (fun b =>
          sumSpendForDepartmentYear db b.departmentId period (· = .REIMBURSED))).sum :=
      List.sum_map_add
    rw [horgCommitted, hcommitted, hsum, sum_joinedAmount howners, sum_joinedAmount howners]
    ring
  · rw [horgReimbursed, hreimbursed, sum_joinedAmount howners]
    rfl

/-- The organisation counts what its departments count exactly when it attributes nothing. -/
theorem organization_agrees_iff (hperiod : yearPeriod cfg year = .ok period)
    (hcounters : CountersMatch cfg db) (howners : OwnersExist db) :
    (∀ org, getOrganizationSummary cfg threshold db year = .ok org →
      ∃ summaries, (budgetedDepartments db year).mapM (fun b =>
          getDepartmentSummary cfg threshold db b.departmentId year) = .ok summaries ∧
        org.committedAmount = (summaries.map BudgetUsageSummary.committedAmount).sum ∧
        org.reimbursedAmount = (summaries.map BudgetUsageSummary.reimbursedAmount).sum) ↔
      ∀ e ∈ db.expenses, e.departmentId = none →
        countsTowardCommittedBudget e.status = true ∨ e.status = .REIMBURSED →
        SubmittedIn period e = true →
        ∀ u, db.users.find? e.userId = some u → ∀ b ∈ budgetedDepartments db year,
          u.departmentId ≠ some b.departmentId := by
  obtain ⟨org, summaries, horg, hsummaries, hcommitted, hreimbursed⟩ :=
    getOrganizationSummary_eq_ok threshold hperiod hcounters howners
  have hpipelineNonneg :
      0 ≤ db.expenses.sum (attributedAmount db year period countsTowardCommittedBudget) :=
    Table.sum_nonneg (fun _ _ => attributedAmount_nonneg)
  have hreimbursedNonneg : 0 ≤ db.expenses.sum (attributedAmount db year period (· = .REIMBURSED)) :=
    Table.sum_nonneg (fun _ _ => attributedAmount_nonneg)
  constructor
  · intro hagrees e he hdepartment hstatus
    obtain ⟨summaries', hsummaries', hcommitted', hreimbursed'⟩ := hagrees org horg
    cases hsummaries.symm.trans hsummaries'
    rcases hstatus with hstatus | hstatus
    · have hzero : db.expenses.sum
          (attributedAmount db year period countsTowardCommittedBudget) = 0 := by omega
      exact sum_attributedAmount_eq_zero_iff.1 hzero e he hdepartment hstatus
    · have hzero : db.expenses.sum (attributedAmount db year period (· = .REIMBURSED)) = 0 := by omega
      exact sum_attributedAmount_eq_zero_iff.1 hzero e he hdepartment (decide_eq_true hstatus)
  · intro hnone org' horg'
    cases horg.symm.trans horg'
    have hpipelineZero : db.expenses.sum
        (attributedAmount db year period countsTowardCommittedBudget) = 0 :=
      sum_attributedAmount_eq_zero_iff.2 (fun e he hdepartment hstatus =>
        hnone e he hdepartment (.inl hstatus))
    have hreimbursedZero : db.expenses.sum (attributedAmount db year period (· = .REIMBURSED)) = 0 :=
      sum_attributedAmount_eq_zero_iff.2 (fun e he hdepartment hstatus =>
        hnone e he hdepartment (.inr (of_decide_eq_true hstatus)))
    exact ⟨summaries, hsummaries, by omega, by omega⟩

end Organization

/-- The readings of committed spend agree exactly when every amount is charged to a
    department, and reimbursed spend only to those with a live row. -/
theorem readings_agree_iff (cfg : Config) (threshold : Float) (db : Db) (budgets : Table DepartmentBudget.key)
    (year : Int) (hcounters : CountersMatch cfg db) (hcounters' : CountersMatch cfg { db with budgets })
    (howners : OwnersExist db) :
    ReadingsAgree cfg threshold db budgets year ↔
      ∀ period, yearPeriod cfg year = .ok period → SpendHasOnePlace db budgets year period := by
  constructor
  · rintro ⟨hdepartment, horganization⟩ period hperiod
    refine ⟨fun departmentId hthere hrows => ?_,
      (organization_agrees_iff hperiod hcounters howners).1 horganization⟩
    exact reimbursedSum_eq_zero_iff.1 ((department_agrees_iff hperiod hcounters hcounters' hthere).1
      (hdepartment departmentId) hrows)
  · intro hplace
    cases hperiod : yearPeriod cfg year with
    | error e =>
      refine ⟨fun departmentId summary summary' hsummary => ?_, fun org horg => ?_⟩
      · rw [getDepartmentSummary, hperiod] at hsummary
        cases hsummary
      · rw [getOrganizationSummary, hperiod] at horg
        cases horg
    | ok period =>
      obtain ⟨hreimbursed, hcharged⟩ := hplace period hperiod
      refine ⟨fun departmentId summary summary' hsummary hsummary' => ?_,
        (organization_agrees_iff hperiod hcounters howners).2 hcharged⟩
      have hthere := (getDepartmentSummary_eq_ok hperiod hsummary).1
      exact (department_agrees_iff hperiod hcounters hcounters' hthere).2 (fun hrows =>
        reimbursedSum_eq_zero_iff.2 (hreimbursed departmentId hthere hrows))
        summary summary' hsummary hsummary'

/-! ## A budget that is switched off -/

namespace Sample

/-- One expense of the department, from the draft to the payment. -/
@[irreducible] def paid : Db := runAll Sample.config Sample.lifecycle Sample.dbWithBudget

/-- The same before the payment. -/
@[irreducible] def unpaid : Db := runAll Sample.config (Sample.lifecycle.take 4) Sample.dbWithBudget

/-- The budgets after an update with `isActive: false`. -/
def budgetsOff (db : Db) : Table DepartmentBudget.key :=
  (runAll Sample.config [.updateBudget "BUD1700000000001AAAAAA" ⟨none, some false⟩] db).budgets

@[irreducible] def switchedOff : Table DepartmentBudget.key := budgetsOff paid

@[irreducible] def unpaidOff : Table DepartmentBudget.key := budgetsOff unpaid

/-- 2025, in UTC. -/
def period2025 : Instant × Instant := (Date.utc 2025 0 1 0 0 0, Date.utc 2026 0 1 0 0 0)

/-- Budgets of 2025 whose counters are the sums, and expenses with owners and departments. -/
def Checked (db : Db) : Prop :=
  (∀ b ∈ db.budgets.rows, b.year = 2025 ∧
      (b.committedAmount : Int) = committedSum db b.key period2025 ∧
      (b.reimbursedAmount : Int) = reimbursedSum db b.key period2025) ∧
    ∀ e ∈ db.expenses.rows, (db.users.find? e.userId).isSome = true ∧ e.departmentId ≠ none

instance (db : Db) : Decidable (Checked db) := inferInstanceAs (Decidable (_ ∧ _))

theorem checked_paid : Checked paid := by decide +kernel

theorem checked_unpaid : Checked unpaid := by decide +kernel

theorem Checked.countersMatch {db : Db} (h : Checked db) : CountersMatch Sample.config db := by
  intro b hb _
  obtain ⟨hyear, hcommitted, hreimbursed⟩ := h.1 b hb
  exact ⟨period2025, by rw [hyear]; rfl, hcommitted, hreimbursed⟩

theorem Checked.ownersExist {db : Db} (h : Checked db) : OwnersExist db := fun e he => (h.2 e he).1

/-- Rows that are switched off have no counters to match. -/
theorem countersMatch_of_off {db : Db} {budgets : Table DepartmentBudget.key}
    (hoff : ∀ b ∈ budgets.rows, b.isLive = false) :
    CountersMatch Sample.config { db with budgets } :=
  fun b hb hlive => absurd ((hoff b hb).symm.trans hlive) Bool.false_ne_true

end Sample

/-- With its budget the department has spent what was reimbursed, without it nothing. -/
theorem spend_lost_with_row : CountersMatch Sample.config Sample.paid ∧
    CountersMatch Sample.config { Sample.paid with budgets := Sample.switchedOff } ∧
    OwnersExist Sample.paid ∧
    ¬ ReadingsAgree Sample.config 80 Sample.paid Sample.switchedOff 2025 := by
  have hoff : ∀ b ∈ Sample.switchedOff.rows, b.isLive = false := by decide +kernel
  refine ⟨Sample.checked_paid.countersMatch, Sample.countersMatch_of_off hoff,
    Sample.checked_paid.ownersExist, fun h => ?_⟩
  · have hread : (getDepartmentSummary Sample.config 80 Sample.paid 1 2025).toOption.map
        BudgetUsageSummary.committedAmount = some 5000 := by decide +kernel
    have hread' : (getDepartmentSummary Sample.config 80
        { Sample.paid with budgets := Sample.switchedOff } 1 2025).toOption.map
          BudgetUsageSummary.committedAmount = some 0 := by decide +kernel
    cases hsummary : getDepartmentSummary Sample.config 80 Sample.paid 1 2025 with
    | error e =>
      rw [hsummary] at hread
      cases hread
    | ok summary =>
      cases hsummary' : getDepartmentSummary Sample.config 80
          { Sample.paid with budgets := Sample.switchedOff } 1 2025 with
      | error e =>
        rw [hsummary'] at hread'
        cases hread'
      | ok summary' =>
        rw [hsummary] at hread
        rw [hsummary'] at hread'
        have hsame := (h.department 1 summary summary' hsummary hsummary').1
        have hcommitted : summary.committedAmount = 5000 := Option.some.inj hread
        have hcommitted' : summary'.committedAmount = 0 := Option.some.inj hread'
        omega

/-- Before the payment the spend is that of the pipeline, with the live row and without it. -/
theorem readings_agree_iff_sample :
    (liveBudget Sample.unpaid 1 2025).isSome = true ∧
      liveBudget { Sample.unpaid with budgets := Sample.unpaidOff } 1 2025 = none ∧
      ReadingsAgree Sample.config 80 Sample.unpaid Sample.unpaidOff 2025 := by
  have hoff : ∀ b ∈ Sample.unpaidOff.rows, b.isLive = false := by decide +kernel
  have hunpaid : ∀ e ∈ Sample.unpaid.expenses.rows, e.status ≠ .REIMBURSED := by decide +kernel
  refine ⟨by decide +kernel, by decide +kernel, (readings_agree_iff Sample.config 80 Sample.unpaid
    Sample.unpaidOff 2025 Sample.checked_unpaid.countersMatch (Sample.countersMatch_of_off hoff)
    Sample.checked_unpaid.ownersExist).2 (fun period _ => ⟨?_, ?_⟩)⟩
  · exact fun departmentId _ _ e he _ hstatus => absurd hstatus (hunpaid e he)
  · exact fun e he hdepartment => absurd hdepartment (Sample.checked_unpaid.2 e he).2

end BudgetSummaries

end Expentra
