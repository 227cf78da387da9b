-- SUMMARY: Budget summaries, the checks submit and approve make against them, and budget administration.
import Expentra.Budget.Sync

/-!
# The budget service

What a department has committed in a year, whether an expense would exceed its
limit, and the operations that create and change budget rows.
-/

namespace Expentra

open Library

/-- The settings the services read from `ConfigService`. -/
structure Config where
  /-- `BUDGET_TIMEZONE` -/
  budgetTimeZone : TimeZone
  /-- `BUDGET_BLOCK_SUBMIT_ON_OVERSPEND` -/
  blockSubmitOnOverspend : Bool

structure BudgetUsageSummary where
  amountLimit : Int
  committedAmount : Int
  budget : Option DepartmentBudget

structure BudgetSubmitEvaluation where
  allowed : Bool
  summary : Option BudgetUsageSummary
  projectedCommittedAmount : Int
  wouldExceed : Bool

structure BudgetApproveEvaluation where
  committedAmount : Int
  wouldExceed : Bool

namespace BudgetService

def assertValidYear (year : Int) : Except HttpException Unit :=
  if year < 2000 || 2100 < year then .error (.badRequest "Invalid budget year") else .ok ()

/-- `assertPositiveLimit`, for the integers the request validation lets through. -/
def assertPositiveLimit (amount : Int) : Except HttpException Unit :=
  if amount ≤ 0 then
    .error (.badRequest "Budget limit must be a positive whole number in minor units")
  else .ok ()

def assertCreatableBudgetYear (cfg : Config) (now : Instant) (year : Int) :
    Except HttpException Unit :=
  if year < BudgetPeriod.resolveBudgetYear now cfg.budgetTimeZone then
    .error (.badRequest "Budget year cannot be in the past")
  else .ok ()

/-- `SUM(e.amount)` over the expenses of a department that were submitted in
    [start, end) and have one of the statuses. -/
def sumSpendForDepartmentYear (db : Db) (departmentId : Nat) (period : Instant × Instant)
    (statuses : ExpenseStatus → Bool) : Int :=
  db.expenses.sum (fun e =>
    if e.departmentId = some departmentId && statuses e.status &&
        e.submittedAt.any (fun t => period.1 ≤ t && t < period.2)
    then e.amount.val else 0)

/-- The live budget row of a department and year. -/
def liveBudget (db : Db) (departmentId : Nat) (year : Int) : Option DepartmentBudget :=
  (db.budgets.find? (departmentId, year)).filter (·.isLive)

def loadDepartmentBudgetSummary (cfg : Config) (db : Db) (departmentId : Nat) (year : Int) :
    Except HttpException (Option BudgetUsageSummary) := do
  let period ← BudgetPeriod.budgetYearRangeInTimeZone year cfg.budgetTimeZone
  match db.departmentRelation (some departmentId) with
  | none => pure none
  | some _ =>
    match liveBudget db departmentId year with
    | some budget => pure (some ⟨budget.amountLimit, budget.committedAmount, some budget⟩)
    | none =>
      pure (some ⟨0, sumSpendForDepartmentYear db departmentId period countsTowardCommittedBudget,
        none⟩)

def getDepartmentSummary (cfg : Config) (db : Db) (departmentId : Nat) (year : Int) :
    Except HttpException BudgetUsageSummary := do
  assertValidYear year
  match ← loadDepartmentBudgetSummary cfg db departmentId year with
  | some summary => pure summary
  | none => throw (.notFound "Department not found")

def noDepartmentBudgetEvaluation (amount : Int) : BudgetSubmitEvaluation where
  allowed := true
  summary := none
  projectedCommittedAmount := amount
  wouldExceed := false

def buildSubmitEvaluation (cfg : Config) (summary : BudgetUsageSummary) (amount : Int) :
    BudgetSubmitEvaluation :=
  let projectedCommittedAmount := summary.committedAmount + amount
  match summary.budget with
  | none => ⟨true, some summary, projectedCommittedAmount, false⟩
  | some _ =>
    let wouldExceed : Bool := summary.amountLimit < projectedCommittedAmount
    ⟨!cfg.blockSubmitOnOverspend || !wouldExceed,
      some { summary with committedAmount := projectedCommittedAmount },
      projectedCommittedAmount, wouldExceed⟩

/-- `evaluateExpenseSubmitInTransaction`; the lock on the budget row is held by
    the one transaction that runs. -/
def evaluateExpenseSubmit (cfg : Config) (db : Db) (userId : Nat) (amount : Int)
    (submittedAt : Instant) (departmentId : Option Nat) :
    Except HttpException BudgetSubmitEvaluation :=
  match db.resolveDepartmentForSubmit userId departmentId with
  | none => .ok (noDepartmentBudgetEvaluation amount)
  | some departmentId => do
    let budgetYear := BudgetPeriod.resolveBudgetYear submittedAt cfg.budgetTimeZone
    let summary ← getDepartmentSummary cfg db departmentId budgetYear
    pure (buildSubmitEvaluation cfg summary amount)

def evaluateExpenseApprove (cfg : Config) (db : Db) (departmentId : Option Nat) (asOf : Instant) :
    Except HttpException BudgetApproveEvaluation :=
  match departmentId with
  | none => .ok ⟨0, false⟩
  | some departmentId => do
    let budgetYear := BudgetPeriod.resolveBudgetYear asOf cfg.budgetTimeZone
    let summary ← getDepartmentSummary cfg db departmentId budgetYear
    match summary.budget with
    | none => pure ⟨summary.committedAmount, false⟩
    | some _ => pure ⟨summary.committedAmount, summary.amountLimit < summary.committedAmount⟩

/-! ## Administration -/

structure CreateDepartmentBudgetInput where
  departmentReference : String
  year : Int
  amountLimit : Int
deriving DecidableEq, Repr

structure UpdateDepartmentBudgetInput where
  amountLimit : Option Int
  isActive : Option Bool
deriving DecidableEq, Repr

/-- The row `create` inserts: active, with both counters at their default. -/
def newBudget (reference : String) (departmentId : Nat) (year : Int) (amountLimit : Nat) :
    Option DepartmentBudget :=
  if h : budgetRepresentable amountLimit 0 0 then
    some ⟨reference, departmentId, year, amountLimit, true, 0, 0, none, h⟩
  else none

def findDepartment (db : Db) (reference : String) : Except HttpException Department :=
  findEntityByReference (db.departments.rows.filter (·.deletedAt.isNone)) (·.reference) reference
    "Department not found"

/-- `BudgetService.create`; `reference` is the one `assignReference` draws. -/
def create (cfg : Config) (now : Instant) (reference : String)
    (input : CreateDepartmentBudgetInput) : Tx Unit := do
  Transaction.lift (assertValidYear input.year)
  Transaction.lift (assertCreatableBudgetYear cfg now input.year)
  Transaction.lift (assertPositiveLimit input.amountLimit)
  let department ← Transaction.query (findDepartment · input.departmentReference)
  Transaction.require (department.isActive = true) (.notFound "Department not found")
  let existing ← Transaction.read (fun db =>
    (db.budgets.find? (department.id, input.year)).filter (·.deletedAt.isNone))
  Transaction.require (existing.isNone = true)
    (.conflict "A budget already exists for this department and year")
  let budget ← Transaction.getOrThrow
    (newBudget reference department.id input.year input.amountLimit.toNat) (.queryFailed "22003")
  let budgets ← Transaction.read (fun db => db.budgets.insert? budget)
  let budgets ← Transaction.getOrThrow budgets (.queryFailed "23505")
  Transaction.write (fun db => { db with budgets := budgets })

def findOne (db : Db) (reference : String) : Except HttpException DepartmentBudget :=
  findEntityByReference (db.budgets.rows.filter (·.deletedAt.isNone)) (·.reference) reference
    "Budget not found"

/-- The row with another limit and flag, when the columns can hold them. -/
def withLimit (budget : DepartmentBudget) (amountLimit : Nat) (isActive : Bool) :
    Option DepartmentBudget :=
  if h : budgetRepresentable amountLimit budget.committedAmount budget.reimbursedAmount then
    some { budget with amountLimit, isActive, representable := h }
  else none

def update (reference : String) (input : UpdateDepartmentBudgetInput) : Tx Unit := do
  let budget ← Transaction.query (findOne · reference)
  Transaction.lift (match input.amountLimit with
    | some amountLimit => assertPositiveLimit amountLimit
    | none => .ok ())
  let amountLimit := (input.amountLimit.map Int.toNat).getD budget.amountLimit
  let isActive := input.isActive.getD budget.isActive
  let updated ← Transaction.getOrThrow (withLimit budget amountLimit isActive) (.queryFailed "22003")
  Transaction.write (fun db => { db with budgets := db.budgets.replace updated })

/-! ## Specs -/

section Specs

variable {cfg : Config} {db db' : Db} {now : Instant} {reference : String} {u : Unit}

/-- A created budget is a new active row with empty counters. -/
theorem create_ok {input : CreateDepartmentBudgetInput}
    (h : create cfg now reference input db = .ok (u, db')) :
    ∃ department budget budgets, findDepartment db input.departmentReference = .ok department ∧
      db.budgets.insert? budget = some budgets ∧
      db' = { db with budgets := budgets } ∧
      budget.key = (department.id, input.year) ∧ budget.isLive = true ∧
      budget.committedAmount = 0 ∧ budget.reimbursedAmount = 0 := by
  simp only [create, Transaction.lift_bind_eq_ok, Transaction.query_bind_eq_ok,
    Transaction.require_bind_eq_ok, Transaction.read_bind, Transaction.getOrThrow_bind_eq_ok,
    Transaction.write_eq_ok] at h
  obtain ⟨_, -, _, -, _, -, department, hdept, -, -, budget, hnew, budgets, hins, rfl⟩ := h
  refine ⟨department, budget, budgets, hdept, hins, rfl, ?_⟩
  unfold newBudget at hnew
  split at hnew
  · cases hnew
    exact ⟨rfl, rfl, rfl, rfl⟩
  · cases hnew

/-- An updated budget keeps its key and its counters. -/
theorem update_ok {input : UpdateDepartmentBudgetInput}
    (h : update reference input db = .ok (u, db')) :
    ∃ budget ∈ db.budgets, ∃ updated, findOne db reference = .ok budget ∧
      db' = { db with budgets := db.budgets.replace updated } ∧
      budget.deletedAt = none ∧ updated.key = budget.key ∧ updated.deletedAt = budget.deletedAt ∧
      updated.isActive = input.isActive.getD budget.isActive ∧
      updated.committedAmount = budget.committedAmount ∧
      updated.reimbursedAmount = budget.reimbursedAmount := by
  simp only [update, Transaction.lift_bind_eq_ok, Transaction.query_bind_eq_ok,
    Transaction.getOrThrow_bind_eq_ok, Transaction.write_eq_ok] at h
  obtain ⟨budget, hfind, _, -, updated, hwith, rfl⟩ := h
  have hmem := List.mem_filter.1 (findEntityByReference_eq_ok hfind).1
  refine ⟨budget, hmem.1, updated, hfind, rfl, by simpa using hmem.2, ?_⟩
  unfold withLimit at hwith
  split at hwith
  · cases hwith
    exact ⟨rfl, rfl, rfl, rfl, rfl⟩
  · cases hwith

/-- The check of a submission reads owners, departments, budgets and what counts as
    spend. -/
theorem evaluateExpenseSubmit_congr {db₁ : Db} (husers : db₁.users = db.users)
    (hdepartments : db₁.departments = db.departments) (hbudgets : db₁.budgets = db.budgets)
    (hspend : ∀ departmentId period,
      sumSpendForDepartmentYear db₁ departmentId period countsTowardCommittedBudget =
        sumSpendForDepartmentYear db departmentId period countsTowardCommittedBudget)
    (userId : Nat) (amount : Int) (submittedAt : Instant) (departmentId : Option Nat) :
    evaluateExpenseSubmit cfg db₁ userId amount submittedAt departmentId =
      evaluateExpenseSubmit cfg db userId amount submittedAt departmentId := by
  have hresolve := Db.resolveDepartmentForSubmit_congr husers
  have hrelation : db₁.departmentRelation = db.departmentRelation := by
    funext departmentId
    unfold Db.departmentRelation
    rw [hdepartments]
  have hlive : liveBudget db₁ = liveBudget db := by
    funext departmentId year
    unfold liveBudget
    rw [hbudgets]
  have hload : loadDepartmentBudgetSummary cfg db₁ = loadDepartmentBudgetSummary cfg db := by
    funext departmentId year
    simp only [loadDepartmentBudgetSummary, hrelation, hlive, hspend]
  simp only [evaluateExpenseSubmit, getDepartmentSummary, hresolve, hload]

/-- The summary of a live budget row is the row. -/
theorem getDepartmentSummary_of_live {departmentId : Nat} {year : Int} {summary : BudgetUsageSummary}
    {budget : DepartmentBudget} (h : getDepartmentSummary cfg db departmentId year = .ok summary)
    (hlive : liveBudget db departmentId year = some budget) :
    summary = ⟨budget.amountLimit, budget.committedAmount, some budget⟩ := by
  obtain ⟨_, -, h⟩ := Except.bind_eq_ok.1 h
  obtain ⟨loaded, hload, h⟩ := Except.bind_eq_ok.1 h
  obtain ⟨_, -, hload⟩ := Except.bind_eq_ok.1 hload
  rw [hlive] at hload
  split at hload
  · cases hload
    cases h
  · cases hload
    cases h
    rfl

/-- A submission is allowed under a live budget when blocking is off or its amount
    fits under the limit. -/
theorem allowed_of_live {userId departmentId : Nat} {amount : Int} {submittedAt : Instant}
    {evaluation : BudgetSubmitEvaluation} {budget : DepartmentBudget}
    (h : evaluateExpenseSubmit cfg db userId amount submittedAt (some departmentId) = .ok evaluation)
    (hlive : liveBudget db departmentId
      (BudgetPeriod.resolveBudgetYear submittedAt cfg.budgetTimeZone) = some budget) :
    evaluation.allowed = true ↔
      cfg.blockSubmitOnOverspend = false ∨ budget.committedAmount + amount ≤ budget.amountLimit := by
  obtain ⟨summary, hsummary, h⟩ := Except.bind_eq_ok.1 h
  cases getDepartmentSummary_of_live hsummary hlive
  cases h
  simp [buildSubmitEvaluation]

end Specs

end BudgetService

end Expentra
