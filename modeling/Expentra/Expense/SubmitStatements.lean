-- SUMMARY: The transaction of a submission, statement by statement, so that the statements of many submissions interleave.
import Expentra.Expense.Submit
import Expentra.Library.Locking

/-!
# The statements of a submission

`commitSubmit` runs the transaction of a submission as one step. Here every
statement is a step: what a submission reads may have been committed by another
one since its last statement. The row of the expense and that of the budget are
locked, the one when the draft is loaded, the other before its counters are read.
-/

namespace Expentra.SubmitStatements

open Library ExpenseMutationSupport

/-- The rows a submission locks. -/
inductive RowKey where
  | expense (id : Nat)
  | budget (key : Nat × Int)
deriving DecidableEq

/-- The arguments of the transaction. -/
structure SubmitArgs where
  authUser : AuthUser
  reference : String
  submitAt : Instant

/-- The writes of a transaction that has saved its expense. -/
structure Writes where
  saved : Expense
  budgets : List DepartmentBudget
  outbox : List OutboxEvent

/-- The database with the writes of the transaction. -/
def Writes.apply (writes : Writes) (db : Db) : Db :=
  { db with
    expenses := db.expenses.replace writes.saved
    budgets := writes.budgets.foldl (fun budgets budget => budgets.replace budget) db.budgets
    outbox := db.outbox ++ writes.outbox }

/-- What is left to do after the expense is saved. -/
structure Work where
  writes : Writes
  /-- The deltas that are still to be applied. -/
  deltas : List ((Nat × Int) × Int)
  /-- The events that are still to be published. -/
  events : List DomainEventType

/-- The statement a submission waits for, or its result. -/
inductive Phase where
  /-- `findEntityByReference` -/
  | finding (args : SubmitArgs)
  /-- `SELECT … FOR UPDATE` of the expense -/
  | locking (args : SubmitArgs) (id : Nat)
  | loadingLevels (args : SubmitArgs) (expense : ExpenseEntity)
  /-- The owner's department, if the expense has none. -/
  | loadingOwner (args : SubmitArgs) (expense : ExpenseEntity) (levels : List ApprovalLevel)
  | loadingDepartment (args : SubmitArgs) (expense : ExpenseEntity) (levels : List ApprovalLevel)
  /-- `lockDepartmentBudgetRow` of the check -/
  | lockingBudget (args : SubmitArgs) (expense : ExpenseEntity) (levels : List ApprovalLevel)
  /-- `loadDepartmentBudgetSummary` -/
  | summarising (args : SubmitArgs) (expense : ExpenseEntity) (levels : List ApprovalLevel)
  | saving (args : SubmitArgs) (expense : ExpenseEntity) (levels : List ApprovalLevel)
      (budgetCheck : BudgetSubmitEvaluation)
  /-- `lockDepartmentBudgetRow` of the next delta -/
  | lockingDelta (args : SubmitArgs) (work : Work)
  /-- The `UPDATE` of the next delta -/
  | updating (args : SubmitArgs) (work : Work)
  | publishing (args : SubmitArgs) (work : Work)
  | committing (args : SubmitArgs) (writes : Writes)
  | rollingBack (exception : HttpException)
  | ended (result : Except HttpException Unit)

/-- What the surroundings decide: the clock, or that the statement throws (the
    connection is lost, or the transaction is the victim of a deadlock). -/
inductive Outcome where
  | runs (now : Instant)
  | throws (exception : HttpException)

/-! ## The statements -/

/-- The rest of a step, unless the value is an exception. -/
def orRollBack {α : Type} (result : Except HttpException α) (next : α → Phase) : Phase :=
  match result with
  | .ok a => next a
  | .error exception => .rollingBack exception

/-- The budget row of a key that the check and the deltas lock. -/
def budgetRow (key : Nat × Int) (db : Db) : Option RowKey :=
  ((db.budgets.find? key).filter (·.isLive)).map (fun _ => .budget key)

/-- Department and year the submission is charged to. -/
def budgetKey (cfg : Config) (args : SubmitArgs) (expense : ExpenseEntity) : Option (Nat × Int) :=
  expense.departmentId.toOption.map (fun departmentId =>
    (departmentId, BudgetPeriod.resolveBudgetYear args.submitAt cfg.budgetTimeZone))

/-- The deltas of `syncCommittedAmountForExpenseTransition` for a transition that is
    no reimbursement. -/
def committedDeltas (timeZone : TimeZone) (db : Db) (before after : ExpenseBudgetSnapshot) :
    List ((Nat × Int) × Int) :=
  if !expenseBudgetAttributionChanged (some before) (some after) then []
  else (accumulate timeZone db (accumulate timeZone db ∅ (some before) (-1)) (some after) 1).rows

/-- The check of the budget, on what the summary says. -/
def checkBudget (cfg : Config) (args : SubmitArgs) (expense : ExpenseEntity) (db : Db) :
    Except HttpException BudgetSubmitEvaluation := do
  let budgetCheck ← BudgetService.evaluateExpenseSubmit cfg db args.authUser.id expense.amount.val
    args.submitAt expense.departmentId.toOption
  if budgetCheck.allowed then pure budgetCheck
  else throw (.badRequest "Submitting this expense would exceed your department annual budget")

/-- The department and the manager rule. -/
def checkDepartment (db : Db) (expense : ExpenseEntity) (levels : List ApprovalLevel) :
    Except HttpException ExpenseEntity :=
  let expense := ExpenseSubmit.attachDepartment db expense
  if ExpenseSubmit.lacksDepartmentManager db expense levels then .error (.badRequest
    "Your department must have an assigned manager before expenses can be submitted for approval")
  else .ok expense

/-- `save` of the expense. -/
def save (cfg : Config) (args : SubmitArgs) (expense : ExpenseEntity) (levels : List ApprovalLevel)
    (budgetCheck : BudgetSubmitEvaluation) (db : Db) : Except HttpException Work :=
  match db.expenses.find? expense.id with
  | none => .error (.notFound "Expense not found")
  | some row =>
    let persisted := ExpenseSubmit.submitted expense levels args.submitAt
    .ok ⟨⟨row.save persisted, [], []⟩,
      committedDeltas cfg.budgetTimeZone db (toExpenseBudgetSnapshot expense)
        (toExpenseBudgetSnapshot persisted),
      ExpenseSubmit.submitEventTypes persisted.status budgetCheck⟩

/-- The `UPDATE` of a delta, on what the transaction sees. -/
def applyDelta (work : Work) (db : Db) : Except HttpException Work :=
  match work.deltas with
  | [] => .ok work
  | (key, deltaAmount) :: deltas =>
    match ((work.writes.apply db).budgets.find? key).filter (·.isLive) with
    | none => .ok { work with deltas := deltas }
    | some budget =>
      match budget.withCounters (budget.committedAmount + deltaAmount).toNat budget.reimbursedAmount with
      | none => .error (.queryFailed "22003")
      | some updated =>
        .ok { work with
          writes := { work.writes with budgets := work.writes.budgets ++ [updated] }
          deltas := deltas }

/-- The `INSERT` of an event, on what the transaction sees. -/
def publishEvent (args : SubmitArgs) (work : Work) (db : Db) : Except HttpException Work :=
  match work.events with
  | [] => .ok work
  | eventType :: events =>
    let key : IdempotencyKey := .ofTransition eventType work.writes.saved.id args.submitAt
    if (work.writes.apply db).hasOutboxKey key then .error (.queryFailed "23505")
    else .ok { work with
      writes := { work.writes with outbox := work.writes.outbox ++ [⟨eventType, some key⟩] }
      events := events }

/-- The next phase when there may be deltas left, then events left. -/
def proceed (args : SubmitArgs) (work : Work) : Phase :=
  match work.deltas, work.events with
  | _ :: _, _ => .lockingDelta args work
  | [], _ :: _ => .publishing args work
  | [], [] => .committing args work.writes

/-- The next statement of a submission. -/
def statement (cfg : Config) (now : Instant) : Phase → Option (Statement Db RowKey Phase)
  | .finding args => some (.read (fun db =>
      orRollBack (findExpense db args.reference) (fun row => .locking args row.id)))
  | .locking args id => some (.lock (fun db => (db.expenses.find? id).map (fun _ => .expense id))
      (fun db => match db.expenses.find? id with
        | none => .rollingBack (.notFound "Expense not found")
        | some row =>
          let expense := row.toEntity none none
          orRollBack (ExpenseSubmit.assertSubmittable cfg now args.authUser expense)
            (fun _ => .loadingLevels args expense)))
  | .loadingLevels args expense => some (.read (fun db => .loadingOwner args expense db.activeLevels))
  | .loadingOwner args expense levels => some (.read (fun db =>
      orRollBack (ExpenseSubmit.resolveDepartment db expense)
        (fun expense => .loadingDepartment args expense levels)))
  | .loadingDepartment args expense levels => some (.read (fun db =>
      orRollBack (checkDepartment db expense levels)
        (fun expense => .lockingBudget args expense levels)))
  | .lockingBudget args expense levels => some (.lock
      (fun db => (budgetKey cfg args expense).bind (budgetRow · db))
      (fun _ => .summarising args expense levels))
  | .summarising args expense levels => some (.read (fun db =>
      orRollBack (checkBudget cfg args expense db)
        (fun budgetCheck => .saving args expense levels budgetCheck)))
  | .saving args expense levels budgetCheck => some (.lock
      (fun db => (db.expenses.find? expense.id).map (fun _ => .expense expense.id))
      (fun db => orRollBack (save cfg args expense levels budgetCheck db) (proceed args)))
  | .lockingDelta args work => some (.lock
      (fun db => work.deltas.head?.bind (fun delta => budgetRow delta.1 db))
      (fun _ => .updating args work))
  | .updating args work => some (.lock
      (fun db => work.deltas.head?.bind (fun delta => budgetRow delta.1 db))
      (fun db => orRollBack (applyDelta work db) (proceed args)))
  | .publishing args work => some (.read (fun db => orRollBack (publishEvent args work db) (proceed args)))
  | .committing _ writes => some (.commit writes.apply (.ended (.ok ())))
  | .rollingBack exception => some (.rollback (.ended (.error exception)))
  | .ended _ => none

/-- The statement with what the surroundings decide about it. -/
def decided (cfg : Config) (phase : Phase) : Outcome → Option (Statement Db RowKey Phase)
  | .runs now => statement cfg now phase
  | .throws exception =>
    match phase with
    | .ended _ => none
    | _ => some (.rollback (.ended (.error exception)))

/-- One step of the submission `i`. -/
def advance (cfg : Config) (i : Nat) (s : Locked Db RowKey) (phase : Phase) (outcome : Outcome) :
    Option (Locked Db RowKey × Phase) :=
  (decided cfg phase outcome).bind (Locked.step i s)

/-- The transactions of any number of submissions, in any order of their statements. -/
def submissions (cfg : Config) : Concurrent (Locked Db RowKey) Phase SubmitArgs Outcome Empty where
  start s args := some (s, .finding args)
  step := advance cfg
  surroundings _ event := nomatch event

end Expentra.SubmitStatements
