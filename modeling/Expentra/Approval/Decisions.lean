-- SUMMARY: Approving and rejecting an expense at its active stage.
import Expentra.Approval.Delegation
import Expentra.Expense.Support

/-!
# The approval service

`approve` and `reject` share everything up to the recorded decision: the locked
expense, the active stage, the stage assertions and the authority of the actor.
`ReadyStage` collects what a call that got so far has established.
-/

namespace Expentra.Approval

open Library ApprovalRouting

structure ApproveExpenseInput where
  comment : Option String
  overBudgetAcknowledged : Bool
deriving DecidableEq, Repr

/-- `loadExpenseForDecision`, after `normalizeExpenseId`. -/
def loadExpenseForDecision (authUser : AuthUser) (expenseId : Nat) : Tx ExpenseEntity := do
  Transaction.require (0 < expenseId) (.badRequest "Valid expense id is required")
  let row ← Transaction.read (fun db => db.expenses.find? expenseId)
  let row ← Transaction.getOrThrow row (.notFound "Expense not found")
  let expense ← Transaction.read (fun db => db.withRelations row)
  Transaction.lift (assertCanDecideOnExpense authUser expense)
  pure expense

/-- The assignments of `healExpenseWithNoApprovalChain`. -/
def healed (expense : ExpenseEntity) (decidedAt : Instant) : ExpenseEntity :=
  { expense with
    status := .APPROVED
    approvedAt := .value decidedAt
    rejectedAt := .undefined }

/-- Approve a pending expense whose chain became empty; whether it did. -/
def healExpenseWithNoApprovalChain (cfg : Config) (now : Instant) (expense : ExpenseEntity)
    (approvalLevels : List ApprovalLevel) : Tx Bool :=
  if !expense.status.isPending || requiresApprovalChain expense approvalLevels then pure false
  else do
    persistTransition cfg.budgetTimeZone (toExpenseBudgetSnapshot expense) (healed expense now)
    pure true

/-- Heal, then refuse: the exception undoes the healing with the transaction. -/
def refuseWithoutStage {α : Type} (cfg : Config) (now : Instant) (expense : ExpenseEntity)
    (approvalLevels : List ApprovalLevel) : Tx α := do
  let healed ← healExpenseWithNoApprovalChain cfg now expense approvalLevels
  if healed then
    Transaction.throw (.conflict
      "This expense has no approval stages configured and was marked approved")
  else Transaction.throw (.conflict "This expense is not awaiting approval")

def assertCanActOnStage (db : Db) (now : Instant) (authUser : AuthUser) (stage : ApprovalLevel)
    (expense : ExpenseEntity) : Except HttpException Unit :=
  if ApprovalAccessPolicy.canActOnApprovalStage authUser expense stage ||
      Delegation.canActAsDelegate db now authUser expense stage then .ok ()
  else .error
    (.forbidden "You are not authorized to approve at the stage for this expense")

/-- What `approve` and `reject` share: the expense, the active levels and the
    stage the actor may decide. -/
def requireActiveStage (cfg : Config) (now : Instant) (authUser : AuthUser) (expenseId : Nat) :
    Tx (ExpenseEntity × List ApprovalLevel × ApprovalLevel) := do
  let expense ← loadExpenseForDecision authUser expenseId
  let approvalLevels ← Transaction.read Db.activeLevels
  let existingApprovals ← Transaction.read (fun db => db.approvalsOf expense.id)
  match getActiveStage expense approvalLevels existingApprovals with
  | none => refuseWithoutStage cfg now expense approvalLevels
  | some stage => do
    Transaction.lift
      (assertReadyForStageApproval stage expense approvalLevels existingApprovals)
    Transaction.query (assertCanActOnStage · now authUser stage expense)
    pure (expense, approvalLevels, stage)

/-- Over budget, an approval needs a comment, and at a finance stage an
    acknowledgement. -/
def assertOverBudgetApprovalAllowed (cfg : Config) (db : Db) (now : Instant)
    (expense : ExpenseEntity) (stage : ApprovalLevel) (comment : Option String)
    (overBudgetAcknowledged : Bool) : Except HttpException BudgetApproveEvaluation := do
  let evaluation ← BudgetService.evaluateExpenseApprove cfg db expense.departmentId.toOption
    (expense.submittedAt.toOption.getD now)
  if !evaluation.wouldExceed then pure evaluation
  else if comment.isNone then
    throw (.badRequest "A justification comment is required to approve an over-budget expense")
  else if stage.approverType = .FINANCE_MANAGER && !overBudgetAcknowledged then
    throw (.badRequest
      "You must acknowledge authorizing this over-budget expense before approving")
  else pure evaluation

def duplicateDecision (stage : ApprovalLevel) : HttpException :=
  .conflict ("This expense already has a decision at approval level " ++ stage.name)

def assertNoDecisionAtLevel (expenseId : Nat) (stage : ApprovalLevel) : Tx Unit := do
  let existing ← Transaction.read (fun db => db.approvals.find? (expenseId, stage.id))
  Transaction.require (existing.isNone = true) (duplicateDecision stage)

/-- Insert the decision; a violation of its unique key is the same conflict. -/
def persistApprovalDecision (approval : ExpenseApproval) (stage : ApprovalLevel) : Tx Unit := do
  let approvals ← Transaction.read (fun db => db.approvals.insert? approval)
  let approvals ← Transaction.getOrThrow approvals (duplicateDecision stage)
  Transaction.write (fun db => { db with approvals := approvals })

/-- `assertNoDecisionAtLevel`, then `persistApprovalDecision`. -/
def recordDecision (approval : ExpenseApproval) (stage : ApprovalLevel) : Tx Unit := do
  assertNoDecisionAtLevel approval.expenseId stage
  persistApprovalDecision approval stage

/-- The assignments of `approve`. -/
def approved (expense : ExpenseEntity) (nextStatus : ExpenseStatus) (decidedAt : Instant) :
    ExpenseEntity :=
  { expense with
    status := nextStatus
    approvedAt := if nextStatus = .APPROVED then .value decidedAt else .undefined
    rejectedAt := .undefined }

/-- The events of an approval. -/
def approveEventTypes : ExpenseStatus → List DomainEventType
  | .UNDER_REVIEW => [.expensePendingFinance]
  | .APPROVED => [.expenseApproved]
  | _ => []

def overBudgetMetadata (budgetCheck : BudgetApproveEvaluation) (overBudgetAcknowledged : Bool) :
    Option OverBudgetMetadata :=
  if budgetCheck.wouldExceed then some ⟨overBudgetAcknowledged, budgetCheck.committedAmount⟩ else none

def approve (cfg : Config) (now : Instant) (authUser : AuthUser) (expenseId : Nat)
    (input : ApproveExpenseInput) : Tx Unit := do
  let comment := Js.trimmedOrUndefined input.comment
  let (expense, approvalLevels, stage) ← requireActiveStage cfg now authUser expenseId
  let budgetCheck ← Transaction.query (fun db => assertOverBudgetApprovalAllowed cfg db now expense
    stage comment input.overBudgetAcknowledged)
  recordDecision ⟨expense.id, stage.id, authUser.id, .APPROVED, comment, now,
    overBudgetMetadata budgetCheck input.overBudgetAcknowledged⟩ stage
  let nextStatus := resolveStatusAfterLevelApproval stage expense approvalLevels
  persistTransition cfg.budgetTimeZone (toExpenseBudgetSnapshot expense)
    (approved expense nextStatus now)
  publishTransitions (approveEventTypes nextStatus) expense.id now

/-- The assignments of `reject`. -/
def rejected (expense : ExpenseEntity) (decidedAt : Instant) : ExpenseEntity :=
  { expense with
    status := .REJECTED
    rejectedAt := .value decidedAt
    approvedAt := .undefined }

/-- `reject`; `commentReference` is the reference of the comment it leaves. -/
def reject (cfg : Config) (now : Instant) (authUser : AuthUser) (expenseId : Nat)
    (commentReference : String) (comment : String) : Tx Unit := do
  Transaction.require (Js.trim comment ≠ "") (.badRequest "Rejection comment is required")
  let (expense, _, stage) ← requireActiveStage cfg now authUser expenseId
  recordDecision
    ⟨expense.id, stage.id, authUser.id, .REJECTED, some (Js.trim comment), now, none⟩ stage
  persistTransition cfg.budgetTimeZone (toExpenseBudgetSnapshot expense) (rejected expense now)
  Transaction.write (fun db => { db with comments := db.comments ++
    [⟨commentReference, expense.id, authUser.id, Js.trim comment, now⟩] })
  publish .expenseCommentAdded (some (.ofComment commentReference))
  publishTransitions [.expenseRejected] expense.id now

/-! ## By reference -/

/-- The expense of a reference, if the user may decide it: a gate of its own before
    the transaction. -/
def resolveExpenseIdForDecision (db : Db) (authUser : AuthUser) (expenseReference : String) :
    Except HttpException Nat := do
  let row ← ExpenseMutationSupport.findExpense db expenseReference
  assertCanDecideOnExpense authUser (db.withRelations row)
  pure row.id

def approveByReference (cfg : Config) (now : Instant) (authUser : AuthUser)
    (expenseReference : String) (input : ApproveExpenseInput) : Tx Unit := do
  let expenseId ← Transaction.query (resolveExpenseIdForDecision · authUser expenseReference)
  approve cfg now authUser expenseId input

def rejectByReference (cfg : Config) (now : Instant) (authUser : AuthUser)
    (expenseReference commentReference comment : String) : Tx Unit := do
  let expenseId ← Transaction.query (resolveExpenseIdForDecision · authUser expenseReference)
  reject cfg now authUser expenseId commentReference comment

/-! ## Specs -/

/-- The actor may decide the expense of a row at a stage. -/
structure ReadyStage (db : Db) (now : Instant) (authUser : AuthUser) (row : Expense)
    (stage : ApprovalLevel) : Prop where
  notOwner : row.userId ≠ authUser.id
  canDecide : ApprovalAccessPolicy.canDecideOnExpense authUser (db.withRelations row) = true
  active : getActiveStage (db.withRelations row) db.activeLevels (db.approvalsOf row.id) = some stage
  ready : assertReadyForStageApproval stage (db.withRelations row) db.activeLevels
    (db.approvalsOf row.id) = .ok ()
  authority : ApprovalAccessPolicy.canActOnApprovalStage authUser (db.withRelations row) stage = true ∨
    Delegation.canActAsDelegate db now authUser (db.withRelations row) stage = true

/-- A ready stage follows approved levels only, and has no decision of its own. -/
theorem ReadyStage.chain {db : Db} {now : Instant} {authUser : AuthUser} {row : Expense}
    {stage : ApprovalLevel} (h : ReadyStage db now authUser row stage) :
    ∃ before after,
      getRequiredLevels (db.withRelations row) db.activeLevels = before ++ stage :: after ∧
      decisionAt (db.approvalsOf row.id) stage = none ∧
      ∀ level ∈ before, ∃ d, decisionAt (db.approvalsOf row.id) level = some d ∧
        d.decision = .APPROVED :=
  firstUndecided_eq_some.1 (getActiveStage_eq_some.1 h.active).2

theorem ReadyStage.isPending {db : Db} {now : Instant} {authUser : AuthUser} {row : Expense}
    {stage : ApprovalLevel} (h : ReadyStage db now authUser row stage) :
    row.status.isPending = true :=
  (getActiveStage_eq_some.1 h.active).1

section Specs

variable {cfg : Config} {now : Instant} {db db' : Db} {authUser : AuthUser} {expenseId : Nat}
  {row : Expense} {stage : ApprovalLevel} {u : Unit}

theorem nodup_approveEventTypes (status : ExpenseStatus) : (approveEventTypes status).Nodup := by
  cases status <;> decide

theorem loadExpenseForDecision_eq_ok {expense : ExpenseEntity} :
    loadExpenseForDecision authUser expenseId db = .ok (expense, db') ↔
      0 < expenseId ∧ ∃ row, db.expenses.find? expenseId = some row ∧
        expense = db.withRelations row ∧ row.userId ≠ authUser.id ∧
        ApprovalAccessPolicy.canDecideOnExpense authUser (db.withRelations row) = true ∧
        db' = db := by
  simp only [loadExpenseForDecision, Transaction.require_bind_eq_ok, Transaction.read_bind,
    Transaction.getOrThrow_bind_eq_ok, Transaction.lift_bind_eq_ok, assertCanDecideOnExpense_eq_ok,
    Transaction.pure_eq_ok]
  constructor
  · rintro ⟨hid, row, hrow, _, ⟨howner, hdecide⟩, rfl, rfl⟩
    exact ⟨hid, row, hrow, rfl, howner, hdecide, rfl⟩
  · rintro ⟨hid, row, hrow, rfl, howner, hdecide, rfl⟩
    exact ⟨hid, row, hrow, (), ⟨howner, hdecide⟩, rfl, rfl⟩

theorem resolveExpenseIdForDecision_eq_ok {expenseReference : String} :
    resolveExpenseIdForDecision db authUser expenseReference = .ok expenseId ↔
      ∃ row, ExpenseMutationSupport.findExpense db expenseReference = .ok row ∧
        row.userId ≠ authUser.id ∧
        ApprovalAccessPolicy.canDecideOnExpense authUser (db.withRelations row) = true ∧
        expenseId = row.id := by
  simp only [resolveExpenseIdForDecision, Except.bind_eq_ok, assertCanDecideOnExpense_eq_ok]
  constructor
  · rintro ⟨row, hrow, _, ⟨howner, hdecide⟩, hid⟩
    exact ⟨row, hrow, howner, hdecide, (Except.ok.inj hid).symm⟩
  · rintro ⟨row, hrow, howner, hdecide, rfl⟩
    exact ⟨row, hrow, (), ⟨howner, hdecide⟩, rfl⟩

/-- Without an active stage every path throws. -/
theorem refuseWithoutStage_ne_ok {α : Type} {expense : ExpenseEntity}
    {approvalLevels : List ApprovalLevel} {a : α} :
    refuseWithoutStage cfg now expense approvalLevels db ≠ .ok (a, db') := by
  intro h
  obtain ⟨healed, db₁, -, hthrow⟩ := Transaction.bind_eq_ok.1 h
  split at hthrow
  · exact Transaction.throw_eq_ok hthrow
  · exact Transaction.throw_eq_ok hthrow

theorem assertCanActOnStage_eq_ok {expense : ExpenseEntity} :
    assertCanActOnStage db now authUser stage expense = .ok u ↔
      ApprovalAccessPolicy.canActOnApprovalStage authUser expense stage = true ∨
        Delegation.canActAsDelegate db now authUser expense stage = true := by
  unfold assertCanActOnStage
  split <;> simp_all

/-- The shared part of a decision succeeds exactly at a ready stage, and writes
    nothing. -/
theorem requireActiveStage_eq_ok {expense : ExpenseEntity} {approvalLevels : List ApprovalLevel} :
    requireActiveStage cfg now authUser expenseId db = .ok ((expense, approvalLevels, stage), db') ↔
      0 < expenseId ∧ ∃ row, db.expenses.find? expenseId = some row ∧
        expense = db.withRelations row ∧ approvalLevels = db.activeLevels ∧
        ReadyStage db now authUser row stage ∧ db' = db := by
  rw [requireActiveStage, Transaction.bind_eq_ok]
  constructor
  · rintro ⟨expense', db₁, hload, h⟩
    obtain ⟨hid, row, hrow, rfl, howner, hdecide, rfl⟩ := loadExpenseForDecision_eq_ok.1 hload
    simp only [Transaction.read_bind] at h
    cases hstage : getActiveStage (db₁.withRelations row) db₁.activeLevels
        (db₁.approvalsOf (db₁.withRelations row).id) with
    | none =>
      rw [hstage] at h
      exact absurd h refuseWithoutStage_ne_ok
    | some stage' =>
      rw [hstage] at h
      simp only [Transaction.lift_bind_eq_ok, Transaction.query_bind_eq_ok,
        assertCanActOnStage_eq_ok, Transaction.pure_eq_ok, Prod.mk.injEq] at h
      obtain ⟨_, hready, _, hauthority, ⟨rfl, rfl, rfl⟩, rfl⟩ := h
      exact ⟨hid, row, hrow, rfl, rfl, ⟨howner, hdecide, hstage, hready, hauthority⟩, rfl⟩
  · rintro ⟨hid, row, hrow, rfl, rfl, hstage, rfl⟩
    refine ⟨_, _, loadExpenseForDecision_eq_ok.2
      ⟨hid, row, hrow, rfl, hstage.notOwner, hstage.canDecide, rfl⟩, ?_⟩
    have hactive : getActiveStage (db'.withRelations row) db'.activeLevels
        (db'.approvalsOf (db'.withRelations row).id) = some stage := hstage.active
    simp only [Transaction.read_bind, hactive, Transaction.lift_bind_eq_ok,
      Transaction.query_bind_eq_ok, assertCanActOnStage_eq_ok, Transaction.pure_eq_ok]
    exact ⟨(), hstage.ready, (), hstage.authority, trivial, trivial⟩

/-- Recording a decision inserts its row, and nothing else, under a free key. -/
theorem recordDecision_eq_ok {approval : ExpenseApproval}
    (hlevel : approval.approvalLevelId = stage.id) :
    recordDecision approval stage db = .ok (u, db') ↔
      ∃ approvals, db.approvals.insert? approval = some approvals ∧
        db' = { db with approvals := approvals } := by
  have hkey : approval.key = (approval.expenseId, stage.id) := by rw [ExpenseApproval.key, hlevel]
  rw [recordDecision, Transaction.bind_eq_ok]
  simp only [assertNoDecisionAtLevel, persistApprovalDecision, Transaction.read_bind,
    Transaction.require_eq_ok, Transaction.getOrThrow_bind_eq_ok, Transaction.write_eq_ok]
  constructor
  · rintro ⟨_, _, ⟨-, rfl⟩, approvals, hins, rfl⟩
    exact ⟨approvals, hins, rfl⟩
  · rintro ⟨approvals, hins, rfl⟩
    have hfree : db.approvals.find? (approval.expenseId, stage.id) = none :=
      hkey ▸ Table.find?_eq_none.2 (Table.insert?_eq_some.1 hins).1
    exact ⟨(), db, ⟨by simp [hfree], rfl⟩, approvals, hins, rfl⟩

theorem approve_eq_ok {input : ApproveExpenseInput} :
    approve cfg now authUser expenseId input db = .ok (u, db') ↔
      ∃ row stage budgetCheck approvals db₁, 0 < expenseId ∧
        db.expenses.find? expenseId = some row ∧ ReadyStage db now authUser row stage ∧
        assertOverBudgetApprovalAllowed cfg db now (db.withRelations row) stage
          (Js.trimmedOrUndefined input.comment) input.overBudgetAcknowledged = .ok budgetCheck ∧
        db.approvals.insert? ⟨row.id, stage.id, authUser.id, .APPROVED,
          Js.trimmedOrUndefined input.comment, now,
          overBudgetMetadata budgetCheck input.overBudgetAcknowledged⟩ = some approvals ∧
        persistTransition cfg.budgetTimeZone (toExpenseBudgetSnapshot (db.withRelations row))
          (approved (db.withRelations row) (resolveStatusAfterLevelApproval stage
            (db.withRelations row) db.activeLevels) now)
          { db with approvals := approvals } = .ok ((), db₁) ∧
        publishTransitions (approveEventTypes (resolveStatusAfterLevelApproval stage
          (db.withRelations row) db.activeLevels)) row.id now db₁ = .ok (u, db') := by
  rw [approve, Transaction.bind_eq_ok]
  constructor
  · rintro ⟨⟨expense, approvalLevels, stage⟩, _, hstage, h⟩
    obtain ⟨hid, row, hrow, rfl, rfl, hready, rfl⟩ := requireActiveStage_eq_ok.1 hstage
    obtain ⟨budgetCheck, hbudget, h⟩ := Transaction.query_bind_eq_ok.1 h
    obtain ⟨_, _, hrecord, h⟩ := Transaction.bind_eq_ok.1 h
    obtain ⟨approvals, hins, rfl⟩ := (recordDecision_eq_ok rfl).1 hrecord
    obtain ⟨_, db₁, hpersist, hpublish⟩ := Transaction.bind_eq_ok.1 h
    exact ⟨row, stage, budgetCheck, approvals, db₁, hid, hrow, hready, hbudget, hins, hpersist,
      hpublish⟩
  · rintro ⟨row, stage, budgetCheck, approvals, db₁, hid, hrow, hready, hbudget, hins, hpersist,
      hpublish⟩
    refine ⟨(db.withRelations row, db.activeLevels, stage), db,
      requireActiveStage_eq_ok.2 ⟨hid, row, hrow, rfl, rfl, hready, rfl⟩, ?_⟩
    refine Transaction.query_bind_eq_ok.2 ⟨budgetCheck, hbudget, ?_⟩
    refine Transaction.bind_eq_ok.2 ⟨(), _, (recordDecision_eq_ok rfl).2 ⟨approvals, hins, rfl⟩, ?_⟩
    exact Transaction.bind_eq_ok.2 ⟨(), db₁, hpersist, hpublish⟩

theorem reject_eq_ok {commentReference comment : String} :
    reject cfg now authUser expenseId commentReference comment db = .ok (u, db') ↔
      ∃ row stage approvals db₁ db₂, Js.trim comment ≠ "" ∧ 0 < expenseId ∧
        db.expenses.find? expenseId = some row ∧ ReadyStage db now authUser row stage ∧
        db.approvals.insert? ⟨row.id, stage.id, authUser.id, .REJECTED, some (Js.trim comment), now,
          none⟩ = some approvals ∧
        persistTransition cfg.budgetTimeZone (toExpenseBudgetSnapshot (db.withRelations row))
          (rejected (db.withRelations row) now) { db with approvals := approvals } = .ok ((), db₁) ∧
        publish .expenseCommentAdded (some (.ofComment commentReference))
          { db₁ with comments := db₁.comments ++
            [⟨commentReference, row.id, authUser.id, Js.trim comment, now⟩] } = .ok ((), db₂) ∧
        publishTransitions [.expenseRejected] row.id now db₂ = .ok (u, db') := by
  rw [reject, Transaction.require_bind_eq_ok, Transaction.bind_eq_ok]
  constructor
  · rintro ⟨hcomment, ⟨expense, approvalLevels, stage⟩, _, hstage, h⟩
    obtain ⟨hid, row, hrow, rfl, rfl, hready, rfl⟩ := requireActiveStage_eq_ok.1 hstage
    obtain ⟨_, _, hrecord, h⟩ := Transaction.bind_eq_ok.1 h
    obtain ⟨approvals, hins, rfl⟩ := (recordDecision_eq_ok rfl).1 hrecord
    obtain ⟨_, db₁, hpersist, h⟩ := Transaction.bind_eq_ok.1 h
    rw [Transaction.write_bind] at h
    obtain ⟨_, db₂, hcommented, hpublish⟩ := Transaction.bind_eq_ok.1 h
    exact ⟨row, stage, approvals, db₁, db₂, hcomment, hid, hrow, hready, hins, hpersist, hcommented,
      hpublish⟩
  · rintro ⟨row, stage, approvals, db₁, db₂, hcomment, hid, hrow, hready, hins, hpersist,
      hcommented, hpublish⟩
    refine ⟨hcomment, (db.withRelations row, db.activeLevels, stage), db,
      requireActiveStage_eq_ok.2 ⟨hid, row, hrow, rfl, rfl, hready, rfl⟩, ?_⟩
    refine Transaction.bind_eq_ok.2 ⟨(), _, (recordDecision_eq_ok rfl).2 ⟨approvals, hins, rfl⟩, ?_⟩
    refine Transaction.bind_eq_ok.2 ⟨(), db₁, hpersist, ?_⟩
    rw [Transaction.write_bind]
    exact Transaction.bind_eq_ok.2 ⟨(), db₂, hcommented, hpublish⟩

/-- A level without a decision has a free key. -/
theorem ReadyStage.exists_insert {approval : ExpenseApproval} (h : ReadyStage db now authUser row stage)
    (hkey : approval.key = (row.id, stage.id)) :
    ∃ approvals, db.approvals.insert? approval = some approvals := by
  obtain ⟨_, _, -, hnone, -⟩ := h.chain
  cases hins : db.approvals.insert? approval with
  | some approvals => exact ⟨approvals, rfl⟩
  | none =>
    obtain ⟨a, ha, hakey⟩ := Table.insert?_eq_none.1 hins
    obtain ⟨hexpense, hlevel⟩ := Prod.mk.inj (hakey.trans hkey)
    exact absurd hlevel (decisionAt_eq_none.1 hnone a (mem_approvalsOf.2 ⟨ha, hexpense⟩))

/-- At a ready stage an approval goes through that the budget allows and whose events
    have fresh keys: it leaves the budgets alone. -/
theorem approve_of_ready {input : ApproveExpenseInput} {budgetCheck : BudgetApproveEvaluation}
    (hid : 0 < row.id) (hrow : row ∈ db.expenses) (hready : ReadyStage db now authUser row stage)
    (hbudget : assertOverBudgetApprovalAllowed cfg db now (db.withRelations row) stage
      (Js.trimmedOrUndefined input.comment) input.overBudgetAcknowledged = .ok budgetCheck)
    (hevents : ∀ t ∈ approveEventTypes (resolveStatusAfterLevelApproval stage (db.withRelations row)
      db.activeLevels), db.hasOutboxKey (.ofTransition t row.id now) = false) :
    ∃ db', approve cfg now authUser row.id input db = .ok (u, db') := by
  have hfound : db.expenses.find? row.id = some row := Table.find?_of_mem hrow
  obtain ⟨approvals, hins⟩ := @ReadyStage.exists_insert now db authUser row stage
    ⟨row.id, stage.id, authUser.id, .APPROVED, Js.trimmedOrUndefined input.comment, now,
      overBudgetMetadata budgetCheck input.overBudgetAcknowledged⟩ hready rfl
  have hbefore : countsTowardCommittedBudget (toExpenseBudgetSnapshot (db.withRelations row)).status =
      true := by
    have hpending := hready.isPending
    show countsTowardCommittedBudget row.status = true
    cases hstatus : row.status <;> rw [hstatus] at hpending <;> first | rfl | cases hpending
  have hafter : countsTowardCommittedBudget (resolveStatusAfterLevelApproval stage
      (db.withRelations row) db.activeLevels) = true := by
    rcases resolveStatusAfterLevelApproval_cases stage (db.withRelations row) db.activeLevels with
      heq | heq <;> rw [heq] <;> rfl
  have hpersist : persistTransition cfg.budgetTimeZone (toExpenseBudgetSnapshot (db.withRelations row))
      (approved (db.withRelations row) (resolveStatusAfterLevelApproval stage (db.withRelations row)
        db.activeLevels) now) { db with approvals := approvals } = .ok ((), _) :=
    Transaction.bind_eq_ok.2 ⟨(), _, saveExpense_eq_ok.2 ⟨row, hfound, rfl⟩,
      syncCommittedAmountForExpenseTransition_of_counting hbefore hafter⟩
  refine ⟨_, approve_eq_ok.2 ⟨row, stage, budgetCheck, approvals, _, hid, hfound, hready, hbudget, hins,
    hpersist, (publishTransitions_eq_ok (nodup_approveEventTypes _)).2 ⟨?_, rfl⟩⟩⟩
  exact hevents

/-- At a ready stage a rejection goes through, with a comment and with fresh
    references: it only takes amounts away from the budgets. -/
theorem reject_of_ready {commentReference comment : String} (hid : 0 < row.id)
    (hrow : row ∈ db.expenses) (hready : ReadyStage db now authUser row stage)
    (hcomment : Js.trim comment ≠ "")
    (hreference : db.hasOutboxKey (.ofComment commentReference) = false)
    (hevent : db.hasOutboxKey (.ofTransition .expenseRejected row.id now) = false) :
    ∃ db', reject cfg now authUser row.id commentReference comment db = .ok (u, db') := by
  have hfound : db.expenses.find? row.id = some row := Table.find?_of_mem hrow
  obtain ⟨approvals, hins⟩ := @ReadyStage.exists_insert now db authUser row stage
    ⟨row.id, stage.id, authUser.id, .REJECTED, some (Js.trim comment), now, none⟩ hready rfl
  obtain ⟨db₁, hsync⟩ := @syncCommittedAmountForExpenseTransition_of_rejected cfg.budgetTimeZone
    { db with
      approvals := approvals
      expenses := db.expenses.replace (row.save (rejected (db.withRelations row) now)) } ()
    (toExpenseBudgetSnapshot (db.withRelations row))
    (toExpenseBudgetSnapshot (rejected (db.withRelations row) now)) row.amount.property.le rfl
  have hpersist : persistTransition cfg.budgetTimeZone (toExpenseBudgetSnapshot (db.withRelations row))
      (rejected (db.withRelations row) now) { db with approvals := approvals } = .ok ((), db₁) :=
    Transaction.bind_eq_ok.2 ⟨(), _, saveExpense_eq_ok.2 ⟨row, hfound, rfl⟩, hsync⟩
  obtain ⟨_, budgets, -, hdb₁, -⟩ := persistTransition_ok hpersist
  refine ⟨_, reject_eq_ok.2 ⟨row, stage, approvals, db₁, _, hcomment, hid, hfound, hready, hins, hpersist,
    publish_eq_ok.2 ⟨?_, rfl⟩, (publishTransitions_eq_ok (List.nodup_singleton _)).2 ⟨?_, rfl⟩⟩⟩
  · rw [hdb₁]
    exact hreference
  · rw [List.forall_mem_singleton, hdb₁]
    simpa [Db.hasOutboxKey, List.any_append] using hevent

end Specs

end Expentra.Approval
