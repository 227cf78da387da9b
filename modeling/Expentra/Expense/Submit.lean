-- SUMMARY: Submission of a draft: the policy check before the transaction, and the transaction that submits.
import Expentra.Approval.Routing
import Expentra.Expense.Draft
import Expentra.Policy.Engine

/-!
# The submit service

A submission first reads the draft and checks it against the policies, then locks
the row in a transaction, checks it again, routes it, checks the budget, saves it
and publishes its events. The two halves are separate definitions: between them
other requests may run.
-/

namespace Expentra.ExpenseSubmit

open Library ExpenseMutationSupport ApprovalRouting

/-- The checks that are made on the draft as read and again on the locked row. -/
def assertSubmittable (cfg : Config) (now : Instant) (authUser : AuthUser)
    (expense : ExpenseEntity) : Except HttpException Unit := do
  assertCanMutateExpenseDraft authUser expense .submit true
  assertDraftStatus expense.status .submit
  assertNonEmptyTitle expense.title
  let _ ← assertPositiveAmount expense.amount.val
  assertIncurredAt cfg now expense.incurredAt.toOption

/-- The context of the policy check. The submission is dated
    `draft.submittedAt ?? new Date()`. -/
def buildSubmitPolicyContext (db : Db) (now : Instant) (authUser : AuthUser) (draft : ExpenseEntity)
    (policyJustifications : List (String × String)) : PolicyEvaluationContext where
  expenseId := draft.id
  userId := authUser.id
  amount := draft.amount.val
  category := draft.category
  submittedAt := draft.submittedAt.toOption.getD now
  attachmentCount := db.attachmentCount draft.id
  policyJustifications := policyJustifications

/-- An expense without a department takes its owner's. -/
def resolveDepartment (db : Db) (expense : ExpenseEntity) : Except HttpException ExpenseEntity :=
  match expense.departmentId.toOption with
  | some _ => .ok expense
  | none =>
    match (db.users.find? expense.userId).bind (·.departmentId) with
    | some departmentId => .ok { expense with departmentId := .value departmentId }
    | none =>
      .error (.badRequest "You must be assigned to a department before submitting expenses")

/-- The department of the expense, if it is active. -/
def activeDepartment (db : Db) (expense : ExpenseEntity) : Option Department :=
  (db.departmentRelation expense.departmentId.toOption).filter (·.isActive)

/-- `if (department) expense.department = department` -/
def attachDepartment (db : Db) (expense : ExpenseEntity) : ExpenseEntity :=
  match activeDepartment db expense with
  | some department => { expense with department := some department }
  | none => expense

/-- Some level asks for the department's manager, who is neither the owner nor
    assigned. -/
def lacksDepartmentManager (db : Db) (expense : ExpenseEntity) (approvalLevels : List ApprovalLevel) :
    Bool :=
  approvalLevels.any (fun level => level.isActive && level.approverType = .DEPARTMENT_MANAGER) &&
    !shouldSkipDepartmentManagerStage expense &&
    ((activeDepartment db expense).bind (·.managerId)).isNone

/-- The assignments of a submission. -/
def submitted (expense : ExpenseEntity) (approvalLevels : List ApprovalLevel) (submitAt : Instant) :
    ExpenseEntity :=
  let dated := { expense with
    submittedAt := .value submitAt
    rejectedAt := .undefined
    reimbursedAt := .undefined }
  if requiresApprovalChain expense approvalLevels then
    let status := resolveInitialSubmitStatus expense approvalLevels
    { dated with
      status := status
      approvedAt := if status = .APPROVED then .value submitAt else .undefined }
  else { dated with status := .APPROVED, approvedAt := .value submitAt }

/-- The events of a submission, in the order they are published. -/
def submitEventTypes (status : ExpenseStatus) (budgetCheck : BudgetSubmitEvaluation) :
    List DomainEventType :=
  (if status = .APPROVED then [.expenseApproved]
    else if status = .UNDER_REVIEW then [.expenseSubmitted, .expensePendingFinance]
    else [.expenseSubmitted]) ++
  (if (budgetCheck.summary.bind (·.budget)).isSome then [.expenseBudgetCommitted] else [])

/-- The transaction of `submit`. -/
def commitSubmit (cfg : Config) (now : Instant) (authUser : AuthUser) (reference : String)
    (submitAt : Instant) : Tx Unit := do
  let locked ← Transaction.query (loadExpenseForMutation · reference)
  Transaction.lift (assertSubmittable cfg now authUser locked)
  let approvalLevels ← Transaction.read Db.activeLevels
  let resolved ← Transaction.query (resolveDepartment · locked)
  let expense ← Transaction.read (attachDepartment · resolved)
  let lacksManager ← Transaction.read (lacksDepartmentManager · expense approvalLevels)
  Transaction.require (lacksManager = false) (.badRequest
    "Your department must have an assigned manager before expenses can be submitted for approval")
  let budgetCheck ← Transaction.query (fun db => BudgetService.evaluateExpenseSubmit cfg db
    authUser.id expense.amount.val submitAt expense.departmentId.toOption)
  Transaction.require (budgetCheck.allowed = true)
    (.badRequest "Submitting this expense would exceed your department annual budget")
  let persisted := submitted expense approvalLevels submitAt
  persistTransition cfg.budgetTimeZone (toExpenseBudgetSnapshot expense) persisted
  publishTransitions (submitEventTypes persisted.status budgetCheck) persisted.id submitAt

/-- `submit`, with nothing between its policy check and its transaction.
    `policies` is the list of active policies the engine holds. -/
def submit (cfg : Config) (policies : List ExpensePolicy) (now : Instant) (authUser : AuthUser)
    (reference : String) (policyJustifications : List (String × String)) : Tx Unit := do
  let draft ← Transaction.query (findReadableExpense · authUser reference)
  Transaction.lift (assertSubmittable cfg now authUser draft)
  let context ← Transaction.read
    (buildSubmitPolicyContext · now authUser draft policyJustifications)
  let _ ← Transaction.query (fun db =>
    PolicyEngine.assertCompliant policies context (PolicyEvaluationCache.reads db context))
  commitSubmit cfg now authUser reference context.submittedAt

/-! ## Specs -/

/-- The expense of a row as the transaction routes it: charged to a department,
    with that department attached when it is active. -/
def routed (db : Db) (row : Expense) (departmentId : Nat) : ExpenseEntity :=
  { row.toEntity none none with
    departmentId := .value departmentId
    department := (db.departmentRelation (some departmentId)).filter (·.isActive) }

section Specs

variable {cfg : Config} {policies : List ExpensePolicy} {now submitAt : Instant} {db db' : Db}
  {authUser : AuthUser} {reference : String} {row : Expense} {u : Unit}

theorem nodup_submitEventTypes (status : ExpenseStatus) (budgetCheck : BudgetSubmitEvaluation) :
    (submitEventTypes status budgetCheck).Nodup := by
  unfold submitEventTypes
  cases status <;> cases (budgetCheck.summary.bind (·.budget)).isSome <;> decide

theorem resolveDepartment_eq_ok {expense : ExpenseEntity} :
    resolveDepartment db (row.toEntity none none) = .ok expense ↔
      ∃ departmentId, db.resolveDepartmentForSubmit row.userId row.departmentId = some departmentId ∧
        expense = { row.toEntity none none with departmentId := .value departmentId } := by
  cases hd : row.departmentId with
  | some departmentId =>
    simp [resolveDepartment, Expense.toEntity, Db.resolveDepartmentForSubmit, hd, Property.ofColumn,
      eq_comm (b := expense)]
  | none =>
    cases ho : (db.users.find? row.userId).bind (·.departmentId) with
    | none =>
      simp [resolveDepartment, Expense.toEntity, Db.resolveDepartmentForSubmit, hd,
        Property.ofColumn, Property.toOption, ho]
    | some departmentId =>
      simp [resolveDepartment, Expense.toEntity, Db.resolveDepartmentForSubmit, hd,
        Property.ofColumn, Property.toOption, ho, eq_comm (b := expense)]

theorem attachDepartment_eq_routed (departmentId : Nat) :
    attachDepartment db { row.toEntity none none with departmentId := .value departmentId } =
      routed db row departmentId := by
  unfold attachDepartment activeDepartment routed
  simp only [Property.toOption_value]
  cases (db.departmentRelation (some departmentId)).filter (·.isActive) <;> rfl

/-- A submission sets the status and the four dates. -/
theorem submitted_eq (expense : ExpenseEntity) (approvalLevels : List ApprovalLevel)
    (submitAt : Instant) :
    submitted expense approvalLevels submitAt = { expense with
      status := resolveInitialSubmitStatus expense approvalLevels
      submittedAt := .value submitAt
      rejectedAt := .undefined
      reimbursedAt := .undefined
      approvedAt := if resolveInitialSubmitStatus expense approvalLevels = .APPROVED
        then .value submitAt else .undefined } := by
  unfold submitted
  split
  · rfl
  · rename_i hchain
    have hnil : getRequiredLevels expense approvalLevels = [] := by
      by_contra hne
      exact hchain (requiresApprovalChain_eq_true.2 hne)
    simp [resolveInitialSubmitStatus, hnil]

/-- What the transaction of a submission checks and does. -/
theorem commitSubmit_eq_ok :
    commitSubmit cfg now authUser reference submitAt db = .ok (u, db') ↔
      ∃ row departmentId budgetCheck db₁, findExpense db reference = .ok row ∧
        assertSubmittable cfg now authUser (row.toEntity none none) = .ok () ∧
        db.resolveDepartmentForSubmit row.userId row.departmentId = some departmentId ∧
        lacksDepartmentManager db (routed db row departmentId) db.activeLevels = false ∧
        BudgetService.evaluateExpenseSubmit cfg db authUser.id row.amount.val submitAt
          (some departmentId) = .ok budgetCheck ∧ budgetCheck.allowed = true ∧
        persistTransition cfg.budgetTimeZone (toExpenseBudgetSnapshot (routed db row departmentId))
          (submitted (routed db row departmentId) db.activeLevels submitAt) db = .ok ((), db₁) ∧
        publishTransitions (submitEventTypes
          (resolveInitialSubmitStatus (routed db row departmentId) db.activeLevels) budgetCheck)
          row.id submitAt db₁ = .ok (u, db') := by
  simp only [commitSubmit, Transaction.query_bind_eq_ok, Transaction.lift_bind_eq_ok,
    Transaction.read_bind, Transaction.require_bind_eq_ok]
  constructor
  · rintro ⟨locked, hload, _, hassert, resolved, hresolved, hmanager, budgetCheck, hcheck, hallowed, h⟩
    obtain ⟨row, hrow, -, rfl⟩ := loadExpenseForMutation_eq_ok hload
    obtain ⟨departmentId, hdept, rfl⟩ := resolveDepartment_eq_ok.1 hresolved
    rw [attachDepartment_eq_routed] at hmanager hcheck h
    obtain ⟨_, db₁, hpersist, hpublish⟩ := Transaction.bind_eq_ok.1 h
    rw [submitted_eq] at hpublish
    exact ⟨row, departmentId, budgetCheck, db₁, hrow, hassert, hdept, hmanager, hcheck, hallowed,
      hpersist, hpublish⟩
  · rintro ⟨row, departmentId, budgetCheck, db₁, hrow, hassert, hdept, hmanager, hcheck, hallowed,
      hpersist, hpublish⟩
    refine ⟨row.toEntity none none, ?_, (), hassert, _,
      resolveDepartment_eq_ok.2 ⟨departmentId, hdept, rfl⟩, ?_⟩
    · simp [loadExpenseForMutation, hrow, Except.map, Db.withoutRelations]
    · rw [attachDepartment_eq_routed]
      refine ⟨hmanager, budgetCheck, hcheck, hallowed, Transaction.bind_eq_ok.2 ⟨(), db₁, hpersist, ?_⟩⟩
      rw [submitted_eq]
      exact hpublish

/-- What a submission checks before its transaction. -/
theorem submit_eq_ok {policyJustifications : List (String × String)} :
    submit cfg policies now authUser reference policyJustifications db = .ok (u, db') ↔
      ∃ row result, findExpense db reference = .ok row ∧
        ExpenseAccessPolicy.canReadExpense authUser (db.withRelations row) = true ∧
        assertSubmittable cfg now authUser (db.withRelations row) = .ok () ∧
        PolicyEngine.assertCompliant policies
          (buildSubmitPolicyContext db now authUser (db.withRelations row) policyJustifications)
          (PolicyEvaluationCache.reads db
            (buildSubmitPolicyContext db now authUser (db.withRelations row) policyJustifications)) =
              .ok result ∧
        commitSubmit cfg now authUser reference (row.submittedAt.getD now) db = .ok (u, db') := by
  have hdate : ∀ row : Expense, (buildSubmitPolicyContext db now authUser (db.withRelations row)
      policyJustifications).submittedAt = row.submittedAt.getD now := fun row => by
    simp [buildSubmitPolicyContext, Db.withRelations, Expense.toEntity]
  simp only [submit, Transaction.query_bind_eq_ok, Transaction.lift_bind_eq_ok,
    Transaction.read_bind, findReadableExpense_eq_ok]
  constructor
  · rintro ⟨_, ⟨row, hrow, rfl, hread⟩, _, hassert, result, hcompliant, h⟩
    rw [hdate] at h
    exact ⟨row, result, hrow, hread, hassert, hcompliant, h⟩
  · rintro ⟨row, result, hrow, hread, hassert, hcompliant, h⟩
    refine ⟨_, ⟨row, hrow, rfl, hread⟩, (), hassert, result, hcompliant, ?_⟩
    rw [hdate]
    exact h

theorem assertSubmittable_eq_ok {expense : ExpenseEntity} :
    assertSubmittable cfg now authUser expense = .ok u ↔
      expense.userId = authUser.id ∧ expense.status = .DRAFT ∧ Js.trim expense.title ≠ "" ∧
        assertIncurredAt cfg now expense.incurredAt.toOption = .ok () := by
  have hamount : assertPositiveAmount expense.amount.val = .ok expense.amount := by
    rw [assertPositiveAmount, dif_pos expense.amount.property]
  have htitle : assertNonEmptyTitle expense.title = .ok () ↔ Js.trim expense.title ≠ "" := by
    unfold assertNonEmptyTitle
    split <;> simp_all
  simp only [assertSubmittable, Except.bind_eq_ok, assertCanMutateExpenseDraft_eq_ok,
    assertDraftStatus_eq_ok, htitle, hamount, ExpenseAccessPolicy.canMutateExpenseDraft, if_true,
    decide_eq_true_eq, Except.ok.injEq, exists_eq_left', exists_const]

/-- A submittable expense is a draft of the caller. -/
theorem assertSubmittable_ok {expense : ExpenseEntity}
    (h : assertSubmittable cfg now authUser expense = .ok u) :
    expense.status = .DRAFT ∧ expense.userId = authUser.id := by
  obtain ⟨howner, hdraft, -⟩ := assertSubmittable_eq_ok.1 h
  exact ⟨hdraft, howner⟩

end Specs

end Expentra.ExpenseSubmit
