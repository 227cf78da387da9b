-- SUMMARY: Rows of the tables the expense workflow reads and writes, and the in-memory expense entity of TypeORM.
import Expentra.Core.Javascript
import Expentra.Core.Number

/-!
# Entities

One structure for each table, with the columns the services read or write. An
expense also has an in-memory form, `ExpenseEntity`, whose nullable columns are
`Property`s: what `save` does to a row depends on which of them are `undefined`.
-/

namespace Expentra

inductive ExpenseStatus where
  | DRAFT
  | SUBMITTED
  | UNDER_REVIEW
  | APPROVED
  | REJECTED
  | REIMBURSED
deriving DecidableEq, Repr

/-- An expense waits for a decision. -/
def ExpenseStatus.isPending : ExpenseStatus → Bool
  | .SUBMITTED => true
  | .UNDER_REVIEW => true
  | _ => false

theorem ExpenseStatus.isPending_eq_true {status : ExpenseStatus} :
    status.isPending = true ↔ status = .SUBMITTED ∨ status = .UNDER_REVIEW := by
  cases status <;> simp [isPending]

/-- The place of a status in the order of a `varchar` column. -/
def ExpenseStatus.position : ExpenseStatus → Nat
  | .APPROVED => 0
  | .DRAFT => 1
  | .REIMBURSED => 2
  | .REJECTED => 3
  | .SUBMITTED => 4
  | .UNDER_REVIEW => 5

inductive ExpenseCategory where
  | TRAVEL
  | MEALS
  | SUPPLIES
  | OTHERS
deriving DecidableEq, Repr

inductive ApprovalDecision where
  | APPROVED
  | REJECTED
deriving DecidableEq, Repr

inductive ApprovalApproverType where
  | DEPARTMENT_MANAGER
  | FINANCE_MANAGER
deriving DecidableEq, Repr

/-! ## Roles, users, departments -/

inductive PermissionAction where
  | MANAGE | CREATE | READ | UPDATE | DELETE | SUBMIT | APPROVE | REJECT | REIMBURSE | EXPORT
  | MARK | UPLOAD
deriving DecidableEq, Repr

inductive PermissionResource where
  | ALL | EXPENSE | USER | APPROVAL | APPROVAL_LEVEL | RECEIPT | NOTIFICATION | BUDGET | REPORT
  | DEPARTMENT | ROLE | AUDIT | POLICY | DASHBOARD
deriving DecidableEq, Repr

inductive PermissionScope where
  | GLOBAL
  | SELF
deriving DecidableEq, Repr

structure Permission where
  action : PermissionAction
  resource : PermissionResource
  scope : PermissionScope
  isActive : Bool
deriving DecidableEq, Repr

structure Role where
  id : Nat
  reference : String
  name : String
  permissions : List Permission
deriving DecidableEq, Repr

structure User where
  id : Nat
  reference : String
  email : String
  departmentId : Option Nat
  isActive : Bool
  isEmailVerified : Bool
  deactivatedAt : Option Instant
  role : Option Role
deriving DecidableEq, Repr

structure Department where
  id : Nat
  reference : String
  managerId : Option Nat
  isActive : Bool
  deletedAt : Option Instant
deriving DecidableEq, Repr

/-! ## Approval -/

structure ApprovalLevel where
  id : Nat
  reference : String
  roleId : Option Nat
  approverType : ApprovalApproverType
  name : String
  /-- Order in the approval chain (lower levels are decided first). -/
  level : Int
  minimumAmount : Int
  /-- No value means no upper bound. -/
  maximumAmount : Option Int
  isActive : Bool
  description : Option String
deriving DecidableEq, Repr

/-- What `approve` stores about a decision over budget. -/
structure OverBudgetMetadata where
  overBudgetAcknowledged : Bool
  committedAmount : Int
deriving DecidableEq, Repr

structure ExpenseApproval where
  expenseId : Nat
  approvalLevelId : Nat
  approverId : Nat
  decision : ApprovalDecision
  comment : Option String
  decidedAt : Instant
  metadata : Option OverBudgetMetadata
deriving DecidableEq, Repr

/-- The columns of `UQ_expense_approvals_expense_level`. -/
def ExpenseApproval.key (a : ExpenseApproval) : Nat × Nat := (a.expenseId, a.approvalLevelId)

structure ApprovalDelegation where
  reference : String
  delegatorId : Nat
  delegateId : Nat
  startsAt : Instant
  endsAt : Instant
  isActive : Bool
deriving DecidableEq, Repr

/-! ## Expenses -/

/-- An amount in minor currency units that passed `assertPositiveAmount`. -/
abbrev Amount := { n : Int // 0 < n }

/-- A row of `expenses`. -/
structure Expense where
  id : Nat
  reference : String
  userId : Nat
  departmentId : Option Nat
  title : String
  description : Option String
  amount : Amount
  category : ExpenseCategory
  status : ExpenseStatus
  submittedAt : Option Instant
  approvedAt : Option Instant
  rejectedAt : Option Instant
  reimbursedAt : Option Instant
  incurredAt : Option Instant
  reimbursementReference : Option String
deriving DecidableEq, Repr

/-- An expense object in memory. `department` and `user` are the relations, when
    they are loaded and have a row. -/
structure ExpenseEntity where
  id : Nat
  reference : String
  userId : Nat
  departmentId : Property Nat
  title : String
  description : Property String
  amount : Amount
  category : ExpenseCategory
  status : ExpenseStatus
  submittedAt : Property Instant
  approvedAt : Property Instant
  rejectedAt : Property Instant
  reimbursedAt : Property Instant
  incurredAt : Property Instant
  reimbursementReference : Property String
  department : Option Department
  user : Option User
deriving DecidableEq, Repr

/-- The object `findOne` returns for a row, with the relations that were asked
    for. -/
def Expense.toEntity (row : Expense) (department : Option Department) (user : Option User) :
    ExpenseEntity where
  id := row.id
  reference := row.reference
  userId := row.userId
  departmentId := .ofColumn row.departmentId
  title := row.title
  description := .ofColumn row.description
  amount := row.amount
  category := row.category
  status := row.status
  submittedAt := .ofColumn row.submittedAt
  approvedAt := .ofColumn row.approvedAt
  rejectedAt := .ofColumn row.rejectedAt
  reimbursedAt := .ofColumn row.reimbursedAt
  incurredAt := .ofColumn row.incurredAt
  reimbursementReference := .ofColumn row.reimbursementReference
  department := department
  user := user

/-- The row after `save(entity)`: a nullable column keeps its value when the
    property is `undefined`. -/
def Expense.save (row : Expense) (entity : ExpenseEntity) : Expense where
  id := row.id
  reference := entity.reference
  userId := entity.userId
  departmentId := entity.departmentId.save row.departmentId
  title := entity.title
  description := entity.description.save row.description
  amount := entity.amount
  category := entity.category
  status := entity.status
  submittedAt := entity.submittedAt.save row.submittedAt
  approvedAt := entity.approvedAt.save row.approvedAt
  rejectedAt := entity.rejectedAt.save row.rejectedAt
  reimbursedAt := entity.reimbursedAt.save row.reimbursedAt
  incurredAt := entity.incurredAt.save row.incurredAt
  reimbursementReference := entity.reimbursementReference.save row.reimbursementReference

structure ExpenseComment where
  reference : String
  expenseId : Nat
  userId : Nat
  body : String
  createdAt : Instant
deriving DecidableEq, Repr

structure ExpenseAttachment where
  reference : String
  expenseId : Nat
deriving DecidableEq, Repr

/-! ## Budgets -/

/-- `utilization_percent` in hundredths: the generated column
    `ROUND((committed_amount::numeric / amount_limit) * 10000) / 100`. -/
def utilizationHundredths (committedAmount amountLimit : Nat) : Nat :=
  if 0 < amountLimit then (2 * 10000 * committedAmount + amountLimit) / (2 * amountLimit) else 0

/-- One more than the greatest `bigint`, 2 to the power 63. -/
def bigintBound : Nat := 9223372036854775808

/-- What the columns of a budget row can hold: `numeric(7,2)` for the generated
    percentage and `bigint` for the amounts. -/
def budgetRepresentable (amountLimit committedAmount reimbursedAmount : Nat) : Prop :=
  utilizationHundredths committedAmount amountLimit < 10000000 ∧ amountLimit < bigintBound ∧
    committedAmount < bigintBound ∧ reimbursedAmount < bigintBound

instance (l c r : Nat) : Decidable (budgetRepresentable l c r) :=
  inferInstanceAs (Decidable (_ ∧ _ ∧ _ ∧ _))

/-- The columns can hold a smaller committed amount. -/
theorem budgetRepresentable_of_le {l c c' r : Nat} (h : budgetRepresentable l c r) (hle : c' ≤ c) :
    budgetRepresentable l c' r := by
  obtain ⟨hutilization, hlimit, hcommitted, hreimbursed⟩ := h
  refine ⟨Nat.lt_of_le_of_lt ?_ hutilization, hlimit, Nat.lt_of_le_of_lt hle hcommitted, hreimbursed⟩
  unfold utilizationHundredths
  split
  · exact Nat.div_le_div_right (by omega)
  · exact Nat.le_refl 0

/-- A row of `department_budgets`. Its generated columns are functions of the
    others, and a row exists only when they can be stored. -/
structure DepartmentBudget where
  reference : String
  departmentId : Nat
  year : Int
  amountLimit : Nat
  isActive : Bool
  committedAmount : Nat
  reimbursedAmount : Nat
  deletedAt : Option Instant
  representable : budgetRepresentable amountLimit committedAmount reimbursedAmount
deriving DecidableEq

namespace DepartmentBudget

/-- The columns of `UQ_department_budget_annual_unique`. -/
def key (b : DepartmentBudget) : Nat × Int := (b.departmentId, b.year)

/-- The rows the expense path reads and updates:
    `is_active = TRUE AND deleted_at IS NULL`. -/
def isLive (b : DepartmentBudget) : Bool := b.isActive && b.deletedAt.isNone

def remainingAmount (b : DepartmentBudget) : Nat := b.amountLimit - b.committedAmount

def isOverBudget (b : DepartmentBudget) : Bool := b.amountLimit < b.committedAmount

/-- The column as `percentColumnTransformer` reads it. -/
def utilizationPercent (b : DepartmentBudget) : Float :=
  Js.ofDecimal (utilizationHundredths b.committedAmount b.amountLimit) (-2)

/-- The row with other counters, when the columns can hold them. -/
def withCounters (b : DepartmentBudget) (committedAmount reimbursedAmount : Nat) :
    Option DepartmentBudget :=
  if h : budgetRepresentable b.amountLimit committedAmount reimbursedAmount then
    some { b with committedAmount, reimbursedAmount, representable := h }
  else none

theorem withCounters_eq_some {b b' : DepartmentBudget} {c r : Nat} :
    b.withCounters c r = some b' ↔ ∃ h : budgetRepresentable b.amountLimit c r,
      b' = { b with committedAmount := c, reimbursedAmount := r, representable := h } := by
  unfold withCounters
  split
  · rename_i h
    simp [h, eq_comm]
  · rename_i h
    simp [h]

end DepartmentBudget

/-! ## Policies and the outbox -/

inductive DomainEventType where
  | expenseSubmitted
  | expensePendingFinance
  | expenseApproved
  | expenseRejected
  | expenseReopened
  | expenseReimbursed
  | expenseCommentAdded
  | expenseBudgetCommitted
  | delegationCreated
  | delegationRevoked
  | departmentManagerChanged
deriving DecidableEq, Repr

/-- An idempotency key. The two constructors are the two templates the services
    use, `${eventType}:${id}:${at.toISOString()}` and
    `expense.comment.added:${reference}`; no event type contains a colon and
    `toISOString` is injective, so that distinct keys are distinct texts. -/
inductive IdempotencyKey where
  | ofTransition (eventType : DomainEventType) (expenseId : Nat) (at_ : Instant)
  | ofComment (reference : String)
deriving DecidableEq, Repr

/-- A row of `outbox_events`. -/
structure OutboxEvent where
  eventType : DomainEventType
  idempotencyKey : Option IdempotencyKey
deriving DecidableEq, Repr

end Expentra
