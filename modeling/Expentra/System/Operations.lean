-- SUMMARY: The operations of the system as one labelled step relation over the database.
import Expentra.Library.Run
import Expentra.Approval.Decisions
import Expentra.Approval.Levels
import Expentra.Department.Manager
import Expentra.Expense.Receipts
import Expentra.Expense.Reimbursement
import Expentra.Expense.Submit

/-!
# The system

A step is a call of a service operation: the database after it is the committed
result of its transaction, which is the old database when the call throws. A
label carries the arguments of the call, the moment of the call, the references
the call draws and, for a submission, the active policies the engine holds.
-/

namespace Expentra

open Library

inductive Operation where
  | createExpense (now : Instant) (reference : String) (userId : Nat)
      (input : ExpenseDraft.CreateExpenseInput)
  | updateExpense (now : Instant) (authUser : AuthUser) (reference : String)
      (input : ExpenseDraft.UpdateExpenseInput)
  | removeExpense (authUser : AuthUser) (reference : String)
  | uploadReceipt (authUser : AuthUser) (reference attachmentReference : String)
  | removeReceipt (authUser : AuthUser) (reference receiptReference : String)
  | submit (policies : List ExpensePolicy) (now : Instant) (authUser : AuthUser)
      (reference : String) (policyJustifications : List (String × String))
  | approve (now : Instant) (authUser : AuthUser) (expenseId : Nat)
      (input : Approval.ApproveExpenseInput)
  | reject (now : Instant) (authUser : AuthUser) (expenseId : Nat)
      (commentReference comment : String)
  | reopenRejected (authUser : AuthUser) (reference : String)
  | reimburse (now : Instant) (authUser : AuthUser) (reference : String)
  | createDelegation (now : Instant) (reference : String) (delegator : AuthUser)
      (input : Delegation.CreateDelegationInput)
  | revokeDelegation (delegatorId : Nat) (reference : String)
  | createLevel (reference : String) (input : ApprovalLevels.CreateApprovalLevelInput)
  | updateLevel (reference : String) (input : ApprovalLevels.UpdateApprovalLevelInput)
  | removeLevel (reference : String)
  | updateDepartment (reference : String) (input : DepartmentService.UpdateDepartmentInput)
  | createBudget (now : Instant) (reference : String)
      (input : BudgetService.CreateDepartmentBudgetInput)
  | updateBudget (reference : String) (input : BudgetService.UpdateDepartmentBudgetInput)

/-- The transaction of an operation. -/
def Operation.perform (cfg : Config) : Operation → Tx Unit
  | .createExpense now reference userId input =>
    ExpenseDraft.create cfg now reference userId input
  | .updateExpense now authUser reference input =>
    ExpenseDraft.update cfg now authUser reference input
  | .removeExpense authUser reference => ExpenseDraft.remove authUser reference
  | .uploadReceipt authUser reference attachmentReference =>
    Receipts.upload authUser reference attachmentReference
  | .removeReceipt authUser reference receiptReference =>
    Receipts.remove authUser reference receiptReference
  | .submit policies now authUser reference policyJustifications =>
    ExpenseSubmit.submit cfg policies now authUser reference policyJustifications
  | .approve now authUser expenseId input => Approval.approve cfg now authUser expenseId input
  | .reject now authUser expenseId commentReference comment =>
    Approval.reject cfg now authUser expenseId commentReference comment
  | .reopenRejected authUser reference => ExpenseDraft.reopenRejected authUser reference
  | .reimburse now authUser reference => ExpenseReimbursement.reimburse cfg now authUser reference
  | .createDelegation now reference delegator input =>
    Delegation.create cfg now reference delegator input
  | .revokeDelegation delegatorId reference => Delegation.revoke delegatorId reference
  | .createLevel reference input => ApprovalLevels.create reference input
  | .updateLevel reference input => ApprovalLevels.update reference input
  | .removeLevel reference => ApprovalLevels.remove reference
  | .updateDepartment reference input => DepartmentService.update reference input
  | .createBudget now reference input => BudgetService.create cfg now reference input
  | .updateBudget reference input => BudgetService.update reference input

/-- The call does not throw. -/
def Operation.Succeeds (cfg : Config) (op : Operation) (db : Db) : Prop :=
  ∃ db', op.perform cfg db = .ok ((), db')

instance (cfg : Config) (op : Operation) (db : Db) : Decidable (op.Succeeds cfg db) :=
  match h : op.perform cfg db with
  | .ok ((), db') => .isTrue ⟨db', h⟩
  | .error _ => .isFalse (by rintro ⟨_, hok⟩; rw [h] at hok; cases hok)

/-- One call, committed. -/
def Step (cfg : Config) (db : Db) (op : Operation) (db' : Db) : Prop :=
  db' = (op.perform cfg).commit db

/-- A step is a successful call, or it changes nothing. -/
theorem Step.cases {cfg : Config} {db db' : Db} {op : Operation} (h : Step cfg db op db') :
    op.perform cfg db = .ok ((), db') ∨ db' = db := by
  rcases Transaction.commit_cases (op.perform cfg) db with ⟨⟨⟩, hok⟩ | ⟨-, hsame⟩
  · exact .inl (h ▸ hok)
  · exact .inr (h.trans hsame)

theorem Step.of_succeeds {cfg : Config} {db db' : Db} {op : Operation} (h : Step cfg db op db')
    (hok : op.Succeeds cfg db) : op.perform cfg db = .ok ((), db') := by
  obtain ⟨db₁, hok⟩ := hok
  rw [hok, h, Transaction.commit_of_ok hok]

/-- A property every successful call keeps is kept by every step. -/
theorem Step.preserves {cfg : Config} {P : Db → Prop} {db db' : Db} {op : Operation}
    (hok : ∀ db₁, op.perform cfg db = .ok ((), db₁) → P db₁) (hdb : P db)
    (h : Step cfg db op db') : P db' := by
  rcases h.cases with hsuccess | rfl
  · exact hok _ hsuccess
  · exact hdb

/-! ## Executing a list of calls -/

/-- The calls of a list one after the other, each with the database it leaves. -/
def trace (cfg : Config) : List Operation → Db → List (Operation × Db)
  | [], _ => []
  | op :: ops, db =>
    let db' := (op.perform cfg).commit db
    (op, db') :: trace cfg ops db'

/-- The database after the calls of a list. -/
def runAll (cfg : Config) : List Operation → Db → Db
  | [], db => db
  | op :: ops, db => runAll cfg ops ((op.perform cfg).commit db)

theorem run_trace (cfg : Config) (ops : List Operation) (db : Db) :
    Run (Step cfg) db (trace cfg ops db) := by
  induction ops generalizing db with
  | nil => exact Run.nil
  | cons op ops ih => exact Run.cons rfl (ih _)

theorem reaches_runAll (cfg : Config) (ops : List Operation) (db : Db) :
    Reaches (Step cfg) db (runAll cfg ops db) := by
  induction ops generalizing db with
  | nil => exact Reaches.refl
  | cons op ops ih => exact Relation.ReflTransGen.head ⟨op, rfl⟩ (ih _)

/-- Calls that meet a guard in every state are a guarded run. -/
theorem reaches_runAll_guarded {G : Guard Db Operation} (cfg : Config) {ops : List Operation}
    (hG : ∀ op ∈ ops, ∀ db, G db op) (db : Db) :
    Reaches (Guarded G (Step cfg)) db (runAll cfg ops db) := by
  induction ops generalizing db with
  | nil => exact Reaches.refl
  | cons op ops ih =>
    obtain ⟨hhead, hrest⟩ := List.forall_mem_cons.1 hG
    exact Relation.ReflTransGen.head ⟨op, hhead db, rfl⟩ (ih hrest _)

/-! ## A small organisation

A department with an owner of expenses, its manager, and a finance manager; an
approval chain of both; no expense yet. -/

namespace Sample

def config : Config := ⟨BudgetPeriod.utcZone, false⟩

def employeeRole : Role :=
  ⟨1, "ROL1700000000001AAAAAA", "employee", [⟨.READ, .EXPENSE, .SELF, true⟩]⟩

def financeRole : Role :=
  ⟨2, "ROL1700000000002AAAAAA", "finance_manager",
    [⟨.APPROVE, .APPROVAL, .GLOBAL, true⟩, ⟨.REIMBURSE, .EXPENSE, .GLOBAL, true⟩]⟩

def owner : User :=
  ⟨1, "USR1700000000001AAAAAA", "owner@expentra.test", some 1, true, true, none, some employeeRole⟩

def manager : User :=
  ⟨2, "USR1700000000002AAAAAA", "manager@expentra.test", some 1, true, true, none, some employeeRole⟩

def finance : User :=
  ⟨3, "USR1700000000003AAAAAA", "finance@expentra.test", none, true, true, none, some financeRole⟩

def authOwner : AuthUser := toAuthUser owner []

def authManager : AuthUser := toAuthUser manager [1]

def authFinance : AuthUser := toAuthUser finance []

def managerLevel : ApprovalLevel :=
  ⟨1, "APL1700000000001AAAAAA", none, .DEPARTMENT_MANAGER, "Manager", 1, 0, none, true, none⟩

def financeLevel : ApprovalLevel :=
  ⟨2, "APL1700000000002AAAAAA", some 2, .FINANCE_MANAGER, "Finance", 2, 0, none, true, none⟩

def db : Db where
  users := ⟨[owner, manager, finance], by decide⟩
  departments := ⟨[⟨1, "DPT1700000000001AAAAAA", some 2, true, none⟩], by decide⟩
  roles := [employeeRole, financeRole]
  levels := ⟨[managerLevel, financeLevel], by decide⟩
  nextLevelId := 3
  expenses := ∅
  nextExpenseId := 1
  approvals := ∅
  comments := []
  attachments := []
  budgets := ∅
  delegations := []
  outbox := []

/-- The budget of the department for 2025. -/
def budget : DepartmentBudget :=
  ⟨"BUD1700000000001AAAAAA", 1, 2025, 100000, true, 0, 0, none, by decide⟩

def dbWithBudget : Db := { db with budgets := ⟨[budget], by decide⟩ }

/-- 2025-03-10T09:00:00Z -/
def now : Instant := Date.utc 2025 2 10 9 0 0

def expenseReference : String := "EXP1700000000001AAAAAA"

def createExpense : Operation :=
  .createExpense now expenseReference 1 ⟨"Train to Abuja", none, 5000, .TRAVEL, none⟩

def submit : Operation := .submit [] now authOwner expenseReference []

def approveAs (authUser : AuthUser) : Operation := .approve now authUser 1 ⟨none, false⟩

def reimburse : Operation := .reimburse now authFinance expenseReference

def rejectAs (authUser : AuthUser) (commentReference : String) : Operation :=
  .reject now authUser 1 commentReference "No receipt"

/-- From the draft to the payment, without an incident. -/
def lifecycle : List Operation :=
  [createExpense, submit, approveAs authManager, approveAs authFinance, reimburse]

end Sample

end Expentra
