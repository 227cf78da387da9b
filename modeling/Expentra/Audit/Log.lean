-- SUMMARY: The audit log: the rows the listeners of expense events record, also when saves throw.
import Expentra.Core.Json
import Expentra.Database.Store
import Expentra.Library.Traversal

/-!
# The audit log

A listener catches what the save of a row throws and goes on, so the log grows by the rows
whose save did not throw. A submission has one row of its own and one for each policy it
justifies.
-/

namespace Expentra

inductive AuditAction where
  | EXPENSE_CREATED | EXPENSE_SUBMITTED | EXPENSE_APPROVED | EXPENSE_REJECTED
  | EXPENSE_REIMBURSED | EXPENSE_REOPENED | EXPENSE_COMMENT_ADDED | POLICY_VIOLATION
  | DELEGATION_CREATED | DELEGATION_REVOKED | DEPARTMENT_MANAGER_CHANGED
  | USER_DEPARTMENT_CHANGED | USER_SUSPENDED | ROLE_PERMISSIONS_CHANGED | USER_ROLE_CHANGED
deriving DecidableEq, Repr

inductive AuditResourceType where
  | EXPENSE | POLICY | DELEGATION | DEPARTMENT | USER | ROLE
deriving DecidableEq, Repr

/-- `Record<string, unknown>` -/
abbrev Metadata := List (String × Json)

structure AuditLog where
  reference : String
  actorId : Option Nat
  action : AuditAction
  resourceType : AuditResourceType
  resourceReference : String
  metadata : Metadata
  createdAt : Instant
deriving DecidableEq

/-- A property of the metadata, when it is a string. -/
def Metadata.string? (metadata : Metadata) (key : String) : Option String :=
  match (Json.obj metadata).get? key with
  | some (.str s) => some s
  | _ => none

structure RecordAuditInput where
  actorId : Option Nat
  action : AuditAction
  resourceType : AuditResourceType
  resourceReference : String
  metadata : Metadata

/-- What the database adds to a row it saves: the reference it draws and the time. -/
structure Stamp where
  reference : String
  createdAt : Instant
deriving DecidableEq

namespace AuditService

/-- `{ ...metadata, ...(correlationId ? { correlationId } : {}) }` -/
def withCorrelation (correlationId : Option String) (metadata : Metadata) : Metadata :=
  match correlationId.filter (· ≠ "") with
  | none => metadata
  | some id => metadata.filter (·.1 ≠ "correlationId") ++ [("correlationId", .str id)]

/-- The row `record` saves. -/
def toRow (correlationId : Option String) (input : RecordAuditInput) (stamp : Stamp) : AuditLog where
  reference := stamp.reference
  actorId := input.actorId
  action := input.action
  resourceType := input.resourceType
  resourceReference := input.resourceReference
  metadata := withCorrelation correlationId input.metadata
  createdAt := stamp.createdAt

/-- `record` in a `try`: a save that throws, without a stamp, leaves no row. -/
def tryRecord (correlationId : Option String) (input : RecordAuditInput) (saved : Option Stamp) :
    List AuditLog :=
  (saved.map (toRow correlationId input)).toList

/-- A property other than the correlation id is stored as it was sent. -/
theorem string?_withCorrelation {key : String} (hkey : key ≠ "correlationId")
    (correlationId : Option String) (metadata : Metadata) :
    (withCorrelation correlationId metadata).string? key = metadata.string? key := by
  unfold withCorrelation
  split
  · rfl
  · next id _ =>
    have hlast : decide ("correlationId" = key) = false := decide_eq_false hkey.symm
    have hfind : (metadata.filter (·.1 ≠ "correlationId") ++ [("correlationId", Json.str id)]).find?
        (fun field => field.1 = key) = metadata.find? (fun field => field.1 = key) := by
      rw [List.find?_append, List.find?_filter, List.find?_singleton, hlast]
      simp only [Bool.false_eq_true, if_false, Option.or_none]
      congr 1
      funext field
      by_cases hfield : field.1 = key
      · simp [hfield, hkey]
      · simp [hfield]
    rw [Metadata.string?, Metadata.string?, Json.get?, Json.get?, hfind]

end AuditService

/-- What a listener is told of an expense event. -/
structure ExpenseEvent where
  expenseId : Nat
  userId : Nat
  approverId : Option Nat
  financeId : Option Nat
  comment : Option String
  policyJustifications : Option (List (String × String))

/-- What the environment of a listener decides: the correlation id of the call, and the
    outcome of each save, by its position in the run of the listener. -/
structure AuditEnv where
  correlationId : Option String
  saved : Nat → Option Stamp

namespace DomainAuditListener

open AuditService

/-- The input of `recordExpenseEvent`. -/
def expenseEventInput (expense : Expense) (action : AuditAction) (actorId : Nat)
    (metadata : Metadata) : RecordAuditInput :=
  ⟨some actorId, action, .EXPENSE, expense.reference, metadata⟩

/-- `recordExpenseEvent`: the rows, and the expense unless it is gone or the save throws. -/
def recordExpenseEvent (env : AuditEnv) (db : Db) (payload : ExpenseEvent) (action : AuditAction)
    (actorId : Nat) (metadata : Metadata) : List AuditLog × Option Expense :=
  match db.expenses.find? payload.expenseId with
  | none => ([], none)
  | some expense =>
    (tryRecord env.correlationId (expenseEventInput expense action actorId metadata) (env.saved 0),
      (env.saved 0).map (fun _ => expense))

/-- The justifications that are not blank, trimmed. -/
def justifications (policyJustifications : Option (List (String × String))) :
    List (String × String) :=
  (policyJustifications.getD []).filterMap (fun entry =>
    if Js.trim entry.2 = "" then none else some (entry.1, Js.trim entry.2))

def justificationInput (expenseReference : String) (actorId : Nat) (entry : String × String) :
    RecordAuditInput :=
  ⟨some actorId, .POLICY_VIOLATION, .EXPENSE, expenseReference,
    [("policyReference", .str entry.1), ("justification", .str entry.2)]⟩

/-- `recordPolicyJustifications`; the first save of the listener was that of the event. -/
def recordPolicyJustifications (env : AuditEnv) (expenseReference : String) (actorId : Nat)
    (policyJustifications : Option (List (String × String))) : List AuditLog :=
  (justifications policyJustifications).zipIdx.flatMap (fun entry =>
    tryRecord env.correlationId (justificationInput expenseReference actorId entry.1)
      (env.saved (entry.2 + 1)))

/-- What `onExpenseSubmitted` and `onExpenseApproved` do: the rows they add to the log. -/
def recordWithJustifications (env : AuditEnv) (db : Db) (payload : ExpenseEvent)
    (action : AuditAction) (actorId : Nat) : List AuditLog :=
  match recordExpenseEvent env db payload action actorId [] with
  | (rows, none) => rows
  | (rows, some expense) =>
    rows ++ recordPolicyJustifications env expense.reference payload.userId
      payload.policyJustifications

def onExpenseSubmitted (env : AuditEnv) (db : Db) (payload : ExpenseEvent) : List AuditLog :=
  recordWithJustifications env db payload .EXPENSE_SUBMITTED payload.userId

def onExpenseApproved (env : AuditEnv) (db : Db) (payload : ExpenseEvent) : List AuditLog :=
  recordWithJustifications env db payload .EXPENSE_APPROVED (payload.approverId.getD payload.userId)

/-- An `undefined` comment is no property of what is stored. -/
def onExpenseRejected (env : AuditEnv) (db : Db) (payload : ExpenseEvent) : List AuditLog :=
  (recordExpenseEvent env db payload .EXPENSE_REJECTED (payload.approverId.getD payload.userId)
    (payload.comment.map (fun comment => ("comment", Json.str comment))).toList).1

def onExpenseReopened (env : AuditEnv) (db : Db) (payload : ExpenseEvent) : List AuditLog :=
  (recordExpenseEvent env db payload .EXPENSE_REOPENED payload.userId []).1

def onExpenseReimbursed (env : AuditEnv) (db : Db) (payload : ExpenseEvent) : List AuditLog :=
  (recordExpenseEvent env db payload .EXPENSE_REIMBURSED
    (payload.financeId.getD payload.userId) []).1

/-! ## What the rows say -/

variable {env : AuditEnv}

/-- A row for a justification names its policy and its text. -/
theorem justificationRow (correlationId : Option String) (expenseReference : String) (actorId : Nat)
    (entry : String × String) (stamp : Stamp) :
    (toRow correlationId (justificationInput expenseReference actorId entry) stamp).metadata.string?
        "policyReference" = some entry.1 ∧
      (toRow correlationId (justificationInput expenseReference actorId entry) stamp).metadata.string?
        "justification" = some entry.2 := by
  constructor
  · rw [toRow, string?_withCorrelation (by decide)]
    simp [justificationInput, Metadata.string?, Json.get?]
  · rw [toRow, string?_withCorrelation (by decide)]
    simp [justificationInput, Metadata.string?, Json.get?]

end DomainAuditListener

end Expentra
