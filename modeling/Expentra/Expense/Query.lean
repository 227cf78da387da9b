-- SUMMARY: The paginated lists of expenses: everybody's, and the ones waiting for a decision.
import Expentra.Approval.ActionableQueue

/-!
# Expense lists

`findAllExpenses` and `findForApprovalExpenses`. Each builds one SQL query: a scope
for the user, the filters of the request, an order, and a page of the result.
-/

namespace Expentra

open Library

/-- The database, with the two columns of `expenses` that only the lists sort by. -/
structure ExpenseTable where
  db : Db
  createdAt : Nat → Instant
  updatedAt : Nat → Instant

inductive ExpenseListSortField where
  | CREATED_AT
  | UPDATED_AT
  | AMOUNT
  | STATUS
  | SUBMITTED_AT
  | APPROVED_AT
deriving DecidableEq, Repr

inductive ExpenseListSortOrder where
  | ASC
  | DESC
deriving DecidableEq, Repr

structure ListExpensesQuery where
  actionableOnly : Option Bool
  needsAction : Bool
  agingOnly : Bool
  status : Option ExpenseStatus
  sortBy : Option ExpenseListSortField
  sortOrder : Option ExpenseListSortOrder
  page : Option Int
  limit : Option Int
deriving DecidableEq, Repr

structure Pagination where
  page : Nat
  limit : Nat
  skip : Nat
deriving DecidableEq, Repr

structure PaginatedExpensesResult where
  data : List ExpenseEntity
  page : Nat
  limit : Nat
  total : Nat
  totalPages : Nat
deriving DecidableEq, Repr

namespace ExpenseQueryService

def APPROVAL_AGING_DAYS : Int := 3

/-- `Number(value) || fallback` -/
def orDefault (value : Option Int) (fallback : Int) : Int :=
  match value with
  | some n => if n = 0 then fallback else n
  | none => fallback

def resolvePagination (query : ListExpensesQuery) : Pagination :=
  let page := (max 1 (orDefault query.page 1)).toNat
  let limit := (min 100 (max 1 (orDefault query.limit 20))).toNat
  { page, limit, skip := (page - 1) * limit }

/-! ## Order -/

def sortColumn (t : ExpenseTable) (sortBy : ExpenseListSortField) (row : Expense) : Option Int :=
  match sortBy with
  | .CREATED_AT => some (t.createdAt row.id)
  | .UPDATED_AT => some (t.updatedAt row.id)
  | .AMOUNT => some row.amount.val
  | .STATUS => some row.status.position
  | .SUBMITTED_AT => row.submittedAt
  | .APPROVED_AT => row.approvedAt

/-- One column of `ORDER BY`, `NULLS LAST`. -/
def compareColumn (sortOrder : ExpenseListSortOrder) : Option Int → Option Int → Ordering
  | some left, some right =>
    match sortOrder with
    | .ASC => compare left right
    | .DESC => compare right left
  | some _, none => .lt
  | none, some _ => .gt
  | none, none => .eq

/-- The two columns of `applyListSort`. -/
def compareRows (t : ExpenseTable) (query : ListExpensesQuery) (left right : Expense) : Ordering :=
  let sortBy := query.sortBy.getD .UPDATED_AT
  let sortOrder := query.sortOrder.getD .DESC
  let first := compareColumn sortOrder (sortColumn t sortBy left) (sortColumn t sortBy right)
  if sortBy = .UPDATED_AT then first
  else first.then (compare (t.updatedAt right.id) (t.updatedAt left.id))

/-- PostgreSQL may take rows that tie in both columns in another order for every query. Here all
    queries take them in the order of the table. -/
def applyListSort (t : ExpenseTable) (query : ListExpensesQuery) (rows : List Expense) :
    List Expense :=
  rows.insertionSort (fun left right => compareRows t query left right ≠ .gt)

/-! ## Filters -/

def applyListFilters (query : ListExpensesQuery) (row : Expense) : Bool :=
  if query.needsAction then row.status = .DRAFT || row.status = .REJECTED
  else query.status.all (row.status = ·)

/-- Company-wide lists must never expose another user's drafts. -/
def excludeOthersDrafts (viewerUserId : Nat) (row : Expense) : Bool :=
  row.status ≠ .DRAFT || row.userId = viewerUserId

/-- `expenseOwner.departmentId` of the joined owner. -/
def ownerDepartmentId (db : Db) (row : Expense) : Option Nat :=
  (db.users.find? row.userId).bind (·.departmentId)

/-- A department manager without a global permission: what is pending in the managed
    departments, by the expense or by its owner. -/
def managerScope (db : Db) (authUser : AuthUser) (row : Expense) : Bool :=
  row.userId = authUser.id ||
    (row.status.isPending &&
      (row.departmentId.any authUser.managedDepartmentIds.contains ||
        (ownerDepartmentId db row).any authUser.managedDepartmentIds.contains))

def globalScope (authUser : AuthUser) (row : Expense) : Bool :=
  row.status.isPending || row.userId = authUser.id

/-- `applyActionableApprovalFilter` -/
def isActionable (db : Db) (now : Instant) (authUser : AuthUser) (row : Expense) : Bool :=
  (ActionableApprovalQueue.getActionableExpenseIds db now authUser).contains row.id

/-- Submitted before the cutoff, some days before now. -/
def isAging (now : Instant) (row : Expense) : Bool :=
  row.submittedAt.any (· < now - APPROVAL_AGING_DAYS * Date.msPerDay)

def executePaginatedQuery (db : Db) (pagination : Pagination) (rows : List Expense) :
    PaginatedExpensesResult where
  data := ((rows.drop pagination.skip).take pagination.limit).map db.withRelations
  page := pagination.page
  limit := pagination.limit
  total := rows.length
  totalPages := (rows.length + pagination.limit - 1) / pagination.limit

/-! ## The lists -/

def findAllExpenses (t : ExpenseTable) (authUser : AuthUser) (query : ListExpensesQuery) :
    Except HttpException PaginatedExpensesResult := do
  assertCanListAllExpenses authUser
  let rows := t.db.expenses.rows.filter (fun row =>
    excludeOthersDrafts authUser.id row && applyListFilters query row)
  pure (executePaginatedQuery t.db (resolvePagination query) (applyListSort t query rows))

def findForApprovalExpenses (t : ExpenseTable) (now : Instant) (authUser : AuthUser)
    (query : ListExpensesQuery) : Except HttpException PaginatedExpensesResult := do
  assertCanListForApprovalExpenses authUser
  let pagination := resolvePagination query
  let deptManagerOnly := ApprovalAccessPolicy.isManagerApprover authUser &&
    !ApprovalAccessPolicy.hasGlobalApprovalPermission authUser
  if deptManagerOnly && authUser.managedDepartmentIds.length = 0 then
    pure { data := [], page := pagination.page, limit := pagination.limit, total := 0, totalPages := 0 }
  else
    let rows := t.db.expenses.rows.filter (fun row =>
      (if deptManagerOnly then managerScope t.db authUser row else globalScope authUser row) &&
        applyListFilters query row &&
        (query.actionableOnly = some false || isActionable t.db now authUser row) &&
        (!query.agingOnly || isAging now row))
    pure (executePaginatedQuery t.db pagination (applyListSort t query rows))

end ExpenseQueryService

end Expentra
