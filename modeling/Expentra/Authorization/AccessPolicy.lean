-- SUMMARY: Permissions, the authenticated user, and the approval and expense access policies.
import Expentra.Database.Entities

/-!
# Authorization

What a stored permission grants, the context of an authenticated user, and the
access decisions the expense and approval services ask for.
-/

namespace Expentra

structure AuthUserPermission where
  action : PermissionAction
  resource : PermissionResource
  scope : PermissionScope
deriving DecidableEq, Repr

/-- `IAuthUser`. -/
structure AuthUser where
  id : Nat
  reference : String
  email : String
  role : String
  roleId : Nat
  isActive : Bool
  deactivatedAt : Option Instant
  isEmailVerified : Bool
  departmentId : Option Nat
  /-- Departments this user manages (`department.manager_id`). -/
  managedDepartmentIds : List Nat
  permissions : List AuthUserPermission
deriving DecidableEq, Repr

/-! ## What a permission grants -/

def actionAndResourceMatch (permission : AuthUserPermission) (action : PermissionAction)
    (resource : PermissionResource) : Bool :=
  (permission.action = .MANAGE || permission.action = action) &&
    (permission.resource = .ALL || permission.resource = resource)

/-- Scope rules for a matched permission (resource and action pair). -/
def permissionScopeAllows (permission : AuthUserPermission) (action : PermissionAction)
    (resource : PermissionResource) : Bool :=
  let anyScope := permission.scope = .GLOBAL || permission.scope = .SELF
  match resource with
  | .EXPENSE =>
    match action with
    | .READ | .CREATE | .UPDATE | .DELETE | .SUBMIT | .REIMBURSE => anyScope
    | _ => true
  | .RECEIPT =>
    match action with
    | .CREATE | .READ | .DELETE => anyScope
    | _ => true
  | .APPROVAL =>
    match action with
    | .APPROVE | .REJECT | .CREATE | .READ | .UPDATE | .DELETE => permission.scope = .GLOBAL
    | _ => true
  | .NOTIFICATION =>
    match action with
    | .READ | .UPDATE | .MARK => permission.scope = .SELF
    | _ => true
  | .DASHBOARD =>
    match action with
    | .READ => anyScope
    | _ => true
  | .BUDGET =>
    match action with
    | .READ => anyScope
    | _ => permission.scope = .GLOBAL
  | .REPORT | .APPROVAL_LEVEL | .DEPARTMENT | .ROLE | .USER | .POLICY | .AUDIT =>
    permission.scope = .GLOBAL
  | .ALL => true

/-- Whether a stored permission grants the requested action on a resource. -/
def permissionGrants (permission : AuthUserPermission) (action : PermissionAction)
    (resource : PermissionResource) (requiredScope : Option PermissionScope) : Bool :=
  let scopeMatches := requiredScope = none || requiredScope = some permission.scope
  if permission.action = .MANAGE && (permission.resource = .ALL || permission.resource = resource)
  then scopeMatches
  else if !actionAndResourceMatch permission action resource then false
  else if !scopeMatches then false
  -- `budget.read.own` must not satisfy an unscoped read of budgets
  else if requiredScope = none && resource = .BUDGET && action = .READ && permission.scope = .SELF
  then false
  else permissionScopeAllows permission action resource

/-! ## The authenticated user -/

def isSuperAdminUser (authUser : AuthUser) : Bool := authUser.role = "super_admin"

def hasPermission (authUser : AuthUser) (action : PermissionAction)
    (resource : PermissionResource) (scope : Option PermissionScope) : Bool :=
  isSuperAdminUser authUser ||
    authUser.permissions.any (fun permission => permissionGrants permission action resource scope)

def canManageAll (authUser : AuthUser) : Bool :=
  isSuperAdminUser authUser || hasPermission authUser .MANAGE .ALL none

def mapPermissionsFromRole (permissions : List Permission) : List AuthUserPermission :=
  (permissions.filter (·.isActive)).map (fun p => ⟨p.action, p.resource, p.scope⟩)

def toAuthUser (user : User) (managedDepartmentIds : List Nat) : AuthUser where
  id := user.id
  reference := user.reference
  email := user.email
  role := (user.role.map (·.name)).getD ""
  roleId := (user.role.map (·.id)).getD 0
  isActive := user.isActive
  deactivatedAt := user.deactivatedAt
  isEmailVerified := user.isEmailVerified
  departmentId := user.departmentId
  managedDepartmentIds := managedDepartmentIds
  permissions := mapPermissionsFromRole ((user.role.map (·.permissions)).getD [])

/-! ## Approval access -/

namespace ApprovalAccessPolicy

def hasGlobalApprovalPermission (authUser : AuthUser) : Bool :=
  hasPermission authUser .APPROVE .APPROVAL (some .GLOBAL) ||
    hasPermission authUser .REJECT .APPROVAL (some .GLOBAL)

def isManagerApprover (authUser : AuthUser) : Bool := 0 < authUser.managedDepartmentIds.length

/-- `expense.departmentId ?? expense.user?.departmentId ?? null` -/
def resolveExpenseDepartmentId (expense : ExpenseEntity) : Option Nat :=
  match expense.departmentId.toOption with
  | some departmentId => some departmentId
  | none => expense.user.bind (·.departmentId)

def isDepartmentManagerForExpense (authUser : AuthUser) (expense : ExpenseEntity) : Bool :=
  match resolveExpenseDepartmentId expense with
  | some expenseDepartmentId => authUser.managedDepartmentIds.contains expenseDepartmentId
  | none => false

def canDecideOnApproval (authUser : AuthUser) : Bool :=
  hasGlobalApprovalPermission authUser || isManagerApprover authUser

def canDecideOnExpense (authUser : AuthUser) (expense : ExpenseEntity) : Bool :=
  if hasGlobalApprovalPermission authUser then true
  else if !isManagerApprover authUser then false
  else isDepartmentManagerForExpense authUser expense

def canActOnApprovalStage (authUser : AuthUser) (expense : ExpenseEntity)
    (stage : ApprovalLevel) : Bool :=
  if !canDecideOnExpense authUser expense then false
  else match stage.approverType with
    | .DEPARTMENT_MANAGER => isDepartmentManagerForExpense authUser expense
    | .FINANCE_MANAGER => hasGlobalApprovalPermission authUser

end ApprovalAccessPolicy

/-- The check `assertCanDecideOnExpense` makes, or the exception it throws. -/
def assertCanDecideOnExpense (authUser : AuthUser) (expense : ExpenseEntity) :
    Except HttpException Unit :=
  if expense.userId = authUser.id then
    .error (.forbidden "You cannot approve or reject your own expense")
  else if !ApprovalAccessPolicy.canDecideOnExpense authUser expense then
    .error (.forbidden "You do not have permission to approve or reject this expense")
  else .ok ()

theorem assertCanDecideOnExpense_eq_ok {authUser : AuthUser} {expense : ExpenseEntity} {u : Unit} :
    assertCanDecideOnExpense authUser expense = .ok u ↔ expense.userId ≠ authUser.id ∧
      ApprovalAccessPolicy.canDecideOnExpense authUser expense = true := by
  unfold assertCanDecideOnExpense
  split
  · simp_all
  · split <;> simp_all

/-! ## Expense access -/

inductive ExpenseDraftMutation where
  | modify
  | delete
  | submit
deriving DecidableEq, Repr

namespace ExpenseAccessPolicy

open ApprovalAccessPolicy

def canReadExpense (authUser : AuthUser) (expense : ExpenseEntity) : Bool :=
  -- Drafts are private to the submitter until submitted.
  if expense.status = .DRAFT then
    if expense.userId ≠ authUser.id then false
    else hasPermission authUser .READ .EXPENSE (some .SELF) ||
      hasPermission authUser .READ .EXPENSE (some .GLOBAL) || canManageAll authUser
  else if hasPermission authUser .READ .EXPENSE (some .GLOBAL) then true
  else if expense.userId = authUser.id then hasPermission authUser .READ .EXPENSE (some .SELF)
  else if (expense.status = .SUBMITTED || expense.status = .UNDER_REVIEW) &&
      canDecideOnExpense authUser expense then true
  else expense.status = .UNDER_REVIEW &&
    hasPermission authUser .REIMBURSE .EXPENSE (some .GLOBAL)

inductive ExpenseListVisibility where
  | all
  | ownAndSubmitted
  | own
deriving DecidableEq, Repr

def expenseListVisibility (authUser : AuthUser) : ExpenseListVisibility :=
  if hasPermission authUser .READ .EXPENSE (some .GLOBAL) then .all
  else if canDecideOnApproval authUser then .ownAndSubmitted
  -- the last two branches of the source agree
  else .own

/-- `canAccessScopedSubject`: a global grant, or a grant for oneself on one's own
    subject. -/
def canAccessScopedSubject (authUser : AuthUser) (subjectUserId : Nat)
    (granted : PermissionScope → Bool) (manageAll : Bool) : Bool :=
  if isSuperAdminUser authUser || manageAll || granted .GLOBAL then true
  else granted .SELF && subjectUserId = authUser.id

def draftMutationAction : ExpenseDraftMutation → PermissionAction
  | .delete => .DELETE
  | .submit => .SUBMIT
  | .modify => .UPDATE

def canMutateExpenseDraft (authUser : AuthUser) (expense : ExpenseEntity)
    (action : ExpenseDraftMutation) (ownerOnly : Bool) : Bool :=
  if ownerOnly then expense.userId = authUser.id
  else canAccessScopedSubject authUser expense.userId
    (fun scope => hasPermission authUser (draftMutationAction action) .EXPENSE (some scope))
    (canManageAll authUser)

def canManageReceiptOnExpense (authUser : AuthUser) (expense : ExpenseEntity) : Bool :=
  expense.userId = authUser.id || canManageAll authUser

/-- The message of `assertCanMutateExpenseDraft`. -/
def mutateDraftRefusal (action : ExpenseDraftMutation) (ownerOnly : Bool) : HttpException :=
  if ownerOnly then .forbidden "You can only submit your own expenses"
  else match action with
    | .delete => .forbidden "You can only delete your own expenses"
    | .submit => .forbidden "You can only submit your own expenses"
    | .modify => .forbidden "You can only modify your own expenses"

end ExpenseAccessPolicy

def assertCanListAllExpenses (authUser : AuthUser) : Except HttpException Unit :=
  if hasPermission authUser .READ .EXPENSE (some .GLOBAL) || canManageAll authUser then .ok ()
  else .error (.forbidden "You do not have permission to list all expenses")

def assertCanListForApprovalExpenses (authUser : AuthUser) : Except HttpException Unit :=
  if ApprovalAccessPolicy.canDecideOnApproval authUser then .ok ()
  else .error (.forbidden "You do not have permission to list expenses pending approval")

end Expentra
