-- SUMMARY: Export jobs: the context they run in, and when it is the context of the route.
import Expentra.Core.Json
import Expentra.Identity.Tokens

/-!
# Generation of exports

A worker generates an export under the context of the user who asked for it. It loads
the user by `findOne`, which joins the role without its permissions, and the mapper
takes a relation that was not joined for an empty one.
-/

namespace Expentra

open Library

inductive ExportJobType where
  | REPORT_SPENDING_XLSX | REPORT_SPENDING_PDF | EXPENSE_PERSONAL_XLSX | EXPENSE_ALL_XLSX
  | EXPENSE_PAYROLL_XLSX | DEPARTMENT_XLSX | DASHBOARD_PERSONAL_XLSX | BUDGET_XLSX
  | APPROVAL_LEVEL_XLSX | USER_XLSX
  | REPORT_SPENDING_CSV | EXPENSE_PERSONAL_CSV | EXPENSE_ALL_CSV | EXPENSE_PAYROLL_CSV
  | DEPARTMENT_CSV | DASHBOARD_PERSONAL_CSV | BUDGET_CSV | APPROVAL_LEVEL_CSV | USER_CSV
deriving DecidableEq, Repr

namespace ExportJobType

/-- The text of the type. -/
def value : ExportJobType → String
  | REPORT_SPENDING_XLSX => "report.spending.xlsx"
  | REPORT_SPENDING_PDF => "report.spending.pdf"
  | EXPENSE_PERSONAL_XLSX => "expense.personal.xlsx"
  | EXPENSE_ALL_XLSX => "expense.all.xlsx"
  | EXPENSE_PAYROLL_XLSX => "expense.payroll.xlsx"
  | DEPARTMENT_XLSX => "department.xlsx"
  | DASHBOARD_PERSONAL_XLSX => "dashboard.personal.xlsx"
  | BUDGET_XLSX => "budget.xlsx"
  | APPROVAL_LEVEL_XLSX => "approval_level.xlsx"
  | USER_XLSX => "user.xlsx"
  | REPORT_SPENDING_CSV => "report.spending.csv"
  | EXPENSE_PERSONAL_CSV => "expense.personal.csv"
  | EXPENSE_ALL_CSV => "expense.all.csv"
  | EXPENSE_PAYROLL_CSV => "expense.payroll.csv"
  | DEPARTMENT_CSV => "department.csv"
  | DASHBOARD_PERSONAL_CSV => "dashboard.personal.csv"
  | BUDGET_CSV => "budget.csv"
  | APPROVAL_LEVEL_CSV => "approval_level.csv"
  | USER_CSV => "user.csv"

end ExportJobType

structure ExportRequest where
  jobType : ExportJobType
  params : Json

/-- `ExportJobHandlerRegistry`, for a type of generated files. -/
abbrev ExportJobHandlerRegistry (File : Type) :=
  ExportJobType → Option (ExportRequest → AuthUser → Except HttpException File)

def ExportJobHandlerRegistry.generate {File : Type} (registry : ExportJobHandlerRegistry File)
    (request : ExportRequest) (authUser : AuthUser) : Except HttpException File :=
  match registry request.jobType with
  | none => .error (.notFound
      ("No export handler registered for job type: " ++ request.jobType.value))
  | some handler => handler request authUser

namespace ExportGenerationService

/-- `findOne` with `relations: { role: true, department: true }`: `role.permissions` is
    undefined, which `mapPermissionsFromRole` maps to no permissions. -/
def loadWithRole (d : Directory) (row : UserRow) : User :=
  { d.loadUser row with
    role := (row.roleId.bind d.roles.find?).map (fun role =>
      { d.loadRole role with permissions := [] }) }

def loadAuthUser (d : Directory) (userId : Nat) : Except HttpException AuthUser :=
  match d.users.find? userId with
  | some row => .ok (toAuthUser (loadWithRole d row) (d.findManagedDepartmentIds row.id))
  | none => .error (.notFound "User not found")

def generateForUser {File : Type} (registry : ExportJobHandlerRegistry File) (d : Directory)
    (userId : Nat) (request : ExportRequest) : Except HttpException File := do
  let authUser ← loadAuthUser d userId
  registry.generate request authUser

/-! ## The two contexts -/

/-- The permissions of a user's role that are in force. -/
def activePermissions (d : Directory) (row : UserRow) : List Permission :=
  ((((d.loadUser row).role).map (·.permissions)).getD []).filter (·.isActive)

section Context

variable {d : Directory} {row : UserRow}

/-- The context of an export is the one of the route without its permissions. -/
theorem toAuthUser_loadWithRole {managedDepartmentIds : List Nat} :
    toAuthUser (loadWithRole d row) managedDepartmentIds =
      { toAuthUser (d.loadUser row) managedDepartmentIds with permissions := [] } := by
  unfold toAuthUser loadWithRole Directory.loadUser
  cases row.roleId.bind d.roles.find? <;> rfl

/-- The context a worker loads. -/
theorem loadAuthUser_of_findRow {reference : String} (hrow : d.findRow reference = some row) :
    loadAuthUser d row.id =
      .ok { toAuthUser (d.loadUser row) (d.findManagedDepartmentIds row.id) with permissions := [] } := by
  have hfind : d.users.find? row.id = some row := Table.find?_of_mem (Directory.of_findRow hrow).1
  rw [loadAuthUser, hfind]
  exact congrArg Except.ok toAuthUser_loadWithRole

/-- The handler of an export is called with the user's own context, less the permissions. -/
theorem generateForUser_of_findRow {File : Type} (registry : ExportJobHandlerRegistry File)
    (request : ExportRequest) {reference : String} (hrow : d.findRow reference = some row) :
    generateForUser registry d row.id request = registry.generate request
      { toAuthUser (d.loadUser row) (d.findManagedDepartmentIds row.id) with permissions := [] } := by
  rw [generateForUser, loadAuthUser_of_findRow hrow]
  rfl

theorem permissions_eq_nil {managedDepartmentIds : List Nat} :
    (toAuthUser (d.loadUser row) managedDepartmentIds).permissions = [] ↔
      activePermissions d row = [] := List.map_eq_nil_iff

/-- An export runs in the context of the route, if and only if the role of the user has no
    permission in force. -/
theorem export_context_iff (d : Directory) (reference : String) (row : UserRow)
    (hrow : d.findRow reference = some row)
    (hactive : JwtStrategy.assertActiveUser (d.loadUser row) = .ok ()) :
    loadAuthUser d row.id = JwtStrategy.readContext d reference ↔ activePermissions d row = [] := by
  have hread : JwtStrategy.readContext d reference =
      .ok (toAuthUser (d.loadUser row) (d.findManagedDepartmentIds row.id)) := by
    rw [JwtStrategy.readContext, Directory.findAuthContext, hrow]
    dsimp only [Option.map_some]
    rw [hactive]
    rfl
  rw [loadAuthUser_of_findRow hrow, hread, Except.ok.injEq, ← permissions_eq_nil]
  constructor
  · intro h
    rw [← h]
  · intro h
    rw [← h]

end Context

end ExportGenerationService

/-! ## An export of everybody's expenses -/

namespace Sample

/-- The administrator may read the expenses of everybody. -/
def readerDirectory : Directory :=
  { directory with
    permissions := ⟨[⟨5, "PER1700000000005AAAAAA", "expense.read.all", ⟨.READ, .EXPENSE, .GLOBAL, true⟩⟩],
      by decide⟩
    roles := ⟨[⟨1, "ROL1700000000001AAAAAA", "auditor", none, [5]⟩], by decide⟩ }

/-- An administrator whose role has lost its permissions. -/
def bareDirectory : Directory :=
  { directory with roles := ⟨[⟨1, "ROL1700000000001AAAAAA", "hr_admin", none, []⟩], by decide⟩ }

end Sample

namespace ExportGenerationService

open Sample

theorem export_context_iff_sample :
    loadAuthUser bareDirectory administratorRow.id =
        JwtStrategy.readContext bareDirectory administratorRow.reference ↔
      activePermissions bareDirectory administratorRow = [] :=
  export_context_iff bareDirectory administratorRow.reference administratorRow (by decide) (by decide)

/-- The list of all expenses is open to the administrator on the route and refused to the
    export job. -/
theorem export_loses_permissions :
    ∃ routeContext exportContext,
      JwtStrategy.readContext readerDirectory administratorRow.reference = .ok routeContext ∧
      loadAuthUser readerDirectory administratorRow.id = .ok exportContext ∧
      exportContext ≠ routeContext ∧
      assertCanListAllExpenses routeContext = .ok () ∧
      assertCanListAllExpenses exportContext =
        .error (.forbidden "You do not have permission to list all expenses") :=
  ⟨_, _, rfl, rfl, by decide, by decide, by decide⟩

end ExportGenerationService

end Expentra
