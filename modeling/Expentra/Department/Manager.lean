-- SUMMARY: Department updates: the active flag and the reassignment of the manager.
import Expentra.Database.Store

/-!
# The department service
-/

namespace Expentra.DepartmentService

open Library

/-- `managerReference` is `undefined` when it is not sent, and `null` to clear the
    manager. -/
structure UpdateDepartmentInput where
  isActive : Option Bool
  managerReference : Property String
deriving DecidableEq, Repr

def findOne (db : Db) (reference : String) : Except HttpException Department :=
  findEntityByReference (db.departments.rows.filter (·.deletedAt.isNone)) (·.reference) reference
    "Department not found"

def assertManagerIsDepartmentMember (departmentId : Nat) (manager : User) :
    Except HttpException Unit :=
  if !manager.isActive then .error (.notFound "Manager not found")
  else if manager.departmentId ≠ some departmentId then
    .error (.badRequest "Manager must be an employee assigned to this department")
  else .ok ()

/-- The pending expenses of a department: charged to it, or owned by one of its
    members. -/
def countPendingApprovals (db : Db) (departmentId : Nat) : Nat :=
  (db.expenses.rows.filter (fun e => e.status.isPending &&
    (e.departmentId = some departmentId ||
      (db.users.find? e.userId).bind (·.departmentId) = some departmentId))).length

def assertManagerCanBeCleared (db : Db) (departmentId : Nat) : Except HttpException Unit :=
  if 0 < countPendingApprovals db departmentId then
    .error (.conflict ("Cannot remove the department manager while expenses are awaiting " ++
      "approval. Assign a replacement manager instead."))
  else .ok ()

/-- The manager a request asks for: nothing, nobody, or a member. -/
def resolveNextManager (db : Db) (department : Department) (managerReference : Property String) :
    Except HttpException (Property Nat) :=
  match managerReference with
  | .undefined => .ok .undefined
  | .null => .ok .null
  | .value managerReference => do
    let manager ← findEntityByReference db.users.rows (·.reference) managerReference
      "Manager not found"
    assertManagerIsDepartmentMember department.id manager
    pure (.value manager.id)

/-- The end of `update`: what it writes once the next manager is resolved. -/
def applyUpdate (department : Department) (nextManagerId : Property Nat)
    (input : UpdateDepartmentInput) : Tx Unit := do
  let isActive := input.isActive.getD department.isActive
  let nextManager := nextManagerId.save department.managerId
  if nextManager ≠ department.managerId then
    Transaction.query (fun db =>
      if nextManager = none then assertManagerCanBeCleared db department.id else .ok ())
    Transaction.write (fun db => { db with
      departments := db.departments.replace { department with isActive, managerId := nextManager } })
    publish .departmentManagerChanged none
  else
    Transaction.write (fun db => { db with
      departments := db.departments.replace { department with isActive } })

def update (reference : String) (input : UpdateDepartmentInput) : Tx Unit := do
  let department ← Transaction.query (findOne · reference)
  let nextManagerId ← Transaction.query (resolveNextManager · department input.managerReference)
  applyUpdate department nextManagerId input

theorem findOne_eq_ok {db : Db} {reference : String} {department : Department}
    (h : findOne db reference = .ok department) :
    department ∈ db.departments ∧ department.deletedAt = none := by
  obtain ⟨hmem, hlive⟩ := List.mem_filter.1 (findEntityByReference_eq_ok h).1
  exact ⟨hmem, Option.isNone_iff_eq_none.1 hlive⟩

/-- An update writes the active flag and the manager, and appends events without a key. -/
theorem applyUpdate_ok {db db' : Db} {department : Department} {nextManagerId : Property Nat}
    {input : UpdateDepartmentInput} {u : Unit}
    (h : applyUpdate department nextManagerId input db = .ok (u, db')) :
    ∃ events, db' = { db with
        departments := db.departments.replace { department with
          isActive := input.isActive.getD department.isActive
          managerId := nextManagerId.save department.managerId }
        outbox := db.outbox ++ events } ∧
      ∀ e ∈ events, e.idempotencyKey = none := by
  simp only [applyUpdate] at h
  split at h
  · obtain ⟨_, -, h⟩ := Transaction.query_bind_eq_ok.1 h
    rw [Transaction.write_bind] at h
    obtain ⟨-, rfl⟩ := publish_eq_ok.1 h
    exact ⟨[⟨.departmentManagerChanged, none⟩], rfl, by simp⟩
  · rename_i hsame
    rw [Transaction.write_eq_ok] at h
    subst h
    exact ⟨[], by simp [not_not.1 hsame], by simp⟩

theorem update_ok {db db' : Db} {reference : String} {input : UpdateDepartmentInput} {u : Unit}
    (h : update reference input db = .ok (u, db')) :
    ∃ department updated events, department ∈ db.departments ∧
      updated = { department with isActive := updated.isActive, managerId := updated.managerId } ∧
      db' = { db with
        departments := db.departments.replace updated
        outbox := db.outbox ++ events } ∧
      ∀ e ∈ events, e.idempotencyKey = none := by
  simp only [update, Transaction.query_bind_eq_ok] at h
  obtain ⟨department, hfind, nextManagerId, -, h⟩ := h
  obtain ⟨events, rfl, hevents⟩ := applyUpdate_ok h
  exact ⟨department, _, events, (findOne_eq_ok hfind).1, rfl, rfl, hevents⟩

end Expentra.DepartmentService
