-- SUMMARY: Administration of the approval-level catalogue.
import Expentra.Database.Store

/-!
# The approval-level service
-/

namespace Expentra.ApprovalLevels

open Library

structure CreateApprovalLevelInput where
  approverType : ApprovalApproverType
  roleReference : Option String
  name : String
  level : Int
  minimumAmount : Option Int
  maximumAmount : Option Int
  isActive : Option Bool
  description : Option String
deriving DecidableEq, Repr

/-- Every field may be left out; an upper bound and a description may also be
    sent as `null`. -/
structure UpdateApprovalLevelInput where
  approverType : Option ApprovalApproverType
  roleReference : Option String
  name : Option String
  level : Option Int
  minimumAmount : Option Int
  maximumAmount : Property Int
  isActive : Option Bool
  description : Property String
deriving DecidableEq, Repr

def assertNonEmpty (value label : String) : Except HttpException Unit :=
  if value = "" then .error (.badRequest (label ++ " is required")) else .ok ()

/-- A department-manager level has no role, a finance level needs one. -/
def resolveRoleForApproverType (db : Db) (approverType : ApprovalApproverType)
    (roleReference : Option String) : Except HttpException (Option Role) :=
  match approverType with
  | .DEPARTMENT_MANAGER => .ok none
  | .FINANCE_MANAGER =>
    match roleReference.filter (· ≠ "") with
    | none =>
      .error (.badRequest "roleReference is required for finance manager approval levels")
    | some roleReference =>
      (findEntityByReference db.roles (·.reference) roleReference "Role not found").map some

def assertLevelAvailable (db : Db) (level : Int) (excludeId : Option Nat) :
    Except HttpException Unit :=
  match db.levels.rows.find? (fun l => l.level = level) with
  | none => .ok ()
  | some existing =>
    if some existing.id = excludeId then .ok ()
    else .error (.conflict
      ("An approval level with chain order " ++ toString level ++ " already exists"))

def resolveAmountRange (minimumAmount : Int) (maximumAmount : Option Int) :
    Except HttpException Unit :=
  if minimumAmount < 0 then .error (.badRequest "Minimum amount cannot be negative")
  else if maximumAmount.any (· < minimumAmount) then
    .error (.badRequest "Maximum amount must be greater than or equal to minimum amount")
  else .ok ()

/-- `create`; `reference` is the one `assignReference` draws. -/
def create (reference : String) (input : CreateApprovalLevelInput) : Tx Unit := do
  let name := Js.trim input.name
  Transaction.lift (assertNonEmpty name "Approval level name")
  let role ← Transaction.query (resolveRoleForApproverType · input.approverType input.roleReference)
  Transaction.query (assertLevelAvailable · input.level none)
  let minimumAmount := input.minimumAmount.getD 0
  Transaction.lift (resolveAmountRange minimumAmount input.maximumAmount)
  let id ← Transaction.read (·.nextLevelId)
  let levels ← Transaction.read (fun db => db.levels.insert?
    { id, reference, roleId := role.map (·.id), approverType := input.approverType, name,
      level := input.level, minimumAmount, maximumAmount := input.maximumAmount,
      isActive := input.isActive.getD true, description := input.description.map Js.trim })
  let levels ← Transaction.getOrThrow levels (.queryFailed "23505")
  Transaction.write (fun db => { db with levels := levels, nextLevelId := id + 1 })

def findOne (db : Db) (reference : String) : Except HttpException ApprovalLevel :=
  findEntityByReference db.levels.rows (·.reference) reference "Approval level not found"

/-- The reference of the role a level has now. -/
def roleReferenceOf (db : Db) (level : ApprovalLevel) : Option String :=
  (level.roleId.bind (fun id => db.roles.find? (fun role => role.id = id))).map (·.reference)

/-- The assignments of `update`, field by field as the service makes them. -/
def applyUpdate (db : Db) (input : UpdateApprovalLevelInput) (approvalLevel : ApprovalLevel) :
    Except HttpException ApprovalLevel := do
  let approverType := input.approverType.getD approvalLevel.approverType
  let roleId ←
    if input.roleReference.isSome || input.approverType.isSome then do
      let role ← resolveRoleForApproverType db approverType
        (input.roleReference.orElse (fun _ => roleReferenceOf db approvalLevel))
      pure (role.map (·.id))
    else pure approvalLevel.roleId
  let name := (input.name.map Js.trim).getD approvalLevel.name
  if input.name.isSome then assertNonEmpty name "Approval level name"
  let level := input.level.getD approvalLevel.level
  if level ≠ approvalLevel.level then assertLevelAvailable db level (some approvalLevel.id)
  let minimumAmount := input.minimumAmount.getD approvalLevel.minimumAmount
  let maximumAmount := input.maximumAmount.save approvalLevel.maximumAmount
  if input.minimumAmount.isSome || input.maximumAmount ≠ .undefined then
    resolveAmountRange minimumAmount maximumAmount
  pure { approvalLevel with
    approverType, roleId, name, level, minimumAmount, maximumAmount
    isActive := input.isActive.getD approvalLevel.isActive
    description := match input.description with
      | .undefined => approvalLevel.description
      | description => description.toOption.map Js.trim }

def update (reference : String) (input : UpdateApprovalLevelInput) : Tx Unit := do
  let approvalLevel ← Transaction.query (findOne · reference)
  let updated ← Transaction.query (applyUpdate · input approvalLevel)
  Transaction.write (fun db => { db with levels := db.levels.replace updated })

def remove (reference : String) : Tx Unit := do
  let approvalLevel ← Transaction.query (findOne · reference)
  let inUse ← Transaction.read (fun db =>
    db.approvals.rows.any (fun a => a.approvalLevelId = approvalLevel.id))
  Transaction.require (inUse = false)
    (.conflict "Cannot delete an approval level that has expense decisions recorded")
  Transaction.write (fun db => { db with levels := db.levels.keep (fun l => l.id ≠ approvalLevel.id) })

/-- An operation of this service changes the levels and their serial only. -/
def LevelsOnly (db db' : Db) : Prop :=
  ∃ levels nextLevelId, db' = { db with levels := levels, nextLevelId := nextLevelId }

section Specs

variable {db db' : Db} {reference : String} {u : Unit}

theorem create_ok {input : CreateApprovalLevelInput}
    (h : create reference input db = .ok (u, db')) : LevelsOnly db db' := by
  simp only [create, Transaction.lift_bind_eq_ok, Transaction.query_bind_eq_ok,
    Transaction.read_bind, Transaction.getOrThrow_bind_eq_ok, Transaction.write_eq_ok] at h
  obtain ⟨_, -, _, -, _, -, _, -, levels, -, rfl⟩ := h
  exact ⟨levels, _, rfl⟩

theorem update_ok {input : UpdateApprovalLevelInput}
    (h : update reference input db = .ok (u, db')) : LevelsOnly db db' := by
  simp only [update, Transaction.query_bind_eq_ok, Transaction.write_eq_ok] at h
  obtain ⟨_, -, updated, -, rfl⟩ := h
  exact ⟨_, db.nextLevelId, rfl⟩

theorem remove_ok (h : remove reference db = .ok (u, db')) : LevelsOnly db db' := by
  simp only [remove, Transaction.query_bind_eq_ok, Transaction.read_bind,
    Transaction.require_bind_eq_ok, Transaction.write_eq_ok] at h
  obtain ⟨_, -, -, rfl⟩ := h
  exact ⟨_, db.nextLevelId, rfl⟩

end Specs

end Expentra.ApprovalLevels
