-- SUMMARY: Departments whose pending expenses wait for their manager: which calls leave such a department without an active one.
import Expentra.Identity.Users
import Expentra.System.Effects

/-!
# Approvers of departments

An expense at the stage of the department manager can be decided as long as its
department is active, not deleted, and managed by an active user. Clearing the manager
is refused while expenses are pending. Nothing refuses to suspend the manager, to switch
the department off or to delete it, and the checks of a submission and of an approval do
not look at the account of the manager.
-/

namespace Expentra

open Library ApprovalRouting

namespace DepartmentService

structure CreateDepartmentInput where
  name : String
  isActive : Option Bool
  managerReference : Property String
deriving DecidableEq, Repr

/-- The id and the reference of the new row, and whether its code is taken: the rows here
    have no code. -/
structure NewDepartment where
  id : Nat
  reference : String
  codeTaken : Bool
deriving DecidableEq, Repr

/-- `DepartmentMutationService.create` -/
def create (drawn : NewDepartment) (input : CreateDepartmentInput) : Tx Unit := do
  Transaction.require (Js.trim input.name ≠ "") (.badRequest "Department name cannot be empty")
  Transaction.require (drawn.codeTaken = false) (.conflict "Department code already exists")
  Transaction.require (input.managerReference.toOption.any (· ≠ "") = false) (.badRequest
    "Assign a manager after the department is created and employees are added")
  let departments ← Transaction.read (fun db =>
    db.departments.insert? ⟨drawn.id, drawn.reference, none, input.isActive.getD true, none⟩)
  let departments ← Transaction.getOrThrow departments (.queryFailed "23505")
  Transaction.write (fun db => { db with departments := departments })

theorem create_ok {drawn : NewDepartment} {input : CreateDepartmentInput} {db db' : Db} {u : Unit}
    (h : create drawn input db = .ok (u, db')) :
    ∃ isActive departments,
      db.departments.insert? ⟨drawn.id, drawn.reference, none, isActive, none⟩ = some departments ∧
      db' = { db with departments := departments } := by
  simp only [create, Transaction.require_bind_eq_ok, Transaction.read_bind,
    Transaction.getOrThrow_bind_eq_ok, Transaction.write_eq_ok] at h
  obtain ⟨-, -, -, departments, hinsert, hdb'⟩ := h
  exact ⟨_, departments, hinsert, hdb'.symm⟩

end DepartmentService

/-! ## Expenses that wait for a manager -/

namespace Approvers

/-- The stage a pending expense is at. -/
def activeStage (db : Db) (row : Expense) : Option ApprovalLevel :=
  getActiveStage (db.withRelations row) db.activeLevels (db.approvalsOf row.id)

/-- The manager of a department, as signed in, may decide an expense at a stage. -/
structure CanAct (db : Db) (manager : User) (row : Expense) (stage : ApprovalLevel) : Prop where
  mayDecide : assertCanDecideOnExpense (toAuthUser manager (db.managedDepartmentIds manager.id))
    (db.withRelations row) = .ok ()
  mayActOnStage : ApprovalAccessPolicy.canActOnApprovalStage
    (toAuthUser manager (db.managedDepartmentIds manager.id)) (db.withRelations row) stage = true

/-- The department of an expense has somebody to decide it. -/
structure HasApprover (db : Db) (row : Expense) (stage : ApprovalLevel) (department : Department) :
    Prop where
  active : department.isActive = true
  live : department.deletedAt = none
  manager : ∃ manager ∈ db.users, department.managerId = some manager.id ∧ manager.isActive = true ∧
    (row.userId ≠ manager.id → CanAct db manager row stage)

/-- Every department with an expense at the stage of its manager has an approver. -/
def AwaitedHaveApprover (db : Db) : Prop :=
  ∀ row ∈ db.expenses, ∀ departmentId stage, row.departmentId = some departmentId →
    activeStage db row = some stage → stage.approverType = .DEPARTMENT_MANAGER →
    ∃ department, db.departments.find? departmentId = some department ∧
      HasApprover db row stage department

/-- The first undecided level of an expense, with a department joined to it. -/
def stageWith (db : Db) (department : Option Department) (row : Expense) : Option ApprovalLevel :=
  firstUndecided (db.approvalsOf row.id)
    (getRequiredLevels (row.toEntity department none) db.activeLevels)

/-- A stage is the one of the department manager. -/
def isManagerStage (stage : Option ApprovalLevel) : Bool :=
  stage.any (·.approverType = .DEPARTMENT_MANAGER)

/-- Some expense of a department waits for its manager; `department` is what is joined. -/
def isAwaited (db : Db) (departmentId : Nat) (department : Option Department) : Bool :=
  db.expenses.rows.any (fun row => row.departmentId = some departmentId && row.status.isPending &&
    isManagerStage (stageWith db department row))

def hasActiveManager (db : Db) (department : Department) : Bool :=
  (department.managerId.bind db.users.find?).any (·.isActive)

/-- A joined department is active and its manager is an active user. -/
def isStaffed (db : Db) (department : Option Department) : Bool :=
  department.any (fun department =>
    department.isActive && department.deletedAt.isNone && hasActiveManager db department)

/-! ## The calls -/

/-- A call of the three services that runs to its end. -/
inductive Call where
  | createDepartment (drawn : DepartmentService.NewDepartment)
      (input : DepartmentService.CreateDepartmentInput)
  | updateDepartment (reference : String) (input : DepartmentService.UpdateDepartmentInput)
  | removeDepartment (now : Instant) (reference : String)
  | adminUpdate (now : Instant) (actor : AuthUser) (targetUserId : Nat) (input : AdminUpdateUserInput)
  | suspendUser (now : Instant) (actorId targetUserId : Nat)
  | activateUser (actorId targetUserId : Nat)
  | submit (policies : List ExpensePolicy) (now : Instant) (authUser : AuthUser)
      (reference : String) (policyJustifications : List (String × String))
  | approve (now : Instant) (authUser : AuthUser) (expenseId : Nat)
      (input : Approval.ApproveExpenseInput)
  | reject (now : Instant) (authUser : AuthUser) (expenseId : Nat) (commentReference comment : String)

def Call.perform (cfg : Config) : Call → AuthTx Unit
  | .createDepartment drawn input => AuthTx.ofDb (DepartmentService.create drawn input)
  | .updateDepartment reference input => DepartmentService.updateDepartment reference input
  | .removeDepartment now reference => AuthTx.ofDb (DepartmentService.remove now reference)
  | .adminUpdate now actor targetUserId input =>
    UserService.adminUpdate cfg now actor targetUserId input
  | .suspendUser now actorId targetUserId => UserService.suspendUser now actorId targetUserId
  | .activateUser actorId targetUserId => UserService.activateUser actorId targetUserId
  | .submit policies now authUser reference policyJustifications =>
    AuthTx.ofDb (ExpenseSubmit.submit cfg policies now authUser reference policyJustifications)
  | .approve now authUser expenseId input =>
    AuthTx.ofDb (Approval.approve cfg now authUser expenseId input)
  | .reject now authUser expenseId commentReference comment =>
    AuthTx.ofDb (Approval.reject cfg now authUser expenseId commentReference comment)

/-- One committed call after the other. -/
def Step (cfg : Config) (s : AuthState) (call : Call) (s' : AuthState) : Prop :=
  s' = (call.perform cfg).commit s

/-- No department the user manages is waited for. -/
def ManagesNoneAwaited (db : Db) (userId : Nat) : Prop :=
  ∀ department ∈ db.departments.rows, department.deletedAt = none →
    department.managerId = some userId → isAwaited db department.id (some department) = false

/-- What the services do not check: the manager who is deactivated, the department that is
    switched off or deleted, is not waited for; an expense that comes to the stage of the
    manager finds an active one. -/
def Call.SparesApprovers (db : Db) : Call → Prop
  | .updateDepartment reference input =>
    ∀ department ∈ (DepartmentService.findOne db reference).toOption,
      ∀ nextManagerId ∈
        (DepartmentService.resolveNextManager db department input.managerReference).toOption,
      input.isActive.getD department.isActive = false →
      isAwaited db department.id
        (some { department with managerId := nextManagerId.save department.managerId }) = false
  | .removeDepartment _ reference =>
    ∀ department ∈ (DepartmentService.findOne db reference).toOption,
      isAwaited db department.id none = false
  | .adminUpdate _ _ targetUserId input =>
    input.isActive = some false → ManagesNoneAwaited db targetUserId
  | .suspendUser _ _ targetUserId => ManagesNoneAwaited db targetUserId
  | .submit _ _ _ reference _ =>
    ∀ row ∈ (ExpenseMutationSupport.findExpense db reference).toOption,
      ∀ departmentId ∈ db.resolveDepartmentForSubmit row.userId row.departmentId,
      ∀ department ∈ db.departmentRelation (some departmentId),
      isManagerStage (stageWith db (some department) row) = true → hasActiveManager db department = true
  | .approve _ _ expenseId _ =>
    ∀ row ∈ db.expenses.find? expenseId, ∀ stage ∈ activeStage db row,
      ∀ departmentId ∈ row.departmentId,
      isManagerStage (firstUndecided (db.approvalsOf row.id)
        ((getRequiredLevels (db.withRelations row) db.activeLevels).filter (·.id ≠ stage.id))) = true →
      isStaffed db (db.departmentRelation (some departmentId)) = true
  | _ => True

instance (db : Db) (userId : Nat) : Decidable (ManagesNoneAwaited db userId) :=
  inferInstanceAs (Decidable (∀ _ ∈ _, _ → _ → _ = false))

instance (db : Db) (call : Call) : Decidable (call.SparesApprovers db) := by
  cases call <;> unfold Call.SparesApprovers <;> infer_instance

/-- A call that is refused, or spares the approvers. -/
def KeepsApprovers (cfg : Config) (s : AuthState) (call : Call) : Prop :=
  (call.perform cfg s).isOk = true → call.SparesApprovers s.directory.db

instance (cfg : Config) (s : AuthState) (call : Call) : Decidable (KeepsApprovers cfg s call) :=
  inferInstanceAs (Decidable (_ → _))

/-! ## What waiting depends on -/

section Waiting

variable {db db' : Db} {department department' : Option Department} {row row' : Expense}
  {departmentId : Nat}

theorem stageWith_congr (hlevels : db'.levels = db.levels)
    (happrovals : db'.approvalsOf row'.id = db.approvalsOf row.id)
    (hmanager : department'.bind (·.managerId) = department.bind (·.managerId))
    (howner : row'.userId = row.userId) (hamount : row'.amount = row.amount) :
    stageWith db' department' row' = stageWith db department row := by
  have hskip : shouldSkipDepartmentManagerStage (row'.toEntity department' none) =
      shouldSkipDepartmentManagerStage (row.toEntity department none) := by
    simp only [shouldSkipDepartmentManagerStage, Expense.toEntity, hmanager, howner]
    rfl
  have hactive : db'.activeLevels = db.activeLevels := by rw [Db.activeLevels, hlevels, Db.activeLevels]
  rw [stageWith, happrovals, getRequiredLevels_congr hamount hskip, hactive, stageWith]

theorem getRequiredLevels_withRelations :
    getRequiredLevels (db.withRelations row) db.activeLevels =
      getRequiredLevels (row.toEntity (db.departmentRelation row.departmentId) none) db.activeLevels :=
  getRequiredLevels_congr rfl rfl

/-- The active stage of an expense is the one under the department it is charged to. -/
theorem activeStage_eq_some {stage : ApprovalLevel} (hcharged : row.departmentId = some departmentId) :
    activeStage db row = some stage ↔ row.status.isPending = true ∧
      stageWith db (db.departmentRelation (some departmentId)) row = some stage := by
  rw [activeStage, getActiveStage_eq_some, getRequiredLevels_withRelations, hcharged]
  rfl

theorem isAwaited_eq_true :
    isAwaited db departmentId department = true ↔ ∃ row ∈ db.expenses,
      row.departmentId = some departmentId ∧ row.status.isPending = true ∧
      isManagerStage (stageWith db department row) = true := by
  simp only [isAwaited, List.any_eq_true, Bool.and_eq_true, decide_eq_true_eq, and_assoc]
  exact Iff.rfl

theorem isManagerStage_eq_true {stage : Option ApprovalLevel} :
    isManagerStage stage = true ↔ ∃ level, stage = some level ∧
      level.approverType = .DEPARTMENT_MANAGER := by
  simp [isManagerStage, Option.any_eq_true]

theorem hasActiveManager_eq_true {department : Department} :
    hasActiveManager db department = true ↔ ∃ manager ∈ db.users,
      department.managerId = some manager.id ∧ manager.isActive = true := by
  simp only [hasActiveManager, Option.any_eq_true, Option.bind_eq_some_iff]
  constructor
  · rintro ⟨manager, ⟨id, hid, hfind⟩, hactive⟩
    exact ⟨manager, Table.mem_of_find? hfind, by rw [hid, Table.key_of_find? hfind], hactive⟩
  · rintro ⟨manager, hmem, hid, hactive⟩
    exact ⟨manager, ⟨manager.id, hid, Table.find?_of_mem hmem⟩, hactive⟩

theorem departmentRelation_eq_some {department : Department} :
    db.departmentRelation (some departmentId) = some department ↔
      db.departments.find? departmentId = some department ∧ department.deletedAt = none := by
  rw [Db.departmentRelation, Option.bind_some, Option.filter_eq_some_iff, Option.isNone_iff_eq_none]

theorem isStaffed_eq_true :
    isStaffed db department = true ↔ ∃ found, department = some found ∧ found.isActive = true ∧
      found.deletedAt = none ∧ hasActiveManager db found = true := by
  simp only [isStaffed, Option.any_eq_true, Bool.and_eq_true, Option.isNone_iff_eq_none, and_assoc]

/-- An active manager of a live department may act at the stage of the manager. -/
theorem canAct_of_manages {department : Department} {manager : User} {stage : ApprovalLevel}
    (hfind : db.departments.find? departmentId = some department) (hactive : department.isActive = true)
    (hlive : department.deletedAt = none) (hmanages : department.managerId = some manager.id)
    (hcharged : row.departmentId = some departmentId)
    (hstage : stage.approverType = .DEPARTMENT_MANAGER) (howner : row.userId ≠ manager.id) :
    CanAct db manager row stage := by
  have hmanaged : departmentId ∈ db.managedDepartmentIds manager.id := by
    rw [← Table.key_of_find? hfind]
    refine List.mem_map_of_mem (List.mem_filter.2 ⟨Table.mem_of_find? hfind, ?_⟩)
    simp [hactive, hlive, hmanages]
  have hresolved : ApprovalAccessPolicy.resolveExpenseDepartmentId (db.withRelations row) =
      some departmentId := by
    simp [ApprovalAccessPolicy.resolveExpenseDepartmentId, Db.withRelations, Expense.toEntity, hcharged]
  have hdepartment : ApprovalAccessPolicy.isDepartmentManagerForExpense
      (toAuthUser manager (db.managedDepartmentIds manager.id)) (db.withRelations row) = true := by
    rw [ApprovalAccessPolicy.isDepartmentManagerForExpense, hresolved]
    exact List.contains_iff_mem.2 hmanaged
  have happrover : ApprovalAccessPolicy.isManagerApprover
      (toAuthUser manager (db.managedDepartmentIds manager.id)) = true :=
    decide_eq_true (List.length_pos_of_mem hmanaged)
  have hdecide : ApprovalAccessPolicy.canDecideOnExpense
      (toAuthUser manager (db.managedDepartmentIds manager.id)) (db.withRelations row) = true := by
    simp [ApprovalAccessPolicy.canDecideOnExpense, happrover, hdepartment]
  exact ⟨assertCanDecideOnExpense_eq_ok.2 ⟨howner, hdecide⟩, by
    simp [ApprovalAccessPolicy.canActOnApprovalStage, hdecide, hstage, hdepartment]⟩

/-- Whoever is waited for is there. -/
def Covered (db : Db) : Prop :=
  ∀ departmentId, isAwaited db departmentId (db.departmentRelation (some departmentId)) = true →
    isStaffed db (db.departmentRelation (some departmentId)) = true

theorem awaitedHaveApprover_iff : AwaitedHaveApprover db ↔ Covered db := by
  constructor
  · intro h departmentId hawaited
    obtain ⟨row, hrow, hcharged, hpending, hstage⟩ := isAwaited_eq_true.1 hawaited
    obtain ⟨stage, hstage, htype⟩ := isManagerStage_eq_true.1 hstage
    obtain ⟨department, hfind, happrover⟩ := h row hrow departmentId stage hcharged
      ((activeStage_eq_some hcharged).2 ⟨hpending, hstage⟩) htype
    obtain ⟨manager, hmem, hmanages, hactive, -⟩ := happrover.manager
    exact isStaffed_eq_true.2 ⟨department, departmentRelation_eq_some.2 ⟨hfind, happrover.live⟩,
      happrover.active, happrover.live, hasActiveManager_eq_true.2 ⟨manager, hmem, hmanages, hactive⟩⟩
  · intro h row hrow departmentId stage hcharged hactive htype
    obtain ⟨hpending, hstage⟩ := (activeStage_eq_some hcharged).1 hactive
    obtain ⟨department, hrelation, hactive, hlive, hmanager⟩ := isStaffed_eq_true.1
      (h departmentId (isAwaited_eq_true.2 ⟨row, hrow, hcharged, hpending,
        isManagerStage_eq_true.2 ⟨stage, hstage, htype⟩⟩))
    obtain ⟨manager, hmem, hmanages, hmanagerActive⟩ := hasActiveManager_eq_true.1 hmanager
    have hfind := (departmentRelation_eq_some.1 hrelation).1
    exact ⟨department, hfind, hactive, hlive, manager, hmem, hmanages, hmanagerActive,
      canAct_of_manages hfind hactive hlive hmanages hcharged htype⟩

end Waiting

/-! ## Changes of departments and of users -/

/-- The expenses, the decisions on them and the catalogue are as before. -/
structure SameWork (db db' : Db) : Prop where
  expenses : db'.expenses = db.expenses
  levels : db'.levels = db.levels
  approvals : db'.approvals = db.approvals

section Changes

variable {db db' : Db} {department department' : Option Department} {departmentId : Nat}

theorem SameWork.isAwaited_eq (h : SameWork db db')
    (hmanager : department'.bind (·.managerId) = department.bind (·.managerId)) :
    isAwaited db' departmentId department' = isAwaited db departmentId department := by
  have hstage : stageWith db' department' = stageWith db department := by
    funext row
    refine stageWith_congr h.levels ?_ hmanager rfl rfl
    rw [Db.approvalsOf, h.approvals, Db.approvalsOf]
  rw [isAwaited, h.expenses, hstage, isAwaited]

/-- A change of users, after which those who are waited for are still active. -/
theorem Covered.of_users (h : Covered db) (hwork : SameWork db db')
    (hdepartments : db'.departments = db.departments)
    (hmanager : ∀ department ∈ db.departments, department.deletedAt = none →
      isAwaited db department.id (some department) = true → hasActiveManager db department = true →
      hasActiveManager db' department = true) : Covered db' := by
  intro departmentId hawaited
  have hrelation : db'.departmentRelation (some departmentId) =
      db.departmentRelation (some departmentId) := by
    rw [Db.departmentRelation, hdepartments, Db.departmentRelation]
  rw [hrelation] at hawaited ⊢
  rw [hwork.isAwaited_eq rfl] at hawaited
  obtain ⟨found, hfound, hactive, hlive, hstaffed⟩ := isStaffed_eq_true.1 (h departmentId hawaited)
  obtain ⟨hfind, -⟩ := departmentRelation_eq_some.1 hfound
  refine isStaffed_eq_true.2 ⟨found, hfound, hactive, hlive,
    hmanager found (Table.mem_of_find? hfind) hlive ?_ hstaffed⟩
  rw [Table.key_of_find? hfind, ← hfound]
  exact hawaited

/-- A change outside of expenses, departments and users. -/
theorem Covered.congr (h : Covered db) (hwork : SameWork db db')
    (hdepartments : db'.departments = db.departments) (husers : db'.users = db.users) : Covered db' :=
  h.of_users hwork hdepartments (fun department _ _ _ hactive => by
    rwa [hasActiveManager, husers])

/-- A change of one department that has an approver afterwards, if it needs one. -/
theorem Covered.of_replace {old new : Department} (h : Covered db) (hwork : SameWork db db')
    (husers : db'.users = db.users) (hold : old ∈ db.departments)
    (hdepartments : db'.departments = db.departments.replace new) (hnewId : new.id = old.id)
    (hnew : isAwaited db new.id ((some new).filter (·.deletedAt.isNone)) = true →
      isStaffed db ((some new).filter (·.deletedAt.isNone)) = true) : Covered db' := by
  have hfind : db.departments.find? new.id = some old := by
    rw [hnewId]
    exact Table.find?_of_mem hold
  have hstaffed : ∀ department, isStaffed db' department = isStaffed db department := fun department => by
    simp only [isStaffed, hasActiveManager, husers]
  intro departmentId hawaited
  rw [hwork.isAwaited_eq rfl] at hawaited
  rw [hstaffed]
  by_cases hid : departmentId = new.id
  · subst hid
    have hrelation : db'.departmentRelation (some new.id) = (some new).filter (·.deletedAt.isNone) := by
      rw [Db.departmentRelation, Option.bind_some, hdepartments, Table.find?_replace_self hfind]
    rw [hrelation] at hawaited ⊢
    exact hnew hawaited
  · have hrelation : db'.departmentRelation (some departmentId) =
        db.departmentRelation (some departmentId) := by
      rw [Db.departmentRelation, Option.bind_some, hdepartments, Table.find?_replace_ne hid,
        Db.departmentRelation, Option.bind_some]
    rw [hrelation] at hawaited ⊢
    exact h departmentId hawaited

/-- Nobody waits for the manager of a department without pending expenses. -/
theorem isAwaited_of_cleared (h : DepartmentService.assertManagerCanBeCleared db departmentId = .ok ()) :
    isAwaited db departmentId department = false := by
  have hnone : DepartmentService.countPendingApprovals db departmentId = 0 := by
    unfold DepartmentService.assertManagerCanBeCleared at h
    split at h
    · cases h
    · rename_i hcount
      exact Nat.eq_zero_of_not_pos hcount
  rw [Bool.eq_false_iff]
  intro hawaited
  obtain ⟨row, hrow, hcharged, hpending, -⟩ := isAwaited_eq_true.1 hawaited
  rw [DepartmentService.countPendingApprovals, List.length_eq_zero_iff, List.filter_eq_nil_iff] at hnone
  exact hnone row hrow (by simp [hpending, hcharged])

/-- A new department has no manager, and changes no stage. -/
theorem create_covered {drawn : DepartmentService.NewDepartment}
    {input : DepartmentService.CreateDepartmentInput} {u : Unit} (hdb : Covered db)
    (h : DepartmentService.create drawn input db = .ok (u, db')) : Covered db' := by
  obtain ⟨isActive, departments, hinsert, rfl⟩ := DepartmentService.create_ok h
  have hwork : SameWork db { db with departments := departments } := ⟨rfl, rfl, rfl⟩
  intro departmentId hawaited
  by_cases hid : departmentId = drawn.id
  · -- the id was nobody's, so that the expenses charged to it joined no department
    subst hid
    have hnone : db.departments.find? drawn.id = none :=
      Table.find?_eq_none.2 (Table.insert?_eq_some.1 hinsert).1
    have hmanager : (Db.departmentRelation { db with departments := departments } (some drawn.id)).bind
        (·.managerId) = (db.departmentRelation (some drawn.id)).bind (·.managerId) := by
      rw [Db.departmentRelation, Option.bind_some, Table.find?_insert_self hinsert, Db.departmentRelation,
        Option.bind_some, hnone]
      rfl
    rw [hwork.isAwaited_eq hmanager] at hawaited
    have hstaffed := hdb drawn.id hawaited
    rw [Db.departmentRelation, Option.bind_some, hnone] at hstaffed
    cases hstaffed
  · have hrelation : Db.departmentRelation { db with departments := departments } (some departmentId) =
        db.departmentRelation (some departmentId) := by
      rw [Db.departmentRelation, Option.bind_some, Table.find?_insert_ne hinsert hid,
        Db.departmentRelation, Option.bind_some]
    rw [hrelation] at hawaited ⊢
    rw [hwork.isAwaited_eq rfl] at hawaited
    exact hdb departmentId hawaited

end Changes

/-! ## The department service -/

section Departments

variable {s s' : AuthState} {u : Unit} {reference : String}

theorem mem_toOption {α : Type} {x : Except HttpException α} {a : α} (h : x = .ok a) :
    a ∈ x.toOption := by
  subst h
  rfl

/-- A call on the tables outside the directory, seen from the directory. -/
theorem covered_ofDb {x : Tx Unit} (h : AuthTx.ofDb x s = .ok (u, s'))
    (hcovered : ∀ db', x s.directory.db = .ok (u, db') →
      db'.users = s.directory.db.users ∧ Covered db') : Covered s'.directory.db := by
  obtain ⟨db', hx, rfl⟩ := AuthTx.ofDb_eq_ok.1 h
  obtain ⟨husers, hdb'⟩ := hcovered db' hx
  exact hdb'.congr ⟨rfl, rfl, rfl⟩ rfl husers.symm

/-- The manager an update writes is the old one, nobody who is waited for, or active. -/
theorem nextManager_cases {db db' : Db} {department : Department} {nextManagerId : Property Nat}
    {input : DepartmentService.UpdateDepartmentInput}
    (hresolve : DepartmentService.resolveNextManager db department input.managerReference =
      .ok nextManagerId)
    (happly : DepartmentService.applyUpdate department nextManagerId input db = .ok (u, db')) :
    nextManagerId.save department.managerId = department.managerId ∨
      DepartmentService.assertManagerCanBeCleared db department.id = .ok () ∨
      ∃ manager ∈ db.users, nextManagerId.save department.managerId = some manager.id ∧
        manager.isActive = true := by
  by_cases hsame : nextManagerId.save department.managerId = department.managerId
  · exact .inl hsame
  refine .inr ?_
  cases hreference : input.managerReference with
  | undefined =>
    rw [hreference] at hresolve
    cases hresolve
    exact absurd rfl hsame
  | null =>
    rw [hreference] at hresolve
    cases hresolve
    refine .inl ?_
    simp only [DepartmentService.applyUpdate, if_pos hsame] at happly
    obtain ⟨_, hcleared, -⟩ := Transaction.query_bind_eq_ok.1 happly
    exact hcleared
  | value managerReference =>
    rw [hreference] at hresolve
    obtain ⟨manager, hfind, hresolve⟩ := Except.bind_eq_ok.1 hresolve
    obtain ⟨_, hmember, hresolve⟩ := Except.bind_eq_ok.1 hresolve
    cases hresolve
    refine .inr ⟨manager, (findEntityByReference_eq_ok hfind).1, rfl, ?_⟩
    unfold DepartmentService.assertManagerIsDepartmentMember at hmember
    split at hmember
    · cases hmember
    · rename_i hactive
      simpa using hactive

theorem applyUpdate_covered {db db' : Db} {department : Department} {nextManagerId : Property Nat}
    {input : DepartmentService.UpdateDepartmentInput} (hdb : Covered db)
    (hfind : DepartmentService.findOne db reference = .ok department)
    (hresolve : DepartmentService.resolveNextManager db department input.managerReference =
      .ok nextManagerId)
    (hspares : Call.SparesApprovers db (.updateDepartment reference input))
    (happly : DepartmentService.applyUpdate department nextManagerId input db = .ok (u, db')) :
    Covered db' := by
  obtain ⟨hmem, hlive⟩ := DepartmentService.findOne_eq_ok hfind
  have hcases := nextManager_cases hresolve happly
  obtain ⟨events, rfl, -⟩ := DepartmentService.applyUpdate_ok happly
  refine hdb.of_replace ⟨rfl, rfl, rfl⟩ rfl hmem rfl rfl ?_
  rw [Option.filter_some, if_pos (by simp [hlive])]
  intro hnew
  -- the active flag is not what an expense waits for
  have hsame : SameWork db db := ⟨rfl, rfl, rfl⟩
  have hawaited : isAwaited db department.id
      (some { department with managerId := nextManagerId.save department.managerId }) = true :=
    (hsame.isAwaited_eq rfl).trans hnew
  cases hactive : input.isActive.getD department.isActive with
  | false =>
    have hidle := hspares department (mem_toOption hfind) nextManagerId (mem_toOption hresolve) hactive
    rw [hidle] at hawaited
    cases hawaited
  | true =>
    refine isStaffed_eq_true.2 ⟨_, rfl, rfl, hlive, ?_⟩
    rcases hcases with hsame | hcleared | ⟨manager, hmanager, hnext, hmanagerActive⟩
    · -- the same manager is waited for as before
      have hrelation : db.departmentRelation (some department.id) = some department :=
        departmentRelation_eq_some.2 ⟨Table.find?_of_mem hmem, hlive⟩
      have hbefore : isAwaited db department.id (db.departmentRelation (some department.id)) = true := by
        rw [hrelation]
        rwa [hsame] at hawaited
      obtain ⟨found, hfound, -, -, hstaffed⟩ := isStaffed_eq_true.1 (hdb department.id hbefore)
      cases hrelation.symm.trans hfound
      rw [hasActiveManager, hsame]
      exact hstaffed
    · rw [isAwaited_of_cleared hcleared] at hawaited
      cases hawaited
    · exact hasActiveManager_eq_true.2 ⟨manager, hmanager, hnext, hmanagerActive⟩

theorem updateDepartment_covered {input : DepartmentService.UpdateDepartmentInput}
    (hs : Covered s.directory.db)
    (hspares : Call.SparesApprovers s.directory.db (.updateDepartment reference input))
    (h : DepartmentService.updateDepartment reference input s = .ok (u, s')) :
    Covered s'.directory.db := by
  obtain ⟨department, nextManagerId, s₁, hfind, hresolve, happly, hdirectory, -⟩ :=
    DepartmentService.updateDepartment_ok h
  rw [hdirectory]
  refine covered_ofDb happly (fun db' hx => ?_)
  have hcovered := applyUpdate_covered hs hfind hresolve hspares hx
  obtain ⟨_, rfl, -⟩ := DepartmentService.applyUpdate_ok hx
  exact ⟨rfl, hcovered⟩

theorem removeDepartment_covered {now : Instant} (hs : Covered s.directory.db)
    (hspares : Call.SparesApprovers s.directory.db (.removeDepartment now reference))
    (h : AuthTx.ofDb (DepartmentService.remove now reference) s = .ok (u, s')) :
    Covered s'.directory.db := by
  refine covered_ofDb h (fun db' hx => ?_)
  obtain ⟨department, hfind, -, rfl⟩ := DepartmentService.remove_eq_ok.1 hx
  refine ⟨rfl, hs.of_replace ⟨rfl, rfl, rfl⟩ rfl (DepartmentService.findOne_eq_ok hfind).1 rfl rfl
    (fun hawaited => ?_)⟩
  have hidle := hspares department (mem_toOption hfind)
  rw [Option.filter_some, if_neg (by simp)] at hawaited
  rw [hidle] at hawaited
  cases hawaited

end Departments

/-! ## The user service -/

section Users

variable {s s' : AuthState} {u : Unit} {row row' : UserRow}

theorem find?_users {d : Directory} {id : Nat} :
    d.db.users.find? id = (d.users.find? id).map d.loadUser := by
  simp only [Directory.db, Table.find?, Table.map, List.find?_map]
  rfl

/-- A saved user who is still active, or manages no department that is waited for. -/
theorem covered_setUser (hs : Covered s.directory.db) (hrow : s.directory.users.find? row.id = some row)
    (hid : row'.id = row.id)
    (hactive : (row.isActive = true → row'.isActive = true) ∨
      ManagesNoneAwaited s.directory.db row.id) :
    Covered (s.setUser row').directory.db := by
  refine hs.of_users ⟨rfl, rfl, rfl⟩ rfl (fun department hmem hlive hawaited hmanager => ?_)
  obtain ⟨manager, hmanages, hmanagerActive⟩ := (Option.any_eq_true _ _).1 hmanager
  obtain ⟨id, hmanagerId, hfind⟩ := Option.bind_eq_some_iff.1 hmanages
  rw [find?_users] at hfind
  obtain ⟨managerRow, hfindRow, rfl⟩ := Option.map_eq_some_iff.1 hfind
  rw [hasActiveManager, hmanagerId, Option.bind_some, find?_users, AuthState.setUser]
  by_cases hself : id = row'.id
  · rw [hself, hid] at hfindRow
    cases hrow.symm.trans hfindRow
    rw [hself, Table.find?_replace_self (by rw [hid]; exact hrow)]
    rcases hactive with hkept | hnone
    · exact hkept hmanagerActive
    · have hidle := hnone department hmem hlive (by rw [hmanagerId, hself, hid])
      rw [hawaited] at hidle
      cases hidle
  · rw [Table.find?_replace_ne hself, hfindRow]
    exact hmanagerActive

theorem suspendUser_covered {now : Instant} {actorId targetUserId : Nat} (hs : Covered s.directory.db)
    (hspares : Call.SparesApprovers s.directory.db (.suspendUser now actorId targetUserId))
    (h : UserService.suspendUser now actorId targetUserId s = .ok (u, s')) : Covered s'.directory.db := by
  obtain ⟨-, row, hrow, -, hstate⟩ := UserService.suspendUser_ok h
  obtain rfl := Table.key_of_find? hrow
  rw [hstate]
  exact covered_setUser hs hrow rfl (.inr hspares)

theorem activateUser_covered {actorId targetUserId : Nat} (hs : Covered s.directory.db)
    (h : UserService.activateUser actorId targetUserId s = .ok (u, s')) : Covered s'.directory.db := by
  obtain ⟨-, row, hrow, hstate⟩ := UserService.activateUser_ok h
  obtain rfl := Table.key_of_find? hrow
  rw [hstate]
  exact covered_setUser hs hrow rfl (.inl (fun _ => rfl))

/-- A release clears the manager of the department, or changes nothing. -/
theorem release_cases {departmentId userId : Nat} {inTransaction : Bool}
    (h : DepartmentService.releaseManagerIfUserLeftDepartment departmentId userId inTransaction s =
      .ok (u, s')) :
    (DepartmentService.managedBy s.directory.db departmentId userId = none ∧ s' = s) ∨ ∃ department,
      DepartmentService.managedBy s.directory.db departmentId userId = some department ∧
      SameWork s.directory.db s'.directory.db ∧ s'.directory.db.users = s.directory.db.users ∧
      s'.directory.db.departments =
        s.directory.db.departments.replace { department with managerId := none } := by
  rcases DepartmentService.releaseManagerIfUserLeftDepartment_cases h with
    ⟨hmanaged, rfl⟩ | ⟨department, s₁, hmanaged, hwrite, hinvalidate⟩
  · exact .inl ⟨hmanaged, rfl⟩
  · obtain ⟨db', hx, rfl⟩ := AuthTx.ofDb_eq_ok.1 hwrite
    cases Transaction.write_eq_ok.1 hx
    rw [(DepartmentService.invalidateAuthContextForManagerIds_ok hinvalidate).1]
    exact .inr ⟨department, hmanaged, ⟨rfl, rfl, rfl⟩, rfl, rfl⟩

/-- The move of a user releases a department that nobody waits for. -/
theorem applyWithinTransaction_covered {cfg : Config} {userId : Nat}
    {previousDepartmentId departmentId : Option Nat} (hs : Covered s.directory.db)
    (hcleared : ∀ previous left, previousDepartmentId = some previous → previous ≠ 0 →
      departmentId ≠ some previous →
      (DepartmentService.managedBy s.directory.db previous userId).isSome = true →
      isAwaited s.directory.db previous left = false)
    (h : DepartmentService.applyWithinTransaction cfg userId previousDepartmentId departmentId s =
      .ok (u, s')) : Covered s'.directory.db := by
  obtain ⟨_, s₁, hsync, hrelease⟩ := Transaction.bind_eq_ok.1 h
  obtain ⟨db', hx, rfl⟩ := AuthTx.ofDb_eq_ok.1 hsync
  obtain ⟨budgets, rfl⟩ := BudgetService.syncCommittedAmountForUserDepartmentChange_ok hx
  have hs₁ : Covered ({ s with directory := { s.directory with
      store := { s.directory.db with budgets := budgets } } } : AuthState).directory.db :=
    hs.congr ⟨rfl, rfl, rfl⟩ rfl rfl
  cases hprevious : previousDepartmentId.filter (· ≠ 0) with
  | none =>
    rw [hprevious] at hrelease
    obtain ⟨-, rfl⟩ := Transaction.pure_eq_ok.1 hrelease
    exact hs₁
  | some previous =>
    rw [hprevious] at hrelease
    obtain ⟨hsome, hne⟩ := Option.filter_eq_some_iff.1 hprevious
    dsimp only at hrelease
    split at hrelease
    · rename_i hmoved
      rcases release_cases hrelease with
        ⟨-, rfl⟩ | ⟨department, hmanaged, hwork, husers, hdepartments⟩
      · exact hs₁
      · have hmanages : DepartmentService.managedBy s.directory.db previous userId = some department :=
          hmanaged
        have hid : department.id = previous :=
          Table.key_of_find? (Option.filter_eq_some_iff.1 (Option.filter_eq_some_iff.1 hmanages).1).1
        subst hid
        have hidle := fun left => hcleared department.id left hsome (of_decide_eq_true hne)
          (fun heq => hmoved (hsome.trans heq.symm)) (Option.isSome_of_eq_some hmanages)
        refine hs₁.of_replace hwork husers (DepartmentService.managedBy_eq_some hmanages).1 hdepartments
          rfl (fun hawaited => ?_)
        have hsync : SameWork s.directory.db ({ s with directory := { s.directory with
            store := { s.directory.db with budgets := budgets } } } : AuthState).directory.db :=
          ⟨rfl, rfl, rfl⟩
        rw [hsync.isAwaited_eq rfl, hidle] at hawaited
        cases hawaited
    · obtain ⟨-, rfl⟩ := Transaction.pure_eq_ok.1 hrelease
      exact hs₁

/-- Nobody waits for a manager whom `adminUpdate` lets leave the department. -/
theorem idle_of_assertCanLeave {d : Directory} {input : AdminUpdateUserInput} {edited : UserEntity}
    {previous : Nat} {department : Option Department}
    (h : UserService.assertCanLeave d input row.toEntity edited = .ok u)
    (hinput : input.departmentReference ≠ .undefined) (hprevious : row.departmentId = some previous)
    (hne : previous ≠ 0) (hleft : edited.departmentId.toOption ≠ some previous)
    (hmanages : (DepartmentService.managedBy d.db previous row.id).isSome = true) :
    isAwaited d.db previous department = false := by
  have hfilter : row.toEntity.departmentId.toOption.filter (· ≠ 0) = some previous := by
    simp [UserRow.toEntity, hprevious, hne]
  have hedited : edited.departmentId ≠ .value previous := fun heq => hleft (by rw [heq]; rfl)
  rw [UserService.assertCanLeave, hfilter] at h
  dsimp only at h
  rw [if_pos ⟨hinput, hedited⟩, DepartmentService.assertManagerCanLeaveDepartment,
    if_neg (by simpa [UserRow.toEntity, Option.isSome_iff_ne_none] using hmanages)] at h
  exact isAwaited_of_cleared h

/-- The active flag after the assignments of `adminUpdate`, and its check on leaving. -/
theorem adminEdit_active {d : Directory} {now : Instant} {actor : AuthUser}
    {input : AdminUpdateUserInput} {user edited : UserEntity} {changed : Bool}
    (h : UserService.adminEdit d now actor input user = .ok (edited, changed)) :
    edited.isActive = input.isActive.getD user.isActive ∧
      UserService.assertCanLeave d input user edited = .ok () := by
  obtain ⟨withRole, hrole, h⟩ := Except.bind_eq_ok.1 h
  obtain ⟨withDepartment, hdepartment, h⟩ := Except.bind_eq_ok.1 h
  obtain ⟨⟨edited', changed'⟩, hactive, h⟩ := Except.bind_eq_ok.1 h
  obtain ⟨_, hleave, h⟩ := Except.bind_eq_ok.1 h
  cases h
  refine ⟨?_, hleave⟩
  have hkept : withDepartment.isActive = user.isActive := by
    rw [(UserService.assignDepartment_ok hdepartment).1]
    rcases UserService.assignRole_ok hrole with ⟨-, rfl⟩ | ⟨role, -, -, -, rfl⟩ <;> rfl
  obtain ⟨-, hnone, hsome⟩ := UserService.assignActiveState_ok hactive
  cases hinput : input.isActive with
  | none => rw [hnone hinput, hkept, Option.getD_none]
  | some flag => rw [(hsome flag hinput).2, Option.getD_some]

theorem adminUpdate_covered {cfg : Config} {now : Instant} {actor : AuthUser} {targetUserId : Nat}
    {input : AdminUpdateUserInput} (hs : Covered s.directory.db)
    (hspares : Call.SparesApprovers s.directory.db (.adminUpdate now actor targetUserId input))
    (h : UserService.adminUpdate cfg now actor targetUserId input s = .ok (u, s')) :
    Covered s'.directory.db := by
  obtain ⟨row, edited, changed, s₁, hrow, hedit, hid, -, hsave, hstate⟩ := UserService.adminUpdate_ok h
  obtain rfl := Table.key_of_find? hrow
  obtain ⟨hflag, hleave⟩ := adminEdit_active hedit
  rw [hstate]
  show Covered s₁.directory.db
  obtain ⟨_, s₂, hsaved, hrest⟩ := Transaction.bind_eq_ok.1 hsave
  have hfound : s.directory.users.find? edited.id = some row := by rwa [hid]
  cases (UserService.saveUser_eq_ok hfound).1 hsaved
  have hs₂ : Covered (s.setUser (row.save edited)).directory.db := by
    refine covered_setUser hs hrow rfl ?_
    show (row.isActive = true → edited.isActive = true) ∨ _
    rw [hflag]
    cases hinput : input.isActive with
    | none => exact .inl id
    | some flag =>
      cases flag with
      | true => exact .inl (fun _ => rfl)
      | false => exact .inr (hspares hinput)
  split at hrest
  · rename_i hinput
    refine applyWithinTransaction_covered hs₂
      (fun previous left hprevious hne hleft hmanages => ?_) (hid ▸ hrest)
    have hsaved : SameWork s.directory.db (s.setUser (row.save edited)).directory.db := ⟨rfl, rfl, rfl⟩
    rw [hsaved.isAwaited_eq rfl]
    exact idle_of_assertCanLeave hleave hinput hprevious hne hleft hmanages
  · obtain ⟨-, rfl⟩ := Transaction.pure_eq_ok.1 hrest
    exact hs₂

end Users

/-! ## The expense services -/

section Expenses

variable {cfg : Config} {db db' : Db} {row : Expense} {after : ExpenseEntity}
  {approvals : Table ExpenseApproval.key} {comments : List ExpenseComment} {events : List OutboxEvent}
  {now : Instant} {authUser : AuthUser} {u : Unit}

/-- A decision goes to the end of the decisions on its expense. -/
theorem approvalsOf_insert {approval : ExpenseApproval} (hdb' : db'.approvals = approvals)
    (hinsert : db.approvals.insert? approval = some approvals) (expenseId : Nat) :
    db'.approvalsOf expenseId =
      db.approvalsOf expenseId ++ if approval.expenseId = expenseId then [approval] else [] := by
  rw [Db.approvalsOf, hdb', (Table.insert?_eq_some.1 hinsert).2, List.filter_append, Db.approvalsOf,
    List.filter_singleton]
  by_cases hexpense : approval.expenseId = expenseId <;> simp [hexpense]

/-- An approval passes its own level, and is seen at no other. -/
theorem firstUndecided_approved {decisions : List ExpenseApproval} {approval : ExpenseApproval}
    {stage : ApprovalLevel} (hlevel : approval.approvalLevelId = stage.id)
    (happroved : approval.decision = .APPROVED) (hnone : decisionAt decisions stage = none)
    (levels : List ApprovalLevel) :
    firstUndecided (decisions ++ [approval]) levels =
      firstUndecided decisions (levels.filter (·.id ≠ stage.id)) := by
  induction levels with
  | nil => rfl
  | cons level rest ih =>
    have happend : decisionAt (decisions ++ [approval]) level =
        (decisionAt decisions level).or (if stage.id = level.id then some approval else none) := by
      rw [decisionAt, List.find?_append, List.find?_singleton, hlevel]
      by_cases hid : stage.id = level.id <;> simp [hid, decisionAt]
    by_cases hid : stage.id = level.id
    · have hundecided : decisionAt decisions level = none := by
        rw [← hnone, decisionAt, decisionAt, hid]
      rw [firstUndecided, happend, hundecided, if_pos hid, Option.none_or]
      simp [happroved, ih, hid]
    · rw [List.filter_cons_of_pos (by simpa using Ne.symm hid), firstUndecided, firstUndecided, happend,
        if_neg hid, Option.or_none, ih]

/-- A transition after which the expense waits for nobody, or for somebody who is there. -/
theorem Covered.of_transition (h : Covered db)
    (htransition : Transition cfg db row after approvals comments events db')
    (hothers : ∀ id, id ≠ row.id → db'.approvalsOf id = db.approvalsOf id)
    (hself : ∀ departmentId, (row.save after).departmentId = some departmentId →
      after.status.isPending = true →
      isManagerStage (stageWith db' (db.departmentRelation (some departmentId)) (row.save after)) = true →
      isStaffed db (db.departmentRelation (some departmentId)) = true) : Covered db' := by
  intro departmentId hawaited
  have hrelation : db'.departmentRelation (some departmentId) =
      db.departmentRelation (some departmentId) := by
    rw [Db.departmentRelation, htransition.departments_eq, Db.departmentRelation]
  have hstaffed : isStaffed db' (db.departmentRelation (some departmentId)) =
      isStaffed db (db.departmentRelation (some departmentId)) := by
    simp only [isStaffed, hasActiveManager, htransition.users_eq]
  rw [hrelation] at hawaited ⊢
  rw [hstaffed]
  obtain ⟨e, he, hcharged, hpending, hstage⟩ := isAwaited_eq_true.1 hawaited
  rcases htransition.eq_or_mem he with rfl | ⟨he, hne⟩
  · exact hself departmentId hcharged hpending hstage
  · rw [stageWith_congr htransition.levels_eq (hothers e.id hne) rfl rfl rfl] at hstage
    exact h departmentId (isAwaited_eq_true.2 ⟨e, he, hcharged, hpending, hstage⟩)

theorem reject_covered {expenseId : Nat} {commentReference comment : String} (hdb : Covered db)
    (h : Approval.reject cfg now authUser expenseId commentReference comment db = .ok (u, db')) :
    db'.users = db.users ∧ Covered db' := by
  obtain ⟨row, stage, approval, approvals, comments, -, -, hexpense, -, -, -, hinsert, htransition⟩ :=
    reject_effect h
  refine ⟨htransition.users_eq, hdb.of_transition htransition (fun id hne => ?_)
    (fun _ _ hpending => ?_)⟩
  · rw [approvalsOf_insert htransition.approvals_eq hinsert, if_neg (hexpense ▸ Ne.symm hne),
      List.append_nil]
  · cases hpending

theorem approve_covered {expenseId : Nat} {input : Approval.ApproveExpenseInput} (hdb : Covered db)
    (hspares : Call.SparesApprovers db (.approve now authUser expenseId input))
    (h : Approval.approve cfg now authUser expenseId input db = .ok (u, db')) :
    db'.users = db.users ∧ Covered db' := by
  obtain ⟨row, stage, approval, approvals, nextStatus, hrow, hready, hexpense, hlevel, -, happroved,
    hinsert, -, htransition⟩ := approve_effect h
  refine ⟨htransition.users_eq, hdb.of_transition htransition (fun id hne => ?_)
    (fun departmentId hcharged _ hstage => ?_)⟩
  · rw [approvalsOf_insert htransition.approvals_eq hinsert, if_neg (hexpense ▸ Ne.symm hne),
      List.append_nil]
  · have hkept : row.departmentId = some departmentId := by
      rw [← hcharged]
      simp [Expense.save, Approval.approved, Db.withRelations, Expense.toEntity]
    obtain ⟨-, -, -, hundecided, -⟩ := hready.chain
    have hdecisions : db'.approvalsOf row.id = db.approvalsOf row.id ++ [approval] := by
      rw [approvalsOf_insert htransition.approvals_eq hinsert, if_pos hexpense]
    have hlevels : db'.activeLevels = db.activeLevels := by
      rw [Db.activeLevels, htransition.levels_eq, Db.activeLevels]
    have hrequired : getRequiredLevels ((row.save (Approval.approved (db.withRelations row) nextStatus
        now)).toEntity (db.departmentRelation (some departmentId)) none) db.activeLevels =
          getRequiredLevels (db.withRelations row) db.activeLevels := by
      rw [getRequiredLevels_withRelations, hkept]
      exact getRequiredLevels_congr rfl rfl
    have hnext : stageWith db' (db.departmentRelation (some departmentId))
        (row.save (Approval.approved (db.withRelations row) nextStatus now)) =
          firstUndecided (db.approvalsOf row.id)
            ((getRequiredLevels (db.withRelations row) db.activeLevels).filter (·.id ≠ stage.id)) := by
      rw [stageWith, hlevels, hrequired, ← firstUndecided_approved hlevel happroved hundecided,
        ← hdecisions]
      rfl
    rw [hnext] at hstage
    exact hspares row hrow stage hready.active departmentId hkept hstage

/-- A submission to the manager of a department is one to an active department. -/
theorem activeDepartment_of_submitted {departmentId : Nat}
    (hlacks : ExpenseSubmit.lacksDepartmentManager db (ExpenseSubmit.routed db row departmentId)
      db.activeLevels = false)
    (hstage : isManagerStage (stageWith db (db.departmentRelation (some departmentId)) row) = true) :
    ∃ department, db.departmentRelation (some departmentId) = some department ∧
      department.isActive = true := by
  obtain ⟨level, hlevel, htype⟩ := isManagerStage_eq_true.1 hstage
  obtain ⟨before, after, hchain, -, -⟩ := firstUndecided_eq_some.1 hlevel
  have hrequired : level ∈ getRequiredLevels
      (row.toEntity (db.departmentRelation (some departmentId)) none) db.activeLevels := by
    rw [hchain]
    exact List.mem_append_right _ List.mem_cons_self
  obtain ⟨hmem, hactive, -, -⟩ := mem_getRequiredLevels.1 hrequired
  cases hfilter : (db.departmentRelation (some departmentId)).filter (·.isActive) with
  | some department =>
    obtain ⟨hrelation, hdepartment⟩ := Option.filter_eq_some_iff.1 hfilter
    exact ⟨department, hrelation, hdepartment⟩
  | none =>
    -- without an active department the submission is refused
    have hany : db.activeLevels.any (fun level =>
        level.isActive && level.approverType = .DEPARTMENT_MANAGER) = true :=
      List.any_eq_true.2 ⟨level, hmem, by simp [hactive, htype]⟩
    simp only [ExpenseSubmit.lacksDepartmentManager, ExpenseSubmit.activeDepartment,
      ExpenseSubmit.routed, shouldSkipDepartmentManagerStage, Property.toOption_value, hany,
      hfilter] at hlacks
    cases hlacks

theorem submit_covered {policies : List ExpensePolicy} {reference : String}
    {policyJustifications : List (String × String)} (hdb : Covered db)
    (hspares : Call.SparesApprovers db (.submit policies now authUser reference policyJustifications))
    (h : ExpenseSubmit.submit cfg policies now authUser reference policyJustifications db =
      .ok (u, db')) : db'.users = db.users ∧ Covered db' := by
  obtain ⟨_, _, -, -, -, -, hcommit⟩ := ExpenseSubmit.submit_eq_ok.1 h
  obtain ⟨row, departmentId, budgetCheck, hrow, -, -, hresolved, hlacks, htransition⟩ :=
    commitSubmit_effect hcommit
  refine ⟨htransition.users_eq, hdb.of_transition htransition (fun id _ => ?_)
    (fun charged hcharged _ hstage => ?_)⟩
  · rw [Db.approvalsOf, htransition.approvals_eq, Db.approvalsOf]
  · rw [ExpenseSubmit.submitted_eq] at hcharged hstage
    obtain rfl : departmentId = charged := Option.some.inj hcharged
    rw [stageWith_congr htransition.levels_eq (by
      rw [Db.approvalsOf, htransition.approvals_eq]
      rfl) rfl rfl rfl] at hstage
    obtain ⟨department, hrelation, hactive⟩ := activeDepartment_of_submitted hlacks hstage
    rw [hrelation] at hstage ⊢
    exact isStaffed_eq_true.2 ⟨department, rfl, hactive, (departmentRelation_eq_some.1 hrelation).2,
      hspares row (mem_toOption hrow) departmentId hresolved department hrelation hstage⟩

end Expenses

/-! ## Runs -/

/-- A call that spares the approvers leaves everybody there who is waited for. -/
theorem covered_of_ok {cfg : Config} {s s' : AuthState} {call : Call} (hs : Covered s.directory.db)
    (hspares : call.SparesApprovers s.directory.db) (h : call.perform cfg s = .ok ((), s')) :
    Covered s'.directory.db := by
  cases call with
  | createDepartment drawn input =>
    refine covered_ofDb h (fun db' hx => ⟨?_, create_covered hs hx⟩)
    obtain ⟨_, _, -, rfl⟩ := DepartmentService.create_ok hx
    rfl
  | updateDepartment reference input => exact updateDepartment_covered hs hspares h
  | removeDepartment now reference => exact removeDepartment_covered hs hspares h
  | adminUpdate now actor targetUserId input => exact adminUpdate_covered hs hspares h
  | suspendUser now actorId targetUserId => exact suspendUser_covered hs hspares h
  | activateUser actorId targetUserId => exact activateUser_covered hs h
  | submit policies now authUser reference policyJustifications =>
    exact covered_ofDb h (fun _ hx => submit_covered hs hspares hx)
  | approve now authUser expenseId input =>
    exact covered_ofDb h (fun _ hx => approve_covered hs hspares hx)
  | reject now authUser expenseId commentReference comment =>
    exact covered_ofDb h (fun _ hx => reject_covered hs hx)

/-- Along calls that spare the approvers, every department with an expense at the stage of
    its manager keeps one who can act. -/
theorem awaited_keep_approver {cfg : Config} {s s' : AuthState}
    (hs : AwaitedHaveApprover s.directory.db)
    (h : Reaches (Guarded (KeepsApprovers cfg) (Step cfg)) s s') :
    AwaitedHaveApprover s'.directory.db := by
  rw [awaitedHaveApprover_iff] at hs ⊢
  refine Reaches.invariant (P := fun s : AuthState => Covered s.directory.db)
    (fun s call s' hs hstep => ?_) hs h
  obtain ⟨hkeeps, rfl⟩ := hstep
  rcases Transaction.commit_cases (call.perform cfg) s with ⟨⟨⟩, hok⟩ | ⟨-, hsame⟩
  · refine covered_of_ok hs (hkeeps ?_) hok
    rw [hok]
    rfl
  · rwa [hsame]

end Approvers

namespace Sample

open Approvers

/-- A draft of the employee, charged to the department of the manager. -/
def employeeDraft : Expense :=
  ⟨1, expenseReference, 3, some 1, "Train to Abuja", none, ⟨5200, by decide⟩, .TRAVEL, .DRAFT, none,
    none, none, none, none, none⟩

/-- The directory with a catalogue, the draft, and staff who may read their expenses. -/
def draftDirectory : Directory :=
  { directory with
    roles := ⟨[⟨1, "ROL1700000000001AAAAAA", "hr_admin", none, [1]⟩,
      ⟨2, "ROL1700000000002AAAAAA", "staff", none, [2, 5]⟩], by decide⟩
    permissions := ⟨permissionRows ++
      [⟨5, "PER1700000000005AAAAAA", "expense.read.own", ⟨.READ, .EXPENSE, .SELF, true⟩⟩], by decide⟩
    store := { directory.store with
      levels := db.levels
      expenses := ⟨[employeeDraft], by decide⟩ } }

def submitDraft : Call :=
  .submit [] now (toAuthUser (draftDirectory.loadUser employeeRow) []) expenseReference []

/-- The administrator suspends a user. -/
def suspension (targetUserId : Nat) : Call := .suspendUser now 1 targetUserId

/-- The state after some calls. -/
def afterCalls (calls : List Call) : AuthState :=
  calls.foldl (fun s call => (call.perform config).commit s)
    { authState with directory := draftDirectory }

end Sample

namespace Approvers

/-- In the sample nobody waits at first. -/
theorem awaitedHaveApprover_draft : AwaitedHaveApprover (Sample.afterCalls []).directory.db := by
  intro row hrow departmentId stage _ hactive
  rw [List.mem_singleton.1 hrow] at hactive
  cases hactive

/-- The employee submits, and is suspended: the manager is still there for the expense. -/
theorem awaited_keep_approver_sample :
    AwaitedHaveApprover (Sample.afterCalls [Sample.submitDraft, Sample.suspension 3]).directory.db ∧
      isAwaited (Sample.afterCalls [Sample.submitDraft, Sample.suspension 3]).directory.db 1
        ((Sample.afterCalls [Sample.submitDraft, Sample.suspension 3]).directory.db.departmentRelation
          (some 1)) = true := by
  have hsubmit : KeepsApprovers Sample.config (Sample.afterCalls []) Sample.submitDraft := by
    decide +kernel
  have hsuspend : KeepsApprovers Sample.config (Sample.afterCalls [Sample.submitDraft])
      (Sample.suspension 3) := by decide +kernel
  have hrun : Reaches (Guarded (KeepsApprovers Sample.config) (Step Sample.config))
      (Sample.afterCalls []) (Sample.afterCalls [Sample.submitDraft, Sample.suspension 3]) :=
    (Reaches.refl.tail ⟨hsubmit, rfl⟩).tail ⟨hsuspend, rfl⟩
  exact ⟨awaited_keep_approver awaitedHaveApprover_draft hrun, by decide +kernel⟩

/-- The employee submits, and the manager is suspended: nobody is left to decide. -/
theorem suspension_leaves_no_approver : ¬ ∀ (cfg : Config) (s s' : AuthState),
    AwaitedHaveApprover s.directory.db → Reaches (Step cfg) s s' →
    AwaitedHaveApprover s'.directory.db := by
  intro hkept
  have hsubmit : Step Sample.config (Sample.afterCalls []) Sample.submitDraft
      (Sample.afterCalls [Sample.submitDraft]) := rfl
  have hsuspend : Step Sample.config (Sample.afterCalls [Sample.submitDraft]) (Sample.suspension 2)
      (Sample.afterCalls [Sample.submitDraft, Sample.suspension 2]) := rfl
  have hrun : Reaches (Step Sample.config) (Sample.afterCalls [])
      (Sample.afterCalls [Sample.submitDraft, Sample.suspension 2]) :=
    (Reaches.refl.tail hsubmit).tail hsuspend
  have hcovered := awaitedHaveApprover_iff.1 (hkept _ _ _ awaitedHaveApprover_draft hrun)
  have hawaited : isAwaited (Sample.afterCalls [Sample.submitDraft, Sample.suspension 2]).directory.db 1
      ((Sample.afterCalls [Sample.submitDraft, Sample.suspension 2]).directory.db.departmentRelation
        (some 1)) = true := by decide +kernel
  have hstaffed := hcovered 1 hawaited
  revert hstaffed
  decide +kernel

end Approvers

end Expentra
