-- SUMMARY: Managers and the departments they are members of: which calls leave a department with a manager who is none.
import Expentra.Department.Approvers

/-!
# Managers are members

A manager has to be an active member of the department at the moment of the assignment.
A user who leaves a department is released as its manager. Nothing releases a manager who
is suspended or deactivated.
-/

namespace Expentra.Membership

open Library Approvers

/-- The manager of a department that is not deleted is an active user of it. -/
def Belongs (d : Directory) (department : Department) : Prop :=
  department.deletedAt = none → ∀ managerId, department.managerId = some managerId →
    ∃ row, d.users.find? managerId = some row ∧ row.isActive = true ∧
      row.departmentId = some department.id

def ManagersBelong (d : Directory) : Prop := ∀ department ∈ d.store.departments, Belongs d department

/-- The serial `departments.id` starts at 1. -/
def PositiveIds (d : Directory) : Prop := ∀ department ∈ d.store.departments, 0 < department.id

/-! ## What the services do not restore -/

/-- The user manages a department that is not deleted. -/
def Manages (d : Directory) (userId : Nat) : Prop :=
  ∃ department ∈ d.store.departments,
    department.deletedAt = none ∧ department.managerId = some userId

instance (d : Directory) (userId : Nat) : Decidable (Manages d userId) :=
  inferInstanceAs (Decidable (∃ _ ∈ _, _ ∧ _))

/-- The department a request moves a user to. -/
def destination (d : Directory) (departmentReference : Property String) : Option Nat :=
  departmentReference.toOption.bind (fun reference =>
    (DepartmentService.findOne d.db reference).toOption.map (·.id))

/-- A request moves the user out of the department of its row. -/
def Leaves (d : Directory) (userId : Nat) (departmentReference : Property String) : Prop :=
  departmentReference ≠ .undefined ∧
    ∀ row ∈ d.users.find? userId, destination d departmentReference ≠ row.departmentId

instance (d : Directory) (userId : Nat) (departmentReference : Property String) :
    Decidable (Leaves d userId departmentReference) := inferInstanceAs (Decidable (_ ∧ _))

/-- A user who is suspended or deactivated manages no department, or leaves it with the
    same call. A new id comes from the serial. -/
def SparesManagers (d : Directory) : Call → Prop
  | .suspendUser _ _ targetUserId => ¬ Manages d targetUserId
  | .adminUpdate _ _ targetUserId input => input.isActive = some false → Manages d targetUserId →
      Leaves d targetUserId input.departmentReference
  | .createDepartment drawn _ => 0 < drawn.id
  | _ => True

instance (d : Directory) : (call : Call) → Decidable (SparesManagers d call)
  | .suspendUser _ _ targetUserId => inferInstanceAs (Decidable (¬ Manages d targetUserId))
  | .adminUpdate _ _ targetUserId input =>
    inferInstanceAs (Decidable (input.isActive = some false → Manages d targetUserId →
      Leaves d targetUserId input.departmentReference))
  | .createDepartment drawn _ => inferInstanceAs (Decidable (0 < drawn.id))
  | .updateDepartment .. | .removeDepartment .. | .activateUser .. | .submit .. | .approve .. |
    .reject .. => isTrue trivial

/-- A call that is refused, or spares the managers. -/
def KeepsManagers (cfg : Config) (s : AuthState) (call : Call) : Prop :=
  (call.perform cfg s).isOk = true → SparesManagers s.directory call

instance (cfg : Config) (s : AuthState) (call : Call) : Decidable (KeepsManagers cfg s call) :=
  inferInstanceAs (Decidable (_ → _))

/-! ## Changes of departments -/

section Departments

variable {d d' : Directory} {department old new : Department}

/-- Departments are written or added that their managers belong to. -/
theorem ManagersBelong.of_departments (h : ManagersBelong d) (husers : d'.users = d.users)
    (hnew : ∀ department ∈ d'.store.departments, department ∈ d.store.departments ∨
      Belongs d department) : ManagersBelong d' := by
  intro department hmem hlive managerId hmanager
  rw [husers]
  rcases hnew department hmem with hold | hbelongs
  · exact h department hold hlive managerId hmanager
  · exact hbelongs hlive managerId hmanager

/-- A department without a manager. -/
theorem Belongs.of_none (h : department.managerId = none) : Belongs d department := by
  intro _ managerId hmanager
  rw [h] at hmanager
  cases hmanager

theorem PositiveIds.of_departments (h : PositiveIds d)
    (hnew : ∀ department ∈ d'.store.departments, department ∈ d.store.departments ∨
      0 < department.id) : PositiveIds d' := by
  intro department hmem
  exact (hnew department hmem).elim (h department) id

/-- The manager an update writes is the old one, nobody, or an active member. -/
theorem belongs_updated {isActive : Bool} {nextManagerId : Property Nat}
    {managerReference : Property String} (hdepartment : Belongs d department)
    (h : DepartmentService.resolveNextManager d.db department managerReference = .ok nextManagerId) :
    Belongs d { department with
      isActive := isActive, managerId := nextManagerId.save department.managerId } := by
  cases hreference : managerReference with
  | undefined =>
    rw [hreference] at h
    cases h
    exact hdepartment
  | null =>
    rw [hreference] at h
    cases h
    exact .of_none rfl
  | value reference =>
    rw [hreference] at h
    obtain ⟨manager, hfind, h⟩ := Except.bind_eq_ok.1 h
    obtain ⟨_, hmember, h⟩ := Except.bind_eq_ok.1 h
    cases h
    obtain ⟨row, hrow, rfl⟩ := List.mem_map.1 (findEntityByReference_eq_ok hfind).1
    rintro - managerId hmanager
    cases hmanager
    refine ⟨row, Table.find?_of_mem hrow, ?_⟩
    unfold DepartmentService.assertManagerIsDepartmentMember at hmember
    split at hmember
    · cases hmember
    · rename_i hactive
      have hactive : ¬ (!row.isActive) = true := hactive
      split at hmember
      · cases hmember
      · rename_i hassigned
        exact ⟨by simpa using hactive, not_not.1 hassigned⟩

end Departments

/-! ## The department service -/

section DepartmentService

variable {s s' : AuthState} {u : Unit} {reference : String}

/-- What both tables keep. -/
structure Sound (d : Directory) : Prop where
  belong : ManagersBelong d
  positive : PositiveIds d

/-- A department is replaced by a row with its id that its manager belongs to. -/
theorem Sound.replace {d d' : Directory} {old new : Department} (h : Sound d)
    (husers : d'.users = d.users) (hold : old ∈ d.store.departments)
    (hdepartments : d'.store.departments = d.store.departments.replace new) (hid : new.id = old.id)
    (hnew : Belongs d new) : Sound d' := by
  constructor
  · refine h.belong.of_departments husers (fun department hmem => ?_)
    rw [hdepartments] at hmem
    rcases Table.eq_or_mem_of_mem_replace hmem with rfl | ⟨hmem, -⟩
    · exact .inr hnew
    · exact .inl hmem
  · refine h.positive.of_departments (fun department hmem => ?_)
    rw [hdepartments] at hmem
    rcases Table.eq_or_mem_of_mem_replace hmem with rfl | ⟨hmem, -⟩
    · exact .inr (hid ▸ h.positive old hold)
    · exact .inl hmem

/-- Neither users nor departments change. -/
theorem Sound.congr {d d' : Directory} (h : Sound d) (husers : d'.users = d.users)
    (hdepartments : d'.store.departments = d.store.departments) : Sound d' := by
  refine ⟨h.belong.of_departments husers (fun department hmem => .inl ?_),
    h.positive.of_departments (fun department hmem => .inl ?_)⟩ <;>
  rwa [hdepartments] at hmem

theorem sound_create {drawn : DepartmentService.NewDepartment}
    {input : DepartmentService.CreateDepartmentInput} (hs : Sound s.directory)
    (hspares : SparesManagers s.directory (.createDepartment drawn input))
    (h : AuthTx.ofDb (DepartmentService.create drawn input) s = .ok (u, s')) : Sound s'.directory := by
  obtain ⟨db', hx, rfl⟩ := AuthTx.ofDb_eq_ok.1 h
  obtain ⟨isActive, departments, hinsert, rfl⟩ := DepartmentService.create_ok hx
  constructor
  · refine hs.belong.of_departments rfl (fun department hmem => ?_)
    rcases (Table.mem_insert hinsert).1 hmem with hmem | rfl
    · exact .inl hmem
    · exact .inr (.of_none rfl)
  · refine hs.positive.of_departments (fun department hmem => ?_)
    rcases (Table.mem_insert hinsert).1 hmem with hmem | rfl
    · exact .inl hmem
    · exact .inr hspares

theorem sound_update {input : DepartmentService.UpdateDepartmentInput} (hs : Sound s.directory)
    (h : DepartmentService.updateDepartment reference input s = .ok (u, s')) : Sound s'.directory := by
  obtain ⟨department, nextManagerId, s₁, hfind, hresolve, happly, hdirectory, -⟩ :=
    DepartmentService.updateDepartment_ok h
  rw [hdirectory]
  obtain ⟨db', hx, rfl⟩ := AuthTx.ofDb_eq_ok.1 happly
  obtain ⟨events, rfl, -⟩ := DepartmentService.applyUpdate_ok hx
  have hmem : department ∈ s.directory.store.departments := (DepartmentService.findOne_eq_ok hfind).1
  exact hs.replace rfl hmem rfl rfl (belongs_updated (hs.belong department hmem) hresolve)

/-- A deleted department needs no manager. -/
theorem sound_remove {now : Instant} (hs : Sound s.directory)
    (h : AuthTx.ofDb (DepartmentService.remove now reference) s = .ok (u, s')) : Sound s'.directory := by
  obtain ⟨db', hx, rfl⟩ := AuthTx.ofDb_eq_ok.1 h
  obtain ⟨department, hfind, -, rfl⟩ := DepartmentService.remove_eq_ok.1 hx
  refine hs.replace rfl (DepartmentService.findOne_eq_ok hfind).1 rfl rfl (fun hlive => ?_)
  cases hlive

end DepartmentService

/-! ## The user service -/

section UserService

variable {s s' : AuthState} {u : Unit} {row row' : UserRow}

/-- A saved user: the departments the user manages are those of the new row, and the row is
    active. -/
theorem ManagersBelong.setUser (h : ManagersBelong s.directory)
    (hrow : s.directory.users.find? row.id = some row) (hid : row'.id = row.id)
    (hkept : ∀ department ∈ s.directory.store.departments, department.deletedAt = none →
      department.managerId = some row.id → row'.isActive = true ∧
        row'.departmentId = some department.id) :
    ManagersBelong (s.setUser row').directory := by
  intro department hmem hlive managerId hmanager
  by_cases hself : managerId = row.id
  · subst hself
    refine ⟨row', ?_, hkept department hmem hlive hmanager⟩
    rw [← hid]
    exact Table.find?_replace_self (by rw [hid]; exact hrow)
  · obtain ⟨found, hfound, hbelongs⟩ := h department hmem hlive managerId hmanager
    refine ⟨found, ?_, hbelongs⟩
    rw [← hid] at hself
    exact (Table.find?_replace_ne hself).trans hfound

theorem sound_suspendUser {now : Instant} {actorId targetUserId : Nat} (hs : Sound s.directory)
    (hspares : SparesManagers s.directory (.suspendUser now actorId targetUserId))
    (h : UserService.suspendUser now actorId targetUserId s = .ok (u, s')) : Sound s'.directory := by
  obtain ⟨-, row, hrow, -, hstate⟩ := UserService.suspendUser_ok h
  obtain rfl := Table.key_of_find? hrow
  rw [hstate]
  exact ⟨hs.belong.setUser hrow rfl (fun department hmem hlive hmanager =>
    absurd ⟨department, hmem, hlive, hmanager⟩ hspares), hs.positive⟩

theorem sound_activateUser {actorId targetUserId : Nat} (hs : Sound s.directory)
    (h : UserService.activateUser actorId targetUserId s = .ok (u, s')) : Sound s'.directory := by
  obtain ⟨-, row, hrow, hstate⟩ := UserService.activateUser_ok h
  obtain rfl := Table.key_of_find? hrow
  rw [hstate]
  refine ⟨hs.belong.setUser hrow rfl (fun department hmem hlive hmanager => ?_), hs.positive⟩
  obtain ⟨found, hfound, hactive, hmember⟩ := hs.belong department hmem hlive row.id hmanager
  cases hrow.symm.trans hfound
  exact ⟨rfl, hmember⟩

theorem save_of_toOption {α : Type} {p : Property α} {a : α} {column : Option α}
    (h : p.toOption = some a) : p.save column = some a := by
  cases p with
  | value b =>
    cases h
    rfl
  | _ => cases h

/-- The department after the assignments of `adminUpdate`. -/
theorem adminEdit_department {d : Directory} {now : Instant} {actor : AuthUser}
    {input : AdminUpdateUserInput} {user edited : UserEntity} {changed : Bool}
    (h : UserService.adminEdit d now actor input user = .ok (edited, changed)) :
    (input.departmentReference = .undefined → edited.departmentId = user.departmentId) ∧
      (input.departmentReference ≠ .undefined →
        edited.departmentId.toOption = destination d input.departmentReference) := by
  obtain ⟨withRole, withDepartment, hrole, hdepartment, hactive⟩ := UserService.adminEdit_ok h
  have hkept : edited.departmentId = withDepartment.departmentId := by
    rw [(UserService.assignActiveState_ok hactive).1]
  have hbefore : withRole.departmentId = user.departmentId := by
    rcases UserService.assignRole_ok hrole with ⟨-, rfl⟩ | ⟨role, -, -, -, rfl⟩ <;> rfl
  rw [hkept]
  cases hreference : input.departmentReference with
  | undefined =>
    rw [hreference] at hdepartment
    cases hdepartment
    exact ⟨fun _ => hbefore, fun hne => absurd rfl hne⟩
  | null =>
    rw [hreference] at hdepartment
    cases hdepartment
    exact ⟨nofun, fun _ => rfl⟩
  | value reference =>
    rw [hreference] at hdepartment
    obtain ⟨department, hfind, hdepartment⟩ := Except.bind_eq_ok.1 hdepartment
    split at hdepartment
    · cases hdepartment
    · cases hdepartment
      refine ⟨nofun, fun _ => ?_⟩
      rw [destination, Property.toOption_value, Property.toOption_value, Option.bind_some, hfind]
      rfl

/-- The move of a user changes the manager of the former department at most; the user does
    not manage it any more. -/
theorem applyWithinTransaction_departments {cfg : Config} {userId : Nat}
    {previousDepartmentId departmentId : Option Nat}
    (h : DepartmentService.applyWithinTransaction cfg userId previousDepartmentId departmentId s =
      .ok (u, s')) :
    s'.directory.users = s.directory.users ∧
    (∀ department ∈ s'.directory.store.departments, department ∈ s.directory.store.departments ∨
      (department.managerId = none ∧ ∃ old ∈ s.directory.store.departments, department.id = old.id)) ∧
    (previousDepartmentId ≠ departmentId → ∀ department ∈ s'.directory.store.departments,
      department.deletedAt = none → department.managerId = some userId → 0 < department.id →
      previousDepartmentId ≠ some department.id) := by
  have husers : s'.directory.users = s.directory.users := by
    rw [DepartmentService.applyWithinTransaction_frame h]
  obtain ⟨_, s₁, hsync, hrelease⟩ := Transaction.bind_eq_ok.1 h
  obtain ⟨db', hx, rfl⟩ := AuthTx.ofDb_eq_ok.1 hsync
  obtain ⟨budgets, rfl⟩ := BudgetService.syncCommittedAmountForUserDepartmentChange_ok hx
  refine ⟨husers, ?_⟩
  cases hprevious : previousDepartmentId.filter (· ≠ 0) with
  | none =>
    rw [hprevious] at hrelease
    obtain ⟨-, rfl⟩ := Transaction.pure_eq_ok.1 hrelease
    refine ⟨fun department hmem => .inl hmem, fun _ department _ _ _ hpos heq => ?_⟩
    rw [heq] at hprevious
    simp [Nat.pos_iff_ne_zero.1 hpos] at hprevious
  | some previous =>
    rw [hprevious] at hrelease
    obtain ⟨hsome, -⟩ := Option.filter_eq_some_iff.1 hprevious
    dsimp only at hrelease
    split at hrelease
    · rcases release_cases hrelease with ⟨hnone, rfl⟩ | ⟨department, hmanaged, -, -, hdepartments⟩
      · refine ⟨fun department hmem => .inl hmem, fun _ department hmem hlive hmanager _ heq => ?_⟩
        obtain rfl := Option.some.inj (hsome.symm.trans heq)
        have hmanages : DepartmentService.managedBy s.directory.db department.id userId =
            some department := by
          have hfind : s.directory.db.departments.find? department.id = some department :=
            Table.find?_of_mem hmem
          rw [DepartmentService.managedBy, hfind]
          simp [hlive, hmanager]
        cases hnone.symm.trans hmanages
      · have hid : department.id = previous :=
          Table.key_of_find? (Option.filter_eq_some_iff.1 (Option.filter_eq_some_iff.1 hmanaged).1).1
        have hold := (DepartmentService.managedBy_eq_some hmanaged).1
        have hcases : ∀ found ∈ s'.directory.store.departments,
            found = { department with managerId := none } ∨
              (found ∈ s.directory.store.departments ∧ found.id ≠ department.id) := by
          intro found hmem
          have hmem : found ∈ s.directory.store.departments.replace
              { department with managerId := none } := hdepartments ▸ hmem
          exact Table.eq_or_mem_of_mem_replace hmem
        refine ⟨fun found hmem => ?_, fun _ found hmem _ hmanager _ heq => ?_⟩
        · rcases hcases found hmem with rfl | ⟨hmem, -⟩
          · exact .inr ⟨rfl, department, hold, rfl⟩
          · exact .inl hmem
        · rcases hcases found hmem with rfl | ⟨-, hne⟩
          · cases hmanager
          · exact hne (Option.some.inj (heq.symm.trans (hsome.trans (congrArg some hid.symm))))
    · rename_i hsame
      obtain ⟨-, rfl⟩ := Transaction.pure_eq_ok.1 hrelease
      exact ⟨fun department hmem => .inl hmem, fun hne => absurd hne hsame⟩

/-- The managers belong as the row was saved, but for the department that the user leaves:
    that one is released. -/
theorem sound_adminUpdate {cfg : Config} {now : Instant} {actor : AuthUser} {targetUserId : Nat}
    {input : AdminUpdateUserInput} (hs : Sound s.directory)
    (hspares : SparesManagers s.directory (.adminUpdate now actor targetUserId input))
    (h : UserService.adminUpdate cfg now actor targetUserId input s = .ok (u, s')) :
    Sound s'.directory := by
  obtain ⟨row, edited, changed, s₁, hrow, hedit, hid, -, hsave, hstate⟩ := UserService.adminUpdate_ok h
  obtain rfl := Table.key_of_find? hrow
  obtain ⟨hflag, -⟩ := adminEdit_active hedit
  obtain ⟨hstays, hmoves⟩ := adminEdit_department hedit
  have hmember : ∀ department ∈ s.directory.store.departments, department.deletedAt = none →
      department.managerId = some row.id →
        row.isActive = true ∧ row.departmentId = some department.id := by
    intro department hmem hlive hmanager
    obtain ⟨found, hfound, hbelongs⟩ := hs.belong department hmem hlive row.id hmanager
    cases hrow.symm.trans hfound
    exact hbelongs
  -- a manager who does not leave is active in the saved row
  have hactive : ∀ department ∈ s.directory.store.departments, department.deletedAt = none →
      department.managerId = some row.id →
      ¬ Leaves s.directory row.id input.departmentReference → edited.isActive = true := by
    intro department hmem hlive hmanager hnot
    rw [hflag]
    cases hinput : input.isActive with
    | none => exact (hmember department hmem hlive hmanager).1
    | some flag =>
      cases flag with
      | true => rfl
      | false => exact absurd (hspares hinput ⟨department, hmem, hlive, hmanager⟩) hnot
  rw [hstate]
  change Sound s₁.directory
  obtain ⟨_, s₂, hsaved, hrest⟩ := Transaction.bind_eq_ok.1 hsave
  have hfound : s.directory.users.find? edited.id = some row := by rwa [hid]
  cases (UserService.saveUser_eq_ok hfound).1 hsaved
  by_cases hinput : input.departmentReference = .undefined
  · rw [if_neg (not_not.2 hinput)] at hrest
    obtain ⟨-, rfl⟩ := Transaction.pure_eq_ok.1 hrest
    refine ⟨hs.belong.setUser hrow rfl (fun department hmem hlive hmanager => ?_), hs.positive⟩
    refine ⟨hactive department hmem hlive hmanager (fun hleaves => hleaves.1 hinput), ?_⟩
    change edited.departmentId.save row.departmentId = some department.id
    rw [hstays hinput]
    exact (Property.save_ofColumn _).trans (hmember department hmem hlive hmanager).2
  · rw [if_pos hinput] at hrest
    obtain ⟨husers, hdepartments, hreleased⟩ := applyWithinTransaction_departments hrest
    have hpositive : PositiveIds s₁.directory := by
      intro department hmem
      rcases hdepartments department hmem with hold | ⟨-, old, hold, heq⟩
      · exact hs.positive department hold
      · rw [heq]
        exact hs.positive old hold
    refine ⟨fun department hmem hlive managerId hmanager => ?_, hpositive⟩
    rw [husers]
    rcases hdepartments department hmem with hold | ⟨hnone, -⟩
    · by_cases hself : managerId = row.id
      · subst hself
        have hassigned := (hmember department hold hlive hmanager).2
        -- the user has stayed, for a department that is left is released
        have hsame : destination s.directory input.departmentReference = row.departmentId := by
          by_contra hne
          rw [← hmoves hinput] at hne
          exact hreleased (Ne.symm hne) department hmem hlive (hid ▸ hmanager)
            (hpositive department hmem) hassigned
        refine ⟨row.save edited, ?_, ?_, ?_⟩
        · exact Table.find?_replace_self (r := row.save edited) hrow
        · exact hactive department hold hlive hmanager (fun hleaves => hleaves.2 row hrow hsame)
        · have hedited : edited.departmentId.toOption = some department.id := by
            rw [hmoves hinput, hsame, hassigned]
          rw [UserRow.save]
          exact save_of_toOption hedited
      · obtain ⟨found, hfound, hbelongs⟩ := hs.belong department hold hlive managerId hmanager
        exact ⟨found, (Table.find?_replace_ne (r := row.save edited) hself).trans hfound, hbelongs⟩
    · rw [hnone] at hmanager
      cases hmanager

end UserService

/-! ## Runs -/

/-- A call that spares the managers keeps what both tables say. -/
theorem sound_of_ok {cfg : Config} {s s' : AuthState} {call : Call} (hs : Sound s.directory)
    (hspares : SparesManagers s.directory call) (h : call.perform cfg s = .ok ((), s')) :
    Sound s'.directory := by
  cases call with
  | createDepartment drawn input => exact @sound_create s s' () drawn input hs hspares h
  | updateDepartment reference input =>
    exact @sound_update s s' () reference input hs h
  | removeDepartment now reference => exact @sound_remove s s' () reference now hs h
  | adminUpdate now actor targetUserId input => exact sound_adminUpdate hs hspares h
  | suspendUser now actorId targetUserId => exact sound_suspendUser hs hspares h
  | activateUser actorId targetUserId =>
    exact @sound_activateUser s s' () actorId targetUserId hs h
  | submit policies now authUser reference policyJustifications =>
    have hsubmit : AuthTx.ofDb (ExpenseSubmit.submit cfg policies now authUser reference
        policyJustifications) s = .ok ((), s') := h
    obtain ⟨db', hx, rfl⟩ := AuthTx.ofDb_eq_ok.1 hsubmit
    obtain ⟨_, _, -, -, -, -, hcommit⟩ := ExpenseSubmit.submit_eq_ok.1 hx
    obtain ⟨_, _, _, -, -, -, -, -, htransition⟩ := commitSubmit_effect hcommit
    exact hs.congr rfl htransition.departments_eq
  | approve now authUser expenseId input =>
    have happrove : AuthTx.ofDb (Approval.approve cfg now authUser expenseId input) s =
        .ok ((), s') := h
    obtain ⟨db', hx, rfl⟩ := AuthTx.ofDb_eq_ok.1 happrove
    obtain ⟨_, _, _, _, _, -, -, -, -, -, -, -, -, htransition⟩ := approve_effect hx
    exact hs.congr rfl htransition.departments_eq
  | reject now authUser expenseId commentReference comment =>
    have hreject : AuthTx.ofDb (Approval.reject cfg now authUser expenseId commentReference
        comment) s = .ok ((), s') := h
    obtain ⟨db', hx, rfl⟩ := AuthTx.ofDb_eq_ok.1 hreject
    obtain ⟨_, _, _, _, _, -, -, -, -, -, -, -, htransition⟩ := reject_effect hx
    exact hs.congr rfl htransition.departments_eq

/-- Along calls that spare the managers, every department that is not deleted keeps a
    manager who is an active member of it, if it has one. -/
theorem managers_stay_members {cfg : Config} {s s' : AuthState} (hs : ManagersBelong s.directory)
    (hpositive : PositiveIds s.directory)
    (h : Reaches (Guarded (KeepsManagers cfg) (Approvers.Step cfg)) s s') : ManagersBelong s'.directory := by
  refine (Reaches.invariant (P := fun s : AuthState => Sound s.directory)
    (fun s call s' hs hstep => ?_) ⟨hs, hpositive⟩ h).belong
  obtain ⟨hkeeps, rfl⟩ := hstep
  rcases Transaction.commit_cases (call.perform cfg) s with ⟨⟨⟩, hok⟩ | ⟨-, hsame⟩
  · refine sound_of_ok hs (hkeeps ?_) hok
    rw [hok]
    rfl
  · rwa [hsame]

/-! ### A manager is deactivated with and without leaving -/

namespace Sample

open Expentra.Sample

/-- The administrator deactivates the manager, who leaves the department with the same call. -/
def dismissal : Call :=
  .adminUpdate now (toAuthUser (draftDirectory.loadUser administratorRow) []) 2 ⟨none, .null, some false⟩

end Sample

open Expentra.Sample (afterCalls suspension)

/-- In the sample the manager is a member. -/
theorem managersBelong_draft : ManagersBelong (afterCalls []).directory ∧
    PositiveIds (afterCalls []).directory := by
  constructor
  · intro department hmem _ managerId hmanager
    cases List.mem_singleton.1 hmem
    cases hmanager
    exact ⟨Expentra.Sample.managerRow, by decide, rfl, rfl⟩
  · intro department hmem
    cases List.mem_singleton.1 hmem
    decide

theorem managers_stay_members_sample :
    ManagersBelong (afterCalls [Sample.dismissal]).directory ∧
      ((afterCalls [Sample.dismissal]).directory.users.find? 2).map (·.isActive) = some false := by
  have hkeeps : KeepsManagers Expentra.Sample.config (afterCalls []) Sample.dismissal := by
    decide +kernel
  have hrun : Reaches (Guarded (KeepsManagers Expentra.Sample.config)
      (Approvers.Step Expentra.Sample.config)) (afterCalls []) (afterCalls [Sample.dismissal]) :=
    Reaches.refl.tail ⟨hkeeps, rfl⟩
  exact ⟨managers_stay_members managersBelong_draft.1 managersBelong_draft.2 hrun, by decide +kernel⟩

/-- The manager is suspended, and stays the manager. -/
theorem suspended_stays_manager : ¬ ∀ (cfg : Config) (s s' : AuthState), ManagersBelong s.directory →
    PositiveIds s.directory → Reaches (Approvers.Step cfg) s s' → ManagersBelong s'.directory := by
  intro hstay
  have hsuspend : Approvers.Step Expentra.Sample.config (afterCalls []) (suspension 2)
      (afterCalls [suspension 2]) := rfl
  have hbelong := hstay _ _ _ managersBelong_draft.1 managersBelong_draft.2 (Reaches.refl.tail hsuspend)
  have hmanaged : ((afterCalls [suspension 2]).directory.store.departments.find? 1).any
      (fun department => department.deletedAt.isNone && department.managerId = some 2) = true := by
    decide +kernel
  obtain ⟨department, hfind, hfacts⟩ := (Option.any_eq_true _ _).1 hmanaged
  obtain ⟨hlive, hmanager⟩ := (Bool.and_eq_true _ _).mp hfacts
  obtain ⟨row, hrow, hactive, -⟩ := hbelong department (Table.mem_of_find? hfind)
    (Option.isNone_iff_eq_none.1 hlive) 2 (of_decide_eq_true hmanager)
  have hsuspended : ((afterCalls [suspension 2]).directory.users.find? 2).map (·.isActive) =
      some false := by
    decide +kernel
  rw [hrow, Option.map_some, hactive] at hsuspended
  cases hsuspended

end Expentra.Membership
