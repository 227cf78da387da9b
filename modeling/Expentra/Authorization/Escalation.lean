-- SUMMARY: Assigning roles: what a target gains, when the actor has it too, and what chains of assignments hand on.
import Expentra.Identity.Users
import Expentra.Library.Run

/-!
# Roles that are assigned

`adminUpdate` assigns any role but the super admin one, whatever it grants. An assignment
stays within the actor when the actor has every permission of the role that is in effect.
Over a chain of such assignments nobody gains what none of the actors had.
-/

namespace Expentra.RoleAssignment

open Library

/-! ## What a role grants -/

/-- Some active permission of the role grants it. -/
def Grants (d : Directory) (role : RoleRow) (action : PermissionAction) (resource : PermissionResource)
    (scope : Option PermissionScope) : Prop :=
  ∃ p ∈ (d.loadRole role).permissions, p.isActive = true ∧
    permissionGrants p.grant action resource scope = true

/-- A permission grants anything at all if and only if it grants its own query. -/
def inEffect (p : Permission) : Bool := permissionGrants p.grant p.action p.resource (some p.scope)

/-- The actor has each active permission of the role that is in effect. -/
def Within (d : Directory) (actor : AuthUser) (role : RoleRow) : Prop :=
  ∀ p ∈ (d.loadRole role).permissions, p.isActive = true → inEffect p = true →
    hasPermission actor p.action p.resource (some p.scope) = true

instance (d : Directory) (actor : AuthUser) (role : RoleRow) : Decidable (Within d actor role) :=
  inferInstanceAs (Decidable (∀ _ ∈ _, _ → _ → _))

theorem inEffect_of_grants {p : Permission} {action : PermissionAction}
    {resource : PermissionResource} {scope : Option PermissionScope}
    (h : permissionGrants p.grant action resource scope = true) : inEffect p = true := by
  rw [inEffect, permissionGrants_iff]
  obtain ⟨haction, hresource, -, hrules⟩ := permissionGrants_iff.1 h
  refine ⟨.inr rfl, .inr rfl, .inr rfl, fun hmanage => ⟨nofun, ?_⟩⟩
  have hallowed := (hrules hmanage).2
  rcases hresource with hall | hresource
  · -- a permission on everything is under no scope rule
    have hall' : p.resource = .ALL := hall
    simp [permissionScopeAllows, hall']
  · rcases haction with hmanages | haction
    · exact absurd hmanages hmanage
    · rw [← haction, ← hresource] at hallowed
      exact hallowed

/-- What a role grants the actor has, if and only if the role stays within the actor. -/
theorem within_iff {d : Directory} {actor : AuthUser} {role : RoleRow} :
    (∀ action resource scope, Grants d role action resource scope →
      hasPermission actor action resource scope = true) ↔ Within d actor role := by
  constructor
  · intro hall p hp hactive heffect
    exact hall p.action p.resource (some p.scope) ⟨p, hp, hactive, heffect⟩
  · rintro hwithin action resource scope ⟨p, hp, hactive, hgrants⟩
    exact hasPermission_of_grants (hwithin p hp hactive (inEffect_of_grants hgrants)) hgrants

/-! ## What a user has -/

/-- The user of the row has the permission, as its context would say. -/
def Has (d : Directory) (row : UserRow) (action : PermissionAction) (resource : PermissionResource)
    (scope : Option PermissionScope) : Prop :=
  hasPermission (toAuthUser (d.loadUser row) []) action resource scope = true

variable {d d' : Directory} {row row' : UserRow} {action : PermissionAction}
  {resource : PermissionResource} {scope : Option PermissionScope}

/-- It depends on the role of the user, and on what the role grants. -/
theorem has_congr (hroles : d'.roles = d.roles) (hpermissions : d'.permissions = d.permissions)
    (hroleId : row'.roleId = row.roleId) :
    Has d' row' action resource scope ↔ Has d row action resource scope := by
  have hload : d'.loadRole = d.loadRole := by
    funext role
    simp only [Directory.loadRole, hpermissions]
  have hrole : (d'.loadUser row').role = (d.loadUser row).role := by
    change (row'.roleId.bind d'.roles.find?).map d'.loadRole = _
    rw [hroleId, hroles, hload]
    rfl
  unfold Has hasPermission isSuperAdminUser toAuthUser
  rw [hrole]

/-- With a role that is not the super admin one, a user has what the role grants. -/
theorem grants_of_has {role : RoleRow} (hrole : row.roleId.bind d.roles.find? = some role)
    (hname : role.name ≠ "super_admin") (h : Has d row action resource scope) :
    Grants d role action resource scope := by
  simp only [Has, hasPermission, isSuperAdminUser, toAuthUser, Directory.loadUser, hrole,
    Option.map_some, Option.getD_some, Bool.or_eq_true, decide_eq_true_eq] at h
  rcases h with hadmin | hany
  · exact absurd hadmin hname
  · obtain ⟨q, hq, hgrants⟩ := List.any_eq_true.1 hany
    obtain ⟨p, hp, rfl⟩ := List.mem_map.1 hq
    obtain ⟨hmem, hactive⟩ := List.mem_filter.1 hp
    exact ⟨p, hmem, hactive, hgrants⟩

/-! ## Chains of assignments -/

/-- A call of `adminUpdate`. -/
structure Assignment where
  now : Instant
  actor : AuthUser
  targetUserId : Nat
  input : AdminUpdateUserInput

/-- The role the input names. -/
def Assignment.role? (a : Assignment) (d : Directory) : Option RoleRow :=
  a.input.roleReference.bind (fun reference =>
    (findEntityByReference d.roles.rows (·.reference) reference "Role not found").toOption)

def perform (cfg : Config) (a : Assignment) : AuthTx Unit :=
  UserService.adminUpdate cfg a.now a.actor a.targetUserId a.input

def Step (cfg : Config) (s : AuthState) (a : Assignment) (s' : AuthState) : Prop :=
  s' = (perform cfg a).commit s

/-- The actor is no super administrator, and the role stays within the actor. -/
def StaysWithin (s : AuthState) (a : Assignment) : Prop :=
  isSuperAdminUser a.actor = false ∧ ∀ role ∈ a.role? s.directory, Within s.directory a.actor role

instance (s : AuthState) (a : Assignment) : Decidable (StaysWithin s a) :=
  inferInstanceAs (Decidable (_ ∧ ∀ _ ∈ _, _))

/-- One assignment: what the user of a row has afterwards, it had before, or the actor has. -/
theorem has_of_step {cfg : Config} {s s' : AuthState} {a : Assignment} (h : Step cfg s a s')
    (hwithin : StaysWithin s a) {id : Nat} (hrow' : s'.directory.users.find? id = some row')
    (hhas : Has s'.directory row' action resource scope) :
    (∃ row, s.directory.users.find? id = some row ∧ Has s.directory row action resource scope) ∨
      hasPermission a.actor action resource scope = true := by
  rcases Transaction.commit_cases (perform cfg a) s with ⟨_, hok⟩ | ⟨-, hsame⟩
  · rw [← h] at hok
    obtain ⟨row, edited, changed, hrow, hedit, hstate⟩ := UserService.adminUpdate_frame hok
    have husers : s'.directory.users = s.directory.users.replace (row.save edited) := by rw [hstate]
    have hroles : s'.directory.roles = s.directory.roles := by rw [hstate]
    have hpermissions : s'.directory.permissions = s.directory.permissions := by rw [hstate]
    have hold : s.directory.users.find? row.id = some row :=
      Table.find?_of_mem (Table.mem_of_find? hrow)
    by_cases hid : id = row.id
    · have hself : (s.directory.users.replace (row.save edited)).find? (row.save edited).id =
          some (row.save edited) := Table.find?_replace_self hold
      obtain rfl : row' = row.save edited := by
        rw [husers, hid] at hrow'
        exact Option.some.inj (hrow'.symm.trans hself)
      rcases UserService.adminEdit_role hedit with
        ⟨-, hkept⟩ | ⟨reference, role, hreference, hfind, hassign, hroleId⟩
      · refine .inl ⟨row, hid ▸ hold, (has_congr hroles hpermissions ?_).1 hhas⟩
        simp [UserRow.save, hkept, UserRow.toEntity]
      · -- the new role is not the super admin one, and what it grants the actor has
        right
        have hmem : role ∈ s.directory.roles := (findEntityByReference_eq_ok hfind).1
        have hnamed : role ∈ a.role? s.directory := by
          simp [Assignment.role?, hreference, hfind, Except.toOption]
        have hname : role.name ≠ "super_admin" := by
          intro hname
          have hadmin := assertCanAssignRole_eq_ok.1 hassign hname
          rw [hwithin.1] at hadmin
          cases hadmin
        have hbind : (row.save edited).roleId.bind s.directory.roles.find? = some role := by
          simp [UserRow.save, hroleId, Table.find?_of_mem hmem]
        have hbefore : Has s.directory (row.save edited) action resource scope :=
          (has_congr hroles hpermissions rfl).1 hhas
        exact within_iff.2 (hwithin.2 role hnamed) action resource scope
          (grants_of_has hbind hname hbefore)
    · rw [husers, Table.find?_replace_ne (show id ≠ (row.save edited).id from hid)] at hrow'
      exact .inl ⟨row', hrow', (has_congr hroles hpermissions rfl).1 hhas⟩
  · rw [← h] at hsame
    subst hsame
    exact .inl ⟨row', hrow', hhas⟩

/-- A run of such assignments: what a user has in a state of it, the user had at the
    start, or one of the actors has. -/
theorem has_of_run {cfg : Config} {s : AuthState} {tr : List (Assignment × AuthState)}
    (h : Run (Guarded StaysWithin (Step cfg)) s tr) {t : AuthState} (ht : t ∈ Run.states s tr)
    {id : Nat} (hrow' : t.directory.users.find? id = some row')
    (hhas : Has t.directory row' action resource scope) :
    (∃ row, s.directory.users.find? id = some row ∧ Has s.directory row action resource scope) ∨
      ∃ step ∈ Run.steps s tr, hasPermission step.2.actor action resource scope = true := by
  induction h with
  | nil =>
    rw [Run.states_nil, List.mem_singleton] at ht
    subst ht
    exact .inl ⟨row', hrow', hhas⟩
  | @cons s s₁ a rest hstep _ ih =>
    rw [Run.states_cons, List.mem_cons] at ht
    rcases ht with rfl | ht
    · exact .inl ⟨row', hrow', hhas⟩
    · rw [Run.steps_cons]
      rcases ih ht with ⟨row₁, hrow₁, hhas₁⟩ | ⟨step, hmem, hactor⟩
      · rcases has_of_step hstep.2 hstep.1 hrow₁ hhas₁ with hstart | hactor
        · exact .inl hstart
        · exact .inr ⟨(s, a), List.mem_cons_self, hactor⟩
      · exact .inr ⟨step, List.mem_cons_of_mem _ hmem, hactor⟩

/-- The target of an accepted assignment gains nothing the actor does not have, if and
    only if the role stays within the actor; and over any run of assignments that do,
    nobody gains what none of the actors had. -/
theorem assignment_within_iff (cfg : Config) :
    (∀ s a role, isSuperAdminUser a.actor = false → a.role? s.directory = some role →
      (∃ s', perform cfg a s = .ok ((), s')) →
      ((∀ action resource scope, Grants s.directory role action resource scope →
          hasPermission a.actor action resource scope = true) ↔
        Within s.directory a.actor role)) ∧
    ∀ s tr, Run (Guarded StaysWithin (Step cfg)) s tr → ∀ t ∈ Run.states s tr, ∀ id row',
      t.directory.users.find? id = some row' → ∀ action resource scope,
        Has t.directory row' action resource scope →
        (∃ row, s.directory.users.find? id = some row ∧
            Has s.directory row action resource scope) ∨
          ∃ step ∈ Run.steps s tr, hasPermission step.2.actor action resource scope = true := by
  refine ⟨fun s a role _ _ _ => within_iff, ?_⟩
  intro s tr hrun t ht id row' hrow' action resource scope hhas
  exact has_of_run hrun ht hrow' hhas

/-! ## Samples -/

namespace Sample

open Expentra.Sample

def config : Config := ⟨BudgetPeriod.utcZone, false⟩

def administrator : AuthUser := toAuthUser (directory.loadUser administratorRow) []

def hrAdmin : RoleRow := ⟨1, "ROL1700000000001AAAAAA", "hr_admin", none, [1]⟩

def financeManager : RoleRow := ⟨3, "ROL1700000000003AAAAAA", "finance_manager", none, [3]⟩

/-- The administrator gives the employee a role. -/
def give (role : RoleRow) : Assignment :=
  ⟨1700000000000, administrator, 3, ⟨some role.reference, .undefined, none⟩⟩

def given (role : RoleRow) : AuthState := (perform config (give role)).commit authState

end Sample

open Expentra.Sample (authState directory)

/-- The administrator gives the own role to the employee, who gains nothing else. -/
theorem assignment_within_sample :
    (∀ action resource scope, Grants directory Sample.hrAdmin action resource scope →
      hasPermission Sample.administrator action resource scope = true) ∧
    ∃ row', (Sample.given Sample.hrAdmin).directory.users.find? 3 = some row' ∧
      ∀ action resource scope, Has (Sample.given Sample.hrAdmin).directory row' action resource scope →
        (∃ row, directory.users.find? 3 = some row ∧ Has directory row action resource scope) ∨
        ∃ step ∈ Run.steps authState [(Sample.give Sample.hrAdmin, Sample.given Sample.hrAdmin)],
          hasPermission step.2.actor action resource scope = true := by
  have haccepted : ((perform Sample.config (Sample.give Sample.hrAdmin)) authState).isOk = true := by
    decide +kernel
  have hwithin : StaysWithin authState (Sample.give Sample.hrAdmin) := by decide +kernel
  have hrole : (Sample.give Sample.hrAdmin).role? directory = some Sample.hrAdmin := by
    decide +kernel
  have hfound : ((Sample.given Sample.hrAdmin).directory.users.find? 3).isSome = true := by
    decide +kernel
  obtain ⟨row', hrow'⟩ := Option.isSome_iff_exists.1 hfound
  have hone := (assignment_within_iff Sample.config).1 authState (Sample.give Sample.hrAdmin)
    Sample.hrAdmin hwithin.1 hrole (Transaction.exists_of_isOk haccepted)
  have hrun : Run (Guarded StaysWithin (Step Sample.config)) authState
      [(Sample.give Sample.hrAdmin, Sample.given Sample.hrAdmin)] := .cons ⟨hwithin, rfl⟩ .nil
  have hlast : Sample.given Sample.hrAdmin ∈
      Run.states authState [(Sample.give Sample.hrAdmin, Sample.given Sample.hrAdmin)] :=
    List.mem_cons_of_mem _ List.mem_cons_self
  refine ⟨hone.2 (hwithin.2 _ hrole), row', hrow', ?_⟩
  exact (assignment_within_iff Sample.config).2 authState _ hrun _ hlast 3 row' hrow'

/-- The administrator makes the employee an approver, and may not approve. -/
theorem administrator_makes_approver :
    (∃ s', perform Sample.config (Sample.give Sample.financeManager) authState = .ok ((), s')) ∧
      isSuperAdminUser Sample.administrator = false ∧
      (Sample.give Sample.financeManager).role? directory = some Sample.financeManager ∧
      Grants directory Sample.financeManager .APPROVE .APPROVAL (some .GLOBAL) ∧
      hasPermission Sample.administrator .APPROVE .APPROVAL (some .GLOBAL) = false := by
  have haccepted : (perform Sample.config (Sample.give Sample.financeManager) authState).isOk = true := by
    decide +kernel
  have hactive : (⟨.APPROVE, .APPROVAL, .GLOBAL, true⟩ : Permission) ∈
      (directory.loadRole Sample.financeManager).permissions := by decide +kernel
  exact ⟨Transaction.exists_of_isOk haccepted, by decide +kernel, by decide +kernel,
    ⟨_, hactive, rfl, rfl⟩, by decide +kernel⟩

end Expentra.RoleAssignment
