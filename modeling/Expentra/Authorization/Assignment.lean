-- SUMMARY: Who may give which permissions away: the checks on assigning a role and on editing the permissions of one.
import Expentra.Identity.Directory

/-!
# Giving permissions away

A role is edited under `assertCanAssignPermissions`, which asks for every permission of
the new list whether the actor has it, and refuses pairs that must stay apart. A role is
assigned under `assertCanAssignRole`, which asks about the super admin role alone.

The first check asks one question for each permission of the list, while a permission
answers many: `permissionGrants_trans` says that who passes the question has all the
answers.
-/

namespace Expentra

/-- What a stored permission grants. -/
def Permission.grant (p : Permission) : AuthUserPermission := ⟨p.action, p.resource, p.scope⟩

/-- Permission pairs that must not coexist on a single role (separation of duties). -/
def SEPARATION_OF_DUTIES_CONFLICTS : List (String × String) :=
  [("expense.submit", "approval.approve"), ("expense.submit", "approval.reject")]

/-- The first pair of the rules whose names are both there. -/
def findConflict (permissions : List PermissionRow) : Option (String × String) :=
  let names := permissions.map (·.name)
  SEPARATION_OF_DUTIES_CONFLICTS.find? (fun pair => pair.1 ∈ names ∧ pair.2 ∈ names)

def assertNoSeparationOfDutiesConflicts (permissions : List PermissionRow) :
    Except HttpException Unit :=
  match findConflict permissions with
  | some (left, right) => .error (.forbidden ("Permissions \"" ++ left ++ "\" and \"" ++ right ++
      "\" cannot be assigned to the same role (separation of duties)"))
  | none => .ok ()

/-- A role with these permissions breaks one of the rules. -/
def HasConflict (permissions : List PermissionRow) : Prop :=
  ∃ pair ∈ SEPARATION_OF_DUTIES_CONFLICTS,
    (∃ p ∈ permissions, p.name = pair.1) ∧ ∃ p ∈ permissions, p.name = pair.2

namespace PermissionAssignmentPolicy

/-- The first permission of the list that the actor does not have. -/
def findUnassignable (actor : AuthUser) (permissions : List PermissionRow) : Option PermissionRow :=
  permissions.find? (fun p =>
    !hasPermission actor p.permission.action p.permission.resource (some p.permission.scope))

def assertCanAssignPermissions (actor : AuthUser) (permissions : List PermissionRow) :
    Except HttpException Unit :=
  match (if isSuperAdminUser actor then none else findUnassignable actor permissions) with
  | some p => .error (.forbidden ("You cannot assign permission \"" ++ p.name ++ "\""))
  | none => assertNoSeparationOfDutiesConflicts permissions

end PermissionAssignmentPolicy

def assertCanAssignRole (actor : AuthUser) (role : RoleRow) : Except HttpException Unit :=
  if role.name ≠ "super_admin" then .ok ()
  else if !isSuperAdminUser actor then
    .error (.forbidden "Only super administrators can assign the super admin role")
  else .ok ()

/-! ## What a permission covers -/

section Cover

variable {p q : AuthUserPermission} {action : PermissionAction} {resource : PermissionResource}
  {scope : Option PermissionScope} {actor : AuthUser} {permissions : List PermissionRow}

/-- The scope rules of a permission that does not manage. -/
def scopeRules (permissionScope : PermissionScope) (action : PermissionAction)
    (resource : PermissionResource) (scope : Option PermissionScope) : Prop :=
  (scope = none → resource = .BUDGET → action = .READ → permissionScope ≠ .SELF) ∧
    permissionScopeAllows ⟨action, resource, permissionScope⟩ action resource = true

/-- The scope rules look at the scope of a permission alone. -/
theorem permissionScopeAllows_eq :
    permissionScopeAllows p action resource =
      permissionScopeAllows ⟨action, resource, p.scope⟩ action resource := rfl

/-- A permission grants what it matches in action, resource and scope, and, unless it
    manages, only within the scope rules. -/
theorem permissionGrants_iff :
    permissionGrants p action resource scope = true ↔
      (p.action = .MANAGE ∨ p.action = action) ∧ (p.resource = .ALL ∨ p.resource = resource) ∧
      (scope = none ∨ scope = some p.scope) ∧
      (p.action ≠ .MANAGE → scopeRules p.scope action resource scope) := by
  by_cases hmanage : p.action = .MANAGE
  · simp only [permissionGrants, actionAndResourceMatch, hmanage]
    by_cases hresource : p.resource = .ALL ∨ p.resource = resource
    · simp [hresource]
    · simp [hresource]
  · by_cases haction : p.action = action
    · by_cases hresource : p.resource = .ALL ∨ p.resource = resource
      · by_cases hscope : scope = none ∨ scope = some p.scope
        · have hscope' : (decide (scope = none) || decide (scope = some p.scope)) = true := by
            simpa using hscope
          simp only [permissionGrants, actionAndResourceMatch, scopeRules, permissionScopeAllows_eq]
          subst haction
          simp [hmanage, hresource, hscope, hscope', imp_iff_not_or, or_assoc]
        · simp [permissionGrants, hmanage, hscope]
      · simp [permissionGrants, actionAndResourceMatch, hmanage, hresource]
    · simp [permissionGrants, actionAndResourceMatch, hmanage, haction]

/-- Who is granted a permission as a query of its own is granted all that it grants. -/
theorem permissionGrants_trans (hq : permissionGrants q p.action p.resource (some p.scope) = true)
    (hp : permissionGrants p action resource scope = true) :
    permissionGrants q action resource scope = true := by
  rw [permissionGrants_iff] at hq hp ⊢
  obtain ⟨hqaction, hqresource, hqscope, -⟩ := hq
  obtain ⟨hpaction, hpresource, hpscope, hprules⟩ := hp
  have hscope : p.scope = q.scope := by simpa using hqscope
  refine ⟨?_, ?_, hscope ▸ hpscope, fun hmanage => ?_⟩
  · rcases hqaction with hqaction | hqaction
    · exact .inl hqaction
    · exact hqaction ▸ hpaction
  · rcases hqresource with hqresource | hqresource
    · exact .inl hqresource
    · exact hqresource ▸ hpresource
  · -- `q` does not manage, so it names the action that `p` names
    have hpmanage : p.action ≠ .MANAGE := by
      rcases hqaction with hqaction | hqaction
      · exact absurd hqaction hmanage
      · exact hqaction ▸ hmanage
    exact hscope ▸ hprules hpmanage

/-- An actor that has the permission as such has whatever the permission grants. -/
theorem hasPermission_of_grants
    (hactor : hasPermission actor p.action p.resource (some p.scope) = true)
    (hp : permissionGrants p action resource scope = true) :
    hasPermission actor action resource scope = true := by
  unfold hasPermission at hactor ⊢
  rw [Bool.or_eq_true] at hactor ⊢
  refine hactor.imp id (fun hany => ?_)
  obtain ⟨q, hq, hgrants⟩ := List.any_eq_true.1 hany
  exact List.any_eq_true.2 ⟨q, hq, permissionGrants_trans hgrants hp⟩

/-! ## What the checks let through -/

theorem findConflict_eq_none : findConflict permissions = none ↔ ¬ HasConflict permissions := by
  unfold findConflict HasConflict
  rw [List.find?_eq_none]
  simp only [List.mem_map, decide_eq_true_eq, not_exists, not_and]

theorem assertNoSeparationOfDutiesConflicts_eq_ok {u : Unit} :
    assertNoSeparationOfDutiesConflicts permissions = .ok u ↔ ¬ HasConflict permissions := by
  rw [← findConflict_eq_none, assertNoSeparationOfDutiesConflicts]
  split
  · rename_i hconflict
    simp [hconflict]
  · rename_i hnone
    simp [hnone]

/-- The check on a list is the check on each permission, and the rules. -/
theorem PermissionAssignmentPolicy.assertCanAssignPermissions_eq_ok {u : Unit} :
    assertCanAssignPermissions actor permissions = .ok u ↔
      (isSuperAdminUser actor = false → ∀ p ∈ permissions,
        hasPermission actor p.permission.action p.permission.resource
          (some p.permission.scope) = true) ∧
      ¬ HasConflict permissions := by
  rw [← assertNoSeparationOfDutiesConflicts_eq_ok (u := u), assertCanAssignPermissions]
  cases hadmin : isSuperAdminUser actor with
  | true => simp
  | false =>
    cases hfind : findUnassignable actor permissions with
    | some p =>
      have hp : p ∈ permissions := List.mem_of_find?_eq_some hfind
      have hrefused : hasPermission actor p.permission.action p.permission.resource
          (some p.permission.scope) = false := by simpa using List.find?_some hfind
      simp only [Bool.false_eq_true, if_false, reduceCtorEq, false_iff, not_and]
      intro hall
      rw [hall trivial p hp] at hrefused
      cases hrefused
    | none =>
      have hall := List.find?_eq_none.1 hfind
      simp only [Bool.not_eq_true', Bool.not_eq_false] at hall
      simp only [Bool.false_eq_true, if_false, forall_const]
      exact ⟨fun h => ⟨hall, h⟩, And.right⟩

/-- The check on assigning a role asks about the super admin role alone. -/
theorem assertCanAssignRole_eq_ok {role : RoleRow} {u : Unit} :
    assertCanAssignRole actor role = .ok u ↔
      (role.name = "super_admin" → isSuperAdminUser actor = true) := by
  unfold assertCanAssignRole
  by_cases hname : role.name = "super_admin"
  · cases hadmin : isSuperAdminUser actor <;> simp [hname]
  · simp [hname]

end Cover

/-! ## Editing a role does not escalate -/

/-- An accepted list grants nothing that the actor does not have, and keeps duties
    separate. -/
theorem edit_does_not_escalate (actor : AuthUser) (permissions : List PermissionRow)
    (haccepted : PermissionAssignmentPolicy.assertCanAssignPermissions actor permissions = .ok ()) :
    (isSuperAdminUser actor = false → ∀ action resource scope,
      (∃ p ∈ permissions, permissionGrants p.permission.grant action resource scope = true) →
        hasPermission actor action resource scope = true) ∧
    ¬ HasConflict permissions := by
  obtain ⟨hall, hconflict⟩ :=
    PermissionAssignmentPolicy.assertCanAssignPermissions_eq_ok.1 haccepted
  refine ⟨fun hadmin action resource scope => ?_, hconflict⟩
  rintro ⟨p, hp, hgrants⟩
  exact hasPermission_of_grants (hall hadmin p hp) hgrants

/-- An auditor who manages approvals hands out the decision on them. -/
theorem edit_does_not_escalate_sample :
    let actor : AuthUser := ⟨7, "USR1700000000000AAAAAA", "auditor@expentra.io", "auditor", 3, true,
      none, true, none, [], [⟨.MANAGE, .APPROVAL, .GLOBAL⟩]⟩
    let decision : PermissionRow := ⟨1, "PER1700000000000AAAAAA", "approval.approve",
      ⟨.APPROVE, .APPROVAL, .GLOBAL, true⟩⟩
    hasPermission actor .APPROVE .APPROVAL none = true ∧ ¬ HasConflict [decision] := by
  intro actor decision
  obtain ⟨hgrants, hconflict⟩ := edit_does_not_escalate actor [decision] (by rfl)
  exact ⟨hgrants rfl .APPROVE .APPROVAL none ⟨decision, List.mem_cons_self, rfl⟩, hconflict⟩

end Expentra
