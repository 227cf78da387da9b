-- SUMMARY: The ability of a user and the guard that checks it on a route.
import Expentra.Authorization.AccessPolicy

/-!
# Abilities

`AbilityFactory` turns the permissions of a user into an ability, and gives every
department manager the rules to approve and to reject. `AccessGuard` asks the
ability before a route handler runs.
-/

namespace Expentra

structure AbilityRule where
  action : PermissionAction
  subject : PermissionResource
  inverted : Bool
deriving DecidableEq, Repr

structure AppAbility where
  rules : List AbilityRule
  permissions : List AuthUserPermission

namespace AppAbility

def matchesRule (rule : AbilityRule) (action : PermissionAction) (subject : PermissionResource) :
    Bool :=
  (rule.action = .MANAGE || rule.action = action) && (rule.subject = .ALL || rule.subject = subject)

/-- `canOnResource`: the last rule that matches decides, else the permissions. -/
def can (ability : AppAbility) (action : PermissionAction) (subject : PermissionResource) : Bool :=
  match ability.rules.reverse.find? (matchesRule · action subject) with
  | some rule => !rule.inverted
  | none => ability.permissions.any (permissionGrants · action subject none)

end AppAbility

namespace AbilityFactory

def approvalRules : List AbilityRule := [⟨.APPROVE, .APPROVAL, false⟩, ⟨.REJECT, .APPROVAL, false⟩]

/-- `createForUser` -/
def createForUser (user : AuthUser) : AppAbility :=
  if user.role = "" then ⟨[], []⟩
  else if ApprovalAccessPolicy.isManagerApprover user then ⟨approvalRules, user.permissions⟩
  else ⟨[], user.permissions⟩

end AbilityFactory

/-- `AccessGuard` on a route with `@RequirePermission(action, resource)`. -/
def canActivate (user : AuthUser) (action : PermissionAction) (resource : PermissionResource) :
    Except HttpException Unit :=
  if user.role = "" then .error (.forbidden "User not authenticated")
  else if (AbilityFactory.createForUser user).can action resource then .ok ()
  else .error (.forbidden "You do not have permission to perform this action")

/-! ## Abilities against permissions -/

/-- The pairs `createForUser` gives to every manager of a department. -/
def IsDecision (action : PermissionAction) (resource : PermissionResource) : Prop :=
  (action = .APPROVE ∨ action = .REJECT) ∧ resource = .APPROVAL

instance (action : PermissionAction) (resource : PermissionResource) :
    Decidable (IsDecision action resource) := inferInstanceAs (Decidable (_ ∧ _))

section Agreement

variable {user : AuthUser} {action : PermissionAction} {resource : PermissionResource}

theorem find_approvalRules {rule : AbilityRule} :
    (AbilityFactory.approvalRules.reverse.find? (AppAbility.matchesRule · action resource)) = some rule →
      rule.inverted = false ∧ IsDecision action resource := by
  intro h
  have hmem := List.mem_reverse.1 (List.mem_of_find?_eq_some h)
  have hmatch := List.find?_some h
  simp only [AbilityFactory.approvalRules, List.mem_cons, List.not_mem_nil, or_false] at hmem
  rcases hmem with rfl | rfl
  · simp only [AppAbility.matchesRule, Bool.and_eq_true, Bool.or_eq_true, decide_eq_true_eq,
      reduceCtorEq, false_or] at hmatch
    exact ⟨rfl, .inl hmatch.1.symm, hmatch.2.symm⟩
  · simp only [AppAbility.matchesRule, Bool.and_eq_true, Bool.or_eq_true, decide_eq_true_eq,
      reduceCtorEq, false_or] at hmatch
    exact ⟨rfl, .inr hmatch.1.symm, hmatch.2.symm⟩

/-- Any department is enough for both decisions, and apart from that the permissions
    decide. -/
theorem can_iff (hrole : user.role ≠ "") :
    (AbilityFactory.createForUser user).can action resource = true ↔
      (ApprovalAccessPolicy.isManagerApprover user = true ∧ IsDecision action resource) ∨
        user.permissions.any (permissionGrants · action resource none) = true := by
  cases hmanager : ApprovalAccessPolicy.isManagerApprover user with
  | false =>
    simp [AbilityFactory.createForUser, hrole, hmanager, AppAbility.can]
  | true =>
    rw [AbilityFactory.createForUser, if_neg hrole, if_pos hmanager, AppAbility.can]
    cases hfind : AbilityFactory.approvalRules.reverse.find?
        (AppAbility.matchesRule · action resource) with
    | some rule =>
      obtain ⟨hallows, hdecision⟩ := find_approvalRules hfind
      simp [hallows, hdecision]
    | none =>
      have hother : ¬ IsDecision action resource := by
        rintro ⟨rfl | rfl, rfl⟩ <;> cases hfind
      simp [hother]

/-- The guard of a route and the check of a service agree on a pair, if and only if the
    permissions of a super administrator grant what the service allows without them. -/
theorem can_agrees_iff (user : AuthUser) (action : PermissionAction) (resource : PermissionResource)
    (hrole : user.role ≠ "") :
    ((AbilityFactory.createForUser user).can action resource = true ↔
      hasPermission user action resource none = true ∨
        (ApprovalAccessPolicy.isManagerApprover user = true ∧ IsDecision action resource)) ↔
      (isSuperAdminUser user = true →
        user.permissions.any (permissionGrants · action resource none) = true ∨
          (ApprovalAccessPolicy.isManagerApprover user = true ∧ IsDecision action resource)) := by
  rw [can_iff hrole, hasPermission]
  cases isSuperAdminUser user with
  | true =>
    rw [Bool.true_or]
    exact ⟨fun h _ => (h.2 (.inl rfl)).symm, fun h => ⟨fun _ => .inl rfl, fun _ => (h rfl).symm⟩⟩
  | false =>
    rw [Bool.false_or]
    exact ⟨fun _ h => (by cases h), fun _ => or_comm⟩

end Agreement

/-! ## A super administrator without a permission -/

namespace Sample

/-- The permission to read the audit log is switched off. -/
def superAdminRole : Role :=
  ⟨9, "ROL1700000000009AAAAAA", "super_admin",
    [⟨.READ, .EXPENSE, .GLOBAL, true⟩, ⟨.READ, .AUDIT, .GLOBAL, false⟩]⟩

def superAdmin : User :=
  ⟨9, "USR1700000000009AAAAAA", "admin@expentra.test", none, true, true, none, some superAdminRole⟩

end Sample

/-- The service lets a super administrator read the audit log, and the route does not. -/
theorem super_admin_disagrees :
    ¬ ((AbilityFactory.createForUser (toAuthUser Sample.superAdmin [])).can .READ .AUDIT = true ↔
      hasPermission (toAuthUser Sample.superAdmin []) .READ .AUDIT none = true ∨
        (ApprovalAccessPolicy.isManagerApprover (toAuthUser Sample.superAdmin []) = true ∧
          IsDecision .READ .AUDIT)) := by
  decide

theorem can_agrees_iff_sample :
    ((AbilityFactory.createForUser (toAuthUser Sample.superAdmin [1])).can .APPROVE .APPROVAL = true ↔
      hasPermission (toAuthUser Sample.superAdmin [1]) .APPROVE .APPROVAL none = true ∨
        (ApprovalAccessPolicy.isManagerApprover (toAuthUser Sample.superAdmin [1]) = true ∧
          IsDecision .APPROVE .APPROVAL)) ↔
      (isSuperAdminUser (toAuthUser Sample.superAdmin [1]) = true →
        (toAuthUser Sample.superAdmin [1]).permissions.any
            (permissionGrants · .APPROVE .APPROVAL none) = true ∨
          (ApprovalAccessPolicy.isManagerApprover (toAuthUser Sample.superAdmin [1]) = true ∧
            IsDecision .APPROVE .APPROVAL)) :=
  can_agrees_iff (toAuthUser Sample.superAdmin [1]) .APPROVE .APPROVAL (by decide)

end Expentra
