-- SUMMARY: The role service: renaming a role, and setting its permissions from a list or from a template.
import Expentra.Identity.Users

/-!
# Roles

`setPermissions` checks the new list on its own and then applies it as a difference: the
permissions the role was loaded with are removed, and those of the list are added.
`update` saves the role with the permissions it was loaded with. Both invalidate the
contexts of the users that have the role.
-/

namespace Expentra

open Library

/-- Replace every maximal run of characters that satisfy `p` by one character. -/
def Js.replaceRuns (p : Char → Bool) (replacement : Char) (inRun : Bool) : List Char → List Char
  | [] => []
  | c :: rest =>
    if p c then
      if inRun then replaceRuns p replacement true rest
      else replacement :: replaceRuns p replacement true rest
    else c :: replaceRuns p replacement false rest

def normalizeRoleName (value : String) : String :=
  let text := (Js.toLowerCase (Js.trim value)).toList
  let joined := Js.replaceRuns (fun c => Js.isWhitespace c || c = '-') '_' false text
  let kept := joined.filter (fun c => c.isLower || c.isDigit || c = '_')
  let collapsed := Js.replaceRuns (· = '_') '_' false kept
  String.ofList (((collapsed.dropWhile (· = '_')).reverse.dropWhile (· = '_')).reverse)

example : normalizeRoleName " Finance -- Manager (EU)_" = "finance_manager_eu" := by decide +kernel

structure UpdateRoleInput where
  name : Option String
  description : Option String
deriving DecidableEq, Repr

/-! ## Templates -/

structure RoleTemplate where
  key : String
  name : String
  permissionNames : List String

/-- Default self-service permissions for staff and managers. -/
def STAFF_PERMISSION_NAMES : List String :=
  ["expense.create", "expense.read.own", "expense.update", "expense.delete", "expense.submit",
    "receipt.upload", "receipt.read", "receipt.delete", "notification.read.own",
    "notification.update.own", "notification.mark.own", "dashboard.read.own"]

def HR_ADMIN_PERMISSION_NAMES : List String :=
  ["notification.read.own", "notification.update.own", "notification.mark.own",
    "dashboard.read.own", "user.read", "user.update", "department.read", "department.create",
    "department.update"]

def FINANCE_MANAGER_PERMISSION_NAMES : List String :=
  ["notification.read.own", "notification.update.own", "notification.mark.own",
    "approval.approve", "approval.reject", "expense.read.all", "expense.reimburse",
    "receipt.read.all", "report.read", "report.export", "budget.read", "policy.read",
    "policy.create", "policy.update", "policy.delete", "audit.read"]

def PLATFORM_ADMIN_PERMISSION_NAMES : List String :=
  ["notification.read.own", "notification.update.own", "notification.mark.own",
    "dashboard.read.own", "role.create", "role.read", "role.update", "role.delete",
    "approval_level.create", "approval_level.read", "approval_level.update",
    "approval_level.delete", "audit.read"]

/-- Starter permission sets for custom roles. -/
def ROLE_TEMPLATES : List RoleTemplate :=
  [⟨"staff", "Staff (self-service)", STAFF_PERMISSION_NAMES⟩,
    ⟨"hr_admin", "HR administrator", HR_ADMIN_PERMISSION_NAMES⟩,
    ⟨"finance_manager", "Finance manager", FINANCE_MANAGER_PERMISSION_NAMES⟩,
    ⟨"platform_admin", "Platform administrator", PLATFORM_ADMIN_PERMISSION_NAMES⟩]

def findRoleTemplate (key : String) : Option RoleTemplate := ROLE_TEMPLATES.find? (·.key = key)

namespace RoleService

/-! ## Loading and checking -/

/-- The role with the permissions it has. -/
def findOne (d : Directory) (reference : String) : Except HttpException RoleRow :=
  findEntityByReference d.roles.rows (·.reference) reference "Role not found"

def assertNotSystemRole (role : RoleRow) (action : String) : Except HttpException Unit :=
  if role.name = "super_admin" then
    .error (.forbidden ("Cannot " ++ action ++ " the super admin role"))
  else .ok ()

def assertValidRoleName (name : String) : Except HttpException Unit :=
  if name = "" then .error (.badRequest "Role name cannot be empty") else .ok ()

/-- Another role has the name. -/
def nameTaken (d : Directory) (name : String) (excludeId : Nat) : Bool :=
  d.roles.rows.any (fun role => role.name = name && role.id ≠ excludeId)

def assertNameAvailable (d : Directory) (name : String) (excludeId : Nat) :
    Except HttpException Unit :=
  if nameTaken d name excludeId then .error (.conflict "Role name already exists") else .ok ()

/-- The name of a request, checked. -/
def resolveName (d : Directory) (role : RoleRow) (input : Option String) :
    Except HttpException String :=
  match input with
  | none => .ok role.name
  | some input => do
    let name := normalizeRoleName input
    assertValidRoleName name
    if name ≠ role.name then assertNameAvailable d name role.id else .ok ()
    pure name

/-- The assignments of `update`. -/
def edit (d : Directory) (input : UpdateRoleInput) (role : RoleRow) : Except HttpException RoleRow := do
  assertNotSystemRole role "update"
  let name ← resolveName d role input.name
  pure { role with name := name, description := (input.description.map Js.trim).or role.description }

/-- The permissions with the references, all of them active. -/
def resolvePermissions (d : Directory) : List String → Except HttpException (List PermissionRow)
  | [] => .ok []
  | reference :: rest => do
    let permission ← findEntityByReference d.permissions.rows (·.reference) reference
      "One or more permissions are invalid or inactive"
    if !permission.permission.isActive then
      .error (.badRequest "One or more permissions are invalid or inactive")
    else do
      let others ← resolvePermissions d rest
      pure (permission :: others)

/-- The list of `setPermissions`, resolved and checked on its own. -/
def resolveAssignable (d : Directory) (actor : AuthUser) (role : RoleRow)
    (permissionReferences : List String) : Except HttpException (List PermissionRow) := do
  assertNotSystemRole role "assign permissions to"
  let permissions ← resolvePermissions d
    (permissionReferences.map normalizeEntityReference).eraseDups
  PermissionAssignmentPolicy.assertCanAssignPermissions actor permissions
  pure permissions

def resolvePermissionsByNames (d : Directory) (names : List String) :
    Except HttpException (List PermissionRow) :=
  let permissions := d.permissions.rows.filter (fun p => p.permission.isActive && p.name ∈ names)
  let missing := names.filter (fun name => permissions.all (·.name ≠ name))
  if missing ≠ [] then
    .error (.badRequest ("Role template references unknown permissions: " ++ ", ".intercalate missing))
  else .ok permissions

/-- The references `applyTemplate` hands to `setPermissions`. -/
def templateReferences (d : Directory) (templateKey : String) : Except HttpException (List String) :=
  match findRoleTemplate templateKey with
  | none => .error (.badRequest "Invalid role template")
  | some template => do
    let permissions ← resolvePermissionsByNames d template.permissionNames
    pure (permissions.map (·.reference))

/-! ## Writing -/

/-- The state with a role in the place of the one with its id. -/
def setRole (s : AuthState) (role : RoleRow) : AuthState :=
  { s with directory := { s.directory with roles := s.directory.roles.replace role } }

/-- `save(role)`: the columns, and the join table made equal to the loaded permissions.
    The unique index on the name refuses a name that is taken. -/
def saveRole (role : RoleRow) : AuthTx Unit := do
  let taken ← Transaction.read (fun s : AuthState => nameTaken s.directory role.name role.id)
  Transaction.require (taken = false) (.conflict "Role name already exists")
  Transaction.write (fun s => setRole s role)

/-- The removals of `addAndRemove`. -/
def removePermissions (roleId : Nat) (removed : List Nat) : AuthTx Unit :=
  Transaction.write (fun s =>
    match s.directory.roles.find? roleId with
    | some role => setRole s { role with
        permissionIds := role.permissionIds.filter (· ∉ removed) }
    | none => s)

/-- The insertions of `addAndRemove`: the primary key refuses a permission the role has. -/
def addPermissions (roleId : Nat) (added : List Nat) : AuthTx Unit := do
  let role ← Transaction.read (fun s : AuthState => s.directory.roles.find? roleId)
  let role ← Transaction.getOrThrow role (.queryFailed "23503")
  Transaction.require (∀ id ∈ added, id ∉ role.permissionIds) (.queryFailed "23505")
  Transaction.write (fun s => setRole s { role with permissionIds := role.permissionIds ++ added })

/-- The contexts of the users that have the role. -/
def invalidateUsersForRole (roleId : Nat) : AuthTx Unit := do
  let affectedUsers ← Transaction.read (fun s : AuthState =>
    s.directory.users.rows.filter (fun user => user.roleId = some roleId))
  AuthContextCache.invalidateMany (affectedUsers.map (·.reference))

/-! ## The operations -/

def update (reference : String) (input : UpdateRoleInput) : AuthTx Unit := do
  let role ← Transaction.query (fun s : AuthState => findOne s.directory reference)
  let edited ← Transaction.query (fun s : AuthState => edit s.directory input role)
  saveRole edited
  invalidateUsersForRole role.id

def setPermissions (actor : AuthUser) (reference : String) (permissionReferences : List String) :
    AuthTx Unit := do
  let role ← Transaction.query (fun s : AuthState => findOne s.directory reference)
  let permissions ← Transaction.query (fun s : AuthState =>
    resolveAssignable s.directory actor role permissionReferences)
  removePermissions role.id role.permissionIds
  addPermissions role.id (permissions.map (·.id))
  invalidateUsersForRole role.id

/-! ## What the operations do -/

section Effects

variable {s s' : AuthState} {u : Unit} {role : RoleRow}

/-- A user of the role. -/
def HasRole (s : AuthState) (roleId : Nat) (reference : String) : Prop :=
  ∃ row ∈ s.directory.users, row.roleId = some roleId ∧ row.reference = reference

theorem findOne_eq_ok {d : Directory} {reference : String} (h : findOne d reference = .ok role) :
    role ∈ d.roles := (findEntityByReference_eq_ok h).1

theorem edit_eq_ok {d : Directory} {input : UpdateRoleInput} {edited : RoleRow}
    (h : edit d input role = .ok edited) :
    edited = { role with name := edited.name, description := edited.description } := by
  obtain ⟨_, -, h⟩ := Except.bind_eq_ok.1 h
  obtain ⟨_, -, h⟩ := Except.bind_eq_ok.1 h
  cases h
  rfl

theorem saveRole_eq_ok :
    saveRole role s = .ok (u, s') ↔ nameTaken s.directory role.name role.id = false ∧
      s' = setRole s role := by
  rw [saveRole, Transaction.read_bind, Transaction.require_bind_eq_ok, Transaction.write_eq_ok,
    eq_comm (a := s')]

theorem removePermissions_eq_ok {removed : List Nat} (hrole : role ∈ s.directory.roles) :
    removePermissions role.id removed s = .ok (u, s') ↔
      s' = setRole s { role with permissionIds := role.permissionIds.filter (· ∉ removed) } := by
  rw [removePermissions, Transaction.write_eq_ok, Table.find?_of_mem hrole, eq_comm]

theorem addPermissions_eq_ok {added : List Nat} (hrole : role ∈ s.directory.roles) :
    addPermissions role.id added s = .ok (u, s') ↔ (∀ id ∈ added, id ∉ role.permissionIds) ∧
      s' = setRole s { role with permissionIds := role.permissionIds ++ added } := by
  rw [addPermissions, Transaction.read_bind, Table.find?_of_mem hrole,
    Transaction.getOrThrow_bind_eq_ok]
  simp only [Option.some.injEq, exists_eq_left', Transaction.require_bind_eq_ok,
    Transaction.write_eq_ok, eq_comm (a := s')]

/-- A change of a role touches the contexts of its users. -/
theorem touches_setRole {roleId : Nat} (hid : role.id = roleId) :
    Touches (HasRole s roleId) s (setRole s role) := by
  subst hid
  refine ⟨fun _ _ hc => hc, fun reference htouched => ?_⟩
  refine Directory.currentContext_replaceRole (fun row hrow hroleId => htouched ?_)
  obtain ⟨hmem, hreference⟩ := Directory.of_findRow hrow
  exact ⟨row, hmem, hroleId, hreference⟩

/-- After `invalidateUsersForRole` no user of the role has a cached context. -/
theorem invalidateUsersForRole_ok {roleId : Nat}
    (h : invalidateUsersForRole roleId s = .ok (u, s')) :
    s' = { s with contexts := s'.contexts } ∧
      (∀ reference context, s'.contexts reference = some context →
        s.contexts reference = some context) ∧
    ∀ reference, HasRole s roleId reference → s'.contexts reference = none := by
  rw [invalidateUsersForRole, Transaction.read_bind] at h
  obtain ⟨hframe, hcontexts⟩ := AuthContextCache.invalidateMany_ok h
  refine ⟨hframe, fun reference context hc => ?_, ?_⟩
  · rw [hcontexts] at hc
    split at hc
    · cases hc
    · exact hc
  · rintro reference ⟨row, hrow, hroleId, rfl⟩
    rw [hcontexts]
    refine if_pos ⟨List.mem_map_of_mem (List.mem_filter.2 ⟨hrow, ?_⟩), row.reference_ne⟩
    exact decide_eq_true hroleId

/-- A change of a role, followed by the invalidation, keeps the cache coherent. -/
theorem coherent_of_invalidateUsersForRole {s₁ : AuthState} {roleId : Nat} (hs : s.Coherent)
    (hchange : Touches (HasRole s roleId) s s₁) (husers : s₁.directory.users = s.directory.users)
    (h : invalidateUsersForRole roleId s₁ = .ok (u, s')) : s'.Coherent := by
  obtain ⟨hframe, hheld, hgone⟩ := invalidateUsersForRole_ok h
  have hrest := hchange.trans ⟨hheld, fun _ _ => by rw [hframe]⟩
  refine hrest.coherent (fun reference htouched => hgone reference ?_) hs
  rwa [HasRole, husers]

theorem update_coherent {reference : String} {input : UpdateRoleInput} (hs : s.Coherent)
    (h : update reference input s = .ok (u, s')) : s'.Coherent := by
  rw [update, Transaction.query_bind_eq_ok] at h
  obtain ⟨role, hfind, h⟩ := h
  rw [Transaction.query_bind_eq_ok] at h
  obtain ⟨edited, hedit, h⟩ := h
  obtain ⟨_, s₁, hsave, hinvalidate⟩ := Transaction.bind_eq_ok.1 h
  obtain ⟨-, hsaved⟩ := saveRole_eq_ok.1 hsave
  have hid : edited.id = role.id := by rw [edit_eq_ok hedit]
  refine coherent_of_invalidateUsersForRole hs ?_ ?_ hinvalidate
  · exact hsaved ▸ touches_setRole hid
  · rw [hsaved]
    rfl

theorem setPermissions_coherent {actor : AuthUser} {reference : String}
    {permissionReferences : List String} (hs : s.Coherent)
    (h : setPermissions actor reference permissionReferences s = .ok (u, s')) : s'.Coherent := by
  rw [setPermissions, Transaction.query_bind_eq_ok] at h
  obtain ⟨role, hfind, h⟩ := h
  rw [Transaction.query_bind_eq_ok] at h
  obtain ⟨permissions, -, h⟩ := h
  obtain ⟨_, s₁, hremove, h⟩ := Transaction.bind_eq_ok.1 h
  obtain ⟨_, s₂, hadd, hinvalidate⟩ := Transaction.bind_eq_ok.1 h
  have hrole := findOne_eq_ok hfind
  have hremoved := (removePermissions_eq_ok hrole).1 hremove
  have hremoved_touches : Touches (HasRole s role.id) s s₁ := hremoved ▸ touches_setRole rfl
  have hrole₁ : { role with permissionIds := role.permissionIds.filter (· ∉ role.permissionIds) } ∈
      s₁.directory.roles := by
    have hfound : s.directory.roles.find? role.id = some role := Table.find?_of_mem hrole
    rw [hremoved]
    exact Table.mem_replace_self hfound
  obtain ⟨-, hadded⟩ := (@addPermissions_eq_ok s₁ s₂ () _ _ hrole₁).1 hadd
  have hadded_touches : Touches (HasRole s₁ role.id) s₁ s₂ := hadded ▸ touches_setRole rfl
  have husers : s₁.directory.users = s.directory.users := by
    rw [hremoved]
    rfl
  have htouches : Touches (HasRole s role.id) s s₂ := by
    refine hremoved_touches.trans (hadded_touches.mono (fun reference htouched => ?_))
    rwa [HasRole, husers] at htouched
  refine coherent_of_invalidateUsersForRole hs htouches ?_ hinvalidate
  rw [hadded]
  exact husers

end Effects

end RoleService

end Expentra
