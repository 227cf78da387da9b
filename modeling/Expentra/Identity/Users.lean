-- SUMMARY: The user service: profiles, suspension and activation, updates by an administrator, and email verification.
import Expentra.Authorization.Assignment
import Expentra.Identity.Departments

/-!
# Users

Most operations of the service load a user, change the object and save it back. `save`
reads the row again and writes every column in which the object differs, so that an
object loaded earlier writes back what it was loaded with. Verification of the email,
passwords and identities are written by `update`, which names its columns.
-/

namespace Expentra

open Library

/-- A user as `findOne` loads it; the password is not selected. -/
structure UserEntity where
  id : Nat
  reference : String
  email : String
  authProvider : String
  externalId : Property String
  firstName : Property String
  lastName : Property String
  avatarUrl : Property String
  isActive : Bool
  isEmailVerified : Bool
  emailVerifiedAt : Property Instant
  roleId : Property Nat
  departmentId : Property Nat
  deactivatedAt : Property Instant
deriving DecidableEq, Repr

def UserRow.toEntity (row : UserRow) : UserEntity where
  id := row.id
  reference := row.reference
  email := row.email
  authProvider := row.authProvider
  externalId := .ofColumn row.externalId
  firstName := .ofColumn row.firstName
  lastName := .ofColumn row.lastName
  avatarUrl := .ofColumn row.avatarUrl
  isActive := row.isActive
  isEmailVerified := row.isEmailVerified
  emailVerifiedAt := .ofColumn row.emailVerifiedAt
  roleId := .ofColumn row.roleId
  departmentId := .ofColumn row.departmentId
  deactivatedAt := .ofColumn row.deactivatedAt

/-- The row after `save(user)`. No service assigns a reference. -/
def UserRow.save (row : UserRow) (user : UserEntity) : UserRow :=
  { row with
    email := user.email
    authProvider := user.authProvider
    externalId := user.externalId.save row.externalId
    firstName := user.firstName.save row.firstName
    lastName := user.lastName.save row.lastName
    avatarUrl := user.avatarUrl.save row.avatarUrl
    isActive := user.isActive
    isEmailVerified := user.isEmailVerified
    emailVerifiedAt := user.emailVerifiedAt.save row.emailVerifiedAt
    roleId := user.roleId.save row.roleId
    departmentId := user.departmentId.save row.departmentId
    deactivatedAt := user.deactivatedAt.save row.deactivatedAt }

/-- The state with a row in the place of the one with its id. -/
def AuthState.setUser (s : AuthState) (row : UserRow) : AuthState :=
  { s with directory := { s.directory with users := s.directory.users.replace row } }

structure UpdateProfileInput where
  firstName : Option String
  lastName : Option String
deriving DecidableEq, Repr

/-- `departmentReference` is `null` to leave the department. -/
structure AdminUpdateUserInput where
  roleReference : Option String
  departmentReference : Property String
  isActive : Option Bool
deriving DecidableEq, Repr

namespace UserService

/-! ## Loading and writing -/

def findOne (d : Directory) (id : Nat) : Except HttpException UserEntity :=
  match d.users.find? id with
  | some row => .ok row.toEntity
  | none => .error (.notFound "User not found")

/-- `update({ id }, …)`, with the columns as a function of the row. -/
def updateRow (id : Nat) (columns : UserRow → UserRow) : AuthTx Unit :=
  Transaction.write (fun s =>
    match s.directory.users.find? id with
    | some row => s.setUser (columns row)
    | none => s)

/-- `save(user)`; the row of a user is never deleted. -/
def saveUser (user : UserEntity) : AuthTx Unit := updateRow user.id (fun row => row.save user)

/-- Every session of a user: `delByPattern('auth:refresh:${reference}:*')`. -/
def revokeSessions (reference : String) : AuthTx Unit :=
  Transaction.write (fun s => { s with
    refreshKeys := s.refreshKeys.delByPattern (fun key => decide (key.1 = reference))
    graceKeys := s.graceKeys.delByPattern (fun key => decide (key.1 = reference)) })

def handleUserActiveStateChanged (user : UserEntity) : AuthTx Unit :=
  if !user.isActive then revokeSessions user.reference else pure ()

/-! ## What the operations do to a loaded user -/

def assertCanChangeUserActiveState (actorId targetUserId : Nat) (isActive : Bool) :
    Except HttpException Unit :=
  if actorId ≠ targetUserId then .ok ()
  else if !isActive then .error (.badRequest "You cannot deactivate your own account")
  else .error (.badRequest "You cannot activate your own account")

def hasProfileFields (input : UpdateProfileInput) : Bool :=
  input.firstName.isSome || input.lastName.isSome

def hasAdminUpdateFields (input : AdminUpdateUserInput) : Bool :=
  input.roleReference.isSome || input.departmentReference ≠ .undefined || input.isActive.isSome

/-- A name of the profile, `input.trim() || undefined` when it was sent. -/
def editedName (input : Option String) (current : Property String) : Property String :=
  match input with
  | some name => .ofOptional (Js.trimmedOrUndefined (some name))
  | none => current

/-- The assignments of `updateProfile`. -/
def editProfile (input : UpdateProfileInput) (user : UserEntity) : UserEntity :=
  { user with
    firstName := editedName input.firstName user.firstName
    lastName := editedName input.lastName user.lastName }

/-- The check and the assignments of `suspendUser`. -/
def suspend (now : Instant) (user : UserEntity) : Except HttpException UserEntity :=
  if !user.isActive then .error (.badRequest "User account is already suspended")
  else .ok { user with isActive := false, deactivatedAt := .value now }

/-- The check and the assignments of `activateUser`. -/
def activate (user : UserEntity) : Except HttpException UserEntity :=
  if user.isActive && user.deactivatedAt.toOption.isNone then
    .error (.badRequest "User account is already active")
  else .ok { user with isActive := true, deactivatedAt := .null }

/-- The role of a request, checked and assigned. -/
def assignRole (d : Directory) (actor : AuthUser) (roleReference : Option String)
    (user : UserEntity) : Except HttpException UserEntity :=
  match roleReference with
  | none => .ok user
  | some roleReference => do
    let role ← findEntityByReference d.roles.rows (·.reference) roleReference "Role not found"
    assertCanAssignRole actor role
    pure { user with roleId := .value role.id }

/-- The department of a request. Leaving one makes the property `undefined`. -/
def assignDepartment (d : Directory) (departmentReference : Property String) (user : UserEntity) :
    Except HttpException UserEntity :=
  match departmentReference with
  | .undefined => .ok user
  | .null => .ok { user with departmentId := .undefined }
  | .value departmentReference => do
    let department ← DepartmentService.findOne d.db departmentReference
    if !department.isActive then .error (.notFound "Department not found")
    else pure { user with departmentId := .value department.id }

/-- The active flag of a request, and whether the user was changed for it. -/
def assignActiveState (now : Instant) (actorId : Nat) (isActive : Option Bool) (user : UserEntity) :
    Except HttpException (UserEntity × Bool) :=
  match isActive with
  | none => .ok (user, false)
  | some isActive => do
    assertCanChangeUserActiveState actorId user.id isActive
    if user.isActive ≠ isActive then
      pure ({ user with
        isActive := isActive
        deactivatedAt := if isActive then .null else .value now }, true)
    else if isActive && user.deactivatedAt.toOption.isSome then
      pure ({ user with deactivatedAt := .null }, true)
    else pure (user, false)

/-- A manager stays in the department as long as decisions are pending. -/
def assertCanLeave (d : Directory) (input : AdminUpdateUserInput) (user edited : UserEntity) :
    Except HttpException Unit :=
  match user.departmentId.toOption.filter (· ≠ 0) with
  | some previousDepartmentId =>
    if input.departmentReference ≠ .undefined ∧ edited.departmentId ≠ .value previousDepartmentId then
      DepartmentService.assertManagerCanLeaveDepartment d.db previousDepartmentId user.id
    else .ok ()
  | none => .ok ()

/-- All assignments of `adminUpdate`, and the check on leaving a department. -/
def adminEdit (d : Directory) (now : Instant) (actor : AuthUser) (input : AdminUpdateUserInput)
    (user : UserEntity) : Except HttpException (UserEntity × Bool) := do
  let withRole ← assignRole d actor input.roleReference user
  let withDepartment ← assignDepartment d input.departmentReference withRole
  let (edited, activeStateChanged) ← assignActiveState now actor.id input.isActive withDepartment
  assertCanLeave d input user edited
  pure (edited, activeStateChanged)

/-! ## The operations -/

def updateProfile (id : Nat) (input : UpdateProfileInput) : AuthTx Unit := do
  Transaction.require (hasProfileFields input = true)
    (.badRequest "At least one field must be provided to update your profile")
  let user ← Transaction.query (fun s : AuthState => findOne s.directory id)
  saveUser (editProfile input user)

def suspendUser (now : Instant) (actorId targetUserId : Nat) : AuthTx Unit := do
  Transaction.query (fun _ : AuthState => assertCanChangeUserActiveState actorId targetUserId false)
  let user ← Transaction.query (fun s : AuthState => findOne s.directory targetUserId)
  let suspended ← Transaction.query (fun _ : AuthState => suspend now user)
  saveUser suspended
  AuthContextCache.invalidate suspended.reference
  handleUserActiveStateChanged suspended

def activateUser (actorId targetUserId : Nat) : AuthTx Unit := do
  Transaction.query (fun _ : AuthState => assertCanChangeUserActiveState actorId targetUserId true)
  let user ← Transaction.query (fun s : AuthState => findOne s.directory targetUserId)
  let activated ← Transaction.query (fun _ : AuthState => activate user)
  saveUser activated
  AuthContextCache.invalidate activated.reference
  handleUserActiveStateChanged activated

/-- The transaction of `adminUpdate`. -/
def saveAdminUpdate (cfg : Config) (input : AdminUpdateUserInput)
    (previousDepartmentId : Option Nat) (edited : UserEntity) : AuthTx Unit := do
  saveUser edited
  if input.departmentReference ≠ .undefined then
    DepartmentService.applyWithinTransaction cfg edited.id previousDepartmentId
      edited.departmentId.toOption
  else pure ()

def adminUpdate (cfg : Config) (now : Instant) (actor : AuthUser) (targetUserId : Nat)
    (input : AdminUpdateUserInput) : AuthTx Unit := do
  Transaction.require (hasAdminUpdateFields input = true)
    (.badRequest "At least one field must be provided to update a user")
  let user ← Transaction.query (fun s : AuthState => findOne s.directory targetUserId)
  let (edited, activeStateChanged) ← Transaction.query (fun s : AuthState =>
    adminEdit s.directory now actor input user)
  saveAdminUpdate cfg input user.departmentId.toOption edited
  AuthContextCache.invalidate edited.reference
  if activeStateChanged then handleUserActiveStateChanged edited else pure ()

def markEmailVerified (now : Instant) (id : Nat) : AuthTx Unit := do
  let user ← Transaction.query (fun s : AuthState => findOne s.directory id)
  updateRow id (fun row => { row with
    emailVerifiedAt := some now, isEmailVerified := true, isActive := true })
  AuthContextCache.invalidate user.reference

def updatePasswordHash (id : Nat) (passwordHash : String) : AuthTx Unit := do
  let user ← Transaction.query (fun s : AuthState => findOne s.directory id)
  updateRow id (fun row => { row with password := some passwordHash })
  AuthContextCache.invalidate user.reference

/-! ## What the operations do -/

section Effects

variable {s s' : AuthState} {u : Unit} {row : UserRow}

theorem findOne_eq_ok {d : Directory} {id : Nat} {user : UserEntity} :
    findOne d id = .ok user ↔ ∃ row, d.users.find? id = some row ∧ row.toEntity = user := by
  unfold findOne
  split
  · rename_i row hrow
    simp [hrow]
  · rename_i hnone
    simp [hnone]

theorem updateRow_eq_ok {id : Nat} {columns : UserRow → UserRow}
    (hrow : s.directory.users.find? id = some row) :
    updateRow id columns s = .ok (u, s') ↔ s' = s.setUser (columns row) := by
  rw [updateRow, Transaction.write_eq_ok, hrow, eq_comm]

theorem saveUser_eq_ok {user : UserEntity} (hrow : s.directory.users.find? user.id = some row) :
    saveUser user s = .ok (u, s') ↔ s' = s.setUser (row.save user) := updateRow_eq_ok hrow

theorem revokeSessions_eq_ok {reference : String} :
    revokeSessions reference s = .ok (u, s') ↔ s' = { s with
      refreshKeys := s.refreshKeys.delByPattern (fun key => decide (key.1 = reference))
      graceKeys := s.graceKeys.delByPattern (fun key => decide (key.1 = reference)) } := by
  rw [revokeSessions, Transaction.write_eq_ok, eq_comm]

/-- What follows a change of the active state touches the keys of sessions alone. -/
theorem handleUserActiveStateChanged_ok {user : UserEntity}
    (h : handleUserActiveStateChanged user s = .ok (u, s')) :
    s' = { s with refreshKeys := s'.refreshKeys, graceKeys := s'.graceKeys } := by
  unfold handleUserActiveStateChanged at h
  split at h
  · rw [revokeSessions_eq_ok.1 h]
  · obtain ⟨-, rfl⟩ := Transaction.pure_eq_ok.1 h
    rfl

/-- The end of an operation: the user is saved, its context is gone, and its sessions
    may be. -/
theorem save_invalidate_handle_ok {user : UserEntity}
    (hrow : s.directory.users.find? user.id = some row)
    (h : (saveUser user >>= fun _ => AuthContextCache.invalidate user.reference >>= fun _ =>
      handleUserActiveStateChanged user) s = .ok (u, s')) :
    s' = { s.setUser (row.save user) with
      contexts := s.contexts.del user.reference
      refreshKeys := s'.refreshKeys
      graceKeys := s'.graceKeys } := by
  obtain ⟨_, s₁, hsave, h⟩ := Transaction.bind_eq_ok.1 h
  obtain ⟨_, s₂, hinvalidate, hhandle⟩ := Transaction.bind_eq_ok.1 h
  cases (saveUser_eq_ok hrow).1 hsave
  cases AuthContextCache.invalidate_eq_ok.1 hinvalidate
  rw [handleUserActiveStateChanged_ok hhandle]
  rfl

theorem assertCanChangeUserActiveState_eq_ok {actorId targetUserId : Nat} {isActive : Bool} :
    assertCanChangeUserActiveState actorId targetUserId isActive = .ok u ↔ actorId ≠ targetUserId := by
  unfold assertCanChangeUserActiveState
  split
  · rename_i hother
    simp [hother]
  · rename_i hself
    split <;> simp [not_not.1 hself]

theorem updateProfile_ok {id : Nat} {input : UpdateProfileInput}
    (h : updateProfile id input s = .ok (u, s')) :
    ∃ row, s.directory.users.find? id = some row ∧
      s' = s.setUser (row.save (editProfile input row.toEntity)) := by
  rw [updateProfile, Transaction.require_bind_eq_ok, Transaction.query_bind_eq_ok] at h
  obtain ⟨-, user, hfind, h⟩ := h
  obtain ⟨row, hrow, rfl⟩ := findOne_eq_ok.1 hfind
  have hid : s.directory.users.find? (editProfile input row.toEntity).id = some row := by
    rw [show (editProfile input row.toEntity).id = row.id from rfl, Table.key_of_find? hrow]
    exact hrow
  exact ⟨row, hrow, (saveUser_eq_ok hid).1 h⟩

theorem suspendUser_ok {now : Instant} {actorId targetUserId : Nat}
    (h : suspendUser now actorId targetUserId s = .ok (u, s')) :
    actorId ≠ targetUserId ∧ ∃ row, s.directory.users.find? targetUserId = some row ∧
      row.isActive = true ∧
      s' = { s.setUser { row with isActive := false, deactivatedAt := some now } with
        contexts := s.contexts.del row.reference
        refreshKeys := s'.refreshKeys
        graceKeys := s'.graceKeys } := by
  rw [suspendUser, Transaction.query_bind_eq_ok] at h
  obtain ⟨_, hactor, h⟩ := h
  rw [Transaction.query_bind_eq_ok] at h
  obtain ⟨user, hfind, h⟩ := h
  rw [Transaction.query_bind_eq_ok] at h
  obtain ⟨suspended, hsuspend, h⟩ := h
  obtain ⟨row, hrow, rfl⟩ := findOne_eq_ok.1 hfind
  unfold suspend at hsuspend
  split at hsuspend
  · cases hsuspend
  · rename_i hactive
    cases hsuspend
    have hid : s.directory.users.find? row.id = some row := by rwa [Table.key_of_find? hrow]
    have hend := save_invalidate_handle_ok hid h
    have hsaved : row.save { row.toEntity with isActive := false, deactivatedAt := .value now } =
        { row with isActive := false, deactivatedAt := some now } := by
      simp [UserRow.save, UserRow.toEntity]
    rw [hsaved] at hend
    exact ⟨assertCanChangeUserActiveState_eq_ok.1 hactor, row, hrow,
      by simpa [UserRow.toEntity] using hactive, hend⟩

theorem activateUser_ok {actorId targetUserId : Nat}
    (h : activateUser actorId targetUserId s = .ok (u, s')) :
    actorId ≠ targetUserId ∧ ∃ row, s.directory.users.find? targetUserId = some row ∧
      s' = { s.setUser { row with isActive := true, deactivatedAt := none } with
        contexts := s.contexts.del row.reference
        refreshKeys := s'.refreshKeys
        graceKeys := s'.graceKeys } := by
  rw [activateUser, Transaction.query_bind_eq_ok] at h
  obtain ⟨_, hactor, h⟩ := h
  rw [Transaction.query_bind_eq_ok] at h
  obtain ⟨user, hfind, h⟩ := h
  rw [Transaction.query_bind_eq_ok] at h
  obtain ⟨activated, hactivate, h⟩ := h
  obtain ⟨row, hrow, rfl⟩ := findOne_eq_ok.1 hfind
  unfold activate at hactivate
  split at hactivate
  · cases hactivate
  · cases hactivate
    have hid : s.directory.users.find? row.id = some row := by rwa [Table.key_of_find? hrow]
    have hend := save_invalidate_handle_ok hid h
    have hsaved : row.save { row.toEntity with isActive := true, deactivatedAt := .null } =
        { row with isActive := true, deactivatedAt := none } := by
      simp [UserRow.save, UserRow.toEntity]
    rw [hsaved] at hend
    exact ⟨assertCanChangeUserActiveState_eq_ok.1 hactor, row, hrow, hend⟩

theorem markEmailVerified_ok {now : Instant} {id : Nat} (h : markEmailVerified now id s = .ok (u, s')) :
    ∃ row, s.directory.users.find? id = some row ∧
      s' = { s.setUser { row with
          emailVerifiedAt := some now, isEmailVerified := true, isActive := true } with
        contexts := s.contexts.del row.reference } := by
  rw [markEmailVerified, Transaction.query_bind_eq_ok] at h
  obtain ⟨user, hfind, h⟩ := h
  obtain ⟨row, hrow, rfl⟩ := findOne_eq_ok.1 hfind
  obtain ⟨_, s₁, hupdate, h⟩ := Transaction.bind_eq_ok.1 h
  cases (updateRow_eq_ok hrow).1 hupdate
  exact ⟨row, hrow, AuthContextCache.invalidate_eq_ok.1 h⟩

theorem updatePasswordHash_ok {id : Nat} {passwordHash : String}
    (h : updatePasswordHash id passwordHash s = .ok (u, s')) :
    ∃ row, s.directory.users.find? id = some row ∧
      s' = { s.setUser { row with password := some passwordHash } with
        contexts := s.contexts.del row.reference } := by
  rw [updatePasswordHash, Transaction.query_bind_eq_ok] at h
  obtain ⟨user, hfind, h⟩ := h
  obtain ⟨row, hrow, rfl⟩ := findOne_eq_ok.1 hfind
  obtain ⟨_, s₁, hupdate, h⟩ := Transaction.bind_eq_ok.1 h
  cases (updateRow_eq_ok hrow).1 hupdate
  exact ⟨row, hrow, AuthContextCache.invalidate_eq_ok.1 h⟩

/-! ### The update by an administrator -/

theorem assignRole_ok {d : Directory} {actor : AuthUser} {roleReference : Option String}
    {user edited : UserEntity} (h : assignRole d actor roleReference user = .ok edited) :
    (roleReference = none ∧ edited = user) ∨ ∃ role ∈ d.roles, roleReference.isSome ∧
      assertCanAssignRole actor role = .ok () ∧ edited = { user with roleId := .value role.id } := by
  unfold assignRole at h
  split at h
  · cases h
    exact .inl ⟨rfl, rfl⟩
  · obtain ⟨role, hfind, h⟩ := Except.bind_eq_ok.1 h
    obtain ⟨_, hassign, h⟩ := Except.bind_eq_ok.1 h
    cases h
    exact .inr ⟨role, (findEntityByReference_eq_ok hfind).1, rfl, hassign, rfl⟩

theorem assignDepartment_ok {d : Directory} {departmentReference : Property String}
    {user edited : UserEntity} (h : assignDepartment d departmentReference user = .ok edited) :
    edited = { user with departmentId := edited.departmentId } ∧
      (departmentReference = .undefined → edited = user) := by
  unfold assignDepartment at h
  split at h
  · cases h
    exact ⟨rfl, fun _ => rfl⟩
  · cases h
    exact ⟨rfl, nofun⟩
  · obtain ⟨department, -, h⟩ := Except.bind_eq_ok.1 h
    split at h
    · cases h
    · cases h
      exact ⟨rfl, nofun⟩

theorem assignActiveState_ok {now : Instant} {actorId : Nat} {isActive : Option Bool}
    {user edited : UserEntity} {changed : Bool}
    (h : assignActiveState now actorId isActive user = .ok (edited, changed)) :
    edited = { user with isActive := edited.isActive, deactivatedAt := edited.deactivatedAt } ∧
      (isActive = none → edited = user) ∧
      (∀ flag, isActive = some flag → actorId ≠ user.id ∧ edited.isActive = flag) := by
  unfold assignActiveState at h
  split at h
  · cases h
    exact ⟨rfl, fun _ => rfl, nofun⟩
  · rename_i flag
    obtain ⟨_, hactor, h⟩ := Except.bind_eq_ok.1 h
    have hother := assertCanChangeUserActiveState_eq_ok.1 hactor
    split at h
    · cases h
      exact ⟨rfl, nofun, fun _ heq => ⟨hother, Option.some.inj heq⟩⟩
    · rename_i hsame
      have hkept : edited.isActive = flag ∧
          edited = { user with isActive := edited.isActive, deactivatedAt := edited.deactivatedAt } := by
        split at h
        · cases h
          exact ⟨not_not.1 hsame, rfl⟩
        · cases h
          exact ⟨not_not.1 hsame, rfl⟩
      exact ⟨hkept.2, nofun, fun _ heq => ⟨hother, hkept.1.trans (Option.some.inj heq)⟩⟩

/-- The assignments of `adminUpdate` one after the other. -/
theorem adminEdit_ok {d : Directory} {now : Instant} {actor : AuthUser}
    {input : AdminUpdateUserInput} {user edited : UserEntity} {changed : Bool}
    (h : adminEdit d now actor input user = .ok (edited, changed)) :
    ∃ withRole withDepartment, assignRole d actor input.roleReference user = .ok withRole ∧
      assignDepartment d input.departmentReference withRole = .ok withDepartment ∧
      assignActiveState now actor.id input.isActive withDepartment = .ok (edited, changed) := by
  obtain ⟨withRole, hrole, h⟩ := Except.bind_eq_ok.1 h
  obtain ⟨withDepartment, hdepartment, h⟩ := Except.bind_eq_ok.1 h
  obtain ⟨⟨edited', changed'⟩, hactive, h⟩ := Except.bind_eq_ok.1 h
  obtain ⟨_, -, h⟩ := Except.bind_eq_ok.1 h
  cases h
  exact ⟨withRole, withDepartment, hrole, hdepartment, hactive⟩

/-- An update by an administrator assigns four fields of the user. -/
theorem adminEdit_fields {d : Directory} {now : Instant} {actor : AuthUser}
    {input : AdminUpdateUserInput} {user edited : UserEntity} {changed : Bool}
    (h : adminEdit d now actor input user = .ok (edited, changed)) :
    edited = { user with
      roleId := edited.roleId
      departmentId := edited.departmentId
      isActive := edited.isActive
      deactivatedAt := edited.deactivatedAt } := by
  obtain ⟨withRole, withDepartment, hrole, hdepartment, hactive⟩ := adminEdit_ok h
  have hroleOnly : withRole = { user with roleId := withRole.roleId } := by
    rcases assignRole_ok hrole with ⟨-, rfl⟩ | ⟨role, -, -, -, rfl⟩ <;> rfl
  rw [(assignActiveState_ok hactive).1, (assignDepartment_ok hdepartment).1, hroleOnly]

/-- The row and the sessions after `adminUpdate`, and the other tables as its transaction
    left them. -/
theorem adminUpdate_ok {cfg : Config} {now : Instant} {actor : AuthUser} {targetUserId : Nat}
    {input : AdminUpdateUserInput} (h : adminUpdate cfg now actor targetUserId input s = .ok (u, s')) :
    ∃ row edited changed s₁, s.directory.users.find? targetUserId = some row ∧
      adminEdit s.directory now actor input row.toEntity = .ok (edited, changed) ∧
      edited.id = row.id ∧ edited.reference = row.reference ∧
      saveAdminUpdate cfg input row.departmentId edited s = .ok ((), s₁) ∧
      s' = { s₁ with
        contexts := s₁.contexts.del row.reference
        refreshKeys := s'.refreshKeys
        graceKeys := s'.graceKeys } := by
  rw [adminUpdate, Transaction.require_bind_eq_ok, Transaction.query_bind_eq_ok] at h
  obtain ⟨-, user, hfind, h⟩ := h
  rw [Transaction.query_bind_eq_ok] at h
  obtain ⟨⟨edited, changed⟩, hedit, h⟩ := h
  obtain ⟨row, hrow, rfl⟩ := findOne_eq_ok.1 hfind
  dsimp only at h
  obtain ⟨_, s₁, hsave, h⟩ := Transaction.bind_eq_ok.1 h
  obtain ⟨_, s₂, hinvalidate, hhandle⟩ := Transaction.bind_eq_ok.1 h
  have hfields := adminEdit_fields hedit
  have hreference : edited.reference = row.reference := by
    rw [hfields]
    rfl
  refine ⟨row, edited, changed, s₁, hrow, hedit, by rw [hfields]; rfl, hreference, ?_, ?_⟩
  · simpa [UserRow.toEntity] using hsave
  · rw [hreference] at hinvalidate
    cases AuthContextCache.invalidate_eq_ok.1 hinvalidate
    split at hhandle
    · rw [handleUserActiveStateChanged_ok hhandle]
    · obtain ⟨-, rfl⟩ := Transaction.pure_eq_ok.1 hhandle
      rfl

/-- The transaction saves the user; what follows touches the contexts of the user alone,
    and no user, no role and no key of a session. -/
theorem saveAdminUpdate_ok {cfg : Config} {input : AdminUpdateUserInput}
    {previousDepartmentId : Option Nat} {edited : UserEntity}
    (hrow : s.directory.users.find? edited.id = some row)
    (h : saveAdminUpdate cfg input previousDepartmentId edited s = .ok (u, s')) :
    Touches (DepartmentService.IsReferenceOf (s.setUser (row.save edited)) edited.id)
      (s.setUser (row.save edited)) s' ∧
      s' = { s.setUser (row.save edited) with
        directory := { (s.setUser (row.save edited)).directory with store := s'.directory.store }
        contexts := s'.contexts } := by
  obtain ⟨_, s₁, hsave, h⟩ := Transaction.bind_eq_ok.1 h
  cases (saveUser_eq_ok hrow).1 hsave
  split at h
  · exact ⟨DepartmentService.applyWithinTransaction_ok h,
      DepartmentService.applyWithinTransaction_frame h⟩
  · obtain ⟨-, rfl⟩ := Transaction.pure_eq_ok.1 h
    exact ⟨.refl, rfl⟩

/-- The row after `adminUpdate`, and all that is not the department's. -/
theorem adminUpdate_frame {cfg : Config} {now : Instant} {actor : AuthUser} {targetUserId : Nat}
    {input : AdminUpdateUserInput} (h : adminUpdate cfg now actor targetUserId input s = .ok (u, s')) :
    ∃ row edited changed, s.directory.users.find? targetUserId = some row ∧
      adminEdit s.directory now actor input row.toEntity = .ok (edited, changed) ∧
      s' = { s with
        directory := { s.directory with
          users := s.directory.users.replace (row.save edited)
          store := s'.directory.store }
        contexts := s'.contexts
        refreshKeys := s'.refreshKeys
        graceKeys := s'.graceKeys } := by
  obtain ⟨row, edited, changed, s₁, hrow, hedit, hid, -, hsave, hstate⟩ := adminUpdate_ok h
  have hfound : s.directory.users.find? edited.id = some row := by
    rwa [hid, Table.key_of_find? hrow]
  refine ⟨row, edited, changed, hrow, hedit, ?_⟩
  rw [hstate, (saveAdminUpdate_ok hfound hsave).2]
  rfl

/-- The role after the assignments of `adminUpdate`. -/
theorem adminEdit_role {d : Directory} {now : Instant} {actor : AuthUser}
    {input : AdminUpdateUserInput} {user edited : UserEntity} {changed : Bool}
    (h : adminEdit d now actor input user = .ok (edited, changed)) :
    (input.roleReference = none ∧ edited.roleId = user.roleId) ∨
      ∃ reference role, input.roleReference = some reference ∧
        findEntityByReference d.roles.rows (·.reference) reference "Role not found" = .ok role ∧
        assertCanAssignRole actor role = .ok () ∧ edited.roleId = .value role.id := by
  obtain ⟨withRole, withDepartment, hrole, hdepartment, hactive⟩ := adminEdit_ok h
  have hkept : edited.roleId = withRole.roleId := by
    rw [(assignActiveState_ok hactive).1, (assignDepartment_ok hdepartment).1]
  rw [hkept]
  unfold assignRole at hrole
  split at hrole
  · rename_i hnone
    cases hrole
    exact .inl ⟨hnone, rfl⟩
  · rename_i reference hsome
    obtain ⟨role, hfind, hrole⟩ := Except.bind_eq_ok.1 hrole
    obtain ⟨_, hassign, hrole⟩ := Except.bind_eq_ok.1 hrole
    cases hrole
    exact .inr ⟨reference, role, hsome, hfind, hassign, rfl⟩

end Effects

end UserService

end Expentra
