-- SUMMARY: Creating a role, from a template or empty: which failures leave the new role behind.
import Expentra.Identity.RoleCalls
import Expentra.Library.Process

/-!
# Creating roles

`create` saves the new role before it looks at the template. What can fail afterwards, the
template key, its permissions and the right of the actor to assign them, leaves the role
without permissions, and its name taken.
-/

namespace Expentra

open Library

namespace RoleService

/-! ## The operation -/

/-- The id and the reference of a new row. -/
structure NewRole where
  id : Nat
  reference : String
  isReference : isEntityReference reference = true
  normalized : normalizeEntityReference reference = reference

structure CreateRoleInput where
  name : String
  description : Option String
  templateKey : Option String

/-- `assertNameAvailable` without a role to exclude -/
def assertNewNameAvailable (d : Directory) (name : String) : Except HttpException Unit :=
  if d.roles.rows.any (·.name = name) then .error (.conflict "Role name already exists") else .ok ()

/-- The state with another table of roles. -/
def withRoles (s : AuthState) (roles : Table RoleRow.id) : AuthState :=
  { s with directory := { s.directory with roles } }

/-- `save` of a role that was created: the column holds 32 characters, and a violation of a
    unique index, whichever it is, is reported as a taken name. -/
def insertRole (row : RoleRow) : AuthTx Unit := do
  Transaction.require (row.name.length ≤ 32) (.queryFailed "22001")
  let violates ← Transaction.read (fun s : AuthState => s.directory.roles.rows.any (fun role =>
    role.name = row.name || role.reference = row.reference))
  Transaction.require (violates = false) (.conflict "Role name already exists")
  let roles ← Transaction.read (fun s : AuthState => s.directory.roles.insert? row)
  let roles ← Transaction.getOrThrow roles (.conflict "Role name already exists")
  Transaction.write (fun s => withRoles s roles)

/-- The role the repository creates. -/
def newRole (drawn : NewRole) (input : CreateRoleInput) : RoleRow where
  id := drawn.id
  reference := drawn.reference
  name := normalizeRoleName input.name
  description := input.description.map Js.trim
  permissionIds := []

/-- The template branch of `create`. `setPermissions` has no statement that fails once its
    checks have passed, so it counts as one step. -/
def fillFromTemplate (actor : AuthUser) (saved : RoleRow) (templateKey : String) :
    Process AuthState HttpException RoleRow := do
  let permissionReferences ← Process.query (fun s : AuthState =>
    templateReferences s.directory templateKey)
  Process.atomically (setPermissions actor saved.reference permissionReferences)
  Process.query (fun s : AuthState => findOne s.directory saved.reference)

def create (actor : AuthUser) (drawn : NewRole) (input : CreateRoleInput) :
    Process AuthState HttpException RoleRow := do
  let saved := newRole drawn input
  Process.query (fun _ => assertValidRoleName saved.name)
  Process.query (fun s : AuthState => assertNewNameAvailable s.directory saved.name)
  Process.atomically (insertRole saved)
  match input.templateKey.filter (· ≠ "") with
  | some templateKey => fillFromTemplate actor saved templateKey
  | none => pure saved

/-! ## Atomicity -/

/-- A failure stores no role with the name, and a retry finds the name as free as before. -/
def Atomic (actor : AuthUser) (drawn : NewRole) (input : CreateRoleInput) (s : AuthState) : Prop :=
  ∀ e s', create actor drawn input s = (.error e, s') →
    (∀ role ∈ s'.directory.roles, role.name = normalizeRoleName input.name →
      role ∈ s.directory.roles) ∧
    (assertNewNameAvailable s.directory (normalizeRoleName input.name) = .ok () →
      assertNewNameAvailable s'.directory (normalizeRoleName input.name) = .ok ())

/-- The row can be inserted: its name is valid and free, and its id and reference are new. -/
structure Insertable (d : Directory) (row : RoleRow) : Prop where
  name_ne : row.name ≠ ""
  name_length : row.name.length ≤ 32
  name_free : ∀ role ∈ d.roles, role.name ≠ row.name
  reference_free : ∀ role ∈ d.roles, role.reference ≠ row.reference
  id_free : ∀ role ∈ d.roles, role.id ≠ row.id

/-- The template exists, its permissions are there, and the actor may give them to the role. -/
structure Assignable (d : Directory) (actor : AuthUser) (name templateKey : String) : Prop where
  name_ne : name ≠ "super_admin"
  assignable : ∃ template, findRoleTemplate templateKey = some template ∧
    (∀ name ∈ template.permissionNames,
      ∃ p ∈ d.permissions, p.permission.isActive = true ∧ p.name = name) ∧
    ∃ permissions, resolvePermissions d
      (((d.permissions.rows.filter (fun p => p.permission.isActive &&
        p.name ∈ template.permissionNames)).map (·.reference)).map
          normalizeEntityReference).eraseDups = .ok permissions ∧
      (isSuperAdminUser actor = false → ∀ p ∈ permissions, hasPermission actor p.permission.action
        p.permission.resource (some p.permission.scope) = true) ∧
      ¬ HasConflict permissions

section Facts

variable {s s' : AuthState} {row : RoleRow} {u : Unit} {d : Directory} {actor : AuthUser}

theorem insertRole_eq_ok (hname : row.name ≠ "") :
    insertRole row s = .ok (u, s') ↔ Insertable s.directory row ∧
      ∃ roles, s.directory.roles.insert? row = some roles ∧
        s' = withRoles s roles := by
  simp only [insertRole, Transaction.require_bind_eq_ok, Transaction.read_bind,
    Transaction.getOrThrow_bind_eq_ok, Transaction.write_eq_ok]
  constructor
  · rintro ⟨hlength, hfree, roles, hinsert, rfl⟩
    rw [List.any_eq_false] at hfree
    refine ⟨⟨hname, hlength, fun role hrole heq => hfree role hrole ?_,
      fun role hrole heq => hfree role hrole ?_, (Table.insert?_eq_some.1 hinsert).1⟩,
      roles, hinsert, rfl⟩
    · simp [heq]
    · simp [heq]
  · rintro ⟨hinsertable, roles, hinsert, rfl⟩
    refine ⟨hinsertable.name_length, List.any_eq_false.2 (fun role hrole => ?_), roles, hinsert, rfl⟩
    simp [hinsertable.name_free role hrole, hinsertable.reference_free role hrole]

theorem Insertable.insert (h : Insertable d row) : ∃ roles, d.roles.insert? row = some roles := by
  cases hinsert : d.roles.insert? row with
  | some roles => exact ⟨roles, rfl⟩
  | none =>
    obtain ⟨role, hrole, hid⟩ := Table.insert?_eq_none.1 hinsert
    exact absurd hid (h.id_free role hrole)

theorem assertNewNameAvailable_eq_ok {name : String} :
    assertNewNameAvailable d name = .ok () ↔ ∀ role ∈ d.roles, role.name ≠ name := by
  simp [assertNewNameAvailable, Table.mem_iff]

theorem findOne_new {drawn : NewRole} {input : CreateRoleInput} {roles : Table RoleRow.id}
    (h : Insertable s.directory (newRole drawn input))
    (hinsert : s.directory.roles.insert? (newRole drawn input) = some roles) :
    findOne (withRoles s roles).directory (newRole drawn input).reference =
      .ok (newRole drawn input) := by
  have hfind : roles.rows.find? (fun role => role.reference = drawn.reference) =
      some (newRole drawn input) := by
    have hnone : s.directory.roles.rows.find? (fun role => role.reference = drawn.reference) =
        none :=
      List.find?_eq_none.2 (fun role hrole =>
        by simpa [newRole] using h.reference_free role hrole)
    rw [(Table.insert?_eq_some.1 hinsert).2, List.find?_append, hnone]
    simp [newRole]
  rw [findOne, findEntityByReference]
  simp only [newRole, drawn.normalized, drawn.isReference, withRoles, hfind]
  rfl

/-- The references of a template, when all its permissions are there. -/
theorem templateReferences_eq_ok {templateKey : String} {references : List String} :
    templateReferences d templateKey = .ok references ↔
      ∃ template, findRoleTemplate templateKey = some template ∧
        (∀ name ∈ template.permissionNames,
          ∃ p ∈ d.permissions, p.permission.isActive = true ∧ p.name = name) ∧
        references = (d.permissions.rows.filter (fun p => p.permission.isActive &&
          p.name ∈ template.permissionNames)).map (·.reference) := by
  unfold templateReferences
  cases findRoleTemplate templateKey with
  | none => simp
  | some template =>
    simp only [Except.bind_eq_ok, resolvePermissionsByNames, Option.some.injEq, exists_eq_left']
    constructor
    · rintro ⟨permissions, hresolved, hreferences⟩
      split at hresolved
      · cases hresolved
      · rename_i hmissing
        cases hresolved
        cases hreferences
        refine ⟨fun name hname => ?_, rfl⟩
        by_contra hnone
        push Not at hnone
        refine hmissing (List.ne_nil_of_mem (List.mem_filter.2 ⟨hname, ?_⟩))
        refine List.all_eq_true.2 (fun p hp => decide_eq_true ?_)
        obtain ⟨hp, hactive⟩ := List.mem_filter.1 hp
        exact hnone p hp (Bool.and_eq_true_iff.1 hactive).1
    · rintro ⟨hall, rfl⟩
      refine ⟨_, if_neg ?_, rfl⟩
      rw [not_not, List.filter_eq_nil_iff]
      intro name hname hmissing
      obtain ⟨p, hp, hactive, rfl⟩ := hall name hname
      have hlisted : p ∈ d.permissions.rows.filter (fun p => p.permission.isActive &&
          p.name ∈ template.permissionNames) :=
        List.mem_filter.2 ⟨hp, by simp [hactive, hname]⟩
      have hne := List.all_eq_true.1 hmissing p hlisted
      simp at hne

theorem invalidateUsersForRole_total (roleId : Nat) (s : AuthState) :
    ∃ s', invalidateUsersForRole roleId s = .ok ((), s') ∧ s.directory = s'.directory :=
  ⟨_, rfl, rfl⟩

/-- `setPermissions` fails in its checks or not at all. -/
theorem setPermissions_of_checks {reference : String} {role : RoleRow} {references : List String}
    {permissions : List PermissionRow} (hfind : findOne s.directory reference = .ok role)
    (hchecks : resolveAssignable s.directory actor role references = .ok permissions) :
    ∃ s' role', setPermissions actor reference references s = .ok ((), s') ∧
      findOne s'.directory reference = .ok role' := by
  let emptied : RoleRow :=
    { role with permissionIds := role.permissionIds.filter (· ∉ role.permissionIds) }
  have hremoved : removePermissions role.id role.permissionIds s = .ok ((), setRole s emptied) :=
    (removePermissions_eq_ok (findOne_eq_ok hfind)).2 rfl
  have hfind₁ : findOne (setRole s emptied).directory reference = .ok emptied :=
    RoleCalls.findOne_setRole hfind rfl rfl
  let filled : RoleRow :=
    { emptied with permissionIds := emptied.permissionIds ++ permissions.map (·.id) }
  have hnone : ∀ id ∈ permissions.map (·.id), id ∉ emptied.permissionIds := by
    intro id _ hid
    obtain ⟨hmem, hne⟩ := List.mem_filter.1 hid
    exact of_decide_eq_true hne hmem
  have hadded : addPermissions role.id (permissions.map (·.id)) (setRole s emptied) =
      .ok ((), setRole (setRole s emptied) filled) :=
    (addPermissions_eq_ok (findOne_eq_ok hfind₁)).2 ⟨hnone, rfl⟩
  have hfind₂ : findOne (setRole (setRole s emptied) filled).directory reference = .ok filled :=
    RoleCalls.findOne_setRole hfind₁ rfl rfl
  obtain ⟨s', hinvalidate, hframe⟩ := invalidateUsersForRole_total role.id
    (setRole (setRole s emptied) filled)
  refine ⟨s', filled, ?_, hframe ▸ hfind₂⟩
  rw [setPermissions, Transaction.query_bind_eq_ok]
  refine ⟨role, hfind, ?_⟩
  rw [Transaction.query_bind_eq_ok]
  refine ⟨permissions, hchecks, ?_⟩
  rw [Transaction.bind_eq_ok]
  refine ⟨(), _, hremoved, ?_⟩
  rw [Transaction.bind_eq_ok]
  exact ⟨(), _, hadded, hinvalidate⟩

theorem resolveAssignable_eq_ok_iff {role : RoleRow} {references : List String}
    {permissions : List PermissionRow} :
    resolveAssignable d actor role references = .ok permissions ↔ role.name ≠ "super_admin" ∧
      resolvePermissions d (references.map normalizeEntityReference).eraseDups = .ok permissions ∧
      PermissionAssignmentPolicy.assertCanAssignPermissions actor permissions = .ok () := by
  rw [resolveAssignable, Except.bind_eq_ok]
  constructor
  · rintro ⟨_, hsystem, h⟩
    obtain ⟨resolved, hresolved, h⟩ := Except.bind_eq_ok.1 h
    obtain ⟨_, hassignable, h⟩ := Except.bind_eq_ok.1 h
    cases h
    refine ⟨fun hname => ?_, hresolved, hassignable⟩
    rw [assertNotSystemRole, if_pos hname] at hsystem
    cases hsystem
  · rintro ⟨hname, hresolved, hassignable⟩
    exact ⟨(), if_neg hname, Except.bind_eq_ok.2 ⟨_, hresolved, Except.bind_eq_ok.2
      ⟨(), hassignable, rfl⟩⟩⟩

theorem assignable_iff {name templateKey : String} :
    Assignable d actor name templateKey ↔ ∃ references, templateReferences d templateKey =
      .ok references ∧ ∃ permissions, name ≠ "super_admin" ∧
        resolvePermissions d (references.map normalizeEntityReference).eraseDups = .ok permissions ∧
        PermissionAssignmentPolicy.assertCanAssignPermissions actor permissions = .ok () := by
  simp only [PermissionAssignmentPolicy.assertCanAssignPermissions_eq_ok,
    templateReferences_eq_ok]
  constructor
  · rintro ⟨hname, template, hfound, hall, permissions, hresolved, hassignable⟩
    exact ⟨_, ⟨template, hfound, hall, rfl⟩, permissions, hname, hresolved, hassignable⟩
  · rintro ⟨_, ⟨template, hfound, hall, rfl⟩, permissions, hname, hresolved, hassignable⟩
    exact ⟨hname, template, hfound, hall, permissions, hresolved, hassignable⟩

end Facts

/-! ## The template -/

section Template

variable {s : AuthState} {actor : AuthUser} {saved : RoleRow} {templateKey : String}

/-- With a template that can be assigned, the new role is filled. -/
theorem fillFromTemplate_of_assignable (hfind : findOne s.directory saved.reference = .ok saved)
    (h : Assignable s.directory actor saved.name templateKey) :
    ∃ role s', fillFromTemplate actor saved templateKey s = (.ok role, s') := by
  obtain ⟨references, hreferences, permissions, hchecks⟩ := assignable_iff.1 h
  obtain ⟨s', role', hset, hfind'⟩ := setPermissions_of_checks hfind
    (resolveAssignable_eq_ok_iff.2 hchecks)
  refine ⟨role', s', ?_⟩
  simp only [fillFromTemplate, Process.query_bind, hreferences, Process.atomically_bind, hset,
    Process.query, hfind']

/-- Without one, the step fails and leaves the role. -/
theorem fillFromTemplate_of_not_assignable
    (hfind : findOne s.directory saved.reference = .ok saved)
    (h : ¬ Assignable s.directory actor saved.name templateKey) :
    ∃ e, fillFromTemplate actor saved templateKey s = (.error e, s) := by
  rw [fillFromTemplate, Process.query_bind]
  cases hreferences : templateReferences s.directory templateKey with
  | error e => exact ⟨e, rfl⟩
  | ok references =>
    simp only [Process.atomically_bind]
    cases hset : setPermissions actor saved.reference references s with
    | error e => exact ⟨e, rfl⟩
    | ok r =>
      obtain ⟨u, s'⟩ := r
      rw [setPermissions, Transaction.query_bind_eq_ok] at hset
      obtain ⟨role, hrole, hrest⟩ := hset
      rw [Transaction.query_bind_eq_ok] at hrest
      obtain ⟨permissions, hchecks, -⟩ := hrest
      rw [hfind] at hrole
      cases hrole
      exact absurd (assignable_iff.2 ⟨references, hreferences, permissions,
        resolveAssignable_eq_ok_iff.1 hchecks⟩) h

end Template

/-! ## The whole operation -/

section Create

variable {s : AuthState} {actor : AuthUser} {drawn : NewRole} {input : CreateRoleInput}

/-- A role that cannot be inserted is refused, and nothing is stored. -/
theorem create_of_not_insertable (actor : AuthUser) (h : ¬ Insertable s.directory (newRole drawn input)) :
    ∃ e, create actor drawn input s = (.error e, s) := by
  rw [create, Process.query_bind]
  cases hvalid : assertValidRoleName (newRole drawn input).name with
  | error e => exact ⟨e, rfl⟩
  | ok u =>
    have hname : (newRole drawn input).name ≠ "" := by
      intro hempty
      rw [assertValidRoleName, if_pos hempty] at hvalid
      cases hvalid
    simp only [Process.query_bind]
    cases hfree : assertNewNameAvailable s.directory (newRole drawn input).name with
    | error e => exact ⟨e, rfl⟩
    | ok u =>
      simp only [Process.atomically_bind]
      cases hinsert : insertRole (newRole drawn input) s with
      | error e => exact ⟨e, rfl⟩
      | ok r =>
        obtain ⟨u, s'⟩ := r
        exact absurd ((insertRole_eq_ok hname).1 hinsert).1 h

/-- A role that can be inserted is stored before the template is looked at. -/
theorem create_of_insertable (actor : AuthUser) (h : Insertable s.directory (newRole drawn input)) :
    ∃ roles, s.directory.roles.insert? (newRole drawn input) = some roles ∧
      (input.templateKey.filter (· ≠ "") = none →
        create actor drawn input s = (.ok (newRole drawn input), withRoles s roles)) ∧
      ∀ templateKey, input.templateKey.filter (· ≠ "") = some templateKey →
        create actor drawn input s =
          fillFromTemplate actor (newRole drawn input) templateKey (withRoles s roles) := by
  obtain ⟨roles, hinsert⟩ := h.insert
  have hvalid : assertValidRoleName (newRole drawn input).name = .ok () := if_neg h.name_ne
  have hfree := assertNewNameAvailable_eq_ok.2 h.name_free
  have hstored := (@insertRole_eq_ok s _ _ () h.name_ne).2 ⟨h, roles, hinsert, rfl⟩
  refine ⟨roles, hinsert, fun hnone => ?_, fun templateKey hkey => ?_⟩
  · simp only [create, Process.query_bind, hvalid, hfree, Process.atomically_bind, hstored, hnone]
    rfl
  · simp only [create, Process.query_bind, hvalid, hfree, Process.atomically_bind, hstored, hkey]

/-- The new row changes no answer about permissions. -/
theorem assignable_withRoles {roles : Table RoleRow.id} {name templateKey : String} :
    Assignable (withRoles s roles).directory actor name templateKey ↔
      Assignable s.directory actor name templateKey := by
  have hpermissions : (withRoles s roles).directory.permissions = s.directory.permissions := rfl
  simp only [assignable_iff, RoleCalls.templateReferences_congr hpermissions,
    RoleCalls.resolvePermissions_congr hpermissions]

/-- A creation is atomic exactly when it fails before the role is saved, or has no template, or
    its template exists and the actor may assign it to a role of the name. -/
theorem create_atomic_iff (actor : AuthUser) (drawn : NewRole) (input : CreateRoleInput)
    (s : AuthState) :
    Atomic actor drawn input s ↔
      (Insertable s.directory (newRole drawn input) →
        ∀ templateKey ∈ input.templateKey, templateKey ≠ "" →
          Assignable s.directory actor (newRole drawn input).name templateKey) := by
  constructor
  · intro hatomic hinsertable templateKey hkey hne
    obtain ⟨roles, hinsert, -, hcreate⟩ := create_of_insertable actor hinsertable
    by_contra hnot
    have hfilter : input.templateKey.filter (· ≠ "") = some templateKey :=
      Option.filter_eq_some_iff.2 ⟨hkey, by simpa using hne⟩
    obtain ⟨e, hfill⟩ := fillFromTemplate_of_not_assignable (findOne_new hinsertable hinsert)
      (fun h => hnot (assignable_withRoles.1 h))
    obtain ⟨hstored, -⟩ := hatomic e _ ((hcreate templateKey hfilter).trans hfill)
    have hmem := hstored (newRole drawn input) ((Table.mem_insert hinsert).2 (.inr rfl)) rfl
    exact hinsertable.id_free _ hmem rfl
  · intro h e s' hfailed
    by_cases hinsertable : Insertable s.directory (newRole drawn input)
    · obtain ⟨roles, hinsert, hplain, hcreate⟩ := create_of_insertable actor hinsertable
      cases hfilter : input.templateKey.filter (· ≠ "") with
      | none => cases (hplain hfilter).symm.trans hfailed
      | some templateKey =>
        obtain ⟨hkey, hne⟩ := Option.filter_eq_some_iff.1 hfilter
        have hassignable := h hinsertable templateKey hkey (by simpa using hne)
        obtain ⟨role, s'', hfill⟩ := fillFromTemplate_of_assignable
          (findOne_new hinsertable hinsert) (assignable_withRoles.2 hassignable)
        cases hfill.symm.trans ((hcreate templateKey hfilter).symm.trans hfailed)
    · obtain ⟨e', hrefused⟩ := create_of_not_insertable actor hinsertable
      cases hrefused.symm.trans hfailed
      exact ⟨fun _ hrole _ => hrole, id⟩

end Create

namespace Sample

def drawn : NewRole := ⟨4, "ROL1700000000004AAAAAA", by decide +kernel, by decide +kernel⟩

def auditors : CreateRoleInput := ⟨"Auditors", none, some "auditor"⟩

end Sample

/-- There is no template with the key, and the role stays. -/
theorem template_missing :
    ¬ Atomic RoleCalls.Sample.superAdmin Sample.drawn Sample.auditors Expentra.Sample.authState := by
  intro hatomic
  have herror : (create RoleCalls.Sample.superAdmin Sample.drawn Sample.auditors
      Expentra.Sample.authState).1 = .error (.badRequest "Invalid role template") := by
    decide +kernel
  have hroles : newRole Sample.drawn Sample.auditors ∈ (create RoleCalls.Sample.superAdmin
      Sample.drawn Sample.auditors Expentra.Sample.authState).2.directory.roles.rows := by
    decide +kernel
  have hold : newRole Sample.drawn Sample.auditors ∉
      Expentra.Sample.authState.directory.roles.rows := by decide +kernel
  exact hold ((hatomic _ _ (Prod.ext herror rfl)).1 _ hroles rfl)

end RoleService

end Expentra
