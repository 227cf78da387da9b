-- SUMMARY: The directory: users, roles and permissions as rows, their joins, and the authentication context of a user.
import Expentra.Authorization.AccessPolicy
import Expentra.Core.Redis
import Expentra.Database.Store
import Expentra.Library.Cache

/-!
# The directory

A user refers to a role, and a role to its permissions. The other services read users
that are loaded with their role; administration changes the rows. The authentication
context of a user is derived from four tables: the row of the user, its role, the
permissions of the role, and the departments the user manages.

A query without an order returns rows in the order of the table. Rows that are
soft-deleted are not in the tables, departments apart.
-/

namespace Expentra

open Library

structure PermissionRow where
  id : Nat
  reference : String
  name : String
  /-- Action, resource, scope and active flag. -/
  permission : Permission
deriving DecidableEq

structure RoleRow where
  id : Nat
  reference : String
  name : String
  description : Option String
  /-- The rows of `role_permissions`. -/
  permissionIds : List Nat
deriving DecidableEq

/-- A serial id is positive, and a reference is never empty. -/
structure UserRow where
  id : Nat
  reference : String
  email : String
  /-- The hash; an account of single sign-on has none. -/
  password : Option String
  /-- `local` or `oidc`: how the account authenticates. -/
  authProvider : String
  /-- Subject of the identity provider when `authProvider` is `oidc`. -/
  externalId : Option String
  firstName : Option String
  lastName : Option String
  avatarUrl : Option String
  isActive : Bool
  isEmailVerified : Bool
  emailVerifiedAt : Option Instant
  roleId : Option Nat
  departmentId : Option Nat
  deactivatedAt : Option Instant
  id_pos : 0 < id
  reference_ne : reference ≠ ""
deriving DecidableEq

/-- The rows administration works on. `store` has the other tables; its users and roles
    are not read, but those of `db`. -/
structure Directory where
  users : Table UserRow.id
  roles : Table RoleRow.id
  permissions : Table PermissionRow.id
  store : Db

namespace Directory

/-! ## Joins -/

/-- `leftJoinAndSelect('role.permissions')` -/
def loadRole (d : Directory) (row : RoleRow) : Role where
  id := row.id
  reference := row.reference
  name := row.name
  permissions := row.permissionIds.filterMap (fun id => (d.permissions.find? id).map (·.permission))

/-- `leftJoinAndSelect('user.role')` -/
def loadUser (d : Directory) (row : UserRow) : User where
  id := row.id
  reference := row.reference
  email := row.email
  departmentId := row.departmentId
  isActive := row.isActive
  isEmailVerified := row.isEmailVerified
  deactivatedAt := row.deactivatedAt
  role := (row.roleId.bind d.roles.find?).map d.loadRole

/-- The database as the other services see it. -/
def db (d : Directory) : Db :=
  { d.store with
    users := d.users.map d.loadUser (fun _ => rfl)
    roles := d.roles.rows.map d.loadRole }

/-- `where('user.reference = :reference')` -/
def findRow (d : Directory) (reference : String) : Option UserRow :=
  d.users.rows.find? (·.reference = reference)

/-- `UserService.findAuthContext` -/
def findAuthContext (d : Directory) (reference : String) : Option User :=
  (d.findRow reference).map d.loadUser

/-- `UserService.findManagedDepartmentIds` -/
def findManagedDepartmentIds (d : Directory) (userId : Nat) : List Nat :=
  d.db.managedDepartmentIds userId

/-- The context of a user, from the rows as they are. -/
def currentContext (d : Directory) (reference : String) : Option AuthUser :=
  (d.findAuthContext reference).map (fun user => toAuthUser user (d.findManagedDepartmentIds user.id))

/-! ## What a context depends on -/

section Context

variable {d d' : Directory} {reference : String}

theorem findManagedDepartmentIds_congr (h : d'.store.departments = d.store.departments) :
    d'.findManagedDepartmentIds = d.findManagedDepartmentIds := by
  funext userId
  simp only [findManagedDepartmentIds, Db.managedDepartmentIds, db, h]

theorem of_findRow {row : UserRow} (h : d.findRow reference = some row) :
    row ∈ d.users ∧ row.reference = reference :=
  ⟨List.mem_of_find?_eq_some h, by simpa using List.find?_some h⟩

/-- Two directories agree on a context when they agree on the row, its role and its
    departments. -/
theorem currentContext_congr (hfind : d'.findRow reference = d.findRow reference)
    (hload : ∀ row, d.findRow reference = some row → d'.loadUser row = d.loadUser row)
    (hmanaged : ∀ row, d.findRow reference = some row →
      d'.findManagedDepartmentIds row.id = d.findManagedDepartmentIds row.id) :
    d'.currentContext reference = d.currentContext reference := by
  unfold currentContext findAuthContext
  rw [hfind, Option.map_map, Option.map_map]
  refine Option.map_congr (fun row hrow => ?_)
  simp only [Function.comp_apply, hload row hrow]
  rw [show (d.loadUser row).id = row.id from rfl, hmanaged row hrow]

theorem of_currentContext {context : AuthUser} (h : d.currentContext reference = some context) :
    ∃ row, d.findRow reference = some row ∧ context.id = row.id ∧
      context.managedDepartmentIds = d.findManagedDepartmentIds row.id := by
  obtain ⟨user, huser, rfl⟩ := Option.map_eq_some_iff.1 h
  obtain ⟨row, hrow, rfl⟩ := Option.map_eq_some_iff.1 huser
  exact ⟨row, hrow, rfl, rfl⟩

/-- A change of the tables outside the directory that leaves the departments alone. -/
theorem currentContext_store {store : Db} (h : store.departments = d.store.departments) :
    { d with store := store }.currentContext reference = d.currentContext reference :=
  currentContext_congr rfl (fun _ _ => rfl)
    (fun row _ => congrFun (findManagedDepartmentIds_congr h) row.id)

/-- A change of the row of another user. -/
theorem currentContext_replaceUser {row row' : UserRow} (hrow : row ∈ d.users)
    (hid : row'.id = row.id) (hreference : row'.reference = row.reference)
    (hother : reference ≠ row.reference) :
    { d with users := d.users.replace row' }.currentContext reference =
      d.currentContext reference := by
  refine currentContext_congr (Table.search_replace ?_ (fun x hx hkey => ?_))
    (fun _ _ => rfl) (fun _ _ => rfl)
  · simpa [hreference] using hother.symm
  · cases Table.eq_of_key_eq hx hrow (hkey.trans hid)
    simpa using hother.symm

/-- A change of a role the user does not have. -/
theorem currentContext_replaceRole {role : RoleRow}
    (hother : ∀ row, d.findRow reference = some row → row.roleId ≠ some role.id) :
    { d with roles := d.roles.replace role }.currentContext reference =
      d.currentContext reference := by
  refine currentContext_congr rfl (fun row hrow => ?_) (fun _ _ => rfl)
  have hrole : row.roleId.bind (d.roles.replace role).find? = row.roleId.bind d.roles.find? := by
    cases hid : row.roleId with
    | none => rfl
    | some id =>
      have hne : id ≠ role.id := fun heq => hother row hrow (hid.trans (congrArg some heq))
      simp only [Option.bind_some]
      exact Table.find?_replace_ne hne
  unfold loadUser
  rw [hrole]
  rfl

/-- A change of a department that the user managed neither before nor after it. -/
theorem currentContext_replaceDepartment {store : Db} {department department' : Department}
    (hdepartment : department ∈ d.store.departments) (hid : department'.id = department.id)
    (hstore : store.departments = d.store.departments.replace department')
    (hother : ∀ row, d.findRow reference = some row →
      department.managerId ≠ some row.id ∧ department'.managerId ≠ some row.id) :
    { d with store := store }.currentContext reference = d.currentContext reference := by
  refine currentContext_congr rfl (fun _ _ => rfl) (fun row hrow => ?_)
  obtain ⟨hbefore, hafter⟩ := hother row hrow
  simp only [findManagedDepartmentIds, Db.managedDepartmentIds, db]
  rw [hstore, Table.filter_replace]
  · simp [hafter]
  · intro x hx hkey
    cases Table.eq_of_key_eq hx hdepartment (hkey.trans hid)
    simp [hbefore]

/-- The departments a user manages, as conditions on the row. -/
theorem mem_findManagedDepartmentIds {department : Department} {userId : Nat}
    (h : department ∈ d.store.departments) :
    department.id ∈ d.findManagedDepartmentIds userId ↔ department.managerId = some userId ∧
      department.isActive = true ∧ department.deletedAt = none := by
  have hselected : department.id ∈ d.findManagedDepartmentIds userId ↔
      ∃ other ∈ d.store.departments, (other.managerId = some userId ∧ other.isActive = true ∧
        other.deletedAt = none) ∧ other.id = department.id := by
    simp only [findManagedDepartmentIds, Db.managedDepartmentIds, db, List.mem_map, List.mem_filter,
      Bool.and_eq_true, decide_eq_true_eq, Option.isNone_iff_eq_none, and_assoc, Table.mem_iff]
  rw [hselected]
  constructor
  · rintro ⟨other, hother, hmanaged, hid⟩
    cases Table.eq_of_key_eq hother h hid
    exact hmanaged
  · exact fun hmanaged => ⟨department, h, hmanaged, rfl⟩

/-- A change of a department that keeps its manager, and whether it is one. -/
theorem findManagedDepartmentIds_replaceDepartment {store : Db} {department department' : Department}
    (hdepartment : department ∈ d.store.departments) (hid : department'.id = department.id)
    (hstore : store.departments = d.store.departments.replace department')
    (hmanager : department'.managerId = department.managerId)
    (hlive : (department'.isActive && department'.deletedAt.isNone) =
      (department.isActive && department.deletedAt.isNone)) :
    { d with store := store }.findManagedDepartmentIds = d.findManagedDepartmentIds := by
  funext userId
  simp only [findManagedDepartmentIds, Db.managedDepartmentIds, db]
  rw [hstore]
  refine Table.map_filter_replace (fun x hx hkey => ?_)
  cases Table.eq_of_key_eq hx hdepartment (hkey.trans hid)
  rw [hmanager, Bool.and_assoc, Bool.and_assoc, hlive]

end Context

end Directory

/-! ## The directory, its cache and the keys of sessions -/

/-- The codes of a flow: the user of a code by its hash, under `${prefix}${tokenHash}`, and
    the hash of the code of a user, under `${prefix}user:${id}`. -/
structure OneTimeCodes where
  byHash : Redis String Nat
  byUser : Redis Nat String

/-- What a completed callback leaves for the browser. -/
structure SsoExchangePayload where
  accessToken : String
  refreshToken : String
  userReference : String
deriving DecidableEq, Repr

/-- The flows that send one-time codes. -/
inductive CodeFlow where
  | passwordReset
  | emailVerification
deriving DecidableEq, Repr

/-- `auth.password-reset` or `auth.email-verification`: the event that mails a code. -/
structure CodeSent where
  flow : CodeFlow
  userId : Nat
  email : String
  firstName : Option String
  code : String
deriving DecidableEq, Repr

structure AuthState where
  directory : Directory
  /-- The contexts under `auth:ctx:${reference}`. -/
  contexts : Redis String AuthUser
  /-- `auth:refresh:${reference}:${tokenHash}` -/
  refreshKeys : Redis (String × String) Unit
  /-- `auth:refresh:${reference}:${tokenHash}:grace` -/
  graceKeys : Redis (String × String) Unit
  /-- `auth:pwdreset:` -/
  passwordResets : OneTimeCodes
  /-- `auth:email-verify:` -/
  emailVerifications : OneTimeCodes
  /-- The code verifiers under `auth:sso:state:${state}`. -/
  ssoStates : Redis String String
  /-- `auth:sso:exchange:${code}` -/
  ssoExchanges : Redis String SsoExchangePayload
  /-- The codes that were published for delivery, the oldest first. -/
  published : List CodeSent

/-- A call of a service that administers the directory. -/
abbrev AuthTx (α : Type) := Transaction AuthState HttpException α

namespace AuthTx

/-- A transaction over the tables outside the directory. -/
def ofDb {α : Type} (x : Tx α) : AuthTx α := fun s =>
  (x s.directory.db).map (fun r => (r.1, { s with directory := { s.directory with store := r.2 } }))

theorem ofDb_eq_ok {α : Type} {x : Tx α} {s s' : AuthState} {a : α} :
    ofDb x s = .ok (a, s') ↔ ∃ db', x s.directory.db = .ok (a, db') ∧
      s' = { s with directory := { s.directory with store := db' } } := by
  unfold ofDb
  cases hx : x s.directory.db with
  | error e => simp [Except.map]
  | ok r =>
    obtain ⟨a', db'⟩ := r
    simp only [Except.map, Except.ok.injEq, Prod.mk.injEq]
    constructor
    · rintro ⟨rfl, rfl⟩
      exact ⟨db', ⟨rfl, rfl⟩, rfl⟩
    · rintro ⟨_, ⟨rfl, rfl⟩, rfl⟩
      exact ⟨rfl, rfl⟩

/-- Such a transaction changes nothing else. -/
theorem ofDb_frame {α : Type} {x : Tx α} {s s' : AuthState} {a : α} (h : ofDb x s = .ok (a, s')) :
    s' = { s with directory := { s.directory with store := s'.directory.store } } := by
  obtain ⟨_, -, rfl⟩ := ofDb_eq_ok.1 h
  rfl

end AuthTx

namespace AuthContextCache

/-- `invalidate` -/
def invalidate (reference : String) : AuthTx Unit :=
  Transaction.write (fun s => { s with contexts := s.contexts.del reference })

/-- `invalidateMany`: every reference but empty ones. -/
def invalidateMany (references : List String) : AuthTx Unit :=
  Transaction.write (fun s => { s with
    contexts := (references.filter (· ≠ "")).dedup.foldl Redis.del s.contexts })

/-- `get` -/
def get (ttlSeconds : Int) (s : AuthState) (reference : String) : Option AuthUser :=
  if ttlSeconds ≤ 0 then none else s.contexts reference

/-- `set` -/
def set (ttlSeconds : Int) (reference : String) (authUser : AuthUser) : AuthTx Unit :=
  if ttlSeconds ≤ 0 then pure ()
  else Transaction.write (fun s => { s with contexts := s.contexts.setCache reference authUser })

/-- Of what was cached, `invalidateMany` leaves what is not named. -/
theorem foldl_del {references : List String} {store : Redis String AuthUser} {reference : String} :
    references.foldl Redis.del store reference =
      if reference ∈ references then none else store reference := by
  induction references generalizing store with
  | nil => rfl
  | cons r rest ih =>
    rw [List.foldl_cons, ih]
    by_cases hrest : reference ∈ rest
    · simp [hrest]
    · by_cases heq : reference = r
      · subst heq
        simp [hrest]
      · simp [hrest, heq, Redis.del_of_ne heq]

theorem invalidate_eq_ok {reference : String} {s s' : AuthState} {u : Unit} :
    invalidate reference s = .ok (u, s') ↔ s' = { s with contexts := s.contexts.del reference } := by
  rw [invalidate, Transaction.write_eq_ok, eq_comm]

/-- After `invalidateMany` the named contexts are gone, and all others as they were. -/
theorem invalidateMany_ok {references : List String} {s s' : AuthState} {u : Unit}
    (h : invalidateMany references s = .ok (u, s')) :
    s' = { s with contexts := s'.contexts } ∧ ∀ reference, s'.contexts reference =
      if reference ∈ references ∧ reference ≠ "" then none else s.contexts reference := by
  cases Transaction.write_eq_ok.1 h
  refine ⟨rfl, fun reference => ?_⟩
  simp only [foldl_del, List.mem_dedup, List.mem_filter, decide_eq_true_eq]

end AuthContextCache

namespace Sample

def permissionRows : List PermissionRow :=
  [⟨1, "PER1700000000001AAAAAA", "user.update", ⟨.UPDATE, .USER, .GLOBAL, true⟩⟩,
    ⟨2, "PER1700000000002AAAAAA", "expense.submit", ⟨.SUBMIT, .EXPENSE, .SELF, true⟩⟩,
    ⟨3, "PER1700000000003AAAAAA", "approval.approve", ⟨.APPROVE, .APPROVAL, .GLOBAL, true⟩⟩,
    ⟨4, "PER1700000000004AAAAAA", "report.read", ⟨.READ, .REPORT, .GLOBAL, true⟩⟩]

def roleRows : List RoleRow :=
  [⟨1, "ROL1700000000001AAAAAA", "hr_admin", none, [1]⟩,
    ⟨2, "ROL1700000000002AAAAAA", "staff", none, [2]⟩,
    ⟨3, "ROL1700000000003AAAAAA", "finance_manager", none, [3]⟩]

/-- An administrator, a manager of the only department, and an employee. -/
def administratorRow : UserRow :=
  ⟨1, "USR1700000000001AAAAAA", "admin@expentra.test", none, "local", none, none, none, none, true,
    true, none, some 1, none, none, by decide, by decide⟩

def managerRow : UserRow :=
  ⟨2, "USR1700000000002AAAAAA", "manager@expentra.test", none, "local", none, some "Ada", none, none,
    true, true, none, some 2, some 1, none, by decide, by decide⟩

def employeeRow : UserRow :=
  ⟨3, "USR1700000000003AAAAAA", "employee@expentra.test", none, "local", none, some "Kofi", none,
    none, true, false, none, some 2, none, none, by decide, by decide⟩

def directory : Directory where
  users := ⟨[administratorRow, managerRow, employeeRow], by decide⟩
  roles := ⟨roleRows, by decide⟩
  permissions := ⟨permissionRows, by decide⟩
  store :=
    { users := ∅, departments := ⟨[⟨1, "DPT1700000000005AAAAAA", some 2, true, none⟩], by decide⟩
      roles := [], levels := ∅, nextLevelId := 1, expenses := ∅, nextExpenseId := 1, approvals := ∅
      comments := [], attachments := [], budgets := ∅, delegations := [], outbox := [] }

/-- Nothing is cached, and nobody is signed in. -/
def authState : AuthState :=
  ⟨directory, fun _ => none, fun _ => none, fun _ => none, ⟨fun _ => none, fun _ => none⟩,
    ⟨fun _ => none, fun _ => none⟩, fun _ => none, fun _ => none, []⟩

end Sample

/-! ## Coherence -/

/-- Every cached context is the one its rows yield now. -/
def AuthState.Coherent (s : AuthState) : Prop :=
  Library.Coherent s.contexts s.directory.currentContext

/-- What a call did to contexts: none was cached, and of the current ones only those of
    some references changed. -/
structure Touches (touched : String → Prop) (s s' : AuthState) : Prop where
  held : ∀ reference context, s'.contexts reference = some context →
    s.contexts reference = some context
  same : ∀ reference, ¬ touched reference →
    s'.directory.currentContext reference = s.directory.currentContext reference

namespace Touches

variable {touched touched' : String → Prop} {s s' s'' : AuthState}

theorem refl : Touches touched s s := ⟨fun _ _ h => h, fun _ _ => rfl⟩

theorem trans (h : Touches touched s s') (h' : Touches touched s' s'') : Touches touched s s'' :=
  ⟨fun reference context hc => h.held reference context (h'.held reference context hc),
    fun reference ht => (h'.same reference ht).trans (h.same reference ht)⟩

theorem mono (hmono : ∀ reference, touched reference → touched' reference)
    (h : Touches touched s s') : Touches touched' s s' :=
  ⟨h.held, fun reference ht => h.same reference (fun ht' => ht (hmono reference ht'))⟩

/-- A call that leaves no touched context in the cache keeps it coherent. -/
theorem coherent (h : Touches touched s s')
    (hgone : ∀ reference, touched reference → s'.contexts reference = none)
    (hs : s.Coherent) : s'.Coherent := by
  refine hs.invalidate h.held (fun reference context hc => h.same reference (fun ht => ?_))
  rw [hgone reference ht] at hc
  cases hc

/-- A change of tables outside the directory that leaves the departments alone. -/
theorem of_ofDb {α : Type} {x : Tx α} {a : α} (h : AuthTx.ofDb x s = .ok (a, s'))
    (hdepartments : ∀ db', x s.directory.db = .ok (a, db') →
      db'.departments = s.directory.store.departments) : Touches touched s s' := by
  obtain ⟨db', hx, rfl⟩ := AuthTx.ofDb_eq_ok.1 h
  exact ⟨fun _ _ hc => hc, fun _ _ => Directory.currentContext_store (hdepartments db' hx)⟩

end Touches

end Expentra
