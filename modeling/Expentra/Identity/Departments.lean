-- SUMMARY: Department administration with its invalidations: update, removal, and the release of a manager who leaves.
import Expentra.Budget.DepartmentChange
import Expentra.Department.Manager
import Expentra.Identity.Directory

/-!
# Departments and the contexts of their managers

A change of the manager of a department invalidates the contexts of the old and the
new manager. A change of the active flag alone, and a removal, invalidate nothing.
-/

namespace Expentra.DepartmentService

open Library

/-! ## The operations -/

/-- `DepartmentManagerService.invalidateAuthContextForManagerIds` -/
def invalidateAuthContextForManagerIds (managerIds : List (Option Nat)) : AuthTx Unit := do
  let uniqueIds := ((managerIds.filterMap id).filter (0 < ·)).dedup
  let users ← Transaction.read (fun s : AuthState =>
    s.directory.users.rows.filter (fun user => user.id ∈ uniqueIds))
  AuthContextCache.invalidateMany (users.map (·.reference))

/-- `DepartmentMutationService.update` -/
def updateDepartment (reference : String) (input : UpdateDepartmentInput) : AuthTx Unit := do
  let department ← Transaction.query (fun s : AuthState => findOne s.directory.db reference)
  let nextManagerId ← Transaction.query (fun s : AuthState =>
    resolveNextManager s.directory.db department input.managerReference)
  AuthTx.ofDb (applyUpdate department nextManagerId input)
  let nextManager := nextManagerId.save department.managerId
  if nextManager ≠ department.managerId then
    invalidateAuthContextForManagerIds [department.managerId, nextManager]
  else pure ()

/-- The users of a department. -/
def countAssignedUsers (db : Db) (departmentId : Nat) : Nat :=
  (db.users.rows.filter (fun user => user.departmentId = some departmentId)).length

/-- `DepartmentMutationService.remove` -/
def remove (now : Instant) (reference : String) : Tx Unit := do
  let department ← Transaction.query (findOne · reference)
  let assignedCount ← Transaction.read (countAssignedUsers · department.id)
  Transaction.require (assignedCount = 0)
    (.conflict "Cannot delete a department that has assigned users")
  Transaction.write (fun db => { db with
    departments := db.departments.replace
      { department with isActive := false, deletedAt := some now } })

/-- The department, if the user manages it. -/
def managedBy (db : Db) (departmentId userId : Nat) : Option Department :=
  ((db.departments.find? departmentId).filter (·.deletedAt.isNone)).filter
    (fun department => department.managerId = some userId)

def assertManagerCanLeaveDepartment (db : Db) (departmentId userId : Nat) :
    Except HttpException Unit :=
  if (managedBy db departmentId userId).isNone then .ok ()
  else assertManagerCanBeCleared db departmentId

def releaseManagerIfUserLeftDepartment (departmentId userId : Nat) (inTransaction : Bool) :
    AuthTx Unit := do
  let department ← Transaction.read (fun s : AuthState =>
    managedBy s.directory.db departmentId userId)
  match department with
  | none => pure ()
  | some department =>
    Transaction.query (fun s : AuthState =>
      if inTransaction then .ok () else assertManagerCanBeCleared s.directory.db departmentId)
    AuthTx.ofDb (Transaction.write (fun db => { db with
      departments := db.departments.replace { department with managerId := none } }))
    invalidateAuthContextForManagerIds [some userId]

/-- `UserDepartmentChangeService.applyWithinTransaction` -/
def applyWithinTransaction (cfg : Config) (userId : Nat)
    (previousDepartmentId departmentId : Option Nat) : AuthTx Unit := do
  AuthTx.ofDb (BudgetService.syncCommittedAmountForUserDepartmentChange cfg userId
    previousDepartmentId departmentId)
  match previousDepartmentId.filter (· ≠ 0) with
  | some previous =>
    if previousDepartmentId ≠ departmentId then
      releaseManagerIfUserLeftDepartment previous userId true
    else pure ()
  | none => pure ()

/-! ## What they touch -/

section Touches

variable {s s' : AuthState} {u : Unit}

/-- The reference of a user with the id. -/
def IsReferenceOf (s : AuthState) (userId : Nat) (reference : String) : Prop :=
  ∃ row ∈ s.directory.users, row.id = userId ∧ row.reference = reference

theorem invalidateAuthContextForManagerIds_ok {managerIds : List (Option Nat)}
    (h : invalidateAuthContextForManagerIds managerIds s = .ok (u, s')) :
    s' = { s with contexts := s'.contexts } ∧
      (∀ reference context, s'.contexts reference = some context →
        s.contexts reference = some context) ∧
    ∀ userId reference, some userId ∈ managerIds → IsReferenceOf s userId reference →
      s'.contexts reference = none := by
  obtain ⟨hframe, hcontexts⟩ := AuthContextCache.invalidateMany_ok h
  refine ⟨hframe, fun reference context hc => ?_, ?_⟩
  · rw [hcontexts] at hc
    split at hc
    · cases hc
    · exact hc
  · rintro userId reference hmanager ⟨row, hrow, rfl, rfl⟩
    have hid : decide (row.id ∈ ((managerIds.filterMap id).filter (0 < ·)).dedup) = true := by
      simp [hmanager, row.id_pos]
    rw [hcontexts]
    exact if_pos ⟨List.mem_map_of_mem (List.mem_filter.2 ⟨hrow, hid⟩), row.reference_ne⟩

/-- A department is replaced by a row with its id: only the contexts of its managers
    before and after are touched. -/
theorem touches_replaceDepartment {x : Tx Unit} {department department' : Department}
    (h : AuthTx.ofDb x s = .ok (u, s'))
    (hdepartment : department ∈ s.directory.store.departments) (hid : department'.id = department.id)
    (hdepartments : ∀ db', x s.directory.db = .ok (u, db') →
      db'.departments = s.directory.store.departments.replace department') :
    Touches (fun reference => ∃ userId, IsReferenceOf s userId reference ∧
      (department.managerId = some userId ∨ department'.managerId = some userId)) s s' := by
  obtain ⟨db', hx, rfl⟩ := AuthTx.ofDb_eq_ok.1 h
  refine ⟨fun _ _ hc => hc, fun reference htouched => ?_⟩
  refine Directory.currentContext_replaceDepartment hdepartment hid (hdepartments db' hx) ?_
  intro row hfind
  obtain ⟨hrow, hreference⟩ := Directory.of_findRow hfind
  exact ⟨fun hmanager => htouched ⟨row.id, ⟨row, hrow, rfl, hreference⟩, .inl hmanager⟩,
    fun hmanager => htouched ⟨row.id, ⟨row, hrow, rfl, hreference⟩, .inr hmanager⟩⟩

theorem managedBy_eq_some {db : Db} {departmentId userId : Nat} {department : Department}
    (h : managedBy db departmentId userId = some department) :
    department ∈ db.departments ∧ department.managerId = some userId := by
  obtain ⟨hlive, hmanager⟩ := Option.filter_eq_some_iff.1 h
  exact ⟨Table.mem_of_find? (Option.filter_eq_some_iff.1 hlive).1, of_decide_eq_true hmanager⟩

/-- A release clears the manager and forgets the contexts of the user, or there is nothing
    to release. -/
theorem releaseManagerIfUserLeftDepartment_cases {departmentId userId : Nat} {inTransaction : Bool}
    (h : releaseManagerIfUserLeftDepartment departmentId userId inTransaction s = .ok (u, s')) :
    (managedBy s.directory.db departmentId userId = none ∧ s' = s) ∨ ∃ department s₁,
      managedBy s.directory.db departmentId userId = some department ∧
      AuthTx.ofDb (Transaction.write (fun db => { db with
        departments := db.departments.replace { department with managerId := none } })) s =
          .ok ((), s₁) ∧
      invalidateAuthContextForManagerIds [some userId] s₁ = .ok (u, s') := by
  rw [releaseManagerIfUserLeftDepartment, Transaction.read_bind] at h
  cases hmanaged : managedBy s.directory.db departmentId userId with
  | none =>
    rw [hmanaged] at h
    obtain ⟨-, rfl⟩ := Transaction.pure_eq_ok.1 h
    exact .inl ⟨rfl, rfl⟩
  | some department =>
    rw [hmanaged] at h
    obtain ⟨_, -, h⟩ := Transaction.query_bind_eq_ok.1 h
    obtain ⟨_, s₁, hwrite, hinvalidate⟩ := Transaction.bind_eq_ok.1 h
    exact .inr ⟨department, s₁, rfl, hwrite, hinvalidate⟩

/-- A release touches the contexts of the user and leaves none of them cached, or it
    does nothing. -/
theorem releaseManagerIfUserLeftDepartment_ok {departmentId userId : Nat} {inTransaction : Bool}
    (h : releaseManagerIfUserLeftDepartment departmentId userId inTransaction s = .ok (u, s')) :
    s' = s ∨ (Touches (IsReferenceOf s userId) s s' ∧
      ∀ reference, IsReferenceOf s userId reference → s'.contexts reference = none) := by
  rcases releaseManagerIfUserLeftDepartment_cases h with
    ⟨-, rfl⟩ | ⟨department, s₁, hmanaged, hwrite, hinvalidate⟩
  · exact .inl rfl
  · obtain ⟨hdepartment, hmanager⟩ := managedBy_eq_some hmanaged
    obtain ⟨hframe, hheld, hgone⟩ := invalidateAuthContextForManagerIds_ok hinvalidate
    have htouches := @touches_replaceDepartment s s₁ () _ department
      { department with managerId := none } hwrite hdepartment rfl
      (fun db' hx => by cases Transaction.write_eq_ok.1 hx; rfl)
    obtain ⟨_, -, rfl⟩ := AuthTx.ofDb_eq_ok.1 hwrite
    refine .inr ⟨⟨fun reference context hc => hheld reference context hc, ?_⟩, ?_⟩
    · intro reference htouched
      rw [hframe]
      refine htouches.same reference ?_
      rintro ⟨userId', hreference, hcase⟩
      rw [hmanager] at hcase
      rcases hcase with heq | heq
      · exact htouched (Option.some.inj heq ▸ hreference)
      · cases heq
    · exact fun reference hreference => hgone userId reference List.mem_cons_self hreference

/-- The move of a user between departments touches the contexts of the user. -/
theorem applyWithinTransaction_ok {cfg : Config} {userId : Nat}
    {previousDepartmentId departmentId : Option Nat}
    (h : applyWithinTransaction cfg userId previousDepartmentId departmentId s = .ok (u, s')) :
    Touches (IsReferenceOf s userId) s s' := by
  obtain ⟨_, s₁, hsync, hrelease⟩ := Transaction.bind_eq_ok.1 h
  have hsynced : Touches (IsReferenceOf s userId) s s₁ := by
    refine .of_ofDb hsync (fun db' hx => ?_)
    obtain ⟨_, rfl⟩ := BudgetService.syncCommittedAmountForUserDepartmentChange_ok hx
    rfl
  obtain ⟨_, -, rfl⟩ := AuthTx.ofDb_eq_ok.1 hsync
  refine hsynced.trans ?_
  cases hprevious : previousDepartmentId.filter (· ≠ 0) with
  | none =>
    rw [hprevious] at hrelease
    obtain ⟨-, rfl⟩ := Transaction.pure_eq_ok.1 hrelease
    exact .refl
  | some previous =>
    rw [hprevious] at hrelease
    dsimp only at hrelease
    split at hrelease
    · rcases releaseManagerIfUserLeftDepartment_ok hrelease with rfl | ⟨htouches, -⟩
      · exact .refl
      · exact htouches
    · obtain ⟨-, rfl⟩ := Transaction.pure_eq_ok.1 hrelease
      exact .refl

/-- A release changes the departments and what is cached. -/
theorem releaseManagerIfUserLeftDepartment_frame {departmentId userId : Nat} {inTransaction : Bool}
    (h : releaseManagerIfUserLeftDepartment departmentId userId inTransaction s = .ok (u, s')) :
    s' = { s with
      directory := { s.directory with store := s'.directory.store }
      contexts := s'.contexts } := by
  rcases releaseManagerIfUserLeftDepartment_cases h with ⟨-, rfl⟩ | ⟨department, s₁, -, hwrite, hinvalidate⟩
  · rfl
  · rw [(invalidateAuthContextForManagerIds_ok hinvalidate).1, AuthTx.ofDb_frame hwrite]

/-- The move of a user changes no user, no role, and no key of a session. -/
theorem applyWithinTransaction_frame {cfg : Config} {userId : Nat}
    {previousDepartmentId departmentId : Option Nat}
    (h : applyWithinTransaction cfg userId previousDepartmentId departmentId s = .ok (u, s')) :
    s' = { s with
      directory := { s.directory with store := s'.directory.store }
      contexts := s'.contexts } := by
  obtain ⟨_, s₁, hsync, hrelease⟩ := Transaction.bind_eq_ok.1 h
  have hsynced := AuthTx.ofDb_frame hsync
  cases hprevious : previousDepartmentId.filter (· ≠ 0) with
  | none =>
    rw [hprevious] at hrelease
    obtain ⟨-, rfl⟩ := Transaction.pure_eq_ok.1 hrelease
    rw [hsynced]
  | some previous =>
    rw [hprevious] at hrelease
    dsimp only at hrelease
    split at hrelease
    · rw [releaseManagerIfUserLeftDepartment_frame hrelease, hsynced]
    · obtain ⟨-, rfl⟩ := Transaction.pure_eq_ok.1 hrelease
      rw [hsynced]

end Touches

/-! ## A department that keeps its manager -/

section Flag

variable {s : AuthState}

/-- The cached context of the manager of a department. -/
def managerContext? (s : AuthState) (department : Department) : Option AuthUser :=
  ((department.managerId.bind s.directory.users.find?).bind (fun user => s.contexts user.reference)).filter
    (fun context => department.managerId = some context.id)

theorem managerContext?_eq_some {department : Department} {context : AuthUser} :
    managerContext? s department = some context ↔ department.managerId = some context.id ∧
      ∃ user, s.directory.users.find? context.id = some user ∧
        s.contexts user.reference = some context := by
  rw [managerContext?, Option.filter_eq_some_iff, Option.bind_eq_some_iff]
  constructor
  · rintro ⟨⟨user, huser, hcontext⟩, hmanager⟩
    rw [of_decide_eq_true hmanager] at huser
    exact ⟨of_decide_eq_true hmanager, user, huser, hcontext⟩
  · rintro ⟨hmanager, user, huser, hcontext⟩
    refine ⟨⟨user, ?_, hcontext⟩, decide_eq_true hmanager⟩
    rw [hmanager]
    exact huser

/-- A change of a department that keeps its manager leaves the cache coherent if and
    only if the department stays as active as it was, or its manager is not cached. -/
theorem coherent_replaceDepartment_iff {store : Db} {department department' : Department}
    (hs : s.Coherent) (hdepartment : department ∈ s.directory.store.departments)
    (hlive : department.deletedAt = none) (hid : department'.id = department.id)
    (hmanager : department'.managerId = department.managerId)
    (hstore : store.departments = s.directory.store.departments.replace department') :
    { s with directory := { s.directory with store := store } : AuthState }.Coherent ↔
      ((department'.isActive && department'.deletedAt.isNone) ≠ department.isActive →
        managerContext? s department = none) := by
  have hfound : s.directory.store.departments.find? department'.id = some department := by
    rw [hid]
    exact Table.find?_of_mem hdepartment
  have hdepartment' : department' ∈ store.departments := by
    rw [hstore]
    exact Table.mem_replace_self hfound
  constructor
  · intro hs' hflag
    by_contra hcached
    obtain ⟨context, hcontext⟩ := Option.ne_none_iff_exists'.1 hcached
    obtain ⟨hmanages, user, huser, hcontext⟩ := managerContext?_eq_some.1 hcontext
    obtain ⟨row, -, hrowId, hbefore⟩ := Directory.of_currentContext (hs _ _ hcontext)
    obtain ⟨row', -, hrowId', hafter⟩ := Directory.of_currentContext (hs' _ _ hcontext)
    -- the cached context lists the department if and only if it is active, then and now
    have hlisted : department.id ∈ context.managedDepartmentIds ↔ department.isActive = true := by
      rw [hbefore, Directory.mem_findManagedDepartmentIds hdepartment, ← hrowId]
      simp [hmanages, hlive]
    have hlisted' : department.id ∈ context.managedDepartmentIds ↔
        (department'.isActive && department'.deletedAt.isNone) = true := by
      rw [hafter, ← hid, Directory.mem_findManagedDepartmentIds hdepartment', ← hrowId', hmanager]
      simp [hmanages]
    exact hflag (Bool.eq_iff_iff.2 (hlisted'.symm.trans hlisted))
  · intro hcached
    by_cases hflag : (department'.isActive && department'.deletedAt.isNone) = department.isActive
    · have hmanaged := Directory.findManagedDepartmentIds_replaceDepartment hdepartment hid hstore
        hmanager (by rw [hflag, hlive]; simp)
      refine hs.invalidate (fun _ _ hc => hc) (fun reference _ _ => ?_)
      exact Directory.currentContext_congr rfl (fun _ _ => rfl) (fun row _ => congrFun hmanaged row.id)
    · refine hs.invalidate (fun _ _ hc => hc) (fun reference context hc => ?_)
      refine Directory.currentContext_replaceDepartment hdepartment hid hstore (fun row hrow => ?_)
      rw [hmanager, and_self]
      intro hmanages
      obtain ⟨row', hrow', hrowId, -⟩ := Directory.of_currentContext (hs _ _ hc)
      cases hrow.symm.trans hrow'
      obtain ⟨hmem, rfl⟩ := Directory.of_findRow hrow
      have hnamed : managerContext? s department = some context := by
        rw [managerContext?_eq_some, hrowId]
        exact ⟨hmanages, row, Table.find?_of_mem hmem, hc⟩
      rw [hcached hflag] at hnamed
      cases hnamed

/-- An update that changes the active flag and not the manager finds no context of the
    manager in the cache. -/
def UpdateKeepsContexts (s : AuthState) (reference : String) (input : UpdateDepartmentInput) : Prop :=
  ∀ department ∈ (findOne s.directory.db reference).toOption,
    ∀ nextManagerId ∈ (resolveNextManager s.directory.db department input.managerReference).toOption,
      nextManagerId.save department.managerId = department.managerId →
      input.isActive.getD department.isActive ≠ department.isActive →
      managerContext? s department = none

instance (s : AuthState) (reference : String) (input : UpdateDepartmentInput) :
    Decidable (UpdateKeepsContexts s reference input) :=
  inferInstanceAs (Decidable (∀ _ ∈ _, ∀ _ ∈ _, _ → _ → _ = none))

/-- A removal of an active department finds no context of its manager in the cache. -/
def RemovalKeepsContexts (s : AuthState) (reference : String) : Prop :=
  ∀ department ∈ (findOne s.directory.db reference).toOption,
    countAssignedUsers s.directory.db department.id = 0 → department.isActive = true →
    managerContext? s department = none

instance (s : AuthState) (reference : String) : Decidable (RemovalKeepsContexts s reference) :=
  inferInstanceAs (Decidable (∀ _ ∈ _, _ → _ → _ = none))

/-- An update writes the department, and forgets the contexts of the managers when they
    change. -/
theorem updateDepartment_ok {reference : String} {input : UpdateDepartmentInput} {s' : AuthState}
    {u : Unit} (h : updateDepartment reference input s = .ok (u, s')) :
    ∃ department nextManagerId s₁, findOne s.directory.db reference = .ok department ∧
      resolveNextManager s.directory.db department input.managerReference = .ok nextManagerId ∧
      AuthTx.ofDb (applyUpdate department nextManagerId input) s = .ok ((), s₁) ∧
      s'.directory = s₁.directory ∧
      (nextManagerId.save department.managerId ≠ department.managerId →
        invalidateAuthContextForManagerIds
          [department.managerId, nextManagerId.save department.managerId] s₁ = .ok (u, s')) := by
  rw [updateDepartment, Transaction.query_bind_eq_ok] at h
  obtain ⟨department, hfind, h⟩ := h
  rw [Transaction.query_bind_eq_ok] at h
  obtain ⟨nextManagerId, hresolve, h⟩ := h
  obtain ⟨_, s₁, hwrite, h⟩ := Transaction.bind_eq_ok.1 h
  refine ⟨department, nextManagerId, s₁, hfind, hresolve, hwrite, ?_⟩
  split at h
  · exact ⟨by rw [(invalidateAuthContextForManagerIds_ok h).1], fun _ => h⟩
  · next hkept =>
    obtain ⟨-, rfl⟩ := Transaction.pure_eq_ok.1 h
    exact ⟨rfl, fun hchanged => absurd hchanged hkept⟩

/-- An update that keeps the manager writes the department and invalidates nothing. -/
theorem updateDepartment_of_kept {reference : String} {input : UpdateDepartmentInput}
    {department : Department} {nextManagerId : Property Nat}
    (hfind : findOne s.directory.db reference = .ok department)
    (hresolve : resolveNextManager s.directory.db department input.managerReference = .ok nextManagerId)
    (hmanager : nextManagerId.save department.managerId = department.managerId) :
    updateDepartment reference input s = .ok ((), { s with
      directory := { s.directory with store := { s.directory.db with
        departments := s.directory.store.departments.replace { department with
          isActive := input.isActive.getD department.isActive } } } }) := by
  have hwrite : applyUpdate department nextManagerId input s.directory.db =
      .ok ((), { s.directory.db with
        departments := s.directory.store.departments.replace { department with
          isActive := input.isActive.getD department.isActive } }) := by
    simp only [applyUpdate, hmanager, ne_eq, not_true_eq_false, if_false, Transaction.write_eq_ok]
    rfl
  rw [updateDepartment, Transaction.query_bind_eq_ok]
  refine ⟨department, hfind, ?_⟩
  rw [Transaction.query_bind_eq_ok]
  refine ⟨nextManagerId, hresolve, ?_⟩
  rw [Transaction.bind_eq_ok]
  refine ⟨(), _, AuthTx.ofDb_eq_ok.2 ⟨_, hwrite, rfl⟩, ?_⟩
  rw [if_neg (not_not.2 hmanager), Transaction.pure_eq_ok]
  exact ⟨rfl, rfl⟩

/-- An update that changes the manager leaves no context of the old or the new one. -/
theorem updateDepartment_of_changed {reference : String} {input : UpdateDepartmentInput}
    {department : Department} {nextManagerId : Property Nat} {s' : AuthState} {u : Unit}
    (hfind : findOne s.directory.db reference = .ok department)
    (hresolve : resolveNextManager s.directory.db department input.managerReference = .ok nextManagerId)
    (hmanager : nextManagerId.save department.managerId ≠ department.managerId)
    (h : updateDepartment reference input s = .ok (u, s')) (hs : s.Coherent) : s'.Coherent := by
  obtain ⟨department', nextManagerId', s₁, hfind', hresolve', hwrite, -, hinvalidate⟩ :=
    updateDepartment_ok h
  cases hfind.symm.trans hfind'
  cases hresolve.symm.trans hresolve'
  obtain ⟨hframe, hheld, hgone⟩ := invalidateAuthContextForManagerIds_ok (hinvalidate hmanager)
  have htouches := @touches_replaceDepartment s s₁ () _ department
    { department with
      isActive := input.isActive.getD department.isActive
      managerId := nextManagerId.save department.managerId } hwrite (findOne_eq_ok hfind).1 rfl
    (fun db' hx => by obtain ⟨_, rfl, -⟩ := applyUpdate_ok hx; rfl)
  have hrest := htouches.trans ⟨hheld, fun _ _ => by rw [hframe]⟩
  refine hrest.coherent ?_ hs
  rintro reference ⟨userId, hreference, hmanages⟩
  refine hgone userId reference ?_ ?_
  · rcases hmanages with hmanages | hmanages
    · exact hmanages ▸ List.mem_cons_self
    · exact hmanages ▸ List.mem_cons_of_mem _ List.mem_cons_self
  · rwa [IsReferenceOf, AuthTx.ofDb_frame hwrite]

theorem updateDepartment_coherent_iff {reference : String} {input : UpdateDepartmentInput}
    (hs : s.Coherent) :
    ((updateDepartment reference input).commit s).Coherent ↔ UpdateKeepsContexts s reference input := by
  cases hfind : findOne s.directory.db reference with
  | error e =>
    have herror : updateDepartment reference input s = .error e := by
      rw [updateDepartment, Transaction.query_bind_eq_error]
      exact .inl hfind
    rw [Transaction.commit_of_error herror]
    exact iff_of_true hs (by simp [UpdateKeepsContexts, hfind, Except.toOption])
  | ok department =>
    cases hresolve : resolveNextManager s.directory.db department input.managerReference with
    | error e =>
      have herror : updateDepartment reference input s = .error e := by
        rw [updateDepartment, Transaction.query_bind_eq_error]
        refine .inr ⟨department, hfind, ?_⟩
        rw [Transaction.query_bind_eq_error]
        exact .inl hresolve
      rw [Transaction.commit_of_error herror]
      exact iff_of_true hs (by simp [UpdateKeepsContexts, hfind, hresolve, Except.toOption])
    | ok nextManagerId =>
      have hkeeps : UpdateKeepsContexts s reference input ↔
          (nextManagerId.save department.managerId = department.managerId →
            input.isActive.getD department.isActive ≠ department.isActive →
            managerContext? s department = none) := by
        simp [UpdateKeepsContexts, hfind, hresolve, Except.toOption]
      rw [hkeeps]
      by_cases hmanager : nextManagerId.save department.managerId = department.managerId
      · obtain ⟨hdepartment, hlive⟩ := findOne_eq_ok hfind
        rw [Transaction.commit_of_ok (updateDepartment_of_kept hfind hresolve hmanager)]
        refine (@coherent_replaceDepartment_iff s _ department { department with
          isActive := input.isActive.getD department.isActive } hs hdepartment hlive rfl rfl rfl).trans ?_
        simp [hmanager, hlive]
      · refine iff_of_true ?_ (fun hkept => absurd hkept hmanager)
        rcases Transaction.commit_cases (updateDepartment reference input) s with ⟨_, hok⟩ | ⟨-, hsame⟩
        · exact updateDepartment_of_changed hfind hresolve hmanager hok hs
        · exact hsame.symm ▸ hs

theorem remove_eq_ok {now : Instant} {reference : String} {db db' : Db} {u : Unit} :
    remove now reference db = .ok (u, db') ↔ ∃ department, findOne db reference = .ok department ∧
      countAssignedUsers db department.id = 0 ∧ db' = { db with
        departments := db.departments.replace
          { department with isActive := false, deletedAt := some now } } := by
  simp only [remove, Transaction.query_bind_eq_ok, Transaction.read_bind,
    Transaction.require_bind_eq_ok, Transaction.write_eq_ok, eq_comm (a := db')]

theorem remove_coherent_iff {now : Instant} {reference : String} (hs : s.Coherent) :
    ((AuthTx.ofDb (remove now reference)).commit s).Coherent ↔ RemovalKeepsContexts s reference := by
  rcases Transaction.commit_cases (AuthTx.ofDb (remove now reference)) s with ⟨_, hok⟩ | ⟨herror, hsame⟩
  · obtain ⟨db', hremove, hcommit⟩ := AuthTx.ofDb_eq_ok.1 hok
    obtain ⟨department, hfind, hassigned, rfl⟩ := remove_eq_ok.1 hremove
    obtain ⟨hdepartment, hlive⟩ := findOne_eq_ok hfind
    rw [hcommit]
    refine (@coherent_replaceDepartment_iff s _ department
      { department with isActive := false, deletedAt := some now } hs hdepartment hlive rfl rfl rfl).trans ?_
    simp [RemovalKeepsContexts, hfind, hassigned, Except.toOption]
  · rw [hsame]
    refine iff_of_true hs (fun department hfind hassigned _ => ?_)
    -- such a removal is not refused
    have hfound : findOne s.directory.db reference = .ok department := by
      cases hresult : findOne s.directory.db reference with
      | error e => simp [hresult, Except.toOption] at hfind
      | ok found =>
        rw [hresult] at hfind
        cases hfind
        rfl
    exact absurd (AuthTx.ofDb_eq_ok.2 ⟨_, remove_eq_ok.2 ⟨department, hfound, hassigned, rfl⟩, rfl⟩)
      (herror () _)

end Flag

end Expentra.DepartmentService
