-- SUMMARY: Administration one call at a time: when every cached context is the one the rows yield.
import Expentra.Identity.Roles
import Expentra.Identity.Tokens
import Expentra.Library.Run

/-!
# Cached authority

The context of a user is derived from the row of the user, its role with the permissions
of that, and the departments the user manages. Each operation has to invalidate the users
whose context it changes. All of them do but two: the active flag of a department and its
removal change what the manager manages, and invalidate nothing.
-/

namespace Expentra

open Library

/-- A call that runs to its end, or the time to live of a key that passes. -/
inductive AdminOperation where
  | suspendUser (now : Instant) (actorId targetUserId : Nat)
  | activateUser (actorId targetUserId : Nat)
  | adminUpdate (now : Instant) (actor : AuthUser) (targetUserId : Nat) (input : AdminUpdateUserInput)
  | updateRole (reference : String) (input : UpdateRoleInput)
  | setPermissions (actor : AuthUser) (reference : String) (permissionReferences : List String)
  | updateDepartment (reference : String) (input : DepartmentService.UpdateDepartmentInput)
  | removeDepartment (now : Instant) (reference : String)
  | releaseManager (departmentId userId : Nat)
  | validate (reference : String)
  | expire (reference : String)

namespace AdminOperation

def perform (cfg : Config) (ttlSeconds : Int) : AdminOperation → AuthTx Unit
  | suspendUser now actorId targetUserId => UserService.suspendUser now actorId targetUserId
  | activateUser actorId targetUserId => UserService.activateUser actorId targetUserId
  | adminUpdate now actor targetUserId input =>
    UserService.adminUpdate cfg now actor targetUserId input
  | updateRole reference input => RoleService.update reference input
  | setPermissions actor reference permissionReferences =>
    RoleService.setPermissions actor reference permissionReferences
  | updateDepartment reference input => DepartmentService.updateDepartment reference input
  | removeDepartment now reference => AuthTx.ofDb (DepartmentService.remove now reference)
  | releaseManager departmentId userId =>
    DepartmentService.releaseManagerIfUserLeftDepartment departmentId userId false
  | validate reference => do
    let _ ← JwtStrategy.validate ttlSeconds reference
    pure ()
  | expire reference => AuthContextCache.invalidate reference

/-- One completed call after the other. -/
def Step (cfg : Config) (ttlSeconds : Int) (s : AuthState) (op : AdminOperation) (s' : AuthState) :
    Prop :=
  s' = (op.perform cfg ttlSeconds).commit s

/-- No department is switched on, off or removed under a cached context of its manager,
    unless the manager changes with it. -/
def KeepsContexts (s : AuthState) : AdminOperation → Prop
  | updateDepartment reference input => DepartmentService.UpdateKeepsContexts s reference input
  | removeDepartment _ reference => DepartmentService.RemovalKeepsContexts s reference
  | _ => True

instance (s : AuthState) (op : AdminOperation) : Decidable (KeepsContexts s op) := by
  cases op <;> unfold KeepsContexts <;> infer_instance

end AdminOperation

/-! ## The operations on users -/

namespace UserService

variable {s s' : AuthState} {u : Unit} {row row' : UserRow}

/-- A change of the row of a user touches the context of the user. -/
theorem touches_setUser (hrow : row ∈ s.directory.users) (hid : row'.id = row.id)
    (hreference : row'.reference = row.reference) :
    Touches (· = row.reference) s (s.setUser row') :=
  ⟨fun _ _ hc => hc, fun _ hother =>
    Directory.currentContext_replaceUser hrow hid hreference hother⟩

/-- A change of the contexts of one user, which is then invalidated. -/
theorem coherent_of_del {s'' : AuthState} {reference : String} (hs : s.Coherent)
    (htouches : Touches (· = reference) s s') (hdirectory : s''.directory = s'.directory)
    (hcontexts : s''.contexts = s'.contexts.del reference) : s''.Coherent := by
  have hdel : Touches (· = reference) s s'' := by
    refine htouches.trans ⟨fun r context hc => ?_, fun _ _ => by rw [hdirectory]⟩
    rw [hcontexts] at hc
    by_cases heq : r = reference
    · subst heq
      rw [Redis.del_self] at hc
      cases hc
    · rwa [Redis.del_of_ne heq] at hc
  refine hdel.coherent ?_ hs
  rintro _ rfl
  rw [hcontexts]
  exact Redis.del_self

theorem suspendUser_coherent {now : Instant} {actorId targetUserId : Nat} (hs : s.Coherent)
    (h : suspendUser now actorId targetUserId s = .ok (u, s')) : s'.Coherent := by
  obtain ⟨-, row, hrow, -, hstate⟩ := suspendUser_ok h
  rw [hstate]
  refine coherent_of_del hs (touches_setUser (Table.mem_of_find? hrow) ?_ ?_) rfl rfl <;> rfl

theorem activateUser_coherent {actorId targetUserId : Nat} (hs : s.Coherent)
    (h : activateUser actorId targetUserId s = .ok (u, s')) : s'.Coherent := by
  obtain ⟨-, row, hrow, hstate⟩ := activateUser_ok h
  rw [hstate]
  refine coherent_of_del hs (touches_setUser (Table.mem_of_find? hrow) ?_ ?_) rfl rfl <;> rfl

/-- The transaction of `adminUpdate` touches the context of the user. -/
theorem saveAdminUpdate_touches {cfg : Config} {input : AdminUpdateUserInput}
    {previousDepartmentId : Option Nat} {edited : UserEntity} {id : Nat}
    (hrow : s.directory.users.find? id = some row) (hid : edited.id = row.id)
    (h : saveAdminUpdate cfg input previousDepartmentId edited s = .ok (u, s')) :
    Touches (· = row.reference) s s' := by
  have hfound : s.directory.users.find? edited.id = some row := by
    rwa [hid, Table.key_of_find? hrow]
  have hsaved : Touches (· = row.reference) s (s.setUser (row.save edited)) :=
    touches_setUser (Table.mem_of_find? hrow) rfl rfl
  refine hsaved.trans ((saveAdminUpdate_ok hfound h).1.mono ?_)
  rintro _ ⟨other, hother, hotherId, rfl⟩
  -- the row with the id is the saved one
  have hold : s.directory.users.find? row.id = some row :=
    Table.find?_of_mem (Table.mem_of_find? hrow)
  have hself : row.save edited ∈ s.directory.users.replace (row.save edited) :=
    Table.mem_replace_self hold
  have hsame : other = row.save edited := Table.eq_of_key_eq hother hself (hotherId.trans hid)
  rw [hsame]
  rfl

theorem adminUpdate_coherent {cfg : Config} {now : Instant} {actor : AuthUser} {targetUserId : Nat}
    {input : AdminUpdateUserInput} (hs : s.Coherent)
    (h : adminUpdate cfg now actor targetUserId input s = .ok (u, s')) : s'.Coherent := by
  obtain ⟨row, edited, changed, s₁, hrow, -, hid, -, hsave, hstate⟩ := adminUpdate_ok h
  rw [hstate]
  exact coherent_of_del hs (saveAdminUpdate_touches hrow hid hsave) rfl rfl

end UserService

theorem DepartmentService.releaseManagerIfUserLeftDepartment_coherent {s s' : AuthState} {u : Unit}
    {departmentId userId : Nat} {inTransaction : Bool} (hs : s.Coherent)
    (h : releaseManagerIfUserLeftDepartment departmentId userId inTransaction s = .ok (u, s')) :
    s'.Coherent := by
  rcases releaseManagerIfUserLeftDepartment_ok h with rfl | ⟨htouches, hgone⟩
  · exact hs
  · exact htouches.coherent hgone hs

/-! ## Runs -/

namespace AdminOperation

/-- A call keeps a coherent cache coherent if and only if it meets the condition. -/
theorem perform_coherent_iff {cfg : Config} {ttlSeconds : Int} {s : AuthState} {op : AdminOperation}
    (hs : s.Coherent) :
    ((op.perform cfg ttlSeconds).commit s).Coherent ↔ KeepsContexts s op := by
  cases op with
  | updateDepartment reference input => exact DepartmentService.updateDepartment_coherent_iff hs
  | removeDepartment now reference => exact DepartmentService.remove_coherent_iff hs
  | suspendUser now actorId targetUserId =>
    refine iff_of_true (Transaction.commit_induction hs (fun _ s' h => ?_)) trivial
    rw [perform] at h
    exact UserService.suspendUser_coherent hs h
  | activateUser actorId targetUserId =>
    refine iff_of_true (Transaction.commit_induction hs (fun _ s' h => ?_)) trivial
    rw [perform] at h
    exact UserService.activateUser_coherent hs h
  | adminUpdate now actor targetUserId input =>
    refine iff_of_true (Transaction.commit_induction hs (fun _ s' h => ?_)) trivial
    rw [perform] at h
    exact UserService.adminUpdate_coherent hs h
  | updateRole reference input =>
    refine iff_of_true (Transaction.commit_induction hs (fun _ s' h => ?_)) trivial
    rw [perform] at h
    exact RoleService.update_coherent hs h
  | setPermissions actor reference permissionReferences =>
    refine iff_of_true (Transaction.commit_induction hs (fun _ s' h => ?_)) trivial
    rw [perform] at h
    exact RoleService.setPermissions_coherent hs h
  | releaseManager departmentId userId =>
    refine iff_of_true (Transaction.commit_induction hs (fun _ s' h => ?_)) trivial
    rw [perform] at h
    exact DepartmentService.releaseManagerIfUserLeftDepartment_coherent hs h
  | validate reference =>
    refine iff_of_true (Transaction.commit_induction hs (fun _ s' h => ?_)) trivial
    rw [perform, Transaction.bind_eq_ok] at h
    obtain ⟨_, s₁, hvalidate, hpure⟩ := h
    rw [Transaction.pure_eq_ok] at hpure
    exact hpure.2 ▸ JwtStrategy.validate_coherent hs hvalidate
  | expire reference =>
    refine iff_of_true (Transaction.commit_induction hs (fun _ s' h => ?_)) trivial
    rw [perform, AuthContextCache.invalidate_eq_ok] at h
    rw [h]
    exact UserService.coherent_of_del hs .refl rfl rfl

/-- Over a run of completed calls every cached context is the current one, if and only if
    no call switches or removes a department under a cached context of its manager. -/
theorem contexts_current_iff (cfg : Config) (ttlSeconds : Int) (s : AuthState)
    (tr : List (AdminOperation × AuthState)) (hs : s.Coherent) (h : Run (Step cfg ttlSeconds) s tr) :
    (∀ t ∈ Run.states s tr, t.Coherent) ↔
      ∀ step ∈ Run.steps s tr, KeepsContexts step.1 step.2 := by
  refine Run.forall_states_iff (I := fun _ => True) (fun _ _ _ _ _ => trivial) ?_ trivial hs h
  rintro t op t' - ht rfl
  exact perform_coherent_iff ht

end AdminOperation

namespace Sample

def budgetConfig : Config := ⟨BudgetPeriod.utcZone, false⟩

/-- The manager signs in, the department is switched off and loses its manager, who signs in
    again and is then suspended. -/
def validated : List AdminOperation :=
  [.validate managerRow.reference, .updateDepartment "DPT1700000000005AAAAAA" ⟨some false, .null⟩,
    .validate managerRow.reference, .suspendUser 1700000000000 1 2]

/-- The manager signs in, and the department is then switched off. -/
def switchedOff : List AdminOperation :=
  [.validate managerRow.reference,
    .updateDepartment "DPT1700000000005AAAAAA" ⟨some false, .undefined⟩]

def afterCall (s : AuthState) (op : AdminOperation) : AuthState :=
  (op.perform budgetConfig 60).commit s

theorem authState_coherent : authState.Coherent := Library.Coherent.empty

end Sample

/-- The context of the manager is read with the department and without it. -/
theorem AdminOperation.contexts_current_sample :
    ∃ tr : List (AdminOperation × AuthState), tr.map Prod.fst = Sample.validated ∧
      (Run.states Sample.authState tr).map (fun t =>
          (t.contexts Sample.managerRow.reference).map (·.managedDepartmentIds)) =
        [none, some [1], none, some [], none] ∧
      ∀ t ∈ Run.states Sample.authState tr, t.Coherent := by
  refine ⟨_, Run.map_fst_trace Sample.afterCall Sample.authState _, by decide +kernel, ?_⟩
  refine (contexts_current_iff Sample.budgetConfig 60 Sample.authState _ Sample.authState_coherent
    (Run.run_trace Sample.afterCall _ _)).2 ?_
  decide +kernel

/-- The context of the manager still lists the department that was switched off. -/
theorem AdminOperation.inactive_department_cached :
    Sample.authState.Coherent ∧ ∃ tr, Run (Step Sample.budgetConfig 60) Sample.authState tr ∧
      tr.map Prod.fst = Sample.switchedOff ∧ ∃ t ∈ Run.states Sample.authState tr,
        (t.contexts Sample.managerRow.reference).map (·.managedDepartmentIds) = some [1] ∧
        (t.directory.currentContext Sample.managerRow.reference).map (·.managedDepartmentIds) =
          some [] ∧ ¬ t.Coherent := by
  have hlast : ((Run.states Sample.authState
      (Run.trace Sample.afterCall Sample.authState Sample.switchedOff)).any (fun t =>
        (t.contexts Sample.managerRow.reference).map (·.managedDepartmentIds) = some [1] ∧
        (t.directory.currentContext Sample.managerRow.reference).map (·.managedDepartmentIds) =
          some [])) = true := by decide +kernel
  obtain ⟨t, ht, hvalues⟩ := List.any_eq_true.1 hlast
  obtain ⟨hcached, hcurrent⟩ := of_decide_eq_true hvalues
  refine ⟨Sample.authState_coherent, _, Run.run_trace Sample.afterCall _ _, Run.map_fst_trace _ _ _,
    t, ht, hcached, hcurrent, fun hcoherent => ?_⟩
  obtain ⟨context, hcontext, hids⟩ := Option.map_eq_some_iff.1 hcached
  rw [hcoherent _ _ hcontext, Option.map_some, hids] at hcurrent
  cases hcurrent

end Expentra
