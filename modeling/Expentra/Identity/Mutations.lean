-- SUMMARY: The calls that change a user, cut into checks, assignments and what follows the save.
import Expentra.Identity.Users

/-!
# Changes of a user, cut into steps

`suspendUser`, `activateUser` and `adminUpdate` check the request, read the user, assign
to it, save it, and then invalidate. The parts are those of the calls that run alone; here
they stand by themselves, so that the steps of other calls can come between them.
-/

namespace Expentra

/-- A call that changes the user and invalidates the context. -/
inductive Mutation where
  | suspendUser (now : Instant) (actorId : Nat)
  | activateUser (actorId : Nat)
  | adminUpdate (now : Instant) (actor : AuthUser) (input : AdminUpdateUserInput)

namespace Mutation

/-- The checks before the user is read. -/
def check (id : Nat) : Mutation → Except HttpException Unit
  | suspendUser _ actorId => UserService.assertCanChangeUserActiveState actorId id false
  | activateUser actorId => UserService.assertCanChangeUserActiveState actorId id true
  | adminUpdate _ _ input =>
    if UserService.hasAdminUpdateFields input then .ok ()
    else .error (.badRequest "At least one field must be provided to update a user")

/-- The assignments, and whether the active state was among them. -/
def edit (d : Directory) (user : UserEntity) : Mutation → Except HttpException (UserEntity × Bool)
  | suspendUser now _ => (UserService.suspend now user).map (fun edited => (edited, true))
  | activateUser _ => (UserService.activate user).map (fun edited => (edited, true))
  | adminUpdate now actor input => UserService.adminEdit d now actor input user

/-- What follows the invalidation: a suspended user loses the sessions. -/
def handle (edited : UserEntity) (changed : Bool) : AuthTx Unit :=
  if changed then UserService.handleUserActiveStateChanged edited else pure ()

variable {mutation : Mutation} {d : Directory} {user edited : UserEntity} {changed : Bool}

/-- The assignments are to four fields. -/
theorem edit_fields (h : mutation.edit d user = .ok (edited, changed)) :
    edited = { user with
      roleId := edited.roleId
      departmentId := edited.departmentId
      isActive := edited.isActive
      deactivatedAt := edited.deactivatedAt } := by
  cases mutation with
  | suspendUser now actorId =>
    rw [edit, UserService.suspend] at h
    split at h
    · cases h
    · cases h
      rfl
  | activateUser actorId =>
    rw [edit, UserService.activate] at h
    split at h
    · cases h
    · cases h
      rfl
  | adminUpdate now actor input => exact UserService.adminEdit_fields h

theorem edit_id (h : mutation.edit d user = .ok (edited, changed)) :
    edited.id = user.id ∧ edited.reference = user.reference := by
  rw [edit_fields h]
  exact ⟨rfl, rfl⟩

theorem handle_frame (s : AuthState) (edited : UserEntity) (changed : Bool) :
    ((handle edited changed).commit s).directory = s.directory ∧
      ((handle edited changed).commit s).contexts = s.contexts := by
  unfold handle
  split
  · refine Library.Transaction.commit_induction (P := fun s' : AuthState =>
      s'.directory = s.directory ∧ s'.contexts = s.contexts) ⟨rfl, rfl⟩ ?_
    intro _ s' hhandle
    rw [UserService.handleUserActiveStateChanged_ok hhandle]
    exact ⟨rfl, rfl⟩
  · exact ⟨rfl, rfl⟩

end Mutation

end Expentra
