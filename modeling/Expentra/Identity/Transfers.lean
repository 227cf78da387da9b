-- SUMMARY: Transfers of users between departments: what an update stores, and what its event says.
import Expentra.Department.Membership

/-!
# Transfers

An administrator moves a user to another department, or out of every department with a
`departmentReference` that is `null`. The latter sets `user.departmentId` to `undefined`,
which `save` skips: the row keeps its department, while the former manager is released,
the budgets are moved, and the event tells of a user without a department.
-/

namespace Expentra

open Library UserService

namespace Transfers

/-- The payload of `user.department_changed`. An id that was loaded from an empty column is
    `null`, and one of a user who has left is `undefined`. -/
structure UserDepartmentChangedEvent where
  actorUserId : Nat
  userId : Nat
  userReference : String
  previousDepartmentId : Property Nat
  nextDepartmentId : Property Nat
  previousDepartmentReference : Option String
  nextDepartmentReference : Option String
deriving DecidableEq, Repr

/-- `user.department` after the assignments. -/
def assignedDepartment (d : Directory) (input : AdminUpdateUserInput) (user : UserEntity) :
    Option Department :=
  match input.departmentReference with
  | .undefined => d.db.departmentRelation user.departmentId.toOption
  | .null => none
  | .value departmentReference => (DepartmentService.findOne d.db departmentReference).toOption

/-- The event of an update, by what was loaded and what was saved. -/
def departmentChanged (actor : AuthUser) (input : AdminUpdateUserInput) (user edited : UserEntity)
    (previousDepartment nextDepartment : Option Department) : Option UserDepartmentChangedEvent :=
  if input.departmentReference ≠ .undefined ∧ user.departmentId ≠ edited.departmentId then
    some ⟨actor.id, edited.id, edited.reference, user.departmentId, edited.departmentId,
      previousDepartment.map (·.reference), nextDepartment.map (·.reference)⟩
  else none

/-- A call of `adminUpdate`. -/
structure AdminCall where
  now : Instant
  actor : AuthUser
  targetUserId : Nat
  input : AdminUpdateUserInput

/-- `UserService.adminUpdate`, with the event it emits. -/
def AdminCall.perform (cfg : Config) (call : AdminCall) :
    AuthTx (Option UserDepartmentChangedEvent) := do
  Transaction.require (hasAdminUpdateFields call.input = true)
    (.badRequest "At least one field must be provided to update a user")
  let user ← Transaction.query (fun s : AuthState => findOne s.directory call.targetUserId)
  let previousDepartment ← Transaction.read (fun s : AuthState =>
    s.directory.db.departmentRelation user.departmentId.toOption)
  let (edited, activeStateChanged) ← Transaction.query (fun s : AuthState =>
    adminEdit s.directory call.now call.actor call.input user)
  let nextDepartment ← Transaction.read (fun s : AuthState =>
    assignedDepartment s.directory call.input user)
  saveAdminUpdate cfg call.input user.departmentId.toOption edited
  AuthContextCache.invalidate edited.reference
  (if activeStateChanged then handleUserActiveStateChanged edited else pure () : AuthTx Unit)
  pure (departmentChanged call.actor call.input user edited previousDepartment nextDepartment)

/-! ## Stored departments -/

/-- The department in the row of a user. -/
def storedDepartment (s : AuthState) (userId : Nat) : Option Nat :=
  (s.directory.users.find? userId).bind (·.departmentId)

/-- The reference of a department that is not deleted. -/
def departmentReference (s : AuthState) (departmentId : Option Nat) : Option String :=
  (s.directory.db.departmentRelation departmentId).map (·.reference)

/-- What an update emits is what it changed in the row: nothing if it emits no event. -/
def Describes (s s' : AuthState) (userId : Nat) : Option UserDepartmentChangedEvent → Prop
  | none => storedDepartment s' userId = storedDepartment s userId
  | some event => event.userId = userId ∧
      event.previousDepartmentId.toOption = storedDepartment s userId ∧
      event.nextDepartmentId.toOption = storedDepartment s' userId ∧
      event.previousDepartmentReference = departmentReference s (storedDepartment s userId) ∧
      event.nextDepartmentReference = departmentReference s' (storedDepartment s' userId)

/-- A user is out of the department: the row has none, the former one has another manager or
    none, and the event says so. -/
structure Removed (s s' : AuthState) (userId : Nat) (event : Option UserDepartmentChangedEvent) :
    Prop where
  stored : storedDepartment s' userId = none
  manager : ∀ former, storedDepartment s userId = some former →
    ∀ department ∈ s'.directory.store.departments, department.id = former →
      department.managerId ≠ some userId
  described : Describes s s' userId event

/-- A removal that succeeds is one. -/
def RemovesReally (cfg : Config) (s : AuthState) (call : AdminCall) : Prop :=
  call.input.departmentReference = .null → ∀ event s', call.perform cfg s = .ok (event, s') →
    Removed s s' call.targetUserId event

/-- A removal that succeeds finds a user without a department. -/
def FindsNoDepartment (cfg : Config) (s : AuthState) (call : AdminCall) : Prop :=
  call.input.departmentReference = .null → (call.perform cfg s).isOk = true →
    storedDepartment s call.targetUserId = none

/-! ## One call -/

section Call

variable {cfg : Config} {s s' : AuthState} {call : AdminCall}
  {event : Option UserDepartmentChangedEvent}

/-- The event apart, the call is `adminUpdate`. -/
theorem perform_ok (h : call.perform cfg s = .ok (event, s')) :
    adminUpdate cfg call.now call.actor call.targetUserId call.input s = .ok ((), s') ∧
    ∃ row edited changed, s.directory.users.find? call.targetUserId = some row ∧
      adminEdit s.directory call.now call.actor call.input row.toEntity = .ok (edited, changed) ∧
      event = departmentChanged call.actor call.input row.toEntity edited
        (s.directory.db.departmentRelation row.departmentId)
        (assignedDepartment s.directory call.input row.toEntity) := by
  rw [AdminCall.perform, Transaction.require_bind_eq_ok, Transaction.query_bind_eq_ok] at h
  obtain ⟨hfields, user, hfind, h⟩ := h
  rw [Transaction.read_bind, Transaction.query_bind_eq_ok] at h
  obtain ⟨⟨edited, changed⟩, hedit, h⟩ := h
  dsimp only at h
  rw [Transaction.read_bind] at h
  obtain ⟨_, s₁, hsave, h⟩ := Transaction.bind_eq_ok.1 h
  obtain ⟨_, s₂, hinvalidate, h⟩ := Transaction.bind_eq_ok.1 h
  obtain ⟨_, s₃, hhandle, h⟩ := Transaction.bind_eq_ok.1 h
  obtain ⟨rfl, rfl⟩ := Transaction.pure_eq_ok.1 h
  refine ⟨?_, ?_⟩
  · rw [adminUpdate, Transaction.require_bind_eq_ok, Transaction.query_bind_eq_ok]
    refine ⟨hfields, user, hfind, ?_⟩
    rw [Transaction.query_bind_eq_ok]
    refine ⟨⟨edited, changed⟩, hedit, ?_⟩
    dsimp only
    exact Transaction.bind_eq_ok.2 ⟨_, s₁, hsave, Transaction.bind_eq_ok.2 ⟨_, s₂, hinvalidate, hhandle⟩⟩
  · obtain ⟨row, hrow, rfl⟩ := findOne_eq_ok.1 hfind
    refine ⟨row, edited, changed, hrow, hedit, ?_⟩
    simp [UserRow.toEntity]

/-- The column `department_id` after an update: leaving a department is skipped. -/
def savedDepartment (d : Directory) (departmentReference : Property String) (column : Option Nat) :
    Option Nat :=
  match departmentReference with
  | .value reference => (DepartmentService.findOne d.db reference).toOption.map (·.id)
  | _ => column

theorem save_adminEdit {d : Directory} {row : UserRow} {edited : UserEntity} {changed : Bool}
    (h : adminEdit d call.now call.actor call.input row.toEntity = .ok (edited, changed)) :
    edited.departmentId.save row.departmentId =
      savedDepartment d call.input.departmentReference row.departmentId := by
  obtain ⟨withRole, withDepartment, hrole, hdepartment, hactive⟩ := UserService.adminEdit_ok h
  have hkept : edited.departmentId = withDepartment.departmentId := by
    rw [(assignActiveState_ok hactive).1]
  have hbefore : withRole.departmentId = .ofColumn row.departmentId := by
    rcases assignRole_ok hrole with ⟨-, rfl⟩ | ⟨role, -, -, -, rfl⟩ <;> rfl
  rw [hkept]
  cases hreference : call.input.departmentReference with
  | undefined =>
    rw [hreference] at hdepartment
    cases hdepartment
    rw [hbefore, Property.save_ofColumn]
    rfl
  | null =>
    rw [hreference] at hdepartment
    cases hdepartment
    rfl
  | value reference =>
    rw [hreference] at hdepartment
    obtain ⟨department, hfind, hdepartment⟩ := Except.bind_eq_ok.1 hdepartment
    split at hdepartment
    · cases hdepartment
    · cases hdepartment
      rw [savedDepartment, hfind]
      rfl

/-- What an update stores for every user. -/
theorem storedDepartment_perform (h : call.perform cfg s = .ok (event, s')) (userId : Nat) :
    storedDepartment s' userId =
      if userId = call.targetUserId then
        savedDepartment s.directory call.input.departmentReference (storedDepartment s userId)
      else storedDepartment s userId := by
  obtain ⟨row, edited, changed, hrow, hedit, hs'⟩ := adminUpdate_frame (perform_ok h).1
  have hid : row.id = call.targetUserId := Table.key_of_find? hrow
  have husers : s'.directory.users = s.directory.users.replace (row.save edited) := by rw [hs']
  rw [← hid] at hrow ⊢
  unfold storedDepartment
  rw [husers]
  split
  · rename_i hself
    have hsaved : (s.directory.users.replace (row.save edited)).find? row.id = some (row.save edited) :=
      Table.find?_replace_self (r := row.save edited) hrow
    rw [hself, hsaved, hrow, Option.bind_some, Option.bind_some]
    exact save_adminEdit hedit
  · rename_i hother
    rw [Table.find?_replace_ne (r := row.save edited) hother]

/-- The slip: a removal that succeeds leaves the department of the row as it was. -/
theorem removal_stores_nothing (hnull : call.input.departmentReference = .null)
    (h : call.perform cfg s = .ok (event, s')) (userId : Nat) :
    storedDepartment s' userId = storedDepartment s userId := by
  rw [storedDepartment_perform h, hnull]
  split <;> rfl

/-- A removal releases the manager all the same. -/
theorem removal_releases (hnull : call.input.departmentReference = .null)
    (h : call.perform cfg s = .ok (event, s')) {department : Department}
    (hmem : department ∈ s'.directory.store.departments) (hlive : department.deletedAt = none)
    (hpositive : 0 < department.id) (hstored : storedDepartment s call.targetUserId = some department.id) :
    department.managerId ≠ some call.targetUserId := by
  obtain ⟨row, edited, changed, s₁, hrow, hedit, hid, -, hsave, hs'⟩ :=
    UserService.adminUpdate_ok (perform_ok h).1
  have hrowid : row.id = call.targetUserId := Table.key_of_find? hrow
  obtain ⟨_, s₂, -, hrest⟩ := Transaction.bind_eq_ok.1 hsave
  have hmentions : call.input.departmentReference ≠ .undefined := by
    rw [hnull]
    nofun
  rw [if_pos hmentions] at hrest
  have hleft : edited.departmentId.toOption = none := by
    rw [(Membership.adminEdit_department hedit).2 hmentions, hnull]
    rfl
  have hbefore : row.departmentId = some department.id := by
    rw [storedDepartment, hrow] at hstored
    exact hstored
  rw [hleft, hbefore, hid, hrowid] at hrest
  have hmem₁ : department ∈ s₁.directory.store.departments := by
    rw [hs'] at hmem
    exact hmem
  intro hmanager
  exact (Membership.applyWithinTransaction_departments hrest).2.2 nofun department hmem₁ hlive hmanager
    hpositive rfl

theorem departmentReference_none : departmentReference s none = none := rfl

/-- The event of a removal tells of a user who had the stored department and has none. -/
theorem event_of_removal (hnull : call.input.departmentReference = .null)
    (h : call.perform cfg s = .ok (event, s')) : ∃ reported, event = some reported ∧
      reported.userId = call.targetUserId ∧
      reported.previousDepartmentId.toOption = storedDepartment s call.targetUserId ∧
      reported.nextDepartmentId.toOption = none ∧
      reported.previousDepartmentReference =
        departmentReference s (storedDepartment s call.targetUserId) ∧
      reported.nextDepartmentReference = none := by
  obtain ⟨-, row, edited, changed, hrow, hedit, rfl⟩ := perform_ok h
  have hstored : storedDepartment s call.targetUserId = row.departmentId := by
    rw [storedDepartment, hrow]
    rfl
  have hid : edited.id = call.targetUserId := by
    have hrowid : row.id = call.targetUserId := Table.key_of_find? hrow
    rw [adminEdit_fields hedit]
    exact hrowid
  obtain ⟨withRole, withDepartment, -, hdepartment, hactive⟩ := UserService.adminEdit_ok hedit
  have hedited : edited.departmentId = .undefined := by
    rw [(assignActiveState_ok hactive).1]
    rw [hnull] at hdepartment
    cases hdepartment
    rfl
  have hemits : call.input.departmentReference ≠ .undefined ∧
      row.toEntity.departmentId ≠ edited.departmentId := by
    rw [hnull, hedited]
    refine ⟨nofun, ?_⟩
    change Property.ofColumn row.departmentId ≠ .undefined
    cases row.departmentId <;> nofun
  refine ⟨_, if_pos hemits, hid, ?_, ?_, ?_, ?_⟩
  · rw [hstored]
    exact Property.toOption_ofColumn _
  · rw [hedited]
    rfl
  · rw [hstored]
    rfl
  · rw [assignedDepartment, hnull]
    rfl

/-- A removal is one if and only if there was nothing to remove. -/
theorem removesReally_iff : RemovesReally cfg s call ↔ FindsNoDepartment cfg s call := by
  constructor
  · intro hremoves hnull hok
    cases hrun : call.perform cfg s with
    | error exception =>
      rw [hrun] at hok
      cases hok
    | ok result =>
      obtain ⟨event, s'⟩ := result
      exact (removal_stores_nothing hnull hrun _).symm.trans (hremoves hnull event s' hrun).stored
  · intro hfinds hnull event s' hrun
    have hnone := hfinds hnull (by rw [hrun]; rfl)
    have hafter := (removal_stores_nothing hnull hrun call.targetUserId).trans hnone
    obtain ⟨reported, rfl, huser, hprevious, hnext, hprevreference, hnextreference⟩ :=
      event_of_removal hnull hrun
    refine ⟨hafter, fun former hformer => ?_, huser, hprevious, hnext.trans hafter.symm, hprevreference, ?_⟩
    · rw [hnone] at hformer
      cases hformer
    · rw [hafter, departmentReference_none]
      exact hnextreference

end Call

/-! ## Sequences of calls -/

/-- The department a call gives a user, if it mentions one and succeeds. -/
def given (cfg : Config) (s : AuthState) (call : AdminCall) (userId : Nat) : Option (Option Nat) :=
  if call.targetUserId = userId ∧ call.input.departmentReference ≠ .undefined ∧
      (call.perform cfg s).isOk = true then
    some (Membership.destination s.directory call.input.departmentReference)
  else none

/-- The state after a call, whether it succeeds or not. -/
def afterCall (cfg : Config) (s : AuthState) (call : AdminCall) : AuthState :=
  (call.perform cfg).commit s

/-- The department of the last call that mentioned it. -/
def lastGiven (cfg : Config) : AuthState → List AdminCall → Nat → Option (Option Nat)
  | _, [], _ => none
  | s, call :: calls, userId =>
    (lastGiven cfg (afterCall cfg s call) calls userId).or (given cfg s call userId)

/-- The calls of a sequence, with the state each one finds. -/
def steps (cfg : Config) (s : AuthState) (calls : List AdminCall) : List (AuthState × AdminCall) :=
  Run.steps s (Run.trace (afterCall cfg) s calls)

/-- What is stored after a call that removes really is what it gives. -/
theorem storedDepartment_afterCall {cfg : Config} {s : AuthState} {call : AdminCall}
    (hfinds : FindsNoDepartment cfg s call) (userId : Nat) :
    storedDepartment (afterCall cfg s call) userId =
      (given cfg s call userId).getD (storedDepartment s userId) := by
  rw [afterCall, given]
  cases hrun : call.perform cfg s with
  | error exception =>
    have hfailed : (Except.error exception : Except HttpException
        (Option UserDepartmentChangedEvent × AuthState)).isOk ≠ true := by simp [Except.isOk, Except.toBool]
    rw [Transaction.commit_of_error hrun, if_neg (fun h => hfailed h.2.2)]
    rfl
  | ok result =>
    obtain ⟨event, s'⟩ := result
    have hok : (call.perform cfg s).isOk = true := by
      rw [hrun]
      rfl
    rw [← hrun, Transaction.commit_of_ok hrun, storedDepartment_perform hrun]
    by_cases hself : userId = call.targetUserId
    · rw [if_pos hself, hself]
      cases hreference : call.input.departmentReference with
      | undefined =>
        rw [if_neg (fun h => h.2.1 rfl)]
        rfl
      | null =>
        rw [if_pos ⟨rfl, (fun h => by cases h), hok⟩]
        exact hfinds hreference hok
      | value reference =>
        rw [if_pos ⟨rfl, (fun h => by cases h), hok⟩, Option.getD_some, savedDepartment,
          Membership.destination, Property.toOption_value, Option.bind_some]
    · rw [if_neg hself, if_neg (fun h => hself h.1.symm)]
      rfl

theorem storedDepartment_last {cfg : Config} {s : AuthState} {calls : List AdminCall}
    (hfinds : ∀ step ∈ steps cfg s calls, FindsNoDepartment cfg step.1 step.2) (userId : Nat) :
    storedDepartment (calls.foldl (afterCall cfg) s) userId =
      (lastGiven cfg s calls userId).getD (storedDepartment s userId) := by
  induction calls generalizing s with
  | nil => rfl
  | cons call calls ih =>
    rw [steps, Run.trace, Run.steps_cons, List.forall_mem_cons] at hfinds
    rw [List.foldl_cons, ih hfinds.2, storedDepartment_afterCall hfinds.1, lastGiven]
    cases lastGiven cfg (afterCall cfg s call) calls userId <;> rfl

/-- In a sequence of updates every removal is one, and every user ends in the department of
    the last call that mentioned it, if and only if no removal finds a department to remove. -/
theorem removals_real_iff {cfg : Config} {s : AuthState} {calls : List AdminCall} :
    ((∀ step ∈ steps cfg s calls, RemovesReally cfg step.1 step.2) ∧
      ∀ userId, storedDepartment (calls.foldl (afterCall cfg) s) userId =
        (lastGiven cfg s calls userId).getD (storedDepartment s userId)) ↔
    ∀ step ∈ steps cfg s calls, FindsNoDepartment cfg step.1 step.2 := by
  constructor
  · exact fun h step hstep => removesReally_iff.1 (h.1 step hstep)
  · exact fun h => ⟨fun step hstep => removesReally_iff.2 (h step hstep), storedDepartment_last h⟩

/-! ### The manager is taken out of the department -/

namespace Sample

open Expentra.Sample

/-- The administrator takes the manager out of the department. -/
def removal : AdminCall :=
  ⟨now, toAuthUser (draftDirectory.loadUser administratorRow) [], 2, ⟨none, .null, none⟩⟩

end Sample

open Expentra.Sample (afterCalls config)

/-- The call succeeds, and the row keeps the department. -/
theorem removal_keeps_department :
    ((Sample.removal.perform config (afterCalls [])).isOk = true ∧
      storedDepartment (afterCall config (afterCalls []) Sample.removal) 2 = some 1) ∧
    ¬ RemovesReally config (afterCalls []) Sample.removal := by
  have hrun : (Sample.removal.perform config (afterCalls [])).isOk = true ∧
      storedDepartment (afterCall config (afterCalls []) Sample.removal) 2 = some 1 := by
    decide +kernel
  have hstored : storedDepartment (afterCalls []) 2 = some 1 := by decide +kernel
  refine ⟨hrun, fun hremoves => ?_⟩
  have hnone : storedDepartment (afterCalls []) 2 = none := removesReally_iff.1 hremoves rfl hrun.1
  rw [hstored] at hnone
  cases hnone

end Transfers

end Expentra
