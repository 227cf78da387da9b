-- SUMMARY: Concurrent changes of one user, step by step: which call each field of the row has its value from.
import Expentra.Identity.Mutations
import Expentra.Library.Interleaving

/-!
# Concurrent changes of a user

A call loads the whole user, assigns some fields, and saves the object. `save` reads the
row again and then updates every column in which the object differs from it. A field the
call was not asked to change goes back to what it was when the user was loaded, if another
call has changed it in between. `markEmailVerified` updates its columns alone.

The shared state records, for each field, which call saved it last and which value the
last completed call gave it.
-/

namespace Expentra

open Library

/-- A column that `save` updates if the object differed from the row that was read. -/
def updatedColumn {α : Type} [DecidableEq α] (current reread saved : α) : α :=
  if saved = reread then current else saved

/-- The row after the update of a `save(user)` that read the row as `reread`. -/
def UserRow.update (row reread : UserRow) (user : UserEntity) : UserRow :=
  let saved := reread.save user
  { row with
    email := updatedColumn row.email reread.email saved.email
    authProvider := updatedColumn row.authProvider reread.authProvider saved.authProvider
    externalId := updatedColumn row.externalId reread.externalId saved.externalId
    firstName := updatedColumn row.firstName reread.firstName saved.firstName
    lastName := updatedColumn row.lastName reread.lastName saved.lastName
    avatarUrl := updatedColumn row.avatarUrl reread.avatarUrl saved.avatarUrl
    isActive := updatedColumn row.isActive reread.isActive saved.isActive
    isEmailVerified :=
      updatedColumn row.isEmailVerified reread.isEmailVerified saved.isEmailVerified
    emailVerifiedAt :=
      updatedColumn row.emailVerifiedAt reread.emailVerifiedAt saved.emailVerifiedAt
    roleId := updatedColumn row.roleId reread.roleId saved.roleId
    departmentId := updatedColumn row.departmentId reread.departmentId saved.departmentId
    deactivatedAt := updatedColumn row.deactivatedAt reread.deactivatedAt saved.deactivatedAt }

namespace UserCalls

/-! ## Fields -/

inductive Field where
  | firstName
  | role
  | department
  | isActive
  | deactivatedAt
deriving DecidableEq, Repr

inductive FieldValue where
  | text (value : Option String)
  | id (value : Option Nat)
  | flag (value : Bool)
  | time (value : Option Instant)
deriving DecidableEq, Repr

namespace Field

def all : List Field := [.firstName, .role, .department, .isActive, .deactivatedAt]

theorem mem_all (f : Field) : f ∈ all := by
  cases f <;> decide

instance {P : Field → Prop} [DecidablePred P] : Decidable (∀ f, P f) :=
  decidable_of_iff (∀ f ∈ all, P f) ⟨fun h f => h f (mem_all f), fun h f _ => h f⟩

def stored (row : UserRow) : Field → FieldValue
  | firstName => .text row.firstName
  | role => .id row.roleId
  | department => .id row.departmentId
  | isActive => .flag row.isActive
  | deactivatedAt => .time row.deactivatedAt

/-- The value of a field in memory; `undefined` and `null` are the empty column. -/
def held (user : UserEntity) : Field → FieldValue
  | firstName => .text user.firstName.toOption
  | role => .id user.roleId.toOption
  | department => .id user.departmentId.toOption
  | isActive => .flag user.isActive
  | deactivatedAt => .time user.deactivatedAt.toOption

/-- `save` leaves a column alone whose property is `undefined`. -/
def isUndefined (user : UserEntity) : Field → Bool
  | firstName => user.firstName = .undefined
  | role => user.roleId = .undefined
  | department => user.departmentId = .undefined
  | isActive => false
  | deactivatedAt => user.deactivatedAt = .undefined

variable {row reread : UserRow} {user : UserEntity} (f : Field)

theorem save_of_defined {α : Type} {p : Property α} (column : Option α) (h : p ≠ .undefined) :
    p.save column = p.toOption := by
  cases p with
  | undefined => exact absurd rfl h
  | null => rfl
  | value a => rfl

theorem stored_save (h : f.isUndefined user = false) : f.stored (row.save user) = f.held user := by
  cases f with
  | firstName => exact congrArg _ (save_of_defined _ (of_decide_eq_false h))
  | role => exact congrArg _ (save_of_defined _ (of_decide_eq_false h))
  | department => exact congrArg _ (save_of_defined _ (of_decide_eq_false h))
  | isActive => rfl
  | deactivatedAt => exact congrArg _ (save_of_defined _ (of_decide_eq_false h))

theorem stored_save_of_undefined (h : f.isUndefined user = true) :
    f.stored (row.save user) = f.stored row := by
  cases f with
  | firstName => simp [stored, UserRow.save, of_decide_eq_true h]
  | role => simp [stored, UserRow.save, of_decide_eq_true h]
  | department => simp [stored, UserRow.save, of_decide_eq_true h]
  | isActive => cases h
  | deactivatedAt => simp [stored, UserRow.save, of_decide_eq_true h]

/-- A column changes by an update when the object differed from the row that was read. -/
theorem stored_update : f.stored (row.update reread user) =
    updatedColumn (f.stored row) (f.stored reread) (f.stored (reread.save user)) := by
  cases f <;> simp only [stored, UserRow.update, updatedColumn] <;> split <;> simp_all

theorem isUndefined_toEntity : f.isUndefined row.toEntity = false := by
  have hdefined : ∀ {α : Type} (column : Option α), Property.ofColumn column ≠ .undefined := by
    intro α column h
    cases column <;> cases h
  cases f with
  | firstName => exact decide_eq_false (hdefined _)
  | role => exact decide_eq_false (hdefined _)
  | department => exact decide_eq_false (hdefined _)
  | isActive => rfl
  | deactivatedAt => exact decide_eq_false (hdefined _)

end Field

/-! ## The calls -/

inductive Request where
  | updateProfile (input : UpdateProfileInput)
  | mutate (mutation : Mutation)
  | markEmailVerified (now : Instant)

/-- The fields a call is asked to change. -/
def Request.asks : Request → Field → Bool
  | .updateProfile input, .firstName => input.firstName.isSome
  | .mutate (.adminUpdate _ _ input), .role => input.roleReference.isSome
  | .mutate (.adminUpdate _ _ input), .department => input.departmentReference ≠ .undefined
  | .mutate (.adminUpdate _ _ input), .isActive => input.isActive.isSome
  | .mutate (.adminUpdate _ _ input), .deactivatedAt => input.isActive.isSome
  | .mutate (.suspendUser _ _), .isActive | .mutate (.suspendUser _ _), .deactivatedAt => true
  | .mutate (.activateUser _), .isActive | .mutate (.activateUser _), .deactivatedAt => true
  | .markEmailVerified _, .isActive => true
  | _, _ => false

/-- What the saved object has in the fields the call was asked to change. -/
def Request.written (request : Request) (edited : UserEntity) (f : Field) : Option FieldValue :=
  if request.asks f then some (f.held edited) else none

/-- The columns of `markEmailVerified`. -/
def verifyEmail (now : Instant) (row : UserRow) : UserRow :=
  { row with emailVerifiedAt := some now, isEmailVerified := true, isActive := true }

/-- What `markEmailVerified` writes of the fields. -/
def verifiedFields : Field → Option FieldValue
  | .isActive => some (.flag true)
  | _ => none

inductive Phase where
  | requested
  | editing (user : UserEntity)
  | saving (loaded edited : UserEntity) (changed : Bool)
  | updating (edited : UserEntity) (changed : Bool) (previousDepartmentId : Option Nat)
    (reread : UserRow)
  | invalidating (user : UserEntity) (changed : Bool) (written : Field → Option FieldValue)
  | handling (user : UserEntity) (changed : Bool) (written : Field → Option FieldValue)
  | returning (written : Field → Option FieldValue)
  | ended (result : Except HttpException Unit)

structure Call where
  request : Request
  phase : Phase

structure Recorded where
  state : AuthState
  /-- The call that saved a field last, and the value. -/
  lastSaved : Field → Option (Nat × FieldValue)
  /-- The value of the last completed call that was asked to change the field. -/
  lastCompleted : Field → Option FieldValue
  /-- The calls that have completed. -/
  finished : List Nat

namespace Recorded

def init (s : AuthState) : Recorded := ⟨s, fun _ => none, fun _ => none, []⟩

/-- A call has saved. -/
def save (s : Recorded) (i : Nat) (written : Field → Option FieldValue) (state : AuthState) :
    Recorded :=
  { s with
    state := state
    lastSaved := fun f => ((written f).map (fun value => (i, value))).or (s.lastSaved f) }

/-- A call completes. -/
def complete (s : Recorded) (i : Nat) (written : Field → Option FieldValue) : Recorded :=
  { s with
    lastCompleted := fun f => (written f).or (s.lastCompleted f)
    finished := s.finished ++ [i] }

end Recorded

/-- The checks before the user is read. -/
def Request.check (id : Nat) : Request → Except HttpException Unit
  | .updateProfile input =>
    if UserService.hasProfileFields input then .ok ()
    else .error (.badRequest "At least one field must be provided to update your profile")
  | .mutate mutation => mutation.check id
  | .markEmailVerified _ => .ok ()

/-- The update of a save, in the transaction of `adminUpdate` with the effects of a change
    of the department. -/
def write (cfg : Config) (request : Request) (edited : UserEntity)
    (previousDepartmentId : Option Nat) (reread : UserRow) : AuthTx Unit := do
  UserService.updateRow edited.id (fun row => row.update reread edited)
  if request.asks .department then
    DepartmentService.applyWithinTransaction cfg edited.id previousDepartmentId
      edited.departmentId.toOption
  else pure ()

def failed (exception : HttpException) : Phase := .ended (.error exception)

/-- What the assignments of a call leave to save. -/
def edited (user : UserEntity) : Except HttpException (UserEntity × Bool) → Phase
  | .ok (edited, changed) => .saving user edited changed
  | .error exception => failed exception

/-- The next step of the call at position `i`. -/
def advance (cfg : Config) (id i : Nat) (s : Recorded) (call : Call) : Option (Recorded × Phase) :=
  match call.phase with
  | .requested =>
    match call.request.check id, UserService.findOne s.state.directory id with
    | .ok _, .ok user => some (s, .editing user)
    | .error exception, _ | _, .error exception => some (s, failed exception)
  | .editing user =>
    match call.request with
    | .updateProfile input => some (s, .saving user (UserService.editProfile input user) false)
    | .mutate mutation => some (s, edited user (mutation.edit s.state.directory user))
    | .markEmailVerified now =>
      some (s.save i verifiedFields ((UserService.updateRow id (verifyEmail now)).commit s.state),
        .invalidating user false verifiedFields)
  | .saving loaded edited changed =>
    match s.state.directory.users.find? edited.id with
    | some reread => some (s, .updating edited changed loaded.departmentId.toOption reread)
    | none => none
  | .updating edited changed previousDepartmentId reread =>
    match write cfg call.request edited previousDepartmentId reread s.state with
    | .ok (_, state) =>
      let written := call.request.written edited
      match call.request with
      | .updateProfile _ => some (s.save i written state, .returning written)
      | _ => some (s.save i written state, .invalidating edited changed written)
    | .error exception => some (s, failed exception)
  | .invalidating user changed written =>
    some ({ s with state := (AuthContextCache.invalidate user.reference).commit s.state },
      .handling user changed written)
  | .handling user changed written =>
    some ({ s with state := (Mutation.handle user changed).commit s.state }, .returning written)
  | .returning written => some (s.complete i written, .ended (.ok ()))
  | .ended _ => none

/-- Any number of calls on the user with the id. -/
def calls (cfg : Config) (id : Nat) : Concurrent Recorded Call Request Unit Empty where
  start s request := some (s, ⟨request, .requested⟩)
  step i s call _ := (advance cfg id i s call).map (fun r => (r.1, { call with phase := r.2 }))
  surroundings _ event := nomatch event

/-! ## What the row should hold -/

def Phase.isEnded : Phase → Bool
  | .ended _ => true
  | _ => false

/-- Every field has the value it was saved with last; and when all calls have completed,
    that is the value of the last completed call that was asked to change it. -/
def FieldsHold (id : Nat) (row₀ : UserRow) (p : Pool Recorded Call) : Prop :=
  ∃ row, p.shared.state.directory.users.find? id = some row ∧
    (∀ f : Field, f.stored row =
      ((p.shared.lastSaved f).map Prod.snd).getD (f.stored row₀)) ∧
    ((∀ call ∈ p.threads, call.phase.isEnded = true) → ∀ f : Field, f.stored row =
      (p.shared.lastCompleted f).getD (f.stored row₀))

/-! ## The condition -/

/-- When the row is read again, the fields the call was not asked to change are as they
    were loaded. A field it was asked to change that the update will leave alone has the
    value asked for. And a call completes before those that saved its fields later. -/
def Undisturbed (id i : Nat) (s : Recorded) (call : Call) (_ : Unit) : Prop :=
  match call.phase with
  | .saving loaded _ _ => ∀ row ∈ s.state.directory.users.find? id, ∀ f : Field,
      call.request.asks f = false → f.stored row = f.held loaded
  | .updating edited _ _ reread => ∀ row ∈ s.state.directory.users.find? id, ∀ f : Field,
      call.request.asks f = true → f.stored (reread.save edited) = f.stored reread →
        f.stored row = f.held edited
  | .returning written => ∀ f : Field, written f ≠ none → ∀ r ∈ s.lastSaved f,
      r.1 = i ∨ r.1 ∉ s.finished
  | _ => True

instance (id i : Nat) (s : Recorded) (call : Call) (outcome : Unit) :
    Decidable (Undisturbed id i s call outcome) := by
  unfold Undisturbed
  split <;> infer_instance

/-! ## What a call knows -/

/-- What the earlier steps of a call established. -/
def Knows (id : Nat) (call : Call) : Prop :=
  match call.phase with
  | .editing user => user.id = id ∧ ∃ row : UserRow, user = row.toEntity
  | .saving loaded edited _ => edited.id = id ∧ ∀ f : Field, call.request.asks f = false →
      f.held edited = f.held loaded ∧ f.isUndefined edited = false
  | .updating edited _ _ reread => edited.id = id ∧ ∀ f : Field, call.request.asks f = false →
      f.stored (reread.save edited) = f.stored reread
  | _ => True

/-- What a call that has not completed has saved. -/
def Call.pending (call : Call) : Field → Option FieldValue :=
  match call.phase with
  | .invalidating _ _ written | .handling _ _ written | .returning written => written
  | _ => fun _ => none

section Edits

variable {d : Directory} {user edited : UserEntity} {changed : Bool} {f : Field}

theorem editProfile_keeps (user : UserEntity) {input : UpdateProfileInput}
    (hask : (Request.updateProfile input).asks f = false) :
    f.held (UserService.editProfile input user) = f.held user ∧
      f.isUndefined (UserService.editProfile input user) = f.isUndefined user := by
  cases f with
  | firstName =>
    have hnone : input.firstName = none := by simpa [Request.asks] using hask
    simp [Field.held, Field.isUndefined, UserService.editProfile, UserService.editedName, hnone]
  | _ => exact ⟨rfl, rfl⟩

theorem adminEdit_keeps {now : Instant} {actor : AuthUser} {input : AdminUpdateUserInput}
    (h : UserService.adminEdit d now actor input user = .ok (edited, changed)) :
    (input.roleReference = none → edited.roleId = user.roleId) ∧
    (input.departmentReference = .undefined → edited.departmentId = user.departmentId) ∧
    (input.isActive = none → edited.isActive = user.isActive ∧
      edited.deactivatedAt = user.deactivatedAt) := by
  obtain ⟨withRole, withDepartment, hrole, hdepartment, hactive⟩ := UserService.adminEdit_ok h
  obtain ⟨hactiveOnly, hactiveNone, -⟩ := UserService.assignActiveState_ok hactive
  obtain ⟨hdepartmentOnly, hdepartmentNone⟩ := UserService.assignDepartment_ok hdepartment
  have hrest : withRole.isActive = user.isActive ∧ withRole.deactivatedAt = user.deactivatedAt ∧
      withRole.departmentId = user.departmentId := by
    rcases UserService.assignRole_ok hrole with ⟨-, rfl⟩ | ⟨role, -, -, -, rfl⟩ <;>
      exact ⟨rfl, rfl, rfl⟩
  refine ⟨fun hnone => ?_, fun hnone => ?_, fun hnone => ?_⟩
  · rcases UserService.assignRole_ok hrole with ⟨-, hsame⟩ | ⟨_, -, hsome, -⟩
    · rw [hactiveOnly, hdepartmentOnly, hsame]
    · rw [hnone] at hsome
      cases hsome
  · rw [hactiveOnly, hdepartmentNone hnone]
    exact hrest.2.2
  · rw [hactiveNone hnone, hdepartmentOnly]
    exact ⟨hrest.1, hrest.2.1⟩

theorem mutation_keeps {mutation : Mutation} (h : mutation.edit d user = .ok (edited, changed))
    (hask : (Request.mutate mutation).asks f = false) :
    f.held edited = f.held user ∧ f.isUndefined edited = f.isUndefined user := by
  have hfields := Mutation.edit_fields h
  cases mutation with
  | suspendUser now actorId =>
    rw [Mutation.edit, UserService.suspend] at h
    split at h
    · cases h
    · cases h
      cases f with
      | isActive => cases hask
      | deactivatedAt => cases hask
      | _ => exact ⟨rfl, rfl⟩
  | activateUser actorId =>
    rw [Mutation.edit, UserService.activate] at h
    split at h
    · cases h
    · cases h
      cases f with
      | isActive => cases hask
      | deactivatedAt => cases hask
      | _ => exact ⟨rfl, rfl⟩
  | adminUpdate now actor input =>
    obtain ⟨hrole, hdepartment, hactive⟩ := adminEdit_keeps h
    cases f with
    | firstName =>
      rw [hfields]
      exact ⟨rfl, rfl⟩
    | role =>
      have hsame := hrole (by simpa [Request.asks] using hask)
      simp [Field.held, Field.isUndefined, hsame]
    | department =>
      have hsame := hdepartment (by simpa [Request.asks] using hask)
      simp [Field.held, Field.isUndefined, hsame]
    | isActive =>
      have hsame := hactive (by simpa [Request.asks] using hask)
      simp [Field.held, Field.isUndefined, hsame.1]
    | deactivatedAt =>
      have hsame := hactive (by simpa [Request.asks] using hask)
      simp [Field.held, Field.isUndefined, hsame.2]

end Edits

/-! ## Steps -/

/-- What a step of the call at position `i` does to the row and to the records. -/
inductive Effect (id i : Nat) (s s' : Recorded) (call call' : Call) : Prop where
  | silent (hrow : s'.state.directory.users.find? id = s.state.directory.users.find? id)
      (hsaved : s'.lastSaved = s.lastSaved) (hcompleted : s'.lastCompleted = s.lastCompleted)
      (hfinished : s'.finished = s.finished) (hpending : call'.pending = call.pending)
  | saved (row row' : UserRow) (written : Field → Option FieldValue)
      (hrow : s.state.directory.users.find? id = some row)
      (hrow' : s'.state.directory.users.find? id = some row')
      (hstored : ∀ f : Field, f.stored row' = (written f).getD (f.stored row))
      (hsaved : s' = s.save i written s'.state) (hbefore : call.pending = fun _ => none)
      (hafter : call'.pending = written)
  | completed (hphase : call.phase = .returning call.pending)
      (hstate : s' = s.complete i call.pending) (hended : call'.phase.isEnded = true)

section Steps

variable {cfg : Config} {id i : Nat} {s s' : Recorded} {call : Call} {phase' : Phase}

/-- The row after the update of a save. -/
theorem write_ok {request : Request} {edited : UserEntity} {previousDepartmentId : Option Nat}
    {row reread : UserRow} {state state' : AuthState} {u : Unit}
    (hrow : state.directory.users.find? edited.id = some row)
    (h : write cfg request edited previousDepartmentId reread state = .ok (u, state')) :
    state'.directory.users = state.directory.users.replace (row.update reread edited) := by
  obtain ⟨_, state₁, hupdate, h⟩ := Transaction.bind_eq_ok.1 h
  cases (UserService.updateRow_eq_ok hrow).1 hupdate
  split at h
  · rw [DepartmentService.applyWithinTransaction_frame h]
    rfl
  · obtain ⟨-, rfl⟩ := Transaction.pure_eq_ok.1 h
    rfl

/-- A row that replaces the one with the id is found under it. -/
theorem find?_replace {users : Table UserRow.id} {row row' : UserRow}
    (hrow : users.find? id = some row) (hid : row'.id = row.id) :
    (users.replace row').find? id = some row' := by
  have hkey : row.id = id := Table.key_of_find? hrow
  rw [← hkey, ← hid] at hrow ⊢
  exact Table.find?_replace_self hrow

/-- Under the condition an update gives the fields asked for the values asked for, and no
    other field another value. -/
theorem stored_update_of_undisturbed {request : Request} {edited : UserEntity} {row reread : UserRow}
    (hknows : ∀ f : Field, request.asks f = false →
      f.stored (reread.save edited) = f.stored reread)
    (hasked : ∀ f : Field, request.asks f = true → f.stored (reread.save edited) = f.stored reread →
      f.stored row = f.held edited) (f : Field) :
    f.stored (row.update reread edited) = (request.written edited f).getD (f.stored row) := by
  rw [Field.stored_update, Request.written, updatedColumn]
  cases hask : request.asks f with
  | false => rw [if_pos (hknows f hask), if_neg Bool.false_ne_true, Option.getD_none]
  | true =>
    rw [if_pos rfl, Option.getD_some]
    split
    · rename_i hsame
      exact hasked f hask hsame
    · rename_i hdiffers
      refine f.stored_save ?_
      rw [Bool.eq_false_iff]
      exact fun hundefined => hdiffers (f.stored_save_of_undefined hundefined)

/-- A loaded row is edited in memory, or the e-mail address is marked in one statement. -/
theorem editing_cases {request : Request} {user : UserEntity} {row : UserRow}
    (hrow : s.state.directory.users.find? id = some row) (hknows : Knows id ⟨request, .editing user⟩)
    (h : advance cfg id i s ⟨request, .editing user⟩ = some (s', phase')) :
    Knows id ⟨request, phase'⟩ ∧ Effect id i s s' ⟨request, .editing user⟩ ⟨request, phase'⟩ := by
  obtain ⟨hid, loaded, rfl⟩ := hknows
  cases request with
  | updateProfile input =>
    cases h
    refine ⟨⟨hid, fun f hask => ?_⟩, .silent rfl rfl rfl rfl rfl⟩
    obtain ⟨hheld, hdefined⟩ := editProfile_keeps loaded.toEntity hask
    exact ⟨hheld, hdefined.trans f.isUndefined_toEntity⟩
  | mutate mutation =>
    cases h
    cases hedit : mutation.edit s.state.directory loaded.toEntity with
    | error exception => exact ⟨trivial, .silent rfl rfl rfl rfl rfl⟩
    | ok result =>
      obtain ⟨edited, changed⟩ := result
      refine ⟨⟨(Mutation.edit_id hedit).1.trans hid, fun f hask => ?_⟩,
        .silent rfl rfl rfl rfl rfl⟩
      obtain ⟨hheld, hdefined⟩ := mutation_keeps hedit hask
      exact ⟨hheld, hdefined.trans f.isUndefined_toEntity⟩
  | markEmailVerified now =>
    cases h
    have hupdate : UserService.updateRow id (verifyEmail now) s.state =
        .ok ((), s.state.setUser (verifyEmail now row)) := (UserService.updateRow_eq_ok hrow).2 rfl
    rw [Transaction.commit_of_ok hupdate]
    refine ⟨trivial, .saved row _ verifiedFields hrow (find?_replace hrow rfl) (fun f => ?_) rfl rfl
      rfl⟩
    cases f <;> rfl

/-- The update of a save writes the fields asked for over the row it finds. -/
theorem updating_cases {request : Request} {edited : UserEntity} {changed : Bool}
    {previousDepartmentId : Option Nat} {row reread : UserRow}
    (hrow : s.state.directory.users.find? id = some row)
    (hknows : Knows id ⟨request, .updating edited changed previousDepartmentId reread⟩)
    (hguard : Undisturbed id i s ⟨request, .updating edited changed previousDepartmentId reread⟩ ())
    (h : advance cfg id i s ⟨request, .updating edited changed previousDepartmentId reread⟩ =
      some (s', phase')) :
    Knows id ⟨request, phase'⟩ ∧ Effect id i s s'
      ⟨request, .updating edited changed previousDepartmentId reread⟩ ⟨request, phase'⟩ := by
  obtain ⟨hid, hkeeps⟩ := hknows
  simp only [advance] at h
  split at h
  · rename_i state hwrite
    have hfound : s.state.directory.users.find? edited.id = some row := hid ▸ hrow
    have hrow' : state.directory.users.find? id = some (row.update reread edited) := by
      rw [write_ok hfound hwrite]
      exact find?_replace hrow rfl
    have hstored := stored_update_of_undisturbed hkeeps (hguard row hrow)
    split at h
    · cases h
      exact ⟨trivial, .saved row _ _ hrow hrow' hstored rfl rfl rfl⟩
    · cases h
      exact ⟨trivial, .saved row _ _ hrow hrow' hstored rfl rfl rfl⟩
  · cases h
    exact ⟨trivial, .silent rfl rfl rfl rfl rfl⟩

theorem advance_cases (hs : ∃ row, s.state.directory.users.find? id = some row)
    (hknows : Knows id call) (hguard : Undisturbed id i s call ())
    (h : advance cfg id i s call = some (s', phase')) :
    Knows id ⟨call.request, phase'⟩ ∧ Effect id i s s' call ⟨call.request, phase'⟩ := by
  obtain ⟨request, phase⟩ := call
  obtain ⟨row, hrow⟩ := hs
  cases phase with
  | requested =>
    simp only [advance] at h
    split at h
    · rename_i user _ hfind
      cases h
      obtain ⟨found, hfound, rfl⟩ := UserService.findOne_eq_ok.1 hfind
      have hid : found.id = id := Table.key_of_find? hfound
      exact ⟨⟨hid, found, rfl⟩, .silent rfl rfl rfl rfl rfl⟩
    · cases h
      exact ⟨trivial, .silent rfl rfl rfl rfl rfl⟩
    · cases h
      exact ⟨trivial, .silent rfl rfl rfl rfl rfl⟩
  | editing user => exact editing_cases hrow hknows h
  | saving loaded edited changed =>
    simp only [advance] at h
    split at h
    · rename_i reread hreread
      cases h
      obtain ⟨hid, hkeeps⟩ := hknows
      refine ⟨⟨hid, fun f hask => ?_⟩, .silent rfl rfl rfl rfl rfl⟩
      obtain ⟨hheld, hdefined⟩ := hkeeps f hask
      rw [f.stored_save hdefined, hheld]
      exact (hguard reread (hid ▸ hreread) f hask).symm
    · cases h
  | updating edited changed previousDepartmentId reread =>
    exact updating_cases hrow hknows hguard h
  | invalidating user changed written =>
    cases h
    exact ⟨trivial, .silent rfl rfl rfl rfl rfl⟩
  | handling user changed written =>
    cases h
    refine ⟨trivial, .silent ?_ rfl rfl rfl rfl⟩
    rw [(Mutation.handle_frame s.state user changed).1]
  | returning written =>
    cases h
    exact ⟨trivial, .completed rfl rfl rfl⟩
  | ended result => cases h

end Steps

/-! ## Runs -/

/-- Where the values of the fields come from. -/
structure PoolInvariant (id : Nat) (row₀ : UserRow) (p : Pool Recorded Call) : Prop where
  row : ∃ row, p.shared.state.directory.users.find? id = some row ∧ ∀ f : Field, f.stored row =
    ((p.shared.lastSaved f).map Prod.snd).getD (f.stored row₀)
  knows : ∀ call ∈ p.threads, Knows id call
  /-- The call that saved a field last has completed, and the record has its value, or it
      is still to complete. -/
  saver : ∀ f j value, p.shared.lastSaved f = some (j, value) →
    (j ∈ p.shared.finished ∧ p.shared.lastCompleted f = some value) ∨
      ∃ call, p.threads[j]? = some call ∧ call.pending f = some value
  unsaved : ∀ f, p.shared.lastSaved f = none →
    p.shared.lastCompleted f = none ∧ ∀ call ∈ p.threads, call.pending f = none
  finished : ∀ j ∈ p.shared.finished, ∃ call, p.threads[j]? = some call ∧ call.phase.isEnded = true

section Runs

variable {cfg : Config} {id : Nat} {row₀ : UserRow} {p p' : Pool Recorded Call}

theorem PoolInvariant.idle {s₀ : AuthState} (h : s₀.directory.users.find? id = some row₀) :
    PoolInvariant id row₀ (.idle (.init s₀)) where
  row := ⟨row₀, h, fun _ => rfl⟩
  knows := fun _ hcall => absurd hcall List.not_mem_nil
  saver := fun _ _ _ hsaved => by cases hsaved
  unsaved := fun _ _ => ⟨rfl, fun _ hcall => absurd hcall List.not_mem_nil⟩
  finished := fun _ hj => absurd hj List.not_mem_nil

theorem Call.pending_of_isEnded {call : Call} (h : call.phase.isEnded = true) (f : Field) :
    call.pending f = none := by
  obtain ⟨request, phase⟩ := call
  cases phase with
  | ended result => rfl
  | _ => cases h

theorem forall_mem_set {P : Call → Prop} {i : Nat} {call' : Call} (h : ∀ call ∈ p.threads, P call)
    (hnew : P call') : ∀ call ∈ p.threads.set i call', P call := by
  intro call hmem
  rcases List.mem_or_eq_of_mem_set hmem with hold | rfl
  · exact h call hold
  · exact hnew

section Step

variable {i : Nat} {s' : Recorded} {call call' : Call}

theorem PoolInvariant.not_mem_finished (h : PoolInvariant id row₀ p)
    (hi : p.threads[i]? = some call) (hlive : call.phase.isEnded = false) :
    i ∉ p.shared.finished := by
  intro hmem
  obtain ⟨ended, hended, hphase⟩ := h.finished i hmem
  cases hi.symm.trans hended
  rw [hlive] at hphase
  cases hphase

theorem PoolInvariant.finished_set (h : PoolInvariant id row₀ p) (hi : p.threads[i]? = some call)
    (hlive : call.phase.isEnded = false) : ∀ j ∈ p.shared.finished,
      ∃ ended, (p.threads.set i call')[j]? = some ended ∧ ended.phase.isEnded = true := by
  intro j hj
  have hne : i ≠ j := fun heq => h.not_mem_finished hi hlive (heq ▸ hj)
  rw [List.getElem?_set_ne hne]
  exact h.finished j hj

/-- A call with something to complete is found where it was, unless it took the step. -/
theorem pending_set {f : Field} {j : Nat} {value : FieldValue} (hi : p.threads[i]? = some call)
    (hself : call.pending f = some value → call'.pending f = some value)
    (h : ∃ other, p.threads[j]? = some other ∧ other.pending f = some value) :
    ∃ other, (p.threads.set i call')[j]? = some other ∧ other.pending f = some value := by
  obtain ⟨other, hj, hvalue⟩ := h
  by_cases heq : i = j
  · subst heq
    cases hi.symm.trans hj
    exact ⟨call', List.getElem?_set_self (List.getElem?_eq_some_iff.1 hi).1, hself hvalue⟩
  · exact ⟨other, (List.getElem?_set_ne heq).trans hj, hvalue⟩

theorem PoolInvariant.step_silent (h : PoolInvariant id row₀ p) (hi : p.threads[i]? = some call)
    (hlive : call.phase.isEnded = false) (hknows : Knows id call')
    (hrow : s'.state.directory.users.find? id = p.shared.state.directory.users.find? id)
    (hsaved : s'.lastSaved = p.shared.lastSaved)
    (hcompleted : s'.lastCompleted = p.shared.lastCompleted)
    (hfinished : s'.finished = p.shared.finished) (hpending : call'.pending = call.pending) :
    PoolInvariant id row₀ ⟨s', p.threads.set i call'⟩ where
  row := by
    rw [hrow, hsaved]
    exact h.row
  knows := forall_mem_set h.knows hknows
  saver := by
    intro f j value hlast
    rw [hsaved] at hlast
    rw [hfinished, hcompleted]
    exact (h.saver f j value hlast).imp_right (pending_set hi (fun hvalue => by rwa [hpending]))
  unsaved := by
    intro f hnone
    rw [hsaved] at hnone
    rw [hcompleted]
    obtain ⟨hcompletedNone, hpendingNone⟩ := h.unsaved f hnone
    refine ⟨hcompletedNone, forall_mem_set (P := fun c => c.pending f = none) hpendingNone ?_⟩
    rw [hpending]
    exact hpendingNone call (List.mem_of_getElem? hi)
  finished := by
    rw [hfinished]
    exact h.finished_set hi hlive

theorem PoolInvariant.step_saved {row row' : UserRow} {written : Field → Option FieldValue}
    {state : AuthState} (h : PoolInvariant id row₀ p) (hi : p.threads[i]? = some call)
    (hlive : call.phase.isEnded = false) (hknows : Knows id call')
    (hrow : p.shared.state.directory.users.find? id = some row)
    (hrow' : state.directory.users.find? id = some row')
    (hstored : ∀ f : Field, f.stored row' = (written f).getD (f.stored row))
    (hbefore : call.pending = fun _ => none) (hafter : call'.pending = written) :
    PoolInvariant id row₀ ⟨p.shared.save i written state, p.threads.set i call'⟩ where
  row := by
    obtain ⟨current, hcurrent, hvalues⟩ := h.row
    obtain rfl : row = current := Option.some.inj (hrow.symm.trans hcurrent)
    refine ⟨row', hrow', fun f => ?_⟩
    rw [hstored f, hvalues f]
    change _ = ((((written f).map (fun value => (i, value))).or
      (p.shared.lastSaved f)).map Prod.snd).getD (f.stored row₀)
    cases written f <;> rfl
  knows := forall_mem_set h.knows hknows
  saver := by
    intro f j value hlast
    rw [Recorded.save] at hlast
    dsimp only at hlast
    cases hw : written f with
    | some value' =>
      rw [hw] at hlast
      cases hlast
      have hlt : i < p.threads.length := (List.getElem?_eq_some_iff.1 hi).1
      exact .inr ⟨call', List.getElem?_set_self hlt, by rw [hafter, hw]⟩
    | none =>
      rw [hw] at hlast
      refine (h.saver f j value hlast).imp_right (pending_set hi (fun hvalue => ?_))
      rw [hbefore] at hvalue
      cases hvalue
  unsaved := by
    intro f hnone
    rw [Recorded.save] at hnone
    dsimp only at hnone
    rw [Option.or_eq_none_iff, Option.map_eq_none_iff] at hnone
    obtain ⟨hw, hnone⟩ := hnone
    obtain ⟨hcompletedNone, hpendingNone⟩ := h.unsaved f hnone
    refine ⟨hcompletedNone, forall_mem_set (P := fun c => c.pending f = none) hpendingNone ?_⟩
    rw [hafter, hw]
  finished := h.finished_set hi hlive

/-- A call completes. Of its fields, the call that saved them last is it, or is yet to
    complete. -/
theorem PoolInvariant.step_completed (h : PoolInvariant id row₀ p)
    (hi : p.threads[i]? = some call) (hlive : call.phase.isEnded = false) (hknows : Knows id call')
    (hlatest : ∀ f, call.pending f ≠ none → ∀ r ∈ p.shared.lastSaved f,
      r.1 = i ∨ r.1 ∉ p.shared.finished) (hended : call'.phase.isEnded = true) :
    PoolInvariant id row₀ ⟨p.shared.complete i call.pending, p.threads.set i call'⟩ where
  row := h.row
  knows := forall_mem_set h.knows hknows
  saver := by
    intro f j value hlast
    rw [Recorded.complete]
    cases hw : call.pending f with
    | none =>
      simp only [hw, Option.none_or]
      rcases h.saver f j value hlast with ⟨hj, hvalue⟩ | hpending
      · exact .inl ⟨List.mem_append_left _ hj, hvalue⟩
      · refine .inr (pending_set hi (fun hvalue => ?_) hpending)
        rw [hw] at hvalue
        cases hvalue
    | some written =>
      simp only [hw, Option.some_or]
      have hnewest : j = i ∨ j ∉ p.shared.finished :=
        hlatest f (by rw [hw]; exact Option.some_ne_none _) (j, value) hlast
      rcases h.saver f j value hlast with ⟨hj, -⟩ | ⟨other, hj, hvalue⟩
      · rcases hnewest with rfl | hnot
        · exact absurd hj (h.not_mem_finished hi hlive)
        · exact absurd hj hnot
      · by_cases heq : i = j
        · subst heq
          cases hi.symm.trans hj
          rw [hw] at hvalue
          exact .inl ⟨List.mem_append_right _ List.mem_cons_self, hvalue⟩
        · exact .inr ⟨other, (List.getElem?_set_ne heq).trans hj, hvalue⟩
  unsaved := by
    intro f hnone
    obtain ⟨hcompletedNone, hpendingNone⟩ := h.unsaved f hnone
    refine ⟨?_, forall_mem_set (P := fun c => c.pending f = none) hpendingNone
      (Call.pending_of_isEnded hended f)⟩
    rw [Recorded.complete]
    simp only [hpendingNone call (List.mem_of_getElem? hi), Option.none_or]
    exact hcompletedNone
  finished := by
    intro j hj
    rcases List.mem_append.1 hj with hold | hnew
    · exact h.finished_set hi hlive j hold
    · rw [List.mem_singleton.1 hnew]
      exact ⟨call', List.getElem?_set_self (List.getElem?_eq_some_iff.1 hi).1, hended⟩

/-- The step of one call. -/
theorem PoolInvariant.step (h : PoolInvariant id row₀ p) (hi : p.threads[i]? = some call)
    (hlive : call.phase.isEnded = false) (hknows : Knows id call')
    (hguard : Undisturbed id i p.shared call ()) (heffect : Effect id i p.shared s' call call') :
    PoolInvariant id row₀ ⟨s', p.threads.set i call'⟩ := by
  cases heffect with
  | silent hrow hsaved hcompleted hfinished hpending =>
    exact h.step_silent hi hlive hknows hrow hsaved hcompleted hfinished hpending
  | saved row row' written hrow hrow' hstored hs' hbefore hafter =>
    rw [hs']
    exact h.step_saved hi hlive hknows hrow hrow' hstored hbefore hafter
  | completed hphase hs' hended =>
    subst hs'
    unfold Undisturbed at hguard
    rw [hphase] at hguard
    exact h.step_completed hi hlive hknows hguard hended

end Step

theorem PoolInvariant.next {turn : Turn Request Unit Empty} (h : PoolInvariant id row₀ p)
    (hguard : Concurrent.onStep (Undisturbed id) p turn) (hstep : (calls cfg id).Step p turn p') :
    PoolInvariant id row₀ p' := by
  cases turn with
  | start request =>
    obtain ⟨s, call, hstart, rfl⟩ := Concurrent.next_start_eq_some.1 hstep
    cases hstart
    refine ⟨h.row, fun call hmem => ?_, fun f j value hsaved => ?_, fun f hnone => ?_,
      fun j hj => ?_⟩
    · rcases List.mem_append.1 hmem with hold | hnew
      · exact h.knows call hold
      · rw [List.mem_singleton.1 hnew]
        trivial
    · refine (h.saver f j value hsaved).imp_right ?_
      rintro ⟨other, hj, hvalue⟩
      exact ⟨other, List.getElem?_append_left (List.getElem?_eq_some_iff.1 hj).1 ▸ hj, hvalue⟩
    · obtain ⟨hcompletedNone, hpendingNone⟩ := h.unsaved f hnone
      refine ⟨hcompletedNone, fun other hmem => ?_⟩
      rcases List.mem_append.1 hmem with hold | hnew
      · exact hpendingNone other hold
      · rw [List.mem_singleton.1 hnew]
        rfl
    · obtain ⟨other, hj, hended⟩ := h.finished j hj
      exact ⟨other, List.getElem?_append_left (List.getElem?_eq_some_iff.1 hj).1 ▸ hj, hended⟩
  | step i outcome =>
    obtain ⟨call, s', call', hi, hmove, rfl⟩ := Concurrent.next_step_eq_some.1 hstep
    obtain ⟨⟨_, phase'⟩, hadvance, hr⟩ := Option.map_eq_some_iff.1 hmove
    cases hr
    obtain ⟨row, hrow, -⟩ := h.row
    have hcondition : Undisturbed id i p.shared call () := hguard i outcome call rfl hi
    obtain ⟨hknows, heffect⟩ :=
      advance_cases ⟨row, hrow⟩ (h.knows call (List.mem_of_getElem? hi)) hcondition hadvance
    have hlive : call.phase.isEnded = false := by
      obtain ⟨request, phase⟩ := call
      cases phase with
      | ended result => cases hadvance
      | _ => rfl
    exact h.step hi hlive hknows hcondition heffect
  | surroundings event => cases event

end Runs

/-- In a run in which no call finds the user changed under it, every field has the value of
    the last call that was asked to change it. -/
theorem fields_hold (cfg : Config) (s₀ : AuthState) (row₀ : UserRow) (p : Pool Recorded Call)
    (hrow : row₀ ∈ s₀.directory.users)
    (h : Reaches (Guarded (Concurrent.onStep (Undisturbed row₀.id)) (calls cfg row₀.id).Step)
      (.idle (.init s₀)) p) : FieldsHold row₀.id row₀ p := by
  have hinv : PoolInvariant row₀.id row₀ p :=
    h.invariant (fun _ _ _ hp hstep => hp.next hstep.1 hstep.2) (.idle (Table.find?_of_mem hrow))
  obtain ⟨row, hfound, hvalues⟩ := hinv.row
  refine ⟨row, hfound, hvalues, fun hended f => ?_⟩
  rw [hvalues f]
  cases hlast : p.shared.lastSaved f with
  | none => rw [(hinv.unsaved f hlast).1, Option.map_none]
  | some saved =>
    obtain ⟨j, value⟩ := saved
    rcases hinv.saver f j value hlast with ⟨-, hcompleted⟩ | ⟨call, hj, hvalue⟩
    · rw [hcompleted, Option.map_some]
    · rw [Call.pending_of_isEnded (hended call (List.mem_of_getElem? hj))] at hvalue
      cases hvalue

namespace Sample

open Expentra.Sample

def config : Config := ⟨BudgetPeriod.utcZone, false⟩

def steps (thread count : Nat) : List (Turn Request Unit Empty) :=
  List.replicate count (.step thread ())

def renamed : Request := .updateProfile ⟨some "Grace", none⟩

def suspended : Request := .mutate (.suspendUser 1700000000000 1)

/-- A profile edit and then a suspension. -/
def inOrder : List (Turn Request Unit Empty) :=
  [.start renamed] ++ steps 0 5 ++ [.start suspended] ++ steps 1 7

/-- The user is suspended after the profile edit has loaded it. -/
def crossing : List (Turn Request Unit Empty) :=
  [.start renamed] ++ steps 0 2 ++ [.start suspended] ++ steps 1 7 ++ steps 0 3

end Sample

theorem fields_hold_sample :
    ∃ p, (calls Sample.config 2).exec (Undisturbed 2) Sample.inOrder
        (.idle (.init Expentra.Sample.authState)) = some p ∧
      (p.shared.state.directory.users.find? 2).map (fun row => (row.firstName, row.isActive)) =
        some (some "Grace", false) ∧ FieldsHold 2 Expentra.Sample.managerRow p := by
  have hexec : ((calls Sample.config 2).exec (Undisturbed 2) Sample.inOrder
      (.idle (.init Expentra.Sample.authState))).any (fun p =>
        (p.shared.state.directory.users.find? 2).map (fun row => (row.firstName, row.isActive)) =
          some (some "Grace", false)) = true := by decide +kernel
  obtain ⟨p, hp, hrow⟩ := (Option.any_eq_true _ _).1 hexec
  have hmem : Expentra.Sample.managerRow ∈ Expentra.Sample.authState.directory.users :=
    Table.mem_iff.2 (List.mem_cons_of_mem _ List.mem_cons_self)
  exact ⟨p, hp, of_decide_eq_true hrow,
    fields_hold Sample.config _ _ p hmem (Concurrent.reaches_of_exec hp)⟩

/-- Both calls have completed, and the profile edit has made the suspended user active
    again. -/
theorem suspension_undone :
    ∃ p, Reaches (calls Sample.config 2).Step (.idle (.init Expentra.Sample.authState)) p ∧
      (∀ call ∈ p.threads, call.phase.isEnded = true) ∧
      p.shared.lastCompleted .isActive = some (.flag false) ∧
      (p.shared.state.directory.users.find? 2).map (fun row => (row.isActive, row.deactivatedAt)) =
        some (true, none) ∧
      ¬ FieldsHold 2 Expentra.Sample.managerRow p := by
  have hexec : ((calls Sample.config 2).exec Concurrent.anyStep Sample.crossing
      (.idle (.init Expentra.Sample.authState))).any (fun p =>
        decide (∀ call ∈ p.threads, call.phase.isEnded = true) &&
        decide (p.shared.lastCompleted .isActive = some (.flag false)) &&
        decide ((p.shared.state.directory.users.find? 2).map
          (fun row => (row.isActive, row.deactivatedAt)) = some (true, none))) = true := by
    decide +kernel
  obtain ⟨p, hp, hcheck⟩ := (Option.any_eq_true _ _).1 hexec
  rw [Bool.and_eq_true, Bool.and_eq_true] at hcheck
  obtain ⟨⟨hended, hcompleted⟩, hrow⟩ := hcheck
  have hended := of_decide_eq_true hended
  have hcompleted := of_decide_eq_true hcompleted
  have hrow := of_decide_eq_true hrow
  refine ⟨p, (Concurrent.reaches_of_exec hp).of_guarded, hended, hcompleted, hrow, ?_⟩
  rintro ⟨row, hfound, -, hfields⟩
  rw [hfound] at hrow
  have hactive : row.isActive = true := congrArg Prod.fst (Option.some.inj hrow)
  have hstored := hfields hended .isActive
  rw [hcompleted, Option.getD_some, Field.stored, hactive] at hstored
  cases hstored

end UserCalls

end Expentra
