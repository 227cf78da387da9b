-- SUMMARY: Suspension over runs of all operations on accounts: when it holds until it is lifted.
import Expentra.Identity.AuthOperations

/-!
# Suspension

`isActive` and `deactivatedAt` are written together by `suspendUser`, `activateUser` and
`adminUpdate`. `markEmailVerified` writes `isActive` alone. The callers of it check that the
account is active, but for `confirmEmailVerification`, which asks for a code and nothing
else.
-/

namespace Expentra

open Library AuthService

/-- A suspension as it is written: both columns. -/
def IsSuspended (id : Nat) (s : AuthState) : Prop :=
  ∃ row, s.directory.users.find? id = some row ∧ row.isActive = false ∧ row.deactivatedAt ≠ none

/-- No account that was deactivated is active. -/
def DeactivatedInactive (s : AuthState) : Prop :=
  ∀ row ∈ s.directory.users, row.deactivatedAt ≠ none → row.isActive = false

/-- The calls that lift a suspension: those of another user that return. -/
def AuthOperation.Lifts (cfg : Config) (id : Nat) (s : AuthState) : AuthOperation → Prop
  | activateUser actorId targetUserId => targetUserId = id ∧ actorId ≠ id ∧
      (UserService.activateUser actorId targetUserId s).isOk = true
  | adminUpdate now actor targetUserId input => targetUserId = id ∧ actor.id ≠ id ∧
      input.isActive = some true ∧
      (UserService.adminUpdate cfg now actor targetUserId input s).isOk = true
  | _ => False

/-- No email is confirmed of an account that is deactivated. -/
def AuthOperation.ConfirmsActive (env : AuthEnv) (s : AuthState) : AuthOperation → Prop
  | confirmEmailVerification _ token _ => ∀ id ∈ (findVerification env token s).toOption,
      ∀ row ∈ s.directory.users.find? id, row.isEmailVerified = false → row.deactivatedAt = none
  | _ => True

instance (env : AuthEnv) (s : AuthState) (op : AuthOperation) :
    Decidable (op.ConfirmsActive env s) := by
  cases op <;> unfold AuthOperation.ConfirmsActive <;> infer_instance

namespace Suspension

/-! ## What leaves suspensions alone -/

/-- The accounts are there, deactivated as they were, and those that were deactivated
    keep their flag. New accounts are not deactivated. -/
structure Untouched (s s' : AuthState) : Prop where
  old : ∀ id row, s.directory.users.find? id = some row → ∃ row',
    s'.directory.users.find? id = some row' ∧ row'.deactivatedAt = row.deactivatedAt ∧
      (row.deactivatedAt ≠ none → row'.isActive = row.isActive)
  new : ∀ id, s.directory.users.find? id = none → ∀ row',
    s'.directory.users.find? id = some row' → row'.deactivatedAt = none

namespace Untouched

variable {s₀ s s' : AuthState} {row row' : UserRow} {id : Nat}

theorem refl : Untouched s s :=
  ⟨fun _ row h => ⟨row, h, rfl, fun _ => rfl⟩, fun id hnone row h => by
    rw [hnone] at h
    cases h⟩

theorem trans (h : Untouched s₀ s) (h' : Untouched s s') : Untouched s₀ s' where
  old := by
    intro id row hrow
    obtain ⟨row₁, hrow₁, hat₁, hactive₁⟩ := h.old id row hrow
    obtain ⟨row₂, hrow₂, hat₂, hactive₂⟩ := h'.old id row₁ hrow₁
    refine ⟨row₂, hrow₂, hat₂.trans hat₁, fun hne => ?_⟩
    exact (hactive₂ (by rwa [hat₁])).trans (hactive₁ hne)
  new := by
    intro id hnone row' hrow'
    cases hrow : s.directory.users.find? id with
    | none => exact h'.new id hrow row' hrow'
    | some row =>
      obtain ⟨row₂, hrow₂, hat, -⟩ := h'.old id row hrow
      cases hrow'.symm.trans hrow₂
      exact hat.trans (h.new id hnone row hrow)

theorem of_users (h : s'.directory.users = s.directory.users) : Untouched s s' := by
  have hrefl : Untouched s s := refl
  exact ⟨fun id row hrow => h ▸ hrefl.old id row hrow, fun id hnone row' hrow' =>
    hrefl.new id hnone row' (h ▸ hrow')⟩

/-- A row is changed in other columns, or by a flag while it is not deactivated. -/
theorem of_replace (row' : UserRow) (hrow : s.directory.users.find? id = some row)
    (hid : row'.id = row.id) (hat : row'.deactivatedAt = row.deactivatedAt)
    (hactive : row.deactivatedAt ≠ none → row'.isActive = row.isActive)
    (h : s'.directory.users = s.directory.users.replace row') : Untouched s s' := by
  have hkey : row'.id = id := hid.trans (Table.key_of_find? hrow)
  have hfound : s.directory.users.find? row'.id = some row := by rwa [hkey]
  have hself : s'.directory.users.find? id = some row' := by
    rw [h, ← hkey]
    exact Table.find?_replace_self hfound
  have hother : ∀ other, other ≠ id →
      s'.directory.users.find? other = s.directory.users.find? other := by
    intro other hne
    rw [h]
    exact Table.find?_replace_ne (by rwa [hkey])
  constructor
  · intro other found hfoundOther
    by_cases heq : other = id
    · subst heq
      cases hrow.symm.trans hfoundOther
      exact ⟨row', hself, hat, hactive⟩
    · exact ⟨found, (hother other heq).trans hfoundOther, rfl, fun _ => rfl⟩
  · intro other hnone found hfoundOther
    by_cases heq : other = id
    · subst heq
      cases hrow.symm.trans hnone
    · rw [hother other heq, hnone] at hfoundOther
      cases hfoundOther

theorem of_insert {users : Table UserRow.id} (h : s.directory.users.insert? row = some users)
    (hat : row.deactivatedAt = none) (hs' : s'.directory.users = users) : Untouched s s' := by
  constructor
  · intro id found hfound
    have hne : id ≠ row.id := by
      rintro rfl
      exact (Table.insert?_eq_some.1 h).1 found (Table.mem_of_find? hfound) (Table.key_of_find? hfound)
    refine ⟨found, ?_, rfl, fun _ => rfl⟩
    rw [hs', Table.find?_insert_ne h hne]
    exact hfound
  · intro id hnone found hfound
    rw [hs'] at hfound
    by_cases heq : id = row.id
    · subst heq
      cases (Table.find?_insert_self h).symm.trans hfound
      exact hat
    · rw [Table.find?_insert_ne h heq, hnone] at hfound
      cases hfound

theorem deactivatedInactive (h : Untouched s s') (hs : DeactivatedInactive s) :
    DeactivatedInactive s' := by
  intro row' hrow' hat
  have hfound := Table.find?_of_mem hrow'
  cases hrow : s.directory.users.find? row'.id with
  | none => exact absurd (h.new _ hrow row' hfound) hat
  | some row =>
    obtain ⟨found, hfound', hatEq, hactive⟩ := h.old _ row hrow
    cases hfound.symm.trans hfound'
    rw [hatEq] at hat
    exact (hactive hat).trans (hs row (Table.mem_of_find? hrow) hat)

theorem isSuspended (h : Untouched s s') (hs : IsSuspended id s) : IsSuspended id s' := by
  obtain ⟨row, hrow, hactive, hat⟩ := hs
  obtain ⟨row', hrow', hatEq, hactiveEq⟩ := h.old id row hrow
  exact ⟨row', hrow', (hactiveEq hat).trans hactive, hatEq ▸ hat⟩

end Untouched

/-! ## The operations that leave suspensions alone -/

section Keeps

variable {env : AuthEnv} {s₀ : AuthState}

theorem keeps_write {g : AuthState → AuthState}
    (h : ∀ s, (g s).directory.users = s.directory.users) :
    Process.Keeps (Untouched s₀) (Process.write g : AuthCall PUnit) :=
  Process.Keeps.write (fun s hs => hs.trans (.of_users (h s)))

theorem keeps_clearForUser {flow : CodeFlow} {userId : Nat} :
    Process.Keeps (Untouched s₀) (clearForUser flow userId) :=
  keeps_write (fun s => by rw [AuthState.setCodes_directory])

theorem keeps_sendCode {flow : CodeFlow} {drawn : Fin 1000000} {userId : Nat} {email : String}
    {firstName : Option String} :
    Process.Keeps (Untouched s₀) (sendCode env flow drawn userId email firstName) :=
  .bind keeps_clearForUser (fun _ => .bind (keeps_write (fun s => by rw [AuthState.setCodes_directory]))
    (fun _ => keeps_write (fun _ => rfl)))

theorem ignoresSessions : IgnoresSessions (Untouched s₀) :=
  fun _ _ _ _ _ _ hs => hs.trans (.of_users rfl)

theorem keeps_register {payload : RegisterInput} {drawn : RegisterDraws} :
    Process.Keeps (Untouched s₀) (register env payload drawn) := by
  refine .bind .require (fun _ => .bind (.atomically ?_) (fun row =>
    .bind (keeps_issueTokens ignoresSessions) (fun _ => keeps_sendCode)))
  intro s row s' hs h
  obtain ⟨users, -, hat, husers, rfl⟩ := createRegistered_ok h
  exact hs.trans (.of_insert husers hat rfl)

theorem keeps_login {email password : String} {tokens : TokenPair} {code : Fin 1000000} :
    Process.Keeps (Untouched s₀) (login env email password tokens code) := by
  refine .bind .query (fun user => .bind (keeps_issueTokens ignoresSessions) (fun _ => ?_))
  split
  · exact .pure
  · exact keeps_sendCode

theorem keeps_resendEmailVerification {email : String} {drawn : Fin 1000000} :
    Process.Keeps (Untouched s₀) (resendEmailVerification env email drawn) := by
  refine .bind .read (fun user => ?_)
  split
  · exact keeps_sendCode
  · exact .pure

theorem keeps_requestPasswordReset {email : String} {drawn : Fin 1000000} :
    Process.Keeps (Untouched s₀) (requestPasswordReset env email drawn) := by
  refine .bind .read (fun user => ?_)
  split
  · exact keeps_sendCode
  · exact .pure

theorem keeps_confirmPasswordReset {token passwordHash : String} :
    Process.Keeps (Untouched s₀) (confirmPasswordReset env token passwordHash) := by
  refine .bind .query (fun id => .bind ?_ (fun _ => .bind .query (fun user =>
    .bind (.atomically ?_) (fun _ => .atomically ?_))))
  · exact .bind (keeps_write (fun _ => rfl)) (fun _ => keeps_write (fun _ => rfl))
  · intro s _ s' hs h
    obtain ⟨row, hrow, rfl⟩ := UserService.updatePasswordHash_ok h
    exact hs.trans (.of_replace { row with password := some passwordHash } hrow rfl rfl
      (fun _ => rfl) rfl)
  · intro s _ s' hs h
    obtain rfl := UserService.revokeSessions_eq_ok.1 h
    exact hs.trans (.of_users rfl)

/-! ### Single sign-on -/

theorem keeps_resolveBound {row : UserRow} {avatarUrl : Option String} :
    Process.Keeps (Untouched s₀) (resolveBound row avatarUrl) := by
  refine .bind .query (fun _ => .bind (.atomically ?_) (fun _ => .query))
  intro s _ s' hs h
  rcases UserService.syncSsoProfile_ok h with rfl | ⟨found, avatarUrl, hfound, rfl⟩
  · exact hs
  · exact hs.trans (.of_replace { found with avatarUrl := some avatarUrl } hfound rfl rfl
      (fun _ => rfl) rfl)

theorem keeps_provision {now : Instant} {drawn : NewUser} {profile : OidcUserInfo}
    {email externalId : String} {avatarUrl : Option String} :
    Process.Keeps (Untouched s₀) (provision env now drawn profile email externalId avatarUrl) := by
  refine .bind .require (fun _ => .bind (.atomically ?_) (fun _ => .pure))
  intro s row s' hs h
  obtain ⟨users, -, -, hat, -, husers, rfl⟩ := UserService.createSsoUser_ok h
  exact hs.trans (.of_insert husers hat rfl)

/-- The account of an id is not deactivated. -/
def Undeactivated (id : Nat) (s : AuthState) : Prop :=
  ∀ row, s.directory.users.find? id = some row → row.deactivatedAt = none

/-- The email of an account that is not deactivated is verified. -/
theorem verifyUnlessVerified_untouched {now : Instant} {user : UserEntity} :
    Process.Triple (fun s => Untouched s₀ s ∧ (user.isEmailVerified = false → Undeactivated user.id s))
      (verifyUnlessVerified now user) (fun _ => Untouched s₀) (Untouched s₀) := by
  unfold verifyUnlessVerified
  split
  · exact Process.Keeps.pure.of_imp (fun _ hs => hs.1)
  · rename_i hverified
    refine Process.Triple.atomically.of_imp (fun s hs => ⟨fun _ s' h => ?_, fun _ => hs.1⟩)
    obtain ⟨row, hrow, rfl⟩ := UserService.markEmailVerified_ok h
    have hat : row.deactivatedAt = none := hs.2 (by simpa using hverified) row hrow
    exact hs.1.trans (.of_replace { row with
      emailVerifiedAt := some now, isEmailVerified := true, isActive := true } hrow rfl rfl
      (fun hne => absurd hat hne) rfl)

theorem linkSsoIdentity_untouched {row : UserRow} {authProvider externalId : String}
    {avatarUrl : Option String} {s s' : AuthState} {u : Unit} (hs : Untouched s₀ s)
    (hrow : s.directory.users.find? row.id = some row) (hat : row.deactivatedAt = none)
    (h : UserService.linkSsoIdentity row.id authProvider externalId avatarUrl s = .ok (u, s')) :
    Untouched s₀ s' ∧ Undeactivated row.id s' := by
  obtain ⟨-, rfl⟩ := (UserService.linkSsoIdentity_eq_ok hrow).1 h
  have hlinked : Untouched s (s.setUser (UserService.linkedRow authProvider externalId avatarUrl row)) :=
    .of_replace (UserService.linkedRow authProvider externalId avatarUrl row) hrow rfl rfl
      (fun _ => rfl) rfl
  refine ⟨hs.trans hlinked, fun found hfound => ?_⟩
  obtain ⟨row', hrow', hat', -⟩ := hlinked.old row.id row hrow
  cases hfound.symm.trans hrow'
  exact hat'.trans hat

/-- An account is linked after the check that it is active. -/
theorem linkByEmail_untouched {now : Instant} {row : UserRow} {externalId : String}
    {avatarUrl : Option String} :
    Process.Triple (fun s => Untouched s₀ s ∧ s.directory.users.find? row.id = some row)
      (linkByEmail now row externalId avatarUrl) (fun _ => Untouched s₀) (Untouched s₀) := by
  have hcheck : Process.Triple (fun s => Untouched s₀ s ∧ s.directory.users.find? row.id = some row)
      (Process.query (fun _ : AuthState => assertActiveAccount row))
      (fun _ s => (Untouched s₀ s ∧ s.directory.users.find? row.id = some row) ∧
        row.deactivatedAt = none) (Untouched s₀) :=
    Process.Triple.query.of_imp (fun s hs => ⟨fun _ h => ⟨hs, (assertActiveAccount_ok h).2⟩,
      fun _ _ => hs.1⟩)
  refine .bind hcheck (fun _ => .bind (Q := fun _ s => Untouched s₀ s ∧ Undeactivated row.id s) ?_
    (fun _ => .bind ?_ (fun _ => Process.Keeps.query)))
  · refine Process.Triple.atomically.of_imp (fun s hs => ⟨fun _ s' h => ?_, fun _ => hs.1.1⟩)
    exact linkSsoIdentity_untouched hs.1.1 hs.1.2 hs.2 h
  · exact verifyUnlessVerified_untouched.of_imp (fun s hs => ⟨hs.1, fun _ => hs.2⟩)

theorem keeps_resolveByEmail {now : Instant} {drawn : NewUser} {profile : OidcUserInfo}
    {email externalId : String} {avatarUrl : Option String} :
    Process.Keeps (Untouched s₀)
      (resolveByEmail env now drawn profile email externalId avatarUrl) := by
  refine Process.Triple.bind (Q := fun existing s => Untouched s₀ s ∧
    ∀ row, existing = some row → s.directory.users.find? row.id = some row) ?_ (fun existing => ?_)
  · refine Process.Triple.read.of_imp (fun s hs => ⟨hs, fun row h => ?_⟩)
    exact Table.find?_of_mem (List.mem_of_find?_eq_some h)
  · cases existing with
    | some row => exact linkByEmail_untouched.of_imp (fun s hs => ⟨hs.1, hs.2 row rfl⟩)
    | none => exact keeps_provision.of_imp (fun s hs => hs.1)

theorem keeps_resolveSsoUser {now : Instant} {drawn : NewUser} {profile : OidcUserInfo} :
    Process.Keeps (Untouched s₀) (resolveSsoUser env now drawn profile) := by
  refine .bind .query (fun externalId => .bind .query (fun email => .bind .query (fun _ =>
    .bind .read (fun existing => ?_))))
  cases existing with
  | some row => exact keeps_resolveBound
  | none => exact keeps_resolveByEmail

end Keeps

/-! ## Changes of the two columns -/

section Replace

variable {s s' : AuthState} {row row' : UserRow} {id target : Nat}

theorem deactivatedInactive_of_replace (hs : DeactivatedInactive s)
    (h : s'.directory.users = s.directory.users.replace row')
    (hnew : row'.deactivatedAt ≠ none → row'.isActive = false) : DeactivatedInactive s' := by
  intro found hfound hat
  rw [h] at hfound
  rcases Table.eq_or_mem_of_mem_replace hfound with rfl | hold
  · exact hnew hat
  · exact hs found hold.1 hat

theorem isSuspended_of_replace (row' : UserRow) (hrow : s.directory.users.find? target = some row)
    (hid : row'.id = row.id) (h : s'.directory.users = s.directory.users.replace row')
    (hactive : row'.isActive = false) (hat : row'.deactivatedAt ≠ none) : IsSuspended target s' := by
  have hkey : row'.id = target := hid.trans (Table.key_of_find? hrow)
  refine ⟨row', ?_, hactive, hat⟩
  rw [h, ← hkey]
  exact Table.find?_replace_self (by rwa [hkey])

theorem isSuspended_of_replace_ne (hs : IsSuspended id s)
    (hrow : s.directory.users.find? target = some row) (hid : row'.id = row.id)
    (h : s'.directory.users = s.directory.users.replace row') (hne : id ≠ target) :
    IsSuspended id s' := by
  obtain ⟨found, hfound, hactive, hat⟩ := hs
  have hkey : row'.id = target := hid.trans (Table.key_of_find? hrow)
  refine ⟨found, ?_, hactive, hat⟩
  rw [h, Table.find?_replace_ne (by rwa [hkey])]
  exact hfound

end Replace

/-- The two columns after an update by an administrator. -/
theorem assignActiveState_columns {now : Instant} {actorId : Nat} {isActive : Option Bool}
    {user edited : UserEntity} {changed : Bool}
    (h : UserService.assignActiveState now actorId isActive user = .ok (edited, changed)) :
    edited = user ∨ (isActive = some true ∧ actorId ≠ user.id ∧
        edited = { user with isActive := true, deactivatedAt := .null }) ∨
      (isActive = some false ∧
        edited = { user with isActive := false, deactivatedAt := .value now }) := by
  unfold UserService.assignActiveState at h
  split at h
  · cases h
    exact .inl rfl
  · rename_i flag
    obtain ⟨_, hactor, h⟩ := Except.bind_eq_ok.1 h
    have hother := UserService.assertCanChangeUserActiveState_eq_ok.1 hactor
    split at h
    · cases h
      cases flag with
      | true => exact .inr (.inl ⟨rfl, hother, rfl⟩)
      | false => exact .inr (.inr ⟨rfl, rfl⟩)
    · rename_i hsame
      split at h
      · rename_i hstale
        cases h
        have hflag : flag = true := (by simpa using hstale : flag = true ∧ _).1
        have hactive : user.isActive = true := (not_not.1 hsame).trans hflag
        refine .inr (.inl ⟨congrArg some hflag, hother, ?_⟩)
        rw [← hactive]
      · cases h
        exact .inl rfl

theorem adminUpdate_columns {cfg : Config} {now : Instant} {actor : AuthUser} {targetUserId : Nat}
    {input : AdminUpdateUserInput} {s s' : AuthState} {u : Unit}
    (h : UserService.adminUpdate cfg now actor targetUserId input s = .ok (u, s')) :
    ∃ row row', s.directory.users.find? targetUserId = some row ∧ row'.id = row.id ∧
      s'.directory.users = s.directory.users.replace row' ∧
      ((row'.isActive = row.isActive ∧ row'.deactivatedAt = row.deactivatedAt) ∨
        (input.isActive = some true ∧ actor.id ≠ targetUserId ∧ row'.isActive = true ∧
          row'.deactivatedAt = none) ∨
        (row'.isActive = false ∧ row'.deactivatedAt ≠ none)) := by
  obtain ⟨row, edited, changed, hrow, hedit, hstate⟩ := UserService.adminUpdate_frame h
  obtain ⟨withRole, withDepartment, hrole, hdepartment, hactive⟩ := UserService.adminEdit_ok hedit
  have hloaded : withDepartment.id = row.id ∧ withDepartment.isActive = row.isActive ∧
      withDepartment.deactivatedAt = .ofColumn row.deactivatedAt := by
    rw [(UserService.assignDepartment_ok hdepartment).1]
    rcases UserService.assignRole_ok hrole with ⟨-, rfl⟩ | ⟨role, -, -, -, rfl⟩
    · exact ⟨rfl, rfl, rfl⟩
    · exact ⟨rfl, rfl, rfl⟩
  obtain ⟨hid, hflag, hat⟩ := hloaded
  refine ⟨row, row.save edited, hrow, rfl, by rw [hstate], ?_⟩
  rcases assignActiveState_columns hactive with rfl | ⟨hinput, hne, rfl⟩ | ⟨-, rfl⟩
  · refine .inl ⟨hflag, ?_⟩
    simp [UserRow.save, hat]
  · rw [hid, Table.key_of_find? hrow] at hne
    exact .inr (.inl ⟨hinput, hne, rfl, rfl⟩)
  · exact .inr (.inr ⟨rfl, by simp [UserRow.save, Property.save]⟩)

/-! ## Confirming the email of a deactivated account -/

section Confirm

variable {env : AuthEnv} {s : AuthState} {now : Instant} {token : String} {tokens : TokenPair}

theorem confirm_untouched
    (hactive : (AuthOperation.confirmEmailVerification now token tokens).ConfirmsActive env s) :
    Untouched s ((confirmEmailVerification env now token tokens).final s) := by
  have hconfirm : Process.Triple (fun t => t = s) (confirmEmailVerification env now token tokens)
      (fun _ => Untouched s) (Untouched s) := by
    refine .bind (Q := fun id t => t = s ∧ findVerification env token s = .ok id) ?_ (fun id =>
      .bind (Q := fun user t => t = s ∧ findVerification env token s = .ok id ∧
        UserService.findOne s.directory id = .ok user) ?_ (fun user => ?_))
    · refine Process.Triple.query.of_imp ?_
      rintro t rfl
      exact ⟨fun _ h => ⟨rfl, h⟩, fun _ _ => .refl⟩
    · refine Process.Triple.query.of_imp ?_
      rintro t ⟨rfl, hid⟩
      exact ⟨fun _ h => ⟨rfl, hid, h⟩, fun _ _ => .refl⟩
    · refine .bind (Q := fun _ t => Untouched s t ∧
        (user.isEmailVerified = false → Undeactivated user.id t)) ?_ (fun _ =>
        .bind verifyUnlessVerified_untouched (fun _ => keeps_issueTokens ignoresSessions))
      refine Process.Triple.write.of_imp ?_
      rintro t ⟨rfl, hid, huser⟩
      refine ⟨.of_users (by rw [AuthState.setCodes_directory]), fun hverified row hrow => ?_⟩
      obtain ⟨found, hfound, rfl⟩ := UserService.findOne_eq_ok.1 huser
      rw [AuthState.setCodes_directory] at hrow
      rw [show found.toEntity.id = found.id from rfl, Table.key_of_find? hfound] at hrow
      cases hfound.symm.trans hrow
      exact hactive id (by rw [hid]; rfl) row hfound hverified
  exact hconfirm.final rfl

/-- The verification of an email activates the account, whatever the date says. -/
theorem verify_activates {row : UserRow} (hrow : s.directory.users.find? row.id = some row)
    (hverified : row.isEmailVerified = false) (hat : row.deactivatedAt ≠ none) :
    Process.Triple (fun t => t.directory = s.directory) (verifyUnlessVerified now row.toEntity)
      (fun _ t => ¬ DeactivatedInactive t) (fun t => ¬ DeactivatedInactive t) := by
  have hunfold : verifyUnlessVerified now row.toEntity =
      Process.atomically (UserService.markEmailVerified now row.id) := by
    simp [verifyUnlessVerified, UserRow.toEntity, hverified]
  rw [hunfold]
  refine Process.Triple.atomically.of_imp (fun t ht => ?_)
  rw [← ht] at hrow
  constructor
  · intro _ t' h
    obtain ⟨found, hfound, rfl⟩ := UserService.markEmailVerified_ok h
    cases hfound.symm.trans hrow
    intro hinactive
    have hmem := Table.mem_replace_self (t := t.directory.users) (r := { row with
      emailVerifiedAt := some now, isEmailVerified := true, isActive := true }) hrow
    exact Bool.noConfusion (hinactive _ hmem hat)
  · rintro ⟨e, he⟩
    have hok : ∃ t', UserService.markEmailVerified now row.id t = .ok ((), t') := by
      simp only [UserService.markEmailVerified, Transaction.query_bind_eq_ok]
      exact ⟨_, row.toEntity, UserService.findOne_eq_ok.2 ⟨row, hrow, rfl⟩, Transaction.bind_eq_ok.2
        ⟨(), _, (UserService.updateRow_eq_ok hrow).2 rfl, AuthContextCache.invalidate_eq_ok.2 rfl⟩⟩
    obtain ⟨t', hok⟩ := hok
    cases he.symm.trans hok

/-- The account is active again, and still has the date of its suspension. -/
theorem confirm_activates
    (hactive : ¬ (AuthOperation.confirmEmailVerification now token tokens).ConfirmsActive env s) :
    ¬ DeactivatedInactive ((confirmEmailVerification env now token tokens).final s) := by
  simp only [AuthOperation.ConfirmsActive, Option.mem_def, not_forall] at hactive
  obtain ⟨id, hid, row, hrow, hverified, hat⟩ := hactive
  have hfound : findVerification env token s = .ok id := by
    cases hfind : findVerification env token s with
    | ok other =>
      rw [hfind] at hid
      cases hid
      rfl
    | error e =>
      rw [hfind] at hid
      cases hid
  have hfinal : Process.Triple (fun t => t = s) (confirmEmailVerification env now token tokens)
      (fun _ t => ¬ DeactivatedInactive t) (fun t => ¬ DeactivatedInactive t) := by
    refine .bind (Q := fun found t => t = s ∧ found = id) ?_ (fun found =>
      .bind (Q := fun user t => t = s ∧ user = row.toEntity) ?_ (fun user =>
      .bind (Q := fun _ t => t.directory = s.directory ∧ user = row.toEntity) ?_ (fun _ =>
      .bind (Q := fun _ t => ¬ DeactivatedInactive t) ?_ (fun _ =>
        .bind (Process.Triple.write.of_imp (fun t ht => ht)) (fun _ => .pure)))))
    · refine Process.Triple.query.of_imp ?_
      rintro t rfl
      rw [hfound]
      exact ⟨fun found h => ⟨rfl, (Except.ok.inj h).symm⟩, fun _ h => (by cases h)⟩
    · refine Process.Triple.query.of_imp ?_
      rintro t ⟨rfl, rfl⟩
      rw [UserService.findOne, hrow]
      exact ⟨fun user h => ⟨rfl, (Except.ok.inj h).symm⟩, fun _ h => (by cases h)⟩
    · refine Process.Triple.write.of_imp ?_
      rintro t ⟨rfl, rfl⟩
      exact ⟨AuthState.setCodes_directory, rfl⟩
    · rintro t ⟨hdirectory, rfl⟩
      rw [← Table.key_of_find? hrow] at hrow
      exact verify_activates hrow hverified hat t hdirectory
  exact hfinal.final rfl

end Confirm

/-! ## One operation -/

section Step

variable {env : AuthEnv} {cfg : Config} {s s' : AuthState} {op : AuthOperation}

/-- An operation leaves suspensions alone, or changes the columns of one account: to a
    suspension, to an activation, or in neither column. -/
theorem step_cases (hstep : AuthOperation.Step env cfg s op s') (hactive : op.ConfirmsActive env s) :
    Untouched s s' ∨ ∃ target row row', s.directory.users.find? target = some row ∧
      row'.id = row.id ∧ s'.directory.users = s.directory.users.replace row' ∧
      ((op.Lifts cfg target s ∧ row'.deactivatedAt = none) ∨
        (row'.isActive = false ∧ row'.deactivatedAt ≠ none)) := by
  cases hstep
  cases op with
  | register payload drawn => exact .inl (keeps_register.final .refl)
  | login email password tokens code => exact .inl (keeps_login.final .refl)
  | beginSsoLogin state codeVerifier =>
    exact .inl ((keeps_beginSsoLogin ignoresSessions).final .refl)
  | completeSsoCallback now params drawn =>
    exact .inl ((keeps_completeSsoCallback ignoresSessions (fun _ => keeps_resolveSsoUser)).final .refl)
  | exchangeSsoCode exchangeCode tokens =>
    exact .inl ((keeps_exchangeSsoCode ignoresSessions).final .refl)
  | confirmEmailVerification now token tokens => exact .inl (confirm_untouched hactive)
  | resendEmailVerification email drawn => exact .inl (keeps_resendEmailVerification.final .refl)
  | requestPasswordReset email drawn => exact .inl (keeps_requestPasswordReset.final .refl)
  | confirmPasswordReset token passwordHash => exact .inl (keeps_confirmPasswordReset.final .refl)
  | refresh now refreshToken tokens =>
    exact .inl ((keeps_refresh ignoresSessions).final .refl)
  | logout reference refreshToken => exact .inl (.of_users rfl)
  | expire key => exact .inl (.of_users (by rw [AuthOperation.run, AuthState.expire_directory]))
  | updateProfile id input =>
    refine .inl (Transaction.commit_induction (P := fun t : AuthState => Untouched s t) .refl ?_)
    intro _ t h
    obtain ⟨row, hrow, rfl⟩ := UserService.updateProfile_ok h
    refine .of_replace (row.save (UserService.editProfile input row.toEntity)) hrow rfl ?_
      (fun _ => rfl) rfl
    simp [UserRow.save, UserService.editProfile, UserRow.toEntity]
  | suspendUser now actorId targetUserId =>
    rcases Transaction.commit_cases (UserService.suspendUser now actorId targetUserId) s with
      ⟨_, h⟩ | ⟨-, h⟩
    · obtain ⟨-, row, hrow, -, hstate⟩ := UserService.suspendUser_ok h
      refine .inr ⟨targetUserId, row, { row with isActive := false, deactivatedAt := some now },
        hrow, rfl, ?_, .inr ⟨rfl, Option.some_ne_none _⟩⟩
      rw [AuthOperation.run, hstate]
      rfl
    · exact .inl (.of_users (by rw [AuthOperation.run, h]))
  | activateUser actorId targetUserId =>
    rcases Transaction.commit_cases (UserService.activateUser actorId targetUserId) s with
      ⟨_, h⟩ | ⟨-, h⟩
    · obtain ⟨hne, row, hrow, hstate⟩ := UserService.activateUser_ok h
      refine .inr ⟨targetUserId, row, { row with isActive := true, deactivatedAt := none },
        hrow, rfl, ?_, .inl ⟨⟨rfl, hne, by rw [h]; rfl⟩, rfl⟩⟩
      rw [AuthOperation.run, hstate]
      rfl
    · exact .inl (.of_users (by rw [AuthOperation.run, h]))
  | adminUpdate now actor targetUserId input =>
    rcases Transaction.commit_cases (UserService.adminUpdate cfg now actor targetUserId input) s with
      ⟨_, h⟩ | ⟨-, h⟩
    · obtain ⟨row, row', hrow, hid, husers, hcolumns⟩ := adminUpdate_columns h
      rcases hcolumns with ⟨hflag, hat⟩ | ⟨hinput, hne, -, hat⟩ | hsuspended
      · exact .inl (.of_replace _ hrow hid hat (fun _ => hflag) husers)
      · exact .inr ⟨targetUserId, row, row', hrow, hid, husers,
          .inl ⟨⟨rfl, hne, hinput, by rw [h]; rfl⟩, hat⟩⟩
      · exact .inr ⟨targetUserId, row, row', hrow, hid, husers, .inr hsuspended⟩
    · exact .inl (.of_users (by rw [AuthOperation.run, h]))

theorem deactivatedInactive_step (hs : DeactivatedInactive s)
    (hstep : AuthOperation.Step env cfg s op s') (hactive : op.ConfirmsActive env s) :
    DeactivatedInactive s' := by
  rcases step_cases hstep hactive with h | ⟨target, row, row', hrow, hid, husers, hnew⟩
  · exact h.deactivatedInactive hs
  · refine deactivatedInactive_of_replace hs husers (fun hne => ?_)
    rcases hnew with ⟨-, hat⟩ | ⟨hflag, -⟩
    · exact absurd hat hne
    · exact hflag

theorem isSuspended_step {id : Nat} (hs : IsSuspended id s)
    (hstep : AuthOperation.Step env cfg s op s') (hactive : op.ConfirmsActive env s)
    (hlifts : ¬ op.Lifts cfg id s) : IsSuspended id s' := by
  rcases step_cases hstep hactive with h | ⟨target, row, row', hrow, hid, husers, hnew⟩
  · exact h.isSuspended hs
  · by_cases heq : id = target
    · subst heq
      rcases hnew with ⟨hlifted, -⟩ | ⟨hflag, hat⟩
      · exact absurd hlifted hlifts
      · exact isSuspended_of_replace _ hrow hid husers hflag hat
    · exact isSuspended_of_replace_ne hs hrow hid husers heq

/-- The invariant survives an operation exactly when it confirms no deactivated account. -/
theorem deactivatedInactive_step_iff (hs : DeactivatedInactive s)
    (hstep : AuthOperation.Step env cfg s op s') : DeactivatedInactive s' ↔ op.ConfirmsActive env s := by
  refine ⟨fun h => ?_, deactivatedInactive_step hs hstep⟩
  by_contra hactive
  cases hstep
  cases op with
  | confirmEmailVerification now token tokens => exact confirm_activates hactive h
  | _ => exact hactive trivial

end Step

/-! ## Runs -/

/-- Every suspension of a run is one of both columns, and in every later state of the run
    it is there, until another user lifts it. -/
def SuspensionsHold (cfg : Config) (s : AuthState) (tr : List (AuthOperation × AuthState)) : Prop :=
  (∀ t now actorId id t', (t, AuthOperation.suspendUser now actorId id, t') ∈ Run.transitions s tr →
    (UserService.suspendUser now actorId id t).isOk = true → IsSuspended id t') ∧
  ∀ before between after, tr = before ++ between ++ after →
    ∀ id, IsSuspended id (Run.last s before) →
      (∀ p ∈ Run.steps (Run.last s before) between, ¬ p.2.Lifts cfg id p.1) →
      IsSuspended id (Run.last s (before ++ between))

end Suspension

namespace Sample

/-- A code is sent to the employee, who is suspended, and then presents the code. -/
def confirmedSuspension : List AuthOperation :=
  [.resendEmailVerification "employee@expentra.test" (drawnCode 7), .suspendUser authInstant 1 3,
    .confirmEmailVerification authInstant "000007" tokens]

/-- The employee signs in, is suspended, and is activated again. -/
def liftedSuspension : List AuthOperation :=
  [.resendEmailVerification "employee@expentra.test" (drawnCode 7),
    .confirmEmailVerification authInstant "000007" tokens, .suspendUser authInstant 1 3,
    .requestPasswordReset "employee@expentra.test" (drawnCode 8), .activateUser 1 3]

theorem directory_inactive : DeactivatedInactive authState := by
  change ∀ row ∈ [administratorRow, managerRow, employeeRow],
    row.deactivatedAt ≠ none → row.isActive = false
  simp [administratorRow, managerRow, employeeRow]

end Sample

namespace Suspension

/-- Suspensions hold until they are lifted, and no deactivated account is active, in every
    run that confirms no email of a deactivated account; in all others an account is both. -/
theorem suspension_holds_iff {env : AuthEnv} {cfg : Config} {s : AuthState}
    {tr : List (AuthOperation × AuthState)} (hs : DeactivatedInactive s)
    (h : Run (AuthOperation.Step env cfg) s tr) :
    ((∀ t ∈ Run.states s tr, DeactivatedInactive t) ∧ SuspensionsHold cfg s tr) ↔
      ∀ p ∈ Run.steps s tr, p.2.ConfirmsActive env p.1 := by
  have hinvariant := Run.forall_states_iff (I := fun _ => True) (P := DeactivatedInactive)
    (C := fun t op => op.ConfirmsActive env t) (fun _ _ _ _ _ => trivial)
    (fun _ _ _ _ ht hstep => deactivatedInactive_step_iff ht hstep) trivial hs h
  refine ⟨fun hholds => hinvariant.1 hholds.1, fun hactive => ⟨hinvariant.2 hactive, ?_, ?_⟩⟩
  · intro t now actorId id t' hmem hok
    obtain ⟨-, hstep⟩ := Run.of_mem_transitions h hmem
    obtain ⟨t₁, hrun⟩ := Transaction.exists_of_isOk hok
    obtain ⟨-, row, hrow, -, hstate⟩ := UserService.suspendUser_ok hrun
    refine isSuspended_of_replace { row with isActive := false, deactivatedAt := some now }
      hrow rfl ?_ rfl (Option.some_ne_none _)
    rw [hstep, AuthOperation.run, Transaction.commit_of_ok hrun, hstate]
    rfl
  · rintro before between after rfl id hsuspended hlifts
    rw [List.append_assoc, Run.steps_append, Run.steps_append] at hactive
    have hguarded : Run (Guarded (fun t op => op.ConfirmsActive env t ∧ ¬ op.Lifts cfg id t)
        (AuthOperation.Step env cfg)) (Run.last s before) between := by
      refine (Run.append_iff.1 (Run.append_iff.1 h).1).2.guarded (fun p hp => ⟨?_, hlifts p hp⟩)
      exact hactive p (List.mem_append_right _ (List.mem_append_left _ hp))
    rw [Run.last_append]
    exact Run.last_induction (P := IsSuspended id)
      (fun t op t' ht hstep => isSuspended_step ht hstep.2 hstep.1.1 hstep.1.2) hguarded hsuspended

theorem suspension_holds_iff_sample :
    (∀ t ∈ Run.states Sample.authState (Sample.runOf Sample.liftedSuspension), DeactivatedInactive t) ∧
      SuspensionsHold Sample.authConfig Sample.authState (Sample.runOf Sample.liftedSuspension) :=
  (suspension_holds_iff Sample.directory_inactive (Run.run_trace _ _ _)).2 (by decide +kernel)

/-- Nobody lifts the suspension, and the account is active after it. -/
theorem suspension_confirmed_away : ∃ tr,
    Run (AuthOperation.Step Sample.authEnv Sample.authConfig) Sample.authState tr ∧
    DeactivatedInactive Sample.authState ∧
    (∀ p ∈ Run.steps Sample.authState tr, ∀ id, ¬ p.2.Lifts Sample.authConfig id p.1) ∧
    (∃ t ∈ Run.states Sample.authState tr, IsSuspended 3 t) ∧
    ¬ IsSuspended 3 (Run.last Sample.authState tr) ∧
    ¬ ∀ t ∈ Run.states Sample.authState tr, DeactivatedInactive t := by
  have hcolumns : (Sample.runOf Sample.confirmedSuspension).map (fun p =>
      (p.2.directory.users.find? 3).map (fun row => (row.isActive, row.deactivatedAt))) =
      [some (true, none), some (false, some Sample.authInstant), some (true, some Sample.authInstant)] := by
    decide +kernel
  simp only [Sample.runOf, Sample.confirmedSuspension, Run.trace, List.map_cons, List.map_nil,
    List.cons.injEq, and_true] at hcolumns
  obtain ⟨-, hsuspended, hactive⟩ := hcolumns
  obtain ⟨suspended, hfindSuspended, hsuspended⟩ := Option.map_eq_some_iff.1 hsuspended
  obtain ⟨active, hfindActive, hactive⟩ := Option.map_eq_some_iff.1 hactive
  obtain ⟨hflag, hat⟩ := Prod.mk.inj hactive
  refine ⟨Sample.runOf Sample.confirmedSuspension, Run.run_trace _ _ _, Sample.directory_inactive,
    ?_, ?_, ?_, ?_⟩
  · simp only [Sample.runOf, Sample.confirmedSuspension, Run.trace, Run.steps_cons, Run.steps_nil,
      List.forall_mem_cons]
    exact ⟨fun _ h => h, fun _ h => h, fun _ h => h, fun _ h => absurd h List.not_mem_nil⟩
  · refine ⟨_, List.mem_cons_of_mem _ (List.mem_cons_of_mem _ List.mem_cons_self), suspended,
      hfindSuspended, (Prod.mk.inj hsuspended).1, ?_⟩
    rw [(Prod.mk.inj hsuspended).2]
    exact Option.some_ne_none _
  · rintro ⟨row, hrow, hinactive, -⟩
    cases hrow.symm.trans hfindActive
    rw [hflag] at hinactive
    cases hinactive
  · intro hall
    have hlast := hall _ (List.mem_cons_of_mem _ (List.mem_cons_of_mem _
      (List.mem_cons_of_mem _ List.mem_cons_self))) active (Table.mem_of_find? hfindActive)
    rw [hat, hflag] at hlast
    cases hlast (Option.some_ne_none _)

end Suspension

end Expentra
