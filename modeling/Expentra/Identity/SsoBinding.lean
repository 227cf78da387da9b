-- SUMMARY: Bindings of accounts to subjects of the identity provider: whom a callback takes by email, and what binds for good.
import Expentra.Identity.AuthOperations

/-!
# Bindings to the provider

A callback finds its account by the subject of the profile, or else by the email, and binds
the account it finds by email to the subject. It does not read whether the provider says that
the email is verified, takes the preferred user name for an email when there is none, and
binds an account anew that is bound to another subject.
-/

namespace Expentra

open Library

namespace SsoBinding

open AuthService UserService

/-! ## Callbacks -/

structure Callback where
  now : Instant
  params : SsoCallback
  drawn : SsoDraws

/-- `completeSsoCallback` up to the account, before it opens the session. -/
def Callback.resolve (env : AuthEnv) (c : Callback) : AuthCall UserEntity := do
  let state ← Process.query (fun _ : AuthState => checkCallback env c.params)
  let _ ← takeSsoState state
  let profile ← Process.query (fun _ : AuthState => c.drawn.profile)
  resolveSsoUser env c.now c.drawn.user profile

def Callback.complete (env : AuthEnv) (c : Callback) : AuthCall Unit :=
  completeSsoCallback env c.now c.params c.drawn

/-- A sign-in begins, or comes back from the provider. -/
inductive SsoOperation where
  | beginSsoLogin (state codeVerifier : String)
  | completeSsoCallback (c : Callback)

def SsoOperation.run (env : AuthEnv) (s : AuthState) : SsoOperation → AuthState
  | .beginSsoLogin state codeVerifier => (AuthService.beginSsoLogin env state codeVerifier).final s
  | .completeSsoCallback c => (c.complete env).final s

def Step (env : AuthEnv) (s : AuthState) (op : SsoOperation) (s' : AuthState) : Prop :=
  s' = op.run env s

/-! ## Bindings -/

/-- How an account authenticates. -/
def identityOf (row : UserRow) : String × Option String := (row.authProvider, row.externalId)

def BoundTo (subject : String) (row : UserRow) : Prop :=
  identityOf row = (SSO_AUTH_PROVIDER, some subject)

def subjectOf (profile : OidcUserInfo) : String := Js.trim (profile.sub.getD "")

def normalizeEmail (env : AuthEnv) (email : String) : String := env.toLowerCase (Js.trim email)

/-- The provider says that the email of an account is verified. -/
def assertsEmail (env : AuthEnv) (profile : OidcUserInfo) (row : UserRow) : Bool :=
  profile.email_verified = some true &&
    profile.email.any (fun email => row.email = normalizeEmail env (normalizeEmail env email))

/-- The account a profile is taken to by its email. -/
def emailMatch (env : AuthEnv) (d : Directory) (profile : OidcUserInfo) : Option UserRow := do
  let externalId ← (extractSubject profile).toOption
  let email ← (extractSsoEmail env profile).toOption
  let _ ← (assertAllowedEmailDomain env email).toOption
  if (findByExternalIdentity d SSO_AUTH_PROVIDER externalId).isSome then none
  else (findByEmail env d email).filter (fun row => row.isActive && row.deactivatedAt.isNone)

/-- The profile of a callback that gets to an account by email, with the account. -/
def Callback.emailMatch (env : AuthEnv) (s : AuthState) (c : Callback) :
    Option (OidcUserInfo × UserRow) := do
  let state ← (checkCallback env c.params).toOption
  let _ ← (s.ssoStates state).filter (· ≠ "")
  let profile ← c.drawn.profile.toOption
  let row ← SsoBinding.emailMatch env s.directory profile
  pure (profile, row)

/-- An account that is found by email is the one whose email the provider says is
    verified, and bound to no subject. -/
def LinksVerified (env : AuthEnv) (s : AuthState) : SsoOperation → Prop
  | .completeSsoCallback c => ∀ found ∈ c.emailMatch env s,
    assertsEmail env found.1 found.2 = true ∧
      (found.2.authProvider = SSO_AUTH_PROVIDER → found.2.externalId = none)
  | .beginSsoLogin .. => True

instance (env : AuthEnv) (s : AuthState) (op : SsoOperation) : Decidable (LinksVerified env s op) := by
  cases op <;> unfold LinksVerified <;> infer_instance

/-- A callback resolves to the account of an id, or writes its identity. -/
def Takes (env : AuthEnv) (s : AuthState) (c : Callback) (id : Nat) : Prop :=
  ((c.resolve env s).1.toOption).map (·.id) = some id ∨
    (((c.complete env).final s).directory.users.find? id).map identityOf ≠
      (s.directory.users.find? id).map identityOf

/-- What a callback does to the accounts that are there, in a state that is reached from
    `s₀`: it takes none by an email that is not verified, and none that was bound to
    another subject. -/
structure SoundAfter (env : AuthEnv) (s₀ s : AuthState) (c : Callback) : Prop where
  verified : ∀ row ∈ s.directory.users, Takes env s c row.id →
    ∃ profile, c.drawn.profile = .ok profile ∧
      (BoundTo (subjectOf profile) row ∨ assertsEmail env profile row = true)
  permanent : ∀ row ∈ s₀.directory.users, ∀ subject, BoundTo subject row → Takes env s c row.id →
    ∃ profile, c.drawn.profile = .ok profile ∧ subjectOf profile = subject

/-! ## What a resolution writes -/

/-- The accounts are there, and only `matched` may have got a new identity: the subject. -/
def Writes (matched : Option UserRow) (subject : String) (d : Directory) (s : AuthState) : Prop :=
  ∀ row ∈ d.users, ∃ row', s.directory.users.find? row.id = some row' ∧
    (identityOf row' = identityOf row ∨ matched = some row ∧ BoundTo subject row')

section Writes

variable {matched : Option UserRow} {subject : String} {d : Directory} {s s' : AuthState} {u : Unit}
  {row row' found : UserRow} {env : AuthEnv}

theorem Writes.of_directory (h : s.directory = d) : Writes matched subject d s := by
  subst h
  exact fun row hrow => ⟨row, Table.find?_of_mem hrow, .inl rfl⟩

/-- A change of a row that keeps its identity. -/
theorem Writes.setUser (h : Writes matched subject d s)
    (hfound : s.directory.users.find? found.id = some found) (hid : row'.id = found.id)
    (hidentity : identityOf row' = identityOf found) : Writes matched subject d (s.setUser row') := by
  intro row hrow
  obtain ⟨current, hcurrent, hcases⟩ := h row hrow
  by_cases hself : row.id = row'.id
  · rw [hself, hid] at hcurrent
    cases hfound.symm.trans hcurrent
    refine ⟨row', ?_, ?_⟩
    · rw [hself]
      exact Table.find?_replace_self (by rw [hid]; exact hfound)
    · exact hcases.imp hidentity.trans (And.imp_right hidentity.trans)
  · exact ⟨current, (Table.find?_replace_ne hself).trans hcurrent, hcases⟩

/-- The account that was found by email is bound to the subject. -/
theorem Writes.linked (h : s.directory = d) (hrow : row ∈ d.users) (hid : row'.id = row.id)
    (hbound : BoundTo subject row') : Writes (some row) subject d (s.setUser row') := by
  subst h
  intro other hother
  by_cases hself : other.id = row'.id
  · cases Table.eq_of_key_eq hother hrow (hself.trans hid)
    refine ⟨row', ?_, .inr ⟨rfl, hbound⟩⟩
    rw [hself]
    exact Table.find?_replace_self (by rw [hid]; exact Table.find?_of_mem hother)
  · exact ⟨other, (Table.find?_replace_ne hself).trans (Table.find?_of_mem hother), .inl rfl⟩

/-- A new account. -/
theorem Writes.inserted (h : s.directory = d) {users : Table UserRow.id}
    (hinsert : s.directory.users.insert? row = some users) (hs' : s'.directory.users = users) :
    Writes matched subject d s' := by
  subst h
  intro other hother
  have hne : other.id ≠ row.id := (Table.insert?_eq_some.1 hinsert).1 other hother
  exact ⟨other, by rw [hs', Table.find?_insert_ne hinsert hne, Table.find?_of_mem hother], .inl rfl⟩

theorem keeps_sync {id : Nat} {avatarUrl : Option String} :
    Process.Keeps (Writes matched subject d) (Process.atomically (syncSsoProfile id avatarUrl)) := by
  refine .atomically (fun s _ s' hs h => ?_)
  rcases syncSsoProfile_ok h with rfl | ⟨found, avatarUrl, hfound, rfl⟩
  · exact hs
  · obtain rfl := Table.key_of_find? hfound
    exact hs.setUser hfound rfl rfl

theorem keeps_verify {now : Instant} {user : UserEntity} :
    Process.Keeps (Writes matched subject d) (verifyUnlessVerified now user) := by
  unfold verifyUnlessVerified
  split
  · exact .pure
  · refine .atomically (fun s _ s' hs h => ?_)
    obtain ⟨found, hfound, rfl⟩ := markEmailVerified_ok h
    have hkey := Table.key_of_find? hfound
    rw [← hkey] at hfound
    exact hs.setUser hfound rfl rfl

end Writes

/-! ## The two lookups -/

/-- What a resolution says of the account it returns. -/
def Found (matched : Option UserRow) (subject : String) (d : Directory) (user : UserEntity) : Prop :=
  ∀ row ∈ d.users, user.id = row.id → BoundTo subject row ∨ matched = some row

section Resolve

variable {matched : Option UserRow} {subject : String} {d : Directory} {env : AuthEnv} {now : Instant}
  {drawn : NewUser} {profile : OidcUserInfo} {row : UserRow} {avatarUrl : Option String}

/-- The row of an id, as `findOne` returns it. -/
theorem findOne_id {d : Directory} {id : Nat} {user : UserEntity}
    (h : UserService.findOne d id = .ok user) : user.id = id := by
  obtain ⟨row, hrow, rfl⟩ := UserService.findOne_eq_ok.1 h
  have hkey : row.id = id := Table.key_of_find? hrow
  exact hkey

theorem triple_findOne {id : Nat} :
    Process.Triple (Writes matched subject d)
      (Process.query (fun s : AuthState => UserService.findOne s.directory id))
      (fun user s => user.id = id ∧ Writes matched subject d s) (Writes matched subject d) :=
  Process.Triple.query.of_imp (fun _ hs => ⟨fun _ h => ⟨findOne_id h, hs⟩, fun _ _ => hs⟩)

/-- The account bound to the subject is returned, and keeps its identity. -/
theorem triple_resolveBound (hrow : row ∈ d.users) (hbound : BoundTo subject row) :
    Process.Triple (fun s => s.directory = d) (resolveBound row avatarUrl)
      (fun user s => Found matched subject d user ∧ Writes matched subject d s)
      (Writes matched subject d) := by
  refine .bind (Q := fun _ => Writes matched subject d) ?_ (fun _ => .bind keeps_sync (fun _ => ?_))
  · exact Process.Triple.query.of_imp (fun s hs =>
      ⟨fun _ _ => .of_directory hs, fun _ _ => .of_directory hs⟩)
  · refine triple_findOne.mono (fun _ hs => hs) (fun user s hs => ⟨fun other hother hid => ?_, hs.2⟩)
      (fun _ hs => hs)
    cases Table.eq_of_key_eq hother hrow (hid.symm.trans hs.1)
    exact .inl hbound

/-- The account with the email is bound to the subject, and returned. -/
theorem triple_linkByEmail (hrow : row ∈ d.users)
    (hmatched : row.isActive = true → row.deactivatedAt = none → matched = some row) :
    Process.Triple (fun s => s.directory = d) (linkByEmail now row subject avatarUrl)
      (fun user s => Found matched subject d user ∧ Writes matched subject d s)
      (Writes matched subject d) := by
  have hcheck : Process.Triple (fun s : AuthState => s.directory = d)
      (Process.query (fun _ : AuthState => assertActiveAccount row))
      (fun _ s => s.directory = d ∧ matched = some row) (Writes matched subject d) :=
    Process.Triple.query.of_imp (fun s hs => ⟨fun _ h =>
      ⟨hs, hmatched (assertActiveAccount_ok h).1 (assertActiveAccount_ok h).2⟩,
      fun _ _ => .of_directory hs⟩)
  refine .bind hcheck (fun _ => .bind (Q := fun _ s => matched = some row ∧ Writes matched subject d s)
    ?_ (fun _ => .bind (Q := fun _ s => matched = some row ∧ Writes matched subject d s) ?_
    (fun _ => ?_)))
  · refine Process.Triple.atomically.of_imp (fun s hs => ⟨fun _ s' h => ?_, fun _ => .of_directory hs.1⟩)
    obtain ⟨hs, rfl⟩ := hs
    have hfound : s.directory.users.find? row.id = some row := by
      rw [hs]
      exact Table.find?_of_mem hrow
    obtain ⟨-, rfl⟩ := (linkSsoIdentity_eq_ok hfound).1 h
    exact ⟨rfl, .linked hs hrow rfl rfl⟩
  · intro s hs
    have hkeeps := @keeps_verify matched subject d now row.toEntity s hs.2
    exact ⟨fun a s' h => ⟨hs.1, hkeeps.1 a s' h⟩, hkeeps.2⟩
  · refine Process.Triple.query.of_imp (fun s hs => ⟨fun user h => ⟨?_, hs.2⟩, fun _ _ => hs.2⟩)
    intro other hother hid
    cases Table.eq_of_key_eq hother hrow (hid.symm.trans (findOne_id h))
    exact .inr hs.1

/-- A new account is none of those that are there. -/
theorem triple_provision {email : String} :
    Process.Triple (fun s => s.directory = d) (provision env now drawn profile email subject avatarUrl)
      (fun user s => Found matched subject d user ∧ Writes matched subject d s)
      (Writes matched subject d) := by
  refine .bind (Q := fun _ s => s.directory = d) ?_ (fun _ => .bind (Q := fun row s =>
    Found matched subject d row.toEntity ∧ Writes matched subject d s) ?_ (fun row =>
    Process.Triple.pure (Q := fun user s => Found matched subject d user ∧ Writes matched subject d s)))
  · exact Process.Triple.require.of_imp (fun s hs => ⟨fun _ => hs, fun _ => .of_directory hs⟩)
  · refine Process.Triple.atomically.of_imp (fun s hs => ⟨fun row s' h => ?_, fun _ => .of_directory hs⟩)
    obtain ⟨users, -, -, -, -, hinsert, rfl⟩ := createSsoUser_ok h
    refine ⟨fun other hother hid => ?_, .inserted hs hinsert rfl⟩
    rw [← hs] at hother
    exact absurd hid.symm ((Table.insert?_eq_some.1 hinsert).1 other hother)

theorem mem_of_findByExternalIdentity
    (h : findByExternalIdentity d SSO_AUTH_PROVIDER subject = some row) :
    row ∈ d.users ∧ BoundTo subject row := by
  have hbound := List.find?_some h
  obtain ⟨hprovider, hsubject⟩ := of_decide_eq_true hbound
  exact ⟨List.mem_of_find?_eq_some h, Prod.ext hprovider hsubject⟩

theorem extractSubject_ok {externalId : String} (h : extractSubject profile = .ok externalId) :
    externalId = subjectOf profile := by
  simp only [extractSubject] at h
  split at h
  · cases h
  · exact (Except.ok.inj h).symm

/-- An active account found by the email of a profile that no account is bound by. -/
theorem emailMatch_eq_some {email : String} (hsubject : extractSubject profile = .ok (subjectOf profile))
    (hemail : extractSsoEmail env profile = .ok email)
    (hdomain : assertAllowedEmailDomain env email = .ok ())
    (hunbound : findByExternalIdentity d SSO_AUTH_PROVIDER (subjectOf profile) = none)
    (hfound : findByEmail env d email = some row) (hactive : row.isActive = true)
    (hat : row.deactivatedAt = none) : emailMatch env d profile = some row := by
  simp [emailMatch, hsubject, hemail, hdomain, hunbound, hfound, hactive, hat, Except.toOption]

/-- A resolution returns an account of the subject, the one it found by email, or a new
    one, and binds at most the second. -/
theorem triple_resolveSsoUser :
    Process.Triple (fun s => s.directory = d) (resolveSsoUser env now drawn profile)
      (fun user s => Found (emailMatch env d profile) (subjectOf profile) d user ∧
        Writes (emailMatch env d profile) (subjectOf profile) d s)
      (Writes (emailMatch env d profile) (subjectOf profile) d) := by
  refine .bind (Q := fun externalId s => s.directory = d ∧ extractSubject profile = .ok externalId)
    (Process.Triple.query.of_imp (fun s hs => ⟨fun _ h => ⟨hs, h⟩, fun _ _ => .of_directory hs⟩))
    (fun externalId => ?_)
  refine .bind (Q := fun email s => (s.directory = d ∧ extractSubject profile = .ok externalId) ∧
      extractSsoEmail env profile = .ok email)
    (Process.Triple.query.of_imp (fun s hs => ⟨fun _ h => ⟨hs, h⟩, fun _ _ => .of_directory hs.1⟩))
    (fun email => ?_)
  refine .bind (Q := fun _ s => s.directory = d ∧ extractSubject profile = .ok externalId ∧
      extractSsoEmail env profile = .ok email ∧ assertAllowedEmailDomain env email = .ok ())
    (Process.Triple.query.of_imp (fun s hs => ⟨fun _ h => ⟨hs.1.1, hs.1.2, hs.2, h⟩,
      fun _ _ => .of_directory hs.1.1⟩)) (fun _ => ?_)
  refine .bind (Q := fun existing s => (s.directory = d ∧ extractSubject profile = .ok externalId ∧
      extractSsoEmail env profile = .ok email ∧ assertAllowedEmailDomain env email = .ok ()) ∧
      existing = findByExternalIdentity d SSO_AUTH_PROVIDER externalId)
    (Process.Triple.read.of_imp (fun s hs => ⟨hs, by rw [hs.1]⟩)) (fun existing => ?_)
  intro s hs
  obtain ⟨⟨hdirectory, hsubject, hemail, hdomain⟩, hexisting⟩ := hs
  obtain rfl := extractSubject_ok hsubject
  cases existing with
  | some row =>
    obtain ⟨hrow, hbound⟩ := mem_of_findByExternalIdentity hexisting.symm
    exact triple_resolveBound hrow hbound s hdirectory
  | none =>
    have hread : Process.Triple (fun s : AuthState => s.directory = d)
        (Process.read (fun s : AuthState => findByEmail env s.directory email) :
          AuthCall (Option UserRow))
        (fun existing s => s.directory = d ∧ existing = findByEmail env d email)
        (Writes (emailMatch env d profile) (subjectOf profile) d) :=
      Process.Triple.read.of_imp (fun s hs => ⟨hs, by rw [hs]⟩)
    refine Process.Triple.bind hread (fun existing => ?_) s hdirectory
    intro s hs
    cases existing with
    | some row =>
      exact triple_linkByEmail (List.mem_of_find?_eq_some hs.2.symm)
        (emailMatch_eq_some hsubject hemail hdomain hexisting.symm hs.2.symm) s hs.1
    | none => exact triple_provision s hs.1

end Resolve

/-! ## A callback -/

section Callbacks

variable {env : AuthEnv} {s s' : AuthState} {c : Callback}

theorem complete_eq : c.complete env = c.resolve env >>= fun user =>
    openSsoSession env user c.drawn.tokens c.drawn.exchangeCode := by
  simp only [Callback.resolve, Process.bind_assoc]
  rfl

/-- The account that is found by email. -/
def Callback.matched (env : AuthEnv) (s : AuthState) (c : Callback) : Option UserRow :=
  (c.emailMatch env s).map (·.2)

/-- The subject of a callback, if the provider answers. -/
def Callback.subject (c : Callback) : String :=
  match c.drawn.profile with
  | .ok profile => subjectOf profile
  | .error _ => ""

theorem Callback.subject_eq {profile : OidcUserInfo} (h : c.drawn.profile = .ok profile) :
    c.subject = subjectOf profile := by
  rw [Callback.subject, h]

theorem Callback.matched_eq {state : String} {profile : OidcUserInfo}
    (hcheck : checkCallback env c.params = .ok state)
    (hstored : ((s.ssoStates state).filter (· ≠ "")).isSome = true)
    (hprofile : c.drawn.profile = .ok profile) :
    c.matched env s = SsoBinding.emailMatch env s.directory profile := by
  obtain ⟨verifier, hverifier⟩ := Option.isSome_iff_exists.1 hstored
  simp only [Callback.matched, Callback.emailMatch, hcheck, hverifier, hprofile, Except.toOption,
    Option.bind_eq_bind, Option.bind_some]
  cases SsoBinding.emailMatch env s.directory profile <;> rfl

theorem Callback.of_matched {row : UserRow} (h : c.matched env s = some row) :
    ∃ profile, c.drawn.profile = .ok profile ∧ c.emailMatch env s = some (profile, row) := by
  obtain ⟨⟨profile, found⟩, hmatch, rfl⟩ := Option.map_eq_some_iff.1 h
  refine ⟨profile, ?_, hmatch⟩
  cases hprofile : c.drawn.profile with
  | error e => simp [Callback.emailMatch, hprofile, Except.toOption] at hmatch
  | ok answer =>
    simp only [Callback.emailMatch, hprofile, Except.toOption, Option.bind_eq_bind, Option.pure_def,
      Option.bind_eq_some_iff, Option.some.injEq, exists_eq_left', Prod.mk.injEq] at hmatch
    obtain ⟨_, -, _, -, _, -, rfl, -⟩ := hmatch
    rfl

theorem triple_takeSsoState {s₀ : AuthState} {state : String} :
    Process.Triple (fun s => s = s₀) (takeSsoState state)
      (fun _ s => s.directory = s₀.directory ∧
        ((s₀.ssoStates state).filter (· ≠ "")).isSome = true)
      (fun s => s.directory = s₀.directory) := by
  refine .bind (Q := fun stored s => s = s₀ ∧ stored = s₀.ssoStates state)
    (Process.Triple.read.of_imp (fun s hs => ⟨hs, by rw [hs]⟩)) (fun stored =>
    .bind (Q := fun _ s => s.directory = s₀.directory ∧ stored = s₀.ssoStates state)
      (Process.Triple.write.of_imp (fun s hs => ⟨by rw [hs.1], hs.2⟩)) (fun _ => ?_))
  refine Process.Triple.getOrThrow.of_imp (fun s hs => ⟨fun verifier h => ⟨hs.1, ?_⟩, fun _ => hs.1⟩)
  rw [← hs.2, h]
  rfl

/-- A callback resolves to an account of its subject, the one it finds by email, or a new
    one, and binds at most the second. -/
theorem triple_resolve {s₀ : AuthState} :
    Process.Triple (fun s => s = s₀) (c.resolve env)
      (fun user s => (∃ profile, c.drawn.profile = .ok profile) ∧
        Found (c.matched env s₀) c.subject s₀.directory user ∧
        Writes (c.matched env s₀) c.subject s₀.directory s)
      (Writes (c.matched env s₀) c.subject s₀.directory) := by
  refine .bind (Q := fun state s => s = s₀ ∧ checkCallback env c.params = .ok state)
    (Process.Triple.query.of_imp (fun s hs => ⟨fun _ h => ⟨hs, h⟩,
      fun _ _ => .of_directory (by rw [hs])⟩)) (fun state => ?_)
  intro s hs
  obtain ⟨rfl, hcheck⟩ := hs
  refine Process.Triple.bind (triple_takeSsoState.mono (fun _ hs => hs) (fun _ _ hs => hs)
    (fun _ hs => .of_directory hs)) (fun _ => ?_) s rfl
  refine .bind (Q := fun profile t => (t.directory = s.directory ∧
      ((s.ssoStates state).filter (· ≠ "")).isSome = true) ∧ c.drawn.profile = .ok profile)
    (Process.Triple.query.of_imp (fun t ht => ⟨fun _ h => ⟨ht, h⟩, fun _ _ => .of_directory ht.1⟩))
    (fun profile => ?_)
  intro t ht
  obtain ⟨⟨hdirectory, hstored⟩, hprofile⟩ := ht
  rw [Callback.matched_eq hcheck hstored hprofile, Callback.subject_eq hprofile]
  exact (triple_resolveSsoUser.mono (fun _ hs => hs) (fun _ _ hs => ⟨⟨profile, hprofile⟩, hs⟩)
    (fun _ hs => hs)) t hdirectory

/-- Opening the session writes no account. -/
theorem keeps_openSsoSession {matched : Option UserRow} {subject : String} {d : Directory}
    {user : UserEntity} {tokens : TokenPair} {exchangeCode : String} :
    Process.Keeps (Writes matched subject d) (openSsoSession env user tokens exchangeCode) :=
  .bind (keeps_issueTokens (fun _ _ _ _ _ _ hs => hs)) (fun _ => .bind .require (fun _ =>
    .write (fun _ hs => hs)))

theorem complete_writes :
    Writes (c.matched env s) c.subject s.directory ((c.complete env).final s) := by
  rw [complete_eq]
  exact Process.Triple.final (Process.Triple.bind (triple_resolve.mono (fun _ hs => hs)
    (fun _ _ hs => hs.2.2) (fun _ hs => hs)) (fun _ => keeps_openSsoSession)) rfl

/-- A callback takes accounts of its subject, or the one it finds by email. -/
theorem takes_cases {row : UserRow} (hrow : row ∈ s.directory.users) (h : Takes env s c row.id) :
    ∃ profile, c.drawn.profile = .ok profile ∧
      (BoundTo (subjectOf profile) row ∨ c.emailMatch env s = some (profile, row)) := by
  have hmatched : c.matched env s = some row → ∃ profile, c.drawn.profile = .ok profile ∧
      (BoundTo (subjectOf profile) row ∨ c.emailMatch env s = some (profile, row)) := fun hmatched => by
    obtain ⟨profile, hprofile, hmatch⟩ := Callback.of_matched hmatched
    exact ⟨profile, hprofile, .inr hmatch⟩
  rcases h with hresolved | hwritten
  · obtain ⟨user, huser, hid⟩ := Option.map_eq_some_iff.1 hresolved
    rcases hrun : c.resolve env s with ⟨result, s'⟩
    rw [hrun] at huser
    cases result with
    | error e => cases huser
    | ok found =>
      cases huser
      obtain ⟨⟨profile, hprofile⟩, hfound, -⟩ := (triple_resolve s rfl).1 user s' hrun
      rcases hfound row hrow hid with hbound | hmatch
      · exact ⟨profile, hprofile, .inl (Callback.subject_eq hprofile ▸ hbound)⟩
      · exact hmatched hmatch
  · obtain ⟨row', hrow', hcases⟩ := @complete_writes env s c row hrow
    rw [hrow', Table.find?_of_mem hrow] at hwritten
    rcases hcases with hsame | ⟨hmatch, -⟩
    · exact absurd (congrArg some hsame) hwritten
    · exact hmatched hmatch

end Callbacks

/-! ## Runs -/

section Runs

variable {env : AuthEnv} {s₀ s s' : AuthState} {c : Callback} {row : UserRow} {subject : String}

/-- The subject an account is bound to. -/
def KeepsBound (s s' : AuthState) : Prop :=
  ∀ row ∈ s.directory.users, ∀ subject, BoundTo subject row →
    ∃ row', s'.directory.users.find? row.id = some row' ∧ BoundTo subject row'

/-- An account that is bound is not found by email. -/
theorem not_bound_of_match {profile : OidcUserInfo}
    (hguard : LinksVerified env s (.completeSsoCallback c))
    (hmatch : c.emailMatch env s = some (profile, row)) : ¬ BoundTo subject row := by
  intro hbound
  obtain ⟨hprovider, hsubject⟩ := Prod.mk.inj hbound
  have hnone := (hguard (profile, row) hmatch).2 hprovider
  rw [hnone] at hsubject
  cases hsubject

theorem keepsBound_step {op : SsoOperation} (hguard : LinksVerified env s op)
    (hstep : Step env s op s') : KeepsBound s s' := by
  intro row hrow subject hbound
  cases op with
  | beginSsoLogin state codeVerifier =>
    have hkeeps : Process.Keeps (fun t : AuthState => t.directory = s.directory)
        (AuthService.beginSsoLogin env state codeVerifier) :=
      .bind .query (fun _ => .write (fun _ hs => hs))
    have hdirectory : s'.directory = s.directory := by
      rw [hstep]
      exact Process.Triple.final hkeeps rfl
    exact ⟨row, by rw [hdirectory, Table.find?_of_mem hrow], hbound⟩
  | completeSsoCallback c =>
    obtain ⟨row', hrow', hcases⟩ := @complete_writes env s c row hrow
    rw [hstep]
    rcases hcases with hsame | ⟨hmatch, -⟩
    · exact ⟨row', hrow', hsame.trans hbound⟩
    · obtain ⟨profile, -, hfound⟩ := Callback.of_matched hmatch
      exact absurd hbound (not_bound_of_match hguard hfound)

theorem keepsBound_of_reaches (h : Reaches (Guarded (LinksVerified env) (Step env)) s₀ s) :
    KeepsBound s₀ s := by
  refine h.relates (fun s row hrow _ hbound => ⟨row, Table.find?_of_mem hrow, hbound⟩) ?_
  rintro s₀ s op s' hs ⟨hguard, hstep⟩ row hrow subject hbound
  obtain ⟨row', hrow', hbound'⟩ := hs row hrow subject hbound
  have hkey : row'.id = row.id := Table.key_of_find? hrow'
  rw [← hkey]
  exact keepsBound_step hguard hstep row' (Table.mem_of_find? hrow') subject hbound'

/-- In a run whose callbacks all find by email only accounts that are free, by an email the
    provider says is verified, every callback takes accounts soundly. -/
theorem callbacks_sound (h : Reaches (Guarded (LinksVerified env) (Step env)) s₀ s)
    (hguard : LinksVerified env s (.completeSsoCallback c)) : SoundAfter env s₀ s c := by
  constructor
  · intro row hrow htakes
    obtain ⟨profile, hprofile, hbound | hmatch⟩ := takes_cases hrow htakes
    · exact ⟨profile, hprofile, .inl hbound⟩
    · exact ⟨profile, hprofile, .inr (hguard (profile, row) hmatch).1⟩
  · intro row hrow subject hbound htakes
    obtain ⟨row', hrow', hbound'⟩ := keepsBound_of_reaches h row hrow subject hbound
    have hkey : row'.id = row.id := Table.key_of_find? hrow'
    rw [← hkey] at htakes
    obtain ⟨profile, hprofile, hsubject | hmatch⟩ := takes_cases (Table.mem_of_find? hrow') htakes
    · refine ⟨profile, hprofile, ?_⟩
      have hsame := (Prod.mk.inj (hsubject.symm.trans hbound')).2
      exact Option.some.inj hsame
    · exact absurd hbound' (not_bound_of_match hguard hmatch)

end Runs

end SsoBinding

namespace Sample

open SsoBinding

def newcomer : NewUser := ⟨41, "USR1700000000041AAAAAA", by decide, by decide⟩

/-- The callback of a sign-in, with the answer of the provider. -/
def callbackOf (state : String) (profile : OidcUserInfo) : Callback where
  now := authInstant
  params := ⟨some "code", some state, none, none⟩
  drawn := ⟨newcomer, tokens, "exchange", .ok profile⟩

/-- The profile of the employee, with an email that may have changed. -/
def employeeProfile (email : String) : OidcUserInfo :=
  ⟨some "subject-3", some email, some true, none, none, none, none, none⟩

/-- A profile of somebody who calls himself by the email of the employee. -/
def strangerProfile : OidcUserInfo :=
  ⟨some "subject-9", none, none, none, none, none, some "employee@expentra.test", none⟩

/-- The state after some operations. -/
def afterSignIns (operations : List SsoOperation) : AuthState :=
  operations.foldl (fun s op => op.run authEnv s) authState

/-- The employee signs in, and begins to sign in again. -/
def signedInOnce : List SsoOperation :=
  [.beginSsoLogin "first" "verifier",
    .completeSsoCallback (callbackOf "first" (employeeProfile "employee@expentra.test")),
    .beginSsoLogin "second" "verifier"]

end Sample

namespace SsoBinding

open AuthService

/-- The sample allows every domain. -/
theorem assertAllowedEmailDomain_sample :
    assertAllowedEmailDomain Sample.authEnv = fun _ => .ok () := by
  have hdomains : "".splitOn "," = [""] := by
    rw [String.splitOn, if_neg (by decide), String.splitOnAux]
    decide
  have hblank : Js.trim "" = "" := by decide
  funext email
  simp [assertAllowedEmailDomain, Sample.authEnv, hdomains, hblank]

/-- The employee is linked by a verified email, and found by the subject after the email
    has changed. -/
theorem callbacks_sound_sample :
    SoundAfter Sample.authEnv (Sample.afterSignIns []) (Sample.afterSignIns Sample.signedInOnce)
        (Sample.callbackOf "second" (Sample.employeeProfile "changed@expentra.test")) ∧
      ((((Sample.callbackOf "second" (Sample.employeeProfile "changed@expentra.test")).resolve
        Sample.authEnv (Sample.afterSignIns Sample.signedInOnce)).1.toOption).map (·.id) = some 3) := by
  have hfirst : Guarded (LinksVerified Sample.authEnv) (Step Sample.authEnv) (Sample.afterSignIns [])
      (.beginSsoLogin "first" "verifier") (Sample.afterSignIns (Sample.signedInOnce.take 1)) :=
    ⟨trivial, rfl⟩
  have hlink : LinksVerified Sample.authEnv (Sample.afterSignIns (Sample.signedInOnce.take 1))
      (.completeSsoCallback (Sample.callbackOf "first"
        (Sample.employeeProfile "employee@expentra.test"))) := by
    simp only [LinksVerified, Callback.emailMatch, emailMatch, assertAllowedEmailDomain_sample]
    decide +kernel
  have hsecond : Guarded (LinksVerified Sample.authEnv) (Step Sample.authEnv)
      (Sample.afterSignIns (Sample.signedInOnce.take 2)) (.beginSsoLogin "second" "verifier")
      (Sample.afterSignIns Sample.signedInOnce) := ⟨trivial, rfl⟩
  have hrun : Reaches (Guarded (LinksVerified Sample.authEnv) (Step Sample.authEnv))
      (Sample.afterSignIns []) (Sample.afterSignIns Sample.signedInOnce) :=
    ((Reaches.refl.tail hfirst).tail ⟨hlink, rfl⟩).tail hsecond
  have hnext : LinksVerified Sample.authEnv (Sample.afterSignIns Sample.signedInOnce)
      (.completeSsoCallback (Sample.callbackOf "second"
        (Sample.employeeProfile "changed@expentra.test"))) := by
    simp only [LinksVerified, Callback.emailMatch, emailMatch, Sample.afterSignIns, Sample.signedInOnce,
      List.foldl_cons, List.foldl_nil, SsoOperation.run, Callback.complete, completeSsoCallback,
      resolveSsoUser, assertAllowedEmailDomain_sample]
    decide +kernel
  refine ⟨callbacks_sound hrun hnext, ?_⟩
  simp only [Callback.resolve, Sample.afterSignIns, Sample.signedInOnce,
    List.foldl_cons, List.foldl_nil, SsoOperation.run, Callback.complete, completeSsoCallback,
    resolveSsoUser, assertAllowedEmailDomain_sample]
  decide +kernel

/-- A stranger whose preferred user name is the email of the employee is taken for the
    employee. -/
theorem stranger_takes_account : ¬ ∀ (env : AuthEnv) (s₀ s : AuthState) (c : Callback),
    Reaches (Step env) s₀ s → SoundAfter env s₀ s c := by
  intro hsound
  have hbegin : Step Sample.authEnv (Sample.afterSignIns []) (.beginSsoLogin "first" "verifier")
      (Sample.afterSignIns (Sample.signedInOnce.take 1)) := rfl
  have htakes : Takes Sample.authEnv (Sample.afterSignIns (Sample.signedInOnce.take 1))
      (Sample.callbackOf "first" Sample.strangerProfile) Sample.employeeRow.id :=
    .inl (by
      simp only [Callback.resolve, resolveSsoUser, assertAllowedEmailDomain_sample]
      decide +kernel)
  obtain ⟨profile, hprofile, hcases⟩ := (hsound _ _ _ _ (Reaches.refl.tail hbegin)).verified
    Sample.employeeRow (List.mem_cons_of_mem _ (List.mem_cons_of_mem _ List.mem_cons_self)) htakes
  obtain rfl : Sample.strangerProfile = profile := Except.ok.inj hprofile
  rcases hcases with hbound | hasserted
  · have hprovider : Sample.employeeRow.authProvider = AuthService.SSO_AUTH_PROVIDER :=
      (Prod.mk.inj hbound).1
    revert hprovider
    decide
  · revert hasserted
    decide +kernel

end SsoBinding

end Expentra
