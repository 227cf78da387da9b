-- SUMMARY: The operations on accounts and sessions as labels of one step relation, with the expiry of keys.
import Expentra.Identity.Sso
import Expentra.Library.Run

/-!
# Operations on accounts

One completed call after the other, or the expiry of a key. Whatever a call draws and
whatever the identity provider answers is part of its label.
-/

namespace Expentra

open Library

inductive RedisKey where
  | context (reference : String)
  | refresh (key : String × String)
  | grace (key : String × String)
  | code (flow : CodeFlow) (tokenHash : String)
  | codeUser (flow : CodeFlow) (userId : Nat)
  | ssoState (state : String)
  | ssoExchange (code : String)

/-- The time to live of a key passes. The entry of a user is written after the entry of its
    code, with the same time to live, and is not gone before it. -/
def AuthState.expire (s : AuthState) : RedisKey → AuthState
  | .context reference => { s with contexts := s.contexts.del reference }
  | .refresh key => { s with refreshKeys := s.refreshKeys.del key }
  | .grace key => { s with graceKeys := s.graceKeys.del key }
  | .code flow tokenHash => s.setCodes flow
      { s.codes flow with byHash := (s.codes flow).byHash.del tokenHash }
  | .codeUser flow userId =>
    if ((s.codes flow).byUser userId).any (fun tokenHash =>
      (s.codes flow).byHash tokenHash = some userId) then s
    else s.setCodes flow { s.codes flow with byUser := (s.codes flow).byUser.del userId }
  | .ssoState state => { s with ssoStates := s.ssoStates.del state }
  | .ssoExchange code => { s with ssoExchanges := s.ssoExchanges.del code }

inductive AuthOperation where
  | register (payload : AuthService.RegisterInput) (drawn : AuthService.RegisterDraws)
  | login (email password : String) (tokens : TokenPair) (code : Fin 1000000)
  | beginSsoLogin (state codeVerifier : String)
  | completeSsoCallback (now : Instant) (params : AuthService.SsoCallback)
    (drawn : AuthService.SsoDraws)
  | exchangeSsoCode (exchangeCode : String) (tokens : TokenPair)
  | confirmEmailVerification (now : Instant) (token : String) (tokens : TokenPair)
  | resendEmailVerification (email : String) (drawn : Fin 1000000)
  | requestPasswordReset (email : String) (drawn : Fin 1000000)
  | confirmPasswordReset (token passwordHash : String)
  | refresh (now : Instant) (refreshToken : String) (tokens : TokenPair)
  | logout (reference refreshToken : String)
  | updateProfile (id : Nat) (input : UpdateProfileInput)
  | adminUpdate (now : Instant) (actor : AuthUser) (targetUserId : Nat) (input : AdminUpdateUserInput)
  | suspendUser (now : Instant) (actorId targetUserId : Nat)
  | activateUser (actorId targetUserId : Nat)
  | expire (key : RedisKey)

namespace AuthOperation

/-- The state after a call, returned or thrown. -/
def run (env : AuthEnv) (cfg : Config) (s : AuthState) : AuthOperation → AuthState
  | register payload drawn => (AuthService.register env payload drawn).final s
  | login email password tokens code => (AuthService.login env email password tokens code).final s
  | beginSsoLogin state codeVerifier => (AuthService.beginSsoLogin env state codeVerifier).final s
  | completeSsoCallback now params drawn =>
    (AuthService.completeSsoCallback env now params drawn).final s
  | exchangeSsoCode exchangeCode tokens => (AuthService.exchangeSsoCode env exchangeCode tokens).final s
  | confirmEmailVerification now token tokens =>
    (AuthService.confirmEmailVerification env now token tokens).final s
  | resendEmailVerification email drawn =>
    (AuthService.resendEmailVerification env email drawn).final s
  | requestPasswordReset email drawn => (AuthService.requestPasswordReset env email drawn).final s
  | confirmPasswordReset token passwordHash =>
    (AuthService.confirmPasswordReset env token passwordHash).final s
  | refresh now refreshToken tokens => (AuthService.refresh env now refreshToken tokens).final s
  | logout reference refreshToken => (AuthService.logout env reference refreshToken).final s
  | updateProfile id input => (UserService.updateProfile id input).commit s
  | adminUpdate now actor targetUserId input =>
    (UserService.adminUpdate cfg now actor targetUserId input).commit s
  | suspendUser now actorId targetUserId => (UserService.suspendUser now actorId targetUserId).commit s
  | activateUser actorId targetUserId => (UserService.activateUser actorId targetUserId).commit s
  | expire key => s.expire key

def Step (env : AuthEnv) (cfg : Config) (s : AuthState) (op : AuthOperation) (s' : AuthState) : Prop :=
  s' = op.run env cfg s

end AuthOperation

/-! ## What the pieces of a call leave alone -/

namespace AuthState

variable {s : AuthState} {flow : CodeFlow} {codes : OneTimeCodes}

@[simp] theorem setCodes_directory : (s.setCodes flow codes).directory = s.directory := by
  cases flow <;> rfl

@[simp] theorem setCodes_published : (s.setCodes flow codes).published = s.published := by
  cases flow <;> rfl

@[simp] theorem codes_setCodes : (s.setCodes flow codes).codes flow = codes := by
  cases flow <;> rfl

theorem codes_setCodes_ne {flow' : CodeFlow} (h : flow' ≠ flow) :
    (s.setCodes flow codes).codes flow' = s.codes flow' := by
  cases flow <;> cases flow' <;> first | rfl | exact absurd rfl h

@[simp] theorem expire_directory {key : RedisKey} : (s.expire key).directory = s.directory := by
  cases key with
  | code flow tokenHash => exact setCodes_directory
  | codeUser flow userId =>
    rw [expire]
    split
    · rfl
    · exact setCodes_directory
  | _ => rfl

end AuthState

/-! ## What the transactions do -/

namespace UserService

variable {s s' : AuthState} {u : Unit} {row : UserRow}

theorem insertUser_ok (h : insertUser row s = .ok (u, s')) :
    violatesUnique s.directory row = false ∧ ∃ users,
      s.directory.users.insert? row = some users ∧
      s' = { s with directory := { s.directory with users := users } } := by
  rw [insertUser, Transaction.read_bind, Transaction.require_bind_eq_ok,
    Transaction.read_bind, Transaction.getOrThrow_bind_eq_ok] at h
  obtain ⟨hunique, users, hinsert, h⟩ := h
  exact ⟨hunique, users, hinsert, (Transaction.write_eq_ok.1 h).symm⟩

theorem createSsoUser_ok {env : AuthEnv} {now : Instant} {drawn : NewUser}
    {email authProvider externalId : String} {firstName lastName avatarUrl : Option String}
    (h : createSsoUser env now drawn email authProvider externalId firstName lastName avatarUrl s =
      .ok (row, s')) :
    ∃ users, row.authProvider = authProvider ∧ row.externalId = some externalId ∧
      row.deactivatedAt = none ∧ violatesUnique s.directory row = false ∧
      s.directory.users.insert? row = some users ∧
      s' = { s with directory := { s.directory with users := users } } := by
  rw [createSsoUser, Transaction.query_bind_eq_ok] at h
  obtain ⟨role, -, h⟩ := h
  obtain ⟨_, s₁, hinsert, h⟩ := Transaction.bind_eq_ok.1 h
  obtain ⟨rfl, rfl⟩ := Transaction.pure_eq_ok.1 h
  obtain ⟨hunique, users, husers, hs₁⟩ := insertUser_ok hinsert
  exact ⟨users, rfl, rfl, rfl, hunique, husers, hs₁⟩

theorem linkSsoIdentity_eq_ok {authProvider externalId : String} {avatarUrl : Option String}
    (hrow : s.directory.users.find? row.id = some row) :
    linkSsoIdentity row.id authProvider externalId avatarUrl s = .ok (u, s') ↔
      violatesUnique s.directory (linkedRow authProvider externalId avatarUrl row) = false ∧
      s' = s.setUser (linkedRow authProvider externalId avatarUrl row) := by
  rw [linkSsoIdentity, Transaction.read_bind, Transaction.read_bind,
    Transaction.require_bind_eq_ok, updateRow_eq_ok hrow, hrow]
  rfl

theorem syncSsoProfile_ok {id : Nat} {avatarUrl : Option String}
    (h : syncSsoProfile id avatarUrl s = .ok (u, s')) :
    s' = s ∨ ∃ row avatarUrl, s.directory.users.find? id = some row ∧
      s' = s.setUser { row with avatarUrl := some avatarUrl } := by
  cases hurl : Js.trimmedOrUndefined avatarUrl with
  | none =>
    rw [syncSsoProfile, hurl] at h
    exact .inl (Transaction.pure_eq_ok.1 h).2.symm
  | some avatarUrl =>
    rw [syncSsoProfile, hurl] at h
    cases hrow : s.directory.users.find? id with
    | none =>
      simp only [updateRow, Transaction.write_eq_ok, hrow] at h
      exact .inl h.symm
    | some row => exact .inr ⟨row, avatarUrl, rfl, (updateRow_eq_ok hrow).1 h⟩

end UserService

namespace AuthService

theorem createRegistered_ok {env : AuthEnv} {payload : RegisterInput} {drawn : RegisterDraws}
    {s s' : AuthState} {row : UserRow} (h : createRegistered env payload drawn s = .ok (row, s')) :
    ∃ users, row.id = drawn.user.id ∧ row.deactivatedAt = none ∧
      s.directory.users.insert? row = some users ∧
      s' = { s with directory := { s.directory with users := users } } := by
  rw [createRegistered, Transaction.read_bind, Transaction.require_bind_eq_ok,
    UserService.createWithHash, Transaction.query_bind_eq_ok] at h
  obtain ⟨-, role, -, h⟩ := h
  obtain ⟨_, s₁, hinsert, h⟩ := Transaction.bind_eq_ok.1 h
  obtain ⟨rfl, rfl⟩ := Transaction.pure_eq_ok.1 h
  obtain ⟨-, users, husers, hs₁⟩ := UserService.insertUser_ok hinsert
  exact ⟨users, rfl, rfl, husers, hs₁⟩

theorem findCode_ok {env : AuthEnv} {flow : CodeFlow} {missing invalid : HttpException}
    {token : String} {s : AuthState} {id : Nat}
    (h : findCode env flow missing invalid token s = .ok id) :
    Js.trim token ≠ "" ∧ (s.codes flow).byHash (env.hashToken (Js.trim token)) = some id := by
  unfold findCode at h
  split at h
  · cases h
  · rename_i hne
    split at h
    · rename_i hfound
      cases h
      exact ⟨hne, hfound⟩
    · cases h

theorem assertActiveAccount_ok {row : UserRow} {u : Unit} (h : assertActiveAccount row = .ok u) :
    row.isActive = true ∧ row.deactivatedAt = none := by
  unfold assertActiveAccount at h
  split at h
  · cases h
  · simp_all

end AuthService

/-! ## Properties that sessions do not matter to -/

/-- A property that no key of a session and no cached context matters to. -/
def IgnoresSessions (P : AuthState → Prop) : Prop :=
  ∀ s contexts refreshKeys graceKeys ssoStates ssoExchanges, P s → P { s with
    contexts := contexts, refreshKeys := refreshKeys, graceKeys := graceKeys
    ssoStates := ssoStates, ssoExchanges := ssoExchanges }

namespace AuthService

variable {P : AuthState → Prop} {env : AuthEnv}

theorem keeps_issueTokens (hP : IgnoresSessions P) {reference : String} {tokens : TokenPair} :
    Process.Keeps P (issueTokens env reference tokens) :=
  .bind (.write (fun s hs => hP s _ _ _ _ _ hs)) (fun _ => .pure)

theorem keeps_refresh (hP : IgnoresSessions P) {now : Instant} {refreshToken : String}
    {tokens : TokenPair} : Process.Keeps P (refresh env now refreshToken tokens) := by
  refine .bind .getOrThrow (fun reference => .bind ?_ (fun _ => .bind .query (fun user =>
    .bind .require (fun _ => keeps_issueTokens hP))))
  refine .bind .read (fun stored => .bind .read (fun grace => ?_))
  cases stored with
  | some _ => exact .write (fun s hs => hP s _ _ _ _ _ hs)
  | none => exact .require

theorem keeps_logout (hP : IgnoresSessions P) {reference refreshToken : String} :
    Process.Keeps P (logout env reference refreshToken) :=
  .write (fun s hs => hP s _ _ _ _ _ hs)

theorem keeps_beginSsoLogin (hP : IgnoresSessions P) {state codeVerifier : String} :
    Process.Keeps P (beginSsoLogin env state codeVerifier) :=
  .bind .query (fun _ => .write (fun s hs => hP s _ _ _ _ _ hs))

theorem keeps_completeSsoCallback (hP : IgnoresSessions P) {now : Instant} {params : SsoCallback}
    {drawn : SsoDraws}
    (hresolve : ∀ profile, Process.Keeps P (resolveSsoUser env now drawn.user profile)) :
    Process.Keeps P (completeSsoCallback env now params drawn) := by
  refine .bind .query (fun state => .bind ?_ (fun _ => .bind .query (fun profile =>
    .bind (hresolve profile) (fun user => .bind (keeps_issueTokens hP) (fun _ =>
      .bind .require (fun _ => .write (fun s hs => hP s _ _ _ _ _ hs)))))))
  exact .bind .read (fun _ => .bind (.write (fun s hs => hP s _ _ _ _ _ hs)) (fun _ => .getOrThrow))

theorem keeps_exchangeSsoCode (hP : IgnoresSessions P) {exchangeCode : String} {tokens : TokenPair} :
    Process.Keeps P (exchangeSsoCode env exchangeCode tokens) := by
  refine .bind .query (fun code => .bind ?_ (fun payload => .bind .query (fun user =>
    .bind (.write (fun s hs => hP s _ _ _ _ _ hs)) (fun _ => keeps_issueTokens hP))))
  exact .bind .read (fun _ => .bind (.write (fun s hs => hP s _ _ _ _ _ hs)) (fun _ => .getOrThrow))

/-- A property that neither the directory nor a cached context matters to. -/
def IgnoresDirectory (P : AuthState → Prop) : Prop := ∀ s directory contexts, P s →
  P { s with directory := directory, contexts := contexts }

theorem keeps_verifyUnlessVerified (hP : IgnoresDirectory P)
    {now : Instant} {user : UserEntity} : Process.Keeps P (verifyUnlessVerified now user) := by
  unfold verifyUnlessVerified
  split
  · exact .pure
  · refine .atomically (fun s _ s' hs h => ?_)
    obtain ⟨found, -, rfl⟩ := UserService.markEmailVerified_ok h
    exact hP s _ _ hs

/-- Finding the account of a profile changes the directory and the cached contexts alone. -/
theorem keeps_resolveSsoUser (hP : IgnoresDirectory P) {now : Instant}
    {drawn : NewUser} {profile : OidcUserInfo} :
    Process.Keeps P (resolveSsoUser env now drawn profile) := by
  refine .bind .query (fun externalId => .bind .query (fun email => .bind .query (fun _ =>
    .bind .read (fun existing => ?_))))
  cases existing with
  | some row =>
    refine .bind .query (fun _ => .bind (.atomically ?_) (fun _ => .query))
    intro s _ s' hs h
    rcases UserService.syncSsoProfile_ok h with rfl | ⟨found, avatarUrl, -, rfl⟩
    · exact hs
    · exact hP s _ _ hs
  | none =>
    refine .bind .read (fun existing => ?_)
    cases existing with
    | some row =>
      refine .bind .query (fun _ => .bind (.atomically ?_) (fun _ => .bind ?_ (fun _ => .query)))
      · intro s _ s' hs h
        rw [UserService.linkSsoIdentity, Transaction.read_bind, Transaction.read_bind,
          Transaction.require_bind_eq_ok] at h
        obtain rfl := Transaction.write_eq_ok.1 h.2
        split
        · exact hP s _ _ hs
        · exact hs
      · exact keeps_verifyUnlessVerified hP
    | none =>
      refine .bind .require (fun _ => .bind (.atomically ?_) (fun _ => .pure))
      intro s row s' hs h
      obtain ⟨users, -, -, -, -, -, rfl⟩ := UserService.createSsoUser_ok h
      exact hP s _ _ hs

end AuthService

namespace Sample

/-- Everything is allowed, a hash is the text itself, and every token verifies. -/
def authEnv : AuthEnv where
  ALLOW_PUBLIC_REGISTRATION := true
  ALLOW_DEV_OPAQUE_TOKEN := false
  SSO_ENABLED := true
  SSO_AUTO_PROVISION := true
  SSO_ALLOWED_EMAIL_DOMAINS := ""
  toLowerCase := id
  parseUrl _ := none
  hashToken := id
  compare password hash := password = hash
  verifyRefresh _ token := some token

def authConfig : Config := ⟨BudgetPeriod.utcZone, false⟩

def authInstant : Instant := Date.utc 2025 2 10 9 0 0

def tokens : TokenPair := ⟨"access", "refresh"⟩

/-- A drawn code. -/
def drawnCode (n : Nat) : Fin 1000000 := ⟨n % 1000000, Nat.mod_lt n (by decide)⟩

/-- The run of some calls, from the state where nobody is signed in. -/
def runOf (operations : List AuthOperation) : List (AuthOperation × AuthState) :=
  Run.trace (AuthOperation.run authEnv authConfig) authState operations

end Sample

end Expentra
