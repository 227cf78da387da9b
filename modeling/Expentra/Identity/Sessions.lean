-- SUMMARY: Refreshes beside the calls that revoke sessions, command by command: when a revoked session stays revoked.
import Expentra.Identity.OneTime
import Expentra.Library.Scan

/-!
# Revoked sessions

A refresh deletes the key of its token, leaves a grace key for some seconds, and writes the
key of a new token at its end. A change of the password deletes the keys of the user that
an iteration over all keys returns; a logout deletes one key. The steps below are those of
the calls: one command of the store, or one statement of the database or function of it.

Which session a token was issued for is in no store. It is recorded beside the store, with
the sessions that were revoked and the keys in the order they were written.
-/

namespace Expentra

open Library

/-! ## The change of a password -/

structure ChangePasswordInput where
  currentPassword : String
  newPassword : String

namespace UserService

/-- The user that was read, and the checks on its password. -/
def checkChangePassword (env : AuthEnv) (d : Directory) (id : Nat) (input : ChangePasswordInput) :
    Except HttpException UserRow :=
  match d.users.find? id with
  | none => .error (.notFound "User not found")
  | some user =>
    match user.password.filter (· ≠ "") with
    | none => .error (.badRequest "This account uses single sign-on and has no local password.")
    | some password =>
      if !env.compare input.currentPassword password then
        .error (.unauthorized "Current password is incorrect")
      else if input.currentPassword = input.newPassword then
        .error (.badRequest "New password must be different from current password")
      else .ok user

end UserService

namespace Sessions

open AuthService

/-! ## Keys -/

/-- The reference of a user and the hash of a refresh token. -/
abbrev TokenKey := String × String

/-- A key under `auth:refresh:`. -/
inductive SessionKey where
  | refresh (key : TokenKey)
  | grace (key : TokenKey)
deriving DecidableEq

def SessionKey.token : SessionKey → TokenKey
  | refresh key | grace key => key

/-- The key is in the store. -/
def Stored (s : AuthState) : SessionKey → Prop
  | .refresh key => (s.refreshKeys key).isSome = true
  | .grace key => (s.graceKeys key).isSome = true

instance (s : AuthState) : DecidablePred (Stored s)
  | .refresh _ => inferInstanceAs (Decidable (_ = _))
  | .grace _ => inferInstanceAs (Decidable (_ = _))

/-- The pattern `auth:refresh:${reference}:*`. -/
def Matches (reference : String) (key : SessionKey) : Prop := key.token.1 = reference

instance (reference : String) : DecidablePred (Matches reference) :=
  fun _ => inferInstanceAs (Decidable (_ = _))

/-- `DEL` of some keys. -/
def delKeys (s : AuthState) (keys : List SessionKey) : AuthState :=
  { s with
    refreshKeys := s.refreshKeys.delByPattern (fun key => decide (.refresh key ∈ keys))
    graceKeys := s.graceKeys.delByPattern (fun key => decide (.grace key ∈ keys)) }

/-! ## The store and its history -/

/-- The store, with the sessions numbered in the order they were opened. -/
structure SessionStore where
  state : AuthState
  opened : Nat
  /-- The keys of the tokens that were issued, each with its session. -/
  derived : List (Nat × TokenKey)
  revoked : List Nat
  /-- The keys in the order they were written. -/
  written : List SessionKey

namespace SessionStore

/-- Nobody has signed in. -/
def start (s : AuthState) : SessionStore :=
  ⟨{ s with refreshKeys := fun _ => none, graceKeys := fun _ => none }, 0, [], [], []⟩

/-- The sessions a token was issued for. -/
def sessionsOf (s : SessionStore) (key : TokenKey) : List Nat :=
  (s.derived.filter (·.2 = key)).map (·.1)

/-- The sessions of a user among the first ones. -/
def openedBefore (s : SessionStore) (before : Nat) (reference : String) : List Nat :=
  (s.derived.filter (fun d => d.1 < before ∧ d.2.1 = reference)).map (·.1)

/-- `issueTokens` for some sessions. -/
def issue (env : AuthEnv) (s : SessionStore) (reference : String) (tokens : TokenPair)
    (sessions : List Nat) : SessionStore :=
  { s with
    state := (issueTokens env reference tokens).final s.state
    derived := s.derived ++ sessions.map (·, (reference, env.hashToken tokens.refreshToken))
    written := s.written ++ [.refresh (reference, env.hashToken tokens.refreshToken)] }

end SessionStore

/-! ## The calls -/

inductive Call where
  | refresh (now : Instant) (refreshToken : String) (tokens : TokenPair)
  | logout (reference refreshToken : String)
  | changePassword (id : Nat) (input : ChangePasswordInput) (passwordHash : String)
  | confirmPasswordReset (token passwordHash : String)

/-- Where a call is. -/
inductive Phase where
  | verifying
  | deleting (key : TokenKey)
  | gracing (key : TokenKey)
  | readingGrace (key : TokenKey)
  | loading (key : TokenKey)
  | issuing (key : TokenKey) (user : UserEntity)
  | loggingOut
  | checking
  | updating (user : UserRow)
  | invalidating (reference : String)
  | resetting (phase : OneTime.Resetting)
  /-- The iteration, from `since` that many writes on. -/
  | scanning (reference : String) (since : Option Nat)
  | dropping (reference : String) (since : Nat) (reply : ScanReply SessionKey)
  | succeeded
  | failed (exception : HttpException)

def Call.first : Call → Phase
  | refresh .. => .verifying
  | logout .. => .loggingOut
  | changePassword .. => .checking
  | confirmPasswordReset .. => .resetting .reading

/-- The token is verified, and its key is read. -/
def readRefreshKey (env : AuthEnv) (now : Instant) (refreshToken : String) (s : AuthState) : Phase :=
  match env.verifyRefresh now refreshToken with
  | none => .failed (.unauthorized "Refresh token is invalid or expired")
  | some reference =>
    if Stored s (.refresh (reference, env.hashToken refreshToken)) then
      .deleting (reference, env.hashToken refreshToken)
    else .readingGrace (reference, env.hashToken refreshToken)

def readGraceKey (key : TokenKey) (s : AuthState) : Phase :=
  if Stored s (.grace key) then .loading key
  else .failed (.unauthorized "Refresh token has been revoked")

/-- The user is read and checked. -/
def loadUser (key : TokenKey) (s : AuthState) : Phase :=
  match UserService.findOneByReference s.directory key.1 with
  | .error exception => .failed exception
  | .ok user =>
    if user.isActive = true then .issuing key user else .failed (.unauthorized "Account is suspended")

def refreshStep (env : AuthEnv) (now : Instant) (refreshToken : String) (tokens : TokenPair)
    (s : SessionStore) : Phase → Option (SessionStore × Phase)
  | .verifying => some (s, readRefreshKey env now refreshToken s.state)
  | .deleting key =>
    some ({ s with state := { s.state with refreshKeys := s.state.refreshKeys.del key } }, .gracing key)
  | .gracing key =>
    some ({ s with
      state := { s.state with graceKeys := s.state.graceKeys.setCache key () }
      written := s.written ++ [.grace key] }, .loading key)
  | .readingGrace key => some (s, readGraceKey key s.state)
  | .loading key => some (s, loadUser key s.state)
  | .issuing key user => some (s.issue env user.reference tokens (s.sessionsOf key), .succeeded)
  | _ => none

def logoutStep (env : AuthEnv) (reference refreshToken : String) (s : SessionStore) :
    Phase → Option (SessionStore × Phase)
  | .loggingOut => some ({ s with
      state := (logout env reference refreshToken).final s.state
      revoked := s.revoked ++ s.sessionsOf (reference, env.hashToken refreshToken) }, .succeeded)
  | _ => none

/-- `delByPattern`, of a call that was started when `before` sessions had been opened. -/
def iterateStep (before : Nat) (s : SessionStore) (reply : ScanReply SessionKey) :
    Phase → Option (SessionStore × Phase)
  | .scanning reference since =>
    let since := since.getD s.written.length
    if reply.Answers (Matches reference) (Stored s.state) s.written since then
      some (s, .dropping reference since reply)
    else none
  | .dropping reference since reply =>
    let s' := { s with state := delKeys s.state reply.keys }
    if reply.last then
      some ({ s' with revoked := s.revoked ++ s.openedBefore before reference }, .succeeded)
    else some (s', .scanning reference (some since))
  | _ => none

/-- The next step of `changePassword`, with the hash of the new password. -/
def changeStep (env : AuthEnv) (id : Nat) (input : ChangePasswordInput) (passwordHash : String)
    (before : Nat) (s : SessionStore) (reply : ScanReply SessionKey) :
    Phase → Option (SessionStore × Phase)
  | .checking =>
    match UserService.checkChangePassword env s.state.directory id input with
    | .error exception => some (s, .failed exception)
    | .ok user => some (s, .updating user)
  | .updating user =>
    match UserService.updatePasswordHash user.id passwordHash s.state with
    | .error exception => some (s, .failed exception)
    | .ok (_, state) => some ({ s with state := state }, .invalidating user.reference)
  | .invalidating reference =>
    some ({ s with state := (AuthContextCache.invalidate reference).commit s.state },
      .scanning reference none)
  | phase => iterateStep before s reply phase

/-- The steps before the last are those of `OneTime.resetStep`. -/
def afterReset : OneTime.Resetting → Phase
  | .revoking user => .scanning user.reference none
  | .failed exception => .failed exception
  | phase => .resetting phase

def resetStep (env : AuthEnv) (token passwordHash : String) (before : Nat) (s : SessionStore)
    (reply : ScanReply SessionKey) : Phase → Option (SessionStore × Phase)
  | .resetting phase => (OneTime.resetStep env token passwordHash s.state phase).map
      (fun r => ({ s with state := r.1 }, afterReset r.2))
  | phase => iterateStep before s reply phase

structure Thread where
  call : Call
  /-- How many sessions had been opened when the call was started. -/
  before : Nat
  phase : Phase

def Thread.step (env : AuthEnv) (s : SessionStore) (reply : ScanReply SessionKey) (t : Thread) :
    Option (SessionStore × Phase) :=
  match t.call with
  | .refresh now refreshToken tokens => refreshStep env now refreshToken tokens s t.phase
  | .logout reference refreshToken => logoutStep env reference refreshToken s t.phase
  | .changePassword id input passwordHash =>
    changeStep env id input passwordHash t.before s reply t.phase
  | .confirmPasswordReset token passwordHash =>
    resetStep env token passwordHash t.before s reply t.phase

/-! ## The system -/

/-- A reference of a user, as it is generated before the row is inserted. -/
structure UserReference where
  value : String
  normalized : normalizeEntityReference value = value

/-- What happens beside the calls. -/
inductive Event where
  /-- A sign-in, a registration or a verification issues the first tokens of a session. -/
  | opens (reference : UserReference) (tokens : TokenPair)
  /-- Keys expire, or are deleted by some other call. -/
  | loses (keys : List SessionKey)
  /-- Anything but the keys of sessions changes. -/
  | changes (state : AuthState)

def SessionStore.after (env : AuthEnv) (s : SessionStore) : Event → SessionStore
  | .opens reference tokens =>
    { s.issue env reference.value tokens [s.opened] with opened := s.opened + 1 }
  | .loses keys => { s with state := delKeys s.state keys }
  | .changes state =>
    { s with state := { state with
      refreshKeys := s.state.refreshKeys, graceKeys := s.state.graceKeys } }

/-- Any number of calls, of any users. -/
def calls (env : AuthEnv) : Concurrent SessionStore Thread Call (ScanReply SessionKey) Event where
  start s call := some (s, ⟨call, s.opened, call.first⟩)
  step _ s t reply := (t.step env s reply).map (fun r => (r.1, { t with phase := r.2 }))
  surroundings s event := some (s.after env event)

/-! ## What a thread is about to do -/

/-- The key a refresh has found, until it has issued the new tokens. -/
def Phase.holds : Phase → Option TokenKey
  | deleting key | gracing key | loading key | issuing key _ => some key
  | _ => none

/-- The iteration a call is in: the user, and the writes before it began. -/
def Phase.iterates : Phase → Option (String × Nat)
  | scanning reference (some since) | dropping reference since _ => some (reference, since)
  | _ => none

/-- The user whose keys a call begins to iterate over. -/
def Phase.begins : Phase → Option String
  | scanning reference none => some reference
  | _ => none

/-- The key the next step of a refresh finds. -/
def Thread.finds (env : AuthEnv) (s : SessionStore) (t : Thread) : Option TokenKey :=
  match t.call, t.phase with
  | .refresh now refreshToken _, .verifying =>
    ((env.verifyRefresh now refreshToken).map (·, env.hashToken refreshToken)).filter
      (fun key => Stored s.state (.refresh key))
  | .refresh .., .readingGrace key => if Stored s.state (.grace key) then some key else none
  | _, _ => none

/-- The key the next step of a refresh writes for its new token. -/
def Thread.issues (env : AuthEnv) (t : Thread) : Option TokenKey :=
  match t.call, t.phase with
  | .refresh _ _ tokens, .issuing _ user => some (user.reference, env.hashToken tokens.refreshToken)
  | _, _ => none

/-- The key the next step of a logout deletes. -/
def Thread.logsOut (env : AuthEnv) (t : Thread) : Option TokenKey :=
  match t.call, t.phase with
  | .logout reference refreshToken, .loggingOut => some (reference, env.hashToken refreshToken)
  | _, _ => none

/-- The token belongs to a session of the user that is among the first ones. -/
def Covers (s : SessionStore) (before : Nat) (reference : String) (key : TokenKey) : Prop :=
  key.1 = reference ∧ ∃ i < before, (i, key) ∈ s.derived

instance (s : SessionStore) (before : Nat) (reference : String) (key : TokenKey) :
    Decidable (Covers s before reference key) := inferInstanceAs (Decidable (_ ∧ _))

/-- The iteration a call is in is to delete the keys of the token. -/
def Thread.Drains (s : SessionStore) (t : Thread) (key : TokenKey) : Prop :=
  ∃ iteration ∈ t.phase.iterates, Covers s t.before iteration.1 key

instance (s : SessionStore) (t : Thread) (key : TokenKey) : Decidable (t.Drains s key) :=
  decidable_of_iff (t.phase.iterates.any (fun iteration => Covers s t.before iteration.1 key) = true)
    (by simp [Thread.Drains, Option.any_eq_true])

/-! ## Undisturbed steps -/

/-- No iteration that is to delete the keys of a token is on its way when a refresh finds
    one of them. -/
def FindsUndrained (env : AuthEnv) (p : Pool SessionStore Thread) (t : Thread) : Prop :=
  ∀ key ∈ t.finds env p.shared, ∀ u ∈ p.threads, ¬ u.Drains p.shared key

/-- No refresh holds a token whose keys an iteration is to delete when the iteration begins. -/
def BeginsUnheld (p : Pool SessionStore Thread) (t : Thread) : Prop :=
  ∀ reference ∈ t.phase.begins, ∀ u ∈ p.threads, ∀ key ∈ u.phase.holds,
    ¬ Covers p.shared t.before reference key

/-- A logout deletes the only key of its session, and no refresh holds a token of it. -/
def LogsOutLast (env : AuthEnv) (p : Pool SessionStore Thread) (t : Thread) : Prop :=
  ∀ key ∈ t.logsOut env, ∀ i ∈ p.shared.sessionsOf key, ∀ d ∈ p.shared.derived, d.1 = i →
    ¬ Stored p.shared.state (.grace d.2) ∧ (Stored p.shared.state (.refresh d.2) → d.2 = key) ∧
      ∀ u ∈ p.threads, d.2 ∉ u.phase.holds

/-- The token was not issued for a session that is revoked, or that an iteration is to
    revoke. -/
def NotRevoked (p : Pool SessionStore Thread) (key : TokenKey) : Prop :=
  (∀ i ∈ p.shared.sessionsOf key, i ∉ p.shared.revoked) ∧ ∀ u ∈ p.threads, ¬ u.Drains p.shared key

/-- A refresh and the revocation of its session do not overlap, a logout leaves no key of
    its session, and no token is issued that belonged to a revoked session. -/
def Undisturbed (env : AuthEnv) :
    Guard (Pool SessionStore Thread) (Turn Call (ScanReply SessionKey) Event) := fun p turn =>
  match turn with
  | .start _ => True
  | .step i _ => ∀ t ∈ p.threads[i]?, FindsUndrained env p t ∧ BeginsUnheld p t ∧ LogsOutLast env p t ∧
      ∀ key ∈ t.issues env, NotRevoked p key
  | .surroundings (.opens reference tokens) =>
    NotRevoked p (reference.value, env.hashToken tokens.refreshToken)
  | .surroundings (.loses _) | .surroundings (.changes _) => True

instance (env : AuthEnv) (p : Pool SessionStore Thread)
    (turn : Turn Call (ScanReply SessionKey) Event) : Decidable (Undisturbed env p turn) := by
  unfold Undisturbed FindsUndrained BeginsUnheld LogsOutLast NotRevoked
  cases turn with
  | surroundings event => cases event <;> infer_instance
  | _ => infer_instance

/-- The revocation of a session is final: its tokens are refused, and no refresh that found
    one is about to issue new tokens. -/
structure RevokedForGood (env : AuthEnv) (p : Pool SessionStore Thread) (i : Nat) : Prop where
  refused : ∀ now refreshToken tokens reference, env.verifyRefresh now refreshToken = some reference →
    (i, (reference, env.hashToken refreshToken)) ∈ p.shared.derived →
    refresh env now refreshToken tokens p.shared.state =
      (.error (.unauthorized "Refresh token has been revoked"), p.shared.state)
  unissued : ∀ t ∈ p.threads, ∀ key user, t.phase = .issuing key user → (i, key) ∉ p.shared.derived

/-! ## The invariant -/

/-- What holds in every pool: the keys of revoked sessions are gone and nobody holds them,
    and what an iteration is to delete is held by nobody and written by nobody meanwhile. -/
structure Invariant (p : Pool SessionStore Thread) : Prop where
  written : ∀ k, Stored p.shared.state k → k ∈ p.shared.written
  owned : ∀ {i key key'}, (i, key) ∈ p.shared.derived → (i, key') ∈ p.shared.derived → key.1 = key'.1
  normal : ∀ {i key}, (i, key) ∈ p.shared.derived → normalizeEntityReference key.1 = key.1
  opened : ∀ {i key}, (i, key) ∈ p.shared.derived → i < p.shared.opened
  before : ∀ t ∈ p.threads, t.before ≤ p.shared.opened
  known : ∀ i ∈ p.shared.revoked, ∃ key, (i, key) ∈ p.shared.derived
  gone : ∀ i ∈ p.shared.revoked, ∀ k, (i, k.token) ∈ p.shared.derived → ¬ Stored p.shared.state k
  held : ∀ t ∈ p.threads, ∀ key ∈ t.phase.holds, ∀ i, (i, key) ∈ p.shared.derived → i ∉ p.shared.revoked
  apart : ∀ t ∈ p.threads, ∀ key ∈ t.phase.holds, ∀ u ∈ p.threads, ¬ u.Drains p.shared key
  draining : ∀ u ∈ p.threads, ∀ iteration ∈ u.phase.iterates,
    Draining (fun k => Covers p.shared u.before iteration.1 k.token) (Stored p.shared.state)
      p.shared.written iteration.2
  returned : ∀ u ∈ p.threads, ∀ reference since reply, u.phase = .dropping reference since reply →
    reply.last = true → ∀ k, Covers p.shared u.before reference k.token → Stored p.shared.state k →
      k ∈ reply.keys
  issuer : ∀ t ∈ p.threads, ∀ key user, t.phase = .issuing key user →
    user.reference = normalizeEntityReference key.1

theorem invariant_start {s : AuthState} : Invariant (Pool.idle (SessionStore.start s)) where
  written := by
    intro k hk
    cases k <;> cases hk
  owned h := absurd h List.not_mem_nil
  normal h := absurd h List.not_mem_nil
  opened h := absurd h List.not_mem_nil
  before t ht := absurd ht List.not_mem_nil
  known i hi := absurd hi List.not_mem_nil
  gone i hi := absurd hi List.not_mem_nil
  held t ht := absurd ht List.not_mem_nil
  apart t ht := absurd ht List.not_mem_nil
  draining t ht := absurd ht List.not_mem_nil
  returned t ht := absurd ht List.not_mem_nil
  issuer t ht := absurd ht List.not_mem_nil

theorem mem_sessionsOf {s : SessionStore} {key : TokenKey} {i : Nat} :
    i ∈ s.sessionsOf key ↔ (i, key) ∈ s.derived := by
  simp [SessionStore.sessionsOf]

theorem mem_openedBefore {s : SessionStore} {before : Nat} {reference : String} {i : Nat} :
    i ∈ s.openedBefore before reference ↔ ∃ key, (i, key) ∈ s.derived ∧ i < before ∧ key.1 = reference := by
  simp [SessionStore.openedBefore]

/-! ### Changes of the store -/

section StoreChanges

variable {p : Pool SessionStore Thread} {state : AuthState} {t : Thread} {key : TokenKey}
  {sessions : List Nat}

/-- Keys are deleted, or nothing happens to them. -/
theorem Invariant.shrink (hp : Invariant p)
    (hstored : ∀ k, Stored state k → Stored p.shared.state k) :
    Invariant ⟨{ p.shared with state := state }, p.threads⟩ where
  written k hk := hp.written k (hstored k hk)
  owned := hp.owned
  normal := hp.normal
  opened := hp.opened
  before := hp.before
  known := hp.known
  gone i hi k hk h := hp.gone i hi k hk (hstored k h)
  held := hp.held
  apart := hp.apart
  draining u hu iteration hit := (hp.draining u hu iteration hit).mono (fun _ h => h) hstored
  returned u hu reference since reply hphase hlast k hk h :=
    hp.returned u hu reference since reply hphase hlast k hk (hstored k h)
  issuer := hp.issuer

/-- A refresh leaves the grace key of the token it holds. -/
theorem Invariant.grace (hp : Invariant p) (ht : t ∈ p.threads) (hkey : key ∈ t.phase.holds)
    (hstored : ∀ k, Stored state k → Stored p.shared.state k ∨ k = .grace key) :
    Invariant ⟨{ p.shared with state := state, written := p.shared.written ++ [.grace key] },
      p.threads⟩ where
  written k hk := List.mem_append.2 ((hstored k hk).imp (hp.written k) List.mem_singleton.2)
  owned := hp.owned
  normal := hp.normal
  opened := hp.opened
  before := hp.before
  known := hp.known
  gone i hi k hk h := by
    rcases hstored k h with h | rfl
    · exact hp.gone i hi k hk h
    · exact hp.held t ht key hkey i hk hi
  held := hp.held
  apart := hp.apart
  draining u hu iteration hit :=
    (hp.draining u hu iteration hit).write (fun hcovers => hp.apart t ht key hkey u hu
      ⟨iteration, hit, hcovers⟩) hstored
  returned u hu reference since reply hphase hlast k hk h := by
    rcases hstored k h with h | rfl
    · exact hp.returned u hu reference since reply hphase hlast k hk h
    · have hiterates : (reference, since) ∈ u.phase.iterates := by
        rw [hphase]
        rfl
      exact absurd ⟨_, hiterates, hk⟩ (hp.apart t ht key hkey u hu)
  issuer := hp.issuer

/-- A new token is issued for sessions that are not revoked, and not about to be. -/
theorem Invariant.issue (hp : Invariant p) (hnew : NotRevoked p key) {opened : Nat}
    (hopened : p.shared.opened ≤ opened)
    (hstored : ∀ k, Stored state k → Stored p.shared.state k ∨ k = .refresh key)
    (hsessions : ∀ i ∈ sessions, i < opened ∧ i ∉ p.shared.revoked ∧
      (∀ key', (i, key') ∈ p.shared.derived → key'.1 = key.1) ∧
      (∀ u ∈ p.threads, ∀ iteration ∈ u.phase.iterates, key.1 = iteration.1 → ¬ i < u.before) ∧
      normalizeEntityReference key.1 = key.1) :
    Invariant ⟨{ p.shared with
      state := state, opened := opened, derived := p.shared.derived ++ sessions.map (·, key)
      written := p.shared.written ++ [.refresh key] }, p.threads⟩ := by
  have hcases : ∀ {i key'}, (i, key') ∈ p.shared.derived ++ sessions.map (·, key) →
      (i, key') ∈ p.shared.derived ∨ (i ∈ sessions ∧ key' = key) := by
    intro i key' h
    rcases List.mem_append.1 h with h | h
    · exact .inl h
    · obtain ⟨j, hj, heq⟩ := List.mem_map.1 h
      cases heq
      exact .inr ⟨hj, rfl⟩
  have hcovers : ∀ u ∈ p.threads, ∀ iteration ∈ u.phase.iterates, ∀ {key'}, Covers { p.shared with
      state := state, opened := opened, derived := p.shared.derived ++ sessions.map (·, key)
      written := p.shared.written ++ [.refresh key] } u.before iteration.1 key' →
      Covers p.shared u.before iteration.1 key' := by
    rintro u hu iteration hit key' ⟨hreference, i, hlt, hmem⟩
    rcases hcases hmem with hi | ⟨hi, rfl⟩
    · exact ⟨hreference, i, hlt, hi⟩
    · exact absurd hlt ((hsessions i hi).2.2.2.1 u hu iteration hit hreference)
  constructor
  · intro k hk
    exact List.mem_append.2 ((hstored k hk).imp (hp.written k) List.mem_singleton.2)
  · intro i key₁ key₂ hmem₁ hmem₂
    rcases hcases hmem₁ with h₁ | ⟨hi, rfl⟩
    · rcases hcases hmem₂ with h₂ | ⟨hi, rfl⟩
      · exact hp.owned h₁ h₂
      · exact (hsessions i hi).2.2.1 key₁ h₁
    · rcases hcases hmem₂ with h₂ | ⟨-, rfl⟩
      · exact ((hsessions i hi).2.2.1 key₂ h₂).symm
      · rfl
  · intro i key' h
    rcases hcases h with h | ⟨hi, rfl⟩
    · exact hp.normal h
    · exact (hsessions i hi).2.2.2.2
  · intro i key' h
    rcases hcases h with h | ⟨hi, -⟩
    · exact Nat.lt_of_lt_of_le (hp.opened h) hopened
    · exact (hsessions i hi).1
  · exact fun u hu => Nat.le_trans (hp.before u hu) hopened
  · intro i hi
    obtain ⟨key', hkey'⟩ := hp.known i hi
    exact ⟨key', List.mem_append_left _ hkey'⟩
  · intro i hi k hk h
    rcases hcases hk with hk | ⟨hmem, -⟩
    · rcases hstored k h with h | rfl
      · exact hp.gone i hi k hk h
      · exact hnew.1 i (mem_sessionsOf.2 hk) hi
    · exact (hsessions i hmem).2.1 hi
  · intro u hu key' hkey' i hi
    rcases hcases hi with hi | ⟨hi, -⟩
    · exact hp.held u hu key' hkey' i hi
    · exact (hsessions i hi).2.1
  · rintro u hu key' hkey' v hv ⟨iteration, hit, h⟩
    exact hp.apart u hu key' hkey' v hv ⟨iteration, hit, hcovers v hv iteration hit h⟩
  · intro u hu iteration hit
    have hfree : ¬ Covers p.shared u.before iteration.1 (SessionKey.refresh key).token :=
      fun h => hnew.2 u hu ⟨iteration, hit, h⟩
    exact ((hp.draining u hu iteration hit).write hfree hstored).mono
      (fun _ => hcovers u hu iteration hit) (fun _ h => h)
  · intro u hu reference since reply hphase hlast k hk h
    have hit : (reference, since) ∈ u.phase.iterates := by
      rw [hphase]
      rfl
    have hk := hcovers u hu _ hit hk
    rcases hstored k h with h | rfl
    · exact hp.returned u hu reference since reply hphase hlast k hk h
    · exact absurd ⟨_, hit, hk⟩ (hnew.2 u hu)
  · exact hp.issuer

/-- Sessions are revoked whose keys are gone, and that nobody holds a token of. -/
theorem Invariant.revoke (hp : Invariant p)
    (hstored : ∀ k, Stored state k → Stored p.shared.state k)
    (hknown : ∀ i ∈ sessions, ∃ key, (i, key) ∈ p.shared.derived)
    (hgone : ∀ i ∈ sessions, ∀ k, (i, k.token) ∈ p.shared.derived → ¬ Stored state k)
    (hheld : ∀ i ∈ sessions, ∀ t ∈ p.threads, ∀ key ∈ t.phase.holds, (i, key) ∉ p.shared.derived) :
    Invariant ⟨{ p.shared with state := state, revoked := p.shared.revoked ++ sessions },
      p.threads⟩ where
  written k hk := hp.written k (hstored k hk)
  owned := hp.owned
  normal := hp.normal
  opened := hp.opened
  before := hp.before
  known i hi := (List.mem_append.1 hi).elim (hp.known i) (hknown i)
  gone i hi k hk h := by
    rcases List.mem_append.1 hi with hi | hi
    · exact hp.gone i hi k hk (hstored k h)
    · exact hgone i hi k hk h
  held t ht key hkey i hi hrevoked := by
    rcases List.mem_append.1 hrevoked with hrevoked | hrevoked
    · exact hp.held t ht key hkey i hi hrevoked
    · exact hheld i hrevoked t ht key hkey hi
  apart := hp.apart
  draining u hu iteration hit := (hp.draining u hu iteration hit).mono (fun _ h => h) hstored
  returned u hu reference since reply hphase hlast k hk h :=
    hp.returned u hu reference since reply hphase hlast k hk (hstored k h)
  issuer := hp.issuer

end StoreChanges

/-! ### Changes of a thread -/

section ThreadChanges

variable {p : Pool SessionStore Thread} {t : Thread} {i : Nat} {phase : Phase} {key : TokenKey}

/-- A call that iterates holds no token. -/
theorem Phase.iterates_of_holds (h : key ∈ phase.holds) : phase.iterates = none := by
  cases phase <;> first | rfl | cases h

theorem Thread.not_drains_of_holds {s : SessionStore} {key' : TokenKey} (h : key ∈ t.phase.holds) :
    ¬ t.Drains s key' := by
  rintro ⟨iteration, hit, -⟩
  rw [Phase.iterates_of_holds h] at hit
  cases hit

/-- The phase of a thread changes: what it holds and what it iterates over is as it has to
    be. -/
theorem Invariant.enter (hp : Invariant p) (ht : p.threads[i]? = some t)
    (hheld : ∀ key ∈ phase.holds, (∀ i, (i, key) ∈ p.shared.derived → i ∉ p.shared.revoked) ∧
      ∀ u ∈ p.threads, ¬ u.Drains p.shared key)
    (hiterates : ∀ iteration ∈ phase.iterates,
      Draining (fun k => Covers p.shared t.before iteration.1 k.token) (Stored p.shared.state)
        p.shared.written iteration.2 ∧
      ∀ u ∈ p.threads, ∀ key ∈ u.phase.holds, ¬ Covers p.shared t.before iteration.1 key)
    (hreturned : ∀ reference since reply, phase = .dropping reference since reply →
      reply.last = true → ∀ k, Covers p.shared t.before reference k.token →
        Stored p.shared.state k → k ∈ reply.keys)
    (hissuer : ∀ key user, phase = .issuing key user →
      user.reference = normalizeEntityReference key.1) :
    Invariant ⟨p.shared, p.threads.set i { t with phase := phase }⟩ := by
  have hmem : ∀ {u}, u ∈ p.threads.set i { t with phase := phase } →
      u ∈ p.threads ∨ u = { t with phase := phase } := List.mem_or_eq_of_mem_set
  have htmem : t ∈ p.threads := List.mem_of_getElem? ht
  have hdrains : ∀ u ∈ p.threads.set i { t with phase := phase }, ∀ v ∈ p.threads,
      ∀ key ∈ v.phase.holds, ¬ u.Drains p.shared key := by
    rintro u hu v hv key hkey hdrains
    rcases hmem hu with hu | rfl
    · exact hp.apart v hv key hkey u hu hdrains
    · obtain ⟨iteration, hit, hcovers⟩ := hdrains
      exact (hiterates iteration hit).2 v hv key hkey hcovers
  constructor
  · exact hp.written
  · exact hp.owned
  · exact hp.normal
  · exact hp.opened
  · intro u hu
    rcases hmem hu with hu | rfl
    · exact hp.before u hu
    · exact hp.before t htmem
  · exact hp.known
  · exact hp.gone
  · intro u hu key hkey
    rcases hmem hu with hu | rfl
    · exact hp.held u hu key hkey
    · exact (hheld key hkey).1
  · intro u hu key hkey v hv
    rcases hmem hu with hu | rfl
    · exact hdrains v hv u hu key hkey
    · rcases hmem hv with hv | rfl
      · exact (hheld key hkey).2 v hv
      · exact Thread.not_drains_of_holds hkey
  · intro u hu iteration hit
    rcases hmem hu with hu | rfl
    · exact hp.draining u hu iteration hit
    · exact (hiterates iteration hit).1
  · intro u hu
    rcases hmem hu with hu | rfl
    · exact hp.returned u hu
    · exact hreturned
  · intro u hu
    rcases hmem hu with hu | rfl
    · exact hp.issuer u hu
    · exact hissuer

/-- A call ends, or goes on to a step that neither holds nor iterates. -/
theorem Invariant.idle (hp : Invariant p) (ht : p.threads[i]? = some t) (hholds : phase.holds = none)
    (hiterates : phase.iterates = none) :
    Invariant ⟨p.shared, p.threads.set i { t with phase := phase }⟩ := by
  refine hp.enter ht (fun key h => ?_) (fun iteration h => ?_) (fun reference since reply h => ?_)
    (fun key user h => ?_)
  · rw [hholds] at h
    cases h
  · rw [hiterates] at h
    cases h
  · rw [h] at hiterates
    cases hiterates
  · rw [h] at hholds
    cases hholds

/-- A refresh goes on with the token it holds. -/
theorem Invariant.hold (hp : Invariant p) (ht : p.threads[i]? = some t) (hkey : key ∈ t.phase.holds)
    (hholds : phase.holds = some key)
    (hissuer : ∀ user, phase = .issuing key user →
      user.reference = normalizeEntityReference key.1) :
    Invariant ⟨p.shared, p.threads.set i { t with phase := phase }⟩ := by
  have hmem : t ∈ p.threads := List.mem_of_getElem? ht
  have hiterates : phase.iterates = none := Phase.iterates_of_holds hholds
  refine hp.enter ht (fun key' h => ?_) (fun iteration h => ?_) (fun reference since reply h => ?_)
    (fun key' user h => ?_)
  · obtain rfl : key = key' := Option.some.inj (hholds.symm.trans h)
    exact ⟨hp.held t hmem key hkey, hp.apart t hmem key hkey⟩
  · rw [hiterates] at h
    cases h
  · rw [h] at hiterates
    cases hiterates
  · subst h
    cases hholds
    exact hissuer user rfl

/-- A refresh finds the key of a token that no iteration is to delete: no session of the
    token is revoked, for the key is there. -/
theorem Invariant.find (hp : Invariant p) (ht : p.threads[i]? = some t)
    (hholds : phase.holds = some key) (hphase : ∀ key user, phase ≠ .issuing key user)
    {k : SessionKey} (hk : k.token = key) (hstored : Stored p.shared.state k)
    (hundrained : ∀ u ∈ p.threads, ¬ u.Drains p.shared key) :
    Invariant ⟨p.shared, p.threads.set i { t with phase := phase }⟩ := by
  have hiterates : phase.iterates = none := Phase.iterates_of_holds hholds
  refine hp.enter ht (fun key' h => ?_) (fun iteration h => ?_) (fun reference since reply h => ?_)
    (fun key' user h => absurd h (hphase key' user))
  · obtain rfl : key = key' := Option.some.inj (hholds.symm.trans h)
    refine ⟨fun j hj hrevoked => ?_, hundrained⟩
    rw [← hk] at hj
    exact hp.gone j hrevoked k hj hstored
  · rw [hiterates] at h
    cases h
  · rw [h] at hiterates
    cases hiterates

/-- An iteration goes on. -/
theorem Invariant.iterate (hp : Invariant p) (ht : p.threads[i]? = some t)
    {reference : String} {since : Nat} (hiterates : phase.iterates = some (reference, since))
    (hdraining : Draining (fun k => Covers p.shared t.before reference k.token)
      (Stored p.shared.state) p.shared.written since)
    (hunheld : ∀ u ∈ p.threads, ∀ key ∈ u.phase.holds, ¬ Covers p.shared t.before reference key)
    (hreturned : ∀ reply, phase = .dropping reference since reply → reply.last = true →
      ∀ k, Covers p.shared t.before reference k.token → Stored p.shared.state k → k ∈ reply.keys) :
    Invariant ⟨p.shared, p.threads.set i { t with phase := phase }⟩ := by
  refine hp.enter ht (fun key h => ?_) (fun iteration h => ?_)
    (fun reference' since' reply h => ?_) (fun key user h => ?_)
  · rw [Phase.iterates_of_holds h] at hiterates
    cases hiterates
  · cases hiterates.symm.trans h
    exact ⟨hdraining, hunheld⟩
  · subst h
    cases hiterates
    exact hreturned reply rfl
  · rw [h] at hiterates
    cases hiterates

/-- A call is started. -/
theorem Invariant.startCall (hp : Invariant p) (call : Call) :
    Invariant ⟨p.shared, p.threads ++ [⟨call, p.shared.opened, call.first⟩]⟩ := by
  have hfirst : call.first.holds = none ∧ call.first.iterates = none := by
    cases call <;> exact ⟨rfl, rfl⟩
  have hmem : ∀ {u}, u ∈ p.threads ++ [⟨call, p.shared.opened, call.first⟩] →
      u ∈ p.threads ∨ u = ⟨call, p.shared.opened, call.first⟩ := by
    intro u hu
    exact (List.mem_append.1 hu).imp_right List.mem_singleton.1
  constructor
  · exact hp.written
  · exact hp.owned
  · exact hp.normal
  · exact hp.opened
  · intro u hu
    rcases hmem hu with hu | rfl
    · exact hp.before u hu
    · exact Nat.le_refl _
  · exact hp.known
  · exact hp.gone
  · intro u hu key hkey
    rcases hmem hu with hu | rfl
    · exact hp.held u hu key hkey
    · cases hfirst.1.symm.trans hkey
  · intro u hu key hkey v hv
    rcases hmem hu with hu | rfl
    · rcases hmem hv with hv | rfl
      · exact hp.apart u hu key hkey v hv
      · rintro ⟨iteration, hit, -⟩
        cases hfirst.2.symm.trans hit
    · cases hfirst.1.symm.trans hkey
  · intro u hu iteration hit
    rcases hmem hu with hu | rfl
    · exact hp.draining u hu iteration hit
    · cases hfirst.2.symm.trans hit
  · intro u hu reference since reply hphase
    rcases hmem hu with hu | rfl
    · exact hp.returned u hu reference since reply hphase
    · have hphase : call.first = .dropping reference since reply := hphase
      rw [hphase] at hfirst
      cases hfirst.2
  · intro u hu key user hphase
    rcases hmem hu with hu | rfl
    · exact hp.issuer u hu key user hphase
    · have hphase : call.first = .issuing key user := hphase
      rw [hphase] at hfirst
      cases hfirst.1

end ThreadChanges

/-! ### What the steps write -/

section Stored

variable {env : AuthEnv} {s s' : AuthState} {k : SessionKey} {key : TokenKey}

theorem stored_congr (hrefresh : s'.refreshKeys = s.refreshKeys) (hgrace : s'.graceKeys = s.graceKeys) :
    Stored s' k ↔ Stored s k := by
  cases k with
  | refresh key => rw [Stored, Stored, hrefresh]
  | grace key => rw [Stored, Stored, hgrace]

theorem stored_delKeys {keys : List SessionKey} : Stored (delKeys s keys) k ↔ k ∉ keys ∧ Stored s k := by
  cases k with
  | refresh key =>
    by_cases hmem : SessionKey.refresh key ∈ keys <;>
      simp [Stored, delKeys, Redis.delByPattern, hmem]
  | grace key =>
    by_cases hmem : SessionKey.grace key ∈ keys <;>
      simp [Stored, delKeys, Redis.delByPattern, hmem]

theorem stored_of_del (h : Stored { s with refreshKeys := s.refreshKeys.del key } k) :
    Stored s k ∧ k ≠ .refresh key := by
  cases k with
  | refresh key' =>
    change (s.refreshKeys.del key key').isSome = true at h
    by_cases heq : key' = key
    · subst heq
      rw [Redis.del_self] at h
      cases h
    · rw [Redis.del_of_ne heq] at h
      exact ⟨h, fun hk => heq (SessionKey.refresh.inj hk)⟩
  | grace key' => exact ⟨h, nofun⟩

theorem stored_of_setGrace (h : Stored { s with graceKeys := s.graceKeys.setCache key () } k) :
    Stored s k ∨ k = .grace key := by
  cases k with
  | refresh key' => exact .inl h
  | grace key' =>
    by_cases heq : key' = key
    · exact .inr (congrArg SessionKey.grace heq)
    · change (s.graceKeys.setCache key () key').isSome = true at h
      rw [Redis.setCache_of_ne heq] at h
      exact .inl h

theorem stored_of_issueTokens {reference : String} {tokens : TokenPair}
    (h : Stored ((issueTokens env reference tokens).final s) k) :
    Stored s k ∨ k = .refresh (reference, env.hashToken tokens.refreshToken) := by
  cases k with
  | refresh key' =>
    change (s.refreshKeys.setCache (reference, env.hashToken tokens.refreshToken) () key').isSome =
      true at h
    by_cases heq : key' = (reference, env.hashToken tokens.refreshToken)
    · exact .inr (congrArg SessionKey.refresh heq)
    · rw [Redis.setCache_of_ne heq] at h
      exact .inl h
  | grace key' => exact .inl h

theorem stored_revokeSessions {reference : String}
    (h : Stored ((UserService.revokeSessions reference).commit s) k) : Stored s k := by
  cases k with
  | refresh key =>
    change (s.refreshKeys.delByPattern (fun key => decide (key.1 = reference)) key).isSome = true at h
    unfold Redis.delByPattern at h
    split at h
    · cases h
    · exact h
  | grace key =>
    change (s.graceKeys.delByPattern (fun key => decide (key.1 = reference)) key).isSome = true at h
    unfold Redis.delByPattern at h
    split at h
    · cases h
    · exact h

theorem stored_updatePasswordHash {id : Nat} {passwordHash : String} {u : Unit}
    (h : UserService.updatePasswordHash id passwordHash s = .ok (u, s')) : Stored s' k ↔ Stored s k := by
  obtain ⟨row, -, rfl⟩ := UserService.updatePasswordHash_ok h
  exact stored_congr rfl rfl

theorem stored_resetStep {token passwordHash : String} {phase phase' : OneTime.Resetting}
    (hstep : OneTime.resetStep env token passwordHash s phase = some (s', phase'))
    (h : Stored s' k) : Stored s k := by
  cases phase with
  | reading =>
    obtain ⟨rfl, -⟩ := OneTime.check_cases (Option.some.inj hstep)
    exact h
  | deleting id =>
    cases hstep
    exact (stored_congr rfl rfl).1 h
  | clearing id =>
    cases hstep
    exact (stored_congr rfl rfl).1 h
  | finding id =>
    obtain ⟨rfl, -⟩ := OneTime.check_cases (Option.some.inj hstep)
    exact h
  | updating user =>
    obtain ⟨rfl, -⟩ := OneTime.outcome_cases (Option.some.inj hstep)
    cases hupdate : UserService.updatePasswordHash user.id passwordHash s with
    | error exception =>
      rw [Process.atomically, hupdate] at h
      exact h
    | ok r =>
      rw [Process.atomically, hupdate] at h
      exact (stored_updatePasswordHash hupdate).1 h
  | revoking user =>
    cases hstep
    exact stored_revokeSessions h
  | succeeded => cases hstep
  | failed exception => cases hstep

/-- A refresh finds the user of its token. -/
theorem reference_of_findOneByReference {d : Directory} {reference : String} {user : UserEntity}
    (h : UserService.findOneByReference d reference = .ok user) :
    user.reference = normalizeEntityReference reference := by
  obtain ⟨row, hrow, hfind⟩ := Except.bind_eq_ok.1 h
  obtain ⟨hmem, hreference⟩ := findEntityByReference_eq_ok hrow
  obtain ⟨found, hfound, rfl⟩ := UserService.findOne_eq_ok.1 hfind
  rw [Table.find?_of_mem hmem] at hfound
  cases hfound
  exact hreference

theorem readRefreshKey_cases (env : AuthEnv) (now : Instant) (refreshToken : String) (s : AuthState) :
    (∃ key, readRefreshKey env now refreshToken s = .deleting key ∧ Stored s (.refresh key) ∧
      key ∈ ((env.verifyRefresh now refreshToken).map (·, env.hashToken refreshToken)).filter
        (fun key => Stored s (.refresh key))) ∨
    ((readRefreshKey env now refreshToken s).holds = none ∧
      (readRefreshKey env now refreshToken s).iterates = none) := by
  unfold readRefreshKey
  cases env.verifyRefresh now refreshToken with
  | none => exact .inr ⟨rfl, rfl⟩
  | some reference =>
    dsimp only
    split
    · rename_i hstored
      exact .inl ⟨_, rfl, hstored, Option.mem_filter_iff.2 ⟨rfl, decide_eq_true hstored⟩⟩
    · exact .inr ⟨rfl, rfl⟩

theorem loadUser_cases (key : TokenKey) (s : AuthState) :
    (∃ user, loadUser key s = .issuing key user ∧
      user.reference = normalizeEntityReference key.1) ∨
    ((loadUser key s).holds = none ∧ (loadUser key s).iterates = none) := by
  unfold loadUser
  cases hfind : UserService.findOneByReference s.directory key.1 with
  | error exception => exact .inr ⟨rfl, rfl⟩
  | ok user =>
    dsimp only
    split
    · exact .inl ⟨user, rfl, reference_of_findOneByReference hfind⟩
    · exact .inr ⟨rfl, rfl⟩

end Stored

/-! ### The steps -/

section Steps

variable {env : AuthEnv} {p : Pool SessionStore Thread} {i : Nat} {t : Thread}
  {s' : SessionStore} {phase' : Phase} {reply : ScanReply SessionKey}

theorem mem_of_threads (ht : p.threads[i]? = some t) : t ∈ p.threads := List.mem_of_getElem? ht

/-- A refresh that holds a token issues the new one, for the sessions of the token. -/
theorem Invariant.exchange {key : TokenKey} {user : UserEntity} {tokens : TokenPair} (hp : Invariant p)
    (hmem : t ∈ p.threads) (hphase : t.phase = .issuing key user)
    (hnew : NotRevoked p (user.reference, env.hashToken tokens.refreshToken)) :
    Invariant ⟨p.shared.issue env user.reference tokens (p.shared.sessionsOf key), p.threads⟩ := by
  have hheld : key ∈ t.phase.holds := by
    rw [hphase]
    rfl
  refine hp.issue hnew (Nat.le_refl _) (fun k hk => stored_of_issueTokens hk) (fun j hj => ?_)
  have hderived : (j, key) ∈ p.shared.derived := mem_sessionsOf.1 hj
  have hreference : user.reference = key.1 :=
    (hp.issuer t hmem key user hphase).trans (hp.normal hderived)
  refine ⟨hp.opened hderived, hp.held t hmem key hheld j hderived, fun key' h => ?_,
    fun u hu iteration hit heq hlt => ?_, ?_⟩
  · exact (hp.owned h hderived).trans hreference.symm
  · exact hp.apart t hmem key hheld u hu
      ⟨iteration, hit, hreference.symm.trans heq, j, hlt, hderived⟩
  · have hnormal := hp.normal hderived
    rwa [← hreference] at hnormal

/-- A step of a refresh: the token it finds belongs to no session that is revoked, so that it
    may leave the grace key and issue a new token. -/
theorem invariant_refreshStep {now : Instant} {refreshToken : String} {tokens : TokenPair}
    (hp : Invariant p) (ht : p.threads[i]? = some t) (hcall : t.call = .refresh now refreshToken tokens)
    (hfinds : FindsUndrained env p t) (hissues : ∀ key ∈ t.issues env, NotRevoked p key)
    (h : refreshStep env now refreshToken tokens p.shared t.phase = some (s', phase')) :
    Invariant ⟨s', p.threads.set i { t with phase := phase' }⟩ := by
  have hmem : t ∈ p.threads := mem_of_threads ht
  cases hphase : t.phase with
  | verifying =>
    rw [hphase] at h
    cases h
    rcases readRefreshKey_cases env now refreshToken p.shared.state with
      ⟨key, hkey, hstored, hverify⟩ | ⟨hholds, hiterates⟩
    · rw [hkey]
      refine hp.find ht rfl (fun _ _ h => by cases h) rfl hstored (hfinds key ?_)
      rw [Thread.finds, hcall, hphase]
      exact hverify
    · exact hp.idle ht hholds hiterates
  | deleting key =>
    rw [hphase] at h
    cases h
    have hheld : key ∈ t.phase.holds := by rw [hphase]; rfl
    have hp' : Invariant ⟨{ p.shared with
        state := { p.shared.state with refreshKeys := p.shared.state.refreshKeys.del key } },
        p.threads⟩ := hp.shrink (fun k hk => (stored_of_del hk).1)
    exact hp'.hold ht hheld rfl (fun _ h => by cases h)
  | gracing key =>
    rw [hphase] at h
    cases h
    have hheld : key ∈ t.phase.holds := by rw [hphase]; rfl
    have hp' : Invariant ⟨{ p.shared with
        state := { p.shared.state with graceKeys := p.shared.state.graceKeys.setCache key () }
        written := p.shared.written ++ [.grace key] }, p.threads⟩ :=
      hp.grace hmem hheld (fun k hk => stored_of_setGrace hk)
    exact hp'.hold ht hheld rfl (fun _ h => by cases h)
  | readingGrace key =>
    rw [hphase] at h
    cases h
    by_cases hstored : Stored p.shared.state (.grace key)
    · rw [readGraceKey, if_pos hstored]
      refine hp.find ht rfl (fun _ _ h => by cases h) rfl hstored (hfinds key ?_)
      rw [Thread.finds, hcall, hphase]
      exact if_pos hstored
    · rw [readGraceKey, if_neg hstored]
      exact hp.idle ht rfl rfl
  | loading key =>
    rw [hphase] at h
    cases h
    have hheld : key ∈ t.phase.holds := by rw [hphase]; rfl
    rcases loadUser_cases key p.shared.state with ⟨user, huser, hreference⟩ | ⟨hholds, hiterates⟩
    · rw [huser]
      refine hp.hold ht hheld rfl (fun user' h => ?_)
      cases h
      exact hreference
    · exact hp.idle ht hholds hiterates
  | issuing key user =>
    rw [hphase] at h
    cases h
    have hnew := hissues (user.reference, env.hashToken tokens.refreshToken) (by
      simp only [Thread.issues, hcall, hphase]
      rfl)
    exact (hp.exchange hmem hphase hnew).idle ht rfl rfl
  | _ =>
    rw [hphase] at h
    cases h

/-- A logout revokes the sessions of the token: the guard says that nothing else of them is
    left. -/
theorem invariant_logoutStep {reference refreshToken : String} (hp : Invariant p)
    (ht : p.threads[i]? = some t) (hcall : t.call = .logout reference refreshToken)
    (hlast : LogsOutLast env p t)
    (h : logoutStep env reference refreshToken p.shared t.phase = some (s', phase')) :
    Invariant ⟨s', p.threads.set i { t with phase := phase' }⟩ := by
  cases hphase : t.phase with
  | loggingOut =>
    rw [hphase] at h
    cases h
    have hlast := hlast (reference, env.hashToken refreshToken) (by
      simp only [Thread.logsOut, hcall, hphase]
      rfl)
    have hdel : ∀ k, Stored ((logout env reference refreshToken).final p.shared.state) k →
        Stored p.shared.state k ∧ k ≠ .refresh (reference, env.hashToken refreshToken) :=
      fun k hk => stored_of_del hk
    refine (hp.revoke (fun k hk => (hdel k hk).1) (fun j hj => ⟨_, mem_sessionsOf.1 hj⟩)
      (fun j hj k hk h => ?_) (fun j hj u hu key hkey hmem => ?_)).idle ht rfl rfl
    · obtain ⟨hstored, hne⟩ := hdel k h
      have hothers := hlast j hj _ hk rfl
      cases k with
      | refresh key => exact hne (congrArg SessionKey.refresh (hothers.2.1 hstored))
      | grace key => exact hothers.1 hstored
    · exact (hlast j hj _ hmem rfl).2.2 u hu hkey
  | _ =>
    rw [hphase] at h
    cases h

/-- A step of an iteration: what it is to delete only gets less, and is gone at its end. -/
theorem invariant_iterateStep (hp : Invariant p) (ht : p.threads[i]? = some t)
    (hbegins : BeginsUnheld p t)
    (h : iterateStep t.before p.shared reply t.phase = some (s', phase')) :
    Invariant ⟨s', p.threads.set i { t with phase := phase' }⟩ := by
  have hmem : t ∈ p.threads := mem_of_threads ht
  cases hphase : t.phase with
  | scanning reference since =>
    rw [hphase] at h
    simp only [iterateStep, Option.ite_none_right_eq_some, Option.some.injEq, Prod.mk.injEq] at h
    obtain ⟨hreply, rfl, rfl⟩ := h
    have hdraining : Draining (fun k => Covers p.shared t.before reference k.token)
        (Stored p.shared.state) p.shared.written (since.getD p.shared.written.length) ∧
        ∀ u ∈ p.threads, ∀ key ∈ u.phase.holds, ¬ Covers p.shared t.before reference key := by
      cases since with
      | none => exact ⟨Draining.start, hbegins reference (by rw [hphase]; rfl)⟩
      | some since =>
        have hit : (reference, since) ∈ t.phase.iterates := by rw [hphase]; rfl
        exact ⟨hp.draining t hmem _ hit, fun u hu key hkey hcovers =>
          hp.apart u hu key hkey t hmem ⟨_, hit, hcovers⟩⟩
    refine hp.iterate ht rfl hdraining.1 hdraining.2 (fun reply' heq hlast k hk hstored => ?_)
    cases heq
    exact hdraining.1.returned hreply hlast hk.1 (hp.written k hstored) hk hstored
  | dropping reference since reply' =>
    rw [hphase] at h
    have hit : (reference, since) ∈ t.phase.iterates := by rw [hphase]; rfl
    have hshrink : ∀ k, Stored (delKeys p.shared.state reply'.keys) k → Stored p.shared.state k :=
      fun k hk => (stored_delKeys.1 hk).2
    by_cases hlast : reply'.last = true
    · simp only [iterateStep, hlast, if_true, Option.some.injEq, Prod.mk.injEq] at h
      obtain ⟨rfl, rfl⟩ := h
      have hcovered : ∀ {j key}, j ∈ p.shared.openedBefore t.before reference →
          (j, key) ∈ p.shared.derived → Covers p.shared t.before reference key := by
        intro j key hj hkey
        obtain ⟨key', hkey', hlt, hreference⟩ := mem_openedBefore.1 hj
        exact ⟨(hp.owned hkey hkey').trans hreference, j, hlt, hkey⟩
      have hknown : ∀ j ∈ p.shared.openedBefore t.before reference, ∃ key, (j, key) ∈ p.shared.derived :=
        fun j hj => (mem_openedBefore.1 hj).imp (fun _ h => h.1)
      refine (hp.revoke hshrink hknown (fun j hj k hk h => ?_)
        (fun j hj u hu key hkey hderived => ?_)).idle ht rfl rfl
      · obtain ⟨hkept, hstored⟩ := stored_delKeys.1 h
        exact hkept (hp.returned t hmem reference since reply' hphase hlast k (hcovered hj hk) hstored)
      · exact hp.apart u hu key hkey t hmem ⟨_, hit, hcovered hj hderived⟩
    · simp only [iterateStep, if_neg hlast, Option.some.injEq, Prod.mk.injEq] at h
      obtain ⟨rfl, rfl⟩ := h
      have hp' := hp.shrink hshrink
      exact hp'.iterate ht rfl (hp'.draining t hmem _ hit) (fun u hu key hkey hcovers =>
        hp'.apart u hu key hkey t hmem ⟨_, hit, hcovers⟩) (fun _ h => by cases h)
  | _ =>
    rw [hphase] at h
    cases h

theorem invariant_changeStep {id : Nat} {input : ChangePasswordInput} {passwordHash : String}
    (hp : Invariant p) (ht : p.threads[i]? = some t) (hbegins : BeginsUnheld p t)
    (h : changeStep env id input passwordHash t.before p.shared reply t.phase = some (s', phase')) :
    Invariant ⟨s', p.threads.set i { t with phase := phase' }⟩ := by
  cases hphase : t.phase with
  | checking =>
    rw [hphase] at h
    simp only [changeStep] at h
    split at h <;> cases h <;> exact hp.idle ht rfl rfl
  | updating user =>
    rw [hphase] at h
    simp only [changeStep] at h
    split at h
    · cases h
      exact hp.idle ht rfl rfl
    · rename_i hupdate
      cases h
      exact (hp.shrink (fun k hk => (stored_updatePasswordHash hupdate).1 hk)).idle ht rfl rfl
  | invalidating reference =>
    rw [hphase] at h
    cases h
    have hp' : Invariant ⟨{ p.shared with
        state := (AuthContextCache.invalidate reference).commit p.shared.state }, p.threads⟩ :=
      hp.shrink (fun k hk => (stored_congr rfl rfl).1 hk)
    exact hp'.idle ht rfl rfl
  | _ =>
    have hiterate : iterateStep t.before p.shared reply t.phase = some (s', phase') := by
      rw [hphase] at h ⊢
      exact h
    exact invariant_iterateStep hp ht hbegins hiterate

theorem invariant_resetStep {token passwordHash : String} (hp : Invariant p)
    (ht : p.threads[i]? = some t) (hbegins : BeginsUnheld p t)
    (h : resetStep env token passwordHash t.before p.shared reply t.phase = some (s', phase')) :
    Invariant ⟨s', p.threads.set i { t with phase := phase' }⟩ := by
  cases hphase : t.phase with
  | resetting phase =>
    rw [hphase] at h
    obtain ⟨⟨state, next⟩, hreset, heq⟩ := Option.map_eq_some_iff.1 h
    cases heq
    have hafter : (afterReset next).holds = none ∧ (afterReset next).iterates = none := by
      cases next <;> exact ⟨rfl, rfl⟩
    exact (hp.shrink (fun k hk => stored_resetStep hreset hk)).idle ht hafter.1 hafter.2
  | _ =>
    have hiterate : iterateStep t.before p.shared reply t.phase = some (s', phase') := by
      rw [hphase] at h ⊢
      exact h
    exact invariant_iterateStep hp ht hbegins hiterate

/-- What happens beside the calls. -/
theorem invariant_after (hp : Invariant p) {event : Event}
    (hguard : Undisturbed env p (.surroundings event)) :
    Invariant ⟨p.shared.after env event, p.threads⟩ := by
  cases event with
  | opens reference tokens =>
    refine hp.issue hguard (Nat.le_succ _) (fun k hk => stored_of_issueTokens hk) (fun j hj => ?_)
    obtain rfl := List.mem_singleton.1 hj
    refine ⟨Nat.lt_succ_self _, fun hrevoked => ?_, fun key' h => ?_, fun u hu iteration _ _ hlt => ?_,
      reference.normalized⟩
    · obtain ⟨key', h⟩ := hp.known _ hrevoked
      exact Nat.lt_irrefl _ (hp.opened h)
    · exact absurd (hp.opened h) (Nat.lt_irrefl _)
    · exact absurd hlt (Nat.not_lt.2 (hp.before u hu))
  | loses keys => exact hp.shrink (fun k hk => (stored_delKeys.1 hk).2)
  | changes state => exact hp.shrink (fun k hk => (stored_congr rfl rfl).1 hk)

theorem invariant_next {turn : Turn Call (ScanReply SessionKey) Event} {p' : Pool SessionStore Thread}
    (hp : Invariant p) (hguard : Undisturbed env p turn) (hstep : (calls env).Step p turn p') :
    Invariant p' := by
  cases turn with
  | start call =>
    obtain ⟨s, t, hstart, rfl⟩ := Concurrent.next_start_eq_some.1 hstep
    cases hstart
    exact hp.startCall call
  | surroundings event =>
    obtain ⟨s, hafter, rfl⟩ := Concurrent.next_surroundings_eq_some.1 hstep
    cases hafter
    exact invariant_after hp hguard
  | step i reply =>
    obtain ⟨t, s, t', ht, hmove, rfl⟩ := Concurrent.next_step_eq_some.1 hstep
    obtain ⟨⟨s', phase'⟩, hthread, heq⟩ := Option.map_eq_some_iff.1 hmove
    cases heq
    obtain ⟨hfinds, hbegins, hlast, hissues⟩ := hguard t ht
    unfold Thread.step at hthread
    change Invariant ⟨s', p.threads.set i { t with phase := phase' }⟩
    split at hthread
    · rename_i hcall
      exact invariant_refreshStep hp ht hcall hfinds hissues hthread
    · rename_i hcall
      exact invariant_logoutStep hp ht hcall hlast hthread
    · exact invariant_changeStep hp ht hbegins hthread
    · exact invariant_resetStep hp ht hbegins hthread

end Steps

/-! ## Revocation -/

section Revocation

variable {env : AuthEnv} {s : AuthState} {p : Pool SessionStore Thread}

theorem invariant_reaches (h : Reaches (Guarded (Undisturbed env) (calls env).Step)
    (Pool.idle (SessionStore.start s)) p) : Invariant p :=
  h.invariant (fun _ _ _ hp hstep => invariant_next hp hstep.1 hstep.2) invariant_start

/-- A token of which no key is left is refused. -/
theorem refresh_of_not_stored {now : Instant} {refreshToken reference : String} {tokens : TokenPair}
    (hverify : env.verifyRefresh now refreshToken = some reference)
    (hrefresh : ¬ Stored s (.refresh (reference, env.hashToken refreshToken)))
    (hgrace : ¬ Stored s (.grace (reference, env.hashToken refreshToken))) :
    refresh env now refreshToken tokens s =
      (.error (.unauthorized "Refresh token has been revoked"), s) := by
  have hnone : s.refreshKeys (reference, env.hashToken refreshToken) = none :=
    Option.not_isSome_iff_eq_none.1 hrefresh
  have htake : takeRefreshKey (reference, env.hashToken refreshToken) s =
      (.error (.unauthorized "Refresh token has been revoked"), s) := by
    refine (Process.bind_of_ok rfl).trans ((Process.bind_of_ok rfl).trans ?_)
    dsimp only
    rw [hnone]
    exact congrFun (if_neg hgrace) s
  rw [refresh, hverify]
  exact (Process.bind_of_ok rfl).trans (Process.bind_of_error htake)

/-- In a run whose steps are undisturbed, a session that was revoked is revoked for good. -/
theorem revocation_final (h : Reaches (Guarded (Undisturbed env) (calls env).Step)
    (Pool.idle (SessionStore.start s)) p) {i : Nat} (hi : i ∈ p.shared.revoked) :
    RevokedForGood env p i where
  refused now refreshToken tokens reference hverify hderived := by
    have hgone := (invariant_reaches h).gone i hi
    exact refresh_of_not_stored hverify (hgone (.refresh _) hderived) (hgone (.grace _) hderived)
  unissued t ht key user hphase hderived := by
    have hheld : key ∈ t.phase.holds := by
      rw [hphase]
      rfl
    exact (invariant_reaches h).held t ht key hheld i hderived hi

end Revocation

/-! ### A change of the password after a refresh, and beside one -/

namespace Sample

open Expentra.Sample

/-- Every token is of the employee. -/
def sessionEnv : AuthEnv := { authEnv with verifyRefresh := fun _ _ => some employeeRow.reference }

/-- The employee has a password. -/
def withPassword : AuthState :=
  authState.setUser { employeeRow with password := some "current" }

def employeeReference : UserReference := ⟨employeeRow.reference, by decide +kernel⟩

def refreshFirst : Call := .refresh authInstant "first" ⟨"access", "second"⟩

def changeCurrent : Call := .changePassword 3 ⟨"current", "changed"⟩ "hash"

def stepOf (i : Nat) : Turn Call (ScanReply SessionKey) Event := .step i ⟨[], false⟩

def scanOf (i : Nat) (keys : List SessionKey) : Turn Call (ScanReply SessionKey) Event :=
  .step i ⟨keys, true⟩

/-- A refresh from its start to its end, and then the change of the password. -/
def oneAfterTheOther : List (Turn Call (ScanReply SessionKey) Event) :=
  [.surroundings (.opens employeeReference ⟨"access", "first"⟩), .start refreshFirst, stepOf 0, stepOf 0,
    stepOf 0, stepOf 0, stepOf 0, .start changeCurrent, stepOf 1, stepOf 1, stepOf 1,
    scanOf 1 [.grace (employeeRow.reference, "first"), .refresh (employeeRow.reference, "second")],
    stepOf 1]

/-- The refresh deletes its key before the iteration of the change begins, and issues the new
    token after the change is complete. -/
def oneBesideTheOther : List (Turn Call (ScanReply SessionKey) Event) :=
  [.surroundings (.opens employeeReference ⟨"access", "first"⟩), .start refreshFirst, stepOf 0, stepOf 0,
    .start changeCurrent, stepOf 1, stepOf 1, stepOf 1, scanOf 1 [], stepOf 1, stepOf 0, stepOf 0, stepOf 0]

end Sample

theorem revocation_final_sample : ∃ p : Pool SessionStore Thread,
    p.shared.derived = [(0, (Sample.employeeReference.value, "first")),
      (0, (Sample.employeeReference.value, "second"))] ∧ RevokedForGood Sample.sessionEnv p 0 := by
  have hexec : (((calls Sample.sessionEnv).execGuarded (Undisturbed Sample.sessionEnv)
      Sample.oneAfterTheOther (Pool.idle (SessionStore.start Sample.withPassword))).any (fun p =>
        p.shared.derived = [(0, (Sample.employeeReference.value, "first")),
          (0, (Sample.employeeReference.value, "second"))] ∧ 0 ∈ p.shared.revoked)) = true := by
    decide +kernel
  obtain ⟨p, hp, hfacts⟩ := (Option.any_eq_true _ _).1 hexec
  obtain ⟨hderived, hrevoked⟩ := of_decide_eq_true hfacts
  exact ⟨p, hderived, revocation_final (Concurrent.reaches_of_execGuarded hp) hrevoked⟩

/-- The new token of the refresh is exchanged although its session was revoked. -/
theorem refresh_outlives_revocation : ¬ ∀ (env : AuthEnv) (s : AuthState)
    (p : Pool SessionStore Thread) (i : Nat), Reaches (calls env).Step (Pool.idle (SessionStore.start s)) p →
      i ∈ p.shared.revoked → RevokedForGood env p i := by
  intro hfinal
  have hexec : (((calls Sample.sessionEnv).execGuarded (fun _ _ => True) Sample.oneBesideTheOther
      (Pool.idle (SessionStore.start Sample.withPassword))).any (fun p =>
        (0, (Sample.employeeReference.value, "second")) ∈ p.shared.derived ∧ 0 ∈ p.shared.revoked ∧
          (refresh Sample.sessionEnv Expentra.Sample.authInstant "second" ⟨"access", "third"⟩
            p.shared.state).1.isOk = true)) = true := by
    decide +kernel
  obtain ⟨p, hp, hfacts⟩ := (Option.any_eq_true _ _).1 hexec
  obtain ⟨hderived, hrevoked, hok⟩ := of_decide_eq_true hfacts
  have hrefused := (hfinal _ _ p 0 (Concurrent.reaches_of_execGuarded hp).of_guarded hrevoked).refused
    Expentra.Sample.authInstant "second" ⟨"access", "third"⟩ _ rfl hderived
  rw [hrefused] at hok
  cases hok

end Sessions

end Expentra
