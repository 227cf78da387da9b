-- SUMMARY: Requests that present one credential at once, step by step: when at most one of them succeeds.
import Expentra.Identity.AuthOperations
import Expentra.Library.Taking

/-!
# One-time credentials

`confirmPasswordReset`, `completeSsoCallback` and `exchangeSsoCode` read the key of a
credential by one command and delete it by the next. The steps below are those of the
calls: one command of the store, or one statement of the database or function of it.
-/

namespace Expentra.OneTime

open Library AuthService

/-! ## Credentials -/

inductive Credential where
  | resetCode (tokenHash : String)
  | ssoState (state : String)
  | ssoExchange (code : String)
deriving DecidableEq, Repr

/-- The key of a credential exists. -/
def Credential.Stored (s : AuthState) : Credential → Prop
  | resetCode tokenHash => (s.passwordResets.byHash tokenHash).isSome = true
  | ssoState state => (s.ssoStates state).isSome = true
  | ssoExchange code => (s.ssoExchanges code).isSome = true

instance (s : AuthState) (credential : Credential) : Decidable (credential.Stored s) := by
  cases credential <;> unfold Credential.Stored <;> infer_instance

/-! ## The calls -/

inductive Request where
  | confirmPasswordReset (token passwordHash : String)
  | completeSsoCallback (now : Instant) (params : SsoCallback) (drawn : SsoDraws)
  | exchangeSsoCode (exchangeCode : String) (tokens : TokenPair)

def Request.presents (env : AuthEnv) : Request → Credential
  | confirmPasswordReset token _ => .resetCode (env.hashToken (Js.trim token))
  | completeSsoCallback _ params _ => .ssoState (Js.trim (params.state.getD ""))
  | exchangeSsoCode exchangeCode _ => .ssoExchange (Js.trim exchangeCode)

inductive Resetting where
  | reading
  | deleting (id : Nat)
  | clearing (id : Nat)
  | finding (id : Nat)
  | updating (user : UserEntity)
  | revoking (user : UserEntity)
  | succeeded
  | failed (exception : HttpException)
deriving DecidableEq

inductive CallingBack where
  | reading
  | deleting (stored : Option String)
  | asking
  | resolving (profile : OidcUserInfo)
  | issuing (user : UserEntity)
  | leaving (user : UserEntity) (tokens : TokenPair)
  | succeeded
  | failed (exception : HttpException)
deriving DecidableEq

inductive Exchanging where
  | reading
  | deleting (stored : Option SsoExchangePayload)
  | finding (payload : SsoExchangePayload)
  | dropping (user : UserEntity) (payload : SsoExchangePayload)
  | issuing (user : UserEntity)
  | succeeded
  | failed (exception : HttpException)
deriving DecidableEq

/-- The outcome of a check, which changes nothing. -/
def check {α β : Type} (s : AuthState) (result : Except HttpException α) (next : α → β)
    (failed : HttpException → β) : AuthState × β :=
  match result with
  | .ok a => (s, next a)
  | .error exception => (s, failed exception)

/-- The outcome of a part of the call that was run. -/
def outcome {α β : Type} (result : Except HttpException α × AuthState) (next : α → β)
    (failed : HttpException → β) : AuthState × β :=
  match result with
  | (.ok a, s) => (s, next a)
  | (.error exception, s) => (s, failed exception)

def resetStep (env : AuthEnv) (token passwordHash : String) (s : AuthState) :
    Resetting → Option (AuthState × Resetting)
  | .reading => some (check s (findReset env token s) .deleting .failed)
  | .deleting id =>
    some ({ s with passwordResets := { s.passwordResets with
      byHash := s.passwordResets.byHash.del (env.hashToken (Js.trim token)) } }, .clearing id)
  | .clearing id =>
    some ({ s with passwordResets := { s.passwordResets with
      byUser := s.passwordResets.byUser.del id } }, .finding id)
  | .finding id => some (check s (UserService.findOne s.directory id) .updating .failed)
  | .updating user =>
    some (outcome (Process.atomically (UserService.updatePasswordHash user.id passwordHash) s)
      (fun _ => .revoking user) .failed)
  | .revoking user => some ((UserService.revokeSessions user.reference).commit s, .succeeded)
  | .succeeded | .failed _ => none

/-- What was read is deleted, and checked. -/
def removeSsoState (state : String) (stored : Option String) : AuthCall String := do
  Process.write (fun s => { s with ssoStates := s.ssoStates.del state })
  Process.getOrThrow (stored.filter (· ≠ "")) (.unauthorized "SSO session expired. Try again.")

def leaveSsoExchange (user : UserEntity) (tokens : TokenPair) (exchangeCode : String) :
    AuthCall Unit := do
  Process.require (tokens.refreshToken ≠ "") (.badRequest "Failed to issue SSO session")
  Process.write (fun s => { s with
    ssoExchanges := s.ssoExchanges.setCache exchangeCode
      ⟨tokens.accessToken, tokens.refreshToken, user.reference⟩ })

def callbackStep (env : AuthEnv) (now : Instant) (params : SsoCallback) (drawn : SsoDraws)
    (s : AuthState) : CallingBack → Option (AuthState × CallingBack)
  | .reading =>
    some (check s (checkCallback env params) (fun state => .deleting (s.ssoStates state)) .failed)
  | .deleting stored =>
    some (outcome (removeSsoState (Js.trim (params.state.getD "")) stored s) (fun _ => .asking) .failed)
  | .asking => some (check s drawn.profile .resolving .failed)
  | .resolving profile =>
    some (outcome (resolveSsoUser env now drawn.user profile s) .issuing .failed)
  | .issuing user =>
    some (outcome (issueTokens env user.reference drawn.tokens s) (.leaving user) .failed)
  | .leaving user tokens =>
    some (outcome (leaveSsoExchange user tokens drawn.exchangeCode s) (fun _ => .succeeded) .failed)
  | .succeeded | .failed _ => none

/-- What was read is deleted, and checked. -/
def removeSsoExchange (code : String) (stored : Option SsoExchangePayload) :
    AuthCall SsoExchangePayload := do
  Process.write (fun s => { s with ssoExchanges := s.ssoExchanges.del code })
  Process.getOrThrow (stored.filter (fun payload => payload.accessToken ≠ "" &&
      payload.refreshToken ≠ "" && payload.userReference ≠ ""))
    (.unauthorized "SSO exchange code is invalid or expired")

def exchangeStep (env : AuthEnv) (exchangeCode : String) (tokens : TokenPair) (s : AuthState) :
    Exchanging → Option (AuthState × Exchanging)
  | .reading => some (check s (checkExchange env exchangeCode)
      (fun code => .deleting (s.ssoExchanges code)) .failed)
  | .deleting stored =>
    some (outcome (removeSsoExchange (Js.trim exchangeCode) stored s) .finding .failed)
  | .finding payload =>
    some (check s (findExchangeUser s.directory payload) (fun user => .dropping user payload) .failed)
  | .dropping user payload =>
    some ({ s with
      refreshKeys := s.refreshKeys.del (user.reference, env.hashToken payload.refreshToken) },
      .issuing user)
  | .issuing user =>
    some (outcome (issueTokens env user.reference tokens s) (fun _ => .succeeded) .failed)
  | .succeeded | .failed _ => none

/-! ## The system -/

/-- Where a call is. -/
def Request.Phase : Request → Type
  | confirmPasswordReset .. => Resetting
  | completeSsoCallback .. => CallingBack
  | exchangeSsoCode .. => Exchanging

def Request.first : (request : Request) → request.Phase
  | confirmPasswordReset .. => Resetting.reading
  | completeSsoCallback .. => CallingBack.reading
  | exchangeSsoCode .. => Exchanging.reading

def Request.step (env : AuthEnv) (s : AuthState) :
    (request : Request) → request.Phase → Option (AuthState × request.Phase)
  | confirmPasswordReset token passwordHash => resetStep env token passwordHash s
  | completeSsoCallback now params drawn => callbackStep env now params drawn s
  | exchangeSsoCode exchangeCode tokens => exchangeStep env exchangeCode tokens s

/-- A request that presents the credential. -/
abbrev Presenting (env : AuthEnv) (credential : Credential) :=
  { request : Request // request.presents env = credential }

structure Thread (env : AuthEnv) (credential : Credential) where
  request : Presenting env credential
  phase : request.1.Phase

/-- Any number of requests that present the credential. All that goes on beside them may
    change the state in any way, but does not issue the credential again. -/
def requests (env : AuthEnv) (credential : Credential) :
    Concurrent AuthState (Thread env credential) (Presenting env credential) Unit AuthState where
  start s request := some (s, ⟨request, request.1.first⟩)
  step _ s thread _ :=
    (thread.request.1.step env s thread.phase).map (fun r => (r.1, ⟨thread.request, r.2⟩))
  surroundings s s' := if credential.Stored s' → credential.Stored s then some s' else none

def Request.Succeeded : (request : Request) → request.Phase → Prop
  | confirmPasswordReset .. => fun phase => phase = Resetting.succeeded
  | completeSsoCallback .. => fun phase => phase = CallingBack.succeeded
  | exchangeSsoCode .. => fun phase => phase = Exchanging.succeeded

instance (request : Request) (phase : request.Phase) : Decidable (request.Succeeded phase) := by
  cases request
  · exact instDecidableEqResetting phase .succeeded
  · exact instDecidableEqCallingBack phase .succeeded
  · exact instDecidableEqExchanging phase .succeeded

/-! ## A request alone -/

/-- Up to some number of steps of one request, with nothing in between. -/
def Request.alone (env : AuthEnv) (request : Request) :
    Nat → AuthState → request.Phase → AuthState × request.Phase
  | 0, s, phase => (s, phase)
  | n + 1, s, phase =>
    match request.step env s phase with
    | some (s', phase') => alone env request n s' phase'
    | none => (s, phase)

/-- What a call that ended returns or throws. -/
def Request.result : (request : Request) → request.Phase → Except HttpException Unit
  | confirmPasswordReset .. => fun
    | Resetting.failed exception => .error exception
    | _ => .ok ()
  | completeSsoCallback .. => fun
    | CallingBack.failed exception => .error exception
    | _ => .ok ()
  | exchangeSsoCode .. => fun
    | Exchanging.failed exception => .error exception
    | _ => .ok ()

/-- The call of the service. -/
def Request.call (env : AuthEnv) : Request → AuthCall Unit
  | confirmPasswordReset token passwordHash => AuthService.confirmPasswordReset env token passwordHash
  | completeSsoCallback now params drawn => AuthService.completeSsoCallback env now params drawn
  | exchangeSsoCode exchangeCode tokens => do
    let _ ← AuthService.exchangeSsoCode env exchangeCode tokens
    pure ()

/-! ## Reading and deleting the key -/

def Resetting.stage : Resetting → Stage
  | .reading => .waiting
  | .deleting _ => .holding
  | .failed _ => .ended
  | _ => .taken

def CallingBack.stage : CallingBack → Stage
  | .reading => .waiting
  | .deleting (some _) => .holding
  | .deleting none | .failed _ => .ended
  | _ => .taken

def Exchanging.stage : Exchanging → Stage
  | .reading => .waiting
  | .deleting (some _) => .holding
  | .deleting none | .failed _ => .ended
  | _ => .taken

def Request.stage : (request : Request) → request.Phase → Stage
  | confirmPasswordReset .. => Resetting.stage
  | completeSsoCallback .. => CallingBack.stage
  | exchangeSsoCode .. => Exchanging.stage

def Thread.stage {env : AuthEnv} {credential : Credential} (thread : Thread env credential) : Stage :=
  thread.request.1.stage thread.phase

/-- The checks of a request before it reads the key. -/
def Request.Accepted (env : AuthEnv) : Request → Prop
  | confirmPasswordReset token _ => Js.trim token ≠ ""
  | completeSsoCallback _ params _ => (checkCallback env params).isOk = true
  | exchangeSsoCode exchangeCode _ => (checkExchange env exchangeCode).isOk = true

instance (env : AuthEnv) (request : Request) : Decidable (request.Accepted env) := by
  cases request <;> unfold Request.Accepted <;> infer_instance

/-- A request that reads now finds the key. -/
def Finds {env : AuthEnv} {credential : Credential} (s : AuthState) (thread : Thread env credential) :
    Prop :=
  thread.request.1.Accepted env ∧ credential.Stored s

instance {env : AuthEnv} {credential : Credential} (s : AuthState)
    (thread : Thread env credential) : Decidable (Finds s thread) :=
  inferInstanceAs (Decidable (_ ∧ _))

section Steps

variable {env : AuthEnv} {s s' : AuthState}

theorem checkCallback_ok {params : SsoCallback} {state : String}
    (h : checkCallback env params = .ok state) : state = Js.trim (params.state.getD "") := by
  obtain ⟨_, -, h⟩ := Except.bind_eq_ok.1 h
  split at h
  · cases h
  · split at h
    · cases h
    · cases h
      rfl

theorem checkExchange_ok {exchangeCode code : String} (h : checkExchange env exchangeCode = .ok code) :
    code = Js.trim exchangeCode := by
  obtain ⟨_, -, h⟩ := Except.bind_eq_ok.1 h
  split at h
  · cases h
  · cases h
    rfl

theorem check_cases {α β : Type} {result : Except HttpException α} {next : α → β}
    {failed : HttpException → β} {b : β} (h : check s result next failed = (s', b)) :
    s' = s ∧ ((∃ a, result = .ok a ∧ b = next a) ∨ ∃ exception, b = failed exception) := by
  cases result with
  | ok a =>
    cases h
    exact ⟨rfl, .inl ⟨a, rfl, rfl⟩⟩
  | error exception =>
    cases h
    exact ⟨rfl, .inr ⟨exception, rfl⟩⟩

theorem outcome_cases {α β : Type} {result : Except HttpException α × AuthState} {next : α → β}
    {failed : HttpException → β} {b : β} (h : outcome result next failed = (s', b)) :
    s' = result.2 ∧ ((∃ a, b = next a) ∨ ∃ exception, b = failed exception) := by
  obtain ⟨result, s₁⟩ := result
  cases result with
  | ok a =>
    cases h
    exact ⟨rfl, .inl ⟨a, rfl⟩⟩
  | error exception =>
    cases h
    exact ⟨rfl, .inr ⟨exception, rfl⟩⟩

theorem removeSsoState_state {state : String} {stored : Option String} :
    (removeSsoState state stored s).2 = { s with ssoStates := s.ssoStates.del state } := by
  cases hstored : stored.filter (· ≠ "") with
  | none =>
    rw [removeSsoState, hstored]
    rfl
  | some verifier =>
    rw [removeSsoState, hstored]
    rfl

theorem removeSsoExchange_state {code : String} {stored : Option SsoExchangePayload} :
    (removeSsoExchange code stored s).2 = { s with ssoExchanges := s.ssoExchanges.del code } := by
  cases hstored : stored.filter (fun payload => payload.accessToken ≠ "" &&
      payload.refreshToken ≠ "" && payload.userReference ≠ "") with
  | none =>
    rw [removeSsoExchange, hstored]
    rfl
  | some payload =>
    rw [removeSsoExchange, hstored]
    rfl

theorem resetStep_moves {token passwordHash : String} {phase phase' : Resetting}
    (h : resetStep env token passwordHash s phase = some (s', phase')) :
    phase.stage.Moves (Js.trim token ≠ "" ∧ (Request.presents env
        (.confirmPasswordReset token passwordHash)).Stored s)
      ((Request.presents env (.confirmPasswordReset token passwordHash)).Stored s)
      ((Request.presents env (.confirmPasswordReset token passwordHash)).Stored s') phase'.stage := by
  cases phase with
  | reading =>
    obtain ⟨rfl, ⟨id, hid, rfl⟩ | ⟨exception, rfl⟩⟩ := check_cases (Option.some.inj h)
    · obtain ⟨hne, hfound⟩ := findCode_ok hid
      have hstored : (Request.presents env (.confirmPasswordReset token passwordHash)).Stored s' := by
        rw [Request.presents, Credential.Stored]
        exact Option.isSome_of_mem hfound
      exact ⟨fun h => h, .inr (.inr ⟨rfl, ⟨hne, hstored⟩, hstored⟩)⟩
    · exact ⟨fun h => h, .inr (.inl rfl)⟩
  | deleting id =>
    cases h
    refine ⟨?_, .inl rfl⟩
    simp [Request.presents, Credential.Stored]
  | clearing id =>
    cases h
    exact ⟨fun h => h, .inl rfl⟩
  | finding id =>
    obtain ⟨rfl, ⟨user, -, rfl⟩ | ⟨exception, rfl⟩⟩ := check_cases (Option.some.inj h)
    · exact ⟨fun h => h, .inl rfl⟩
    · exact ⟨fun h => h, .inr rfl⟩
  | updating user =>
    have hkept : (Process.atomically (UserService.updatePasswordHash user.id passwordHash) s).2.passwordResets =
        s.passwordResets := by
      refine Process.Triple.final (Process.Keeps.atomically (P := fun t : AuthState =>
        t.passwordResets = s.passwordResets) (fun t _ t' ht hrun => ?_)) rfl
      obtain ⟨row, -, rfl⟩ := UserService.updatePasswordHash_ok hrun
      exact ht
    obtain ⟨rfl, ⟨_, rfl⟩ | ⟨exception, rfl⟩⟩ := outcome_cases (Option.some.inj h)
    · exact ⟨fun h => by rwa [Request.presents, Credential.Stored, hkept] at h, .inl rfl⟩
    · exact ⟨fun h => by rwa [Request.presents, Credential.Stored, hkept] at h, .inr rfl⟩
  | revoking user =>
    cases h
    exact ⟨fun h => h, .inl rfl⟩
  | succeeded => cases h
  | failed exception => cases h

theorem callbackStep_moves {now : Instant} {params : SsoCallback} {drawn : SsoDraws}
    {phase phase' : CallingBack} (h : callbackStep env now params drawn s phase = some (s', phase')) :
    phase.stage.Moves ((checkCallback env params).isOk = true ∧
        (Request.presents env (.completeSsoCallback now params drawn)).Stored s)
      ((Request.presents env (.completeSsoCallback now params drawn)).Stored s)
      ((Request.presents env (.completeSsoCallback now params drawn)).Stored s') phase'.stage := by
  cases phase with
  | reading =>
    obtain ⟨rfl, ⟨state, hstate, rfl⟩ | ⟨exception, rfl⟩⟩ := check_cases (Option.some.inj h)
    · cases hstored : s'.ssoStates state with
      | none => exact ⟨fun h => h, .inr (.inl rfl)⟩
      | some verifier =>
        have hpresent : (Request.presents env (.completeSsoCallback now params drawn)).Stored s' := by
          rw [Request.presents, Credential.Stored, ← checkCallback_ok hstate, hstored]
          rfl
        exact ⟨fun h => h, .inr (.inr ⟨rfl, ⟨by rw [hstate]; rfl, hpresent⟩, hpresent⟩)⟩
    · exact ⟨fun h => h, .inr (.inl rfl)⟩
  | deleting stored =>
    have hgone : ¬ (Request.presents env (.completeSsoCallback now params drawn)).Stored
        (removeSsoState (Js.trim (params.state.getD "")) stored s).2 := by
      rw [removeSsoState_state]
      simp [Request.presents, Credential.Stored]
    cases stored with
    | none =>
      obtain ⟨rfl, rfl⟩ := Prod.mk.inj (Option.some.inj h)
      exact ⟨fun h => absurd h hgone, rfl⟩
    | some verifier =>
      obtain ⟨rfl, ⟨_, rfl⟩ | ⟨exception, rfl⟩⟩ := outcome_cases (Option.some.inj h)
      · exact ⟨hgone, .inl rfl⟩
      · exact ⟨hgone, .inr rfl⟩
  | asking =>
    obtain ⟨rfl, ⟨profile, -, rfl⟩ | ⟨exception, rfl⟩⟩ := check_cases (Option.some.inj h)
    · exact ⟨fun h => h, .inl rfl⟩
    · exact ⟨fun h => h, .inr rfl⟩
  | resolving profile =>
    have hkept : (resolveSsoUser env now drawn.user profile s).2.ssoStates = s.ssoStates :=
      (keeps_resolveSsoUser (P := fun t => t.ssoStates = s.ssoStates) (fun _ _ _ ht => ht)).final rfl
    obtain ⟨rfl, ⟨user, rfl⟩ | ⟨exception, rfl⟩⟩ := outcome_cases (Option.some.inj h)
    · exact ⟨fun h => by rwa [Request.presents, Credential.Stored, hkept] at h, .inl rfl⟩
    · exact ⟨fun h => by rwa [Request.presents, Credential.Stored, hkept] at h, .inr rfl⟩
  | issuing user =>
    cases h
    exact ⟨fun h => h, .inl rfl⟩
  | leaving user tokens =>
    have hkept : (leaveSsoExchange user tokens drawn.exchangeCode s).2.ssoStates = s.ssoStates := by
      have hkeeps : Process.Keeps (fun t : AuthState => t.ssoStates = s.ssoStates)
          (leaveSsoExchange user tokens drawn.exchangeCode) :=
        .bind .require (fun _ => .write (fun _ ht => ht))
      exact hkeeps.final rfl
    obtain ⟨rfl, ⟨_, rfl⟩ | ⟨exception, rfl⟩⟩ := outcome_cases (Option.some.inj h)
    · exact ⟨fun h => by rwa [Request.presents, Credential.Stored, hkept] at h, .inl rfl⟩
    · exact ⟨fun h => by rwa [Request.presents, Credential.Stored, hkept] at h, .inr rfl⟩
  | succeeded => cases h
  | failed exception => cases h

theorem exchangeStep_moves {exchangeCode : String} {tokens : TokenPair} {phase phase' : Exchanging}
    (h : exchangeStep env exchangeCode tokens s phase = some (s', phase')) :
    phase.stage.Moves ((checkExchange env exchangeCode).isOk = true ∧
        (Request.presents env (.exchangeSsoCode exchangeCode tokens)).Stored s)
      ((Request.presents env (.exchangeSsoCode exchangeCode tokens)).Stored s)
      ((Request.presents env (.exchangeSsoCode exchangeCode tokens)).Stored s') phase'.stage := by
  cases phase with
  | reading =>
    obtain ⟨rfl, ⟨code, hcode, rfl⟩ | ⟨exception, rfl⟩⟩ := check_cases (Option.some.inj h)
    · cases hstored : s'.ssoExchanges code with
      | none => exact ⟨fun h => h, .inr (.inl rfl)⟩
      | some payload =>
        have hpresent : (Request.presents env (.exchangeSsoCode exchangeCode tokens)).Stored s' := by
          rw [Request.presents, Credential.Stored, ← checkExchange_ok hcode, hstored]
          rfl
        exact ⟨fun h => h, .inr (.inr ⟨rfl, ⟨by rw [hcode]; rfl, hpresent⟩, hpresent⟩)⟩
    · exact ⟨fun h => h, .inr (.inl rfl)⟩
  | deleting stored =>
    have hgone : ¬ (Request.presents env (.exchangeSsoCode exchangeCode tokens)).Stored
        (removeSsoExchange (Js.trim exchangeCode) stored s).2 := by
      rw [removeSsoExchange_state]
      simp [Request.presents, Credential.Stored]
    cases stored with
    | none =>
      obtain ⟨rfl, rfl⟩ := Prod.mk.inj (Option.some.inj h)
      exact ⟨fun h => absurd h hgone, rfl⟩
    | some payload =>
      obtain ⟨rfl, ⟨_, rfl⟩ | ⟨exception, rfl⟩⟩ := outcome_cases (Option.some.inj h)
      · exact ⟨hgone, .inl rfl⟩
      · exact ⟨hgone, .inr rfl⟩
  | finding payload =>
    obtain ⟨rfl, ⟨user, -, rfl⟩ | ⟨exception, rfl⟩⟩ := check_cases (Option.some.inj h)
    · exact ⟨fun h => h, .inl rfl⟩
    · exact ⟨fun h => h, .inr rfl⟩
  | dropping user payload =>
    cases h
    exact ⟨fun h => h, .inl rfl⟩
  | issuing user =>
    cases h
    exact ⟨fun h => h, .inl rfl⟩
  | succeeded => cases h
  | failed exception => cases h

/-- The steps from a phase on, with nothing in between, do what a computation does. -/
def Does (env : AuthEnv) (request : Request) (n : Nat) (s : AuthState) (phase : request.Phase)
    (x : AuthCall Unit) : Prop :=
  (request.alone env n s phase).1 = (x s).2 ∧ request.result (request.alone env n s phase).2 = (x s).1

section Does

variable {request : Request} {phase phase' : request.Phase} {n : Nat} {α : Type}
  {x : AuthCall α} {f : α → AuthCall Unit} {next : α → request.Phase}
  {failed : HttpException → request.Phase}

theorem alone_next (h : request.step env s phase = some (s', phase')) :
    request.alone env (n + 1) s phase = request.alone env n s' phase' := by
  rw [Request.alone, h]

theorem alone_ended (h : request.step env s phase = none) :
    request.alone env n s phase = (s, phase) := by
  cases n with
  | zero => rfl
  | succ n => rw [Request.alone, h]

theorem Does.ended {result : Except HttpException Unit} {x : AuthCall Unit}
    (hstep : request.step env s phase = none) (hresult : request.result phase = result)
    (hx : x s = (result, s)) : Does env request n s phase x := by
  rw [Does, alone_ended hstep, hx]
  exact ⟨rfl, hresult⟩

/-- A step that is a part of the call. -/
theorem Does.bind (hstep : request.step env s phase = some (outcome (x s) next failed))
    (hfailed : ∀ s' exception, request.step env s' (failed exception) = none ∧
      request.result (failed exception) = .error exception)
    (h : ∀ a s', x s = (.ok a, s') → Does env request n s' (next a) (f a)) :
    Does env request (n + 1) s phase (x >>= f) := by
  rcases hx : x s with ⟨exception | a, s'⟩
  · rw [hx] at hstep
    rw [Does, alone_next hstep, Process.bind_of_error hx]
    exact Does.ended (x := fun _ => (.error exception, s')) (hfailed s' exception).1
      (hfailed s' exception).2 rfl
  · rw [hx] at hstep
    rw [Does, alone_next hstep, Process.bind_of_ok hx]
    exact h a s' hx

/-- The last step of a call. -/
theorem Does.last {x : AuthCall Unit} {next : Unit → request.Phase}
    (hstep : request.step env s phase = some (outcome (x s) next failed))
    (hfailed : ∀ s' exception, request.step env s' (failed exception) = none ∧
      request.result (failed exception) = .error exception)
    (hnext : ∀ s', request.step env s' (next ()) = none ∧ request.result (next ()) = .ok ()) :
    Does env request (n + 1) s phase x := by
  rcases hx : x s with ⟨exception | _, s'⟩
  · rw [hx] at hstep
    rw [Does, alone_next hstep, hx]
    exact Does.ended (x := fun _ => (.error exception, s')) (hfailed s' exception).1
      (hfailed s' exception).2 rfl
  · rw [hx] at hstep
    rw [Does, alone_next hstep, hx]
    exact Does.ended (x := fun _ => (.ok (), s')) (hnext s').1 (hnext s').2 rfl

/-- A step that is a check. -/
theorem Does.query {g : AuthState → Except HttpException α}
    (hstep : request.step env s phase = some (check s (g s) next failed))
    (hfailed : ∀ s' exception, request.step env s' (failed exception) = none ∧
      request.result (failed exception) = .error exception)
    (h : ∀ a, g s = .ok a → Does env request n s (next a) (f a)) :
    Does env request (n + 1) s phase (Process.query g >>= f) := by
  have hcheck : request.step env s phase = some (outcome (Process.query g s) next failed) := by
    rw [hstep]
    unfold check outcome Process.query
    cases g s <;> rfl
  refine Does.bind hcheck hfailed (fun a s' hx => ?_)
  obtain ⟨hok, rfl⟩ := Prod.mk.inj hx
  exact h a hok

/-- A value that was read by the step before. -/
theorem Does.read {g : AuthState → α} (h : Does env request n s phase (f (g s))) :
    Does env request n s phase (Process.read g >>= f) := h

/-- A step that is a change of the state. -/
theorem Does.write {g : AuthState → AuthState} {f : Unit → AuthCall Unit}
    (hstep : request.step env s phase = some (g s, phase'))
    (h : Does env request n (g s) phase' (f ())) :
    Does env request (n + 1) s phase (Process.write g >>= f) := by
  rw [Does, alone_next hstep]
  exact h

end Does

theorem confirmPasswordReset_does {token passwordHash : String} :
    Does env (.confirmPasswordReset token passwordHash) 7 s Resetting.reading
      (AuthService.confirmPasswordReset env token passwordHash) := by
  have hfailed : ∀ s' exception, Request.step env s' (.confirmPasswordReset token passwordHash)
      (Resetting.failed exception) = none ∧ Request.result (.confirmPasswordReset token passwordHash)
        (Resetting.failed exception) = .error exception := fun _ _ => ⟨rfl, rfl⟩
  refine .query rfl hfailed (fun id _ => ?_)
  rw [deleteReset, Process.bind_assoc]
  refine .write rfl (.write rfl (.query rfl hfailed (fun user _ => .bind rfl hfailed
    (fun _ s₁ _ => ?_))))
  exact ⟨rfl, rfl⟩

theorem completeSsoCallback_does {now : Instant} {params : SsoCallback} {drawn : SsoDraws} :
    Does env (.completeSsoCallback now params drawn) 7 s CallingBack.reading
      (AuthService.completeSsoCallback env now params drawn) := by
  have hfailed : ∀ s' exception, Request.step env s' (.completeSsoCallback now params drawn)
      (CallingBack.failed exception) = none ∧ Request.result (.completeSsoCallback now params drawn)
        (CallingBack.failed exception) = .error exception := fun _ _ => ⟨rfl, rfl⟩
  refine .query rfl hfailed (fun state hstate => ?_)
  cases checkCallback_ok hstate
  rw [takeSsoState, Process.bind_assoc]
  refine .read (.bind (x := removeSsoState _ _) rfl hfailed (fun _ s₁ _ => .query rfl hfailed
    (fun profile _ => .bind rfl hfailed (fun user s₂ _ => ?_))))
  refine .bind (x := issueTokens env user.reference drawn.tokens) rfl hfailed (fun tokens s₃ _ => ?_)
  exact .last (x := leaveSsoExchange user tokens drawn.exchangeCode) rfl hfailed
    (fun _ => ⟨rfl, rfl⟩)

theorem exchangeSsoCode_does {exchangeCode : String} {tokens : TokenPair} :
    Does env (.exchangeSsoCode exchangeCode tokens) 7 s Exchanging.reading
      (AuthService.exchangeSsoCode env exchangeCode tokens >>= fun _ => pure ()) := by
  have hfailed : ∀ s' exception, Request.step env s' (.exchangeSsoCode exchangeCode tokens)
      (Exchanging.failed exception) = none ∧ Request.result (.exchangeSsoCode exchangeCode tokens)
        (Exchanging.failed exception) = .error exception := fun _ _ => ⟨rfl, rfl⟩
  rw [AuthService.exchangeSsoCode, Process.bind_assoc]
  refine .query rfl hfailed (fun code hcode => ?_)
  cases checkExchange_ok hcode
  rw [takeSsoExchange, Process.bind_assoc, Process.bind_assoc]
  refine .read (.bind (x := removeSsoExchange _ _) rfl hfailed (fun payload s₁ _ => ?_))
  rw [Process.bind_assoc]
  refine .query rfl hfailed (fun user _ => ?_)
  rw [Process.bind_assoc]
  exact .write rfl (.bind rfl hfailed (fun _ s₂ _ => .ended rfl rfl rfl))

/-- The steps of a request, with nothing in between, are the call of the service. -/
theorem Request.alone_eq_call (request : Request) :
    Does env request 7 s request.first (request.call env) := by
  cases request with
  | confirmPasswordReset token passwordHash => exact confirmPasswordReset_does
  | completeSsoCallback now params drawn => exact completeSsoCallback_does
  | exchangeSsoCode exchangeCode tokens => exact exchangeSsoCode_does

end Steps

/-- Each request reads the key by one step, and deletes it by the next. -/
theorem taking (env : AuthEnv) (credential : Credential) :
    Taking (requests env credential) credential.Stored Thread.stage Finds where
  start := by
    intro s request s' t h
    cases h
    obtain ⟨request, rfl⟩ := request
    refine ⟨?_, fun h => h⟩
    cases request <;> rfl
  step := by
    intro i s t _ s' t' h
    obtain ⟨⟨phase, hstep⟩, hmove, heq⟩ := Option.map_eq_some_iff.1 h
    cases heq
    obtain ⟨⟨request, rfl⟩, before⟩ := t
    cases request with
    | confirmPasswordReset token passwordHash => exact resetStep_moves hmove
    | completeSsoCallback now params drawn => exact callbackStep_moves hmove
    | exchangeSsoCode exchangeCode tokens => exact exchangeStep_moves hmove
  surroundings := by
    intro s event s' h
    simp only [requests] at h
    split at h
    · rename_i hkept
      cases h
      exact hkept
    · cases h

theorem Request.stage_of_succeeded {request : Request} {phase : request.Phase}
    (h : request.Succeeded phase) : request.stage phase = .taken := by
  cases request <;> exact congrArg _ h

/-- At most one request succeeds, if none reads a stored credential after another has read
    it and before that one has deleted it. -/
theorem at_most_one_succeeds {env : AuthEnv} {credential : Credential} {s : AuthState}
    {p : Pool AuthState (Thread env credential)}
    (h : Reaches (Guarded (Taking.FindsAlone Thread.stage Finds) (requests env credential).Step)
      (Pool.idle s) p) {i j : Nat} {t u : Thread env credential} (ht : p.threads[i]? = some t)
    (hu : p.threads[j]? = some u) (hsucceeded : t.request.1.Succeeded t.phase)
    (hsucceeded' : u.request.1.Succeeded u.phase) : i = j :=
  (taking env credential).at_most_one h ht hu (Request.stage_of_succeeded hsucceeded)
    (Request.stage_of_succeeded hsucceeded')

/-! ### One request after the other, and two at once -/

namespace Sample

open Expentra.Sample

/-- A code was sent to the employee. -/
def codeSent : AuthState :=
  (AuthOperation.requestPasswordReset "employee@expentra.test" (drawnCode 7)).run authEnv
    authConfig authState

def credential : Credential := .resetCode "000007"

def reset (passwordHash : String) : Presenting authEnv credential :=
  ⟨.confirmPasswordReset "000007" passwordHash, by
    change Credential.resetCode (Js.trim "000007") = credential
    decide⟩

def stepOf (i : Nat) : Turn (Presenting authEnv credential) Unit AuthState := .step i ()

def oneAfterTheOther : List (Turn (Presenting authEnv credential) Unit AuthState) :=
  [.start (reset "first"), .start (reset "second"), stepOf 0, stepOf 0, stepOf 0, stepOf 1, stepOf 0,
    stepOf 0, stepOf 0]

def twoAtOnce : List (Turn (Presenting authEnv credential) Unit AuthState) :=
  [.start (reset "first"), .start (reset "second"), stepOf 0, stepOf 1, stepOf 0, stepOf 0, stepOf 0,
    stepOf 0, stepOf 0, stepOf 1, stepOf 1, stepOf 1, stepOf 1, stepOf 1]

end Sample

theorem exists_of_map_eq {env : AuthEnv} {credential : Credential}
    {threads : List (Thread env credential)} {flags : List Bool} {i : Nat}
    (h : threads.map (fun t => decide (t.request.1.Succeeded t.phase)) = flags)
    (hi : flags[i]? = some true) : ∃ t, threads[i]? = some t ∧ t.request.1.Succeeded t.phase := by
  rw [← h, List.getElem?_map] at hi
  obtain ⟨t, ht, hsucceeded⟩ := Option.map_eq_some_iff.1 hi
  exact ⟨t, ht, of_decide_eq_true hsucceeded⟩

theorem at_most_one_succeeds_sample : ∃ p : Pool AuthState (Thread Sample.authEnv Sample.credential),
    (∃ (i : Nat) (t : Thread _ _), p.threads[i]? = some t ∧ t.request.1.Succeeded t.phase) ∧
      ∀ (i j : Nat) (t u : Thread _ _), p.threads[i]? = some t → p.threads[j]? = some u →
        t.request.1.Succeeded t.phase → u.request.1.Succeeded u.phase → i = j := by
  have hexec : (((requests Sample.authEnv Sample.credential).execGuarded
      (Taking.FindsAlone Thread.stage Finds) Sample.oneAfterTheOther (Pool.idle Sample.codeSent)).any
        (fun p => p.threads.map (fun t => decide (t.request.1.Succeeded t.phase)) =
          [true, false])) = true := by
    decide +kernel
  obtain ⟨p, hp, hflags⟩ := (Option.any_eq_true _ _).1 hexec
  exact ⟨p, ⟨0, exists_of_map_eq (of_decide_eq_true hflags) rfl⟩, fun i j t u ht hu h h' =>
    at_most_one_succeeds (Concurrent.reaches_of_execGuarded hp) ht hu h h'⟩

/-- Both requests read the code before either deletes it, and both change the password. -/
theorem two_requests_succeed : ∃ (p : Pool AuthState (Thread Sample.authEnv Sample.credential))
    (i j : Nat) (t u : Thread _ _),
    Reaches (requests Sample.authEnv Sample.credential).Step (Pool.idle Sample.codeSent) p ∧
    p.threads[i]? = some t ∧ p.threads[j]? = some u ∧ i ≠ j ∧
    t.request.1.Succeeded t.phase ∧ u.request.1.Succeeded u.phase := by
  have hexec : (((requests Sample.authEnv Sample.credential).execGuarded (fun _ _ => True)
      Sample.twoAtOnce (Pool.idle Sample.codeSent)).any (fun p =>
        p.threads.map (fun t => decide (t.request.1.Succeeded t.phase)) = [true, true])) = true := by
    decide +kernel
  obtain ⟨p, hp, hflags⟩ := (Option.any_eq_true _ _).1 hexec
  obtain ⟨t, ht, hfirst⟩ := exists_of_map_eq (i := 0) (of_decide_eq_true hflags) rfl
  obtain ⟨u, hu, hsecond⟩ := exists_of_map_eq (i := 1) (of_decide_eq_true hflags) rfl
  exact ⟨p, 0, 1, t, u, (Concurrent.reaches_of_execGuarded hp).of_guarded, ht, hu, by decide, hfirst,
    hsecond⟩

end Expentra.OneTime
