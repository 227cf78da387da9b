-- SUMMARY: Single sign-on: from the profile of the provider to an account, and the two one-time credentials of the flow.
import Expentra.Identity.Auth

/-!
# Single sign-on

A callback takes the state it was started with, obtains the profile of the user from the
provider and resolves it to an account: by the subject, else by the email, else by a new
account. The browser then exchanges a code for the tokens. The answer of the provider is
an argument.
-/

namespace Expentra

open Library

/-- The profile of the provider. -/
structure OidcUserInfo where
  sub : Option String
  email : Option String
  email_verified : Option Bool
  given_name : Option String
  family_name : Option String
  name : Option String
  preferred_username : Option String
  picture : Option String
deriving DecidableEq, Repr

namespace AuthService

def SSO_AUTH_PROVIDER : String := "oidc"

/-! ## Reading the profile -/

/-- The subject, trimmed. -/
def extractSubject (profile : OidcUserInfo) : Except HttpException String :=
  let externalId := Js.trim (profile.sub.getD "")
  if externalId = "" then .error (.unauthorized "SSO provider did not return a subject")
  else .ok externalId

/-- The email, or else the preferred user name. -/
def extractSsoEmail (env : AuthEnv) (profile : OidcUserInfo) : Except HttpException String :=
  let raw := env.toLowerCase (Js.trim ((profile.email.or profile.preferred_username).getD ""))
  if raw = "" || !raw.toList.contains '@' then
    .error (.unauthorized "SSO provider did not return a verified email address")
  else .ok raw

def extractSsoAvatarUrl (env : AuthEnv) (profile : OidcUserInfo) : Option String :=
  let raw := Js.trim (profile.picture.getD "")
  if raw = "" || 2048 < Js.length raw then none
  else match env.parseUrl raw with
    | some (protocol, text) => if protocol ≠ "https:" && protocol ≠ "http:" then none else some text
    | none => none

/-- `split(/\s+/).filter(Boolean)` -/
def words (text : String) : List String :=
  ((text.toList.splitOnP Js.isWhitespace).filter (· ≠ [])).map String.ofList

def extractSsoNames (profile : OidcUserInfo) : Option String × Option String :=
  if (profile.given_name.getD "") ≠ "" || (profile.family_name.getD "") ≠ "" then
    (Js.trimmedOrUndefined profile.given_name, Js.trimmedOrUndefined profile.family_name)
  else match words (Js.trim (profile.name.getD "")) with
    | [] => (none, none)
    | [only] => (some only, none)
    | first :: rest => (some first, some (" ".intercalate rest))

def assertAllowedEmailDomain (env : AuthEnv) (email : String) : Except HttpException Unit :=
  let domains := ((env.SSO_ALLOWED_EMAIL_DOMAINS.splitOn ",").map
    (fun part => env.toLowerCase (Js.trim part))).filter (· ≠ "")
  if domains = [] then .ok ()
  else match (((email.splitOn "@")[1]?).map env.toLowerCase).filter (fun d => d ≠ "" && d ∈ domains) with
    | some _ => .ok ()
    | none => .error (.forbidden "Your email domain is not allowed to sign in with SSO")

/-! ## From the profile to an account -/

/-- The account that is bound to the subject. -/
def resolveBound (row : UserRow) (avatarUrl : Option String) : AuthCall UserEntity := do
  Process.query (fun _ : AuthState => assertActiveAccount row)
  Process.atomically (UserService.syncSsoProfile row.id avatarUrl)
  Process.query (fun s : AuthState => UserService.findOne s.directory row.id)

/-- The account with the email, which is bound to the subject. -/
def linkByEmail (now : Instant) (row : UserRow) (externalId : String) (avatarUrl : Option String) :
    AuthCall UserEntity := do
  Process.query (fun _ : AuthState => assertActiveAccount row)
  Process.atomically (UserService.linkSsoIdentity row.id SSO_AUTH_PROVIDER externalId avatarUrl)
  verifyUnlessVerified now row.toEntity
  Process.query (fun s : AuthState => UserService.findOne s.directory row.id)

/-- A new account, where the configuration allows that. -/
def provision (env : AuthEnv) (now : Instant) (drawn : NewUser) (profile : OidcUserInfo)
    (email externalId : String) (avatarUrl : Option String) : AuthCall UserEntity := do
  Process.require (env.SSO_AUTO_PROVISION = true) (.forbidden
    "No Expentra account exists for this email. Contact an administrator.")
  let row ← Process.atomically (UserService.createSsoUser env now drawn email SSO_AUTH_PROVIDER
    externalId (extractSsoNames profile).1 (extractSsoNames profile).2 avatarUrl)
  pure row.toEntity

/-- The account of an email that no account is bound by. -/
def resolveByEmail (env : AuthEnv) (now : Instant) (drawn : NewUser) (profile : OidcUserInfo)
    (email externalId : String) (avatarUrl : Option String) : AuthCall UserEntity := do
  let existingByEmail ← Process.read (fun s : AuthState =>
    UserService.findByEmail env s.directory email)
  match existingByEmail with
  | some row => linkByEmail now row externalId avatarUrl
  | none => provision env now drawn profile email externalId avatarUrl

def resolveSsoUser (env : AuthEnv) (now : Instant) (drawn : NewUser) (profile : OidcUserInfo) :
    AuthCall UserEntity := do
  let externalId ← Process.query (fun _ : AuthState => extractSubject profile)
  let email ← Process.query (fun _ : AuthState => extractSsoEmail env profile)
  Process.query (fun _ : AuthState => assertAllowedEmailDomain env email)
  let avatarUrl := extractSsoAvatarUrl env profile
  let existingByExternal ← Process.read (fun s : AuthState =>
    UserService.findByExternalIdentity s.directory SSO_AUTH_PROVIDER externalId)
  match existingByExternal with
  | some row => resolveBound row avatarUrl
  | none => resolveByEmail env now drawn profile email externalId avatarUrl

/-! ## The flow -/

def assertSsoEnabled (env : AuthEnv) : Except HttpException Unit :=
  if env.SSO_ENABLED then .ok () else .error (.serviceUnavailable "SSO is not enabled")

/-- `beginSsoLogin`, with the state and the code verifier that were drawn. -/
def beginSsoLogin (env : AuthEnv) (state codeVerifier : String) : AuthCall Unit := do
  Process.query (fun _ : AuthState => assertSsoEnabled env)
  Process.write (fun s => { s with ssoStates := s.ssoStates.setCache state codeVerifier })

structure SsoCallback where
  code : Option String
  state : Option String
  error : Option String
  errorDescription : Option String

/-- The state of a callback that may go on. -/
def checkCallback (env : AuthEnv) (params : SsoCallback) : Except HttpException String := do
  assertSsoEnabled env
  match params.error.filter (· ≠ "") with
  | some error => .error (.unauthorized
      ("SSO sign-in was denied: " ++ (params.errorDescription.filter (· ≠ "")).getD error))
  | none =>
    if Js.trim (params.code.getD "") = "" || Js.trim (params.state.getD "") = "" then
      .error (.unauthorized "SSO callback is missing code or state")
    else .ok (Js.trim (params.state.getD ""))

/-- What a callback draws, and the answer of the provider to its code. -/
structure SsoDraws where
  user : NewUser
  tokens : TokenPair
  exchangeCode : String
  profile : Except HttpException OidcUserInfo

/-- The state is read and then deleted. -/
def takeSsoState (state : String) : AuthCall String := do
  let stored ← Process.read (fun s : AuthState => s.ssoStates state)
  Process.write (fun s => { s with ssoStates := s.ssoStates.del state })
  Process.getOrThrow (stored.filter (· ≠ "")) (.unauthorized "SSO session expired. Try again.")

/-- The tokens of a resolved account, left under an exchange code. -/
def openSsoSession (env : AuthEnv) (user : UserEntity) (tokens : TokenPair) (exchangeCode : String) :
    AuthCall Unit := do
  let tokens ← issueTokens env user.reference tokens
  Process.require (tokens.refreshToken ≠ "") (.badRequest "Failed to issue SSO session")
  let payload : SsoExchangePayload := ⟨tokens.accessToken, tokens.refreshToken, user.reference⟩
  Process.write (fun s => { s with
    ssoExchanges := s.ssoExchanges.setCache exchangeCode payload })

def completeSsoCallback (env : AuthEnv) (now : Instant) (params : SsoCallback) (drawn : SsoDraws) :
    AuthCall Unit := do
  let state ← Process.query (fun _ : AuthState => checkCallback env params)
  let _ ← takeSsoState state
  let profile ← Process.query (fun _ : AuthState => drawn.profile)
  let user ← resolveSsoUser env now drawn.user profile
  openSsoSession env user drawn.tokens drawn.exchangeCode

/-- The code of an exchange that may go on. -/
def checkExchange (env : AuthEnv) (exchangeCode : String) : Except HttpException String := do
  assertSsoEnabled env
  if Js.trim exchangeCode = "" then .error (.unauthorized "SSO exchange code is missing")
  else .ok (Js.trim exchangeCode)

/-- The payload is read and then deleted. -/
def takeSsoExchange (code : String) : AuthCall SsoExchangePayload := do
  let stored ← Process.read (fun s : AuthState => s.ssoExchanges code)
  Process.write (fun s => { s with ssoExchanges := s.ssoExchanges.del code })
  Process.getOrThrow (stored.filter (fun payload => payload.accessToken ≠ "" &&
      payload.refreshToken ≠ "" && payload.userReference ≠ ""))
    (.unauthorized "SSO exchange code is invalid or expired")

/-- The account of a payload, if it may sign in. -/
def findExchangeUser (d : Directory) (payload : SsoExchangePayload) : Except HttpException UserEntity := do
  let user ← UserService.findOneByReference d payload.userReference
  if !user.isActive || user.deactivatedAt.toOption.isSome then .error JwtStrategy.suspended
  else .ok user

def exchangeSsoCode (env : AuthEnv) (exchangeCode : String) (tokens : TokenPair) :
    AuthCall TokenPair := do
  let code ← Process.query (fun _ : AuthState => checkExchange env exchangeCode)
  let payload ← takeSsoExchange code
  let user ← Process.query (fun s : AuthState => findExchangeUser s.directory payload)
  Process.write (fun s => { s with
    refreshKeys := s.refreshKeys.del (user.reference, env.hashToken payload.refreshToken) })
  issueTokens env user.reference tokens

end AuthService

end Expentra
