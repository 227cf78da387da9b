-- SUMMARY: The auth service: registration, sign-in, single sign-on, one-time codes, and the tokens of a session.
import Expentra.Identity.Tokens
import Expentra.Identity.Users
import Expentra.Library.Process

/-!
# The auth service

What an operation writes before it throws stays written: a code that was deleted is gone
even if the step after it fails. Draws of random values and answers of the identity
provider are arguments.
-/

namespace Expentra

open Library

/-- What the service takes from its configuration, from the language and from packages. -/
structure AuthEnv where
  ALLOW_PUBLIC_REGISTRATION : Bool
  ALLOW_DEV_OPAQUE_TOKEN : Bool
  SSO_ENABLED : Bool
  SSO_AUTO_PROVISION : Bool
  SSO_ALLOWED_EMAIL_DOMAINS : String
  /-- `toLowerCase`, on all of Unicode. -/
  toLowerCase : String → String
  /-- `new URL(raw)`: the protocol and the text, unless it throws. -/
  parseUrl : String → Option (String × String)
  /-- SHA-256 in hexadecimal. -/
  hashToken : String → String
  /-- `bcrypt.compare` -/
  compare : String → String → Bool
  /-- The reference in the payload of a refresh token that verifies at a time. -/
  verifyRefresh : Instant → String → Option String

/-- A computation of the service. -/
abbrev AuthCall (α : Type) := Process AuthState HttpException α

structure TokenPair where
  accessToken : String
  refreshToken : String
deriving DecidableEq, Repr

/-- The id and the reference an insertion draws. -/
structure NewUser where
  id : Nat
  reference : String
  id_pos : 0 < id
  reference_ne : reference ≠ ""

/-! ## Users -/

namespace UserService

def findByEmail (env : AuthEnv) (d : Directory) (email : String) : Option UserRow :=
  d.users.rows.find? (·.email = env.toLowerCase (Js.trim email))

def findByExternalIdentity (d : Directory) (authProvider externalId : String) : Option UserRow :=
  d.users.rows.find? (fun row => row.authProvider = authProvider ∧ row.externalId = some externalId)

def findOneByReference (d : Directory) (reference : String) : Except HttpException UserEntity := do
  let row ← findEntityByReference d.users.rows (·.reference) reference "User not found"
  findOne d row.id

/-- The unique indexes on the email, on the reference, and on the identity when there is
    an external id. -/
def violatesUnique (d : Directory) (row : UserRow) : Bool :=
  d.users.rows.any (fun other => other.id ≠ row.id &&
    (other.email = row.email || other.reference = row.reference ||
      (row.externalId.isSome && other.authProvider = row.authProvider &&
        other.externalId = row.externalId)))

/-- `save` of a user that was created. -/
def insertUser (row : UserRow) : AuthTx Unit := do
  let violates ← Transaction.read (fun s : AuthState => violatesUnique s.directory row)
  Transaction.require (violates = false) (.queryFailed "23505")
  let users ← Transaction.read (fun s : AuthState => s.directory.users.insert? row)
  let users ← Transaction.getOrThrow users (.queryFailed "23505")
  Transaction.write (fun s => { s with directory := { s.directory with users := users } })

def findStaffRole (d : Directory) : Except HttpException RoleRow :=
  match d.roles.rows.find? (·.name = "staff") with
  | some role => .ok role
  | none => .error (.notFound
      "Default staff role is not configured. Run database seed or create the staff role before registering users.")

def createWithHash (env : AuthEnv) (drawn : NewUser) (email passwordHash : String)
    (firstName lastName : Option String) (isActive : Bool) : AuthTx UserRow := do
  let staffRole ← Transaction.query (fun s : AuthState => findStaffRole s.directory)
  let row : UserRow :=
    { id := drawn.id, reference := drawn.reference, email := env.toLowerCase (Js.trim email)
      password := some passwordHash, authProvider := "local", externalId := none
      firstName := firstName, lastName := lastName, avatarUrl := none, isActive := isActive
      isEmailVerified := false, emailVerifiedAt := none, roleId := some staffRole.id
      departmentId := none, deactivatedAt := none
      id_pos := drawn.id_pos, reference_ne := drawn.reference_ne }
  insertUser row
  pure row

def createSsoUser (env : AuthEnv) (now : Instant) (drawn : NewUser) (email authProvider : String)
    (externalId : String) (firstName lastName avatarUrl : Option String) : AuthTx UserRow := do
  let staffRole ← Transaction.query (fun s : AuthState => findStaffRole s.directory)
  let row : UserRow :=
    { id := drawn.id, reference := drawn.reference, email := env.toLowerCase (Js.trim email)
      password := none, authProvider := authProvider, externalId := some externalId
      firstName := firstName, lastName := lastName, avatarUrl := avatarUrl, isActive := true
      isEmailVerified := true, emailVerifiedAt := some now, roleId := some staffRole.id
      departmentId := none, deactivatedAt := none
      id_pos := drawn.id_pos, reference_ne := drawn.reference_ne }
  insertUser row
  pure row

/-- The columns of `linkSsoIdentity`; the avatar is always given. -/
def linkedRow (authProvider externalId : String) (avatarUrl : Option String) (row : UserRow) :
    UserRow :=
  { row with authProvider := authProvider, externalId := some externalId, avatarUrl := avatarUrl }

/-- An `update` of identity columns; the unique index refuses an identity that is taken. -/
def linkSsoIdentity (id : Nat) (authProvider externalId : String) (avatarUrl : Option String) :
    AuthTx Unit := do
  let row ← Transaction.read (fun s : AuthState => s.directory.users.find? id)
  let taken ← Transaction.read (fun s : AuthState => row.any (fun row =>
    violatesUnique s.directory (linkedRow authProvider externalId avatarUrl row)))
  Transaction.require (taken = false) (.queryFailed "23505")
  updateRow id (linkedRow authProvider externalId avatarUrl)

def syncSsoProfile (id : Nat) (avatarUrl : Option String) : AuthTx Unit :=
  match Js.trimmedOrUndefined avatarUrl with
  | none => pure ()
  | some avatarUrl => updateRow id (fun row => { row with avatarUrl := some avatarUrl })

end UserService

/-! ## One-time codes -/

namespace OneTimeCodes

/-- Delete the code of a user, found by the index of users. -/
def clear (codes : OneTimeCodes) (userId : Nat) : OneTimeCodes where
  byHash := match codes.byUser userId with
    | some tokenHash => codes.byHash.del tokenHash
    | none => codes.byHash
  byUser := codes.byUser.del userId

/-- Write both entries of a code. -/
def put (codes : OneTimeCodes) (userId : Nat) (tokenHash : String) : OneTimeCodes where
  byHash := codes.byHash.setCache tokenHash userId
  byUser := codes.byUser.setCache userId tokenHash

end OneTimeCodes

namespace AuthState

def codes (s : AuthState) : CodeFlow → OneTimeCodes
  | .passwordReset => s.passwordResets
  | .emailVerification => s.emailVerifications

def setCodes (s : AuthState) (flow : CodeFlow) (codes : OneTimeCodes) : AuthState :=
  match flow with
  | .passwordReset => { s with passwordResets := codes }
  | .emailVerification => { s with emailVerifications := codes }

end AuthState

namespace AuthService

def PASSWORD_LOCAL : HttpException :=
  .unauthorized "This account uses single sign-on. Use Sign in with SSO."

/-- `isActive` and `deactivatedAt` of a user that signs in. -/
def assertActiveAccount (row : UserRow) : Except HttpException Unit :=
  if !row.isActive || row.deactivatedAt.isSome then .error JwtStrategy.suspended else .ok ()

/-- `createOtpCode`, with the outcome of `randomInt(0, 10 ** 6)`. -/
def createOtpCode (env : AuthEnv) (drawn : Fin 1000000) : String :=
  if env.ALLOW_DEV_OPAQUE_TOKEN then "123456"
  else
    let digits := (toString drawn.val).toList
    String.ofList (List.replicate (6 - digits.length) '0' ++ digits)

/-- `clearPasswordResetForUser` and `clearEmailVerificationForUser` -/
def clearForUser (flow : CodeFlow) (userId : Nat) : AuthCall Unit :=
  Process.write (fun s => s.setCodes flow ((s.codes flow).clear userId))

/-- The predecessor is cleared, both entries are written, and the code is published. -/
def sendCode (env : AuthEnv) (flow : CodeFlow) (drawn : Fin 1000000) (userId : Nat) (email : String)
    (firstName : Option String) : AuthCall Unit := do
  let code := createOtpCode env drawn
  clearForUser flow userId
  Process.write (fun s => s.setCodes flow ((s.codes flow).put userId (env.hashToken code)))
  Process.write (fun s => { s with published := s.published ++ [⟨flow, userId, email, firstName, code⟩] })

def sendEmailVerification (env : AuthEnv) (drawn : Fin 1000000) (userId : Nat) (email : String)
    (firstName : Option String) : AuthCall Unit :=
  sendCode env .emailVerification drawn userId email firstName

/-! ## Tokens -/

/-- `issueTokens`, with the pair that was signed. -/
def issueTokens (env : AuthEnv) (reference : String) (tokens : TokenPair) : AuthCall TokenPair := do
  Process.write (fun s => { s with
    refreshKeys := s.refreshKeys.setCache (reference, env.hashToken tokens.refreshToken) () })
  pure tokens

/-- The key of a refresh token is taken and left as a grace key; a token whose key is gone
    passes as long as its grace key lasts. -/
def takeRefreshKey (key : String × String) : AuthCall Unit := do
  let stored ← Process.read (fun s : AuthState => s.refreshKeys key)
  let grace ← Process.read (fun s : AuthState => s.graceKeys key)
  match stored with
  | some () => Process.write (fun s => { s with
      refreshKeys := s.refreshKeys.del key, graceKeys := s.graceKeys.setCache key () })
  | none => Process.require (grace.isSome = true) (.unauthorized "Refresh token has been revoked")

def refresh (env : AuthEnv) (now : Instant) (refreshToken : String) (tokens : TokenPair) :
    AuthCall TokenPair := do
  let reference ← Process.getOrThrow (env.verifyRefresh now refreshToken)
    (.unauthorized "Refresh token is invalid or expired")
  takeRefreshKey (reference, env.hashToken refreshToken)
  let user ← Process.query (fun s : AuthState => UserService.findOneByReference s.directory reference)
  Process.require (user.isActive = true) (.unauthorized "Account is suspended")
  issueTokens env user.reference tokens

def logout (env : AuthEnv) (reference refreshToken : String) : AuthCall Unit :=
  Process.write (fun s => { s with
    refreshKeys := s.refreshKeys.del (reference, env.hashToken refreshToken) })

/-! ## Registration and sign-in -/

structure RegisterInput where
  email : String
  password : String
  firstName : String
  lastName : String

/-- What a registration draws: the row, the hash of the password, the tokens, the code. -/
structure RegisterDraws where
  user : NewUser
  passwordHash : String
  tokens : TokenPair
  code : Fin 1000000

/-- The transaction of `register`. -/
def createRegistered (env : AuthEnv) (payload : RegisterInput) (drawn : RegisterDraws) :
    AuthTx UserRow := do
  let existing ← Transaction.read (fun s : AuthState =>
    s.directory.users.rows.find? (·.email = payload.email))
  Transaction.require (existing = none) (.badRequest "User already exists")
  UserService.createWithHash env drawn.user payload.email drawn.passwordHash
    (some payload.firstName) (some payload.lastName) true

def register (env : AuthEnv) (payload : RegisterInput) (drawn : RegisterDraws) : AuthCall Unit := do
  Process.require (env.ALLOW_PUBLIC_REGISTRATION = true) (.forbidden
    "Public registration is disabled. Contact an administrator for access.")
  let user ← Process.atomically (createRegistered env payload drawn)
  let _ ← issueTokens env user.reference drawn.tokens
  sendEmailVerification env drawn.code user.id user.email user.firstName

/-- The checks of `login`. -/
def checkLogin (env : AuthEnv) (d : Directory) (email password : String) :
    Except HttpException UserEntity :=
  match UserService.findByEmail env d email with
  | none => .error (.unauthorized "Invalid Credentials")
  | some row =>
    match row.password.filter (· ≠ "") with
    | none => .error PASSWORD_LOCAL
    | some hash => do
      if !env.compare password hash then .error (.unauthorized "Invalid Credentials") else .ok ()
      assertActiveAccount row
      UserService.findOne d row.id

def login (env : AuthEnv) (email password : String) (tokens : TokenPair) (code : Fin 1000000) :
    AuthCall Unit := do
  let user ← Process.query (fun s : AuthState => checkLogin env s.directory email password)
  let _ ← issueTokens env user.reference tokens
  if user.isEmailVerified then pure ()
  else sendEmailVerification env code user.id user.email user.firstName.toOption

/-! ## Confirmations -/

/-- The user of a code, by its hash. -/
def findCode (env : AuthEnv) (flow : CodeFlow) (missing invalid : HttpException) (token : String)
    (s : AuthState) : Except HttpException Nat :=
  if Js.trim token = "" then .error missing
  else match (s.codes flow).byHash (env.hashToken (Js.trim token)) with
    | some id => .ok id
    | none => .error invalid

def findVerification (env : AuthEnv) : String → AuthState → Except HttpException Nat :=
  findCode env .emailVerification (.unauthorized "Verification token is missing")
    (.unauthorized "Verification token is invalid or expired")

def findReset (env : AuthEnv) : String → AuthState → Except HttpException Nat :=
  findCode env .passwordReset (.unauthorized "Reset token is missing")
    (.unauthorized "Reset token is invalid or expired")

def verifyUnlessVerified (now : Instant) (user : UserEntity) : AuthCall Unit :=
  if user.isEmailVerified then pure ()
  else Process.atomically (UserService.markEmailVerified now user.id)

def confirmEmailVerification (env : AuthEnv) (now : Instant) (token : String) (tokens : TokenPair) :
    AuthCall TokenPair := do
  let id ← Process.query (findVerification env token)
  let user ← Process.query (fun s : AuthState => UserService.findOne s.directory id)
  clearForUser .emailVerification user.id
  verifyUnlessVerified now user
  issueTokens env user.reference tokens

def resendEmailVerification (env : AuthEnv) (email : String) (drawn : Fin 1000000) : AuthCall Unit := do
  let user ← Process.read (fun s : AuthState => UserService.findByEmail env s.directory email)
  match user.filter (fun row => !row.isEmailVerified) with
  | some row => sendEmailVerification env drawn row.id row.email row.firstName
  | none => pure ()

def requestPasswordReset (env : AuthEnv) (email : String) (drawn : Fin 1000000) : AuthCall Unit := do
  let user ← Process.read (fun s : AuthState => UserService.findByEmail env s.directory email)
  match user with
  | some row => sendCode env .passwordReset drawn row.id row.email row.firstName
  | none => pure ()

/-- The code and the entry of its user are deleted. -/
def deleteReset (env : AuthEnv) (token : String) (id : Nat) : AuthCall Unit := do
  Process.write (fun s => { s with passwordResets := { s.passwordResets with
    byHash := s.passwordResets.byHash.del (env.hashToken (Js.trim token)) } })
  Process.write (fun s => { s with passwordResets := { s.passwordResets with
    byUser := s.passwordResets.byUser.del id } })

def confirmPasswordReset (env : AuthEnv) (token passwordHash : String) : AuthCall Unit := do
  let id ← Process.query (findReset env token)
  deleteReset env token id
  let user ← Process.query (fun s : AuthState => UserService.findOne s.directory id)
  Process.atomically (UserService.updatePasswordHash user.id passwordHash)
  Process.atomically (UserService.revokeSessions user.reference)

end AuthService

end Expentra
