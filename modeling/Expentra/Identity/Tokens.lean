-- SUMMARY: Validation of an access token: the cached context, or the context of the rows, which is then cached.
import Expentra.Identity.Directory

/-!
# Validating a token

`JwtStrategy.validate` runs after the signature of a token was verified. It accepts the
cached context of the user if there is one, and else reads the context and caches it.
-/

namespace Expentra.JwtStrategy

open Library

def suspended : HttpException := .forbidden "Account has been suspended, please contact support."

def assertActiveAuthUser (authUser : AuthUser) : Except HttpException Unit :=
  if !authUser.isActive || authUser.deactivatedAt.isSome then .error suspended
  else if authUser.role = "" then .error (.forbidden "User has no role assigned")
  else .ok ()

/-- The checks on a user that was read. -/
def assertActiveUser (user : User) : Except HttpException Unit :=
  if !user.isActive || user.deactivatedAt.isSome then .error suspended
  else if (user.role.map (·.name)).getD "" = "" then .error (.forbidden "User has no role assigned")
  else .ok ()

/-- The context as the rows yield it, if the user may sign in. -/
def readContext (d : Directory) (reference : String) : Except HttpException AuthUser :=
  match d.findAuthContext reference with
  | none => .error (.unauthorized "User not found")
  | some user => do
    assertActiveUser user
    pure (toAuthUser user (d.findManagedDepartmentIds user.id))

def validate (ttlSeconds : Int) (reference : String) : AuthTx AuthUser := do
  Transaction.require (reference ≠ "") (.unauthorized "Invalid token payload")
  let cached ← Transaction.read (AuthContextCache.get ttlSeconds · reference)
  match cached with
  | some authUser =>
    Transaction.query (fun _ : AuthState => assertActiveAuthUser authUser)
    pure authUser
  | none =>
    let authUser ← Transaction.query (fun s : AuthState => readContext s.directory reference)
    AuthContextCache.set ttlSeconds reference authUser
    pure authUser

/-- What is read is the current context. -/
theorem readContext_eq_ok {d : Directory} {reference : String} {authUser : AuthUser}
    (h : readContext d reference = .ok authUser) :
    d.currentContext reference = some authUser ∧ assertActiveAuthUser authUser = .ok () := by
  unfold readContext at h
  cases huser : d.findAuthContext reference with
  | none =>
    rw [huser] at h
    cases h
  | some user =>
    rw [huser] at h
    obtain ⟨_, hactive, hcontext⟩ := Except.bind_eq_ok.1 h
    cases hcontext
    exact ⟨by rw [Directory.currentContext, huser]; rfl, hactive⟩

/-- A validation leaves the state alone, or caches the current context. -/
theorem validate_ok {ttlSeconds : Int} {reference : String} {s s' : AuthState} {authUser : AuthUser}
    (h : validate ttlSeconds reference s = .ok (authUser, s')) :
    s' = s ∨ (s.directory.currentContext reference = some authUser ∧
      s' = { s with contexts := s.contexts.setCache reference authUser }) := by
  rw [validate, Transaction.require_bind_eq_ok, Transaction.read_bind] at h
  obtain ⟨-, h⟩ := h
  cases hcached : AuthContextCache.get ttlSeconds s reference with
  | some cached =>
    rw [hcached] at h
    dsimp only at h
    rw [Transaction.query_bind_eq_ok] at h
    obtain ⟨_, -, h⟩ := h
    obtain ⟨-, rfl⟩ := Transaction.pure_eq_ok.1 h
    exact .inl rfl
  | none =>
    rw [hcached] at h
    dsimp only at h
    rw [Transaction.query_bind_eq_ok] at h
    obtain ⟨context, hread, h⟩ := h
    obtain ⟨_, s₁, hset, h⟩ := Transaction.bind_eq_ok.1 h
    obtain ⟨rfl, rfl⟩ := Transaction.pure_eq_ok.1 h
    unfold AuthContextCache.set at hset
    split at hset
    · obtain ⟨-, rfl⟩ := Transaction.pure_eq_ok.1 hset
      exact .inl rfl
    · exact .inr ⟨(readContext_eq_ok hread).1, (Transaction.write_eq_ok.1 hset).symm⟩

theorem validate_coherent {ttlSeconds : Int} {reference : String} {s s' : AuthState}
    {authUser : AuthUser} (hs : s.Coherent)
    (h : validate ttlSeconds reference s = .ok (authUser, s')) : s'.Coherent := by
  rcases validate_ok h with rfl | ⟨hcurrent, rfl⟩
  · exact hs
  · exact hs.fill hcurrent

end Expentra.JwtStrategy
