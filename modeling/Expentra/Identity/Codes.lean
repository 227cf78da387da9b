-- SUMMARY: One-time codes over runs: the two indexes of a flow, and whose account a code confirms.
import Expentra.Identity.AuthOperations

/-!
# One-time codes

The entry of a code is stored under its hash alone. A code that is drawn again for another
user overwrites the entry of the first, whose own index still names it. The two indexes of a
flow are inverse to each other, and a code confirms the account it was sent to, as long as no
code is drawn that was the last one sent to another user.
-/

namespace Expentra

open Library AuthService

/-! ## The codes of one flow -/

namespace OneTimeCodes

/-- The two indexes are inverse to each other, but for codes that have expired before the
    entries of their users. A user's entry is the code that was sent to the user last, and no
    two users were sent the same. -/
structure Bound (codes : OneTimeCodes) (latest : Nat → Option String) (expired : String → Prop) :
    Prop where
  user_of_hash : ∀ {h u}, codes.byHash h = some u → codes.byUser u = some h
  hash_of_user : ∀ {h u}, codes.byUser u = some h →
    codes.byHash h = some u ∨ (codes.byHash h = none ∧ expired h)
  latest_of_user : ∀ {h u}, codes.byUser u = some h → latest u = some h
  latest_injective : ∀ {h u u'}, latest u = some h → latest u' = some h → u = u'

namespace Bound

variable {codes : OneTimeCodes} {latest : Nat → Option String} {expired : String → Prop}
  {h : String} {u v : Nat}

theorem latest_of_hash (hb : codes.Bound latest expired) (hh : codes.byHash h = some u) :
    latest u = some h := hb.latest_of_user (hb.user_of_hash hh)

/-- A code that is the last one of a user is that user's. -/
theorem eq_of_latest (hb : codes.Bound latest expired) (hh : codes.byHash h = some v)
    (hu : latest u = some h) : v = u := hb.latest_injective (hb.latest_of_hash hh) hu

/-- Clearing a user deletes the entry of that user's code and no other. -/
theorem clear_byHash (hb : codes.Bound latest expired) :
    (codes.clear u).byHash h = some v ↔ codes.byHash h = some v ∧ v ≠ u := by
  unfold OneTimeCodes.clear
  cases hu : codes.byUser u with
  | none =>
    refine ⟨fun hv => ⟨hv, ?_⟩, fun hv => hv.1⟩
    rintro rfl
    cases hu.symm.trans (hb.user_of_hash hv)
  | some stored =>
    by_cases heq : h = stored
    · subst heq
      refine ⟨fun hv => (by cases Redis.del_self.symm.trans hv), fun hv => absurd ?_ hv.2⟩
      exact hb.eq_of_latest hv.1 (hb.latest_of_user hu)
    · simp only [Redis.del_of_ne heq]
      refine ⟨fun hv => ⟨hv, ?_⟩, fun hv => hv.1⟩
      rintro rfl
      exact heq (Option.some.inj ((hb.user_of_hash hv).symm.trans hu))

theorem clear (hb : codes.Bound latest expired) : (codes.clear u).Bound latest expired where
  user_of_hash := by
    intro h v hh
    obtain ⟨hold, hne⟩ := hb.clear_byHash.1 hh
    exact (Redis.del_of_ne hne).trans (hb.user_of_hash hold)
  hash_of_user := by
    intro h v hv
    by_cases heq : v = u
    · subst heq
      cases Redis.del_self.symm.trans hv
    · have hold : codes.byUser v = some h := (Redis.del_of_ne heq).symm.trans hv
      rcases hb.hash_of_user hold with hh | ⟨hnone, hexpired⟩
      · exact .inl (hb.clear_byHash.2 ⟨hh, heq⟩)
      · refine .inr ⟨?_, hexpired⟩
        cases hh : (codes.clear u).byHash h with
        | none => rfl
        | some w => cases hnone.symm.trans (hb.clear_byHash.1 hh).1
  latest_of_user := by
    intro h v hv
    by_cases heq : v = u
    · subst heq
      cases Redis.del_self.symm.trans hv
    · exact hb.latest_of_user ((Redis.del_of_ne heq).symm.trans hv)
  latest_injective := hb.latest_injective

/-- A code that is the last one of nobody else is put under a user that has none. -/
theorem put {latest' : Nat → Option String} (hb : codes.Bound latest expired)
    (hu : codes.byUser u = none) (hfresh : ∀ other, other ≠ u → latest other ≠ some h)
    (hself : latest' u = some h) (hother : ∀ other, other ≠ u → latest' other = latest other) :
    (codes.put u h).Bound latest' expired where
  user_of_hash := by
    intro g v hg
    by_cases heq : g = h
    · subst heq
      cases Redis.setCache_self.symm.trans hg
      exact Redis.setCache_self
    · have hold := hb.user_of_hash ((Redis.setCache_of_ne heq).symm.trans hg)
      have hne : v ≠ u := by
        rintro rfl
        cases hu.symm.trans hold
      exact (Redis.setCache_of_ne hne).trans hold
  hash_of_user := by
    intro g v hv
    by_cases heq : v = u
    · subst heq
      cases Redis.setCache_self.symm.trans hv
      exact .inl Redis.setCache_self
    · have hold : codes.byUser v = some g := (Redis.setCache_of_ne heq).symm.trans hv
      have hne : g ≠ h := by
        rintro rfl
        exact hfresh v heq (hb.latest_of_user hold)
      rw [show (codes.put u h).byHash g = codes.byHash g from Redis.setCache_of_ne hne]
      exact hb.hash_of_user hold
  latest_of_user := by
    intro g v hv
    by_cases heq : v = u
    · subst heq
      cases Redis.setCache_self.symm.trans hv
      exact hself
    · exact (hother v heq).trans (hb.latest_of_user ((Redis.setCache_of_ne heq).symm.trans hv))
  latest_injective := by
    intro g v w hv hw
    by_cases hvu : v = u
    · by_cases hwu : w = u
      · exact hvu.trans hwu.symm
      · subst hvu
        cases hself.symm.trans hv
        exact absurd ((hother w hwu).symm.trans hw) (hfresh w hwu)
    · by_cases hwu : w = u
      · subst hwu
        cases hself.symm.trans hw
        exact absurd ((hother v hvu).symm.trans hv) (hfresh v hvu)
      · exact hb.latest_injective ((hother v hvu).symm.trans hv) ((hother w hwu).symm.trans hw)

/-- A code expires before the entry of its user. -/
theorem expireHash {expired' : String → Prop} (hb : codes.Bound latest expired)
    (hmono : ∀ g, expired g → expired' g) (hh : expired' h) :
    ({ codes with byHash := codes.byHash.del h } : OneTimeCodes).Bound latest expired' where
  user_of_hash := by
    intro g v hg
    by_cases heq : g = h
    · subst heq
      cases Redis.del_self.symm.trans hg
    · exact hb.user_of_hash ((Redis.del_of_ne heq).symm.trans hg)
  hash_of_user := by
    intro g v hv
    by_cases heq : g = h
    · subst heq
      exact .inr ⟨Redis.del_self, hh⟩
    · simp only [Redis.del_of_ne heq]
      exact (hb.hash_of_user hv).imp_right (fun hg => ⟨hg.1, hmono g hg.2⟩)
  latest_of_user := hb.latest_of_user
  latest_injective := hb.latest_injective

/-- The entry of a user expires when its code is gone. -/
theorem expireUser (hb : codes.Bound latest expired)
    (hgone : ∀ g, codes.byUser u = some g → codes.byHash g ≠ some u) :
    ({ codes with byUser := codes.byUser.del u } : OneTimeCodes).Bound latest expired where
  user_of_hash := by
    intro g v hg
    have hold := hb.user_of_hash hg
    have hne : v ≠ u := by
      rintro rfl
      exact hgone g hold hg
    exact (Redis.del_of_ne hne).trans hold
  hash_of_user := by
    intro g v hv
    by_cases heq : v = u
    · subst heq
      cases Redis.del_self.symm.trans hv
    · exact hb.hash_of_user ((Redis.del_of_ne heq).symm.trans hv)
  latest_of_user := by
    intro g v hv
    by_cases heq : v = u
    · subst heq
      cases Redis.del_self.symm.trans hv
    · exact hb.latest_of_user ((Redis.del_of_ne heq).symm.trans hv)
  latest_injective := hb.latest_injective

theorem mono {expired' : String → Prop} (hb : codes.Bound latest expired)
    (hmono : ∀ g, expired g → expired' g) : codes.Bound latest expired' where
  user_of_hash := hb.user_of_hash
  hash_of_user := fun hv => (hb.hash_of_user hv).imp_right (fun hg => ⟨hg.1, hmono _ hg.2⟩)
  latest_of_user := hb.latest_of_user
  latest_injective := hb.latest_injective

end Bound

end OneTimeCodes

/-! ## The codes of a state -/

namespace AuthState

/-- The code that was sent to a user last. -/
def latestCode (s : AuthState) (flow : CodeFlow) (userId : Nat) : Option String :=
  ((s.published.filter (fun sent => sent.flow = flow ∧ sent.userId = userId)).getLast?).map (·.code)

def latestHash (s : AuthState) (env : AuthEnv) (flow : CodeFlow) (userId : Nat) : Option String :=
  (s.latestCode flow userId).map env.hashToken

/-- The codes of both flows are bound; `expired` are the keys that expired so far. -/
def CodesBound (env : AuthEnv) (expired : List RedisKey) (s : AuthState) : Prop :=
  ∀ flow, (s.codes flow).Bound (s.latestHash env flow) (fun h => RedisKey.code flow h ∈ expired)

/-- No other user's last code has the hash of a code. -/
def Unsent (env : AuthEnv) (flow : CodeFlow) (userId : Nat) (drawn : Fin 1000000) (s : AuthState) :
    Prop :=
  ∀ sent ∈ s.published, sent.flow = flow → sent.userId ≠ userId →
    s.latestHash env flow sent.userId ≠ some (env.hashToken (createOtpCode env drawn))

instance {env : AuthEnv} {flow : CodeFlow} {userId : Nat} {drawn : Fin 1000000} {s : AuthState} :
    Decidable (s.Unsent env flow userId drawn) := by
  unfold Unsent
  infer_instance

variable {env : AuthEnv} {s s' : AuthState} {flow : CodeFlow} {userId : Nat}

theorem exists_sent {h : String} (hlatest : s.latestHash env flow userId = some h) :
    ∃ sent ∈ s.published, sent.flow = flow ∧ sent.userId = userId := by
  obtain ⟨code, hcode, -⟩ := Option.map_eq_some_iff.1 hlatest
  obtain ⟨sent, hsent, -⟩ := Option.map_eq_some_iff.1 hcode
  have hmem := List.mem_of_mem_getLast? (Option.mem_def.2 hsent)
  simp only [List.mem_filter, decide_eq_true_eq] at hmem
  exact ⟨sent, hmem.1, hmem.2⟩

theorem Unsent.ne {drawn : Fin 1000000} (h : s.Unsent env flow userId drawn) {other : Nat}
    (hne : other ≠ userId) :
    s.latestHash env flow other ≠ some (env.hashToken (createOtpCode env drawn)) := by
  intro hlatest
  obtain ⟨sent, hsent, hflow, rfl⟩ := exists_sent hlatest
  exact h sent hsent hflow hne hlatest

/-- A code was published. -/
theorem latestHash_publish (env : AuthEnv) {sent : CodeSent} (h : s'.published = s.published ++ [sent]) :
    s'.latestHash env sent.flow sent.userId = some (env.hashToken sent.code) ∧
      ∀ flow userId, flow ≠ sent.flow ∨ userId ≠ sent.userId →
        s'.latestHash env flow userId = s.latestHash env flow userId := by
  unfold latestHash latestCode
  rw [h]
  constructor
  · simp
  · intro flow userId hne
    have hfalse : ¬ (sent.flow = flow ∧ sent.userId = userId) := by
      rintro ⟨rfl, rfl⟩
      exact hne.elim (fun h => h rfl) (fun h => h rfl)
    rw [List.filter_append, List.filter_singleton]
    simp [hfalse]

/-- What the codes of both flows are, and what was published. -/
def codeState (s : AuthState) : OneTimeCodes × OneTimeCodes × List CodeSent :=
  (s.passwordResets, s.emailVerifications, s.published)

theorem CodesBound.congr {expired : List RedisKey} (hs : s.CodesBound env expired)
    (h : s'.codeState = s.codeState) : s'.CodesBound env expired := by
  obtain ⟨hresets, hrest⟩ := Prod.mk.inj h
  obtain ⟨hverifications, hpublished⟩ := Prod.mk.inj hrest
  intro flow
  have hlatest : s'.latestHash env flow = s.latestHash env flow := by
    funext userId
    rw [latestHash, latestCode, hpublished]
    rfl
  have hcodes : s'.codes flow = s.codes flow := by cases flow <;> assumption
  rw [hlatest, hcodes]
  exact hs flow

theorem CodesBound.mono {expired : List RedisKey} (expired' : List RedisKey)
    (hs : s.CodesBound env expired) (h : ∀ key ∈ expired, key ∈ expired') : s.CodesBound env expired' :=
  fun flow => (hs flow).mono (fun _ => h _)

/-- The codes of one flow are changed. -/
theorem CodesBound.setCodes {expired : List RedisKey} (hs : s.CodesBound env expired)
    {codes : OneTimeCodes}
    (h : codes.Bound (s.latestHash env flow) (fun h => RedisKey.code flow h ∈ expired)) :
    (s.setCodes flow codes).CodesBound env expired := by
  intro flow'
  have hlatest : (s.setCodes flow codes).latestHash env flow' = s.latestHash env flow' := by
    funext userId
    rw [latestHash, latestCode, setCodes_published]
    rfl
  rw [hlatest]
  by_cases heq : flow' = flow
  · subst heq
    rw [codes_setCodes]
    exact h
  · rw [codes_setCodes_ne heq]
    exact hs flow'

/-- The state after a code was sent. -/
def send (env : AuthEnv) (s : AuthState) (sent : CodeSent) : AuthState :=
  { s.setCodes sent.flow (((s.codes sent.flow).clear sent.userId).put sent.userId
      (env.hashToken sent.code)) with published := s.published ++ [sent] }

theorem CodesBound.send {expired : List RedisKey} (hs : s.CodesBound env expired) (sent : CodeSent)
    (hfresh : ∀ other, other ≠ sent.userId →
      s.latestHash env sent.flow other ≠ some (env.hashToken sent.code)) :
    (s.send env sent).CodesBound env expired := by
  obtain ⟨hself, hother⟩ := (latestHash_publish env rfl :
    (s.send env sent).latestHash env sent.flow sent.userId = _ ∧ _)
  intro flow
  by_cases heq : flow = sent.flow
  · subst heq
    rw [show (s.send env sent).codes sent.flow = ((s.codes sent.flow).clear sent.userId).put
      sent.userId (env.hashToken sent.code) by
        rw [AuthState.send]
        cases sent.flow <;> rfl]
    exact (hs sent.flow).clear.put Redis.del_self hfresh hself
      (fun other hne => hother _ other (.inr hne))
  · rw [show (s.send env sent).codes flow = s.codes flow by
      rw [AuthState.send]
      exact codes_setCodes_ne (s := s) heq]
    rw [show (s.send env sent).latestHash env flow = s.latestHash env flow from
      funext (fun userId => hother flow userId (.inl heq))]
    exact hs flow

end AuthState

/-! ## What an operation does to the codes -/

namespace AuthOperation

/-- The code an operation is about to send: the flow, the user and the outcome of the draw. -/
def sends (env : AuthEnv) (s : AuthState) : AuthOperation → Option (CodeFlow × Nat × Fin 1000000)
  | register payload drawn =>
    if env.ALLOW_PUBLIC_REGISTRATION && (createRegistered env payload drawn s).isOk then
      some (.emailVerification, drawn.user.id, drawn.code)
    else none
  | login email password _ code =>
    match checkLogin env s.directory email password with
    | .ok user => if user.isEmailVerified then none else some (.emailVerification, user.id, code)
    | .error _ => none
  | resendEmailVerification email drawn =>
    ((UserService.findByEmail env s.directory email).filter (fun row => !row.isEmailVerified)).map
      (fun row => (.emailVerification, row.id, drawn))
  | requestPasswordReset email drawn =>
    (UserService.findByEmail env s.directory email).map (fun row => (.passwordReset, row.id, drawn))
  | _ => none

/-- No code is drawn that was the last one sent to another user in the flow. -/
def DrawsUnsent (env : AuthEnv) (s : AuthState) (op : AuthOperation) : Prop :=
  ∀ sending ∈ op.sends env s, s.Unsent env sending.1 sending.2.1 sending.2.2

instance {env : AuthEnv} {s : AuthState} {op : AuthOperation} : Decidable (op.DrawsUnsent env s) := by
  unfold DrawsUnsent
  infer_instance

/-- The keys that expire with an operation. -/
def expiredKeys : AuthOperation → List RedisKey
  | expire key => [key]
  | _ => []

/-- The flow and the code of a confirmation. -/
def confirms : AuthOperation → Option (CodeFlow × String)
  | confirmEmailVerification _ token _ => some (.emailVerification, token)
  | confirmPasswordReset token _ => some (.passwordReset, token)
  | _ => none

end AuthOperation

namespace OneTimeCodes

section Steps

variable {env : AuthEnv} {cfg : Config} {s s' : AuthState} {expired : List RedisKey}

/-- A code is sent that was the last one of nobody else. -/
theorem sendCode_bound {flow : CodeFlow} {drawn : Fin 1000000} {userId : Nat} {email : String}
    {firstName : Option String} :
    Process.Triple (fun s => s.CodesBound env expired ∧ s.Unsent env flow userId drawn)
      (sendCode env flow drawn userId email firstName) (fun _ => AuthState.CodesBound env expired)
      (AuthState.CodesBound env expired) := by
  refine Process.Triple.of_imp (.bind .write (fun _ => .bind .write (fun _ => .write))) ?_
  rintro s ⟨hs, hfresh⟩
  have hsent := hs.send ⟨flow, userId, email, firstName, createOtpCode env drawn⟩
    (fun other hne => hfresh.ne hne)
  refine hsent.congr ?_
  cases flow <;> rfl

/-- The properties of codes that nothing but codes matters to. -/
def CodesOnly (P : AuthState → Prop) : Prop := ∀ s s', P s → s'.codeState = s.codeState → P s'

theorem codesOnly_bound : CodesOnly (AuthState.CodesBound env expired) :=
  fun _ _ hs h => hs.congr h

theorem codesOnly_unsent {flow : CodeFlow} {drawn : Fin 1000000} {userId : Nat} :
    CodesOnly (fun s => s.Unsent env flow userId drawn) := by
  intro s s' hs h
  have hpublished : s'.published = s.published := (Prod.mk.inj (Prod.mk.inj h).2).2
  unfold AuthState.Unsent AuthState.latestHash AuthState.latestCode
  rw [hpublished]
  exact hs

theorem CodesOnly.ignoresSessions {P : AuthState → Prop} (hP : CodesOnly P) : IgnoresSessions P :=
  fun _ _ _ _ _ _ hs => hP _ _ hs rfl

theorem CodesOnly.and {P Q : AuthState → Prop} (hP : CodesOnly P) (hQ : CodesOnly Q) :
    CodesOnly (fun s => P s ∧ Q s) := fun s s' hs h => ⟨hP s s' hs.1 h, hQ s s' hs.2 h⟩

theorem CodesOnly.ignoresDirectory {P : AuthState → Prop} (hP : CodesOnly P) : IgnoresDirectory P :=
  fun _ _ _ hs => hP _ _ hs rfl

theorem register_bound {payload : RegisterInput} {drawn : RegisterDraws}
    (hs : s.CodesBound env expired)
    (hdraw : (AuthOperation.register payload drawn).DrawsUnsent env s) :
    ((register env payload drawn).final s).CodesBound env expired := by
  have hregister : Process.Triple (fun t => t = s) (register env payload drawn)
      (fun _ => AuthState.CodesBound env expired) (AuthState.CodesBound env expired) := by
    refine .bind (Q := fun _ t => t = s ∧ env.ALLOW_PUBLIC_REGISTRATION = true) ?_ (fun _ =>
      .bind (Q := fun row t => t.CodesBound env expired ∧
        t.Unsent env .emailVerification row.id drawn.code) ?_ (fun row =>
      .bind ((keeps_issueTokens (codesOnly_bound.and codesOnly_unsent).ignoresSessions).mono
        (fun _ ht => ht) (fun _ _ ht => ht) (fun _ ht => ht.1)) (fun _ => sendCode_bound)))
    · refine Process.Triple.require.of_imp ?_
      rintro t rfl
      exact ⟨fun hallowed => ⟨rfl, hallowed⟩, fun _ => hs⟩
    · refine Process.Triple.atomically.of_imp ?_
      rintro t ⟨rfl, hallowed⟩
      refine ⟨fun row t' h => ?_, fun _ => hs⟩
      have hunsent := hdraw _ (by
        rw [AuthOperation.sends, hallowed, h]
        rfl)
      obtain ⟨users, hid, -, -, rfl⟩ := createRegistered_ok h
      rw [hid]
      exact ⟨codesOnly_bound _ _ hs rfl, codesOnly_unsent _ _ hunsent rfl⟩
  exact hregister.final rfl

theorem login_bound {email password : String} {tokens : TokenPair} {code : Fin 1000000}
    (hs : s.CodesBound env expired)
    (hdraw : (AuthOperation.login email password tokens code).DrawsUnsent env s) :
    ((login env email password tokens code).final s).CodesBound env expired := by
  have hlogin : Process.Triple (fun t => t = s) (login env email password tokens code)
      (fun _ => AuthState.CodesBound env expired) (AuthState.CodesBound env expired) := by
    refine .bind (Q := fun user t => t.CodesBound env expired ∧
      (user.isEmailVerified = true ∨ t.Unsent env .emailVerification user.id code)) ?_ (fun user => ?_)
    · refine Process.Triple.query.of_imp ?_
      rintro t rfl
      refine ⟨fun user h => ⟨hs, ?_⟩, fun _ _ => hs⟩
      cases hverified : user.isEmailVerified with
      | true => exact .inl rfl
      | false => exact .inr (hdraw (.emailVerification, user.id, code) (by
          rw [AuthOperation.sends, h]
          simp [hverified]))
    · cases hverified : user.isEmailVerified with
      | true =>
        refine Process.Triple.bind ((keeps_issueTokens codesOnly_bound.ignoresSessions).of_imp
          (fun _ ht => ht.1)) (fun _ => ?_)
        rw [if_pos rfl]
        exact Process.Keeps.pure
      | false =>
        refine Process.Triple.bind ((keeps_issueTokens
          (codesOnly_bound.and codesOnly_unsent).ignoresSessions).mono
          (fun _ ht => ⟨ht.1, ht.2.resolve_left (fun h => (by cases h))⟩) (fun _ _ ht => ht)
          (fun _ ht => ht.1)) (fun _ => ?_)
        rw [if_neg (fun h => (by cases h))]
        exact sendCode_bound
  exact hlogin.final rfl

theorem resend_bound {email : String} {drawn : Fin 1000000} (hs : s.CodesBound env expired)
    (hdraw : (AuthOperation.resendEmailVerification email drawn).DrawsUnsent env s) :
    ((resendEmailVerification env email drawn).final s).CodesBound env expired := by
  have hresend : Process.Triple (fun t => t = s) (resendEmailVerification env email drawn)
      (fun _ => AuthState.CodesBound env expired) (AuthState.CodesBound env expired) := by
    refine .bind (Q := fun user t => t = s ∧ user = UserService.findByEmail env s.directory email)
      ?_ (fun user => ?_)
    · refine Process.Triple.read.of_imp ?_
      rintro t rfl
      exact ⟨rfl, rfl⟩
    · split
      · rename_i row hrow
        refine sendCode_bound.of_imp ?_
        rintro t ⟨rfl, rfl⟩
        exact ⟨hs, hdraw _ (by rw [AuthOperation.sends, hrow]; rfl)⟩
      · refine Process.Triple.pure.of_imp ?_
        rintro t ⟨rfl, rfl⟩
        exact hs
  exact hresend.final rfl

theorem request_bound {email : String} {drawn : Fin 1000000} (hs : s.CodesBound env expired)
    (hdraw : (AuthOperation.requestPasswordReset email drawn).DrawsUnsent env s) :
    ((requestPasswordReset env email drawn).final s).CodesBound env expired := by
  have hrequest : Process.Triple (fun t => t = s) (requestPasswordReset env email drawn)
      (fun _ => AuthState.CodesBound env expired) (AuthState.CodesBound env expired) := by
    refine .bind (Q := fun user t => t = s ∧ user = UserService.findByEmail env s.directory email)
      ?_ (fun user => ?_)
    · refine Process.Triple.read.of_imp ?_
      rintro t rfl
      exact ⟨rfl, rfl⟩
    · split
      · rename_i row
        refine sendCode_bound.of_imp ?_
        rintro t ⟨rfl, hrow⟩
        exact ⟨hs, hdraw _ (by rw [AuthOperation.sends, ← hrow]; rfl)⟩
      · refine Process.Triple.pure.of_imp ?_
        rintro t ⟨rfl, -⟩
        exact hs
  exact hrequest.final rfl

theorem confirmEmailVerification_bound {now : Instant} {token : String} {tokens : TokenPair}
    (hs : s.CodesBound env expired) :
    ((confirmEmailVerification env now token tokens).final s).CodesBound env expired := by
  refine Process.Triple.final (.bind Process.Keeps.query (fun id => .bind Process.Keeps.query
    (fun user => .bind ?_ (fun _ => .bind (keeps_verifyUnlessVerified codesOnly_bound.ignoresDirectory)
      (fun _ => keeps_issueTokens codesOnly_bound.ignoresSessions))))) hs
  exact Process.Keeps.write (fun t ht => ht.setCodes (ht .emailVerification).clear)

theorem confirmPasswordReset_bound {token passwordHash : String} (hs : s.CodesBound env expired) :
    ((confirmPasswordReset env token passwordHash).final s).CodesBound env expired := by
  have hconfirm : Process.Triple (fun t => t = s) (confirmPasswordReset env token passwordHash)
      (fun _ => AuthState.CodesBound env expired) (AuthState.CodesBound env expired) := by
    refine .bind (Q := fun id t => t = s ∧ findReset env token s = .ok id) ?_ (fun id =>
      .bind (Q := fun _ => AuthState.CodesBound env expired) ?_ (fun _ =>
      .bind (Q := fun _ => AuthState.CodesBound env expired) Process.Keeps.query (fun user =>
        .bind (Q := fun _ => AuthState.CodesBound env expired) (Process.Keeps.atomically ?_)
          (fun _ => Process.Keeps.atomically ?_))))
    · refine Process.Triple.query.of_imp ?_
      rintro t rfl
      exact ⟨fun _ h => ⟨rfl, h⟩, fun _ _ => hs⟩
    · refine Process.Triple.of_imp (.bind .write (fun _ => .write)) ?_
      rintro t ⟨rfl, hid⟩
      have huser : (t.codes .passwordReset).byUser id = some (env.hashToken (Js.trim token)) :=
        (hs .passwordReset).user_of_hash (findCode_ok hid).2
      have hclear := hs.setCodes ((hs .passwordReset).clear (u := id))
      rw [OneTimeCodes.clear, huser] at hclear
      exact hclear
    · intro t _ t' ht h
      obtain ⟨row, -, rfl⟩ := UserService.updatePasswordHash_ok h
      exact codesOnly_bound _ _ ht rfl
    · intro t _ t' ht h
      obtain rfl := UserService.revokeSessions_eq_ok.1 h
      exact codesOnly_bound _ _ ht rfl
  exact hconfirm.final rfl

/-- The two indexes stay bound when no code is drawn that was the last one of another user. -/
theorem codesBound_step {op : AuthOperation} (hs : s.CodesBound env expired)
    (hstep : AuthOperation.Step env cfg s op s') (hdraw : op.DrawsUnsent env s) :
    s'.CodesBound env (expired ++ op.expiredKeys) := by
  have hkept : ∀ t : AuthState, t.CodesBound env expired →
      t.CodesBound env (expired ++ op.expiredKeys) :=
    fun t ht => ht.mono _ (fun _ => List.mem_append_left _)
  cases hstep
  cases op with
  | expire key =>
    have hmono := hs.mono (expired ++ [key]) (fun _ => List.mem_append_left _)
    change (s.expire key).CodesBound env (expired ++ [key])
    cases key with
    | code flow tokenHash =>
      exact hmono.setCodes ((hmono flow).expireHash (fun _ h => h)
        (List.mem_append_right _ List.mem_cons_self))
    | codeUser flow userId =>
      rw [AuthState.expire]
      split
      · exact hmono
      · rename_i hgone
        refine hmono.setCodes ((hmono flow).expireUser (fun g hg hh => hgone ?_))
        simp [hg, hh]
    | _ => exact hmono.congr rfl
  | register payload drawn => exact hkept _ (register_bound hs hdraw)
  | login email password tokens code => exact hkept _ (login_bound hs hdraw)
  | resendEmailVerification email drawn => exact hkept _ (resend_bound hs hdraw)
  | requestPasswordReset email drawn => exact hkept _ (request_bound hs hdraw)
  | confirmEmailVerification now token tokens => exact hkept _ (confirmEmailVerification_bound hs)
  | confirmPasswordReset token passwordHash => exact hkept _ (confirmPasswordReset_bound hs)
  | beginSsoLogin state codeVerifier =>
    exact hkept _ ((keeps_beginSsoLogin codesOnly_bound.ignoresSessions).final hs)
  | completeSsoCallback now params drawn =>
    exact hkept _ ((keeps_completeSsoCallback codesOnly_bound.ignoresSessions
      (fun _ => keeps_resolveSsoUser codesOnly_bound.ignoresDirectory)).final hs)
  | exchangeSsoCode exchangeCode tokens =>
    exact hkept _ ((keeps_exchangeSsoCode codesOnly_bound.ignoresSessions).final hs)
  | refresh now refreshToken tokens =>
    exact hkept _ ((keeps_refresh codesOnly_bound.ignoresSessions).final hs)
  | logout reference refreshToken =>
    exact hkept _ ((keeps_logout codesOnly_bound.ignoresSessions).final hs)
  | updateProfile id input =>
    refine hkept _ (Transaction.commit_induction hs (fun _ t h => ?_))
    obtain ⟨row, -, rfl⟩ := UserService.updateProfile_ok h
    exact codesOnly_bound _ _ hs rfl
  | adminUpdate now actor targetUserId input =>
    refine hkept _ (Transaction.commit_induction hs (fun _ t h => codesOnly_bound _ _ hs ?_))
    obtain ⟨row, edited, changed, -, -, hstate⟩ := UserService.adminUpdate_frame h
    rw [hstate]
    rfl
  | suspendUser now actorId targetUserId =>
    refine hkept _ (Transaction.commit_induction hs (fun _ t h => codesOnly_bound _ _ hs ?_))
    obtain ⟨-, row, -, -, hstate⟩ := UserService.suspendUser_ok h
    rw [hstate]
    rfl
  | activateUser actorId targetUserId =>
    refine hkept _ (Transaction.commit_induction hs (fun _ t h => codesOnly_bound _ _ hs ?_))
    obtain ⟨-, row, -, hstate⟩ := UserService.activateUser_ok h
    rw [hstate]
    rfl

end Steps

/-! ## Whose account a code confirms -/

/-- The accounts of all but one user are as they were. -/
def OthersKept (userId : Nat) (s s' : AuthState) : Prop :=
  ∀ id, id ≠ userId → s'.directory.users.find? id = s.directory.users.find? id

theorem OthersKept.setUser {userId : Nat} {s t : AuthState} {row row' : UserRow}
    (h : OthersKept userId s t) (hrow : t.directory.users.find? userId = some row)
    (hid : row'.id = row.id) : OthersKept userId s (t.setUser row') := by
  intro id hne
  have hkey : row'.id = userId := hid.trans (Table.key_of_find? hrow)
  exact (Table.find?_replace_ne (by rwa [hkey])).trans (h id hne)

theorem ignoresSessions_othersKept {userId : Nat} {s : AuthState} :
    IgnoresSessions (OthersKept userId s) := fun _ _ _ _ _ _ h => h

section Confirm

variable {env : AuthEnv} {cfg : Config} {s : AuthState} {expired : List RedisKey} {userId : Nat}

/-- The last code of a user is stored under nobody else. -/
theorem findCode_eq {flow : CodeFlow} {missing invalid : HttpException} {token : String} {id : Nat}
    (hs : s.CodesBound env expired) (hlatest : s.latestCode flow userId = some (Js.trim token))
    (h : findCode env flow missing invalid token s = .ok id) : id = userId := by
  refine (hs flow).eq_of_latest (findCode_ok h).2 ?_
  rw [AuthState.latestHash, hlatest]
  rfl

theorem findOne_id {d : Directory} {user : UserEntity} (h : UserService.findOne d userId = .ok user) :
    user.id = userId := by
  obtain ⟨row, hrow, rfl⟩ := UserService.findOne_eq_ok.1 h
  have hkey : row.id = userId := Table.key_of_find? hrow
  exact hkey

theorem confirmEmailVerification_others {now : Instant} {token : String} {tokens : TokenPair}
    (hs : s.CodesBound env expired)
    (hlatest : s.latestCode .emailVerification userId = some (Js.trim token)) :
    OthersKept userId s ((confirmEmailVerification env now token tokens).final s) := by
  have hconfirm : Process.Triple (fun t => t = s) (confirmEmailVerification env now token tokens)
      (fun _ => OthersKept userId s) (OthersKept userId s) := by
    refine .bind (Q := fun id t => t = s ∧ id = userId) ?_ (fun id =>
      .bind (Q := fun user t => OthersKept userId s t ∧ user.id = userId) ?_ (fun user =>
      .bind (Q := fun _ t => OthersKept userId s t ∧ user.id = userId) ?_ (fun _ =>
      .bind ?_ (fun _ => keeps_issueTokens ignoresSessions_othersKept))))
    · refine Process.Triple.query.of_imp ?_
      rintro t rfl
      exact ⟨fun _ h => ⟨rfl, findCode_eq hs hlatest h⟩, fun _ _ _ _ => rfl⟩
    · refine Process.Triple.query.of_imp ?_
      rintro t ⟨rfl, rfl⟩
      exact ⟨fun _ h => ⟨fun _ _ => rfl, findOne_id h⟩, fun _ _ _ _ => rfl⟩
    · exact Process.Triple.write.of_imp (fun t ht => ht)
    · rintro t ⟨ht, rfl⟩
      revert t
      unfold verifyUnlessVerified
      split
      · exact Process.Keeps.pure
      · refine Process.Keeps.atomically (fun t _ t' ht h => ?_)
        obtain ⟨row, hrow, rfl⟩ := UserService.markEmailVerified_ok h
        exact ht.setUser hrow rfl
  exact hconfirm.final rfl

theorem confirmPasswordReset_others {token passwordHash : String} (hs : s.CodesBound env expired)
    (hlatest : s.latestCode .passwordReset userId = some (Js.trim token)) :
    OthersKept userId s ((confirmPasswordReset env token passwordHash).final s) := by
  have hconfirm : Process.Triple (fun t => t = s) (confirmPasswordReset env token passwordHash)
      (fun _ => OthersKept userId s) (OthersKept userId s) := by
    refine .bind (Q := fun id t => t = s ∧ id = userId) ?_ (fun id =>
      .bind (Q := fun _ t => OthersKept userId s t ∧ id = userId) ?_ (fun _ =>
      .bind (Q := fun user t => OthersKept userId s t ∧ user.id = userId) ?_ (fun user =>
      .bind (Q := fun _ => OthersKept userId s) ?_ (fun _ => Process.Keeps.atomically ?_))))
    · refine Process.Triple.query.of_imp ?_
      rintro t rfl
      exact ⟨fun _ h => ⟨rfl, findCode_eq hs hlatest h⟩, fun _ _ _ _ => rfl⟩
    · refine Process.Triple.of_imp (.bind .write (fun _ => .write)) ?_
      rintro t ⟨rfl, rfl⟩
      exact ⟨fun _ _ => rfl, rfl⟩
    · refine Process.Triple.query.of_imp ?_
      rintro t ⟨ht, rfl⟩
      exact ⟨fun _ h => ⟨ht, findOne_id h⟩, fun _ _ => ht⟩
    · rintro t ⟨ht, rfl⟩
      revert t
      refine Process.Keeps.atomically (fun t _ t' ht h => ?_)
      obtain ⟨row, hrow, rfl⟩ := UserService.updatePasswordHash_ok h
      exact ht.setUser hrow rfl
    · intro t _ t' ht h
      obtain rfl := UserService.revokeSessions_eq_ok.1 h
      exact ht
  exact hconfirm.final rfl

end Confirm

/-! ## Runs -/

/-- The keys that expired in a run. -/
def expiredIn (tr : List (AuthOperation × AuthState)) : List RedisKey :=
  tr.flatMap (fun step => step.1.expiredKeys)

/-- The two indexes of each flow are inverse to each other on what has not expired. -/
def InverseIndexes (expired : List RedisKey) (s : AuthState) : Prop :=
  ∀ flow h u, ((s.codes flow).byHash h = some u → (s.codes flow).byUser u = some h) ∧
    ((s.codes flow).byUser u = some h → (s.codes flow).byHash h = some u ∨
      ((s.codes flow).byHash h = none ∧ RedisKey.code flow h ∈ expired))

/-- The last code of a user confirms no account but that user's. -/
def ConfirmsOwn (env : AuthEnv) (cfg : Config) (s : AuthState) : Prop :=
  ∀ op flow token userId, AuthOperation.confirms op = some (flow, token) →
    s.latestCode flow userId = some (Js.trim token) → OthersKept userId s (op.run env cfg s)

/-- Nothing was sent yet. -/
structure NoCodes (s : AuthState) : Prop where
  passwordResets : s.passwordResets = ⟨fun _ => none, fun _ => none⟩
  emailVerifications : s.emailVerifications = ⟨fun _ => none, fun _ => none⟩
  published : s.published = []

section Runs

variable {env : AuthEnv} {cfg : Config} {s : AuthState} {expired : List RedisKey}
  {tr : List (AuthOperation × AuthState)}

theorem NoCodes.codesBound (h : NoCodes s) : s.CodesBound env [] := by
  intro flow
  have hcodes : s.codes flow = ⟨fun _ => none, fun _ => none⟩ := by
    cases flow
    · exact h.passwordResets
    · exact h.emailVerifications
  have hlatest : s.latestHash env flow = fun _ => none := by
    funext userId
    rw [AuthState.latestHash, AuthState.latestCode, h.published]
    rfl
  rw [hcodes, hlatest]
  constructor
  · exact fun hh => (by cases hh)
  · exact fun hu => (by cases hu)
  · exact fun hu => (by cases hu)
  · exact fun hu => (by cases hu)

theorem codesBound_run (hs : s.CodesBound env expired)
    (h : Run (Guarded (fun t op => op.DrawsUnsent env t) (AuthOperation.Step env cfg)) s tr) :
    (Run.last s tr).CodesBound env (expired ++ expiredIn tr) := by
  induction h generalizing expired with
  | nil => simpa [expiredIn] using hs
  | @cons s s' op rest hstep _ ih =>
    have hrest := ih (codesBound_step hs hstep.2 hstep.1)
    rw [List.append_assoc] at hrest
    exact hrest

theorem confirmsOwn_of_codesBound (hs : s.CodesBound env expired) : ConfirmsOwn env cfg s := by
  intro op flow token userId hconfirms hlatest
  cases op with
  | confirmEmailVerification now presented tokens =>
    cases hconfirms
    exact confirmEmailVerification_others hs hlatest
  | confirmPasswordReset presented passwordHash =>
    cases hconfirms
    exact confirmPasswordReset_others hs hlatest
  | _ => cases hconfirms

/-- In every run that draws no code which was the last one of another user, the indexes are
    inverse to each other and every code confirms the account it was sent to. -/
theorem codes_stay_bound (hs : NoCodes s)
    (h : Run (Guarded (fun t op => op.DrawsUnsent env t) (AuthOperation.Step env cfg)) s tr) :
    ∀ before after, tr = before ++ after →
      InverseIndexes (expiredIn before) (Run.last s before) ∧
        ConfirmsOwn env cfg (Run.last s before) := by
  rintro before after rfl
  have hbound := codesBound_run (hs.codesBound : s.CodesBound env []) (Run.append_iff.1 h).1
  rw [List.nil_append] at hbound
  exact ⟨fun flow h u => ⟨(hbound flow).user_of_hash, (hbound flow).hash_of_user⟩,
    confirmsOwn_of_codesBound hbound⟩

end Runs

/-! ### Codes that are bound, and a code that is not -/

namespace Sample

open Expentra.Sample

def codeRun : List AuthOperation :=
  [.requestPasswordReset "employee@expentra.test" 7, .requestPasswordReset "manager@expentra.test" 8,
    .requestPasswordReset "employee@expentra.test" 9, .confirmPasswordReset "000009" "hash",
    .expire (.code .passwordReset "000008"), .expire (.codeUser .passwordReset 2)]

/-- The manager's draw is the employee's. -/
def repeatedDraw : List AuthOperation :=
  [.requestPasswordReset "employee@expentra.test" 7, .requestPasswordReset "manager@expentra.test" 7]

def managerChanges : AuthOperation := .confirmPasswordReset "000007" "hash"

theorem noCodes : NoCodes authState := ⟨rfl, rfl, rfl⟩

end Sample

theorem codes_stay_bound_sample :
    InverseIndexes (expiredIn (Sample.runOf Sample.codeRun))
        (Run.last Sample.authState (Sample.runOf Sample.codeRun)) ∧
      ConfirmsOwn Sample.authEnv Sample.authConfig
        (Run.last Sample.authState (Sample.runOf Sample.codeRun)) :=
  codes_stay_bound Sample.noCodes ((Run.run_trace _ _ _).guarded (by decide +kernel))
    (Sample.runOf Sample.codeRun) [] (List.append_nil _).symm

/-- The code that was sent to the employee and is not superseded changes the password of the
    manager. -/
theorem repeated_draw_misdirects : ∃ tr,
    Run (AuthOperation.Step Sample.authEnv Sample.authConfig) Sample.authState tr ∧
    NoCodes Sample.authState ∧
    ¬ InverseIndexes (expiredIn tr) (Run.last Sample.authState tr) ∧
    (Run.last Sample.authState tr).latestCode .passwordReset 3 = some "000007" ∧
    ((Sample.managerChanges.run Sample.authEnv Sample.authConfig
      (Run.last Sample.authState tr)).directory.users.find? 2).map (·.password) = some (some "hash") ∧
    ¬ ConfirmsOwn Sample.authEnv Sample.authConfig (Run.last Sample.authState tr) := by
  have hchanged : ((Sample.managerChanges.run Sample.authEnv Sample.authConfig
      (Run.last Sample.authState (Sample.runOf Sample.repeatedDraw))).directory.users.find? 2).map
        (·.password) = some (some "hash") := by decide +kernel
  have hbefore : ((Run.last Sample.authState (Sample.runOf Sample.repeatedDraw)).directory.users.find?
      2).map (·.password) = some none := by decide +kernel
  have hlatest : (Run.last Sample.authState (Sample.runOf Sample.repeatedDraw)).latestCode
      .passwordReset 3 = some "000007" := by decide +kernel
  have hemployee : ((Run.last Sample.authState (Sample.runOf Sample.repeatedDraw)).codes
      .passwordReset).byUser 3 = some "000007" := by decide +kernel
  have hmanager : ((Run.last Sample.authState (Sample.runOf Sample.repeatedDraw)).codes
      .passwordReset).byHash "000007" = some 2 := by decide +kernel
  refine ⟨Sample.runOf Sample.repeatedDraw, Run.run_trace _ _ _, Sample.noCodes, ?_, hlatest,
    hchanged, ?_⟩
  · intro hinverse
    rcases (hinverse .passwordReset "000007" 3).2 hemployee with hself | ⟨hnone, -⟩
    · cases hmanager.symm.trans hself
    · cases hmanager.symm.trans hnone
  · intro hown
    have hsame := hown Sample.managerChanges .passwordReset "000007" 3 rfl
      (by rw [hlatest]; decide) 2 (by decide)
    rw [hsame] at hchanged
    cases hbefore.symm.trans hchanged

end OneTimeCodes

end Expentra
