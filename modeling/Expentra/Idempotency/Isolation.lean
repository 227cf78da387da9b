-- SUMMARY: A replayed response is that of an equal request exactly when equal keys come from equal requests only.
import Mathlib.Data.List.Infix
import Expentra.Idempotency.AtMostOnce
import Expentra.Library.History

/-!
# Whose response is replayed

The key of a response names the route by its pattern, which is the same for all
values of its parameters. Two requests of one route with one idempotency key and
one body share a key although they are for different expenses.
-/

namespace Expentra.Idempotency

open Library

/-! ## The parts of a key -/

/-- The routes marked `@Idempotent()`, with the global prefix and the version. -/
def idempotentRoutes : List (String × String) :=
  [("POST", "/api/v1/approvals/bulk-approve"),
   ("POST", "/api/v1/approvals/bulk-reject"),
   ("POST", "/api/v1/approvals/:expenseReference/approve"),
   ("POST", "/api/v1/approvals/:expenseReference/reject"),
   ("POST", "/api/v1/expenses/reimburse/bulk"),
   ("POST", "/api/v1/expenses/:reference/submit"),
   ("POST", "/api/v1/expenses/:reference/reimburse")]

/-- The router matched the request with an idempotent route. -/
def Request.IsRouted (request : Request) : Prop :=
  ∃ route ∈ idempotentRoutes, request.method = route.1 ∧ request.routePath = some route.2

section Parts

variable {hashRequestBody : Json → String} {r r' : Request} {key key' : String}

/-- A list is split in one way at the first element `x`. -/
theorem append_cons_inj {α : Type} {x : α} {l l' s s' : List α} (hl : x ∉ l) (hl' : x ∉ l')
    (h : l ++ x :: s = l' ++ x :: s') : l = l' ∧ s = s' := by
  rcases List.append_eq_append_iff.1 h with ⟨m, rfl, hm⟩ | ⟨m, rfl, hm⟩
  · cases m with
    | nil => exact ⟨by simp, List.tail_eq_of_cons_eq hm⟩
    | cons y m =>
      cases List.head_eq_of_cons_eq hm
      exact absurd (List.mem_append_right _ List.mem_cons_self) hl'
  · cases m with
    | nil => exact ⟨by simp, (List.tail_eq_of_cons_eq hm).symm⟩
    | cons y m =>
      cases List.head_eq_of_cons_eq hm
      exact absurd (List.mem_append_right _ List.mem_cons_self) hl

/-- Texts are split in one way at the first separator. -/
theorem append_separator_inj {a b a' b' : String} (ha : ':' ∉ a.toList) (ha' : ':' ∉ a'.toList)
    (h : a ++ (":" ++ b) = a' ++ (":" ++ b')) : a = a' ∧ b = b' := by
  have hlist : a.toList ++ ':' :: b.toList = a'.toList ++ ':' :: b'.toList := by
    simpa using congrArg String.toList h
  obtain ⟨hleft, hright⟩ := append_cons_inj ha ha' hlist
  exact ⟨String.toList_inj.1 hleft, String.toList_inj.1 hright⟩

/-- And in one way at the last. -/
theorem separator_append_inj {a b a' b' : String} (hb : ':' ∉ b.toList) (hb' : ':' ∉ b'.toList)
    (h : a ++ (":" ++ b) = a' ++ (":" ++ b')) : a = a' ∧ b = b' := by
  have hlist : b.toList.reverse ++ ':' :: a.toList.reverse =
      b'.toList.reverse ++ ':' :: a'.toList.reverse := by
    simpa using congrArg (fun s => s.toList.reverse) h
  obtain ⟨hright, hleft⟩ := append_cons_inj (List.mem_reverse.not.2 hb) (List.mem_reverse.not.2 hb')
    hlist
  exact ⟨String.toList_inj.1 (List.reverse_inj.1 hleft),
    String.toList_inj.1 (List.reverse_inj.1 hright)⟩

theorem separator_notMem_toString (n : Nat) : ':' ∉ (toString n).toList := by
  intro hmem
  rw [Nat.toString_eq_repr, Nat.toList_repr] at hmem
  exact absurd (Nat.isDigit_of_mem_toDigits (by decide) (by decide) hmem) (by decide)

theorem eq_of_toString_eq {m n : Nat} (h : toString m = toString n) : m = n := by
  have hdigits : Nat.toDigits 10 m = Nat.toDigits 10 n := by
    simpa only [Nat.toString_eq_repr, Nat.toList_repr] using congrArg String.toList h
  calc m = Nat.ofDigitChars 10 (Nat.toDigits 10 m) 0 := Nat.ofDigitChars_ten_toDigits.symm
    _ = Nat.ofDigitChars 10 (Nat.toDigits 10 n) 0 := by rw [hdigits]
    _ = n := Nat.ofDigitChars_ten_toDigits

/-- No idempotent route continues another after a separator. -/
theorem routes_unambiguous : ∀ route ∈ idempotentRoutes, ∀ route' ∈ idempotentRoutes,
    ¬ (route.2 ++ ":").toList <+: route'.2.toList ∧ (route.2 = route'.2 → route = route') := by
  decide +kernel

theorem route_inj {route route' : String × String} {b b' : String} (h : route ∈ idempotentRoutes)
    (h' : route' ∈ idempotentRoutes) (heq : route.2 ++ (":" ++ b) = route'.2 ++ (":" ++ b')) :
    route = route' ∧ b = b' := by
  rw [← String.append_assoc, ← String.append_assoc] at heq
  have hsame : route.2 ++ ":" = route'.2 ++ ":" := by
    have hprefix := List.prefix_append (route.2 ++ ":").toList b.toList
    have hprefix' := List.prefix_append (route'.2 ++ ":").toList b'.toList
    rw [← String.toList_append] at hprefix hprefix'
    rw [← heq] at hprefix'
    have htail : ∀ s : String, (s ++ ":").toList = s.toList ++ [':'] := fun s => by simp
    rcases List.prefix_or_prefix_of_prefix hprefix hprefix' with hle | hle
    · rw [htail route'.2, List.prefix_concat_iff, ← htail] at hle
      rcases hle with hle | hle
      · exact String.toList_inj.1 hle
      · exact absurd hle (routes_unambiguous route h route' h').1
    · rw [htail route.2, List.prefix_concat_iff, ← htail] at hle
      rcases hle with hle | hle
      · exact String.toList_inj.1 hle.symm
      · exact absurd hle (routes_unambiguous route' h' route h).1
  rw [hsame] at heq
  exact ⟨(routes_unambiguous route h route' h').2 (String.append_left_inj ":" |>.1 hsame),
    String.append_right_inj _ |>.1 heq⟩

/-- What the key of a response is made of. -/
structure SameKey (hashRequestBody : Json → String) (r r' : Request) : Prop where
  userId : r.userId = r'.userId
  method : r.method = r'.method
  routePath : r.routePath = r'.routePath
  idempotencyKey : readIdempotencyKey r = readIdempotencyKey r'
  body : hashRequestBody r.body = hashRequestBody r'.body

theorem arrive_of_ok (h : readIdempotencyKey r = .ok key) :
    arrive hashRequestBody r = ⟨scope r.userId (routeKey r)
      (buildIdempotencyStorageKey hashRequestBody key r.body), .reading⟩ := by
  simp only [arrive, h]

theorem arrive_of_error {e : HttpException} (h : readIdempotencyKey r = .error e) :
    arrive hashRequestBody r = ⟨"", .replied (.error e)⟩ := by
  simp only [arrive, h]

theorem Request.IsRouted.routeKey_eq (h : r.IsRouted) :
    ∃ route ∈ idempotentRoutes, r.method = route.1 ∧ r.routePath = some route.2 ∧
      routeKey r = "POST" ++ ":" ++ route.2 := by
  obtain ⟨route, hroute, hmethod, hpath⟩ := h
  have hpost : ∀ route ∈ idempotentRoutes, route.1 = "POST" := by decide
  refine ⟨route, hroute, hmethod, hpath, ?_⟩
  rw [routeKey, hmethod, hpath, hpost route hroute, Option.getD_some]

/-- Two requests of idempotent routes share a key in Redis if and only if they have
    the same parts. -/
theorem arrive_scope_inj (hhex : ∀ body, ':' ∉ (hashRequestBody body).toList) (hr : r.IsRouted)
    (hr' : r'.IsRouted) (hkey : readIdempotencyKey r = .ok key)
    (hkey' : readIdempotencyKey r' = .ok key') :
    (arrive hashRequestBody r).scope = (arrive hashRequestBody r').scope ↔
      SameKey hashRequestBody r r' := by
  rw [arrive_of_ok hkey, arrive_of_ok hkey']
  constructor
  · intro heq
    obtain ⟨route, hroute, hmethod, hpath, hrouteKey⟩ := hr.routeKey_eq
    obtain ⟨route', hroute', hmethod', hpath', hrouteKey'⟩ := hr'.routeKey_eq
    simp only [scope, buildIdempotencyStorageKey, hrouteKey, hrouteKey', String.append_assoc] at heq
    obtain ⟨huser, hrest⟩ := append_separator_inj (separator_notMem_toString _)
      (separator_notMem_toString _) heq
    have hpost : "POST" ++ (":" ++ (route.2 ++ (":" ++ (key ++ (":" ++ hashRequestBody r.body))))) =
      "POST" ++ (":" ++ (route'.2 ++ (":" ++ (key' ++ (":" ++ hashRequestBody r'.body))))) := hrest
    obtain ⟨-, htarget⟩ := append_separator_inj (by decide) (by decide) hpost
    obtain ⟨hsame, hstorage⟩ := route_inj hroute hroute' htarget
    obtain ⟨hkeys, hbody⟩ := separator_append_inj (hhex _) (hhex _) hstorage
    subst hsame hkeys
    exact ⟨eq_of_toString_eq huser, hmethod.trans hmethod'.symm, hpath.trans hpath'.symm,
      hkey.trans hkey'.symm, hbody⟩
  · rintro ⟨huser, hmethod, hpath, hsame, hbody⟩
    cases hkey.symm.trans (hsame.trans hkey')
    obtain ⟨route, -, -, hsome⟩ := hr'
    simp only [scope, routeKey, buildIdempotencyStorageKey, huser, hmethod, hpath, hbody, hsome,
      Option.getD_some]

end Parts

/-! ## Where responses come from -/

/-- A response that the handler returned for a request. -/
structure Production where
  request : Request
  record : IdempotencyRecord

/-- The production of a step: the handler completes. -/
def produced (request : Request) (before after : Thread) : Option Production :=
  match before.phase, after.phase with
  | .handling, .saving record => some ⟨request, record⟩
  | _, _ => none

/-- The interceptor with the productions of its handlers. -/
def traced (hashRequestBody : Json → String) :
    Concurrent (Recorded State Production) (Started Request Thread) Request Outcome Empty :=
  (interceptor hashRequestBody).recorded produced

def before : Pool (Recorded State Production) (Started Request Thread) := Pool.idle ⟨empty, []⟩

/-- Without its history, it does what the interceptor does, and all of it. -/
theorem reaches_traced_iff {hashRequestBody : Json → String} {q : Pool State Thread} :
    Reaches (interceptor hashRequestBody).Step (.idle empty) q ↔
      ∃ p, Reaches (traced hashRequestBody).Step before p ∧ Concurrent.erase p = q := by
  constructor
  · intro hreach
    exact Concurrent.exists_recorded (p := before) hreach
  · rintro ⟨p, hreach, rfl⟩
    exact Concurrent.reaches_erase hreach

/-- The same user, method, full target and body. -/
structure SameRequest (r r' : Request) : Prop where
  userId : r.userId = r'.userId
  method : r.method = r'.method
  path : r.path = r'.path
  body : r.body = r'.body

/-- Every successful reply was produced for an equal request. -/
def Isolated (p : Pool (Recorded State Production) (Started Request Thread)) : Prop :=
  ∀ t ∈ p.threads, ∀ record, t.thread.phase = .replied (.success record) →
    ∃ production ∈ p.shared.log, production.record = record ∧
      SameRequest production.request t.arrival

/-- Requests with one key and the same route are for the same target. -/
def KeysTellApart (hashRequestBody : Json → String) (requests : Set Request) : Prop :=
  ∀ r ∈ requests, ∀ r' ∈ requests, (∃ key, readIdempotencyKey r = .ok key) →
    SameKey hashRequestBody r r' → r.path = r'.path ∧ r.body = r'.body

/-- The handler was called for a request with the scope `k`, and returned the record. -/
def Made (hashRequestBody : Json → String) (log : List Production) (k : String)
    (record : IdempotencyRecord) : Prop :=
  ∃ production ∈ log, production.record = record ∧
    (∃ key, readIdempotencyKey production.request = .ok key) ∧
    (arrive hashRequestBody production.request).scope = k

/-- The record a request has in its hands. -/
def Phase.record? : Phase → Option IdempotencyRecord
  | .saving record => some record
  | .releasing (.success record) => some record
  | .replied (.success record) => some record
  | _ => none

section Origin

variable {hashRequestBody : Json → String} {i : Nat} {s s' : Recorded State Production}
  {t t' : Started Request Thread} {log log' : List Production} {k : String}
  {record : IdempotencyRecord} {outcome : Outcome}

theorem Made.mono (h : Made hashRequestBody log k record) (hlog : ∀ production ∈ log, production ∈ log') :
    Made hashRequestBody log' k record := by
  obtain ⟨production, hmem, hproduction⟩ := h
  exact ⟨production, hlog production hmem, hproduction⟩

/-- What a request is known to be by its thread. -/
structure Follows (hashRequestBody : Json → String) (log : List Production)
    (t : Started Request Thread) : Prop where
  scope : t.thread.scope = (arrive hashRequestBody t.arrival).scope
  valid : (∃ key, readIdempotencyKey t.arrival = .ok key) ∨
    ∃ e, t.thread.phase = .replied (.error e)
  made : ∀ record, t.thread.phase.record? = some record →
    Made hashRequestBody log t.thread.scope record

/-- Every stored response was made for its key. -/
def RecordsMade (hashRequestBody : Json → String) (s : Recorded State Production) : Prop :=
  ∀ k record, s.state.records (buildKey k) = some record → Made hashRequestBody s.log k record

theorem follows_arrive (request : Request) :
    Follows hashRequestBody log ⟨request, arrive hashRequestBody request⟩ := by
  cases hkey : readIdempotencyKey request with
  | ok key =>
    refine ⟨rfl, .inl ⟨key, hkey⟩, fun record h => ?_⟩
    rw [arrive_of_ok hkey] at h
    cases h
  | error e =>
    refine ⟨rfl, .inr ⟨e, ?_⟩, fun record h => ?_⟩
    · rw [arrive_of_error hkey]
    · rw [arrive_of_error hkey] at h
      cases h

theorem record?_of_isSearching {phase : Phase} (h : phase.isSearching = true) :
    phase.record? = none := by
  cases phase <;> first | rfl | cases h

/-- A request that takes a step has a valid key. -/
theorem Follows.valid_of_advance (h : Follows hashRequestBody log t) {after : State × Thread}
    {state : State} (hstep : advance i state t.thread outcome = some after) :
    ∃ key, readIdempotencyKey t.arrival = .ok key := by
  rcases h.valid with hvalid | ⟨e, hphase⟩
  · exact hvalid
  · unfold advance at hstep
    rw [hphase] at hstep
    cases hstep

/-- A move keeps what is known of the stored responses, and of the response the
    request has in its hands. -/
theorem Move.keepsMade {s s' : State} {phase phase' : Phase}
    (hmove : Move i s k phase outcome s' phase')
    (hrecords : ∀ k record, s.records (buildKey k) = some record → Made hashRequestBody log k record)
    (hhands : ∀ record, phase.record? = some record → Made hashRequestBody log k record)
    (hlog : ∀ production ∈ log, production ∈ log')
    (hnew : ∀ record, phase = .handling → phase' = .saving record →
      Made hashRequestBody log' k record) :
    (∀ k record, s'.records (buildKey k) = some record → Made hashRequestBody log' k record) ∧
      ∀ record, phase'.record? = some record → Made hashRequestBody log' k record := by
  have hkeep : ∀ k record, s.records (buildKey k) = some record →
      Made hashRequestBody log' k record := fun k record h => (hrecords k record h).mono hlog
  cases hmove with
  | search _ hphase =>
    refine ⟨hkeep, fun record h => ?_⟩
    rw [record?_of_isSearching hphase] at h
    cases h
  | replay hrecord =>
    refine ⟨hkeep, fun record h => ?_⟩
    cases h
    exact hkeep k _ hrecord
  | @refuse _ _ reply hreply =>
    refine ⟨hkeep, fun record h => ?_⟩
    cases reply with
    | success record' => exact absurd rfl (hreply record')
    | error _ => cases h
    | storeFailed => cases h
  | lock _ => exact ⟨hkeep, nofun⟩
  | loseLock _ => exact ⟨hkeep, nofun⟩
  | complete =>
    refine ⟨hkeep, fun record h => ?_⟩
    cases h
    exact hnew _ rfl rfl
  | throw => exact ⟨hkeep, nofun⟩
  | @save saved _ reply hreply =>
    have hsaved : Made hashRequestBody log' k saved := (hhands saved rfl).mono hlog
    refine ⟨fun k' record h => ?_, fun record h => ?_⟩
    · replace h : (s.records.setCache (buildKey k) saved) (buildKey k') = some record := h
      by_cases hk : buildKey k' = buildKey k
      · rw [hk, Redis.setCache_self, Option.some.injEq] at h
        exact buildKey_inj.1 hk ▸ h ▸ hsaved
      · rw [Redis.setCache_of_ne hk] at h
        exact hkeep k' record h
    · rcases hreply with rfl | rfl
      · cases h
        exact hsaved
      · cases h
  | lose => exact ⟨hkeep, nofun⟩
  | @release reply _ reply' hreply =>
    refine ⟨hkeep, fun record h => ?_⟩
    rcases hreply with rfl | rfl
    · cases reply' with
      | success record' => exact (hhands record h).mono hlog
      | error _ => cases h
      | storeFailed => cases h
    · cases h

theorem outline_traced (hashRequestBody : Json → String) :
    (traced hashRequestBody).Outline Concurrent.anyStep (RecordsMade hashRequestBody)
      (fun _ s t => Follows hashRequestBody s.log t) where
  start := by
    intro s request s' t hs hstart
    cases hstart
    exact ⟨hs, fun _ => follows_arrive request, fun _ _ => id⟩
  step := by
    intro i s t outcome s' t' hs ht _ hstep
    obtain ⟨⟨state, thread⟩, hadvance, hafter⟩ := Option.map_eq_some_iff.1 hstep
    cases hafter
    have hlog : ∀ production ∈ s.log,
        production ∈ s.log ++ (produced t.arrival t.thread thread).toList :=
      fun _ => List.mem_append_left _
    have hvalid := ht.valid_of_advance hadvance
    obtain ⟨hscope, hmove⟩ := advance_move hadvance
    obtain ⟨hrecords, hhands⟩ := hmove.keepsMade hs ht.made hlog (fun record hphase hphase' => by
      have hproduced : produced t.arrival t.thread thread = some ⟨t.arrival, record⟩ := by
        unfold produced
        rw [hphase, hphase']
      refine ⟨⟨t.arrival, record⟩, ?_, rfl, hvalid, ht.scope.symm⟩
      rw [hproduced]
      exact List.mem_append_right _ (List.mem_singleton_self _))
    refine ⟨hrecords, ⟨hscope.trans ht.scope, .inl hvalid, fun record h => hscope ▸ hhands record h⟩,
      fun j u _ hu => ⟨hu.scope, hu.valid, fun record h => (hu.made record h).mono hlog⟩⟩
  surroundings := nofun

/-- Responses are produced for the requests of the pool only. -/
theorem productions_started {p : Pool (Recorded State Production) (Started Request Thread)}
    (hreach : Reaches (traced hashRequestBody).Step before p) :
    ∀ production ∈ p.shared.log, production.request ∈ Concurrent.arrivals p := by
  refine hreach.invariant (P := fun p => ∀ production ∈ p.shared.log,
    production.request ∈ Concurrent.arrivals p) ?_ nofun
  intro p turn p' hp hstep production hproduction
  rw [Concurrent.arrivals_next hstep]
  rcases Concurrent.log_next hstep production hproduction with hold | ⟨request, hrequest, t, t', hshown⟩
  · exact List.mem_append_left _ (hp production hold)
  · unfold produced at hshown
    split at hshown <;> cases hshown
    exact List.mem_append_left _ hrequest

/-- Every successful reply was produced for a request with the same key. -/
theorem replied_made {p : Pool (Recorded State Production) (Started Request Thread)}
    (hreach : Reaches (traced hashRequestBody).Step before p) {t : Started Request Thread}
    (ht : t ∈ p.threads) (hphase : t.thread.phase = .replied (.success record)) :
    (∃ key, readIdempotencyKey t.arrival = .ok key) ∧
      Made hashRequestBody p.shared.log (arrive hashRequestBody t.arrival).scope record := by
  have hempty : RecordsMade hashRequestBody ⟨empty, []⟩ := nofun
  have hholds := (outline_traced hashRequestBody).reaches_anyStep (Concurrent.holds_idle hempty) hreach
  obtain ⟨i, hi⟩ := List.mem_iff_getElem?.1 ht
  have hfollows := hholds.thread i t hi
  refine ⟨?_, hfollows.scope ▸ hfollows.made record (by rw [hphase]; rfl)⟩
  rcases hfollows.valid with hvalid | ⟨e, herror⟩
  · exact hvalid
  · rw [hphase] at herror
    cases herror

/-- The turns in which a request is handled, and then another one arrives and looks
    for a response. -/
def crossing (r r' : Request) : List (Turn Request Outcome Empty) :=
  [.start r, .step 0 .answers, .step 0 .answers, .step 0 (.handled 200 .null), .step 0 .answers,
    .step 0 .answers, .start r', .step 1 .answers]

/-- A request with the key of another one gets the response of the other one. -/
theorem crossing_replays {r r' : Request} {k : String}
    (hr : arrive hashRequestBody r = ⟨k, .reading⟩) (hr' : arrive hashRequestBody r' = ⟨k, .reading⟩) :
    ∃ p, Reaches (traced hashRequestBody).Step before p ∧
      Concurrent.arrivals p = [r, r'] ∧ p.shared.log = [⟨r, ⟨200, .null⟩⟩] ∧
      (⟨r', ⟨k, .replied (.success ⟨200, .null⟩)⟩⟩ : Started Request Thread) ∈ p.threads := by
  have hexec : ∃ p, (traced hashRequestBody).exec Concurrent.anyStep (crossing r r') before = some p ∧
      Concurrent.arrivals p = [r, r'] ∧ p.shared.log = [⟨r, ⟨200, .null⟩⟩] ∧
      (⟨r', ⟨k, .replied (.success ⟨200, .null⟩)⟩⟩ : Started Request Thread) ∈ p.threads := by
    simp [crossing, Concurrent.exec, Concurrent.next, traced, Concurrent.recorded, interceptor, before,
      Pool.idle, hr, hr', advance, empty, produced, Redis.setIfNotExists, Redis.setCache_self,
      Concurrent.arrivals]
  obtain ⟨p, hexec, hp⟩ := hexec
  exact ⟨p, (Concurrent.reaches_of_exec hexec).of_guarded, hp⟩

/-- For requests of idempotent routes: every successful reply is the response to an
    equal request, in every order of their steps, if and only if requests with one key
    are for one target. -/
theorem replays_isolated_iff {requests : Set Request}
    (hhex : ∀ body, ':' ∉ (hashRequestBody body).toList) (hrouted : ∀ r ∈ requests, r.IsRouted) :
    (∀ p, Reaches (traced hashRequestBody).Step before p →
      (∀ r ∈ Concurrent.arrivals p, r ∈ requests) → Isolated p) ↔
    KeysTellApart hashRequestBody requests := by
  constructor
  · intro hisolated r hr r' hr' ⟨key, hkey⟩ hsame
    have hkey' : readIdempotencyKey r' = .ok key := hsame.idempotencyKey ▸ hkey
    have hscope := (arrive_scope_inj hhex (hrouted r hr) (hrouted r' hr') hkey hkey').2 hsame
    -- the second request arrives after the first was answered
    have hr₁ : arrive hashRequestBody r = ⟨(arrive hashRequestBody r).scope, .reading⟩ := by
      rw [arrive_of_ok hkey]
    have hr₂ : arrive hashRequestBody r' = ⟨(arrive hashRequestBody r).scope, .reading⟩ := by
      rw [hscope, arrive_of_ok hkey']
    obtain ⟨p, hreach, harrivals, hlog, ht⟩ := crossing_replays hr₁ hr₂
    have hmem : ∀ r'' ∈ Concurrent.arrivals p, r'' ∈ requests := by
      rw [harrivals]
      simp [hr, hr']
    obtain ⟨production, hproduction, -, hequal⟩ := hisolated p hreach hmem _ ht _ rfl
    rw [hlog, List.mem_singleton] at hproduction
    subst hproduction
    exact ⟨hequal.path, hequal.body⟩
  · intro hkeys p hreach hmem t ht record hphase
    obtain ⟨⟨key, hkey⟩, production, hproduction, hrecord, ⟨key', hkey'⟩, hscope⟩ :=
      replied_made hreach ht hphase
    have hr := hmem _ (productions_started hreach production hproduction)
    have ht' := hmem _ (List.mem_map_of_mem ht)
    have hsame := (arrive_scope_inj hhex (hrouted _ hr) (hrouted _ ht') hkey' hkey).1 hscope
    obtain ⟨hpath, hbody⟩ := hkeys _ hr _ ht' ⟨key', hkey'⟩ hsame
    exact ⟨production, hproduction, hrecord, hsame.userId, hsame.method, hpath, hbody⟩

end Origin

/-! ## Two expenses, one key -/

namespace Sample

/-- The approval of an expense, with the comment `ok`. -/
def approve (idempotencyKey reference : String) : Request :=
  ⟨2, "POST", some "/api/v1/approvals/:expenseReference/approve",
    "/api/v1/approvals/" ++ reference ++ "/approve", .one idempotencyKey,
    .obj [("comment", .str "ok")]⟩

/-- SHA-256 of the body `{"comment":"ok"}` in hexadecimal. -/
def commentHash : Json → String := fun _ =>
  "87b303a7e3d4faf7eea6016ea7608aba70008ec6d4c3dfb85fd61cf28f30b436"

def first : Request := approve "b1946ac9-2492" "EXP1700000000001AAAAAA"

def second : Request := approve "b1946ac9-2492" "EXP1700000000002BBBBBB"

/-- The second approval with a key of its own. -/
def secondAgain : Request := approve "2cd6ee2c-70b0" "EXP1700000000002BBBBBB"

/-- Two expenses approved one after the other, with one idempotency key. -/
def approvals : List (Turn Request Outcome Empty) :=
  [.start first, .step 0 .answers] ++ handle 0 "first" ++ [.start second, .step 1 .answers]

end Sample

theorem approve_isRouted (idempotencyKey reference : String) :
    (Sample.approve idempotencyKey reference).IsRouted :=
  ⟨("POST", "/api/v1/approvals/:expenseReference/approve"), by decide, rfl, rfl⟩

/-- Approvals of two expenses with two keys are isolated. -/
theorem replays_isolated_iff_sample :
    KeysTellApart Sample.commentHash {Sample.first, Sample.secondAgain} ∧
      ∀ p, Reaches (traced Sample.commentHash).Step before p →
        (∀ r ∈ Concurrent.arrivals p, r ∈ ({Sample.first, Sample.secondAgain} : Set Request)) →
        Isolated p := by
  have hdiffer : readIdempotencyKey Sample.first ≠ readIdempotencyKey Sample.secondAgain := by
    decide +kernel
  have hkeys : KeysTellApart Sample.commentHash {Sample.first, Sample.secondAgain} := by
    rintro r (rfl | rfl) r' (rfl | rfl) - hsame
    · exact ⟨rfl, rfl⟩
    · exact absurd hsame.idempotencyKey hdiffer
    · exact absurd hsame.idempotencyKey hdiffer.symm
    · exact ⟨rfl, rfl⟩
  refine ⟨hkeys, (replays_isolated_iff (fun _ => ?_) ?_).2 hkeys⟩
  · unfold Sample.commentHash
    decide
  · rintro r (rfl | rfl) <;> exact approve_isRouted _ _

/-- The record of a successful reply. -/
def Phase.replied? : Phase → Option IdempotencyRecord
  | .replied (.success record) => some record
  | _ => none

theorem not_isolated {p : Pool (Recorded State Production) (Started Request Thread)}
    {t : Started Request Thread} (ht : t ∈ p.threads) (hreplied : t.thread.phase.replied?.isSome = true)
    (hlog : ∀ production ∈ p.shared.log, production.request.path ≠ t.arrival.path) : ¬ Isolated p := by
  intro hisolated
  obtain ⟨record, hrecord⟩ := Option.isSome_iff_exists.1 hreplied
  have hphase : t.thread.phase = .replied (.success record) := by
    unfold Phase.replied? at hrecord
    split at hrecord
    · cases hrecord
      assumption
    · cases hrecord
  obtain ⟨production, hproduction, -, hequal⟩ := hisolated t ht record hphase
  exact hlog production hproduction hequal.path

/-- The approval of the second expense is answered with that of the first, and its
    handler is not called. -/
theorem approvals_cross :
    ∃ p, Reaches (traced Sample.commentHash).Step before p ∧
      Concurrent.arrivals p = [Sample.first, Sample.second] ∧
      p.shared.log.map (·.request.path) = [Sample.first.path] ∧
      Sample.successes (Concurrent.erase p) = [(201, .str "first"), (201, .str "first")] ∧ ¬ Isolated p := by
  have hrun : ((traced Sample.commentHash).exec Concurrent.anyStep Sample.approvals before).any
      (fun p => p.shared.log.map (·.request.path) = [Sample.first.path] ∧
        Sample.successes (Concurrent.erase p) = [(201, .str "first"), (201, .str "first")] ∧
        p.threads.any (fun t => t.thread.phase.replied?.isSome &&
          p.shared.log.all (fun production => production.request.path ≠ t.arrival.path)) = true) = true := by
    decide +kernel
  obtain ⟨p, hexec, hp⟩ := (Option.any_eq_true _ _).1 hrun
  obtain ⟨hlog, hsuccesses, hcrossed⟩ := of_decide_eq_true hp
  obtain ⟨t, ht, hcrossed⟩ := List.any_eq_true.1 hcrossed
  obtain ⟨hreplied, hother⟩ := Bool.and_eq_true_iff.1 hcrossed
  exact ⟨p, (Concurrent.reaches_of_exec hexec).of_guarded, Concurrent.arrivals_of_exec hexec, hlog,
    hsuccesses, not_isolated ht hreplied (fun production hproduction =>
      of_decide_eq_true (List.all_eq_true.1 hother production hproduction))⟩

end Expentra.Idempotency
