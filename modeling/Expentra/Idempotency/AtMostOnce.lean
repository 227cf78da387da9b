-- SUMMARY: Requests with one key run their handler at most once, as long as no lock is taken after a response was stored.
import Expentra.Idempotency.Interceptor

/-!
# At most once

The lock keeps two handlers of one key from running side by side. It does not keep
them from running one after the other: a request that found no stored response
may take the lock after another request has stored its own and released it. In
runs where that does not happen, and where the response of every handler that
completed is stored, the handler of a key completes at most once.
-/

namespace Expentra.Idempotency

open Library

/-! ## What a step does -/

/-- The phases in which a request holds no lock and has no reply yet. -/
def Phase.isSearching : Phase → Bool
  | .reading | .locking | .waiting _ => true
  | _ => false

/-- A step of the request `i` with the scope `k`: its phase and the outcome, and the
    state and the phase after it. -/
inductive Move (i : Nat) (s : State) (k : String) : Phase → Outcome → State → Phase → Prop where
  | search {phase outcome phase'} : phase.isSearching = true → phase'.isSearching = true →
      Move i s k phase outcome s phase'
  | replay {phase outcome record} : s.records (buildKey k) = some record →
      Move i s k phase outcome s (.replied (.success record))
  | refuse {phase outcome reply} : (∀ record, reply ≠ .success record) →
      Move i s k phase outcome s (.replied reply)
  | lock : s.locks (buildLockKey k) = none →
      Move i s k .locking .answers
        { s with locks := s.locks.setCache (buildLockKey k) i } .handling
  | loseLock : s.locks (buildLockKey k) = none →
      Move i s k .locking (.fails true)
        { s with locks := s.locks.setCache (buildLockKey k) i } (.replied .storeFailed)
  | complete {statusCode body record} :
      Move i s k .handling (.handled statusCode body)
        { s with completions := Function.update s.completions k (s.completions k ++ [record]) }
        (.saving record)
  | throw {exception} : Move i s k .handling (.throws exception) s (.releasing (.error exception))
  | save {record outcome reply} : reply = .success record ∨ reply = .storeFailed →
      Move i s k (.saving record) outcome
        { s with records := s.records.setCache (buildKey k) record } (.releasing reply)
  | lose {record} : Move i s k (.saving record) (.fails false) s (.releasing .storeFailed)
  | release {reply outcome reply'} : reply' = reply ∨ reply' = .storeFailed →
      Move i s k (.releasing reply) outcome
        { s with locks := s.locks.del (buildLockKey k) } (.replied reply')

section Steps

variable {hashRequestBody : Json → String} {i j : Nat} {s s' : State} {t t' u : Thread}
  {outcome : Outcome} {k : String} {phase phase' : Phase}

/-- Every step of a request is a move, under the scope the request keeps. -/
theorem advance_move (h : advance i s t outcome = some (s', t')) :
    t'.scope = t.scope ∧ Move i s t.scope t.phase outcome s' t'.phase := by
  obtain ⟨scope, phase⟩ := t
  cases phase <;> cases outcome <;> simp only [advance, reduceCtorEq] at h
  case reading.answers =>
    split at h <;> cases h
    · exact ⟨rfl, .replay ‹_›⟩
    · exact ⟨rfl, .search rfl rfl⟩
  case reading.fails =>
    cases h
    exact ⟨rfl, .refuse nofun⟩
  case locking.answers =>
    cases hlock : s.locks (buildLockKey scope) with
    | none =>
      rw [Redis.setIfNotExists_of_none hlock] at h
      cases h
      exact ⟨rfl, .lock hlock⟩
    | some holder =>
      rw [Redis.setIfNotExists_of_some (by simp [hlock])] at h
      cases h
      exact ⟨rfl, .search rfl rfl⟩
  case locking.fails executed =>
    cases h
    cases executed with
    | false => exact ⟨rfl, .refuse nofun⟩
    | true =>
      cases hlock : s.locks (buildLockKey scope) with
      | none =>
        rw [if_pos rfl, Redis.setIfNotExists_of_none hlock]
        exact ⟨rfl, .loseLock hlock⟩
      | some holder =>
        rw [if_pos rfl, Redis.setIfNotExists_of_some (by simp [hlock])]
        exact ⟨rfl, .refuse nofun⟩
  case waiting.answers =>
    split at h
    · cases h
      exact ⟨rfl, .replay ‹_›⟩
    · split at h <;> cases h
      · exact ⟨rfl, .search rfl rfl⟩
      · exact ⟨rfl, .refuse nofun⟩
  case waiting.fails =>
    cases h
    exact ⟨rfl, .refuse nofun⟩
  case handling.handled =>
    cases h
    exact ⟨rfl, .complete⟩
  case handling.throws =>
    cases h
    exact ⟨rfl, .throw⟩
  case saving.answers =>
    cases h
    exact ⟨rfl, .save (.inl rfl)⟩
  case saving.fails executed =>
    cases h
    cases executed with
    | false => exact ⟨rfl, .lose⟩
    | true => exact ⟨rfl, .save (.inr rfl)⟩
  case releasing.answers =>
    cases h
    exact ⟨rfl, .release (.inl rfl)⟩
  case releasing.fails executed =>
    cases h
    cases executed with
    | false => exact ⟨rfl, .refuse nofun⟩
    | true => exact ⟨rfl, .release (.inr rfl)⟩

/-- A step concerns its own scope only, and writes only as the holder of the lock or
    when nobody holds it. -/
structure Touches (i : Nat) (k : String) (s s' : State) : Prop where
  others : ∀ k', k' ≠ k → s'.records (buildKey k') = s.records (buildKey k') ∧
    s'.locks (buildLockKey k') = s.locks (buildLockKey k') ∧ s'.completions k' = s.completions k'
  writer : s' = s ∨ s.locks (buildLockKey k) = none ∨ s.locks (buildLockKey k) = some i
  completions : s'.completions k = s.completions k ∨ s.completions k = []

theorem touches_locks {locks : Redis String Nat}
    (hlocks : ∀ k', k' ≠ k → locks (buildLockKey k') = s.locks (buildLockKey k'))
    (hwriter : s.locks (buildLockKey k) = none ∨ s.locks (buildLockKey k) = some i) :
    Touches i k s { s with locks := locks } :=
  ⟨fun k' hne => ⟨rfl, hlocks k' hne, rfl⟩, .inr hwriter, .inl rfl⟩

/-! ## The invariant -/

/-- What Redis and the handler know about a scope: one completion at most, stored if
    it is not about to be. -/
structure Consistent (s : State) (k : String) : Prop where
  once : (s.completions k).length ≤ 1
  stored : ∀ record, s.records (buildKey k) = some record → s.completions k = [record]
  unlocked : s.locks (buildLockKey k) = none →
    s.completions k = [] ∨ s.records (buildKey k) ≠ none

theorem consistent_empty (k : String) : Consistent empty k := by
  refine ⟨Nat.zero_le 1, fun record h => ?_, fun _ => .inl rfl⟩
  cases h

/-- What a request knows in each phase. -/
def Knows (i : Nat) (s : State) (k : String) : Phase → Prop
  | .reading | .locking | .waiting _ => True
  | .handling => s.locks (buildLockKey k) = some i ∧ s.completions k = []
  | .saving record => s.locks (buildLockKey k) = some i ∧ s.completions k = [record]
  | .releasing reply => s.locks (buildLockKey k) = some i ∧
      (s.completions k = [] ∨ s.records (buildKey k) ≠ none) ∧
      ∀ record, reply = .success record → s.completions k = [record]
  | .replied reply => ∀ record, reply = .success record → s.completions k = [record]

theorem knows_of_isSearching (h : phase.isSearching = true) : Knows i s k phase := by
  cases phase <;> first | exact trivial | cases h

/-- The request asks for the lock, and is answered. -/
def takesLock : Phase → Outcome → Bool
  | .locking, .answers => true
  | _, _ => false

/-- The response of the handler is not stored. -/
def losesResponse : Phase → Outcome → Bool
  | .saving _, .fails false => true
  | _, _ => false

/-- A lock is taken only while no response is stored, and the response of a handler
    that completed is stored. -/
def Orderly (_ : Nat) (s : State) (t : Thread) (outcome : Outcome) : Prop :=
  (takesLock t.phase outcome = true → s.locks (buildLockKey t.scope) = none →
    s.records (buildKey t.scope) = none) ∧
  losesResponse t.phase outcome = false

instance (i : Nat) (s : State) (t : Thread) (outcome : Outcome) :
    Decidable (Orderly i s t outcome) := inferInstanceAs (Decidable (_ ∧ _))

theorem Consistent.congr (h : Consistent s k)
    (hsame : s'.records (buildKey k) = s.records (buildKey k) ∧
      s'.locks (buildLockKey k) = s.locks (buildLockKey k) ∧ s'.completions k = s.completions k) :
    Consistent s' k := by
  obtain ⟨hrecords, hlocks, hcompletions⟩ := hsame
  constructor
  · rw [hcompletions]
    exact h.once
  · rw [hrecords, hcompletions]
    exact h.stored
  · rw [hrecords, hlocks, hcompletions]
    exact h.unlocked

theorem Move.touches (hmove : Move i s k phase outcome s' phase') (hknows : Knows i s k phase) :
    Touches i k s s' := by
  have hsame : Touches i k s s := ⟨fun _ _ => ⟨rfl, rfl, rfl⟩, .inl rfl, .inl rfl⟩
  have hset : ∀ k', k' ≠ k → (s.locks.setCache (buildLockKey k) i) (buildLockKey k') =
      s.locks (buildLockKey k') :=
    fun k' hne => Redis.setCache_of_ne (fun h => hne (buildLockKey_inj.1 h))
  have hdel : ∀ k', k' ≠ k → (s.locks.del (buildLockKey k)) (buildLockKey k') =
      s.locks (buildLockKey k') :=
    fun k' hne => Redis.del_of_ne (fun h => hne (buildLockKey_inj.1 h))
  cases hmove with
  | search _ _ => exact hsame
  | replay _ => exact hsame
  | refuse _ => exact hsame
  | lock hfree => exact touches_locks hset (.inl hfree)
  | loseLock hfree => exact touches_locks hset (.inl hfree)
  | complete =>
    obtain ⟨hlock, hnone⟩ := hknows
    exact ⟨fun k' hne => ⟨rfl, rfl, Function.update_of_ne hne ..⟩, .inr (.inr hlock), .inr hnone⟩
  | throw => exact hsame
  | save _ =>
    obtain ⟨hlock, -⟩ := hknows
    exact ⟨fun k' hne => ⟨Redis.setCache_of_ne (fun h => hne (buildKey_inj.1 h)), rfl, rfl⟩,
      .inr (.inr hlock), .inl rfl⟩
  | lose => exact hsame
  | release _ => exact touches_locks hdel (.inr hknows.1)

/-- A move keeps what is known about its scope, and the request knows what its new
    phase says. -/
theorem Move.keeps (hmove : Move i s k phase outcome s' phase') (hs : Consistent s k)
    (hknows : Knows i s k phase) (horderly : Orderly i s ⟨k, phase⟩ outcome) :
    Consistent s' k ∧ Knows i s' k phase' := by
  cases hmove with
  | search _ hphase => exact ⟨hs, knows_of_isSearching hphase⟩
  | replay hrecord =>
    refine ⟨hs, fun record hreply => ?_⟩
    cases hreply
    exact hs.stored _ hrecord
  | refuse hreply => exact ⟨hs, fun record h => absurd h (hreply record)⟩
  | lock hfree =>
    have hunstored : s.records (buildKey k) = none := horderly.1 rfl hfree
    have hnone : s.completions k = [] := by
      rcases hs.unlocked hfree with h | h
      · exact h
      · exact absurd hunstored h
    exact ⟨⟨hs.once, hs.stored, fun _ => .inl hnone⟩, Redis.setCache_self, hnone⟩
  | loseLock hfree =>
    exact ⟨⟨hs.once, hs.stored, fun _ => hs.unlocked hfree⟩, nofun⟩
  | @complete _ _ record =>
    obtain ⟨hlock, hnone⟩ := hknows
    have hone : Function.update s.completions k (s.completions k ++ [record]) k = [record] := by
      rw [Function.update_self, hnone]
      rfl
    refine ⟨⟨(congrArg List.length hone).le, fun record' hrecord => ?_, fun hfree => ?_⟩,
      hlock, hone⟩
    · have hsome := hs.stored record' hrecord
      rw [hnone] at hsome
      cases hsome
    · rw [hlock] at hfree
      cases hfree
  | throw =>
    obtain ⟨hlock, hnone⟩ := hknows
    exact ⟨hs, hlock, .inl hnone, nofun⟩
  | @save record _ reply hreply =>
    obtain ⟨hlock, hone⟩ := hknows
    have hstored : (s.records.setCache (buildKey k) record) (buildKey k) = some record :=
      Redis.setCache_self
    have hnot : (s.records.setCache (buildKey k) record) (buildKey k) ≠ none := by
      rw [hstored]
      nofun
    refine ⟨⟨hs.once, fun record' hrecord => ?_, fun _ => .inr hnot⟩, hlock, .inr hnot,
      fun record' hsuccess => ?_⟩
    · cases hstored.symm.trans hrecord
      exact hone
    · rcases hreply with rfl | rfl
      · cases hsuccess
        exact hone
      · cases hsuccess
  | lose => cases horderly.2
  | release hreply =>
    obtain ⟨hlock, hdone, hsuccess⟩ := hknows
    refine ⟨⟨hs.once, hs.stored, fun _ => hdone⟩, fun record h => ?_⟩
    rcases hreply with rfl | rfl
    · exact hsuccess record h
    · cases h

/-- What one request does, another still knows what it knew. -/
theorem Touches.knows {k' : String} (h : Touches i k s s') (hij : j ≠ i)
    (hknows : Knows j s k' phase) : Knows j s' k' phase := by
  by_cases hk : k' = k
  · subst hk
    -- only the holder writes while the lock is held, and that is not the other request
    have hheld : s.locks (buildLockKey k') = some j → s' = s := fun hlock => by
      rcases h.writer with hsame | hfree | hother
      · exact hsame
      · rw [hlock] at hfree
        cases hfree
      · rw [hlock] at hother
        exact absurd (Option.some.inj hother) hij
    cases phase with
    | reading => trivial
    | locking => trivial
    | waiting attempt => trivial
    | handling => exact hheld hknows.1 ▸ hknows
    | saving record => exact hheld hknows.1 ▸ hknows
    | releasing reply => exact hheld hknows.1 ▸ hknows
    | replied reply =>
      intro record hreply
      have hone := hknows record hreply
      rcases h.completions with hsame | hnone
      · exact hsame.trans hone
      · rw [hone] at hnone
        cases hnone
  · obtain ⟨hrecords, hlocks, hcompletions⟩ := h.others k' hk
    cases phase <;> simp only [Knows, hrecords, hlocks, hcompletions] at hknows ⊢ <;> exact hknows

theorem outline (hashRequestBody : Json → String) :
    (interceptor hashRequestBody).Outline Orderly (fun s => ∀ k, Consistent s k)
      (fun i s t => Knows i s t.scope t.phase) where
  start := by
    intro s request s' t hs hstart
    cases hstart
    refine ⟨hs, fun i => ?_, fun _ _ => id⟩
    unfold arrive
    split
    · trivial
    · exact nofun
  step := by
    intro i s t outcome s' t' hs hknows horderly hstep
    obtain ⟨hscope, hmove⟩ := advance_move hstep
    have htouches := hmove.touches hknows
    obtain ⟨hself, hknows'⟩ := hmove.keeps (hs t.scope) hknows horderly
    refine ⟨fun k => ?_, hscope ▸ hknows', fun j u hij hu => htouches.knows hij hu⟩
    by_cases hk : k = t.scope
    · exact hk ▸ hself
    · exact (hs k).congr (htouches.others k hk)
  surroundings := nofun

/-- In a run whose steps are orderly, the handler completes at most once for each
    scope, and every successful reply is the response of that completion. -/
theorem handled_at_most_once {p : Pool State Thread}
    (hreach : Reaches (Guarded (Concurrent.onStep Orderly) (interceptor hashRequestBody).Step)
      (Pool.idle empty) p) (k : String) :
    (p.shared.completions k).length ≤ 1 ∧
      ∀ (i : Nat) (t : Thread) record, p.threads[i]? = some t → t.scope = k →
        t.phase = .replied (.success record) → p.shared.completions k = [record] := by
  have hholds := (outline hashRequestBody).reaches (Concurrent.holds_idle consistent_empty) hreach
  refine ⟨(hholds.shared k).once, ?_⟩
  intro i t record ht hscope hphase
  have hknows := hholds.thread i t ht
  rw [hphase, hscope] at hknows
  exact hknows record rfl

end Steps

/-! ## Two requests -/

namespace Sample

/-- SHA-256 of the body `{}` in hexadecimal. -/
def hashRequestBody : Json → String := fun _ =>
  "44136fa355b3678a1146ad16f7e8649e94fb4fc21fe77e8310c060f61caaff8a"

def request : Request :=
  ⟨1, "POST", some "/expenses/:reference/submit", "/expenses/EXP1700000000001AAAAAA/submit",
    .one "5f0c2a7e-retry", .obj []⟩

def requestScope : String := (arrive hashRequestBody request).scope

/-- The steps of the request `i` from the lock to the reply, without an incident. -/
def handle (i : Nat) (body : String) : List (Turn Request Outcome Empty) :=
  [.step i .answers, .step i (.handled 201 (.str body)), .step i .answers, .step i .answers]

/-- A request and, after its reply, a retry. -/
def retry : List (Turn Request Outcome Empty) :=
  [.start request, .step 0 .answers] ++ handle 0 "first" ++ [.start request, .step 1 .answers]

/-- A request whose retry has looked for a response before there was one. -/
def earlyRetry : List (Turn Request Outcome Empty) :=
  [.start request, .start request, .step 0 .answers, .step 1 .answers] ++ handle 0 "first" ++
    handle 1 "second"

/-- The successful replies of a pool, in the order the requests arrived. -/
def successes (p : Pool State Thread) : List (Nat × Json) :=
  p.threads.filterMap (fun t =>
    match t.phase with
    | .replied (.success record) => some (record.statusCode, record.body)
    | _ => none)

end Sample

theorem handled_at_most_once_sample :
    ∃ p, (interceptor Sample.hashRequestBody).exec Orderly Sample.retry (Pool.idle empty) = some p ∧
      Sample.successes p = [(201, .str "first"), (201, .str "first")] ∧
      (p.shared.completions Sample.requestScope).length ≤ 1 := by
  have hrun : ((interceptor Sample.hashRequestBody).exec Orderly Sample.retry (Pool.idle empty)).any
      (fun p => Sample.successes p = [(201, .str "first"), (201, .str "first")]) = true := by decide +kernel
  obtain ⟨p, hexec, hsuccesses⟩ := (Option.any_eq_true _ _).1 hrun
  exact ⟨p, hexec, of_decide_eq_true hsuccesses,
    (handled_at_most_once (Concurrent.reaches_of_exec hexec) Sample.requestScope).1⟩

/-- The early retry takes the lock after the first request released it: the handler
    completes twice and the two replies differ. -/
theorem earlyRetry_handled_twice :
    ∃ p, (interceptor Sample.hashRequestBody).exec Concurrent.anyStep Sample.earlyRetry
        (Pool.idle empty) = some p ∧
      (p.shared.completions Sample.requestScope).length = 2 ∧
      Sample.successes p = [(201, .str "first"), (201, .str "second")] := by
  have hrun : ((interceptor Sample.hashRequestBody).exec Concurrent.anyStep Sample.earlyRetry
      (Pool.idle empty)).any (fun p => (p.shared.completions Sample.requestScope).length = 2 ∧
        Sample.successes p = [(201, .str "first"), (201, .str "second")]) = true := by decide +kernel
  obtain ⟨p, hexec, hp⟩ := (Option.any_eq_true _ _).1 hrun
  exact ⟨p, hexec, of_decide_eq_true hp⟩

end Expentra.Idempotency
