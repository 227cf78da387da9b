-- SUMMARY: The sliding-window rate limiter: a set of timestamps in Redis, and when it counts every allowed call.
import Expentra.Core.Javascript
import Expentra.Library.Run
import Expentra.Library.SlidingWindow
import Mathlib.Algebra.Order.Monoid.Unbundled.Basic
import Mathlib.Data.Finset.Max

/-!
# The rate limiter

The script keeps a sorted set of the timestamps of allowed calls, drops those that have
left the window, and allows a call when fewer than the limit are left. A timestamp is
the member of the set as well as its score, so that calls of one millisecond are one
member. As long as no call is allowed at a timestamp that is in the set already, and
none because Redis did not answer, the limit holds in every window.
-/

namespace Expentra.RateLimiter

open Library

/-! ## The sorted set -/

/-- The sorted set under a key, whose members are their own scores, and when the key
    expires. A key without members does not exist. -/
structure RateKey where
  scores : Finset Instant
  expireAt : Option Instant
deriving DecidableEq

def RateKey.missing : RateKey := ⟨∅, none⟩

namespace RateKey

/-- The key as a command finds it. -/
def live (key : RateKey) (now : Instant) : RateKey :=
  if key.expireAt.any (· < now) then missing else key

/-- `ZREMRANGEBYSCORE key min max` -/
def zremrangebyscore (key : RateKey) (lowest highest : Instant) : RateKey :=
  { key with scores := key.scores.filter (fun score => ¬ (lowest ≤ score ∧ score ≤ highest)) }

/-- `ZADD key score member`, for a member that is its score. -/
def zadd (key : RateKey) (score : Instant) : RateKey := { key with scores := insert score key.scores }

/-- `PEXPIRE key ttl`; a key that has no time to live is deleted. -/
def pexpire (key : RateKey) (ttl : Nat) (now : Instant) : RateKey :=
  if ttl = 0 then missing else { key with expireAt := some (now + ttl) }

end RateKey

/-! ## The service -/

structure RateLimitResult where
  allowed : Bool
  remaining : Int
  resetTime : Instant

/-- `sliding-window.lua`. The clock of the server is taken to agree with those of the callers. -/
def slidingWindow (key : RateKey) (now : Instant) (window limit : Nat) : RateLimitResult × RateKey :=
  let clearBefore := now - window
  let cleared := (key.live now).zremrangebyscore 0 clearBefore
  let count := cleared.scores.card
  let allowed := count < limit
  let remaining := if allowed then (limit : Int) - count - 1 else 0
  let key := if allowed then (cleared.zadd now).pexpire window now else cleared
  let resetTime := key.scores.min.recTopCoe 0 (fun earliest => earliest + window)
  (⟨allowed, remaining, resetTime⟩, key)

/-- What comes of the evaluation of the script. -/
inductive Evaluation where
  | answers
  /-- The evaluation throws; the script may have run nevertheless. -/
  | throws (executed : Bool)
deriving DecidableEq, Repr

def checkRateLimit (key : RateKey) (limit ttlInMs : Nat) (failClosed : Bool) (now : Instant)
    (evaluation : Evaluation) : RateLimitResult × RateKey :=
  let (result, evaluated) := slidingWindow key now ttlInMs limit
  match evaluation with
  | .answers => (result, evaluated)
  | .throws executed =>
    (if failClosed then ⟨false, 0, now + ttlInMs⟩ else ⟨true, limit, 0⟩,
      if executed then evaluated else key)

/-! ## Sequences of calls -/

structure Call where
  now : Instant
  failClosed : Bool
  evaluation : Evaluation

/-- The key, the time of the last call, and the times of the calls that were allowed. -/
structure State where
  key : RateKey
  clock : Instant
  allowed : List Instant

/-- A call on the key. -/
def State.check (limit ttlInMs : Nat) (s : State) (call : Call) : State :=
  let (result, key) := checkRateLimit s.key limit ttlInMs call.failClosed call.now call.evaluation
  ⟨key, call.now, if result.allowed then s.allowed ++ [call.now] else s.allowed⟩

/-- Calls whose timestamps do not decrease. -/
def Step (limit ttlInMs : Nat) (s : State) (call : Call) (s' : State) : Prop :=
  s.clock ≤ call.now ∧ s' = s.check limit ttlInMs call

/-- The scores the script counts. -/
def counted (key : RateKey) (window : Nat) (now : Instant) : Finset Instant :=
  ((key.live now).zremrangebyscore 0 (now - window)).scores

/-- A call that Redis answers is not allowed at a timestamp that is counted already, and
    one that it does not answer fails closed. -/
def Counts (limit ttlInMs : Nat) : Guard State Call := fun s call =>
  match call.evaluation with
  | .answers => (counted s.key ttlInMs call.now).card < limit → call.now ∉ counted s.key ttlInMs call.now
  | .throws _ => call.failClosed = true

instance (limit ttlInMs : Nat) (s : State) (call : Call) : Decidable (Counts limit ttlInMs s call) := by
  unfold Counts
  split <;> infer_instance

section Window

variable {limit window : Nat} {key : RateKey} {now clock t : Instant} {allowed : List Instant}
  {s s' : State} {call : Call}

theorem mem_counted :
    t ∈ counted key window now ↔ t ∈ (key.live now).scores ∧ ¬ (0 ≤ t ∧ t ≤ now - window) := by
  rw [counted, RateKey.zremrangebyscore, Finset.mem_filter]

/-- The script allows a call when fewer than the limit are counted. -/
theorem slidingWindow_allowed :
    (slidingWindow key now window limit).1.allowed = decide ((counted key window now).card < limit) := rfl

/-- The key after the script. -/
theorem slidingWindow_key :
    (slidingWindow key now window limit).2 =
      if (counted key window now).card < limit then
        if window = 0 then .missing else ⟨insert now (counted key window now), some (now + window)⟩
      else ⟨counted key window now, (key.live now).expireAt⟩ := by
  unfold slidingWindow
  by_cases hroom : (counted key window now).card < limit
  · rw [if_pos hroom]
    exact if_pos hroom
  · rw [if_neg hroom]
    exact if_neg hroom

/-! ## What the key knows of the allowed calls -/

/-- The key has every allowed call of the window that ends now, none of them twice. -/
structure Recorded (window : Nat) (key : RateKey) (now : Instant) (allowed : List Instant) : Prop where
  past : ∀ t ∈ allowed, t ≤ now
  once : ∀ t, now < t + window → allowed.count t ≤ 1
  recorded : ∀ t ∈ allowed, now < t + window → t ∈ key.scores
  lives : ∀ t ∈ allowed, ∀ expireAt ∈ key.expireAt, t + window ≤ expireAt

namespace Recorded

theorem later (h : Recorded window key clock allowed) (hnow : clock ≤ now) :
    Recorded window key now allowed where
  past t ht := (h.past t ht).trans hnow
  once t hlive := h.once t (hnow.trans_lt hlive)
  recorded t ht hlive := h.recorded t ht (hnow.trans_lt hlive)
  lives := h.lives

/-- The script counts every allowed call of the window. -/
theorem counted (h : Recorded window key now allowed) (ht : t ∈ allowed) (hlive : now < t + window) :
    t ∈ counted key window now := by
  have hkey : key.live now = key := by
    rw [RateKey.live, if_neg]
    intro hexpired
    obtain ⟨expireAt, hexpire, hlt⟩ := (Option.any_eq_true _ _).1 hexpired
    have hlives := h.lives t ht expireAt hexpire
    exact absurd (of_decide_eq_true hlt) (not_lt.2 (hlive.le.trans hlives))
  rw [mem_counted, hkey]
  exact ⟨h.recorded t ht hlive, fun hcleared => absurd hlive (not_lt.2 (le_sub_iff_add_le.1 hcleared.2))⟩

/-- A key that has what the script counts, and does not expire before. -/
theorem of_counted (h : Recorded window key now allowed) {key' : RateKey}
    (hscores : ∀ t ∈ RateLimiter.counted key window now, t ∈ key'.scores)
    (hlives : ∀ t ∈ allowed, ∀ expireAt ∈ key'.expireAt, t + window ≤ expireAt) :
    Recorded window key' now allowed where
  past := h.past
  once := h.once
  recorded t ht hlive := hscores t (h.counted ht hlive)
  lives := hlives

/-- The script keeps the record, whether it allows the call or not. -/
theorem evaluated (limit : Nat) (h : Recorded window key now allowed) :
    Recorded window (slidingWindow key now window limit).2 now allowed := by
  rw [slidingWindow_key]
  split
  · split
    · -- nothing is in a window of no length
      rename_i hzero
      refine ⟨h.past, h.once, fun t ht hlive => ?_, fun t _ expireAt hexpire => ?_⟩
      · rw [hzero, Nat.cast_zero, add_zero] at hlive
        exact absurd hlive (not_lt.2 (h.past t ht))
      · cases hexpire
    · refine h.of_counted (fun t ht => Finset.mem_insert_of_mem ht) (fun t ht expireAt hexpire => ?_)
      cases hexpire
      exact add_le_add_left (h.past t ht) _
  · refine h.of_counted (fun t ht => ht) (fun t ht expireAt hexpire => ?_)
    rw [RateKey.live] at hexpire
    split at hexpire
    · cases hexpire
    · exact h.lives t ht expireAt hexpire

/-- A call that is allowed at a timestamp that is not counted is recorded. -/
theorem allow (h : Recorded window key now allowed)
    (hroom : (RateLimiter.counted key window now).card < limit)
    (hnew : now ∉ RateLimiter.counted key window now) :
    Recorded window (slidingWindow key now window limit).2 now (allowed ++ [now]) := by
  have hevaluated := h.evaluated limit
  refine ⟨?_, fun t hlive => ?_, ?_, ?_⟩
  · simpa [or_imp, forall_and] using h.past
  · rw [List.count_append, List.count_singleton]
    split
    · rename_i heq
      obtain rfl : now = t := by simpa using heq
      have hfresh : now ∉ allowed := fun hmem => hnew (h.counted hmem hlive)
      rw [List.count_eq_zero_of_not_mem hfresh]
    · exact h.once t hlive
  · intro t ht hlive
    rcases List.mem_append.1 ht with hold | hnow
    · exact hevaluated.recorded t hold hlive
    · obtain rfl := List.mem_singleton.1 hnow
      have hwindow : window ≠ 0 := by
        rintro rfl
        simp at hlive
      rw [slidingWindow_key, if_pos hroom, if_neg hwindow]
      exact Finset.mem_insert_self _ _
  · intro t ht expireAt hexpire
    rcases List.mem_append.1 ht with hold | hnow
    · exact hevaluated.lives t hold expireAt hexpire
    · obtain rfl := List.mem_singleton.1 hnow
      rw [slidingWindow_key, if_pos hroom] at hexpire
      split at hexpire
      · cases hexpire
      · cases hexpire
        exact le_rfl

end Recorded

/-! ## Runs -/

/-- The limit holds in every window so far, and the key has the calls of the last one. -/
structure Kept (limit window : Nat) (s : State) : Prop where
  within : WithinLimit limit (window : Instant) s.allowed
  recorded : Recorded window s.key s.clock s.allowed

/-- A call keeps the limit. -/
theorem Kept.check (h : Kept limit window s) (hclock : s.clock ≤ call.now)
    (hcounts : Counts limit window s call) : Kept limit window (s.check limit window call) := by
  have hnow := h.recorded.later hclock
  obtain ⟨now, failClosed, evaluation⟩ := call
  cases evaluation with
  | answers =>
    simp only [State.check, checkRateLimit, slidingWindow_allowed, decide_eq_true_eq]
    by_cases hroom : (counted s.key window now).card < limit
    · have hcount := countP_le_card (q := fun t => decide (now < t + window))
        (fun t ht => hnow.once t (of_decide_eq_true ht))
        (fun t ht hlive => hnow.counted ht (of_decide_eq_true hlive))
      rw [if_pos hroom]
      exact ⟨h.within.append (hcount.trans_lt hroom), hnow.allow hroom (hcounts hroom)⟩
    · rw [if_neg hroom]
      exact ⟨h.within, hnow.evaluated limit⟩
  | throws executed =>
    obtain rfl : failClosed = true := hcounts
    refine ⟨h.within, ?_⟩
    cases executed with
    | false => exact hnow
    | true => exact hnow.evaluated limit

/-- No half-open window of the length has more than the limit of allowed calls, in a run in
    which every allowed call is counted. The key may have other members at the start. -/
theorem limit_never_exceeded (hstart : s.allowed = [])
    (hreach : Reaches (Guarded (Counts limit window) (Step limit window)) s s') :
    ∀ a : Instant, s'.allowed.countP (fun t => a ≤ t ∧ t < a + window) ≤ limit := by
  have hkept : Kept limit window s := by
    refine ⟨hstart ▸ WithinLimit.nil, ?_⟩
    constructor <;> simp [hstart]
  have hkept' : Kept limit window s' := by
    refine hreach.invariant (fun s₁ call s₂ h hstep => ?_) hkept
    obtain ⟨hcounts, hclock, rfl⟩ := hstep
    exact h.check hclock hcounts
  exact hkept'.within

end Window

/-! ## Two calls per second -/

namespace Sample

def fresh : State := ⟨.missing, 0, []⟩

/-- The state after calls at some times that Redis answers. -/
def after (times : List Instant) : State :=
  times.foldl (fun s now => s.check 2 1000 ⟨now, false, .answers⟩) fresh

theorem reaches_after {G : Guard State Call} (times : List Instant) (now : Instant)
    (h : Reaches (Guarded G (Step 2 1000)) fresh (after times))
    (hG : G (after times) ⟨now, false, .answers⟩) (hclock : (after times).clock ≤ now) :
    Reaches (Guarded G (Step 2 1000)) fresh (after (times ++ [now])) := by
  refine h.tail (a := ⟨now, false, .answers⟩) ⟨hG, hclock, ?_⟩
  rw [after, List.foldl_append]
  rfl

end Sample

/-- The third call finds the limit reached; the last comes when the first has left the window. -/
theorem limit_never_exceeded_sample :
    Reaches (Guarded (Counts 2 1000) (Step 2 1000)) Sample.fresh (Sample.after [5, 6, 7, 1005]) ∧
      (Sample.after [5, 6, 7, 1005]).allowed = [5, 6, 1005] ∧
      ∀ a : Instant, (Sample.after [5, 6, 7, 1005]).allowed.countP
        (fun t => a ≤ t ∧ t < a + (1000 : Nat)) ≤ 2 := by
  have h₁ := Sample.reaches_after [] 5 (Reaches.refl (R := Guarded (Counts 2 1000) _))
    (by decide) (by decide)
  have h₂ := Sample.reaches_after _ 6 h₁ (by decide) (by decide)
  have h₃ := Sample.reaches_after _ 7 h₂ (by decide) (by decide)
  have h₄ := Sample.reaches_after _ 1005 h₃ (by decide) (by decide)
  exact ⟨h₄, by decide, limit_never_exceeded rfl h₄⟩

/-- All three calls of a millisecond are allowed, although the limit is two: the second and
    the third find one member in the set. -/
theorem burst_exceeds_limit :
    Reaches (Guarded (fun _ _ => True) (Step 2 1000)) Sample.fresh (Sample.after [5, 5, 5]) ∧
      ¬ ∀ a : Instant, (Sample.after [5, 5, 5]).allowed.countP
        (fun t => a ≤ t ∧ t < a + (1000 : Nat)) ≤ 2 := by
  have h₁ := Sample.reaches_after [] 5 (Reaches.refl (R := Guarded (fun _ _ => True) _))
    trivial (by decide)
  have h₂ := Sample.reaches_after _ 5 h₁ trivial (by decide)
  have h₃ := Sample.reaches_after _ 5 h₂ trivial (by decide)
  refine ⟨h₃, fun h => absurd (h 5) ?_⟩
  decide

end Expentra.RateLimiter
