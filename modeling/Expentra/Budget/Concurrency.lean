-- SUMMARY: The pool of loops that share an index: every item is handed to the worker once, and the calls in flight are bounded.
import Expentra.Library.Run
import Mathlib.Algebra.Order.Monoid.Unbundled.WithTop
import Mathlib.Data.Rat.Floor

/-!
# Running with bounded concurrency

`runWithConcurrency` makes a pool of loops over one index. All are made before any goes on:
a loop runs to its first call of the worker, and goes on when the promise of that call
resolves. The promises settle in any order.
-/

namespace Expentra.RunWithConcurrency

open Library

/-- The numbers but `NaN`, which bounds nothing; `⊥` and `⊤` are the infinities. -/
abbrev Bound := WithBot (WithTop ℚ)

/-- The length that `Array.from({ length })` reads from a number. -/
def toLength : Bound → Nat
  | ⊥ => 0
  | some ⊤ => 2 ^ 53 - 1
  | some (some length) => length.floor.toNat

/-- `Math.min(Math.max(1, concurrency), items.length)`, in whole loops. -/
def poolSize (concurrency : Bound) (itemCount : Nat) : Nat :=
  toLength (min (max 1 concurrency) itemCount)

inductive Loop where
  /-- `await worker(items[currentIndex])` -/
  | awaiting (currentIndex : Nat)
  | returned
  | failed
deriving DecidableEq, Repr

def Loop.isAwaiting : Loop → Bool
  | .awaiting _ => true
  | .returned => false
  | .failed => false

/-- The promise that `runWithConcurrency` returns. -/
inductive Outcome where
  | pending
  | resolved
  | rejected
deriving DecidableEq, Repr

structure State (α : Type) where
  nextIndex : Nat
  /-- In the order in which they are made. -/
  loops : List Loop
  /-- The items that the worker has been called on. -/
  calls : List α
  outcome : Outcome
deriving DecidableEq, Repr

/-- Calls of the worker whose loops have not gone on. -/
def State.inFlight {α : Type} (s : State α) : Nat := s.loops.countP Loop.isAwaiting

variable {α : Type}

def start (items : List α) : State α where
  nextIndex := 0
  loops := []
  calls := []
  outcome := if items.length = 0 then .resolved else .pending

/-- A loop runs up to its next call of the worker, or to its end. -/
def advance (items : List α) (s : State α) : State α × Loop :=
  if h : s.nextIndex < items.length then
    ({ s with nextIndex := s.nextIndex + 1, calls := s.calls ++ [items[s.nextIndex]] },
      .awaiting s.nextIndex)
  else (s, .returned)

inductive Event where
  /-- The next loop is made, and runs. -/
  | make
  /-- The promise that a loop awaits resolves, and the loop goes on. -/
  | workerResolved (loop : Nat)
  /-- The promise that a loop awaits rejects, or the call has thrown. -/
  | workerRejected (loop : Nat)
  /-- `Promise.all` settles. -/
  | settle
deriving DecidableEq, Repr

def isAwaiting (s : State α) (loop : Nat) : Bool := s.loops[loop]?.any Loop.isAwaiting

def made (items : List α) (s : State α) : State α :=
  { (advance items s).1 with loops := s.loops ++ [(advance items s).2] }

def resumed (items : List α) (s : State α) (loop : Nat) : State α :=
  { (advance items s).1 with loops := s.loops.set loop (advance items s).2 }

/-- One event, where it can happen. No loop goes on, and nothing settles, before all are made. -/
def step (items : List α) (concurrency : Bound) (s : State α) (event : Event) : Option (State α) :=
  let allMade := s.loops.length = poolSize concurrency items.length
  match event with
  | .make =>
    if s.loops.length < poolSize concurrency items.length then some (made items s) else none
  | .workerResolved loop =>
    if allMade ∧ isAwaiting s loop then some (resumed items s loop) else none
  | .workerRejected loop =>
    if isAwaiting s loop then some { s with loops := s.loops.set loop .failed } else none
  | .settle =>
    if allMade ∧ s.outcome = .pending then
      if .failed ∈ s.loops then some { s with outcome := .rejected }
      else if ∀ loop ∈ s.loops, loop = .returned then some { s with outcome := .resolved }
      else none
    else none

def Step (items : List α) (concurrency : Bound) (s : State α) (event : Event) (s' : State α) : Prop :=
  step items concurrency s event = some s'

/-! ## The size of the pool -/

theorem natCast_le_floor {length : ℚ} {n : Nat} (h : (n : ℚ) ≤ length) : n ≤ length.floor.toNat := by
  have hfloor : (n : Int) ≤ length.floor := Rat.le_floor_iff.2 (by rwa [Int.cast_natCast])
  omega

theorem floor_le {length : ℚ} (h : 0 ≤ length) : (length.floor.toNat : ℚ) ≤ length := by
  have hfloor : 0 ≤ length.floor := Rat.le_floor_iff.2 (by rwa [Int.cast_zero])
  rw [← Int.cast_natCast, Int.toNat_of_nonneg hfloor]
  exact Rat.floor_le length

theorem toLength_le {length : Bound} (h : 0 ≤ length) : (toLength length : Bound) ≤ length := by
  rcases length with _ | _ | length
  · exact absurd h (WithBot.not_coe_le_bot _)
  · exact le_top
  · have hnonneg : 0 ≤ length := WithTop.coe_le_coe.1 (WithBot.coe_le_coe.1 h)
    exact WithBot.coe_le_coe.2 (WithTop.coe_le_coe.2 (floor_le hnonneg))

theorem one_le_toLength {length : Bound} (h : 1 ≤ length) : 1 ≤ toLength length := by
  rcases length with _ | _ | length
  · exact absurd h (WithBot.not_coe_le_bot _)
  · decide
  · have hone : 1 ≤ length := WithTop.coe_le_coe.1 (WithBot.coe_le_coe.1 h)
    exact natCast_le_floor (by rwa [Nat.cast_one])

theorem poolSize_le (concurrency : Bound) (itemCount : Nat) :
    (poolSize concurrency itemCount : Bound) ≤ max 1 concurrency := by
  have hone : (0 : Bound) ≤ 1 := by decide
  have hcount : (0 : Bound) ≤ itemCount :=
    WithBot.coe_le_coe.2 (WithTop.coe_le_coe.2 (Nat.cast_nonneg itemCount))
  exact (toLength_le (le_min (hone.trans (le_max_left 1 concurrency)) hcount)).trans
    (min_le_left _ _)

theorem one_le_poolSize (concurrency : Bound) {itemCount : Nat} (h : 1 ≤ itemCount) :
    1 ≤ poolSize concurrency itemCount := by
  have hcount : (1 : Bound) ≤ itemCount := by
    exact_mod_cast h
  exact one_le_toLength (le_min (le_max_left 1 concurrency) hcount)

theorem poolSize_zero (concurrency : Bound) : poolSize concurrency 0 = 0 := by
  have hone : (0 : Bound) ≤ 1 := by decide
  have hzero : min (max 1 concurrency) ((0 : Nat) : Bound) = 0 :=
    min_eq_right (hone.trans (le_max_left 1 concurrency))
  rw [poolSize, hzero]
  rfl

/-! ## Events -/

variable {items : List α} {concurrency : Bound} {s s' : State α} {event : Event}

theorem advance_of_lt (h : s.nextIndex < items.length) : advance items s =
    ({ s with nextIndex := s.nextIndex + 1, calls := s.calls ++ [items[s.nextIndex]] },
      .awaiting s.nextIndex) :=
  dif_pos h

theorem advance_of_le (h : items.length ≤ s.nextIndex) : advance items s = (s, .returned) :=
  dif_neg (Nat.not_lt.2 h)

theorem outcome_advance (items : List α) (s : State α) : (advance items s).1.outcome = s.outcome := by
  unfold advance
  split <;> rfl

/-- A loop takes one of the items that are left and awaits, or there are none. -/
theorem left_advance (items : List α) (s : State α) :
    items.length - (advance items s).1.nextIndex +
      (if (advance items s).2.isAwaiting then 1 else 0) = items.length - s.nextIndex := by
  rcases Nat.lt_or_ge s.nextIndex items.length with hlt | hge
  · rw [advance_of_lt hlt]
    change items.length - (s.nextIndex + 1) + 1 = items.length - s.nextIndex
    omega
  · rw [advance_of_le hge]
    rfl

theorem getElem_of_isAwaiting {loop : Nat} (h : isAwaiting s loop = true) :
    ∃ hlt : loop < s.loops.length, s.loops[loop].isAwaiting = true := by
  rw [isAwaiting, Option.any_eq_true] at h
  obtain ⟨found, hfound, hawaiting⟩ := h
  obtain ⟨hlt, rfl⟩ := List.getElem?_eq_some_iff.1 hfound
  exact ⟨hlt, hawaiting⟩

theorem isAwaiting_of_mem {loop : Loop} (hmem : loop ∈ s.loops) (h : loop.isAwaiting = true) :
    ∃ index, isAwaiting s index = true := by
  obtain ⟨index, hlt, rfl⟩ := List.getElem_of_mem hmem
  exact ⟨index, by rwa [isAwaiting, List.getElem?_eq_getElem hlt]⟩

/-- What an event finds and does. -/
theorem step_cases (h : Step items concurrency s event s') :
    (event = .make ∧ s.loops.length < poolSize concurrency items.length ∧ s' = made items s) ∨
    (∃ loop, event = .workerResolved loop ∧ isAwaiting s loop = true ∧
      s.loops.length = poolSize concurrency items.length ∧ s' = resumed items s loop) ∨
    (∃ loop, event = .workerRejected loop ∧ isAwaiting s loop = true ∧
      s' = { s with loops := s.loops.set loop .failed }) ∨
    (event = .settle ∧ s.loops.length = poolSize concurrency items.length ∧ s.outcome = .pending ∧
      (.failed ∈ s.loops ∧ s' = { s with outcome := .rejected } ∨
        (∀ loop ∈ s.loops, loop = .returned) ∧ s' = { s with outcome := .resolved })) := by
  unfold Step step at h
  cases event with
  | make =>
    dsimp only at h
    split at h
    · next hlt => exact .inl ⟨rfl, hlt, (Option.some.inj h).symm⟩
    · exact absurd h (by simp)
  | workerResolved loop =>
    dsimp only at h
    split at h
    · next hguard => exact .inr (.inl ⟨loop, rfl, hguard.2, hguard.1, (Option.some.inj h).symm⟩)
    · exact absurd h (by simp)
  | workerRejected loop =>
    dsimp only at h
    split at h
    · next hawaiting => exact .inr (.inr (.inl ⟨loop, rfl, hawaiting, (Option.some.inj h).symm⟩))
    · exact absurd h (by simp)
  | settle =>
    refine .inr (.inr (.inr ?_))
    dsimp only at h
    split at h
    · next hguard =>
      refine ⟨rfl, hguard.1, hguard.2, ?_⟩
      split at h
      · next hfailed => exact .inl ⟨hfailed, (Option.some.inj h).symm⟩
      · split at h
        · next hreturned => exact .inr ⟨hreturned, (Option.some.inj h).symm⟩
        · exact absurd h (by simp)
    · exact absurd h (by simp)

/-! ## The invariant -/

/-- The worker has been called on the items before the index, and a loop returns only when
    there are no others. -/
structure Invariant (items : List α) (concurrency : Bound) (s : State α) : Prop where
  calls : s.calls = items.take s.nextIndex
  nextIndex : s.nextIndex ≤ items.length
  loops : s.loops.length ≤ poolSize concurrency items.length
  returned : .returned ∈ s.loops → s.nextIndex = items.length
  resolved : s.outcome = .resolved →
    s.loops.length = poolSize concurrency items.length ∧ ∀ loop ∈ s.loops, loop = .returned

theorem invariant_start (items : List α) (concurrency : Bound) :
    Invariant items concurrency (start items) where
  calls := rfl
  nextIndex := Nat.zero_le _
  loops := Nat.zero_le _
  returned := fun h => absurd h List.not_mem_nil
  resolved := by
    intro h
    unfold start at h
    by_cases hempty : items.length = 0
    · rw [hempty, poolSize_zero]
      exact ⟨rfl, fun loop hloop => absurd hloop List.not_mem_nil⟩
    · rw [if_neg hempty] at h
      exact absurd h (show Outcome.pending ≠ .resolved by decide)

namespace Invariant

/-- The worker has been called on every item once no loop is left. -/
theorem nextIndex_eq (h : Invariant items concurrency s)
    (hmade : s.loops.length = poolSize concurrency items.length)
    (hreturned : ∀ loop ∈ s.loops, loop = .returned) : s.nextIndex = items.length := by
  by_cases hempty : items.length = 0
  · have := h.nextIndex
    omega
  · -- the pool has a loop, which returned for want of items
    have hpool := one_le_poolSize concurrency (show 1 ≤ items.length by omega)
    have hne : s.loops ≠ [] := List.ne_nil_of_length_pos (by omega)
    obtain ⟨loop, hloop⟩ := List.exists_mem_of_ne_nil s.loops hne
    exact h.returned (hreturned loop hloop ▸ hloop)

/-- A loop that awaits keeps the promise pending. -/
theorem ne_resolved (h : Invariant items concurrency s) {loop : Nat}
    (hawaiting : isAwaiting s loop = true) : s.outcome ≠ .resolved := by
  intro hresolved
  obtain ⟨hlt, hloop⟩ := getElem_of_isAwaiting hawaiting
  rw [(h.resolved hresolved).2 _ (List.getElem_mem hlt)] at hloop
  exact absurd hloop (by decide)

/-- A loop runs, in the place of another or in a new one. -/
theorem advance (h : Invariant items concurrency s) (hopen : s.outcome ≠ .resolved)
    {loops : List Loop} (hlength : loops.length ≤ poolSize concurrency items.length)
    (hloops : ∀ loop ∈ loops, loop ∈ s.loops ∨ loop = (advance items s).2) :
    Invariant items concurrency { (advance items s).1 with loops := loops } := by
  rcases Nat.lt_or_ge s.nextIndex items.length with hlt | hge
  · rw [advance_of_lt hlt] at hloops ⊢
    refine ⟨?_, hlt, hlength, fun hreturned => ?_, fun hresolved => absurd hresolved hopen⟩
    · dsimp only
      rw [h.calls, List.take_concat_get' items s.nextIndex hlt]
    · rcases hloops .returned hreturned with hmem | heq
      · exact absurd (h.returned hmem) (by omega)
      · exact absurd heq (by simp)
  · rw [advance_of_le hge]
    exact ⟨h.calls, h.nextIndex, hlength, fun _ => Nat.le_antisymm h.nextIndex hge,
      fun hresolved => absurd hresolved hopen⟩

theorem made (h : Invariant items concurrency s)
    (hlt : s.loops.length < poolSize concurrency items.length) :
    Invariant items concurrency (made items s) := by
  have hopen : s.outcome ≠ .resolved := by
    intro hresolved
    have := (h.resolved hresolved).1
    omega
  refine h.advance hopen ?_ (fun loop hloop => ?_)
  · rw [List.length_append, List.length_singleton]
    exact hlt
  · rwa [List.mem_append, List.mem_singleton] at hloop

theorem resumed (h : Invariant items concurrency s) {loop : Nat}
    (hawaiting : isAwaiting s loop = true) : Invariant items concurrency (resumed items s loop) := by
  refine h.advance (h.ne_resolved hawaiting) ?_ (fun loop hloop => List.mem_or_eq_of_mem_set hloop)
  rw [List.length_set]
  exact h.loops

theorem failed (h : Invariant items concurrency s) {loop : Nat}
    (hawaiting : isAwaiting s loop = true) :
    Invariant items concurrency { s with loops := s.loops.set loop .failed } where
  calls := h.calls
  nextIndex := h.nextIndex
  loops := by
    rw [List.length_set]
    exact h.loops
  returned := by
    intro hreturned
    rcases List.mem_or_eq_of_mem_set hreturned with hmem | heq
    · exact h.returned hmem
    · exact absurd heq (by decide)
  resolved := fun hresolved => absurd hresolved (h.ne_resolved hawaiting)

theorem settled (h : Invariant items concurrency s) {outcome : Outcome}
    (houtcome : outcome = .resolved → s.loops.length = poolSize concurrency items.length ∧
      ∀ loop ∈ s.loops, loop = .returned) :
    Invariant items concurrency { s with outcome := outcome } :=
  ⟨h.calls, h.nextIndex, h.loops, h.returned, houtcome⟩

end Invariant

theorem invariant_step (h : Invariant items concurrency s)
    (hstep : Step items concurrency s event s') : Invariant items concurrency s' := by
  rcases step_cases hstep with ⟨-, hlt, rfl⟩ | ⟨loop, -, hawaiting, -, rfl⟩ |
    ⟨loop, -, hawaiting, rfl⟩ | ⟨-, hmade, -, hsettle⟩
  · exact h.made hlt
  · exact h.resumed hawaiting
  · exact h.failed hawaiting
  · rcases hsettle with ⟨-, rfl⟩ | ⟨hreturned, rfl⟩
    · exact h.settled (fun hresolved => absurd hresolved (by decide))
    · exact h.settled (fun _ => ⟨hmade, hreturned⟩)

/-! ## Progress -/

/-- What is left to do: loops to make, items to call the worker on, calls to wait for, and
    the promise to settle. -/
def rank (items : List α) (concurrency : Bound) (s : State α) : Nat :=
  (poolSize concurrency items.length - s.loops.length) + (items.length - s.nextIndex) +
    s.inFlight + (if s.outcome = .pending then 1 else 0)

theorem inFlight_made (items : List α) (s : State α) : (made items s).inFlight =
    s.inFlight + (if (advance items s).2.isAwaiting then 1 else 0) := by
  rw [State.inFlight, made, List.countP_append, List.countP_singleton, State.inFlight]

/-- The call that a loop awaits is in flight, and then what the loop does next. -/
theorem countP_set_awaiting {loop : Nat} (hawaiting : isAwaiting s loop = true) (next : Loop) :
    (s.loops.set loop next).countP Loop.isAwaiting + 1 =
      s.inFlight + (if next.isAwaiting then 1 else 0) := by
  obtain ⟨hlt, hloop⟩ := getElem_of_isAwaiting hawaiting
  have hpos : 0 < s.loops.countP Loop.isAwaiting :=
    List.countP_pos_iff.2 ⟨_, List.getElem_mem hlt, hloop⟩
  rw [List.countP_set hlt, if_pos hloop, State.inFlight]
  omega

theorem rank_made (hlt : s.loops.length < poolSize concurrency items.length) :
    rank items concurrency (made items s) < rank items concurrency s := by
  have hleft := left_advance items s
  have hlength : (made items s).loops.length = s.loops.length + 1 := List.length_append
  have hindex : (made items s).nextIndex = (advance items s).1.nextIndex := rfl
  have houtcome : (made items s).outcome = s.outcome := outcome_advance items s
  unfold rank
  rw [inFlight_made, hlength, hindex, houtcome]
  omega

theorem rank_resumed (concurrency : Bound) {loop : Nat} (hawaiting : isAwaiting s loop = true) :
    rank items concurrency (resumed items s loop) < rank items concurrency s := by
  have hleft := left_advance items s
  have hinFlight : (resumed items s loop).inFlight + 1 = _ :=
    countP_set_awaiting hawaiting (advance items s).2
  have hlength : (resumed items s loop).loops.length = s.loops.length := List.length_set
  have hindex : (resumed items s loop).nextIndex = (advance items s).1.nextIndex := rfl
  have houtcome : (resumed items s loop).outcome = s.outcome := outcome_advance items s
  unfold rank
  rw [hlength, hindex, houtcome]
  omega

theorem rank_failed (items : List α) (concurrency : Bound) {loop : Nat}
    (hawaiting : isAwaiting s loop = true) :
    rank items concurrency { s with loops := s.loops.set loop .failed } <
      rank items concurrency s := by
  have hinFlight : State.inFlight { s with loops := s.loops.set loop .failed } + 1 = _ :=
    countP_set_awaiting hawaiting .failed
  rw [show Loop.failed.isAwaiting = false from rfl, if_neg (by decide)] at hinFlight
  unfold rank
  dsimp only
  rw [List.length_set]
  omega

theorem rank_settled (items : List α) (concurrency : Bound) (hpending : s.outcome = .pending)
    {outcome : Outcome} (houtcome : outcome ≠ .pending) :
    rank items concurrency { s with outcome := outcome } < rank items concurrency s := by
  unfold rank
  dsimp only
  rw [if_neg houtcome, if_pos hpending]
  exact Nat.lt_succ_self _

theorem rank_step (h : Step items concurrency s event s') :
    rank items concurrency s' < rank items concurrency s := by
  rcases step_cases h with ⟨-, hlt, rfl⟩ | ⟨loop, -, hawaiting, -, rfl⟩ |
    ⟨loop, -, hawaiting, rfl⟩ | ⟨-, -, hpending, hsettle⟩
  · exact rank_made hlt
  · exact rank_resumed concurrency hawaiting
  · exact rank_failed items concurrency hawaiting
  · rcases hsettle with ⟨-, rfl⟩ | ⟨-, rfl⟩
    · exact rank_settled items concurrency hpending (by decide)
    · exact rank_settled items concurrency hpending (by decide)

/-- A run ends. -/
theorem length_le_rank {run : List (Event × State α)} (h : Run (Step items concurrency) s run) :
    run.length ≤ rank items concurrency s := by
  induction h with
  | nil => exact Nat.zero_le _
  | cons hstep _ ih => exact Nat.lt_of_le_of_lt ih (rank_step hstep)

/-! ## Runs in which no worker rejects -/

def Rejects (event : Event) : Prop := ∃ loop, event = .workerRejected loop

/-- No loop has failed. -/
structure Unfailed (s : State α) : Prop where
  loops : .failed ∉ s.loops
  outcome : s.outcome ≠ .rejected

theorem unfailed_start (items : List α) : Unfailed (start items) where
  loops := List.not_mem_nil
  outcome := by
    unfold start
    dsimp only
    split <;> decide

theorem advance_ne_failed (items : List α) (s : State α) : .failed ≠ (advance items s).2 := by
  unfold advance
  split
  · exact fun h => Loop.noConfusion h
  · exact fun h => Loop.noConfusion h

theorem unfailed_step (h : Unfailed s) (hevent : ¬ Rejects event)
    (hstep : Step items concurrency s event s') : Unfailed s' := by
  rcases step_cases hstep with ⟨-, -, rfl⟩ | ⟨loop, -, -, -, rfl⟩ | ⟨loop, rfl, -⟩ |
    ⟨-, -, -, hsettle⟩
  · refine ⟨fun hfailed => ?_, (outcome_advance items s).symm ▸ h.outcome⟩
    rcases List.mem_append.1 hfailed with hmem | hmem
    · exact h.loops hmem
    · exact advance_ne_failed items s (List.mem_singleton.1 hmem)
  · refine ⟨fun hfailed => ?_, (outcome_advance items s).symm ▸ h.outcome⟩
    rcases List.mem_or_eq_of_mem_set hfailed with hmem | heq
    · exact h.loops hmem
    · exact advance_ne_failed items s heq
  · exact absurd ⟨loop, rfl⟩ hevent
  · rcases hsettle with ⟨hfailed, rfl⟩ | ⟨-, rfl⟩
    · exact absurd hfailed h.loops
    · exact ⟨h.loops, show Outcome.resolved ≠ .rejected by decide⟩

/-- As long as the promise is pending, something can happen. -/
theorem exists_step (h : Invariant items concurrency s) (hunfailed : Unfailed s)
    (hpending : s.outcome = .pending) :
    ∃ event s', ¬ Rejects event ∧ Step items concurrency s event s' := by
  rcases Nat.lt_or_eq_of_le h.loops with hlt | hmade
  · refine ⟨.make, made items s, ?_, if_pos hlt⟩
    rintro ⟨loop, hloop⟩
    cases hloop
  · by_cases hawaits : ∃ loop, isAwaiting s loop = true
    · -- the promise of a call in flight may resolve
      obtain ⟨loop, hloop⟩ := hawaits
      refine ⟨.workerResolved loop, resumed items s loop, ?_, if_pos ⟨hmade, hloop⟩⟩
      rintro ⟨loop', hloop'⟩
      cases hloop'
    · -- without failures, the loops that do not await have returned
      have hreturned : ∀ loop ∈ s.loops, loop = .returned := by
        intro loop hloop
        cases loop with
        | awaiting index => exact absurd (isAwaiting_of_mem hloop rfl) hawaits
        | returned => rfl
        | failed => exact absurd hloop hunfailed.loops
      refine ⟨.settle, { s with outcome := .resolved }, ?_, ?_⟩
      · rintro ⟨loop, hloop⟩
        cases hloop
      · unfold Step step
        dsimp only
        rw [if_pos ⟨hmade, hpending⟩, if_neg hunfailed.loops, if_pos hreturned]

/-! ## Every item once -/

namespace Invariant

theorem inFlight_le (h : Invariant items concurrency s) :
    (s.inFlight : Bound) ≤ max 1 concurrency := by
  have hpool : s.inFlight ≤ poolSize concurrency items.length :=
    Nat.le_trans List.countP_le_length h.loops
  have hcast : (s.inFlight : Bound) ≤ (poolSize concurrency items.length : Bound) := by
    exact_mod_cast hpool
  exact hcast.trans (poolSize_le concurrency items.length)

theorem calls_prefix (h : Invariant items concurrency s) : s.calls <+: items :=
  h.calls ▸ List.take_prefix s.nextIndex items

/-- The promise has resolved after all calls, none of which is in flight. -/
theorem calls_of_resolved (h : Invariant items concurrency s) (hresolved : s.outcome = .resolved) :
    s.calls = items ∧ s.inFlight = 0 := by
  obtain ⟨hmade, hreturned⟩ := h.resolved hresolved
  constructor
  · rw [h.calls, h.nextIndex_eq hmade hreturned, List.take_length]
  · rw [State.inFlight, List.countP_eq_zero]
    intro loop hloop
    rw [hreturned loop hloop]
    decide

end Invariant

theorem rank_start (items : List α) (concurrency : Bound) : rank items concurrency (start items) ≤
    poolSize concurrency items.length + items.length + 1 := by
  have hinFlight : (start items).inFlight = 0 := rfl
  have hlength : (start items).loops.length = 0 := rfl
  have hindex : (start items).nextIndex = 0 := rfl
  unfold rank
  rw [hinFlight, hlength, hindex]
  split <;> omega

/-- In every order of events the worker is called once on each item before the promise
    resolves, by at most `max(1, concurrency)` calls at a time. A run ends, and where no
    worker rejects it goes on until the promise has resolved. -/
theorem runWithConcurrency_once (items : List α) (concurrency : Bound)
    (run : List (Event × State α)) (h : Run (Step items concurrency) (start items) run) :
    (∀ s ∈ Run.states (start items) run,
      (s.inFlight : Bound) ≤ max 1 concurrency ∧ s.calls <+: items ∧
        (s.outcome = .resolved → s.calls = items ∧ s.inFlight = 0)) ∧
    run.length ≤ poolSize concurrency items.length + items.length + 1 ∧
    ((∀ p ∈ Run.steps (start items) run, ¬ Rejects p.2) →
      (Run.last (start items) run).outcome = .resolved ∨
        ∃ event s', ¬ Rejects event ∧
          Step items concurrency (Run.last (start items) run) event s') := by
  have hstart := invariant_start items concurrency
  refine ⟨fun s hs => ?_, (length_le_rank h).trans (rank_start items concurrency), fun hresolve => ?_⟩
  · have hinv : Invariant items concurrency s :=
      (h.reaches hs).invariant (fun _ _ _ hinv hstep => invariant_step hinv hstep) hstart
    exact ⟨hinv.inFlight_le, hinv.calls_prefix, hinv.calls_of_resolved⟩
  · have hinv : Invariant items concurrency (Run.last (start items) run) :=
      h.last_induction (fun _ _ _ hinv hstep => invariant_step hinv hstep) hstart
    have hunfailed : Unfailed (Run.last (start items) run) :=
      (h.guarded (G := fun _ event => ¬ Rejects event) hresolve).last_induction
        (fun _ _ _ hunfailed hstep => unfailed_step hunfailed hstep.1 hstep.2) (unfailed_start items)
    cases houtcome : (Run.last (start items) run).outcome with
    | pending => exact .inr (exists_step hinv hunfailed houtcome)
    | resolved => exact .inl rfl
    | rejected => exact absurd houtcome hunfailed.outcome

/-- The run of a list of events, up to the first that cannot happen. -/
def play (items : List α) (concurrency : Bound) (s : State α) : List Event → List (Event × State α)
  | [] => []
  | event :: events => (step items concurrency s event).elim []
      (fun s' => (event, s') :: play items concurrency s' events)

theorem run_play (items : List α) (concurrency : Bound) (s : State α) (events : List Event) :
    Run (Step items concurrency) s (play items concurrency s events) := by
  induction events generalizing s with
  | nil => exact Run.nil
  | cons event events ih =>
    unfold play
    cases hstep : step items concurrency s event with
    | none => exact Run.nil
    | some s' => exact Run.cons hstep (ih s')

namespace Sample

def departments : List Nat := [7, 8, 9]

/-- The second of two loops takes the last item and is done before the first. -/
def events : List Event :=
  [.make, .make, .workerResolved 1, .workerResolved 1, .workerResolved 0, .settle]

def run : List (Event × State Nat) := play departments 2 (start departments) events

theorem runWithConcurrency_once_departments :
    ⟨3, [.awaiting 0, .awaiting 2], [7, 8, 9], .pending⟩ ∈ Run.states (start departments) run ∧
      (∀ s ∈ Run.states (start departments) run, (s.inFlight : Bound) ≤ max 1 2) ∧
      (Run.last (start departments) run).outcome = .resolved ∧
      (Run.last (start departments) run).calls = [7, 8, 9] := by
  obtain ⟨hstates, -, -⟩ := runWithConcurrency_once departments 2 run
    (run_play departments 2 (start departments) events)
  have hresolved : (Run.last (start departments) run).outcome = .resolved := by decide
  have hlast : Run.last (start departments) run ∈ Run.states (start departments) run := by decide
  exact ⟨by decide, fun s hs => (hstates s hs).1, hresolved, ((hstates _ hlast).2.2 hresolved).1⟩

end Sample

end Expentra.RunWithConcurrency
