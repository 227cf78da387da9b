-- SUMMARY: A relay pass whose enqueueing throws restores the failing event only; the events after it stay claimed.
import Expentra.Outbox.Delivery

/-!
# Relay passes

A pass claims a batch in one transaction and enqueues its events one by one. When an
enqueueing throws, the `catch` block clears `dispatched_at` of that event, and the pass
ends. The events before it have their jobs by then; those after it are neither enqueued
nor made available again.
-/

namespace Expentra.Outbox

open Library

/-! ## The steps of a pass -/

/-- The steps of a pass with nothing in between. -/
def advances : State × RelayPhase → List Outcome → Option (State × RelayPhase)
  | r, [] => some r
  | r, outcome :: rest => (advanceRelay r.1 r.2 outcome).bind (advances · rest)

/-- What the steps of a pass over a batch of some size lead to. The enqueueing at the
    position `throwsAt` throws, when there is one. -/
def passOutcomes (locked : List Nat) (now : Instant) (size : Nat) : Option Nat → List Outcome
  | none => .claims locked now :: (List.replicate size .enqueues ++ [.enqueues])
  | some throwsAt => .claims locked now :: (List.replicate throwsAt .enqueues ++ [.enqueueThrows, .clears])

/-- The batch a pass claims. -/
def batch (s : State) (locked : List Nat) (now : Instant) : List Row :=
  (claimPendingBatch s.rows 50 locked now).1

/-- A pass of the relay, from the claim to its end. -/
def relayPass (s : State) (locked : List Nat) (now : Instant) (throwsAt : Option Nat) :
    Option (State × RelayPhase) :=
  advances (s, .polling) (passOutcomes locked now (batch s locked now).length throwsAt)

/-! ## What becomes of the events -/

/-- The event has a job that waits or is executed. -/
def InFlight (jobs : Jobs) (event : Row) : Prop :=
  ∃ job ∈ jobs, job.id = event.id ∧ (job.state = .waiting ∨ job.state = .active)

/-- The next pass can claim the event, unless its row is locked. -/
def Available (rows : Rows) (event : Row) : Prop :=
  ∃ row ∈ rows, row.id = event.id ∧ row.dispatchedAt = none ∧ row.processedAt = none

/-- Every event of a batch is enqueued or available again. -/
def NothingClaimed (s : State) (events : List Row) : Prop :=
  ∀ event ∈ events, InFlight s.jobs event ∨ Available s.rows event

instance (jobs : Jobs) (event : Row) : Decidable (InFlight jobs event) :=
  inferInstanceAs (Decidable (∃ job ∈ jobs, _ ∧ _))

instance (rows : Rows) (event : Row) : Decidable (Available rows event) :=
  inferInstanceAs (Decidable (∃ row ∈ rows, _ ∧ _ ∧ row.processedAt = none))

instance (s : State) (events : List Row) : Decidable (NothingClaimed s events) :=
  inferInstanceAs (Decidable (∀ event ∈ events, _ ∨ _))

section Pass

variable {s : State} {jobs : Jobs} {rows : Rows} {event other : Row} {locked : List Nat} {now : Instant}

/-- An event is in flight once it is enqueued. -/
theorem inFlight_enqueueDomainEvent (jobs : Jobs) (event : Row) : InFlight (enqueueDomainEvent jobs event) event := by
  have hnew : InFlight (jobs.upsert event.toJob) event :=
    ⟨event.toJob, Table.mem_upsert.2 (.inl rfl), rfl, .inl rfl⟩
  unfold enqueueDomainEvent
  split
  · rename_i existing hexisting
    split
    · exact hnew
    · rename_i hstate
      refine ⟨existing, Table.mem_of_find? hexisting, Table.key_of_find? hexisting, ?_⟩
      cases hphase : existing.state <;> simp [hphase] at hstate ⊢
  · exact hnew

/-- Setting the job of one event leaves those of others. -/
theorem inFlight_upsert_of_ne (hne : other.id ≠ event.id) :
    InFlight (jobs.upsert event.toJob) other ↔ InFlight jobs other := by
  have hkey : ∀ job : Job, job.id = other.id → job.id ≠ event.toJob.id := fun job hjob =>
    hjob.symm ▸ hne
  constructor
  · rintro ⟨job, hmem, hid, hstate⟩
    rcases Table.mem_upsert.1 hmem with rfl | ⟨hmem, -⟩
    · exact absurd rfl (hkey _ hid)
    · exact ⟨job, hmem, hid, hstate⟩
  · rintro ⟨job, hmem, hid, hstate⟩
    exact ⟨job, Table.mem_upsert.2 (.inr ⟨hmem, hkey job hid⟩), hid, hstate⟩

theorem inFlight_enqueueDomainEvent_of_ne (hne : other.id ≠ event.id) :
    InFlight (enqueueDomainEvent jobs event) other ↔ InFlight jobs other := by
  unfold enqueueDomainEvent
  split
  · split
    · exact inFlight_upsert_of_ne hne
    · exact Iff.rfl
  · exact inFlight_upsert_of_ne hne

/-- The jobs after some events are enqueued. -/
def enqueueAll (jobs : Jobs) (events : List Row) : Jobs := events.foldl enqueueDomainEvent jobs

/-- The events enqueued are in flight, and for others nothing changes. -/
theorem inFlight_enqueueAll {events : List Row} :
    InFlight (enqueueAll jobs events) other ↔
      InFlight jobs other ∨ ∃ event ∈ events, event.id = other.id := by
  induction events generalizing jobs with
  | nil => simp [enqueueAll]
  | cons event events ih =>
    have hcons : enqueueAll jobs (event :: events) = enqueueAll (enqueueDomainEvent jobs event) events := rfl
    rw [hcons, ih, List.exists_mem_cons_iff, ← or_assoc]
    by_cases hid : event.id = other.id
    · have hin : InFlight (enqueueDomainEvent jobs event) other := by
        obtain ⟨job, hmem, hjob, hstate⟩ := inFlight_enqueueDomainEvent jobs event
        exact ⟨job, hmem, hjob.trans hid, hstate⟩
      simp only [hin, hid, or_true, true_or]
    · rw [inFlight_enqueueDomainEvent_of_ne (Ne.symm hid)]
      simp only [hid, or_false]

/-! ## The claimed rows -/

/-- The rows a pass selects. -/
def selected (s : State) (locked : List Nat) : List Row :=
  ((s.rows.rows.filter (fun row => row.processedAt.isNone && row.dispatchedAt.isNone &&
    !locked.contains row.id)).insertionSort (fun left right => left.id ≤ right.id)).take 50

theorem batch_eq : batch s locked now = (selected s locked).map (setDispatched (some now)) := rfl

/-- No event is twice in a batch. -/
theorem batch_nodup (s : State) (locked : List Nat) (now : Instant) : ((batch s locked now).map Row.id).Nodup := by
  have hids : (batch s locked now).map Row.id = (selected s locked).map Row.id := by
    rw [batch_eq, List.map_map]
    rfl
  have hsorted : (((s.rows.rows.filter (fun row => row.processedAt.isNone && row.dispatchedAt.isNone &&
      !locked.contains row.id)).insertionSort (fun left right => left.id ≤ right.id)).map Row.id).Nodup :=
    ((List.perm_insertionSort _ _).map Row.id).nodup_iff.2
      (s.rows.nodup.sublist (List.filter_sublist.map Row.id))
  rw [hids]
  exact hsorted.sublist ((List.take_sublist _ _).map Row.id)

/-- The rows after the claim: those of the batch are dispatched. -/
def claimedRows (s : State) (locked : List Nat) (now : Instant) : Rows :=
  (claimPendingBatch s.rows 50 locked now).2

theorem mem_claimedRows {row' : Row} :
    row' ∈ claimedRows s locked now ↔ ∃ row ∈ s.rows,
      row' = if (selected s locked).any (fun claimed => claimed.id = row.id) then
        setDispatched (some now) row else row :=
  mem_updateWhere (show ∀ row, (setDispatched (some now) row).id = row.id from fun _ => rfl)

/-- No event of the batch is available after the claim. -/
theorem not_available_claimedRows (h : event ∈ batch s locked now) :
    ¬ Available (claimedRows s locked now) event := by
  rintro ⟨row', hrow', hid, hdispatched, -⟩
  obtain ⟨claimed, hclaimed, rfl⟩ := List.mem_map.1 h
  obtain ⟨row, hrow, rfl⟩ := mem_claimedRows.1 hrow'
  split at hid
  · rename_i hcondition
    rw [if_pos hcondition] at hdispatched
    cases hdispatched
  · rename_i hcondition
    exact hcondition (List.any_eq_true.2 ⟨claimed, hclaimed, decide_eq_true hid.symm⟩)

/-- Clearing an event makes it available when it is not processed, and leaves the others. -/
theorem available_clearDispatched_of_ne (hne : other.id ≠ event.id) :
    Available (clearDispatched rows event.id) other ↔ Available rows other := by
  constructor
  · rintro ⟨row', hrow', hid, hdispatched, hprocessed⟩
    obtain ⟨row, hrow, rfl⟩ := (mem_updateWhere _).1 hrow'
    by_cases hrowId : row.id = event.id
    · rw [if_pos (decide_eq_true hrowId)] at hid
      exact absurd (hid.symm.trans hrowId) hne
    · rw [if_neg (by simpa using hrowId)] at hid hdispatched hprocessed
      exact ⟨row, hrow, hid, hdispatched, hprocessed⟩
  · rintro ⟨row, hrow, hid, hdispatched, hprocessed⟩
    refine ⟨row, (mem_updateWhere _).2 ⟨row, hrow, ?_⟩, hid, hdispatched, hprocessed⟩
    rw [if_neg]
    simpa [hid] using hne

theorem available_clearDispatched (hrow : ∃ row ∈ rows, row.id = event.id ∧ row.processedAt = none) :
    Available (clearDispatched rows event.id) event := by
  obtain ⟨row, hrow, hid, hprocessed⟩ := hrow
  refine ⟨setDispatched none row, (mem_updateWhere _).2 ⟨row, hrow, ?_⟩, hid, rfl, hprocessed⟩
  rw [if_pos (decide_eq_true hid)]

/-- The row of an event of the batch is not processed. -/
theorem unprocessed_of_mem_batch (h : event ∈ batch s locked now) :
    ∃ row ∈ claimedRows s locked now, row.id = event.id ∧ row.processedAt = none := by
  obtain ⟨row, hselected, rfl⟩ := List.mem_map.1 h
  have hpending := List.mem_of_mem_take hselected
  rw [List.mem_insertionSort, List.mem_filter, Bool.and_eq_true, Bool.and_eq_true,
    Option.isNone_iff_eq_none] at hpending
  refine ⟨setDispatched (some now) row, mem_claimedRows.2 ⟨row, hpending.1, ?_⟩, rfl, hpending.2.1.1⟩
  rw [if_pos]
  exact List.any_eq_true.2 ⟨row, hselected, decide_eq_true rfl⟩

/-! ## The end of a pass -/

theorem advances_append (r : State × RelayPhase) (outcomes rest : List Outcome) :
    advances r (outcomes ++ rest) = (advances r outcomes).bind (advances · rest) := by
  induction outcomes generalizing r with
  | nil => rfl
  | cons outcome outcomes ih =>
    rw [List.cons_append, advances, advances, Option.bind_assoc]
    exact congrArg _ (funext (fun r => ih r))

/-- The loop over the events that are enqueued. -/
theorem advances_enqueues (s : State) (events rest : List Row) :
    advances (s, .enqueueing (events ++ rest)) (List.replicate events.length .enqueues) =
      some ({ s with jobs := enqueueAll s.jobs events }, .enqueueing rest) := by
  induction events generalizing s with
  | nil => rfl
  | cons event events ih => exact ih { s with jobs := enqueueDomainEvent s.jobs event }

/-- A pass in which nothing throws. -/
theorem relayPass_none :
    relayPass s locked now none =
      some ({ s with
        rows := claimedRows s locked now
        jobs := enqueueAll s.jobs (batch s locked now) }, .finished) := by
  have hloop := advances_enqueues { s with rows := claimedRows s locked now } (batch s locked now) []
  rw [List.append_nil] at hloop
  have hclaim : relayPass s locked now none = advances ({ s with rows := claimedRows s locked now },
      .enqueueing (batch s locked now))
        (List.replicate (batch s locked now).length .enqueues ++ [.enqueues]) := rfl
  rw [hclaim, advances_append, hloop]
  rfl

/-- A pass in which the enqueueing of `event` throws. -/
theorem relayPass_some {events rest : List Row} (hbatch : batch s locked now = events ++ event :: rest) :
    relayPass s locked now (some events.length) =
      some ({ s with
        rows := clearDispatched (claimedRows s locked now) event.id
        jobs := enqueueAll s.jobs events }, .failed) := by
  have hloop := advances_enqueues { s with rows := claimedRows s locked now } events (event :: rest)
  have hclaim : relayPass s locked now (some events.length) =
      advances ({ s with rows := claimedRows s locked now }, .enqueueing (batch s locked now))
        (List.replicate events.length .enqueues ++ [.enqueueThrows, .clears]) := rfl
  rw [hclaim, hbatch, advances_append, hloop]
  rfl

/-- After a pass every event of its batch is enqueued or available again if and only if
    those after the position at which the enqueueing threw had a job in flight already. -/
theorem relayPass_iff {throwsAt : Option Nat}
    (hposition : ∀ k ∈ throwsAt, k < (batch s locked now).length) :
    ∃ s' phase, relayPass s locked now throwsAt = some (s', phase) ∧
      (NothingClaimed s' (batch s locked now) ↔
        ∀ k ∈ throwsAt, ∀ event ∈ (batch s locked now).drop (k + 1), InFlight s.jobs event) := by
  cases throwsAt with
  | none =>
    refine ⟨_, _, relayPass_none, iff_of_true (fun event hevent => .inl ?_) (fun k hk => by cases hk)⟩
    exact inFlight_enqueueAll.2 (.inr ⟨event, hevent, rfl⟩)
  | some k =>
    have hk := hposition k rfl
    obtain ⟨events, event, rest, hbatch, rfl⟩ : ∃ events event rest,
        batch s locked now = events ++ event :: rest ∧ k = events.length := by
      refine ⟨(batch s locked now).take k, (batch s locked now)[k], (batch s locked now).drop (k + 1), ?_, ?_⟩
      · rw [List.getElem_cons_drop, List.take_append_drop]
      · rw [List.length_take, Nat.min_eq_left hk.le]
    have hrest : (batch s locked now).drop (events.length + 1) = rest := by simp [hbatch]
    have hnodup := batch_nodup s locked now
    rw [hbatch, List.map_append, List.map_cons, List.nodup_append] at hnodup
    obtain ⟨-, hafter, hbefore⟩ := hnodup
    refine ⟨_, _, relayPass_some hbatch, ?_⟩
    simp only [Option.mem_some_iff, forall_eq', hrest]
    constructor
    · intro hnothing other hother
      -- the events after the failing one are not enqueued, and their rows are not cleared
      have hmem : other ∈ batch s locked now := by simp [hbatch, hother]
      have hne : other.id ≠ event.id := fun heq =>
        (List.nodup_cons.1 hafter).1 (heq ▸ List.mem_map_of_mem hother)
      rcases hnothing other hmem with hin | havailable
      · rcases inFlight_enqueueAll.1 hin with hold | ⟨earlier, hearlier, hid⟩
        · exact hold
        · exact absurd hid (hbefore _ (List.mem_map_of_mem hearlier) _
            (List.mem_cons_of_mem _ (List.mem_map_of_mem hother)))
      · exact absurd ((available_clearDispatched_of_ne hne).1 havailable) (not_available_claimedRows hmem)
    · intro hin other hother
      rw [hbatch, List.mem_append, List.mem_cons] at hother
      rcases hother with hother | rfl | hother
      · exact .inl (inFlight_enqueueAll.2 (.inr ⟨other, hother, rfl⟩))
      · exact .inr (available_clearDispatched (unprocessed_of_mem_batch (by simp [hbatch])))
      · exact .inl (inFlight_enqueueAll.2 (.inl (hin other hother)))

end Pass

/-! ## Three pending events -/

namespace Sample

def pending (id : Nat) : Row := ⟨id, "expense.reopened", .obj [], none, none⟩

def threePending : State := { empty with rows := ⟨[pending 1, pending 2, pending 3], by decide⟩, nextId := 4 }

/-- The services append three events. -/
def appended : List (Turn Arrival Outcome Change) :=
  List.replicate 3 (.surroundings (.append "expense.reopened" (.obj [])))

end Sample

theorem relayPass_iff_sample :
    ∃ s' phase, relayPass Sample.threePending [] 0 (some 2) = some (s', phase) ∧
      (NothingClaimed s' (batch Sample.threePending [] 0) ↔
        ∀ k ∈ some 2, ∀ event ∈ (batch Sample.threePending [] 0).drop (k + 1),
          InFlight Sample.threePending.jobs event) :=
  relayPass_iff (by decide)

/-- The first enqueueing of the pass over the three events throws: the two after it stay
    claimed without a job. -/
theorem later_events_stay_claimed :
    (∃ p, Reaches (Guarded (Concurrent.onStep Concurrent.anyStep) (delivery []).Step) (Pool.idle empty) p ∧
      p.shared = Sample.threePending) ∧
      ∃ s' phase, relayPass Sample.threePending [] 0 (some 0) = some (s', phase) ∧
        ¬ NothingClaimed s' (batch Sample.threePending [] 0) := by
  constructor
  · have hrun : ((delivery []).exec Concurrent.anyStep Sample.appended (Pool.idle empty)).map Pool.shared =
        some Sample.threePending := rfl
    obtain ⟨p, hexec, hshared⟩ := Option.map_eq_some_iff.1 hrun
    exact ⟨p, Concurrent.reaches_of_exec hexec, hshared⟩
  · have hpass : (relayPass Sample.threePending [] 0 (some 0)).any (fun r =>
        ¬ NothingClaimed r.1 (batch Sample.threePending [] 0)) = true := by decide +kernel
    obtain ⟨r, hrun, hclaimed⟩ := (Option.any_eq_true _ _).1 hpass
    exact ⟨r.1, r.2, hrun, of_decide_eq_true hclaimed⟩

end Expentra.Outbox
