-- SUMMARY: As long as the key of a handler lives, at most one run of it completes for an event, and only a failed run removes its own key.
import Expentra.Outbox.Processed

/-!
# Handlers take effect at most once

A run of a handler starts by taking its key and ends by completing or by failing, and a
failed run deletes the key. Seen from one key, every step of the delivery is one of four
moves. They keep that the key stands for one run at most, which is in progress or has
completed.
-/

namespace Expentra.Outbox

open Library

/-! ## The moves at one key -/

/-- The value of a key, the completed runs under it, and the runs in progress in the
    execution that takes the step. -/
structure KeyView where
  holder : Option Nat
  completed : Nat
  running : Nat

/-- What a step of the execution `i` can do at a key. -/
inductive KeyMove (i : Nat) : KeyView → KeyView → Prop where
  | leave {holder completed running running'} : running' ≤ running →
      KeyMove i ⟨holder, completed, running⟩ ⟨holder, completed, running'⟩
  /-- The run may not learn that the key is set. -/
  | take {completed running running'} : running' ≤ running + 1 →
      KeyMove i ⟨none, completed, running⟩ ⟨some i, completed, running'⟩
  | complete {holder completed running} :
      KeyMove i ⟨holder, completed, running + 1⟩ ⟨holder, completed + 1, running⟩
  | remove {holder completed running} :
      KeyMove i ⟨holder, completed, running + 1⟩ ⟨none, completed, running⟩

/-- The key stands for every completed run. -/
structure Once (holder : Option Nat) (completed : Nat) : Prop where
  once : completed ≤ 1
  absent : holder = none → completed = 0

/-- The execution `i` has a run in progress only with the key, and then nothing else has
    been done under it. -/
structure Owns (i : Nat) (v : KeyView) : Prop where
  held : v.running ≠ 0 → v.holder = some i
  alone : v.holder = some i → v.running + v.completed ≤ 1

theorem KeyMove.keeps {i : Nat} {v v' : KeyView} (h : KeyMove i v v')
    (honce : Once v.holder v.completed) (howns : Owns i v) :
    Once v'.holder v'.completed ∧ Owns i v' := by
  obtain ⟨honce, habsent⟩ := honce
  obtain ⟨hheld, halone⟩ := howns
  cases h with
  | leave hle =>
    refine ⟨⟨honce, habsent⟩, fun hne => hheld ?_, fun hholder => ?_⟩
    · simp only at hne ⊢
      omega
    · have hsum := halone hholder
      simp only at hsum ⊢
      omega
  | @take completed running running' hle =>
    have hzero : completed = 0 := habsent rfl
    have hnone : running = 0 := by
      by_contra hne
      cases hheld hne
    refine ⟨⟨honce, fun h => by cases h⟩, fun _ => rfl, fun _ => ?_⟩
    simp only
    omega
  | complete =>
    have hholder := hheld (Nat.succ_ne_zero _)
    have hsum := halone hholder
    simp only at hholder hsum ⊢
    refine ⟨⟨by omega, fun h => ?_⟩, fun _ => hholder, fun _ => by simp only; omega⟩
    rw [hholder] at h
    cases h
  | remove =>
    have hsum := halone (hheld (Nat.succ_ne_zero _))
    simp only at hsum ⊢
    refine ⟨⟨by omega, fun _ => by omega⟩, fun hne => ?_, fun h => by cases h⟩
    simp only at hne
    omega

/-- A step of one execution leaves what the others own. -/
theorem KeyMove.keeps_other {i j : Nat} {v v' : KeyView} (h : KeyMove i v v') (howns : Owns i v)
    (hne : j ≠ i) {running : Nat} (hother : Owns j ⟨v.holder, v.completed, running⟩) :
    Owns j ⟨v'.holder, v'.completed, running⟩ := by
  cases h with
  | leave => exact hother
  | take =>
    refine ⟨fun hrunning => ?_, fun h => absurd (Option.some.inj h).symm hne⟩
    cases hother.held hrunning
  | complete | remove =>
    -- the key is that of the execution `i`
    have hholder := howns.held (Nat.succ_ne_zero _)
    simp only at hholder
    subst hholder
    refine ⟨fun hrunning => ?_, fun h => ?_⟩
    · exact absurd (Option.some.inj (hother.held hrunning)).symm hne
    · first
        | exact absurd (Option.some.inj h).symm hne
        | cases h

/-! ## Runs in progress -/

section HandledOnce

variable {registry : Registry} {i : Nat} {s s' : State} {data : DomainEventJobData} {key : HandlerKey}
  {event : Row} {name : String}

/-- A run that has set the key and has not ended. -/
def inProgress (key : HandlerKey) (data : DomainEventJobData) (task : Task) : Bool :=
  handlerKey data task.handlerName = key && (task.phase = .running || task.phase = .undoing)

def runsInProgress (key : HandlerKey) : Thread → Nat
  | .execution data (.dispatching tasks) => tasks.countP (inProgress key data)
  | _ => 0

/-- The key of a handler for the event of a row. -/
def eventKey (event : Row) (name : String) : HandlerKey := handlerKey event.toJob.data name

/-- What an execution sees of the key of a handler. -/
def keyView (event : Row) (name : String) (s : State) (thread : Thread) : KeyView :=
  ⟨s.handlerKeys (eventKey event name), s.completed.count (event.id, name),
    runsInProgress (eventKey event name) thread⟩

theorem countP_set_of_getElem? {α : Type} {q : α → Bool} {l : List α} {k : Nat} {x : α}
    (h : l[k]? = some x) (y : α) :
    (l.set k y).countP q + (if q x then 1 else 0) = l.countP q + (if q y then 1 else 0) := by
  obtain ⟨hlt, rfl⟩ := List.getElem?_eq_some_iff.1 h
  have hset := List.countP_set (p := q) (a := y) hlt
  have hpos : q l[k] = true → 0 < l.countP q := fun hq =>
    List.countP_pos_iff.2 ⟨_, List.getElem_mem hlt, hq⟩
  rw [hset]
  by_cases hq : q l[k] = true
  · have hpos := hpos hq
    simp only [hq, if_true]
    omega
  · simp only [hq]
    simp

/-- A handler with another key leaves the key, its completed runs and its runs in progress. -/
theorem runOnce_other {task task' : Task} {outcome : TaskOutcome}
    (h : runOnce i s data task outcome = some (s', task'))
    (htype : data.outboxEventId = event.id → data.eventType = event.eventType)
    (hkey : handlerKey data task.handlerName ≠ eventKey event name) :
    s'.handlerKeys (eventKey event name) = s.handlerKeys (eventKey event name) ∧
      s'.completed.count (event.id, name) = s.completed.count (event.id, name) := by
  obtain ⟨handlerName, phase⟩ := task
  have hset : ((s.handlerKeys.setIfNotExists (handlerKey data handlerName) i).2)
      (eventKey event name) = s.handlerKeys (eventKey event name) := by
    unfold Redis.setIfNotExists
    split
    · rfl
    · exact Redis.setCache_of_ne (Ne.symm hkey)
  have hdel : (s.handlerKeys.del (handlerKey data handlerName)) (eventKey event name) =
      s.handlerKeys (eventKey event name) := Redis.del_of_ne (Ne.symm hkey)
  cases phase <;> cases outcome <;> simp only [runOnce, reduceCtorEq] at h
  case acquiring.acquires =>
    split at h
    · cases h
      exact ⟨hset, rfl⟩
    · cases h
      exact ⟨rfl, rfl⟩
  case acquiring.acquireThrows executed =>
    cases h
    refine ⟨?_, rfl⟩
    cases executed
    exacts [rfl, hset]
  case running.completes =>
    cases h
    refine ⟨rfl, ?_⟩
    have hne : (data.outboxEventId, handlerName) ≠ (event.id, name) := by
      intro heq
      obtain ⟨hid, rfl⟩ := Prod.mk.inj heq
      exact hkey (by simp only [handlerKey, eventKey, Row.toJob, hid, htype hid])
    simp [List.count_append, hne]
  case running.throws =>
    cases h
    exact ⟨rfl, rfl⟩
  case undoing.undoes =>
    cases h
    exact ⟨hdel, rfl⟩
  case undoing.undoThrows executed =>
    cases h
    refine ⟨?_, rfl⟩
    cases executed
    exacts [rfl, hdel]

/-- `runOnce` neither writes rows nor jobs. -/
theorem runOnce_tables {task task' : Task} {outcome : TaskOutcome}
    (h : runOnce i s data task outcome = some (s', task')) : s'.rows = s.rows ∧ s'.jobs = s.jobs := by
  obtain ⟨handlerName, phase⟩ := task
  cases phase <;> cases outcome <;> simp only [runOnce, reduceCtorEq] at h
  case acquiring.acquires => split at h <;> cases h <;> exact ⟨rfl, rfl⟩
  all_goals
    cases h
    exact ⟨rfl, rfl⟩

theorem runOnce_handlerName {task task' : Task} {outcome : TaskOutcome}
    (h : runOnce i s data task outcome = some (s', task')) : task'.handlerName = task.handlerName := by
  obtain ⟨handlerName, phase⟩ := task
  cases phase <;> cases outcome <;> simp only [runOnce, reduceCtorEq] at h
  case acquiring.acquires => split at h <;> cases h <;> rfl
  all_goals
    cases h
    rfl

/-- A step of `runOnce` at its own key. `running` and `running'` count the runs in progress
    before and after it. -/
theorem runOnce_own {task task' : Task} {outcome : TaskOutcome}
    (h : runOnce i s data task outcome = some (s', task'))
    (hkey : handlerKey data task.handlerName = eventKey event name) {running running' : Nat}
    (hcount : running' + (if inProgress (eventKey event name) data task then 1 else 0) =
      running + (if inProgress (eventKey event name) data task' then 1 else 0)) :
    KeyMove i ⟨s.handlerKeys (eventKey event name), s.completed.count (event.id, name), running⟩
      ⟨s'.handlerKeys (eventKey event name), s'.completed.count (event.id, name), running'⟩ := by
  obtain ⟨handlerName, phase⟩ := task
  simp only at hkey
  cases phase <;> cases outcome <;> simp only [runOnce, hkey, reduceCtorEq] at h
  case acquiring.acquires =>
    cases hholder : s.handlerKeys (eventKey event name) with
    | none =>
      rw [Redis.setIfNotExists_of_none hholder] at h
      cases h
      simp [inProgress, hkey] at hcount
      simp only [Redis.setCache_self]
      exact .take (by omega)
    | some holder =>
      rw [Redis.setIfNotExists_of_some (by simp [hholder])] at h
      cases h
      simp [inProgress, hkey] at hcount
      rw [hholder]
      exact .leave (by omega)
  case acquiring.acquireThrows executed =>
    cases h
    simp [inProgress, hkey] at hcount
    cases executed with
    | false => exact .leave (by omega)
    | true =>
      cases hholder : s.handlerKeys (eventKey event name) with
      | none =>
        simp only [if_pos, Redis.setIfNotExists_of_none hholder, Redis.setCache_self]
        exact .take (by omega)
      | some holder =>
        have hset : s.handlerKeys (eventKey event name) ≠ none := by simp [hholder]
        simp only [if_pos, Redis.setIfNotExists_of_some hset]
        rw [hholder]
        exact .leave (by omega)
  case running.completes =>
    cases h
    simp [inProgress, hkey] at hcount
    subst hcount
    by_cases hrun : (data.outboxEventId, handlerName) = (event.id, name)
    · simp only [hrun, List.count_append, List.count_singleton_self]
      exact .complete
    · simp only [List.count_append, List.count_singleton, beq_iff_eq, hrun, if_false, Nat.add_zero]
      exact .leave (Nat.le_succ _)
  case running.throws =>
    cases h
    simp [inProgress, hkey] at hcount
    exact .leave (by omega)
  case undoing.undoes =>
    cases h
    simp [inProgress, hkey] at hcount
    subst hcount
    simp only [Redis.del_self]
    exact .remove
  case undoing.undoThrows executed =>
    cases h
    simp [inProgress, hkey] at hcount
    subst hcount
    cases executed with
    | false => exact .leave (Nat.le_succ _)
    | true =>
      simp only [if_pos, Redis.del_self]
      exact .remove

/-- A step of `runOnce`, seen from the key of a handler. Within the tasks of its execution
    no other task changes. -/
theorem runOnce_moves (name : String) {tasks : List Task} {k : Nat} {task task' : Task} {outcome : TaskOutcome}
    (htask : tasks[k]? = some task) (h : runOnce i s data task outcome = some (s', task'))
    (htype : data.outboxEventId = event.id → data.eventType = event.eventType) :
    KeyMove i (keyView event name s (.execution data (.dispatching tasks)))
      (keyView event name s' (.execution data (.dispatching (tasks.set k task')))) := by
  have hcount := countP_set_of_getElem? (q := inProgress (eventKey event name) data) htask task'
  by_cases hkey : handlerKey data task.handlerName = eventKey event name
  · exact runOnce_own h hkey hcount
  · obtain ⟨hholder, hcompleted⟩ := runOnce_other h htype hkey
    unfold keyView
    rw [hholder, hcompleted]
    refine .leave (Nat.le_of_eq ?_)
    simpa [runsInProgress, inProgress, runOnce_handlerName h, hkey] using hcount

/-! ## Whose events and jobs are whose -/

/-- Every row with the id of the event is of its type. -/
def RowsTyped (event : Row) (s : State) : Prop :=
  ∀ row ∈ s.rows, row.id = event.id → row.eventType = event.eventType

theorem RowsTyped.of_grows (h : RowsTyped event s') (hgrows : Grows s s') : RowsTyped event s := by
  intro row hrow hid
  obtain ⟨row', hrow', hid', htype⟩ := hgrows.rows row hrow
  exact htype ▸ h row' hrow' (hid'.trans hid)

def JobsTyped (event : Row) (s : State) : Prop :=
  ∀ job ∈ s.jobs, job.data.outboxEventId = event.id → job.data.eventType = event.eventType

def ThreadTyped (event : Row) : Thread → Prop
  | .relay (.enqueueing events) => ∀ row ∈ events, row.id = event.id → row.eventType = event.eventType
  | .relay _ => True
  | .execution data _ => data.outboxEventId = event.id → data.eventType = event.eventType

/-- No key, no completed run and no run in progress change. -/
def KeysKept (s s' : State) : Prop := s'.handlerKeys = s.handlerKeys ∧ s'.completed = s.completed

theorem JobsTyped.replace (h : JobsTyped event s) {job reported : Job} {jobId : Nat}
    (hjob : s.jobs.find? jobId = some job) (hdata : reported.data = job.data) :
    JobsTyped event { s with jobs := s.jobs.replace reported } := by
  intro job' hjob'
  rcases Table.eq_or_mem_of_mem_replace hjob' with rfl | ⟨hold, -⟩
  · rw [hdata]
    exact h job (Table.mem_of_find? hjob)
  · exact h job' hold

/-- A step of a relay pass. -/
theorem advanceRelay_typed {phase phase' : RelayPhase} {outcome : Outcome}
    (h : advanceRelay s phase outcome = some (s', phase')) :
    Grows s s' ∧ KeysKept s s' ∧ ∀ event, RowsTyped event s → JobsTyped event s →
      ThreadTyped event (.relay phase) → JobsTyped event s' ∧ ThreadTyped event (.relay phase') := by
  unfold advanceRelay at h
  split at h
  · rename_i locked now
    cases h
    refine ⟨.setDispatched _ _, ⟨rfl, rfl⟩, fun _ hrows hjobs _ =>
      ⟨hjobs, fun claimed hclaimed => ?_⟩⟩
    obtain ⟨row, hrow, rfl⟩ := List.mem_map.1 hclaimed
    have hsorted := List.mem_of_mem_take hrow
    rw [List.mem_insertionSort, List.mem_filter] at hsorted
    exact hrows row hsorted.1
  · cases h
    exact ⟨.refl s, ⟨rfl, rfl⟩, fun _ _ hjobs _ => ⟨hjobs, trivial⟩⟩
  · rename_i row rest
    cases h
    refine ⟨⟨fun row hrow => ⟨row, hrow, rfl, rfl⟩, fun _ => id⟩, ⟨rfl, rfl⟩,
      fun _ _ hjobs hthread => ?_⟩
    obtain ⟨hrow, hrest⟩ := List.forall_mem_cons.1 hthread
    refine ⟨fun job hjob => ?_, hrest⟩
    rcases mem_enqueueDomainEvent hjob with hold | rfl
    · exact hjobs job hold
    · exact hrow
  · cases h
    exact ⟨.refl s, ⟨rfl, rfl⟩, fun _ _ hjobs _ => ⟨hjobs, trivial⟩⟩
  · cases h
    exact ⟨.setDispatched _ none, ⟨rfl, rfl⟩, fun _ _ hjobs _ => ⟨hjobs, trivial⟩⟩
  · cases h

/-- A step of an execution: a step of a handler, or one that leaves the keys and ends no
    run in progress but with all of them. -/
theorem advanceExecution_cases {phase phase' : ExecutionPhase} {outcome : Outcome}
    (h : advanceExecution i s data phase outcome = some (s', phase')) :
    (∃ tasks k task task' taskOutcome, phase = .dispatching tasks ∧
      outcome = .task k taskOutcome ∧ tasks[k]? = some task ∧
      runOnce i s data task taskOutcome = some (s', task') ∧
      phase' = .dispatching (tasks.set k task')) ∨
    (KeysKept s s' ∧ Grows s s' ∧ (∀ key, runsInProgress key (.execution data phase') = 0) ∧
      ∀ event, JobsTyped event s → JobsTyped event s') := by
  unfold advanceExecution at h
  split at h
  · rename_i tasks k taskOutcome
    obtain ⟨task, htask, h⟩ := Option.bind_eq_some_iff.1 h
    obtain ⟨r, hrun, h⟩ := Option.map_eq_some_iff.1 h
    cases h
    exact .inl ⟨tasks, k, task, r.2, taskOutcome, rfl, rfl, htask, hrun, rfl⟩
  · refine .inr ?_
    split at h
    · cases h
    · split at h
      all_goals
        cases h
        exact ⟨⟨rfl, rfl⟩, .refl s, fun _ => rfl, fun _ => id⟩
  · cases h
    exact .inr ⟨⟨rfl, rfl⟩, .markProcessed _ _ _, fun _ => rfl, fun _ => id⟩
  · rename_i executed now
    cases h
    refine .inr ⟨⟨rfl, rfl⟩, ?_, fun _ => rfl, fun _ => id⟩
    cases executed with
    | false => exact .refl s
    | true => exact .markProcessed _ _ _
  · rename_i succeeded
    refine .inr ?_
    split at h
    · cases h
      exact ⟨⟨rfl, rfl⟩, .refl s, fun _ => rfl, fun _ => id⟩
    · rename_i job hjob
      cases h
      have hdata : (report job succeeded).data = job.data := by cases succeeded <;> rfl
      refine ⟨⟨rfl, rfl⟩, ⟨fun row hrow => ⟨row, hrow, rfl, rfl⟩, fun _ => id⟩, fun _ => ?_,
        fun _ hjobs => hjobs.replace hjob hdata⟩
      split <;> rfl
  · cases h
    exact .inr ⟨⟨rfl, rfl⟩, .setDispatched _ none, fun _ => rfl, fun _ => id⟩
  · cases h

/-- The lifetime of a key ends. -/
def Change.expires (key : HandlerKey) : Change → Bool
  | .expire expired => expired = key
  | _ => false

/-- What happens around the threads, as long as the key lives. -/
theorem applyChange_typed {change : Change} (h : applyChange s change = some s')
    (hlives : ¬ change.expires key) :
    Grows s s' ∧ s'.handlerKeys key = s.handlerKeys key ∧ s'.completed = s.completed ∧
      ∀ event, JobsTyped event s → JobsTyped event s' := by
  cases change with
  | append eventType payload =>
    obtain ⟨rows, hins, rfl⟩ := Option.map_eq_some_iff.1 h
    exact ⟨.append hins, rfl, rfl, fun _ => id⟩
  | reconcile now =>
    cases h
    exact ⟨.setDispatched _ none, rfl, rfl, fun _ => id⟩
  | stall jobId =>
    simp only [applyChange] at h
    split at h
    · rename_i job hjob
      split at h
      · cases h
        exact ⟨⟨fun row hrow => ⟨row, hrow, rfl, rfl⟩, fun _ => id⟩, rfl, rfl,
          fun _ hjobs => hjobs.replace hjob rfl⟩
      · cases h
    · cases h
  | evict jobId =>
    cases h
    exact ⟨⟨fun row hrow => ⟨row, hrow, rfl, rfl⟩, fun _ => id⟩, rfl, rfl,
      fun _ hjobs job hjob => hjobs job (Table.mem_keep.1 hjob).1⟩
  | expire other =>
    cases h
    refine ⟨⟨fun row hrow => ⟨row, hrow, rfl, rfl⟩, fun _ => id⟩, ?_, rfl, fun _ => id⟩
    exact Redis.del_of_ne (fun heq => hlives (by simp [Change.expires, heq]))

/-! ## The invariant -/

/-- The key of a handler stands for one run of it for the event. -/
def KeyOnce (event : Row) (name : String) (s : State) : Prop :=
  RowsTyped event s → JobsTyped event s ∧
    Once (s.handlerKeys (eventKey event name)) (s.completed.count (event.id, name))

def OwnsKey (event : Row) (name : String) (i : Nat) (s : State) (thread : Thread) : Prop :=
  RowsTyped event s → ThreadTyped event thread ∧ Owns i (keyView event name s thread)

/-- A step that leaves the key and the completed runs under it leaves what is owned. -/
theorem OwnsKey.frame {thread : Thread} (h : OwnsKey event name i s thread) (hgrows : Grows s s')
    (hholder : s'.handlerKeys (eventKey event name) = s.handlerKeys (eventKey event name))
    (hcompleted : s'.completed = s.completed) : OwnsKey event name i s' thread := by
  intro hrows
  obtain ⟨htyped, howns⟩ := h (hrows.of_grows hgrows)
  rw [keyView, hholder, hcompleted]
  exact ⟨htyped, howns⟩

theorem KeyOnce.frame (h : KeyOnce event name s) (hgrows : Grows s s')
    (hholder : s'.handlerKeys (eventKey event name) = s.handlerKeys (eventKey event name))
    (hcompleted : s'.completed = s.completed)
    (hjobs : RowsTyped event s → JobsTyped event s → JobsTyped event s') : KeyOnce event name s' := by
  intro hrows
  obtain ⟨htyped, honce⟩ := h (hrows.of_grows hgrows)
  rw [hholder, hcompleted]
  exact ⟨hjobs (hrows.of_grows hgrows) htyped, honce⟩

/-- A thread without runs in progress owns nothing but what it may have set. -/
theorem Owns.idle {holder : Option Nat} {completed : Nat} (h : Once holder completed) :
    Owns i ⟨holder, completed, 0⟩ := by
  refine ⟨fun hne => absurd rfl hne, fun _ => ?_⟩
  have honce := h.once
  simp only
  omega

theorem runsInProgress_acquiring (names : List String) :
    runsInProgress key
      (.execution data (.dispatching (names.map (fun name => ⟨name, .acquiring⟩)))) = 0 := by
  rw [runsInProgress, List.countP_eq_zero]
  intro task htask
  obtain ⟨_, -, rfl⟩ := List.mem_map.1 htask
  simp [inProgress]

/-- A step of a handler keeps the invariant. -/
theorem runOnce_keeps {tasks : List Task} {k : Nat} {task task' : Task} {outcome : TaskOutcome}
    (honce : KeyOnce event name s)
    (howns : OwnsKey event name i s (.execution data (.dispatching tasks)))
    (htask : tasks[k]? = some task) (h : runOnce i s data task outcome = some (s', task')) :
    KeyOnce event name s' ∧
      OwnsKey event name i s' (.execution data (.dispatching (tasks.set k task'))) ∧
      ∀ j u, j ≠ i → OwnsKey event name j s u → OwnsKey event name j s' u := by
  obtain ⟨hrows, hjobs⟩ : s'.rows = s.rows ∧ s'.jobs = s.jobs := runOnce_tables h
  have hkept : RowsTyped event s' → RowsTyped event s := fun h => by
    rwa [RowsTyped, hrows] at h
  refine ⟨fun htyped => ?_, fun htyped => ?_, fun j u hne hother htyped => ?_⟩
  all_goals
    obtain ⟨hjobsTyped, honce⟩ := honce (hkept htyped)
    obtain ⟨hthread, howns⟩ := howns (hkept htyped)
    have hmoves := runOnce_moves name htask h hthread
  · rw [JobsTyped, hjobs]
    exact ⟨hjobsTyped, (hmoves.keeps honce howns).1⟩
  · exact ⟨hthread, (hmoves.keeps honce howns).2⟩
  · obtain ⟨htypedOther, hownsOther⟩ := hother (hkept htyped)
    exact ⟨htypedOther, hmoves.keeps_other howns hne hownsOther⟩

theorem once_outline (registry : Registry) (event : Row) (name : String) :
    ((delivery registry).avoiding (·.expires (eventKey event name))).Outline Concurrent.anyStep
      (KeyOnce event name) (OwnsKey event name) where
  start := by
    intro s arrival s' t honce hstart
    cases arrival with
    | poll =>
      cases hstart
      exact ⟨honce, fun _ hrows => ⟨trivial, .idle (honce hrows).2⟩, fun _ _ => id⟩
    | deliver jobId =>
      simp only [Concurrent.avoiding, delivery, deliver] at hstart
      split at hstart
      · rename_i job hjob
        split at hstart
        · cases hstart
          have hgrows : Grows s { s with jobs := s.jobs.replace { job with state := .active } } :=
            ⟨fun row hrow => ⟨row, hrow, rfl, rfl⟩, fun _ => id⟩
          refine ⟨honce.frame hgrows rfl rfl (fun _ hjobs => hjobs.replace hjob rfl),
            fun i hrows => ⟨(honce hrows).1 job (Table.mem_of_find? hjob), ?_⟩,
            fun _ _ hu => hu.frame hgrows rfl rfl⟩
          rw [keyView, runsInProgress_acquiring]
          exact .idle (honce hrows).2
        · cases hstart
      · cases hstart
  step := by
    intro i s t outcome s' t' honce howns _ hstep
    cases t with
    | relay phase =>
      obtain ⟨r, hadvance, heq⟩ := Option.map_eq_some_iff.1 hstep
      obtain ⟨s₁, phase'⟩ := r
      cases heq
      obtain ⟨hgrows, ⟨hkeys, hcompleted⟩, htyped⟩ := advanceRelay_typed hadvance
      have honce' := honce.frame hgrows (congrFun hkeys _) hcompleted
        (fun hrows hjobs => (htyped event hrows hjobs (howns hrows).1).1)
      refine ⟨honce', fun hrows => ⟨?_, .idle (honce' hrows).2⟩,
        fun _ _ _ hu => hu.frame hgrows (congrFun hkeys _) hcompleted⟩
      have hrows := hrows.of_grows hgrows
      exact (htyped event hrows (honce hrows).1 (howns hrows).1).2
    | execution data phase =>
      obtain ⟨r, hadvance, heq⟩ := Option.map_eq_some_iff.1 hstep
      obtain ⟨s₁, phase'⟩ := r
      cases heq
      rcases advanceExecution_cases hadvance with
        ⟨tasks, k, task, task', taskOutcome, rfl, rfl, htask, hrun, rfl⟩ |
        ⟨⟨hkeys, hcompleted⟩, hgrows, hidle, hjobs⟩
      · exact runOnce_keeps honce howns htask hrun
      · have honce' := honce.frame hgrows (congrFun hkeys _) hcompleted (fun _ => hjobs event)
        refine ⟨honce', fun hrows => ⟨(howns (hrows.of_grows hgrows)).1, ?_⟩,
          fun _ _ _ hu => hu.frame hgrows (congrFun hkeys _) hcompleted⟩
        rw [keyView, hidle]
        exact .idle (honce' hrows).2
  surroundings := by
    intro s change s' honce hchange
    simp only [Concurrent.avoiding] at hchange
    split at hchange
    · cases hchange
    · rename_i hlives
      obtain ⟨hgrows, hholder, hcompleted, hjobs⟩ := applyChange_typed hchange hlives
      exact ⟨honce.frame hgrows hholder hcompleted (fun _ => hjobs event),
        fun _ _ hu => hu.frame hgrows hholder hcompleted⟩

/-! ## Every run of the delivery -/

/-- The run of a handler at the position `k` of the execution `i` holds the key. -/
def HoldsKey (p : Pool State Thread) (key : HandlerKey) (i k : Nat) : Prop :=
  ∃ data tasks task, p.threads[i]? = some (.execution data (.dispatching tasks)) ∧
    tasks[k]? = some task ∧ inProgress key data task = true

/-- Whoever removes the key removes its own: the run at `k` in `i` has set it, no other run
    holds it, and no run has completed under it. -/
structure OwnRemoval (p : Pool State Thread) (event : Row) (name : String) (i k : Nat) : Prop where
  holds : HoldsKey p (eventKey event name) i k
  setBy : p.shared.handlerKeys (eventKey event name) = some i
  alone : ∀ j l, HoldsKey p (eventKey event name) j l → j = i ∧ l = k
  uncompleted : (event.id, name) ∉ p.shared.completed

variable {p p' : Pool State Thread}

theorem two_le_countP {α : Type} {q : α → Bool} {l : List α} {j k : Nat} {x y : α} (hne : j ≠ k)
    (hj : l[j]? = some x) (hk : l[k]? = some y) (hx : q x = true) (hy : q y = true) :
    2 ≤ l.countP q := by
  induction l generalizing j k with
  | nil => simp at hj
  | cons z l ih =>
    cases j with
    | zero =>
      obtain rfl : z = x := by simpa using hj
      obtain ⟨k, rfl⟩ := Nat.exists_eq_succ_of_ne_zero (Ne.symm hne)
      have hpos : 0 < l.countP q :=
        List.countP_pos_iff.2 ⟨y, List.mem_of_getElem? (by simpa using hk), hy⟩
      rw [List.countP_cons_of_pos hx]
      omega
    | succ j =>
      cases k with
      | zero =>
        obtain rfl : z = y := by simpa using hk
        have hpos : 0 < l.countP q :=
          List.countP_pos_iff.2 ⟨x, List.mem_of_getElem? (by simpa using hj), hx⟩
        rw [List.countP_cons_of_pos hy]
        omega
      | succ k =>
        have hrest := ih (by omega) hj hk
        rw [List.countP_cons]
        omega

/-- A run that holds the key is the only one, and none has completed. -/
theorem holdsKey_alone (hp : Concurrent.Holds (KeyOnce event name) (OwnsKey event name) p)
    (hrows : RowsTyped event p.shared) {i k : Nat} (hholds : HoldsKey p (eventKey event name) i k) :
    OwnRemoval p event name i k := by
  obtain ⟨data, tasks, task, ht, htask, hprogress⟩ := hholds
  have howns := (hp.thread i _ ht hrows).2
  have hpos : 0 < tasks.countP (inProgress (eventKey event name) data) :=
    List.countP_pos_iff.2 ⟨task, List.mem_of_getElem? htask, hprogress⟩
  have hholder : p.shared.handlerKeys (eventKey event name) = some i :=
    howns.held (Nat.pos_iff_ne_zero.1 hpos)
  have hsum := howns.alone hholder
  simp only [keyView, runsInProgress] at hsum
  refine ⟨⟨data, tasks, task, ht, htask, hprogress⟩, hholder, fun j l hother => ?_, fun hmem => ?_⟩
  · obtain ⟨data', tasks', task', hu, htask', hprogress'⟩ := hother
    have hpos' : 0 < tasks'.countP (inProgress (eventKey event name) data') :=
      List.countP_pos_iff.2 ⟨task', List.mem_of_getElem? htask', hprogress'⟩
    have hholder' : p.shared.handlerKeys (eventKey event name) = some j :=
      (hp.thread j _ hu hrows).2.held (Nat.pos_iff_ne_zero.1 hpos')
    obtain rfl : i = j := Option.some.inj (hholder.symm.trans hholder')
    obtain ⟨rfl, rfl⟩ : data = data' ∧ tasks = tasks' := by
      rw [ht] at hu
      cases hu
      exact ⟨rfl, rfl⟩
    refine ⟨rfl, ?_⟩
    by_contra hne
    have htwo := two_le_countP hne htask' htask hprogress' hprogress
    omega
  · have hcount : 0 < p.shared.completed.count (event.id, name) := List.count_pos_iff.2 hmem
    omega

/-- A handler that removes a key is in progress with it. -/
theorem runOnce_removes {task task' : Task} {outcome : TaskOutcome}
    (h : runOnce i s data task outcome = some (s', task')) (hset : s.handlerKeys key ≠ none)
    (hremoved : s'.handlerKeys key = none) : inProgress key data task = true := by
  obtain ⟨handlerName, phase⟩ := task
  cases phase <;> cases outcome <;> simp only [runOnce, reduceCtorEq] at h
  case undoing.undoes =>
    cases h
    by_cases hkey : handlerKey data handlerName = key
    · simp [inProgress, hkey]
    · exact absurd ((Redis.del_of_ne (Ne.symm hkey)).symm.trans hremoved) hset
  case undoing.undoThrows executed =>
    cases h
    cases executed with
    | false => exact absurd hremoved hset
    | true =>
      by_cases hkey : handlerKey data handlerName = key
      · simp [inProgress, hkey]
      · exact absurd ((Redis.del_of_ne (Ne.symm hkey)).symm.trans hremoved) hset
  case acquiring.acquires =>
    split at h
    · cases h
      exact absurd hremoved (Redis.setIfNotExists_ne_none hset)
    · cases h
      exact absurd hremoved hset
  case acquiring.acquireThrows executed =>
    cases h
    cases executed with
    | false => exact absurd hremoved hset
    | true => exact absurd hremoved (Redis.setIfNotExists_ne_none hset)
  all_goals
    cases h
    exact absurd hremoved hset

/-- A turn that removes the key while it lives is the step of a run that holds it. -/
theorem holdsKey_of_removes {turn : Turn Arrival Outcome Change}
    (hstep : (delivery registry).Step p turn p') (hlives : Concurrent.Avoids (·.expires key) p turn)
    (hset : p.shared.handlerKeys key ≠ none) (hremoved : p'.shared.handlerKeys key = none) :
    ∃ i k outcome, turn = .step i (.task k outcome) ∧ HoldsKey p key i k := by
  cases turn with
  | start arrival =>
    obtain ⟨s, t, hstart, rfl⟩ := Concurrent.next_start_eq_some.1 hstep
    refine absurd ?_ hset
    cases arrival with
    | poll =>
      cases hstart
      exact hremoved
    | deliver jobId =>
      simp only [delivery, deliver] at hstart
      split at hstart
      · split at hstart
        · cases hstart
          exact hremoved
        · cases hstart
      · cases hstart
  | step i outcome =>
    obtain ⟨t, s, t', ht, hmove, rfl⟩ := Concurrent.next_step_eq_some.1 hstep
    cases t with
    | relay phase =>
      obtain ⟨r, hadvance, heq⟩ := Option.map_eq_some_iff.1 hmove
      obtain ⟨s₁, phase'⟩ := r
      cases heq
      obtain ⟨-, ⟨hkeys, -⟩, -⟩ := advanceRelay_typed hadvance
      exact absurd ((congrFun hkeys key).symm.trans hremoved) hset
    | execution data phase =>
      obtain ⟨r, hadvance, heq⟩ := Option.map_eq_some_iff.1 hmove
      obtain ⟨s₁, phase'⟩ := r
      cases heq
      rcases advanceExecution_cases hadvance with
        ⟨tasks, k, task, task', taskOutcome, rfl, rfl, htask, hrun, rfl⟩ | ⟨⟨hkeys, -⟩, -, -, -⟩
      · exact ⟨i, k, taskOutcome, rfl, data, tasks, task, ht, htask, runOnce_removes hrun hset hremoved⟩
      · exact absurd ((congrFun hkeys key).symm.trans hremoved) hset
  | surroundings change =>
    obtain ⟨s, hchange, rfl⟩ := Concurrent.next_surroundings_eq_some.1 hstep
    obtain ⟨-, hholder, -, -⟩ := applyChange_typed hchange hlives
    exact absurd (hholder.symm.trans hremoved) hset

/-- At most one run of a handler completes for an event while the key lives, and the step
    that removes the key is that of the run that has set it. -/
theorem handled_once (hrow : event ∈ p.shared.rows)
    (hreach : Reaches (Guarded (Concurrent.Avoids (·.expires (eventKey event name)))
      (delivery registry).Step) (Pool.idle empty) p) :
    p.shared.completed.count (event.id, name) ≤ 1 ∧
      ∀ turn p', (delivery registry).Step p turn p' →
        Concurrent.Avoids (·.expires (eventKey event name)) p turn →
        p.shared.handlerKeys (eventKey event name) ≠ none →
        p'.shared.handlerKeys (eventKey event name) = none →
        ∃ i k outcome, turn = .step i (.task k outcome) ∧ OwnRemoval p event name i k := by
  have hempty : KeyOnce event name empty := by
    refine fun _ => ⟨fun job hjob => absurd hjob List.not_mem_nil, ?_, fun _ => rfl⟩
    exact Nat.zero_le 1
  have hp := (once_outline registry event name).reaches_anyStep (Concurrent.holds_idle hempty)
    (Concurrent.reaches_avoiding hreach)
  have hrows : RowsTyped event p.shared := fun row hmem hid =>
    congrArg Row.eventType (Table.eq_of_key_eq hmem hrow hid)
  refine ⟨(hp.shared hrows).2.once, fun turn p' hstep hlives hset hremoved => ?_⟩
  obtain ⟨i, k, outcome, rfl, hholds⟩ := holdsKey_of_removes hstep hlives hset hremoved
  exact ⟨i, k, outcome, rfl, holdsKey_alone hp hrows hholds⟩

end HandledOnce

/-! ## A failed run and its retry -/

namespace Sample

/-- The row of the event, once it is claimed. -/
def reopened : Row := ⟨1, "expense.reopened", .obj [], some 0, none⟩

/-- The handler has thrown, and another execution of the job has found its key. -/
def failing : List (Turn Arrival Outcome Change) :=
  enqueued ++ taken 1 ++ [.step 1 (.task 0 .throws), .surroundings (.stall 1)] ++ taken 2

/-- The key is deleted, a further execution completes, and one more finds the key. -/
def retried : List (Turn Arrival Outcome Change) :=
  failing ++ [.step 1 (.task 0 .undoes), .surroundings (.stall 1)] ++ taken 3 ++
    [.step 3 (.task 0 .completes), .surroundings (.stall 1)] ++ taken 4

def keyLives : Guard (Pool State Thread) (Turn Arrival Outcome Change) :=
  Concurrent.Avoids (·.expires (eventKey reopened "audit"))

instance (p : Pool State Thread) (turn : Turn Arrival Outcome Change) : Decidable (keyLives p turn) :=
  inferInstanceAs (Decidable (Concurrent.Avoids _ p turn))

end Sample

theorem handled_once_sample :
    (∃ p, (delivery Sample.registry).execGuarded Sample.keyLives Sample.retried (Pool.idle empty) =
        some p ∧
      p.shared.completed = [(1, "audit")] ∧ p.shared.completed.count (1, "audit") ≤ 1) ∧
    ∃ p p', (delivery Sample.registry).execGuarded Sample.keyLives Sample.failing (Pool.idle empty) =
        some p ∧
      (delivery Sample.registry).Step p (.step 1 (.task 0 .undoes)) p' ∧
      OwnRemoval p Sample.reopened "audit" 1 0 := by
  constructor
  · have hrun : ((delivery Sample.registry).execGuarded Sample.keyLives Sample.retried
        (Pool.idle empty)).map (fun p => (p.shared.rows.rows, p.shared.completed)) =
          some ([Sample.reopened], [(1, "audit")]) := rfl
    obtain ⟨p, hexec, hp⟩ := Option.map_eq_some_iff.1 hrun
    obtain ⟨hrows, hcompleted⟩ := Prod.mk.inj hp
    have hrow : Sample.reopened ∈ p.shared.rows.rows := hrows ▸ List.mem_singleton.2 rfl
    exact ⟨p, hexec, hcompleted,
      (handled_once hrow (Concurrent.reaches_of_execGuarded hexec)).1⟩
  · have hrun : ((delivery Sample.registry).execGuarded Sample.keyLives Sample.failing
        (Pool.idle empty)).bind (fun p => ((delivery Sample.registry).next p
          (.step 1 (.task 0 .undoes))).map (fun p' => (p.shared.rows.rows,
            p.shared.handlerKeys (eventKey Sample.reopened "audit"),
            p'.shared.handlerKeys (eventKey Sample.reopened "audit")))) =
          some ([Sample.reopened], some 1, none) := rfl
    obtain ⟨p, hexec, hp⟩ := Option.bind_eq_some_iff.1 hrun
    obtain ⟨p', hstep, heq⟩ := Option.map_eq_some_iff.1 hp
    obtain ⟨hrows, hkeys⟩ := Prod.mk.inj heq
    obtain ⟨hset, hremoved⟩ := Prod.mk.inj hkeys
    have hrow : Sample.reopened ∈ p.shared.rows.rows := hrows ▸ List.mem_singleton.2 rfl
    obtain ⟨i, k, outcome, hturn, hown⟩ :=
      (handled_once hrow (Concurrent.reaches_of_execGuarded hexec)).2 _ p' hstep trivial
        (by simp [hset]) hremoved
    cases hturn
    exact ⟨p, p', hexec, hstep, hown⟩

end Expentra.Outbox
