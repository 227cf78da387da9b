-- SUMMARY: A processed row was handled by all handlers of its event, as long as a handler is only skipped after a completed run.
import Expentra.Outbox.Delivery

/-!
# Processed rows

The key of a handler is set before the handler runs. When the worker crashes in
between, or another execution of the event overtakes it, the key stands for a run
that has not completed. In runs where a handler is skipped only after some run of it
has completed, a row is marked processed only after a completed run of every handler.
-/

namespace Expentra.Outbox

open Library

section Processed

variable {registry : Registry} {i : Nat} {s s' : State} {data : DomainEventJobData}

/-! ## What is known of the rows -/

/-- Rows stay, and so do completed runs. -/
structure Grows (s s' : State) : Prop where
  rows : ∀ row ∈ s.rows, ∃ row' ∈ s'.rows, row'.id = row.id ∧ row'.eventType = row.eventType
  completed : ∀ run ∈ s.completed, run ∈ s'.completed

theorem Grows.refl (s : State) : Grows s s :=
  ⟨fun row hrow => ⟨row, hrow, rfl, rfl⟩, fun _ => id⟩

/-- A row that is changed keeps its id and its event type. -/
theorem Grows.updateRows (condition : Row → Bool) {assign : Row → Row}
    (hid : ∀ row, (assign row).id = row.id) (htype : ∀ row, (assign row).eventType = row.eventType) :
    Grows s { s with rows := updateWhere s.rows condition assign hid } := by
  refine ⟨fun row hrow => ⟨_, (mem_updateWhere hid).2 ⟨row, hrow, rfl⟩, ?_⟩, fun _ => id⟩
  split
  · exact ⟨hid row, htype row⟩
  · exact ⟨rfl, rfl⟩

theorem Grows.setDispatched (condition : Row → Bool) (dispatchedAt : Option Instant) :
    Grows s
      { s with rows := updateWhere s.rows condition (setDispatched dispatchedAt) (fun _ => rfl) } :=
  .updateRows condition _ (fun _ => rfl)

theorem Grows.markProcessed (outboxEventId : Nat) (processedPayload : Option Json) (now : Instant) :
    Grows s { s with rows := markProcessed s.rows outboxEventId processedPayload now } :=
  .updateRows _ _ (fun _ => rfl)

theorem Grows.append {row : Row} {rows : Rows} {nextId : Nat} (hins : s.rows.insert? row = some rows) :
    Grows s { s with rows := rows, nextId := nextId } :=
  ⟨fun row hrow => ⟨row, (Table.mem_insert hins).2 (.inl hrow), rfl, rfl⟩, fun _ => id⟩

/-- The outbox has the row of an event. -/
def Known (s : State) (outboxEventId : Nat) (eventType : String) : Prop :=
  ∃ row ∈ s.rows, row.id = outboxEventId ∧ row.eventType = eventType

theorem Known.grow {outboxEventId : Nat} {eventType : String} (h : Known s outboxEventId eventType)
    (hgrows : Grows s s') : Known s' outboxEventId eventType := by
  obtain ⟨row, hrow, hid, htype⟩ := h
  obtain ⟨row', hrow', hid', htype'⟩ := hgrows.rows row hrow
  exact ⟨row', hrow', hid'.trans hid, htype'.trans htype⟩

/-- Every handler of the event has a completed run. -/
def Handled (registry : Registry) (s : State) (outboxEventId : Nat) (eventType : String) : Prop :=
  ∀ name ∈ registry.resolve eventType, (outboxEventId, name) ∈ s.completed

theorem Handled.grow {outboxEventId : Nat} {eventType : String}
    (h : Handled registry s outboxEventId eventType) (hgrows : Grows s s') :
    Handled registry s' outboxEventId eventType :=
  fun name hname => hgrows.completed _ (h name hname)

/-- A row is processed only after a completed run of every handler, and jobs are jobs
    of rows. -/
structure Sound (registry : Registry) (s : State) : Prop where
  processed : ∀ row ∈ s.rows, row.processedAt ≠ none → Handled registry s row.id row.eventType
  jobs : ∀ job ∈ s.jobs, Known s job.data.outboxEventId job.data.eventType

/-- What a pass or an execution knows. -/
def Knows (registry : Registry) (s : State) : Thread → Prop
  | .relay (.enqueueing events) => ∀ event ∈ events, Known s event.id event.eventType
  | .relay _ => True
  | .execution data (.dispatching tasks) => Known s data.outboxEventId data.eventType ∧
      tasks.map Task.handlerName = registry.resolve data.eventType ∧
      ∀ task ∈ tasks, task.phase = .fulfilled → (data.outboxEventId, task.handlerName) ∈ s.completed
  | .execution data .marking => Known s data.outboxEventId data.eventType ∧
      Handled registry s data.outboxEventId data.eventType
  | .execution _ _ => True

/-- A thread goes on knowing what it knows. -/
theorem Knows.grow {thread : Thread} (h : Knows registry s thread) (hgrows : Grows s s') :
    Knows registry s' thread := by
  cases thread with
  | relay phase =>
    cases phase with
    | enqueueing events => exact fun event hevent => (h event hevent).grow hgrows
    | _ => trivial
  | execution data phase =>
    cases phase with
    | dispatching tasks =>
      obtain ⟨hknown, hnames, hfulfilled⟩ := h
      exact ⟨hknown.grow hgrows, hnames,
        fun task htask hphase => hgrows.completed _ (hfulfilled task htask hphase)⟩
    | marking => exact ⟨h.1.grow hgrows, h.2.grow hgrows⟩
    | _ => trivial

/-! ## Steps -/

/-- The handler of an event that asks for its key at a step. -/
def asksForKey : Thread → Outcome → Option (DomainEventJobData × String)
  | .execution data (.dispatching tasks), .task k .acquires =>
    (tasks[k]?).map (fun task => (data, task.handlerName))
  | _, _ => none

/-- A handler is skipped only when some run of it for the event has completed. -/
def SkipsCompleted (_ : Nat) (s : State) (thread : Thread) (outcome : Outcome) : Prop :=
  ∀ asked ∈ asksForKey thread outcome, s.handlerKeys (handlerKey asked.1 asked.2) ≠ none →
    (asked.1.outboxEventId, asked.2) ∈ s.completed

instance (i : Nat) (s : State) (thread : Thread) (outcome : Outcome) :
    Decidable (SkipsCompleted i s thread outcome) :=
  inferInstanceAs (Decidable (∀ asked ∈ asksForKey thread outcome, _ → _))

/-- What `runOnce` does: the keys change and the runs grow, and a handler is fulfilled
    only with a completed run. -/
theorem runOnce_spec {task task' : Task} {outcome : TaskOutcome}
    (h : runOnce i s data task outcome = some (s', task'))
    (hskip : outcome = .acquires → s.handlerKeys (handlerKey data task.handlerName) ≠ none →
      (data.outboxEventId, task.handlerName) ∈ s.completed) :
    task'.handlerName = task.handlerName ∧
      (∃ handlerKeys completed, s' = { s with handlerKeys := handlerKeys, completed := completed } ∧
        ∀ run ∈ s.completed, run ∈ completed) ∧
      (task'.phase = .fulfilled → (data.outboxEventId, task.handlerName) ∈ s'.completed) := by
  obtain ⟨handlerName, phase⟩ := task
  cases phase <;> cases outcome <;> simp only [runOnce, reduceCtorEq] at h
  case acquiring.acquires =>
    cases hkey : s.handlerKeys (handlerKey data handlerName) with
    | none =>
      rw [Redis.setIfNotExists_of_none hkey] at h
      cases h
      exact ⟨rfl, ⟨_, _, rfl, fun _ => id⟩, nofun⟩
    | some holder =>
      have hset : s.handlerKeys (handlerKey data handlerName) ≠ none := by simp [hkey]
      rw [Redis.setIfNotExists_of_some hset] at h
      cases h
      exact ⟨rfl, ⟨_, _, rfl, fun _ => id⟩, fun _ => hskip rfl hset⟩
  case running.completes =>
    cases h
    exact ⟨rfl, ⟨_, _, rfl, fun _ => List.mem_append_left _⟩,
      fun _ => List.mem_append_right _ (List.mem_singleton.2 rfl)⟩
  all_goals
    cases h
    exact ⟨rfl, ⟨_, _, rfl, fun _ => id⟩, nofun⟩

/-- A change of the keys and more completed runs keep what is sound. -/
theorem Sound.runs {handlerKeys : Redis HandlerKey Nat} {completed : List (Nat × String)}
    (h : Sound registry s) (hcompleted : ∀ run ∈ s.completed, run ∈ completed) :
    Sound registry { s with handlerKeys := handlerKeys, completed := completed } ∧
      Grows s { s with handlerKeys := handlerKeys, completed := completed } := by
  have hgrows : Grows s { s with handlerKeys := handlerKeys, completed := completed } :=
    ⟨fun row hrow => ⟨row, hrow, rfl, rfl⟩, hcompleted⟩
  exact ⟨⟨fun row hrow hprocessed => (h.processed row hrow hprocessed).grow hgrows,
    fun job hjob => (h.jobs job hjob).grow hgrows⟩, hgrows⟩

/-- A change of the jobs keeps what is sound when each is the job of a row. -/
theorem Sound.setJobs {jobs : Jobs} (h : Sound registry s)
    (hjobs : ∀ job ∈ jobs, Known s job.data.outboxEventId job.data.eventType) :
    Sound registry { s with jobs := jobs } ∧ Grows s { s with jobs := jobs } :=
  ⟨⟨h.processed, hjobs⟩, fun row hrow => ⟨row, hrow, rfl, rfl⟩, fun _ => id⟩

/-- A row that is changed keeps its id and its event type, and is newly processed only
    when its event was handled. -/
theorem Sound.updateRows (h : Sound registry s) (condition : Row → Bool) (assign : Row → Row)
    (hid : ∀ row, (assign row).id = row.id) (htype : ∀ row, (assign row).eventType = row.eventType)
    (hprocessed : ∀ row ∈ s.rows, condition row = true → (assign row).processedAt ≠ none →
      row.processedAt ≠ none ∨ Handled registry s row.id row.eventType) :
    Sound registry { s with rows := updateWhere s.rows condition assign hid } ∧
      Grows s { s with rows := updateWhere s.rows condition assign hid } := by
  have hgrows : Grows s { s with rows := updateWhere s.rows condition assign hid } :=
    .updateRows condition hid htype
  refine ⟨⟨fun row' hrow' hat => ?_, fun job hjob => (h.jobs job hjob).grow hgrows⟩, hgrows⟩
  obtain ⟨row, hrow, rfl⟩ := (mem_updateWhere hid).1 hrow'
  split at hat
  · rename_i hcondition
    rw [if_pos hcondition, hid, htype]
    rcases hprocessed row hrow hcondition hat with hwas | hhandled
    · exact h.processed row hrow hwas
    · exact hhandled
  · rename_i hcondition
    rw [if_neg hcondition]
    exact h.processed row hrow hat

theorem Sound.setDispatched (h : Sound registry s) (condition : Row → Bool)
    (dispatchedAt : Option Instant) :
    Sound registry
        { s with rows := updateWhere s.rows condition (setDispatched dispatchedAt) (fun _ => rfl) } ∧
      Grows s
        { s with rows := updateWhere s.rows condition (setDispatched dispatchedAt) (fun _ => rfl) } :=
  h.updateRows condition _ _ (fun _ => rfl) (fun _ _ _ => .inl)

/-- Marking a row processed is sound when its event was handled. -/
theorem Sound.markProcessed (h : Sound registry s) {outboxEventId : Nat} {eventType : String}
    (hknown : Known s outboxEventId eventType)
    (hhandled : Handled registry s outboxEventId eventType) (processedPayload : Option Json)
    (now : Instant) :
    Sound registry { s with rows := markProcessed s.rows outboxEventId processedPayload now } ∧
      Grows s { s with rows := markProcessed s.rows outboxEventId processedPayload now } := by
  refine h.updateRows _ _ _ (fun _ => rfl) (fun row hrow hcondition _ => .inr ?_)
  obtain ⟨row', hrow', rfl, rfl⟩ := hknown
  have hid : row.id = row'.id := by
    rw [Bool.and_eq_true, decide_eq_true_eq] at hcondition
    exact hcondition.1
  exact Table.eq_of_key_eq hrow hrow' hid ▸ hhandled

/-- A new row keeps what is sound: it is not processed. -/
theorem Sound.append (h : Sound registry s) {row : Row} {rows : Rows} {nextId : Nat}
    (hrow : row.processedAt = none) (hins : s.rows.insert? row = some rows) :
    Sound registry { s with rows := rows, nextId := nextId } ∧
      Grows s { s with rows := rows, nextId := nextId } := by
  have hgrows : Grows s { s with rows := rows, nextId := nextId } := .append hins
  refine ⟨⟨fun row' hrow' hat => ?_, fun job hjob => (h.jobs job hjob).grow hgrows⟩, hgrows⟩
  rcases (Table.mem_insert hins).1 hrow' with hold | rfl
  · exact h.processed row' hold hat
  · exact absurd hrow hat

/-- Jobs with the data of old ones are jobs of rows. -/
theorem Sound.replaceJob (h : Sound registry s) {job reported : Job} {jobId : Nat}
    (hjob : s.jobs.find? jobId = some job) (hdata : reported.data = job.data) :
    ∀ job' ∈ s.jobs.replace reported, Known s job'.data.outboxEventId job'.data.eventType := by
  intro job' hjob'
  rcases Table.eq_or_mem_of_mem_replace hjob' with rfl | ⟨hold, -⟩
  · rw [hdata]
    exact h.jobs job (Table.mem_of_find? hjob)
  · exact h.jobs job' hold

/-! ## Threads -/

/-- A step of a relay pass. -/
theorem advanceRelay_spec {phase phase' : RelayPhase} {outcome : Outcome}
    (h : advanceRelay s phase outcome = some (s', phase')) (hs : Sound registry s)
    (hknows : Knows registry s (.relay phase)) :
    Sound registry s' ∧ Grows s s' ∧ Knows registry s' (.relay phase') := by
  unfold advanceRelay at h
  split at h
  · -- the claimed rows are rows of the table
    rename_i locked now
    cases h
    obtain ⟨hsound, hgrows⟩ := hs.setDispatched (fun row => List.any _ _) (some now)
    refine ⟨hsound, hgrows, ?_⟩
    intro event hevent
    obtain ⟨row, hrow, rfl⟩ := List.mem_map.1 hevent
    have hmem : row ∈ s.rows := by
      have hsorted := List.mem_of_mem_take hrow
      rw [List.mem_insertionSort, List.mem_filter] at hsorted
      exact hsorted.1
    exact Known.grow ⟨row, hmem, rfl, rfl⟩ hgrows
  · cases h
    exact ⟨hs, .refl s, trivial⟩
  · rename_i event rest
    cases h
    obtain ⟨hevent, hrest⟩ := List.forall_mem_cons.1 hknows
    have hjobs : ∀ job ∈ enqueueDomainEvent s.jobs event,
        Known s job.data.outboxEventId job.data.eventType := by
      intro job hjob
      rcases mem_enqueueDomainEvent hjob with hold | rfl
      · exact hs.jobs job hold
      · exact hevent
    obtain ⟨hsound, hgrows⟩ := hs.setJobs hjobs
    exact ⟨hsound, hgrows, fun event hevent => (hrest event hevent).grow hgrows⟩
  · cases h
    exact ⟨hs, .refl s, trivial⟩
  · rename_i event
    cases h
    obtain ⟨hsound, hgrows⟩ := hs.setDispatched (fun row => row.id = event.id) none
    exact ⟨hsound, hgrows, trivial⟩
  · cases h

/-- A step of an execution. -/
theorem advanceExecution_spec {phase phase' : ExecutionPhase} {outcome : Outcome}
    (h : advanceExecution i s data phase outcome = some (s', phase')) (hs : Sound registry s)
    (hknows : Knows registry s (.execution data phase))
    (hskip : SkipsCompleted i s (.execution data phase) outcome) :
    Sound registry s' ∧ Grows s s' ∧ Knows registry s' (.execution data phase') := by
  unfold advanceExecution at h
  split at h
  · -- a handler
    rename_i tasks k taskOutcome
    obtain ⟨task, htask, h⟩ := Option.bind_eq_some_iff.1 h
    obtain ⟨r, hrun, h⟩ := Option.map_eq_some_iff.1 h
    obtain ⟨s₁, task'⟩ := r
    cases h
    obtain ⟨hname, ⟨handlerKeys, completed, rfl, hcompleted⟩, hfulfilled⟩ :=
      runOnce_spec hrun (fun houtcome => hskip (data, task.handlerName) (by simp [asksForKey, houtcome, htask]))
    obtain ⟨hsound, hgrows⟩ := @Sound.runs registry s handlerKeys completed hs hcompleted
    obtain ⟨hknown, hnames, hold⟩ := hknows
    refine ⟨hsound, hgrows, hknown.grow hgrows, ?_, fun u hu hphase => ?_⟩
    · obtain ⟨_, rfl⟩ := List.getElem?_eq_some_iff.1 htask
      rw [← hnames, List.map_set, hname, ← List.map_set, List.set_getElem_self]
    · rcases List.mem_or_eq_of_mem_set hu with hmem | rfl
      · exact hgrows.completed _ (hold u hmem hphase)
      · rw [hname]
        exact hfulfilled hphase
  · -- all handlers have settled
    rename_i tasks
    split at h
    · cases h
    · rename_i hsettled
      obtain ⟨hknown, hnames, hfulfilled⟩ := hknows
      split at h
      · cases h
        exact ⟨hs, .refl s, trivial⟩
      · rename_i hrejected
        cases h
        refine ⟨hs, .refl s, hknown, fun name hname => ?_⟩
        rw [← hnames] at hname
        obtain ⟨task, htask, rfl⟩ := List.mem_map.1 hname
        have hphase : task.phase = .fulfilled ∨ task.phase = .rejected := by
          have hall : settled tasks = true := by simpa using hsettled
          simpa using List.all_eq_true.1 hall task htask
        rcases hphase with hdone | hthrown
        · exact hfulfilled task htask hdone
        · exact absurd (List.any_eq_true.2 ⟨task, htask, by simp [hthrown]⟩) hrejected
  · cases h
    obtain ⟨hsound, hgrows⟩ := hs.markProcessed hknows.1 hknows.2 _ _
    exact ⟨hsound, hgrows, trivial⟩
  · rename_i executed now
    cases h
    cases executed with
    | false => exact ⟨hs, .refl s, trivial⟩
    | true =>
      obtain ⟨hsound, hgrows⟩ := hs.markProcessed hknows.1 hknows.2 _ _
      exact ⟨hsound, hgrows, trivial⟩
  · rename_i succeeded
    split at h
    · cases h
      exact ⟨hs, .refl s, trivial⟩
    · rename_i job hjob
      cases h
      have hdata : (report job succeeded).data = job.data := by cases succeeded <;> rfl
      obtain ⟨hsound, hgrows⟩ := hs.setJobs (hs.replaceJob hjob hdata)
      refine ⟨hsound, hgrows, ?_⟩
      split <;> trivial
  · cases h
    obtain ⟨hsound, hgrows⟩ := hs.setDispatched (fun row => row.id = data.outboxEventId) none
    exact ⟨hsound, hgrows, trivial⟩
  · cases h

/-- What happens around the threads. -/
theorem applyChange_spec {change : Change} (h : applyChange s change = some s')
    (hs : Sound registry s) : Sound registry s' ∧ Grows s s' := by
  cases change with
  | append eventType payload =>
    obtain ⟨rows, hins, rfl⟩ := Option.map_eq_some_iff.1 h
    exact hs.append rfl hins
  | reconcile now =>
    cases h
    exact hs.setDispatched _ none
  | stall jobId =>
    simp only [applyChange] at h
    split at h
    · rename_i job hjob
      split at h
      · cases h
        exact hs.setJobs (hs.replaceJob hjob rfl)
      · cases h
    · cases h
  | evict jobId =>
    cases h
    exact hs.setJobs (fun job hjob => hs.jobs job (Table.mem_keep.1 hjob).1)
  | expire key =>
    cases h
    exact hs.runs (fun _ => id)

theorem outline (registry : Registry) :
    (delivery registry).Outline SkipsCompleted (Sound registry) (fun _ => Knows registry) where
  start := by
    intro s arrival s' t hs hstart
    cases arrival with
    | poll =>
      cases hstart
      exact ⟨hs, fun _ => trivial, fun _ _ => id⟩
    | deliver jobId =>
      simp only [delivery, deliver] at hstart
      split at hstart
      · rename_i job hjob
        split at hstart
        · cases hstart
          have hjobs := @Sound.replaceJob registry s hs job { job with state := .active } _ hjob rfl
          obtain ⟨hsound, hgrows⟩ := hs.setJobs hjobs
          refine ⟨hsound, fun _ => ⟨hs.jobs job (Table.mem_of_find? hjob), ?_, ?_⟩,
            fun _ _ hu => hu.grow hgrows⟩
          · rw [List.map_map]
            exact List.map_id _
          · intro task htask hphase
            obtain ⟨_, -, rfl⟩ := List.mem_map.1 htask
            cases hphase
        · cases hstart
      · cases hstart
  step := by
    intro i s t outcome s' t' hs hknows hskip hstep
    cases t with
    | relay phase =>
      obtain ⟨r, hadvance, heq⟩ := Option.map_eq_some_iff.1 hstep
      obtain ⟨s₁, phase'⟩ := r
      cases heq
      obtain ⟨hsound, hgrows, hknows'⟩ := advanceRelay_spec hadvance hs hknows
      exact ⟨hsound, hknows', fun _ _ _ hu => hu.grow hgrows⟩
    | execution data phase =>
      obtain ⟨r, hadvance, heq⟩ := Option.map_eq_some_iff.1 hstep
      obtain ⟨s₁, phase'⟩ := r
      cases heq
      obtain ⟨hsound, hgrows, hknows'⟩ := advanceExecution_spec hadvance hs hknows hskip
      exact ⟨hsound, hknows', fun _ _ _ hu => hu.grow hgrows⟩
  surroundings := by
    intro s change s' hs hchange
    obtain ⟨hsound, hgrows⟩ := applyChange_spec hchange hs
    exact ⟨hsound, fun _ _ hu => hu.grow hgrows⟩

theorem sound_empty (registry : Registry) : Sound registry empty :=
  ⟨fun _ hrow => absurd hrow List.not_mem_nil, fun _ hjob => absurd hjob List.not_mem_nil⟩

/-- In a run that skips a handler only after a completed run of it, a row is marked
    processed only after a completed run of every handler of its event type. -/
theorem processed_handled {p : Pool State Thread}
    (hreach : Reaches (Guarded (Concurrent.onStep SkipsCompleted) (delivery registry).Step)
      (Pool.idle empty) p) :
    ∀ row ∈ p.shared.rows, row.processedAt ≠ none →
      ∀ name ∈ registry.resolve row.eventType, (row.id, name) ∈ p.shared.completed :=
  ((outline registry).reaches (Concurrent.holds_idle (sound_empty registry)) hreach).shared.processed

end Processed

/-! ## One event -/

namespace Sample

def registry : Registry :=
  [("expense.submitted", ["expense-email", "in-app"]), ("expense.submitted", ["audit"]),
    ("expense.reopened", ["audit"]), ("expense.submitted", ["escalation"])]

/-- An event is appended, claimed and enqueued. -/
def enqueued : List (Turn Arrival Outcome Change) :=
  [.surroundings (.append "expense.reopened" (.obj [])), .start .poll, .step 0 (.claims [] 0),
    .step 0 .enqueues]

/-- A worker takes up the job, and its handler asks for its key. -/
def taken (i : Nat) : List (Turn Arrival Outcome Change) :=
  [.start (.deliver 1), .step i (.task 0 .acquires)]

/-- The handlers have settled, and the row is marked processed. -/
def marked (i : Nat) : List (Turn Arrival Outcome Change) := [.step i .settles, .step i (.marks 1)]

/-- The handler completes, and the job is delivered again before its end was recorded. -/
def redelivered : List (Turn Arrival Outcome Change) :=
  enqueued ++ taken 1 ++ [.step 1 (.task 0 .completes), .surroundings (.stall 1)] ++ taken 2 ++ marked 2

/-- The worker crashes after the key was set, and the job is delivered again. -/
def crashed : List (Turn Arrival Outcome Change) :=
  enqueued ++ taken 1 ++ [.surroundings (.stall 1)] ++ taken 2 ++ marked 2

end Sample

theorem processed_handled_sample :
    ∃ p, (delivery Sample.registry).exec SkipsCompleted Sample.redelivered (Pool.idle empty) = some p ∧
      (∃ row ∈ p.shared.rows, row.processedAt ≠ none) ∧
      ∀ row ∈ p.shared.rows, row.processedAt ≠ none →
        ∀ name ∈ Sample.registry.resolve row.eventType, (row.id, name) ∈ p.shared.completed := by
  have hrun : ((delivery Sample.registry).exec SkipsCompleted Sample.redelivered
      (Pool.idle empty)).any (fun p => ∃ row ∈ p.shared.rows.rows, row.processedAt ≠ none) = true := by
    decide +kernel
  obtain ⟨p, hexec, hprocessed⟩ := (Option.any_eq_true _ _).1 hrun
  exact ⟨p, hexec, of_decide_eq_true hprocessed, processed_handled (Concurrent.reaches_of_exec hexec)⟩

/-- The second execution finds the key of the crashed one and skips the handler: the row
    is processed although no run of the handler has completed. -/
theorem crashed_processed_unhandled :
    ∃ p, (delivery Sample.registry).exec Concurrent.anyStep Sample.crashed (Pool.idle empty) = some p ∧
      p.shared.completed = [] ∧
      ∃ row ∈ p.shared.rows, row.processedAt ≠ none ∧
        "audit" ∈ Sample.registry.resolve row.eventType := by
  have hrun : ((delivery Sample.registry).exec Concurrent.anyStep Sample.crashed
      (Pool.idle empty)).any (fun p => p.shared.completed = [] ∧
        ∃ row ∈ p.shared.rows.rows, row.processedAt ≠ none ∧
          "audit" ∈ Sample.registry.resolve row.eventType) = true := by
    decide +kernel
  obtain ⟨p, hexec, hp⟩ := (Option.any_eq_true _ _).1 hrun
  exact ⟨p, hexec, of_decide_eq_true hp⟩

end Expentra.Outbox
