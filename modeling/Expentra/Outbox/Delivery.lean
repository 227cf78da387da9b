-- SUMMARY: The delivery of domain events: handlers run once under a Redis key, job executions, relay passes, and their interleaving.
import Expentra.Core.Redis
import Expentra.Library.Interleaving
import Expentra.Outbox.Relay

/-!
# The delivery of domain events

A worker that executes a job starts every handler of the event. Each handler first
sets a Redis key; it is skipped when the key exists, and the key is deleted again
when the handler throws. When all handlers have settled and none has thrown, the row
is marked processed.

Every command of Redis, the database and the queue is one step. Executions of one
event may run side by side, and one that gets no turn any more is that of a worker
that crashed.
-/

namespace Expentra.Outbox

open Library

/-! ## Handlers -/

/-- The factories of `DomainEventHandlerRegistry` in the order of their registration,
    each by the names of the handlers it defines. The payload only goes to their runs. -/
abbrev Registry := List (String × List String)

/-- The handlers of an event type. -/
def Registry.resolve (registry : Registry) (eventType : String) : List String :=
  (registry.filter (fun factory => factory.1 = eventType)).flatMap Prod.snd

/-- `domain-handler:${eventType}:${handlerName}:${entityKey}` -/
structure HandlerKey where
  eventType : String
  handlerName : String
  entityKey : String
deriving DecidableEq, Repr

def resolveEntityKey (outboxEventId : Nat) : String := toString outboxEventId

def handlerKey (data : DomainEventJobData) (handlerName : String) : HandlerKey :=
  ⟨data.eventType, handlerName, resolveEntityKey data.outboxEventId⟩

/-- Where `runOnce` is with a handler. -/
inductive TaskPhase where
  /-- Before `setIfNotExists`. -/
  | acquiring
  | running
  /-- The handler has thrown and its key is to be deleted. -/
  | undoing
  | fulfilled
  | rejected
deriving DecidableEq, Repr

structure Task where
  handlerName : String
  phase : TaskPhase
deriving DecidableEq, Repr

/-- The keys in Redis, the tables, and the serial of the outbox. The source stores `'1'`
    under a handler key; here the value is the execution that set it. `completed` lists
    the runs of handlers that ended without an error. -/
structure State where
  rows : Rows
  nextId : Nat
  jobs : Jobs
  handlerKeys : Redis HandlerKey Nat
  completed : List (Nat × String)

/-- What happens at the next step of `runOnce`. -/
inductive TaskOutcome where
  | acquires
  /-- The command throws; it may have been executed nevertheless. -/
  | acquireThrows (executed : Bool)
  | completes
  | throws
  | undoes
  | undoThrows (executed : Bool)

/-- The next step of `runOnce` in the execution `i`. -/
def runOnce (i : Nat) (s : State) (data : DomainEventJobData) (task : Task) (outcome : TaskOutcome) :
    Option (State × Task) :=
  let key := handlerKey data task.handlerName
  match task.phase, outcome with
  | .acquiring, .acquires =>
    let (acquired, handlerKeys) := s.handlerKeys.setIfNotExists key i
    if acquired then some ({ s with handlerKeys := handlerKeys }, { task with phase := .running })
    else some (s, { task with phase := .fulfilled })
  | .acquiring, .acquireThrows executed =>
    let handlerKeys := if executed then (s.handlerKeys.setIfNotExists key i).2 else s.handlerKeys
    some ({ s with handlerKeys := handlerKeys }, { task with phase := .rejected })
  | .running, .completes =>
    some ({ s with completed := s.completed ++ [(data.outboxEventId, task.handlerName)] },
      { task with phase := .fulfilled })
  | .running, .throws => some (s, { task with phase := .undoing })
  | .undoing, .undoes =>
    some ({ s with handlerKeys := s.handlerKeys.del key }, { task with phase := .rejected })
  | .undoing, .undoThrows executed =>
    let handlerKeys := if executed then s.handlerKeys.del key else s.handlerKeys
    some ({ s with handlerKeys := handlerKeys }, { task with phase := .rejected })
  | _, _ => none

/-! ## Threads -/

/-- Where a pass of the relay is. -/
inductive RelayPhase where
  | polling
  /-- In the loop, with the events left. -/
  | enqueueing (events : List Row)
  /-- In the `catch` block. -/
  | clearing (event : Row)
  | finished
  | failed

inductive ExecutionPhase where
  /-- In `Promise.allSettled`. -/
  | dispatching (tasks : List Task)
  | marking
  /-- Before the queue has recorded the outcome of `process`. -/
  | reporting (succeeded : Bool)
  /-- In `onFailed`, with the retries exhausted. -/
  | clearing
  | finished

inductive Thread where
  | relay (phase : RelayPhase)
  | execution (data : DomainEventJobData) (phase : ExecutionPhase)

/-- What happens at the next step of a thread. -/
inductive Outcome where
  | claims (locked : List Nat) (now : Instant)
  | enqueues
  | enqueueThrows
  | clears
  | task (k : Nat) (outcome : TaskOutcome)
  | settles
  | marks (now : Instant)
  | markThrows (executed : Bool) (now : Instant)
  | reports

inductive Arrival where
  | poll
  /-- A worker takes up a job. -/
  | deliver (jobId : Nat)

/-- What the services, the reconciliation pass, the queue and Redis do besides. -/
inductive Change where
  | append (eventType : String) (payload : Json)
  | reconcile (now : Instant)
  /-- An active job whose worker is gone is put back. -/
  | stall (jobId : Nat)
  /-- The queue forgets a job that has ended. -/
  | evict (jobId : Nat)
  | expire (key : HandlerKey)

/-- The next step of a relay pass. -/
def advanceRelay (s : State) (phase : RelayPhase) (outcome : Outcome) : Option (State × RelayPhase) :=
  match phase, outcome with
  | .polling, .claims locked now =>
    let (events, rows) := claimPendingBatch s.rows 50 locked now
    some ({ s with rows := rows }, .enqueueing events)
  | .enqueueing [], .enqueues => some (s, .finished)
  | .enqueueing (event :: rest), .enqueues =>
    some ({ s with jobs := enqueueDomainEvent s.jobs event }, .enqueueing rest)
  | .enqueueing (event :: _), .enqueueThrows => some (s, .clearing event)
  | .clearing event, .clears => some ({ s with rows := clearDispatched s.rows event.id }, .failed)
  | _, _ => none

/-- All promises are settled. -/
def settled (tasks : List Task) : Bool :=
  tasks.all (fun task => task.phase = .fulfilled || task.phase = .rejected)

/-- The state and the attempts of a job after an execution. -/
def report (job : Job) (succeeded : Bool) : Job :=
  if succeeded then { job with state := .completed }
  else { job with
    attemptsMade := job.attemptsMade + 1
    state := if job.attemptsMade + 1 < domainEventMaxAttempts then .waiting else .failed }

/-- The next step of the execution `i` of a job. -/
def advanceExecution (i : Nat) (s : State) (data : DomainEventJobData) (phase : ExecutionPhase)
    (outcome : Outcome) : Option (State × ExecutionPhase) :=
  let processedPayload := redactProcessedDomainEventPayload data.eventType data.payload
  match phase, outcome with
  | .dispatching tasks, .task k outcome =>
    (tasks[k]?).bind (fun task => (runOnce i s data task outcome).map
      (fun r => (r.1, .dispatching (tasks.set k r.2))))
  | .dispatching tasks, .settles =>
    if !settled tasks then none
    else if tasks.any (fun task => task.phase = .rejected) then some (s, .reporting false)
    else some (s, .marking)
  | .marking, .marks now =>
    some ({ s with rows := markProcessed s.rows data.outboxEventId processedPayload now },
      .reporting true)
  | .marking, .markThrows executed now =>
    let rows :=
      if executed then markProcessed s.rows data.outboxEventId processedPayload now else s.rows
    some ({ s with rows := rows }, .reporting false)
  | .reporting succeeded, .reports =>
    match s.jobs.find? data.outboxEventId with
    | none => some (s, .finished)
    | some job =>
      let reported := report job succeeded
      some ({ s with jobs := s.jobs.replace reported },
        if reported.state = .failed then .clearing else .finished)
  | .clearing, .clears =>
    some ({ s with rows := clearDispatched s.rows data.outboxEventId }, .finished)
  | _, _ => none

/-- The execution of a job starts with the handlers of its event. -/
def deliver (registry : Registry) (s : State) (jobId : Nat) : Option (State × Thread) :=
  match s.jobs.find? jobId with
  | some job =>
    if job.state = .waiting then
      some ({ s with jobs := s.jobs.replace { job with state := .active } },
        .execution job.data (.dispatching
          ((registry.resolve job.data.eventType).map (fun name => ⟨name, .acquiring⟩))))
    else none
  | none => none

def applyChange (s : State) : Change → Option State
  | .append eventType payload =>
    (s.rows.insert? ⟨s.nextId, eventType, payload, none, none⟩).map (fun rows =>
      { s with rows := rows, nextId := s.nextId + 1 })
  | .reconcile now => some { s with rows := reclaimStuckDispatched s.rows now }
  | .stall jobId =>
    match s.jobs.find? jobId with
    | some job =>
      if job.state = .active then some { s with jobs := s.jobs.replace { job with state := .waiting } }
      else none
    | none => none
  | .evict jobId =>
    some { s with jobs := s.jobs.keep (fun job =>
      !(job.id = jobId && (job.state = .completed || job.state = .failed))) }
  | .expire key => some { s with handlerKeys := s.handlerKeys.del key }

/-- The relay, the workers and what happens around them. -/
def delivery (registry : Registry) : Concurrent State Thread Arrival Outcome Change where
  start s arrival :=
    match arrival with
    | .poll => some (s, .relay .polling)
    | .deliver jobId => deliver registry s jobId
  step i s thread outcome :=
    match thread with
    | .relay phase => (advanceRelay s phase outcome).map (fun r => (r.1, .relay r.2))
    | .execution data phase =>
      (advanceExecution i s data phase outcome).map (fun r => (r.1, .execution data r.2))
  surroundings := applyChange

/-- An empty outbox, and nothing in Redis. -/
def empty : State := ⟨∅, 1, ∅, fun _ => none, []⟩

end Expentra.Outbox
