-- SUMMARY: The outbox table, the queue of domain events, and the relay that moves rows from the one to the other.
import Expentra.Core.Json
import Expentra.Library.Table
import Mathlib.Data.List.Sort

/-!
# The relay

Rows are appended to the outbox by the transactions of the services. A relay pass
claims a batch of rows and enqueues a job for each; another pass makes rows that
were claimed but not processed available again.
-/

namespace Expentra.Outbox

open Library

/-! ## Rows -/

/-- A row of `outbox_events`, with the columns of the delivery. -/
structure Row where
  id : Nat
  eventType : String
  payload : Json
  dispatchedAt : Option Instant
  processedAt : Option Instant

abbrev Rows := Table Row.id

/-- `UPDATE outbox_events SET … WHERE …` with an assignment that keeps the id. -/
def updateWhere (rows : Rows) (condition : Row → Bool) (assign : Row → Row)
    (hid : ∀ row, (assign row).id = row.id) : Rows :=
  rows.modify (fun row => if condition row then assign row else row)
    (fun row => by split; exacts [hid row, rfl])

def setDispatched (dispatchedAt : Option Instant) (row : Row) : Row := { row with dispatchedAt }

/-- `claimPendingBatch`: the claimed rows and the table. Rows that other transactions
    have locked are skipped. -/
def claimPendingBatch (rows : Rows) (limit : Nat) (locked : List Nat) (now : Instant) :
    List Row × Rows :=
  let pending := rows.rows.filter (fun row =>
    row.processedAt.isNone && row.dispatchedAt.isNone && !locked.contains row.id)
  let batch := (pending.insertionSort (fun left right => left.id ≤ right.id)).take limit
  (batch.map (setDispatched (some now)),
    updateWhere rows (fun row => batch.any (fun claimed => claimed.id = row.id))
      (setDispatched (some now)) (fun _ => rfl))

def clearDispatched (rows : Rows) (outboxEventId : Nat) : Rows :=
  updateWhere rows (fun row => row.id = outboxEventId) (setDispatched none) (fun _ => rfl)

/-- `OUTBOX_STUCK_DISPATCHED_MINUTES` in milliseconds. -/
def stuckDispatchedMs : Int := 300000

def reclaimStuckDispatched (rows : Rows) (now : Instant) : Rows :=
  updateWhere rows (fun row => row.processedAt.isNone &&
    row.dispatchedAt.any (fun dispatchedAt => dispatchedAt < now - stuckDispatchedMs))
    (setDispatched none) (fun _ => rfl)

/-- `SENSITIVE_EVENT_FIELDS` -/
def sensitiveEventFields : String → List String
  | "auth.email-verification" => ["verifyToken"]
  | "auth.password-reset" => ["resetToken"]
  | _ => []

/-- `redactProcessedDomainEventPayload`: the payload to store, when it is another. -/
def redactProcessedDomainEventPayload (eventType : String) : Json → Option Json
  | .obj fields =>
    let isSensitive := fun field : String × Json => (sensitiveEventFields eventType).contains field.1
    if fields.any isSensitive then
      some (.obj (fields.map (fun field =>
        if isSensitive field then (field.1, .str "[redacted]") else field)))
    else none
  | _ => none

def markProcessed (rows : Rows) (outboxEventId : Nat) (processedPayload : Option Json) (now : Instant) :
    Rows :=
  updateWhere rows (fun row => row.id = outboxEventId && row.processedAt.isNone)
    (fun row => { row with
      processedAt := some now
      payload := processedPayload.getD row.payload })
    (fun _ => rfl)

/-! ## Jobs -/

structure DomainEventJobData where
  outboxEventId : Nat
  eventType : String
  payload : Json

/-- The states of a job in the queue; a delayed job is a waiting one. -/
inductive JobState where
  | waiting
  | active
  | completed
  | failed
deriving DecidableEq, Repr

structure Job where
  data : DomainEventJobData
  state : JobState
  attemptsMade : Nat

/-- The job of an event has the id `domain-event-${event.id}`. -/
def Job.id (job : Job) : Nat := job.data.outboxEventId

abbrev Jobs := Table Job.id

def domainEventMaxAttempts : Nat := 5

/-- A new job for a row. -/
def Row.toJob (event : Row) : Job := ⟨⟨event.id, event.eventType, event.payload⟩, .waiting, 0⟩

/-- `enqueueDomainEvent`: a job that has ended makes place for a new one, and one in
    flight is left alone. -/
def enqueueDomainEvent (jobs : Jobs) (event : Row) : Jobs :=
  match jobs.find? event.id with
  | some existing =>
    if existing.state = .completed || existing.state = .failed then jobs.upsert event.toJob else jobs
  | none => jobs.upsert event.toJob

/-! ## Specs -/

section Specs

variable {rows : Rows} {row row' : Row}

/-- An update changes what its assignment changes, of the rows it selects. -/
theorem mem_updateWhere {condition : Row → Bool} {assign : Row → Row}
    (hid : ∀ row, (assign row).id = row.id) :
    row' ∈ updateWhere rows condition assign hid ↔
      ∃ row ∈ rows, row' = if condition row then assign row else row := by
  simp only [updateWhere, Table.mem_modify, eq_comm (b := row')]

/-- Every job after an enqueueing was there before or is the new one. -/
theorem mem_enqueueDomainEvent {jobs : Jobs} {event : Row} {job : Job}
    (h : job ∈ enqueueDomainEvent jobs event) : job ∈ jobs ∨ job = event.toJob := by
  unfold enqueueDomainEvent at h
  split at h
  · split at h
    · exact Table.mem_of_mem_upsert h
    · exact .inl h
  · exact Table.mem_of_mem_upsert h

end Specs

end Expentra.Outbox
