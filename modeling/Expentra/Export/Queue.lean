-- SUMMARY: The queue of export jobs: requests that add a job under the hash of the request, and the workers that run the jobs.
import Expentra.Export.Generation
import Expentra.Library.Run
import Expentra.Library.Table

/-!
# The export queue

`queueExport` adds a job whose id is a hash of the user, the type and the parameters.
The queue adds nothing while a job with the id exists in any state. The jobs that have
ended stay in the queue until it forgets them.
-/

namespace Expentra

open Library

/-- The payload of a job; the file is generated and emailed when the job runs. -/
structure ExportJobQueueData where
  userId : Nat
  recipientEmail : String
  jobType : ExportJobType
  params : Json
  correlationId : Option String

/-- The states of a job. A delayed job is one that failed and is tried again. -/
inductive ExportJobState where
  | waiting
  | active
  | delayed
  | completed
  | failed
deriving DecidableEq, Repr

/-- A job of the queue. `startedAfter` is not stored: it is the number of requests that
    were queued before the last attempt started, if there was one. -/
structure ExportJob where
  jobId : String
  data : ExportJobQueueData
  state : ExportJobState
  attemptsMade : Nat
  startedAfter : Option Nat

structure QueueExportInput where
  authUser : AuthUser
  jobType : ExportJobType
  params : Option Json
  recipientEmail : Option String

/-- The exception of a user who queues too much. -/
structure TooManyRequests where
  message : String
deriving DecidableEq, Repr

structure QueuedExportResult where
  jobType : ExportJobType
deriving DecidableEq, Repr

/-- The email that `scheduleEmail` is asked to send. -/
structure ExportEmail where
  userId : Nat
  recipient : String
  exportLabel : String
deriving DecidableEq, Repr

/-- A request that returned `queued`, with the job that had its id already. -/
structure QueuedCall where
  data : ExportJobQueueData
  found : Option ExportJob

/-- A run of an export that generated the file and scheduled the email. -/
structure ExportDelivery where
  data : ExportJobQueueData
  startedAfter : Nat
  email : ExportEmail

/-- The jobs, and what has happened so far. -/
structure ExportQueue where
  jobs : Table ExportJob.jobId
  calls : List QueuedCall
  deliveries : List ExportDelivery

namespace ExportService

def EXPORT_QUEUE_MAX_ATTEMPTS : Nat := 3

/-- The text that is hashed. -/
def dedupText (userId : Nat) (jobType : ExportJobType) (params : Json) : String :=
  toString userId ++ ":" ++ jobType.value ++ ":" ++ params.stringify

/-- `export-${dedupHash}`; `sha256` prints the hash of a text in hexadecimal. -/
def jobIdOf (sha256 : String → String) (data : ExportJobQueueData) : String :=
  "export-" ++ sha256 (dedupText data.userId data.jobType data.params)

/-- `input.recipientEmail?.trim() || authUser.email` -/
def recipientOf (input : QueueExportInput) : String :=
  (Js.trimmedOrUndefined input.recipientEmail).getD input.authUser.email

def queueData (input : QueueExportInput) (correlationId : Option String) : ExportJobQueueData where
  userId := input.authUser.id
  recipientEmail := recipientOf input
  jobType := input.jobType
  params := input.params.getD (.obj [])
  correlationId := correlationId

/-- `queue.add` with a job id: nothing is added to a queue that knows the id. -/
def add (jobs : Table ExportJob.jobId) (jobId : String) (data : ExportJobQueueData) :
    Table ExportJob.jobId :=
  (jobs.insert? ⟨jobId, data, .waiting, 0, none⟩).getD jobs

/-- `queueExport`, with the answer of the rate limiter. -/
def queueExport (sha256 : String → String) (q : ExportQueue) (input : QueueExportInput)
    (correlationId : Option String) (allowed : Bool) :
    Except TooManyRequests QueuedExportResult × ExportQueue :=
  if !allowed then (.error ⟨"Export rate limit exceeded. Please try again later."⟩, q)
  else
    let data := queueData input correlationId
    let jobId := jobIdOf sha256 data
    (.ok ⟨input.jobType⟩, { q with
      jobs := add q.jobs jobId data
      calls := q.calls ++ [⟨data, q.jobs.find? jobId⟩] })

end ExportService

namespace ExportProcessor

/-- `jobType.replace(/\./g, ' ').replace(/_/g, ' ')` -/
def labelForJobType (jobType : ExportJobType) : String :=
  jobType.value.map (fun c => if c = '.' || c = '_' then ' ' else c)

def emailOf (data : ExportJobQueueData) : ExportEmail :=
  ⟨data.userId, data.recipientEmail, labelForJobType data.jobType⟩

/-- A job after an attempt that threw. -/
def retried (job : ExportJob) : ExportJob :=
  { job with
    attemptsMade := job.attemptsMade + 1
    state := if job.attemptsMade + 1 < ExportService.EXPORT_QUEUE_MAX_ATTEMPTS then .delayed else .failed }

/-- `process` and what the queue makes of its outcome: the file was generated and the
    email scheduled, or something threw. -/
def finish (q : ExportQueue) (job : ExportJob) (succeeded : Bool) : ExportQueue :=
  if succeeded then
    { q with
      jobs := q.jobs.replace { job with state := .completed }
      deliveries := q.deliveries ++ [⟨job.data, job.startedAfter.getD 0, emailOf job.data⟩] }
  else { q with jobs := q.jobs.replace (retried job) }

end ExportProcessor

/-- What happens to the queue. -/
inductive ExportOperation where
  | queueExport (input : QueueExportInput) (correlationId : Option String) (allowed : Bool)
  /-- A worker takes up a job that waits, for the first time or again. -/
  | start (jobId : String)
  | finish (jobId : String) (succeeded : Bool)
  /-- A job whose worker is gone is put back. -/
  | stall (jobId : String)
  /-- The queue forgets a job that has ended. -/
  | evict (jobId : String)

namespace ExportOperation

def ended (job : ExportJob) : Bool := job.state = .completed || job.state = .failed

def run (sha256 : String → String) (q : ExportQueue) (op : ExportOperation) : ExportQueue :=
  match op with
  | queueExport input correlationId allowed =>
    (ExportService.queueExport sha256 q input correlationId allowed).2
  | start jobId =>
    match q.jobs.find? jobId with
    | some job =>
      if job.state = .waiting || job.state = .delayed then
        { q with jobs := q.jobs.replace { job with
            state := .active
            startedAfter := some q.calls.length } }
      else q
    | none => q
  | finish jobId succeeded =>
    match q.jobs.find? jobId with
    | some job => if job.state = .active then ExportProcessor.finish q job succeeded else q
    | none => q
  | stall jobId =>
    match q.jobs.find? jobId with
    | some job =>
      if job.state = .active then { q with jobs := q.jobs.replace { job with state := .waiting } } else q
    | none => q
  | evict jobId => { q with jobs := q.jobs.keep (fun job => !(job.jobId = jobId && ended job)) }

def Step (sha256 : String → String) (q : ExportQueue) (op : ExportOperation) (q' : ExportQueue) :
    Prop := q' = op.run sha256 q

end ExportOperation

end Expentra
