-- SUMMARY: Emails: what is scheduled and stored, the queue of the jobs, the sender, and the worker with its failure handler.
import Expentra.Library.Interleaving
import Expentra.Notification.Inbox

/-!
# The email pipeline

Scheduling an email asks for the preferences of the receiver, saves a row and adds a job
for it. A worker takes up the job, hands the email to the notification service and marks the
row. Whatever throws is tried again, and the failure handler marks the row when the retries
are exhausted. The queue delivers a job again when its worker is gone, or seems to be.

Each method is a thread that takes one step for each call of the database, the queue or
the service, so that a run is any interleaving of them, with crashes.
-/

namespace Expentra

open Library

/-- The characters that fit into a number of UTF-16 units. A pair that is cut is stored
    as the replacement character. -/
def Js.takeUnits : Nat → List Char → List Char
  | 0, _ => []
  | _ + 1, [] => []
  | 1, c :: _ => if c.toNat < 65536 then [c] else [Char.ofNat 0xFFFD]
  | n + 2, c :: cs => if c.toNat < 65536 then c :: takeUnits (n + 1) cs else c :: takeUnits n cs

/-- `s.slice(0, end)` -/
def Js.sliceTo (s : String) (end_ : Nat) : String := String.ofList (takeUnits end_ s.toList)

structure EmailAttachment where
  fileName : String
  mimeType : String
  contentBase64 : String
deriving DecidableEq, Repr

structure ScheduleEmailParams where
  userId : Nat
  notificationType : NotificationType
  to_ : String
  template : Option String
  data : Option Metadata
  attachments : List EmailAttachment

structure DispatchInAppParams where
  userId : Nat
  notificationType : NotificationType
  title : String
  body : String
  data : Option Metadata

/-! ## What is stored -/

def SENSITIVE_NOTIFICATION_KEYS : List String :=
  ["verifyToken", "otpCode", "resetToken", "token", "password", "accessToken", "refreshToken",
    "contentBase64", "attachments"]

/-- `sanitizeNotificationPayload`, spread: nothing for no data. -/
def sanitizeNotificationPayload (data : Option Metadata) : Metadata :=
  (data.getD []).filter (fun field => !SENSITIVE_NOTIFICATION_KEYS.contains field.1)

namespace NotificationDispatchService

def ESSENTIAL_AUTH_EMAIL_TYPES : List NotificationType :=
  [.EMAIL_VERIFICATION, .PASSWORD_RESET_REQUEST]

def EMAIL_QUEUE_MAX_ATTEMPTS : Nat := 3

/-- The addressee and the template, of which an `undefined` one is not stored. -/
def addressFields (to_ : String) (template : Option String) : Metadata :=
  ("to", .str to_) :: (template.map (fun t => ("template", Json.str t))).toList

/-- The names of the attachments, if there are any. -/
def attachmentFields (attachments : List EmailAttachment) : Metadata :=
  if attachments = [] then []
  else [("attachmentNames", .arr (attachments.map (fun a => .str a.fileName)))]

/-- The payload of the row of an email. -/
def emailPayload (to_ : String) (template : Option String) (data : Option Metadata)
    (attachments : List EmailAttachment) : Metadata :=
  ((addressFields to_ template).spread (sanitizeNotificationPayload data)).spread
    (attachmentFields attachments)

def inAppPayload (params : DispatchInAppParams) : Metadata :=
  Metadata.spread [("title", .str params.title), ("body", .str params.body)]
    (sanitizeNotificationPayload params.data)

def emailRow (params : ScheduleEmailParams) (reference : String) (now : Instant) : Notification where
  reference := reference
  userId := params.userId
  type := params.notificationType
  channel := .EMAIL
  payload := emailPayload params.to_ params.template params.data params.attachments
  status := .PENDING
  sentAt := none
  readAt := none
  errorMessage := none
  createdAt := now

def inAppRow (params : DispatchInAppParams) (reference : String) (now : Instant) : Notification where
  reference := reference
  userId := params.userId
  type := params.notificationType
  channel := .IN_APP
  payload := inAppPayload params
  status := .SENT
  sentAt := some now
  readAt := none
  errorMessage := none
  createdAt := now

/-- The row after `markSent`. An `undefined` error message leaves the column alone. -/
def sentRow (now : Instant) (notification : Notification) : Notification :=
  { notification with status := .SENT, sentAt := some now }

def failedRow (errorMessage : String) (notification : Notification) : Notification :=
  { notification with status := .FAILED, errorMessage := some (Js.sliceTo errorMessage 4000) }

/-- `update({ reference }, …)` -/
def updateRow (db : NotificationDb) (reference : String) (assign : Notification → Notification) :
    NotificationDb :=
  match db.notifications.find? reference with
  | some notification => { db with notifications := db.notifications.replace (assign notification) }
  | none => db

def markSent (db : NotificationDb) (reference : String) (now : Instant) : NotificationDb :=
  updateRow db reference (sentRow now)

def markFailed (db : NotificationDb) (reference errorMessage : String) : NotificationDb :=
  updateRow db reference (failedRow errorMessage)

end NotificationDispatchService

/-! ## The sender -/

/-- The environment variables of the notification service. -/
structure NotificationEnv where
  sendUrl : Option String
  clientId : Option String

structure NotificationConfig where
  sendUrl : String
  clientId : String
deriving DecidableEq, Repr

structure ExternalEmailPayload where
  to_ : String
  template : String
  data : Metadata
  attachments : List EmailAttachment

/-- What is posted: the email is sent, and no text message. -/
structure NotificationSendRequest where
  clientId : String
  templateName : String
  parameters : Metadata
  toEmail : String
  attachments : List EmailAttachment
deriving DecidableEq

/-- An answer of the service, its body read as JSON. -/
structure HttpResponse where
  status : Nat
  body : Json

namespace ExternalNotificationService

def SUCCESS_RESPONSE_CODE : String := "00"

def readNotificationConfig (env : NotificationEnv) : Except String (Option NotificationConfig) :=
  match Js.trimmedOrUndefined env.sendUrl with
  | none => .ok none
  | some sendUrl =>
    match Js.trimmedOrUndefined env.clientId with
    | none => .error "NOTIFICATION_CLIENT_ID is required when NOTIFICATION_SERVICE_URL is set"
    | some clientId => .ok (some ⟨sendUrl, clientId⟩)

/-- `parseNotificationResponse`: the code and the message. -/
def parseNotificationResponse (body : Json) : Except String (String × String) :=
  match body with
  | .obj _ | .arr _ =>
    match body.get? "responseCode", body.get? "responseMessage" with
    | some (.str responseCode), some (.str responseMessage) => .ok (responseCode, responseMessage)
    | _, _ => .error "Notification: response missing responseCode/responseMessage"
  | _ => .error "Notification: empty or invalid response body"

/-- `postNotification`: what becomes of an answer; without one `fetch` has thrown. -/
def readAnswer (answer : Except String HttpResponse) : Except String Unit := do
  let response ← answer
  if ¬ (200 ≤ response.status ∧ response.status < 300) then
    throw ("Notification HTTP " ++ toString response.status)
  let parsed ← parseNotificationResponse response.body
  if parsed.1 ≠ SUCCESS_RESPONSE_CODE then throw ("Notification failed: " ++ parsed.2)

def toRequest (config : NotificationConfig) (payload : ExternalEmailPayload) :
    NotificationSendRequest :=
  ⟨config.clientId, payload.template, payload.data, Js.trim payload.to_, payload.attachments⟩

/-- `sendEmail`: the request that is posted, if one is, and whether the call returns. -/
def sendEmail (env : NotificationEnv) (payload : ExternalEmailPayload)
    (answer : Except String HttpResponse) : Option NotificationSendRequest × Except String Unit :=
  match readNotificationConfig env with
  | .error message => (none, .error message)
  | .ok none => (none, .ok ())
  | .ok (some config) =>
    if Js.trim payload.to_ = "" then (none, .error "Notification: recipient email is required")
    else (some (toRequest config payload), readAnswer answer)

end ExternalNotificationService

/-! ## The queue -/

structure EmailNotificationJobData where
  notificationReference : String
  to_ : String
  template : Option String
  data : Option Metadata
  attachments : List EmailAttachment
  correlationId : Option String

/-- The states of a job; a job that waits to be tried again is a waiting one. -/
inductive EmailJobState where
  | waiting
  | active
  | completed
  | failed
deriving DecidableEq, Repr

/-- A job with the counters of the queue. The queue drops jobs that have ended some time
    ago, which nothing reads; here they stay. -/
structure EmailJob where
  id : Nat
  data : EmailNotificationJobData
  state : EmailJobState
  attemptsMade : Nat
  attemptsStarted : Nat
  stalledCounter : Nat

/-- A call of the sender: in which attempt of which job, what was posted, what the service
    answered if something was, and whether the call returned. -/
structure EmailSend where
  jobId : Nat
  attempt : Nat
  posted : Option NotificationSendRequest
  answer : Except String HttpResponse
  returned : Bool

structure MailState where
  db : NotificationDb
  jobs : Table EmailJob.id
  nextJobId : Nat
  sends : List EmailSend

namespace EmailNotificationProcessor

/-- The payload of the email of a job with a template. -/
def payloadOf (data : EmailNotificationJobData) (template : String) : ExternalEmailPayload :=
  ⟨data.to_, template, data.data.getD [], data.attachments⟩

/-- The template, unless it is missing or empty. -/
def templateOf (data : EmailNotificationJobData) : Option String := data.template.filter (· ≠ "")

/-- `process` up to the return of the sender: what is posted, and the error thrown. -/
def send (env : NotificationEnv) (data : EmailNotificationJobData)
    (answer : Except String HttpResponse) : Option NotificationSendRequest × Except String Unit :=
  match templateOf data with
  | none => (none, .error "Email template is missing")
  | some template => ExternalNotificationService.sendEmail env (payloadOf data template) answer

/-- A job after an attempt. One that failed is tried again unless the attempts are used up or
    the queue gives it up. -/
def settle (job : EmailJob) (error : Option String) (unrecoverable : Bool) : EmailJob :=
  match error with
  | none => { job with state := .completed }
  | some _ => { job with
      attemptsMade := job.attemptsMade + 1
      state := if unrecoverable ||
          job.attemptsMade + 1 ≥ NotificationDispatchService.EMAIL_QUEUE_MAX_ATTEMPTS then .failed
        else .waiting }

end EmailNotificationProcessor

/-! ## Threads -/

/-- Where a call of `scheduleEmail` is. -/
inductive SchedulePhase where
  | checking
  /-- `getPreferences` has found no row. -/
  | creating
  | saving
  | enqueueing (reference : String)
  | finished
  | failed

/-- Where a call of `dispatchInApp` is. -/
inductive DispatchPhase where
  | checking
  | creating
  | saving
  | finished
  | failed

/-- Where an attempt is. -/
inductive AttemptPhase where
  | sending
  | marking
  /-- Before the queue has recorded the outcome. -/
  | reporting (error : Option String) (unrecoverable : Bool)
  /-- In `onFailed`, with the retries exhausted. -/
  | failing (message : String)
  | finished

inductive MailThread where
  | schedule (params : ScheduleEmailParams) (phase : SchedulePhase)
  | dispatch (params : DispatchInAppParams) (phase : DispatchPhase)
  | attempt (jobId number : Nat) (data : EmailNotificationJobData) (phase : AttemptPhase)

inductive MailArrival where
  | scheduleEmail (params : ScheduleEmailParams)
  | dispatchInApp (params : DispatchInAppParams)
  /-- A worker takes up a job. -/
  | deliver (jobId : Nat)

inductive MailOutcome where
  /-- A call of the database or the queue succeeds. -/
  | returns
  /-- It throws; nothing was written. -/
  | throws
  /-- The row of a notification is saved. -/
  | saves (reference : String) (now : Instant)
  | enqueues (correlationId : Option String)
  | enqueueThrows (added : Bool) (correlationId : Option String)
  /-- The sender is called. -/
  | sends (answer : Except String HttpResponse)
  /-- The worker gives up a job that was left too often. -/
  | refuses (message : String)
  | marks (now : Instant)
  | markThrows (executed : Bool) (now : Instant) (message : String)
  /-- The queue records the outcome of an attempt. -/
  | reports
  /-- The queue does not, because another worker has the job. -/
  | loses

/-- What the inbox, the requests for other preferences and the queue do besides. -/
inductive MailChange where
  | markRead (authUser : AuthUser) (reference : String) (now : Instant)
  | markAllRead (authUser : AuthUser) (now : Instant)
  /-- The last statement of `updatePreferences`. -/
  | savePreferences (preferences : NotificationPreference)
  /-- An active job whose worker seems to be gone is put back. -/
  | stall (jobId : Nat)

namespace MailThread

open NotificationInboxService NotificationDispatchService EmailNotificationProcessor

/-- Whether `getPreferences` finds a row, and what the channel is worth then. -/
def check (db : NotificationDb) (userId : Nat) (channel : NotificationChannel)
    (type : NotificationType) : Option Bool :=
  (db.preferences.find? userId).map (isEnabled channel type)

/-- The insertion of the default row; another call may have inserted one meanwhile. -/
def insertPreferences (s : MailState) (userId : Nat) : Option MailState :=
  (s.db.preferences.insert? (defaultPreference userId)).map (fun preferences =>
    { s with db := { s.db with preferences := preferences } })

/-- The insertion of a notification; its reference is unique. -/
def insertNotification (s : MailState) (notification : Notification) : Option MailState :=
  (s.db.notifications.insert? notification).map (fun notifications =>
    { s with db := { s.db with notifications := notifications } })

/-- The data of the job of an email. -/
def jobData (params : ScheduleEmailParams) (reference : String) (correlationId : Option String) :
    EmailNotificationJobData :=
  ⟨reference, params.to_, params.template, params.data, params.attachments, correlationId⟩

/-- `emailQueue.add` -/
def addJob (s : MailState) (data : EmailNotificationJobData) : Option MailState :=
  (s.jobs.insert? ⟨s.nextJobId, data, .waiting, 0, 0, 0⟩).map (fun jobs =>
    { s with jobs := jobs, nextJobId := s.nextJobId + 1 })

/-- The next step of `scheduleEmail`. -/
def advanceSchedule (s : MailState) (params : ScheduleEmailParams) (phase : SchedulePhase)
    (outcome : MailOutcome) : Option (MailState × SchedulePhase) :=
  match phase, outcome with
  | .checking, .returns =>
    match check s.db params.userId .EMAIL params.notificationType with
    | some enabled => some (s, if enabled then .saving else .finished)
    | none => some (s, .creating)
  | .creating, .returns =>
    (insertPreferences s params.userId).map (fun s => (s,
      if isEnabled .EMAIL params.notificationType (defaultPreference params.userId) then .saving
      else .finished))
  | .saving, .saves reference now =>
    (insertNotification s (emailRow params reference now)).map (fun s => (s, .enqueueing reference))
  | .enqueueing reference, .enqueues correlationId =>
    (addJob s (jobData params reference correlationId)).map (fun s => (s, .finished))
  | .enqueueing reference, .enqueueThrows added correlationId =>
    if added then (addJob s (jobData params reference correlationId)).map (fun s => (s, .failed))
    else some (s, .failed)
  | .checking, .throws | .creating, .throws | .saving, .throws => some (s, .failed)
  | _, _ => none

/-- The next step of `dispatchInApp`. -/
def advanceDispatch (s : MailState) (params : DispatchInAppParams) (phase : DispatchPhase)
    (outcome : MailOutcome) : Option (MailState × DispatchPhase) :=
  match phase, outcome with
  | .checking, .returns =>
    match check s.db params.userId .IN_APP params.notificationType with
    | some enabled => some (s, if enabled then .saving else .finished)
    | none => some (s, .creating)
  | .creating, .returns =>
    (insertPreferences s params.userId).map (fun s => (s,
      if isEnabled .IN_APP params.notificationType (defaultPreference params.userId) then .saving
      else .finished))
  | .saving, .saves reference now =>
    (insertNotification s (inAppRow params reference now)).map (fun s => (s, .finished))
  | .checking, .throws | .creating, .throws | .saving, .throws => some (s, .failed)
  | _, _ => none

/-- The outcome of an attempt is recorded; `onFailed` then looks at the attempts. -/
def report (s : MailState) (jobId : Nat) (error : Option String) (unrecoverable : Bool) :
    Option (MailState × AttemptPhase) :=
  match s.jobs.find? jobId with
  | some job =>
    if job.state = .active then
      let settled := settle job error unrecoverable
      some ({ s with jobs := s.jobs.replace settled },
        match error with
        | some message =>
          if settled.attemptsMade < EMAIL_QUEUE_MAX_ATTEMPTS then .finished else .failing message
        | none => .finished)
    else none
  | none => none

/-- The next step of an attempt of a job. -/
def advanceAttempt (env : NotificationEnv) (s : MailState) (jobId number : Nat)
    (data : EmailNotificationJobData) (phase : AttemptPhase) (outcome : MailOutcome) :
    Option (MailState × AttemptPhase) :=
  match phase, outcome with
  | .sending, .sends answer =>
    let (posted, result) := send env data answer
    match result with
    | .ok _ => some ({ s with sends := s.sends ++ [⟨jobId, number, posted, answer, true⟩] }, .marking)
    | .error message =>
      some ({ s with sends := s.sends ++ [⟨jobId, number, posted, answer, false⟩] },
        .reporting (some message) false)
  | .sending, .refuses message => some (s, .reporting (some message) true)
  | .marking, .marks now =>
    some ({ s with db := markSent s.db data.notificationReference now }, .reporting none false)
  | .marking, .markThrows executed now message =>
    let db := if executed then markSent s.db data.notificationReference now else s.db
    some ({ s with db := db }, .reporting (some message) false)
  | .reporting error unrecoverable, .reports => report s jobId error unrecoverable
  | .reporting _ _, .loses => some (s, .finished)
  | .failing message, .returns =>
    some ({ s with db := markFailed s.db data.notificationReference message }, .finished)
  | .failing _, .throws => some (s, .finished)
  | _, _ => none

/-- A worker takes up a job that waits. -/
def deliver (s : MailState) (jobId : Nat) : Option (MailState × MailThread) :=
  match s.jobs.find? jobId with
  | some job =>
    if job.state = .waiting then
      let started := { job with state := .active, attemptsStarted := job.attemptsStarted + 1 }
      some ({ s with jobs := s.jobs.replace started },
        .attempt jobId started.attemptsStarted job.data .sending)
    else none
  | none => none

/-- An essential email is not subject to preferences. -/
def scheduled (params : ScheduleEmailParams) : MailThread :=
  .schedule params
    (if ESSENTIAL_AUTH_EMAIL_TYPES.contains params.notificationType then .saving else .checking)

def applyChange (s : MailState) : MailChange → Option MailState
  | .markRead authUser reference now =>
    (NotificationInboxService.markRead s.db authUser reference now).toOption.map
      (fun read => { s with db := read.2 })
  | .markAllRead authUser now =>
    some { s with db := (NotificationInboxService.markAllRead s.db authUser now).2 }
  | .savePreferences preferences =>
    some { s with db := { s.db with preferences := s.db.preferences.upsert preferences } }
  | .stall jobId =>
    match s.jobs.find? jobId with
    | some job =>
      if job.state = .active then some { s with
        jobs := s.jobs.replace { job with
          state := .waiting
          stalledCounter := job.stalledCounter + 1 } }
      else none
    | none => none

end MailThread

open MailThread in
/-- The calls of the dispatcher, the workers and what happens around them. -/
def mail (env : NotificationEnv) : Concurrent MailState MailThread MailArrival MailOutcome MailChange where
  start s arrival :=
    match arrival with
    | .scheduleEmail params => some (s, scheduled params)
    | .dispatchInApp params => some (s, .dispatch params .checking)
    | .deliver jobId => deliver s jobId
  step _ s thread outcome :=
    match thread with
    | .schedule params phase =>
      (advanceSchedule s params phase outcome).map (fun r => (r.1, .schedule params r.2))
    | .dispatch params phase =>
      (advanceDispatch s params phase outcome).map (fun r => (r.1, .dispatch params r.2))
    | .attempt jobId number data phase =>
      (advanceAttempt env s jobId number data phase outcome).map
        (fun r => (r.1, .attempt jobId number data r.2))
  surroundings := applyChange

/-- No notification, no preferences, and no job. -/
def MailState.empty : MailState := ⟨⟨∅, ∅⟩, ∅, 1, []⟩

theorem eq_ok_of_toOption {ε α : Type} {x : Except ε α} {a : α} (h : x.toOption = some a) :
    x = .ok a := by
  cases x with
  | ok b => exact congrArg _ (Option.some.inj h)
  | error e => cases h

/-- A stall puts an active job back. -/
theorem MailThread.applyChange_stall {s s' : MailState} {jobId : Nat}
    (h : applyChange s (.stall jobId) = some s') : ∃ job, s.jobs.find? jobId = some job ∧
      job.state = .active ∧ s' = { s with jobs := s.jobs.replace { job with
        state := .waiting
        stalledCounter := job.stalledCounter + 1 } } := by
  change (match s.jobs.find? jobId with
    | some job => if job.state = .active then some { s with
        jobs := s.jobs.replace { job with
          state := .waiting
          stalledCounter := job.stalledCounter + 1 } } else none
    | none => none) = some s' at h
  split at h
  · next job hfind =>
    split at h
    · next hactive => exact ⟨job, hfind, hactive, (Option.some.inj h).symm⟩
    · cases h
  · cases h

end Expentra
