-- SUMMARY: In every run of the email pipeline the status of a notification tells what became of its job, and the attempts are bounded.
import Expentra.Library.Tickets
import Expentra.Notification.Email

/-!
# Emails are accounted for

A row that says an email was sent has an attempt in which the sender returned; one that says
it failed has a job whose attempts are used up. This needs that no two jobs are of the same
row and that no two threads make the same attempt: the reference of a row and the number of
an attempt are tickets.
-/

namespace Expentra

open Library Library.Concurrent NotificationDispatchService

/-- The sender has returned in an attempt of a job of the notification. -/
def SentBy (s : MailState) (reference : String) : Prop :=
  ∃ id job, s.jobs.find? id = some job ∧ job.data.notificationReference = reference ∧
    ∃ send ∈ s.sends, send.jobId = id ∧ send.returned = true

/-- A job of the notification has used up its attempts. -/
def FailedBy (s : MailState) (reference : String) : Prop :=
  ∃ id job, s.jobs.find? id = some job ∧ job.data.notificationReference = reference ∧
    job.state = .failed ∧ job.attemptsMade = EMAIL_QUEUE_MAX_ATTEMPTS

/-- The payload a row has that is the one of the data of a job. -/
def EmailNotificationJobData.storedPayload (data : EmailNotificationJobData) : Metadata :=
  emailPayload data.to_ data.template data.data data.attachments

/-- The row a job is of. -/
def HasRow (s : MailState) (reference : String) (payload : Metadata) : Prop :=
  ∃ n, s.db.notifications.find? reference = some n ∧ n.channel = .EMAIL ∧ n.payload = payload

def IsSentRow (s : MailState) (reference : String) : Prop :=
  ∃ n, s.db.notifications.find? reference = some n ∧ n.status = .SENT

/-- What an attempt posted is the email of its job, sent to the address without the white
    space around it; a sender that returned has found no service or its success. -/
structure SendOf (env : NotificationEnv) (data : EmailNotificationJobData) (send : EmailSend) :
    Prop where
  posted : ∀ request, send.posted = some request → ∃ config template,
    ExternalNotificationService.readNotificationConfig env = .ok (some config) ∧
      EmailNotificationProcessor.templateOf data = some template ∧
      request = ⟨config.clientId, template, data.data.getD [], Js.trim data.to_, data.attachments⟩
  accepted : send.returned = true →
    (send.posted = none ∧ ExternalNotificationService.readNotificationConfig env = .ok none) ∨
      (send.posted.isSome = true ∧ ExternalNotificationService.readAnswer send.answer = .ok ())

/-- No key of the payload is one of the sensitive ones. -/
def Redacted (payload : Metadata) : Prop :=
  ∀ field ∈ payload, field.1 ∉ SENSITIVE_NOTIFICATION_KEYS

/-- The counters of a job. Every start ended in an attempt made or in a stall, or is the
    last one. -/
structure EmailJob.Counts (job : EmailJob) : Prop where
  started : job.attemptsStarted = job.attemptsMade + job.stalledCounter +
    if job.state = .active ∨ job.state = .completed then 1 else 0
  made : job.attemptsMade ≤ EMAIL_QUEUE_MAX_ATTEMPTS
  left : job.state ≠ .failed → job.attemptsMade < EMAIL_QUEUE_MAX_ATTEMPTS

structure MailInvariant (env : NotificationEnv) (s : MailState) : Prop where
  rows : ∀ {id job}, s.jobs.find? id = some job →
    HasRow s job.data.notificationReference job.data.storedPayload
  single : ∀ {id id' job job'}, s.jobs.find? id = some job → s.jobs.find? id' = some job' →
    job.data.notificationReference = job'.data.notificationReference → id = id'
  sent : ∀ {reference n}, s.db.notifications.find? reference = some n → n.channel = .EMAIL →
    n.status = .SENT → SentBy s reference
  failed : ∀ {reference n}, s.db.notifications.find? reference = some n → n.status = .FAILED →
    FailedBy s reference
  completed : ∀ {id job}, s.jobs.find? id = some job → job.state = .completed →
    IsSentRow s job.data.notificationReference
  inApp : ∀ {reference n}, s.db.notifications.find? reference = some n → n.channel = .IN_APP →
    n.status = .SENT
  redacted : ∀ {reference n}, s.db.notifications.find? reference = some n → Redacted n.payload
  counts : ∀ {id job}, s.jobs.find? id = some job → job.Counts
  numbered : ∀ send ∈ s.sends, ∃ job, s.jobs.find? send.jobId = some job ∧
    1 ≤ send.attempt ∧ send.attempt ≤ job.attemptsStarted ∧ SendOf env job.data send
  distinct : (s.sends.map (fun send => (send.jobId, send.attempt))).Nodup

/-! ## Tickets and threads -/

/-- What only one thread has: the row it saved, or the attempt it has not made yet. -/
inductive MailTicket where
  | row (reference : String)
  | attempt (jobId number : Nat)

def MailThread.ticket : MailThread → Option MailTicket
  | .schedule _ (.enqueueing reference) => some (.row reference)
  | .attempt jobId number _ .sending => some (.attempt jobId number)
  | _ => none

def MailState.Issued (s : MailState) : MailTicket → Prop
  | .row reference => ∃ n, s.db.notifications.find? reference = some n
  | .attempt jobId number => ∃ job, s.jobs.find? jobId = some job ∧ number ≤ job.attemptsStarted

/-- The job of an attempt. -/
def HasJob (s : MailState) (jobId number : Nat) (data : EmailNotificationJobData) : Prop :=
  ∃ job, s.jobs.find? jobId = some job ∧ job.data = data ∧ 1 ≤ number ∧
    number ≤ job.attemptsStarted

/-- What an attempt relies on at each phase. -/
def AttemptPhase.Holds (s : MailState) (jobId number : Nat) (data : EmailNotificationJobData) :
    AttemptPhase → Prop
  | .sending => ∀ send ∈ s.sends, (send.jobId, send.attempt) ≠ (jobId, number)
  | .marking => ∃ send ∈ s.sends, send.jobId = jobId ∧ send.returned = true
  | .reporting none _ => ∀ job, s.jobs.find? jobId = some job → job.state ≠ .failed →
      IsSentRow s data.notificationReference
  | .failing _ => ∃ job, s.jobs.find? jobId = some job ∧ job.state = .failed ∧
      job.attemptsMade = EMAIL_QUEUE_MAX_ATTEMPTS
  | _ => True

/-- What a thread relies on. -/
def MailThread.Holds (s : MailState) : MailThread → Prop
  | .schedule params (.enqueueing reference) =>
    HasRow s reference (emailPayload params.to_ params.template params.data params.attachments) ∧
      ∀ id job, s.jobs.find? id = some job → job.data.notificationReference ≠ reference
  | .attempt jobId number data phase =>
    HasJob s jobId number data ∧ AttemptPhase.Holds s jobId number data phase
  | _ => True

/-- What no change of the state takes back. -/
structure MailState.Grows (s s' : MailState) : Prop where
  row : ∀ {reference n}, s.db.notifications.find? reference = some n →
    ∃ n', s'.db.notifications.find? reference = some n' ∧ n'.channel = n.channel ∧
      n'.payload = n.payload
  job : ∀ {id job}, s.jobs.find? id = some job → ∃ job', s'.jobs.find? id = some job' ∧
    job'.data = job.data ∧ job.attemptsStarted ≤ job'.attemptsStarted ∧
      (job.state = .failed → job' = job)
  send : ∀ send ∈ s.sends, send ∈ s'.sends
  sent : ∀ {id job}, s.jobs.find? id = some job → job.state ≠ .failed →
    IsSentRow s job.data.notificationReference → IsSentRow s' job.data.notificationReference

/-- A change that adds no job and makes no attempt. -/
structure MailState.Quiet (s s' : MailState) : Prop extends MailState.Grows s s' where
  sends : s'.sends = s.sends
  jobs : ∀ {id job'}, s'.jobs.find? id = some job' →
    ∃ job, s.jobs.find? id = some job ∧ job.data = job'.data

variable {env : NotificationEnv} {s s' : MailState} {t : MailThread}

theorem HasRow.grows {reference : String} {payload : Metadata} (h : HasRow s reference payload)
    (hgrows : s.Grows s') : HasRow s' reference payload := by
  obtain ⟨n, hn, hchannel, hpayload⟩ := h
  obtain ⟨n', hn', hsame, hsame'⟩ := hgrows.row hn
  exact ⟨n', hn', hsame.trans hchannel, hsame'.trans hpayload⟩

theorem HasJob.grows {jobId number : Nat} {data : EmailNotificationJobData}
    (h : HasJob s jobId number data) (hgrows : s.Grows s') : HasJob s' jobId number data := by
  obtain ⟨job, hjob, hdata, hone, hle⟩ := h
  obtain ⟨job', hjob', hdata', hstarted, -⟩ := hgrows.job hjob
  exact ⟨job', hjob', hdata'.trans hdata, hone, Nat.le_trans hle hstarted⟩

theorem MailState.Grows.keepsIssued (h : s.Grows s') : KeepsIssued MailState.Issued s s' := by
  intro ticket hissued
  cases ticket with
  | row reference =>
    obtain ⟨n, hn⟩ := hissued
    obtain ⟨n', hn', -⟩ := h.row hn
    exact ⟨n', hn'⟩
  | attempt jobId number =>
    obtain ⟨job, hjob, hle⟩ := hissued
    obtain ⟨job', hjob', -, hstarted, -⟩ := h.job hjob
    exact ⟨job', hjob', Nat.le_trans hle hstarted⟩

/-- A thread that has no attempt to make relies on what no change takes back. -/
theorem AttemptPhase.Holds.grows {jobId number : Nat} {data : EmailNotificationJobData}
    {phase : AttemptPhase} (h : phase.Holds s jobId number data) (hjob : HasJob s jobId number data)
    (hgrows : s.Grows s')
    (hsends : phase = .sending → ∀ send ∈ s'.sends, (send.jobId, send.attempt) ≠ (jobId, number)) :
    phase.Holds s' jobId number data := by
  obtain ⟨job, hfind, hdata, -⟩ := hjob
  match phase, h with
  | .sending, _ => exact hsends rfl
  | .marking, h =>
    obtain ⟨send, hsend, hsame, hreturned⟩ := h
    exact ⟨send, hgrows.send send hsend, hsame, hreturned⟩
  | .reporting none _, h =>
    intro job' hfind' hstate
    obtain ⟨job'', hfind'', -, -, hfailed⟩ := hgrows.job hfind
    cases hfind'.symm.trans hfind''
    have hnot : job.state ≠ .failed := by
      intro hstuck
      rw [hfailed hstuck] at hstate
      exact hstate hstuck
    rw [← hdata]
    refine hgrows.sent hfind hnot ?_
    rw [hdata]
    exact h job hfind hnot
  | .reporting (some _) _, _ => exact trivial
  | .failing _, h =>
    obtain ⟨job, hfind, hstate, hmade⟩ := h
    obtain ⟨job', hfind', -, -, hsame⟩ := hgrows.job hfind
    cases hsame hstate
    exact ⟨job, hfind', hstate, hmade⟩
  | .finished, _ => exact trivial

/-- A quiet change disturbs no thread. -/
theorem MailThread.Holds.quiet (h : t.Holds s) (hquiet : s.Quiet s') : t.Holds s' := by
  match t, h with
  | .schedule params (.enqueueing reference), h =>
    refine ⟨h.1.grows hquiet.toGrows, fun id job' hjob' hreference => ?_⟩
    obtain ⟨job, hjob, hdata⟩ := hquiet.jobs hjob'
    refine h.2 id job hjob ?_
    rw [hdata]
    exact hreference
  | .attempt jobId number data phase, h =>
    refine ⟨h.1.grows hquiet.toGrows, h.2.grows h.1 hquiet.toGrows ?_⟩
    rintro rfl
    rw [hquiet.sends]
    exact h.2
  | .schedule _ .checking, _ => exact trivial
  | .schedule _ .creating, _ => exact trivial
  | .schedule _ .saving, _ => exact trivial
  | .schedule _ .finished, _ => exact trivial
  | .schedule _ .failed, _ => exact trivial
  | .dispatch _ _, _ => exact trivial

/-! ## Changes of rows -/

/-- A row as the dispatcher creates it. -/
structure Notification.New (n : Notification) : Prop where
  status : n.status = if n.channel = .EMAIL then .PENDING else .SENT
  redacted : Redacted n.payload

/-- A change of the rows: the channel and the payload stay, and a new status is accounted
    for. -/
structure MailState.RowsChange (s : MailState) (db' : NotificationDb) : Prop where
  kept : ∀ {reference n}, s.db.notifications.find? reference = some n →
    ∃ n', db'.notifications.find? reference = some n'
  back : ∀ {reference n'}, db'.notifications.find? reference = some n' →
    ∃ n, s.db.notifications.find? reference = some n ∧ n'.channel = n.channel ∧
      n'.payload = n.payload ∧ (n'.status = n.status ∨ (n'.status = .SENT ∧ SentBy s reference) ∨
        (n'.status = .FAILED ∧ FailedBy s reference))

/-- A change of every row by a function. -/
theorem MailState.RowsChange.of_map {db' : NotificationDb} (f : Notification → Notification)
    (hfind : ∀ reference, db'.notifications.find? reference =
      (s.db.notifications.find? reference).map f)
    (hf : ∀ {reference n}, s.db.notifications.find? reference = some n →
      (f n).channel = n.channel ∧ (f n).payload = n.payload ∧ ((f n).status = n.status ∨
        ((f n).status = .SENT ∧ SentBy s reference) ∨ ((f n).status = .FAILED ∧ FailedBy s reference))) :
    s.RowsChange db' := by
  constructor
  · intro reference n hn
    exact ⟨f n, by rw [hfind, hn]; rfl⟩
  · intro reference n' hn'
    rw [hfind, Option.map_eq_some_iff] at hn'
    obtain ⟨n, hn, rfl⟩ := hn'
    exact ⟨n, hn, hf hn⟩

/-- A change of one row. -/
theorem MailState.RowsChange.of_replace {n n' : Notification} {preferences}
    (hn : s.db.notifications.find? n'.reference = some n) (hchannel : n'.channel = n.channel)
    (hpayload : n'.payload = n.payload)
    (hstatus : n'.status = n.status ∨ (n'.status = .SENT ∧ SentBy s n'.reference) ∨
      (n'.status = .FAILED ∧ FailedBy s n'.reference)) :
    s.RowsChange ⟨s.db.notifications.replace n', preferences⟩ := by
  refine of_map (fun m => if m.reference = n'.reference then n' else m) (fun reference => ?_) ?_
  · by_cases hreference : reference = n'.reference
    · subst hreference
      rw [Table.find?_replace_self hn, hn]
      simp [Table.key_of_find? hn]
    · rw [Table.find?_replace_ne hreference]
      cases hfind : s.db.notifications.find? reference with
      | none => rfl
      | some m =>
        have hkey : m.reference = reference := Table.key_of_find? hfind
        simp [hkey, hreference]
  · intro reference m hm
    have hkey : m.reference = reference := Table.key_of_find? hm
    split
    · next hsame =>
      obtain rfl : reference = n'.reference := hkey.symm.trans hsame
      cases hm.symm.trans hn
      exact ⟨hchannel, hpayload, hstatus⟩
    · exact ⟨rfl, rfl, .inl rfl⟩

namespace MailInvariant

/-- The failure of a job and its completion exclude each other. -/
theorem not_failedBy (h : MailInvariant env s) {id : Nat} {job : EmailJob}
    (hjob : s.jobs.find? id = some job) (hstate : job.state ≠ .failed) :
    ¬ FailedBy s job.data.notificationReference := by
  rintro ⟨id', job', hjob', hreference, hfailed, -⟩
  obtain rfl := h.single hjob' hjob hreference
  cases hjob'.symm.trans hjob
  exact hstate hfailed

theorem quiet_rows (h : MailInvariant env s) {db' : NotificationDb} (hrows : s.RowsChange db') :
    s.Quiet { s with db := db' } := by
  refine ⟨⟨?_, ?_, fun _ hsend => hsend, ?_⟩, rfl, fun hjob => ⟨_, hjob, rfl⟩⟩
  · intro reference n hn
    obtain ⟨n', hn'⟩ := hrows.kept hn
    obtain ⟨_, hold, hchannel, hpayload, -⟩ := hrows.back hn'
    cases hold.symm.trans hn
    exact ⟨n', hn', hchannel, hpayload⟩
  · intro id job hjob
    exact ⟨job, hjob, rfl, Nat.le_refl _, fun _ => rfl⟩
  · rintro id job hjob hstate ⟨n, hn, hsent⟩
    obtain ⟨n', hn'⟩ := hrows.kept hn
    obtain ⟨_, hold, -, -, hstatus⟩ := hrows.back hn'
    cases hold.symm.trans hn
    rcases hstatus with hsame | ⟨hsent', -⟩ | ⟨-, hfailed⟩
    · exact ⟨n', hn', hsame.trans hsent⟩
    · exact ⟨n', hn', hsent'⟩
    · exact absurd hfailed (h.not_failedBy hjob hstate)

theorem ofRows (h : MailInvariant env s) {db' : NotificationDb} (hrows : s.RowsChange db') :
    MailInvariant env { s with db := db' } := by
  have hgrows := (h.quiet_rows hrows).toGrows
  constructor
  · exact fun hjob => (h.rows hjob).grows hgrows
  · exact h.single
  · intro reference n' hn' hchannel' hsent
    obtain ⟨n, hn, hchannel, -, hstatus⟩ := hrows.back hn'
    rcases hstatus with hsame | ⟨-, hby⟩ | ⟨hfailed, -⟩
    · exact h.sent hn (hchannel.symm.trans hchannel') (hsame.symm.trans hsent)
    · exact hby
    · cases hfailed.symm.trans hsent
  · intro reference n' hn' hfailed
    obtain ⟨n, hn, -, -, hstatus⟩ := hrows.back hn'
    rcases hstatus with hsame | ⟨hsent, -⟩ | ⟨-, hby⟩
    · exact h.failed hn (hsame.symm.trans hfailed)
    · cases hsent.symm.trans hfailed
    · exact hby
  · intro id job hjob hcompleted
    have hstate : job.state ≠ .failed := by
      intro hfailed
      cases hcompleted.symm.trans hfailed
    exact hgrows.sent hjob hstate (h.completed hjob hcompleted)
  · intro reference n' hn' hchannel'
    obtain ⟨n, hn, hchannel, -, hstatus⟩ := hrows.back hn'
    rcases hstatus with hsame | ⟨hsent, -⟩ | ⟨-, id, job, hjob, rfl, -⟩
    · exact hsame.trans (h.inApp hn (hchannel.symm.trans hchannel'))
    · exact hsent
    · obtain ⟨m, hm, hemail, -⟩ := h.rows hjob
      cases hm.symm.trans hn
      cases hemail.symm.trans (hchannel.symm.trans hchannel')
  · intro reference n' hn'
    obtain ⟨n, hn, -, hpayload, -⟩ := hrows.back hn'
    rw [hpayload]
    exact h.redacted hn
  · exact h.counts
  · exact h.numbered
  · exact h.distinct

/-! ## New rows and jobs -/

/-- What a new row grows. -/
theorem grows_insertNotification {n : Notification}
    (hinsert : MailThread.insertNotification s n = some s') : s.Grows s' := by
  obtain ⟨notifications, hnew, rfl⟩ := Option.map_eq_some_iff.1 hinsert
  have hold : ∀ {reference m}, s.db.notifications.find? reference = some m →
      notifications.find? reference = some m := by
    intro reference m hm
    rw [Table.find?_insert_ne hnew, hm]
    rintro rfl
    exact (Table.insert?_eq_some.1 hnew).1 m (Table.mem_of_find? hm) (Table.key_of_find? hm)
  refine ⟨?_, ?_, fun _ hsend => hsend, ?_⟩
  · exact fun hm => ⟨_, hold hm, rfl, rfl⟩
  · exact fun hjob => ⟨_, hjob, rfl, Nat.le_refl _, fun _ => rfl⟩
  · rintro id job - - ⟨m, hm, hsent⟩
    exact ⟨m, hold hm, hsent⟩

theorem quiet_insertNotification {n : Notification}
    (hinsert : MailThread.insertNotification s n = some s') : s.Quiet s' := by
  refine ⟨grows_insertNotification hinsert, ?_, ?_⟩
  · obtain ⟨notifications, -, rfl⟩ := Option.map_eq_some_iff.1 hinsert
    rfl
  · obtain ⟨notifications, -, rfl⟩ := Option.map_eq_some_iff.1 hinsert
    exact fun hjob => ⟨_, hjob, rfl⟩

/-- What is found after the insertion of a row. -/
theorem find?_insertNotification {n m : Notification} {reference : String}
    (hinsert : MailThread.insertNotification s n = some s')
    (hm : s'.db.notifications.find? reference = some m) :
    (reference = n.reference ∧ m = n) ∨ s.db.notifications.find? reference = some m := by
  obtain ⟨notifications, hnew, rfl⟩ := Option.map_eq_some_iff.1 hinsert
  by_cases hreference : reference = n.reference
  · subst hreference
    change notifications.find? n.reference = some m at hm
    rw [Table.find?_insert_self hnew] at hm
    exact .inl ⟨rfl, (Option.some.inj hm).symm⟩
  · change notifications.find? reference = some m at hm
    rw [Table.find?_insert_ne hnew hreference] at hm
    exact .inr hm

theorem ofInsert (h : MailInvariant env s) {n : Notification} (hn : n.New)
    (hinsert : MailThread.insertNotification s n = some s') : MailInvariant env s' := by
  have hgrows := grows_insertNotification hinsert
  have hfind : ∀ {reference m}, s'.db.notifications.find? reference = some m →
      (reference = n.reference ∧ m = n) ∨ s.db.notifications.find? reference = some m :=
    fun hm => find?_insertNotification hinsert hm
  have hpending : n.channel = .EMAIL → n.status = .PENDING := fun hemail => by
    rw [hn.status, if_pos hemail]
  have hsent : n.channel = .IN_APP → n.status = .SENT := fun hinApp => by
    rw [hn.status, if_neg (by rw [hinApp]; decide)]
  obtain ⟨notifications, -, rfl⟩ := Option.map_eq_some_iff.1 hinsert
  constructor
  · exact fun hjob => (h.rows hjob).grows hgrows
  · exact h.single
  · intro reference m hm hchannel hstatus
    rcases hfind hm with ⟨-, rfl⟩ | hold
    · cases (hpending hchannel).symm.trans hstatus
    · exact h.sent hold hchannel hstatus
  · intro reference m hm hstatus
    rcases hfind hm with ⟨-, rfl⟩ | hold
    · cases hchannel : m.channel with
      | EMAIL => cases (hpending hchannel).symm.trans hstatus
      | IN_APP => cases (hsent hchannel).symm.trans hstatus
    · exact h.failed hold hstatus
  · intro id job hjob hcompleted
    have hstate : job.state ≠ .failed := by
      intro hfailed
      cases hcompleted.symm.trans hfailed
    exact hgrows.sent hjob hstate (h.completed hjob hcompleted)
  · intro reference m hm hchannel
    rcases hfind hm with ⟨-, rfl⟩ | hold
    · exact hsent hchannel
    · exact h.inApp hold hchannel
  · intro reference m hm
    rcases hfind hm with ⟨-, rfl⟩ | hold
    · exact hn.redacted
    · exact h.redacted hold
  · exact h.counts
  · exact h.numbered
  · exact h.distinct

/-- What is found after a job was added. -/
theorem find?_addJob {data : EmailNotificationJobData} (hadd : MailThread.addJob s data = some s')
    {id : Nat} {job : EmailJob} (hjob : s'.jobs.find? id = some job) :
    (id = s.nextJobId ∧ job = ⟨s.nextJobId, data, .waiting, 0, 0, 0⟩) ∨
      s.jobs.find? id = some job := by
  obtain ⟨jobs, hnew, rfl⟩ := Option.map_eq_some_iff.1 hadd
  by_cases hid : id = s.nextJobId
  · subst hid
    change jobs.find? s.nextJobId = some job at hjob
    rw [Table.find?_insert_self hnew] at hjob
    exact .inl ⟨rfl, (Option.some.inj hjob).symm⟩
  · change jobs.find? id = some job at hjob
    rw [Table.find?_insert_ne hnew hid] at hjob
    exact .inr hjob

theorem grows_addJob {data : EmailNotificationJobData} (hadd : MailThread.addJob s data = some s') :
    s.Grows s' := by
  obtain ⟨jobs, hnew, rfl⟩ := Option.map_eq_some_iff.1 hadd
  refine ⟨fun hn => ⟨_, hn, rfl, rfl⟩, ?_, fun _ hsend => hsend, fun _ _ hsent => hsent⟩
  intro id job hjob
  refine ⟨job, ?_, rfl, Nat.le_refl _, fun _ => rfl⟩
  change jobs.find? id = some job
  rw [Table.find?_insert_ne hnew, hjob]
  rintro rfl
  exact (Table.insert?_eq_some.1 hnew).1 job (Table.mem_of_find? hjob) (Table.key_of_find? hjob)

theorem ofAddJob (h : MailInvariant env s) {data : EmailNotificationJobData}
    (hadd : MailThread.addJob s data = some s')
    (hrow : HasRow s data.notificationReference data.storedPayload)
    (hfresh : ∀ id job, s.jobs.find? id = some job →
      job.data.notificationReference ≠ data.notificationReference) : MailInvariant env s' := by
  have hgrows := grows_addJob hadd
  have hfind : ∀ {id job}, s'.jobs.find? id = some job →
      (id = s.nextJobId ∧ job = ⟨s.nextJobId, data, .waiting, 0, 0, 0⟩) ∨
        s.jobs.find? id = some job :=
    fun hjob => find?_addJob hadd hjob
  have hsentBy : ∀ {reference}, SentBy s reference → SentBy s' reference := by
    rintro reference ⟨id, job, hjob, hreference, send, hsend, hreturned⟩
    obtain ⟨job', hjob', hdata, -⟩ := hgrows.job hjob
    exact ⟨id, job', hjob', by rw [hdata, hreference], send, hgrows.send send hsend, hreturned⟩
  have hfailedBy : ∀ {reference}, FailedBy s reference → FailedBy s' reference := by
    rintro reference ⟨id, job, hjob, hreference, hstate, hmade⟩
    obtain ⟨job', hjob', -, -, hsame⟩ := hgrows.job hjob
    cases hsame hstate
    exact ⟨id, job, hjob', hreference, hstate, hmade⟩
  have hdb : s'.db = s.db ∧ s'.sends = s.sends := by
    obtain ⟨jobs, -, rfl⟩ := Option.map_eq_some_iff.1 hadd
    exact ⟨rfl, rfl⟩
  constructor
  · intro id job hjob
    rcases hfind hjob with ⟨-, rfl⟩ | hold
    · exact hrow.grows hgrows
    · exact (h.rows hold).grows hgrows
  · intro id id' job job' hjob hjob' hsame
    rcases hfind hjob with ⟨rfl, rfl⟩ | hold
    · rcases hfind hjob' with ⟨rfl, -⟩ | hold'
      · rfl
      · exact absurd hsame.symm (hfresh id' job' hold')
    · rcases hfind hjob' with ⟨rfl, rfl⟩ | hold'
      · exact absurd hsame (hfresh id job hold)
      · exact h.single hold hold' hsame
  · intro reference n hn hchannel hstatus
    rw [hdb.1] at hn
    exact hsentBy (h.sent hn hchannel hstatus)
  · intro reference n hn hstatus
    rw [hdb.1] at hn
    exact hfailedBy (h.failed hn hstatus)
  · intro id job hjob hcompleted
    rw [IsSentRow, hdb.1]
    rcases hfind hjob with ⟨-, rfl⟩ | hold
    · cases hcompleted
    · exact h.completed hold hcompleted
  · intro reference n hn
    rw [hdb.1] at hn
    exact h.inApp hn
  · intro reference n hn
    rw [hdb.1] at hn
    exact h.redacted hn
  · intro id job hjob
    rcases hfind hjob with ⟨-, rfl⟩ | hold
    · exact ⟨rfl, Nat.zero_le _, fun _ => Nat.succ_pos 2⟩
    · exact h.counts hold
  · intro send hsend
    rw [hdb.2] at hsend
    obtain ⟨job, hjob, hone, hle, hof⟩ := h.numbered send hsend
    obtain ⟨job', hjob', hdata, hstarted, -⟩ := hgrows.job hjob
    refine ⟨job', hjob', hone, Nat.le_trans hle hstarted, ?_⟩
    rw [hdata]
    exact hof
  · rw [hdb.2]
    exact h.distinct

/-! ## Jobs and attempts -/

section Jobs

variable {job job' : EmailJob}

theorem find?_replaceJob (hjob : s.jobs.find? job'.id = some job) {id : Nat} {found : EmailJob}
    (hfound : (s.jobs.replace job').find? id = some found) :
    (id = job'.id ∧ found = job') ∨ (id ≠ job'.id ∧ s.jobs.find? id = some found) := by
  by_cases hid : id = job'.id
  · subst hid
    rw [Table.find?_replace_self hjob] at hfound
    exact .inl ⟨rfl, (Option.some.inj hfound).symm⟩
  · rw [Table.find?_replace_ne hid] at hfound
    exact .inr ⟨hid, hfound⟩

theorem quiet_replaceJob (hjob : s.jobs.find? job'.id = some job) (hdata : job'.data = job.data)
    (hstate : job.state ≠ .failed) (hstarted : job.attemptsStarted ≤ job'.attemptsStarted) :
    s.Quiet { s with jobs := s.jobs.replace job' } := by
  refine ⟨⟨fun hn => ⟨_, hn, rfl, rfl⟩, ?_, fun _ hsend => hsend, fun _ _ hsent => hsent⟩, rfl, ?_⟩
  · intro id found hfound
    by_cases hid : id = job'.id
    · subst hid
      cases hfound.symm.trans hjob
      exact ⟨job', Table.find?_replace_self hjob, hdata, hstarted, fun hfailed => absurd hfailed hstate⟩
    · exact ⟨found, by rw [Table.find?_replace_ne hid, hfound], rfl, Nat.le_refl _, fun _ => rfl⟩
  · intro id found hfound
    rcases find?_replaceJob hjob hfound with ⟨rfl, rfl⟩ | ⟨-, hold⟩
    · exact ⟨job, hjob, hdata.symm⟩
    · exact ⟨found, hold, rfl⟩

theorem ofReplaceJob (h : MailInvariant env s) (hjob : s.jobs.find? job'.id = some job)
    (hdata : job'.data = job.data) (hstate : job.state ≠ .failed)
    (hstarted : job.attemptsStarted ≤ job'.attemptsStarted) (hcounts : job'.Counts)
    (hcompleted : job'.state = .completed → IsSentRow s job.data.notificationReference) :
    MailInvariant env { s with jobs := s.jobs.replace job' } := by
  have hgrows := (quiet_replaceJob hjob hdata hstate hstarted).toGrows
  constructor
  · intro id found hfound
    rcases find?_replaceJob hjob hfound with ⟨-, rfl⟩ | ⟨-, hold⟩
    · rw [hdata]
      exact h.rows hjob
    · exact h.rows hold
  · intro id id' found found' hfound hfound' hsame
    rcases find?_replaceJob hjob hfound with ⟨rfl, rfl⟩ | ⟨-, hold⟩
    · rcases find?_replaceJob hjob hfound' with ⟨rfl, -⟩ | ⟨-, hold'⟩
      · rfl
      · exact h.single hjob hold' (by rw [← hdata, hsame])
    · rcases find?_replaceJob hjob hfound' with ⟨rfl, rfl⟩ | ⟨-, hold'⟩
      · exact h.single hold hjob (by rw [← hdata, hsame])
      · exact h.single hold hold' hsame
  · intro reference n hn hchannel hsent
    obtain ⟨id, found, hfound, hreference, hsend⟩ := h.sent hn hchannel hsent
    obtain ⟨found', hfound', hsame, -⟩ := hgrows.job hfound
    exact ⟨id, found', hfound', by rw [hsame, hreference], hsend⟩
  · intro reference n hn hfailed
    obtain ⟨id, found, hfound, hreference, hover, hmade⟩ := h.failed hn hfailed
    obtain ⟨found', hfound', -, -, hsame⟩ := hgrows.job hfound
    cases hsame hover
    exact ⟨id, found, hfound', hreference, hover, hmade⟩
  · intro id found hfound hdone
    rcases find?_replaceJob hjob hfound with ⟨-, rfl⟩ | ⟨-, hold⟩
    · rw [hdata]
      exact hcompleted hdone
    · exact h.completed hold hdone
  · exact h.inApp
  · exact h.redacted
  · intro id found hfound
    rcases find?_replaceJob hjob hfound with ⟨-, rfl⟩ | ⟨-, hold⟩
    · exact hcounts
    · exact h.counts hold
  · intro send hsend
    obtain ⟨found, hfound, hone, hle, hof⟩ := h.numbered send hsend
    obtain ⟨found', hfound', hsame, hmore, -⟩ := hgrows.job hfound
    refine ⟨found', hfound', hone, Nat.le_trans hle hmore, ?_⟩
    rw [hsame]
    exact hof
  · exact h.distinct

end Jobs

theorem grows_send (send : EmailSend) : s.Grows { s with sends := s.sends ++ [send] } :=
  ⟨fun hn => ⟨_, hn, rfl, rfl⟩, fun hjob => ⟨_, hjob, rfl, Nat.le_refl _, fun _ => rfl⟩,
    fun _ hsend => List.mem_append_left _ hsend, fun _ _ hsent => hsent⟩

theorem ofSend (h : MailInvariant env s) {send : EmailSend} {job : EmailJob}
    (hjob : s.jobs.find? send.jobId = some job) (hone : 1 ≤ send.attempt)
    (hle : send.attempt ≤ job.attemptsStarted) (hof : SendOf env job.data send)
    (hfresh : ∀ x ∈ s.sends, (x.jobId, x.attempt) ≠ (send.jobId, send.attempt)) :
    MailInvariant env { s with sends := s.sends ++ [send] } := by
  constructor
  · exact h.rows
  · exact h.single
  · intro reference n hn hchannel hstatus
    obtain ⟨id, found, hfound, hreference, x, hx, hreturned⟩ := h.sent hn hchannel hstatus
    exact ⟨id, found, hfound, hreference, x, List.mem_append_left _ hx, hreturned⟩
  · exact h.failed
  · exact h.completed
  · exact h.inApp
  · exact h.redacted
  · exact h.counts
  · intro x hx
    rcases List.mem_append.1 hx with hold | hnew
    · exact h.numbered x hold
    · obtain rfl := List.mem_singleton.1 hnew
      exact ⟨job, hjob, hone, hle, hof⟩
  · change ((s.sends ++ [send]).map _).Nodup
    rw [List.map_append, List.nodup_append]
    refine ⟨h.distinct, List.nodup_singleton _, ?_⟩
    intro pair hpair pair' hpair' heq
    obtain ⟨x, hx, rfl⟩ := List.mem_map.1 hpair
    obtain rfl := List.mem_singleton.1 hpair'
    exact hfresh x hx heq

end MailInvariant

/-! ## What is stored -/

theorem Redacted.spread {left right : Metadata} (hleft : Redacted left) (hright : Redacted right) :
    Redacted (left.spread right) := by
  intro field hfield
  rcases List.mem_append.1 hfield with hmem | hmem
  · exact hleft field (List.mem_filter.1 hmem).1
  · exact hright field hmem

theorem redacted_sanitized (data : Option Metadata) : Redacted (sanitizeNotificationPayload data) := by
  intro field hfield
  have hclean := (List.mem_filter.1 hfield).2
  simpa using hclean

theorem new_emailRow (params : ScheduleEmailParams) (reference : String) (now : Instant) :
    (emailRow params reference now).New := by
  refine ⟨rfl, Redacted.spread (Redacted.spread ?_ (redacted_sanitized _)) ?_⟩
  · intro field hfield
    rcases List.mem_cons.1 hfield with rfl | hfield
    · exact show "to" ∉ SENSITIVE_NOTIFICATION_KEYS by decide
    · obtain ⟨template, -, rfl⟩ := Option.map_eq_some_iff.1 (Option.mem_toList.1 hfield)
      exact show "template" ∉ SENSITIVE_NOTIFICATION_KEYS by decide
  · intro field hfield
    unfold attachmentFields at hfield
    split at hfield
    · cases hfield
    · obtain rfl := List.mem_singleton.1 hfield
      exact show "attachmentNames" ∉ SENSITIVE_NOTIFICATION_KEYS by decide

theorem new_inAppRow (params : DispatchInAppParams) (reference : String) (now : Instant) :
    (inAppRow params reference now).New := by
  refine ⟨rfl, Redacted.spread ?_ (redacted_sanitized _)⟩
  intro field hfield
  rcases List.mem_cons.1 hfield with rfl | hfield
  · exact show "title" ∉ SENSITIVE_NOTIFICATION_KEYS by decide
  · obtain rfl := List.mem_singleton.1 hfield
    exact show "body" ∉ SENSITIVE_NOTIFICATION_KEYS by decide

/-- What an attempt sends is accounted for. -/
theorem sendOf_send {jobId number : Nat} {data : EmailNotificationJobData}
    {answer : Except String HttpResponse} {posted : Option NotificationSendRequest}
    {result : Except String Unit} {returned : Bool}
    (hsend : EmailNotificationProcessor.send env data answer = (posted, result))
    (hreturned : returned = true → result = .ok ()) :
    SendOf env data ⟨jobId, number, posted, answer, returned⟩ := by
  unfold EmailNotificationProcessor.send at hsend
  split at hsend
  · cases hsend
    constructor
    · rintro request ⟨⟩
    · intro htrue
      cases hreturned htrue
  · next template htemplate =>
    unfold ExternalNotificationService.sendEmail at hsend
    split at hsend
    · cases hsend
      constructor
      · rintro request ⟨⟩
      · intro htrue
        cases hreturned htrue
    · next hconfig =>
      cases hsend
      constructor
      · rintro request ⟨⟩
      · exact fun _ => .inl ⟨rfl, hconfig⟩
    · next config hconfig =>
      split at hsend
      · cases hsend
        constructor
        · rintro request ⟨⟩
        · intro htrue
          cases hreturned htrue
      · cases hsend
        constructor
        · rintro request ⟨⟩
          exact ⟨config, template, hconfig, htemplate, rfl⟩
        · exact fun htrue => .inr ⟨rfl, hreturned htrue⟩

/-! ## Changes of rows that occur -/

theorem rowsChange_updateRow {reference : String} {assign : Notification → Notification}
    (hreference : ∀ n, (assign n).reference = n.reference)
    (hchannel : ∀ n, (assign n).channel = n.channel) (hpayload : ∀ n, (assign n).payload = n.payload)
    (hstatus : ∀ n, ((assign n).status = .SENT ∧ SentBy s reference) ∨
      ((assign n).status = .FAILED ∧ FailedBy s reference)) :
    s.RowsChange (updateRow s.db reference assign) := by
  unfold updateRow
  split
  · next n hn =>
    have hkey : (assign n).reference = reference := (hreference n).trans (Table.key_of_find? hn)
    refine .of_replace (hkey.symm ▸ hn) (hchannel n) (hpayload n) (.inr ?_)
    rw [hkey]
    exact hstatus n
  · exact .of_map id (fun _ => Option.map_id.symm ▸ rfl) (fun _ => ⟨rfl, rfl, .inl rfl⟩)

theorem rowsChange_preferences {preferences : Table NotificationPreference.userId} :
    s.RowsChange { s.db with preferences := preferences } :=
  .of_map id (fun _ => Option.map_id.symm ▸ rfl) (fun _ => ⟨rfl, rfl, .inl rfl⟩)

theorem setRead_same (now : Instant) (n : Notification) :
    (NotificationInboxService.setRead now n).channel = n.channel ∧
      (NotificationInboxService.setRead now n).payload = n.payload ∧
      (NotificationInboxService.setRead now n).status = n.status := by
  unfold NotificationInboxService.setRead
  split <;> exact ⟨rfl, rfl, rfl⟩

theorem rowsChange_markRead {authUser : AuthUser} {reference : String} {now : Instant}
    {n : Notification} {db' : NotificationDb}
    (hread : NotificationInboxService.markRead s.db authUser reference now = .ok (n, db')) :
    s.RowsChange db' := by
  obtain ⟨found, hfound, hread⟩ := Except.bind_eq_ok.1 hread
  split at hread
  · cases hread
  · cases hread
    obtain ⟨hmem, -⟩ := findEntityByReference_eq_ok hfound
    obtain ⟨hchannel, hpayload, hstatus⟩ := setRead_same now found
    refine .of_replace ?_ hchannel hpayload (.inl hstatus)
    rw [NotificationInboxService.setRead_reference]
    exact Table.find?_of_mem hmem

theorem rowsChange_markAllRead (authUser : AuthUser) (now : Instant) :
    s.RowsChange (NotificationInboxService.markAllRead s.db authUser now).2 := by
  refine .of_map (fun n => if NotificationInboxService.isInApp authUser.id n then
    NotificationInboxService.setRead now n else n) (fun reference => ?_) (fun _ => ?_)
  · rw [NotificationInboxService.markAllRead]
    exact @Table.find?_modify _ _ _ _ _ _ _ (NotificationInboxService.setReadIf_reference _ now)
  split
  · obtain ⟨hchannel, hpayload, hstatus⟩ := setRead_same now _
    exact ⟨hchannel, hpayload, .inl hstatus⟩
  · exact ⟨rfl, rfl, .inl rfl⟩

/-! ## The steps -/

/-- What the outline asks of a step of one thread. -/
structure Kept (env : NotificationEnv) (s : MailState) (t : MailThread) (s' : MailState)
    (t' : MailThread) : Prop where
  keeps : KeepsIssued MailState.Issued s s'
  takes : TakesTicket MailThread.ticket MailState.Issued s s' t.ticket t'
  invariant : MailInvariant env s'
  holds : t'.Holds s'
  others : ∀ u : MailThread, Apart MailThread.ticket MailState.Issued s t.ticket u →
    u.Holds s → u.Holds s'

variable {t' : MailThread}

/-- A quiet step, after which the thread holds no ticket. -/
theorem Kept.of_quiet (hquiet : s.Quiet s') (hinvariant : MailInvariant env s')
    (hholds : t'.Holds s') (hticket : t'.ticket = none) : Kept env s t s' t' where
  keeps := hquiet.toGrows.keepsIssued
  takes := fun k hk => by cases hticket.symm.trans hk
  invariant := hinvariant
  holds := hholds
  others := fun _ _ hu => hu.quiet hquiet

theorem MailState.Quiet.refl : s.Quiet s :=
  ⟨⟨fun hn => ⟨_, hn, rfl, rfl⟩, fun hjob => ⟨_, hjob, rfl, Nat.le_refl _, fun _ => rfl⟩,
    fun _ hsend => hsend, fun _ _ hsent => hsent⟩, rfl, fun hjob => ⟨_, hjob, rfl⟩⟩

/-- A step that leaves the state alone. -/
theorem Kept.of_idle (h : MailInvariant env s) (hholds : t'.Holds s) (hticket : t'.ticket = none) :
    Kept env s t s t' :=
  .of_quiet .refl h hholds hticket

theorem Kept.of_insert (h : MailInvariant env s) {n : Notification} (hn : n.New)
    (hinsert : MailThread.insertNotification s n = some s') (hholds : t'.Holds s')
    (hticket : t'.ticket = none ∨ t'.ticket = some (.row n.reference)) : Kept env s t s' t' where
  keeps := (MailInvariant.grows_insertNotification hinsert).keepsIssued
  takes := by
    intro k hk
    rcases hticket with hnone | hrow
    · cases hnone.symm.trans hk
    · cases hrow.symm.trans hk
      obtain ⟨notifications, hnew, rfl⟩ := Option.map_eq_some_iff.1 hinsert
      refine .inr ⟨?_, n, Table.find?_insert_self hnew⟩
      rintro ⟨m, hm⟩
      exact (Table.insert?_eq_some.1 hnew).1 m (Table.mem_of_find? hm) (Table.key_of_find? hm)
  invariant := h.ofInsert hn hinsert
  holds := hholds
  others := fun _ _ hu => hu.quiet (MailInvariant.quiet_insertNotification hinsert)

/-- Another thread does not rely on a row's having no job when the job is added under the
    ticket of the row. -/
theorem Kept.of_addJob (h : MailInvariant env s) {params : ScheduleEmailParams} {reference : String}
    {data : EmailNotificationJobData} (hreference : data.notificationReference = reference)
    (hpayload : data.storedPayload =
      emailPayload params.to_ params.template params.data params.attachments)
    (hadd : MailThread.addJob s data = some s')
    (hholds : (MailThread.schedule params (.enqueueing reference)).Holds s)
    (hplain : ∀ s, t'.Holds s) (hticket : t'.ticket = none) :
    Kept env s (.schedule params (.enqueueing reference)) s' t' where
  keeps := (MailInvariant.grows_addJob hadd).keepsIssued
  takes := fun k hk => by cases hticket.symm.trans hk
  invariant := by
    refine h.ofAddJob hadd ?_ ?_
    · rw [hreference, hpayload]
      exact hholds.1
    · rw [hreference]
      exact hholds.2
  holds := hplain s'
  others := by
    have hgrows := MailInvariant.grows_addJob hadd
    intro u hapart hu
    match u, hu with
    | .schedule params' (.enqueueing reference'), hu =>
      refine ⟨hu.1.grows hgrows, fun id job hjob hsame => ?_⟩
      rcases MailInvariant.find?_addJob hadd hjob with ⟨-, rfl⟩ | hold
      · refine (hapart (.row reference') rfl).2 ?_
        rw [← hsame, hreference]
        rfl
      · exact hu.2 id job hold hsame
    | .attempt jobId number data' phase, hu =>
      refine ⟨hu.1.grows hgrows, hu.2.grows hu.1 hgrows ?_⟩
      rintro rfl
      obtain ⟨jobs, -, rfl⟩ := Option.map_eq_some_iff.1 hadd
      exact hu.2
    | .schedule _ .checking, _ => exact trivial
    | .schedule _ .creating, _ => exact trivial
    | .schedule _ .saving, _ => exact trivial
    | .schedule _ .finished, _ => exact trivial
    | .schedule _ .failed, _ => exact trivial
    | .dispatch _ _, _ => exact trivial

theorem kept_insertPreferences (h : MailInvariant env s) {userId : Nat}
    (hinsert : MailThread.insertPreferences s userId = some s') (hplain : ∀ s, t'.Holds s)
    (hticket : t'.ticket = none) : Kept env s t s' t' := by
  obtain ⟨preferences, -, rfl⟩ := Option.map_eq_some_iff.1 hinsert
  exact .of_quiet (h.quiet_rows rowsChange_preferences) (h.ofRows rowsChange_preferences)
    (hplain _) hticket

/-- A step of `scheduleEmail`. -/
theorem kept_schedule (h : MailInvariant env s) {params : ScheduleEmailParams}
    {phase phase' : SchedulePhase} {outcome : MailOutcome}
    (hholds : (MailThread.schedule params phase).Holds s)
    (hstep : MailThread.advanceSchedule s params phase outcome = some (s', phase')) :
    Kept env s (.schedule params phase) s' (.schedule params phase') := by
  have hplain : ∀ enabled : Bool, ∀ s, (MailThread.schedule params
      (if enabled then .saving else .finished)).Holds s := by
    rintro (_ | _) s <;> exact trivial
  have hnone : ∀ enabled : Bool, (MailThread.schedule params
      (if enabled then .saving else .finished)).ticket = none := by
    rintro (_ | _) <;> rfl
  unfold MailThread.advanceSchedule at hstep
  split at hstep
  · split at hstep
    · cases hstep
      exact .of_idle h (hplain _ _) (hnone _)
    · cases hstep
      exact .of_idle h trivial rfl
  · obtain ⟨s₁, hinsert, heq⟩ := Option.map_eq_some_iff.1 hstep
    cases heq
    exact kept_insertPreferences h hinsert (hplain _) (hnone _)
  · next reference now =>
    obtain ⟨s₁, hinsert, heq⟩ := Option.map_eq_some_iff.1 hstep
    cases heq
    refine .of_insert h (new_emailRow params reference now) hinsert ⟨?_, ?_⟩ (.inr rfl)
    · obtain ⟨notifications, hnew, rfl⟩ := Option.map_eq_some_iff.1 hinsert
      exact ⟨_, Table.find?_insert_self hnew, rfl, rfl⟩
    · -- a job with the reference would have a row already
      intro id job hjob hsame
      obtain ⟨notifications, hnew, rfl⟩ := Option.map_eq_some_iff.1 hinsert
      obtain ⟨m, hm, -⟩ := h.rows hjob
      rw [hsame] at hm
      exact (Table.insert?_eq_some.1 hnew).1 m (Table.mem_of_find? hm) (Table.key_of_find? hm)
  · next reference correlationId =>
    obtain ⟨s₁, hadd, heq⟩ := Option.map_eq_some_iff.1 hstep
    cases heq
    exact .of_addJob h rfl rfl hadd hholds (fun _ => trivial) rfl
  · next reference added correlationId =>
    split at hstep
    · obtain ⟨s₁, hadd, heq⟩ := Option.map_eq_some_iff.1 hstep
      cases heq
      exact .of_addJob h rfl rfl hadd hholds (fun _ => trivial) rfl
    · cases hstep
      exact .of_idle h trivial rfl
  · cases hstep
    exact .of_idle h trivial rfl
  · cases hstep
    exact .of_idle h trivial rfl
  · cases hstep
    exact .of_idle h trivial rfl
  · cases hstep

/-- A step of `dispatchInApp`. -/
theorem kept_dispatch (h : MailInvariant env s) {params : DispatchInAppParams}
    {phase phase' : DispatchPhase} {outcome : MailOutcome}
    (hstep : MailThread.advanceDispatch s params phase outcome = some (s', phase')) :
    Kept env s (.dispatch params phase) s' (.dispatch params phase') := by
  unfold MailThread.advanceDispatch at hstep
  split at hstep
  · split at hstep
    · cases hstep
      exact .of_idle h trivial rfl
    · cases hstep
      exact .of_idle h trivial rfl
  · obtain ⟨s₁, hinsert, heq⟩ := Option.map_eq_some_iff.1 hstep
    cases heq
    exact kept_insertPreferences h hinsert (fun _ => trivial) rfl
  · next reference now =>
    obtain ⟨s₁, hinsert, heq⟩ := Option.map_eq_some_iff.1 hstep
    cases heq
    exact .of_insert h (new_inAppRow params reference now) hinsert trivial (.inl rfl)
  · cases hstep
    exact .of_idle h trivial rfl
  · cases hstep
    exact .of_idle h trivial rfl
  · cases hstep
    exact .of_idle h trivial rfl
  · cases hstep

/-! ## Attempts -/

section Attempts

variable {jobId number : Nat} {data : EmailNotificationJobData} {phase phase' : AttemptPhase}

/-- The sender is called, under the number of the attempt. -/
theorem Kept.of_send (h : MailInvariant env s) {posted : Option NotificationSendRequest}
    {answer : Except String HttpResponse} {returned : Bool}
    (hholds : (MailThread.attempt jobId number data .sending).Holds s)
    (hof : SendOf env data ⟨jobId, number, posted, answer, returned⟩)
    (hphase : returned = true ∧ phase' = .marking ∨ ∃ message, phase' = .reporting (some message) false) :
    Kept env s (.attempt jobId number data .sending)
      { s with sends := s.sends ++ [⟨jobId, number, posted, answer, returned⟩] }
      (.attempt jobId number data phase') where
  keeps := (MailInvariant.grows_send _).keepsIssued
  takes := by
    intro k hk
    rcases hphase with ⟨-, rfl⟩ | ⟨message, rfl⟩ <;> cases hk
  invariant := by
    obtain ⟨⟨job, hjob, rfl, hone, hle⟩, hfresh⟩ := hholds
    exact h.ofSend hjob hone hle hof hfresh
  holds := by
    refine ⟨hholds.1.grows (MailInvariant.grows_send _), ?_⟩
    rcases hphase with ⟨rfl, rfl⟩ | ⟨message, rfl⟩
    · exact ⟨_, List.mem_append_right _ (List.mem_singleton_self _), rfl, rfl⟩
    · exact trivial
  others := by
    have hgrows := MailInvariant.grows_send (s := s) ⟨jobId, number, posted, answer, returned⟩
    intro u hapart hu
    match u, hu with
    | .schedule params (.enqueueing reference), hu => exact ⟨hu.1.grows hgrows, hu.2⟩
    | .attempt jobId' number' data' phase, hu =>
      refine ⟨hu.1.grows hgrows, hu.2.grows hu.1 hgrows ?_⟩
      rintro rfl send hsend
      rcases List.mem_append.1 hsend with hold | hnew
      · exact hu.2 send hold
      · obtain rfl := List.mem_singleton.1 hnew
        intro hsame
        cases hsame
        exact (hapart (.attempt jobId number) rfl).2 rfl
    | .schedule _ .checking, _ => exact trivial
    | .schedule _ .creating, _ => exact trivial
    | .schedule _ .saving, _ => exact trivial
    | .schedule _ .finished, _ => exact trivial
    | .schedule _ .failed, _ => exact trivial
    | .dispatch _ _, _ => exact trivial

/-- A row is marked by an attempt. -/
theorem Kept.of_rows (h : MailInvariant env s) {db' : NotificationDb} (hrows : s.RowsChange db')
    (hjob : HasJob s jobId number data)
    (hphase : phase'.Holds { s with db := db' } jobId number data)
    (hticket : (MailThread.attempt jobId number data phase').ticket = none) :
    Kept env s (.attempt jobId number data phase) { s with db := db' }
      (.attempt jobId number data phase') :=
  .of_quiet (h.quiet_rows hrows) (h.ofRows hrows)
    ⟨hjob.grows (h.quiet_rows hrows).toGrows, hphase⟩ hticket

theorem rowsChange_markSent (hholds : (MailThread.attempt jobId number data .marking).Holds s)
    (now : Instant) : s.RowsChange (markSent s.db data.notificationReference now) := by
  obtain ⟨⟨job, hjob, rfl, -⟩, hsend⟩ := hholds
  exact rowsChange_updateRow (fun _ => rfl) (fun _ => rfl) (fun _ => rfl)
    (fun _ => .inl ⟨rfl, jobId, job, hjob, rfl, hsend⟩)

theorem isSentRow_markSent (h : MailInvariant env s) (hjob : HasJob s jobId number data)
    (now : Instant) :
    IsSentRow { s with db := markSent s.db data.notificationReference now }
      data.notificationReference := by
  obtain ⟨job, hfind, rfl, -⟩ := hjob
  obtain ⟨n, hn, -⟩ := h.rows hfind
  have hkey : n.reference = job.data.notificationReference := Table.key_of_find? hn
  refine ⟨sentRow now n, ?_, rfl⟩
  change (markSent s.db job.data.notificationReference now).notifications.find? _ = _
  rw [markSent, updateRow, hn]
  rw [← hkey] at hn ⊢
  exact Table.find?_replace_self (r := sentRow now n) hn

/-- The counters of a job after an attempt. -/
theorem EmailJob.Counts.settle {job : EmailJob} (h : job.Counts) (hactive : job.state = .active)
    (error : Option String) (unrecoverable : Bool) :
    (EmailNotificationProcessor.settle job error unrecoverable).Counts := by
  have hstarted := h.started
  have hleft := h.left (by rw [hactive]; decide)
  rw [if_pos (.inl hactive)] at hstarted
  cases error with
  | none => exact ⟨by rw [if_pos (.inr rfl)]; exact hstarted, h.made, fun _ => hleft⟩
  | some message =>
    unfold EmailNotificationProcessor.settle
    dsimp only
    split
    · refine ⟨?_, hleft, fun hstate => absurd rfl hstate⟩
      rw [if_neg (by rintro (hno | hno) <;> cases hno)]
      dsimp only
      omega
    · next hagain =>
      rw [Bool.or_eq_true, decide_eq_true_eq, not_or, Nat.not_le] at hagain
      refine ⟨?_, hleft, fun _ => hagain.2⟩
      rw [if_neg (by rintro (hno | hno) <;> cases hno)]
      dsimp only
      omega

/-- The outcome of an attempt is recorded. -/
theorem kept_report (h : MailInvariant env s) {error : Option String} {unrecoverable : Bool}
    (hholds : (MailThread.attempt jobId number data (.reporting error unrecoverable)).Holds s)
    (hstep : MailThread.report s jobId error unrecoverable = some (s', phase')) :
    Kept env s (.attempt jobId number data (.reporting error unrecoverable)) s'
      (.attempt jobId number data phase') := by
  obtain ⟨hjob, hphase⟩ := hholds
  unfold MailThread.report at hstep
  split at hstep
  · next job hfind =>
    split at hstep
    · next hactive =>
      obtain ⟨settled, hsettled⟩ : ∃ settled,
        EmailNotificationProcessor.settle job error unrecoverable = settled := ⟨_, rfl⟩
      have hstate : job.state ≠ .failed := by rw [hactive]; decide
      have hcounts := (h.counts hfind).settle hactive error unrecoverable
      have hsame : settled.id = job.id ∧ settled.data = job.data ∧
          settled.attemptsStarted = job.attemptsStarted := by
        rw [← hsettled]
        cases error <;> exact ⟨rfl, rfl, rfl⟩
      have hfind' : s.jobs.find? settled.id = some job := by
        rw [hsame.1, Table.key_of_find? hfind, hfind]
      have hdata : data = job.data := by
        obtain ⟨_, hfound, hdata, -⟩ := hjob
        cases hfound.symm.trans hfind
        exact hdata.symm
      have hcompleted : settled.state = .completed →
          IsSentRow s job.data.notificationReference := by
        intro hdone
        cases error with
        | none =>
          rw [← hdata]
          exact hphase job hfind hstate
        | some message =>
          rw [← hsettled] at hdone
          unfold EmailNotificationProcessor.settle at hdone
          dsimp only at hdone
          split at hdone <;> cases hdone
      rw [hsettled] at hcounts hstep
      have hquiet := MailInvariant.quiet_replaceJob hfind' hsame.2.1 hstate (Nat.le_of_eq hsame.2.2.symm)
      have hinvariant := h.ofReplaceJob hfind' hsame.2.1 hstate (Nat.le_of_eq hsame.2.2.symm) hcounts
        hcompleted
      cases error with
      | none =>
        cases hstep
        exact .of_quiet hquiet hinvariant ⟨hjob.grows hquiet.toGrows, trivial⟩ rfl
      | some message =>
        dsimp only at hstep
        split at hstep
        · cases hstep
          exact .of_quiet hquiet hinvariant ⟨hjob.grows hquiet.toGrows, trivial⟩ rfl
        · next hexhausted =>
          cases hstep
          refine .of_quiet hquiet hinvariant ⟨hjob.grows hquiet.toGrows, settled, ?_, ?_, ?_⟩ rfl
          · have hid : settled.id = jobId := hsame.1.trans (Table.key_of_find? hfind)
            rw [← hid]
            exact Table.find?_replace_self hfind'
          · by_contra hnot
            exact hexhausted (hcounts.left hnot)
          · exact Nat.le_antisymm hcounts.made (Nat.not_lt.1 hexhausted)
    · cases hstep
  · cases hstep

/-- A step of an attempt. -/
theorem kept_attempt (h : MailInvariant env s) {outcome : MailOutcome}
    (hholds : (MailThread.attempt jobId number data phase).Holds s)
    (hstep : MailThread.advanceAttempt env s jobId number data phase outcome = some (s', phase')) :
    Kept env s (.attempt jobId number data phase) s' (.attempt jobId number data phase') := by
  unfold MailThread.advanceAttempt at hstep
  split at hstep
  · next answer =>
    obtain ⟨posted, result, hsend⟩ : ∃ posted result,
      EmailNotificationProcessor.send env data answer = (posted, result) := ⟨_, _, rfl⟩
    rw [hsend] at hstep
    dsimp only at hstep
    split at hstep
    · cases hstep
      exact .of_send h hholds (sendOf_send hsend (fun _ => rfl)) (.inl ⟨rfl, rfl⟩)
    · next message =>
      cases hstep
      refine .of_send h hholds (sendOf_send hsend ?_) (.inr ⟨message, rfl⟩)
      rintro ⟨⟩
  · cases hstep
    exact .of_idle h ⟨hholds.1, trivial⟩ rfl
  · next now =>
    cases hstep
    exact .of_rows h (rowsChange_markSent hholds now) hholds.1
      (fun _ _ _ => isSentRow_markSent h hholds.1 now) rfl
  · next executed now message =>
    cases hstep
    split
    · exact .of_rows h (rowsChange_markSent hholds now) hholds.1 trivial rfl
    · exact .of_idle h ⟨hholds.1, trivial⟩ rfl
  · exact kept_report h hholds hstep
  · cases hstep
    exact .of_idle h ⟨hholds.1, trivial⟩ rfl
  · next message =>
    cases hstep
    obtain ⟨hjob, job, hfind, hstate, hmade⟩ := hholds
    refine .of_rows h (rowsChange_updateRow (fun _ => rfl) (fun _ => rfl) (fun _ => rfl)
      (fun _ => .inr ⟨rfl, jobId, job, hfind, ?_, hstate, hmade⟩)) hjob trivial rfl
    obtain ⟨_, hfound, rfl, -⟩ := hjob
    cases hfound.symm.trans hfind
    rfl
  · cases hstep
    exact .of_idle h ⟨hholds.1, trivial⟩ rfl
  · cases hstep

end Attempts

/-! ## Workers and changes -/

/-- A worker takes up a job: the number of the attempt is a new one. -/
theorem kept_deliver (h : MailInvariant env s) {jobId : Nat}
    (hstart : MailThread.deliver s jobId = some (s', t)) :
    KeepsIssued MailState.Issued s s' ∧
      TakesTicket MailThread.ticket MailState.Issued s s' none t ∧ MailInvariant env s' ∧
        t.Holds s' ∧ s.Quiet s' := by
  unfold MailThread.deliver at hstart
  split at hstart
  · next job hfind =>
    split at hstart
    · next hwaiting =>
      cases hstart
      obtain ⟨started, hstarted⟩ : ∃ started : EmailJob,
        { job with state := .active, attemptsStarted := job.attemptsStarted + 1 } = started := ⟨_, rfl⟩
      have hid : jobId = job.id := (Table.key_of_find? hfind).symm
      have hsame : started.id = job.id ∧ started.data = job.data ∧
          started.attemptsStarted = job.attemptsStarted + 1 := by
        rw [← hstarted]
        exact ⟨rfl, rfl, rfl⟩
      have hfind' : s.jobs.find? started.id = some job := by rw [hsame.1, ← hid, hfind]
      have hstate : job.state ≠ .failed := by rw [hwaiting]; decide
      have hle : job.attemptsStarted ≤ started.attemptsStarted := by rw [hsame.2.2]; omega
      have hfound : (s.jobs.replace started).find? jobId = some started := by
        rw [hid, ← hsame.1]
        exact Table.find?_replace_self hfind'
      have hcounts : started.Counts := by
        have hold := h.counts hfind
        have hnumber := hold.started
        rw [if_neg (by rw [hwaiting]; decide)] at hnumber
        rw [← hstarted]
        refine ⟨?_, hold.made, fun _ => hold.left hstate⟩
        rw [if_pos (.inl rfl)]
        dsimp only
        omega
      have hquiet := MailInvariant.quiet_replaceJob hfind' hsame.2.1 hstate hle
      rw [hstarted]
      refine ⟨hquiet.toGrows.keepsIssued, ?_, h.ofReplaceJob hfind' hsame.2.1 hstate hle hcounts ?_,
        ⟨?_, ?_⟩, hquiet⟩
      · intro k hk
        cases hk
        refine .inr ⟨?_, started, hfound, Nat.le_refl _⟩
        rintro ⟨_, hold, hissued⟩
        cases hold.symm.trans hfind
        omega
      · rw [← hstarted]
        rintro ⟨⟩
      · exact ⟨started, hfound, hsame.2.1, by rw [hsame.2.2]; omega, Nat.le_refl _⟩
      · intro send hsend hpair
        obtain ⟨hsendId, hnumber⟩ := Prod.mk.inj hpair
        obtain ⟨_, hold, -, hissued, -⟩ := h.numbered send hsend
        rw [hsendId] at hold
        cases hold.symm.trans hfind
        omega
    · cases hstart
  · cases hstart

/-- The jobs after a stall. -/
theorem kept_stall (h : MailInvariant env s) {jobId : Nat}
    (hchange : MailThread.applyChange s (.stall jobId) = some s') :
    MailInvariant env s' ∧ s.Quiet s' := by
  obtain ⟨job, hfind, hactive, rfl⟩ := MailThread.applyChange_stall hchange
  have hfind' : s.jobs.find? job.id = some job := by rw [Table.key_of_find? hfind, hfind]
  have hstate : job.state ≠ .failed := by rw [hactive]; decide
  have hold := h.counts hfind
  have hnumber := hold.started
  rw [if_pos (.inl hactive)] at hnumber
  refine ⟨h.ofReplaceJob hfind' rfl hstate (Nat.le_refl _)
    ⟨?_, hold.made, fun _ => hold.left hstate⟩ ?_,
    MailInvariant.quiet_replaceJob hfind' rfl hstate (Nat.le_refl _)⟩
  · rw [if_neg (by rintro (hno | hno) <;> cases hno)]
    dsimp only
    omega
  · rintro ⟨⟩

theorem kept_markRead (h : MailInvariant env s) {authUser : AuthUser} {reference : String}
    {now : Instant} (hchange : MailThread.applyChange s (.markRead authUser reference now) = some s') :
    MailInvariant env s' ∧ s.Quiet s' := by
  have hread : (NotificationInboxService.markRead s.db authUser reference now).toOption.map
      (fun read => { s with db := read.2 }) = some s' := hchange
  have hrows : ∀ read, (NotificationInboxService.markRead s.db authUser reference now).toOption =
      some read → s.RowsChange read.2 :=
    fun _ hsome => rowsChange_markRead (eq_ok_of_toOption hsome)
  have hmap := Option.map_eq_some_iff.1 hread
  refine hmap.elim (fun read hpair => ?_)
  rw [← hpair.2]
  exact ⟨h.ofRows (hrows read hpair.1), h.quiet_rows (hrows read hpair.1)⟩

theorem kept_markAllRead (h : MailInvariant env s) {authUser : AuthUser} {now : Instant}
    (hchange : MailThread.applyChange s (.markAllRead authUser now) = some s') :
    MailInvariant env s' ∧ s.Quiet s' := by
  have hrows := rowsChange_markAllRead (s := s) authUser now
  rw [(Option.some.inj hchange).symm]
  exact ⟨h.ofRows hrows, h.quiet_rows hrows⟩

theorem kept_savePreferences (h : MailInvariant env s) {preferences : NotificationPreference}
    (hchange : MailThread.applyChange s (.savePreferences preferences) = some s') :
    MailInvariant env s' ∧ s.Quiet s' := by
  rw [(Option.some.inj hchange).symm]
  exact ⟨h.ofRows rowsChange_preferences, h.quiet_rows rowsChange_preferences⟩

/-- What happens besides disturbs nothing. -/
theorem kept_applyChange (h : MailInvariant env s) (change : MailChange)
    (hchange : MailThread.applyChange s change = some s') : MailInvariant env s' ∧ s.Quiet s' := by
  cases change with
  | markRead authUser reference now => exact kept_markRead h hchange
  | markAllRead authUser now => exact kept_markAllRead h hchange
  | savePreferences preferences => exact kept_savePreferences h hchange
  | stall jobId => exact kept_stall h hchange

theorem mail_outline : TicketOutline MailThread.ticket MailState.Issued (mail env) (MailInvariant env)
    (fun _ s t => t.Holds s) where
  start := by
    intro s arrival s' t h hstart
    cases arrival with
    | scheduleEmail params =>
      cases hstart
      refine ⟨MailState.Quiet.refl.toGrows.keepsIssued, ?_, h, fun _ => ?_, fun _ _ hu => hu⟩
      · intro k hk
        unfold MailThread.scheduled at hk
        split at hk <;> cases hk
      · unfold MailThread.scheduled
        split <;> exact trivial
    | dispatchInApp params =>
      cases hstart
      refine ⟨MailState.Quiet.refl.toGrows.keepsIssued, ?_, h, fun _ => trivial, fun _ _ hu => hu⟩
      rintro k ⟨⟩
    | deliver jobId =>
      obtain ⟨hkeeps, htakes, hinvariant, hholds, hquiet⟩ := kept_deliver h hstart
      exact ⟨hkeeps, htakes, hinvariant, fun _ => hholds, fun _ _ hu => hu.quiet hquiet⟩
  step := by
    intro i s t outcome s' t' h hholds hstep
    have hkept : Kept env s t s' t' := by
      match t, hstep with
      | .schedule params phase, hstep =>
        obtain ⟨_, hadvance, heq⟩ := Option.map_eq_some_iff.1 hstep
        cases heq
        exact kept_schedule h hholds hadvance
      | .dispatch params phase, hstep =>
        obtain ⟨_, hadvance, heq⟩ := Option.map_eq_some_iff.1 hstep
        cases heq
        exact kept_dispatch h hadvance
      | .attempt jobId number data phase, hstep =>
        obtain ⟨_, hadvance, heq⟩ := Option.map_eq_some_iff.1 hstep
        cases heq
        exact kept_attempt h hholds hadvance
    exact ⟨hkept.keeps, hkept.takes, hkept.invariant, hkept.holds,
      fun _ u _ hapart hu => hkept.others u hapart hu⟩
  surroundings := by
    intro s change s' h hchange
    obtain ⟨hinvariant, hquiet⟩ := kept_applyChange h change hchange
    exact ⟨hquiet.toGrows.keepsIssued, hinvariant, fun _ _ hu => hu.quiet hquiet⟩

theorem mailInvariant_empty : MailInvariant env MailState.empty where
  rows := by rintro _ _ ⟨⟩
  single := by rintro _ _ _ _ ⟨⟩
  sent := by rintro _ _ ⟨⟩
  failed := by rintro _ _ ⟨⟩
  completed := by rintro _ _ ⟨⟩
  inApp := by rintro _ _ ⟨⟩
  redacted := by rintro _ _ ⟨⟩
  counts := by rintro _ _ ⟨⟩
  numbered := by rintro _ ⟨⟩
  distinct := List.nodup_nil

/-! ## The result -/

/-- What the rows, the jobs and the calls of the sender say of one another. -/
structure EmailsAccounted (env : NotificationEnv) (s : MailState) : Prop where
  /-- A row that was sent: the sender has returned, because the service accepted the email
      of the row or there is no service. -/
  sent : ∀ n ∈ s.db.notifications, n.channel = .EMAIL → n.status = .SENT →
    ∃ job ∈ s.jobs, job.data.notificationReference = n.reference ∧
      ∃ send ∈ s.sends, send.jobId = job.id ∧ send.returned = true ∧ SendOf env job.data send
  /-- A row that failed: all attempts were made. -/
  failed : ∀ n ∈ s.db.notifications, n.status = .FAILED →
    ∃ job ∈ s.jobs, job.data.notificationReference = n.reference ∧ job.state = .failed ∧
      job.attemptsMade = EMAIL_QUEUE_MAX_ATTEMPTS
  /-- A job that is completed: its row says that the email was sent. -/
  completed : ∀ job ∈ s.jobs, job.state = .completed → ∃ n ∈ s.db.notifications,
    n.reference = job.data.notificationReference ∧ n.channel = .EMAIL ∧ n.status = .SENT
  /-- Every email that was posted is one that was stored, less what must not be stored. -/
  posted : ∀ send ∈ s.sends, ∃ job ∈ s.jobs, job.id = send.jobId ∧ SendOf env job.data send ∧
    ∃ n ∈ s.db.notifications, n.reference = job.data.notificationReference ∧
      n.payload = job.data.storedPayload
  /-- A notification is tried three times, and once more for each stall. -/
  bounded : ∀ job ∈ s.jobs,
    s.sends.countP (fun send => send.jobId = job.id) ≤ EMAIL_QUEUE_MAX_ATTEMPTS + job.stalledCounter
  single : ∀ job ∈ s.jobs, ∀ job' ∈ s.jobs,
    job.data.notificationReference = job'.data.notificationReference → job = job'
  redacted : ∀ n ∈ s.db.notifications, ∀ key ∈ SENSITIVE_NOTIFICATION_KEYS,
    key ∉ n.payload.map Prod.fst

/-- The attempts of a job in which the sender was called have different numbers. -/
theorem MailInvariant.countP_le (h : MailInvariant env s) {job : EmailJob} (hjob : job ∈ s.jobs) :
    s.sends.countP (fun send => send.jobId = job.id) ≤ job.attemptsStarted := by
  have hnodup : ((s.sends.filter (fun send => send.jobId = job.id)).map (·.attempt)).Nodup := by
    have hpairs := (h.distinct.sublist ((List.filter_sublist).map _)
      : ((s.sends.filter (fun send => send.jobId = job.id)).map
          (fun send => (send.jobId, send.attempt))).Nodup)
    rw [List.nodup_map_iff_inj_on (List.Nodup.of_map _ hpairs)]
    intro x hx y hy hxy
    refine List.inj_on_of_nodup_map hpairs hx hy (Prod.ext ?_ hxy)
    exact (of_decide_eq_true (List.mem_filter.1 hx).2).trans
      (of_decide_eq_true (List.mem_filter.1 hy).2).symm
  have hsubset : ((s.sends.filter (fun send => send.jobId = job.id)).map (·.attempt)) ⊆
      List.range' 1 job.attemptsStarted := by
    intro number hnumber
    obtain ⟨send, hsend, rfl⟩ := List.mem_map.1 hnumber
    obtain ⟨hmem, hid⟩ := List.mem_filter.1 hsend
    obtain ⟨job', hjob', hone, hle, -⟩ := h.numbered send hmem
    rw [of_decide_eq_true hid, Table.find?_of_mem hjob] at hjob'
    cases hjob'
    exact List.mem_range'_1.2 ⟨hone, by omega⟩
  have hlength := (hnodup.subperm hsubset).length_le
  rwa [List.length_map, List.length_range', ← List.countP_eq_length_filter] at hlength

/-- In every interleaving of scheduled emails, attempts, failures, stalls and crashes. -/
theorem emails_accounted {p : Pool MailState MailThread}
    (hreach : Reaches (mail env).Step (Pool.idle .empty) p) : EmailsAccounted env p.shared := by
  have h := (mail_outline.reaches (holds_idle mailInvariant_empty) (ticketed_idle _) hreach).shared
  constructor
  · intro n hn hchannel hsent
    obtain ⟨id, job, hjob, hreference, send, hsend, hid, hreturned⟩ :=
      h.sent (Table.find?_of_mem hn) hchannel hsent
    obtain ⟨_, hfound, -, -, hof⟩ := h.numbered send hsend
    rw [hid] at hfound
    cases hfound.symm.trans hjob
    have hkey : job.id = id := Table.key_of_find? hjob
    exact ⟨job, Table.mem_of_find? hjob, hreference, send, hsend, hid.trans hkey.symm, hreturned, hof⟩
  · intro n hn hfailed
    obtain ⟨id, job, hjob, hreference, hstate, hmade⟩ := h.failed (Table.find?_of_mem hn) hfailed
    exact ⟨job, Table.mem_of_find? hjob, hreference, hstate, hmade⟩
  · intro job hjob hcompleted
    obtain ⟨n, hn, hsent⟩ := h.completed (Table.find?_of_mem hjob) hcompleted
    obtain ⟨m, hm, hchannel, -⟩ := h.rows (Table.find?_of_mem hjob)
    cases hm.symm.trans hn
    exact ⟨n, Table.mem_of_find? hn, Table.key_of_find? hn, hchannel, hsent⟩
  · intro send hsend
    obtain ⟨job, hjob, -, -, hof⟩ := h.numbered send hsend
    obtain ⟨n, hn, -, hpayload⟩ := h.rows hjob
    exact ⟨job, Table.mem_of_find? hjob, Table.key_of_find? hjob, hof, n, Table.mem_of_find? hn,
      Table.key_of_find? hn, hpayload⟩
  · intro job hjob
    have hcounts := h.counts (Table.find?_of_mem hjob)
    have hstarted := hcounts.started
    have hmade := hcounts.made
    refine Nat.le_trans (h.countP_le hjob) ?_
    by_cases hstate : job.state = .failed
    · rw [if_neg (by rw [hstate]; decide)] at hstarted
      omega
    · have hleft := hcounts.left hstate
      split at hstarted <;> omega
  · intro job hjob job' hjob' hsame
    have hid := h.single (Table.find?_of_mem hjob) (Table.find?_of_mem hjob') hsame
    exact Table.eq_of_key_eq hjob hjob' hid
  · intro n hn key hkey hmem
    obtain ⟨field, hfield, rfl⟩ := List.mem_map.1 hmem
    exact h.redacted (Table.find?_of_mem hn) field hfield hkey

namespace Sample

def mailEnv : NotificationEnv := ⟨some "https://mail.expentra.test/send", some "expentra"⟩

/-- The email that a password can be reset with a token. -/
def resetEmail : ScheduleEmailParams where
  userId := 3
  notificationType := .PASSWORD_RESET_REQUEST
  to_ := " owner@expentra.test "
  template := some "Password Reset"
  data := some [("firstname", .str "Owner"), ("resetToken", .str "f00d")]
  attachments := []

def serviceDown : Except String HttpResponse := .ok ⟨503, .null⟩

def serviceAccepts : Except String HttpResponse :=
  .ok ⟨200, .obj [("responseCode", .str "00"), ("responseMessage", .str "queued")]⟩

/-- The service is down at the first attempt and accepts the email at the second, whose
    worker is gone before it marks the row; the third one succeeds. -/
def resetMailed : List (Turn MailArrival MailOutcome MailChange) :=
  [.start (.scheduleEmail resetEmail), .step 0 (.saves "NTF1700000000001AAAAAA" 1700000000000),
    .step 0 (.enqueues none), .start (.deliver 1), .step 1 (.sends serviceDown), .step 1 .reports,
    .start (.deliver 1), .step 2 (.sends serviceAccepts), .surroundings (.stall 1),
    .start (.deliver 1), .step 3 (.sends serviceAccepts), .step 3 (.marks 1700000060000),
    .step 3 .reports]

end Sample

/-- The email was posted three times, to an address without white space; its row has the
    template and the name, but not the token. -/
theorem emails_accounted_sample : ∃ p,
    (mail Sample.mailEnv).exec Concurrent.anyStep Sample.resetMailed (Pool.idle .empty) = some p ∧
      EmailsAccounted Sample.mailEnv p.shared ∧
      p.shared.db.notifications.rows.map (fun n => (n.status, n.payload.map Prod.fst)) =
        [(.SENT, ["to", "template", "firstname"])] ∧
      p.shared.sends.map (fun send => send.posted.map (·.toEmail)) =
        [some "owner@expentra.test", some "owner@expentra.test", some "owner@expentra.test"] := by
  have hrun : ((mail Sample.mailEnv).exec Concurrent.anyStep Sample.resetMailed
      (Pool.idle .empty)).any (fun p =>
        p.shared.db.notifications.rows.map (fun n => (n.status, n.payload.map Prod.fst)) =
          [(.SENT, ["to", "template", "firstname"])] &&
        p.shared.sends.map (fun send => send.posted.map (·.toEmail)) =
          [some "owner@expentra.test", some "owner@expentra.test", some "owner@expentra.test"]) =
      true := by
    decide +kernel
  obtain ⟨p, hexec, hp⟩ := (Option.any_eq_true _ _).1 hrun
  obtain ⟨hrows, hsends⟩ := Bool.and_eq_true_iff.1 hp
  exact ⟨p, hexec, emails_accounted (Concurrent.reaches_of_exec hexec).of_guarded,
    of_decide_eq_true hrows, of_decide_eq_true hsends⟩

end Expentra
