-- SUMMARY: Every queued export request is served, as long as no job that has started or goes elsewhere holds its id.
import Expentra.Export.Queue

/-!
# Requests that are served

A request is served when a run that started after it delivers to its recipient, or when
it found a job of the same export that had not started. Until then it is due: a job of
the queue will still run for it.
-/

namespace Expentra

namespace ExportQueue

open Library ExportService ExportProcessor

/-- The same user, type, parameters and recipient. -/
structure SameExport (data data' : ExportJobQueueData) : Prop where
  userId : data.userId = data'.userId
  recipientEmail : data.recipientEmail = data'.recipientEmail
  jobType : data.jobType = data'.jobType
  params : data.params = data'.params

/-- The `i`-th queued request is served. -/
def Served (q : ExportQueue) (i : Nat) (call : QueuedCall) : Prop :=
  (∃ job, call.found = some job ∧ job.state = .waiting ∧ job.startedAfter = none ∧
    SameExport job.data call.data) ∨
  ∃ delivery ∈ q.deliveries, i < delivery.startedAfter ∧ SameExport delivery.data call.data ∧
    delivery.email = emailOf call.data

/-- An attempt that has not ended will have started after the first `i` requests and the
    next one. -/
def RunsAfter (i : Nat) (job : ExportJob) : Prop :=
  job.state = .waiting ∨ job.state = .delayed ∨
    (job.state = .active ∧ ∃ n, job.startedAfter = some n ∧ i < n)

/-- The `i`-th queued request has a job that will still run for it. -/
def Due (q : ExportQueue) (i : Nat) (call : QueuedCall) : Prop :=
  ∃ job ∈ q.jobs, SameExport job.data call.data ∧ RunsAfter i job

/-- No job waits or runs. -/
def Drained (q : ExportQueue) : Prop := ∀ job ∈ q.jobs, ExportOperation.ended job = true

/-- A request finds its id free, or held by a job of the same export that will start again. -/
def FindsSame (sha256 : String → String) (q : ExportQueue) : ExportOperation → Prop
  | .queueExport input correlationId true =>
    ∀ job, q.jobs.find? (jobIdOf sha256 (queueData input correlationId)) = some job →
      (job.state = .waiting ∨ job.state = .delayed) ∧
        SameExport job.data (queueData input correlationId)
  | _ => True

/-- No job fails for the last time. -/
def KeepsTrying (q : ExportQueue) : ExportOperation → Prop
  | .finish jobId false => ∀ job, q.jobs.find? jobId = some job →
      job.attemptsMade + 1 < EXPORT_QUEUE_MAX_ATTEMPTS
  | _ => True

def Serving (sha256 : String → String) : Guard ExportQueue ExportOperation :=
  fun q op => FindsSame sha256 q op ∧ KeepsTrying q op

/-- Every queued request is served or due. -/
def Accounted (q : ExportQueue) : Prop :=
  ∀ i call, q.calls[i]? = some call → Served q i call ∨ Due q i call

section Steps

variable {sha256 : String → String} {q q' : ExportQueue} {op : ExportOperation} {i : Nat}
  {call : QueuedCall} {job job' : ExportJob}

theorem SameExport.emailOf_eq {data data' : ExportJobQueueData} (h : SameExport data data') :
    emailOf data = emailOf data' := by
  rw [emailOf, emailOf, h.userId, h.recipientEmail, h.jobType]

theorem Served.mono (h : Served q i call) (hmono : ∀ delivery ∈ q.deliveries, delivery ∈ q'.deliveries) :
    Served q' i call :=
  h.imp_right (fun ⟨delivery, hmem, hserves⟩ => ⟨delivery, hmono delivery hmem, hserves⟩)

/-- A step on one job keeps what is due of every other job. -/
theorem Due.replace (job' : ExportJob) (h : Due q i call) (hjob : q.jobs.find? job.jobId = some job)
    (hid : job'.jobId = job.jobId) (hjobs : q'.jobs = q.jobs.replace job')
    (hkeeps : SameExport job.data call.data → RunsAfter i job →
      Served q' i call ∨ (SameExport job'.data call.data ∧ RunsAfter i job')) :
    Served q' i call ∨ Due q' i call := by
  obtain ⟨due, hmem, hsame, hruns⟩ := h
  by_cases heq : due.jobId = job.jobId
  · obtain rfl := Table.eq_of_key_eq hmem (Table.mem_of_find? hjob) heq
    refine (hkeeps hsame hruns).imp_right (fun h => ⟨job', ?_, h⟩)
    rw [hjobs]
    exact Table.mem_replace_self (hid.symm ▸ hjob)
  · refine .inr ⟨due, ?_, hsame, hruns⟩
    rw [hjobs]
    exact Table.mem_replace_of_ne hmem (fun h => heq (h.trans hid))

/-- A step on one job that leaves the requests and the deliveries alone. -/
theorem Accounted.replace (hq : Accounted q) (hjob : q.jobs.find? job.jobId = some job)
    (hid : job'.jobId = job.jobId) (hdata : job'.data = job.data)
    (hruns : ∀ i < q.calls.length, RunsAfter i job → RunsAfter i job') :
    Accounted { q with jobs := q.jobs.replace job' } := by
  intro i call hcall
  rcases hq i call hcall with hserved | hdue
  · exact .inl (hserved.mono (fun _ h => h))
  · refine hdue.replace job' hjob hid rfl (fun hsame h => .inr ⟨hdata ▸ hsame, hruns i ?_ h⟩)
    exact (List.getElem?_eq_some_iff.1 hcall).1

theorem accounted_start {jobId : String} (hq : Accounted q) :
    Accounted ((ExportOperation.start jobId).run sha256 q) := by
  unfold ExportOperation.run
  dsimp only
  split
  · rename_i job hjob
    obtain rfl := Table.key_of_find? hjob
    split
    · exact hq.replace hjob rfl rfl (fun i hi _ => .inr (.inr ⟨rfl, _, rfl, hi⟩))
    · exact hq
  · exact hq

theorem accounted_stall {jobId : String} (hq : Accounted q) :
    Accounted ((ExportOperation.stall jobId).run sha256 q) := by
  unfold ExportOperation.run
  dsimp only
  split
  · rename_i job hjob
    obtain rfl := Table.key_of_find? hjob
    split
    · exact hq.replace hjob rfl rfl (fun i _ _ => .inl rfl)
    · exact hq
  · exact hq

theorem accounted_evict {jobId : String} (hq : Accounted q) :
    Accounted ((ExportOperation.evict jobId).run sha256 q) := by
  intro i call hcall
  refine (hq i call hcall).imp (fun h => h.mono (fun _ h => h)) ?_
  rintro ⟨job, hmem, hsame, hruns⟩
  refine ⟨job, Table.mem_keep.2 ⟨hmem, ?_⟩, hsame, hruns⟩
  have hlive : ExportOperation.ended job = false := by
    rcases hruns with hstate | hstate | ⟨hstate, -⟩ <;> simp [ExportOperation.ended, hstate]
  simp [hlive]

theorem accounted_finish {jobId : String} {succeeded : Bool} (hq : Accounted q)
    (htrying : KeepsTrying q (.finish jobId succeeded)) :
    Accounted ((ExportOperation.finish jobId succeeded).run sha256 q) := by
  unfold ExportOperation.run
  dsimp only
  split
  · rename_i job hjob
    obtain rfl := Table.key_of_find? hjob
    split
    · rename_i hactive
      cases succeeded with
      | true =>
        intro i call hcall
        have hmono : ∀ delivery ∈ q.deliveries, delivery ∈ (finish q job true).deliveries :=
          fun _ h => List.mem_append_left _ h
        rcases hq i call hcall with hserved | hdue
        · exact .inl (hserved.mono hmono)
        · refine hdue.replace { job with state := .completed } hjob rfl rfl (fun hsame hruns => .inl (.inr ?_))
          rcases hruns with hstate | hstate | ⟨-, n, hstarted, hn⟩
          · cases hactive.symm.trans hstate
          · cases hactive.symm.trans hstate
          · refine ⟨_, List.mem_append_right _ (List.mem_singleton.2 rfl), ?_, hsame, hsame.emailOf_eq⟩
            rw [hstarted]
            exact hn
      | false =>
        refine hq.replace hjob rfl rfl (fun i _ _ => .inr (.inl ?_))
        exact if_pos (htrying job hjob)
    · exact hq
  · exact hq

/-- A job is added, or its id is held. -/
theorem add_cases (jobs : Table ExportJob.jobId) (jobId : String) (data : ExportJobQueueData) :
    (∀ job, job ∈ add jobs jobId data ↔ job ∈ jobs ∨ job = ⟨jobId, data, .waiting, 0, none⟩) ∨
      (add jobs jobId data = jobs ∧ ∃ job, jobs.find? jobId = some job) := by
  unfold add
  cases hins : jobs.insert? ⟨jobId, data, .waiting, 0, none⟩ with
  | some jobs' => exact .inl (fun job => Table.mem_insert hins)
  | none =>
    obtain ⟨job, hmem, hkey⟩ := Table.insert?_eq_none.1 hins
    exact .inr ⟨rfl, job, Table.find?_eq_some.2 ⟨hmem, hkey⟩⟩

/-- The job that the last request finds or adds is due for it. -/
theorem due_queueExport {input : QueueExportInput} {correlationId : Option String}
    {found : Option ExportJob} (hfinds : FindsSame sha256 q (.queueExport input correlationId true)) :
    Due ((ExportOperation.queueExport input correlationId true).run sha256 q) i
      ⟨queueData input correlationId, found⟩ := by
  rcases add_cases q.jobs (jobIdOf sha256 (queueData input correlationId))
    (queueData input correlationId) with hadded | ⟨hkept, job, hjob⟩
  · exact ⟨_, (hadded _).2 (.inr rfl), ⟨rfl, rfl, rfl, rfl⟩, .inl rfl⟩
  · obtain ⟨hstate, hsame⟩ := hfinds job hjob
    refine ⟨job, ?_, hsame, hstate.imp_right .inl⟩
    change job ∈ add q.jobs _ _
    rw [hkept]
    exact Table.mem_of_find? hjob

theorem accounted_queueExport {input : QueueExportInput} {correlationId : Option String}
    {allowed : Bool} (hq : Accounted q)
    (hfinds : FindsSame sha256 q (.queueExport input correlationId allowed)) :
    Accounted ((ExportOperation.queueExport input correlationId allowed).run sha256 q) := by
  cases allowed with
  | false => exact hq
  | true =>
    intro i call hcall
    change (q.calls ++ [⟨queueData input correlationId, _⟩])[i]? = some call at hcall
    rw [List.getElem?_append] at hcall
    split at hcall
    · refine (hq i call hcall).imp (fun h => h.mono (fun _ h => h)) ?_
      rintro ⟨job, hmem, hruns⟩
      refine ⟨job, ?_, hruns⟩
      rcases add_cases q.jobs (jobIdOf sha256 (queueData input correlationId))
        (queueData input correlationId) with hadded | ⟨hkept, -⟩
      · exact (hadded job).2 (.inl hmem)
      · change job ∈ add q.jobs _ _
        rw [hkept]
        exact hmem
    · obtain rfl := List.mem_singleton.1 (List.mem_of_getElem? hcall)
      exact .inr (due_queueExport hfinds)

theorem accounted_step (hq : Accounted q) (hguard : Serving sha256 q op)
    (h : ExportOperation.Step sha256 q op q') : Accounted q' := by
  cases h
  cases op with
  | queueExport input correlationId allowed => exact accounted_queueExport hq hguard.1
  | start jobId => exact accounted_start hq
  | finish jobId succeeded => exact accounted_finish hq hguard.2
  | stall jobId => exact accounted_stall hq
  | evict jobId => exact accounted_evict hq

end Steps

/-- In every run whose requests find their id free, or held by a job of the same export that
    will start again, and whose jobs do not use up their attempts, every queued request is
    served or due, and it is served once no job waits or runs. -/
theorem requests_served (sha256 : String → String) (q : ExportQueue)
    (h : Reaches (Guarded (Serving sha256) (ExportOperation.Step sha256)) ⟨∅, [], []⟩ q) :
    (∀ i call, q.calls[i]? = some call → Served q i call ∨ Due q i call) ∧
      (Drained q → ∀ i call, q.calls[i]? = some call → Served q i call) := by
  have hstart : Accounted ⟨∅, [], []⟩ := fun i call hcall => by cases hcall
  have hq : Accounted q :=
    h.invariant (fun _ _ _ hq hstep => accounted_step hq hstep.1 hstep.2) hstart
  refine ⟨hq, fun hdrained i call hcall => (hq i call hcall).resolve_right ?_⟩
  rintro ⟨job, hmem, -, hruns⟩
  have hended := hdrained job hmem
  rcases hruns with hstate | hstate | ⟨hstate, -⟩ <;> simp [ExportOperation.ended, hstate] at hended

end ExportQueue

/-! ## A request after the job has completed -/

namespace Sample

open ExportOperation

/-- The employee asks for an export of the employee's own expenses. -/
def exportRequest : ExportOperation :=
  queueExport ⟨toAuthUser (directory.loadUser employeeRow) [], .EXPENSE_PERSONAL_CSV, none, none⟩
    none true

/-- The job of the request. -/
def exportJobId : String := "export-3:expense.personal.csv:\x7b\x7d"

/-- The queue after some operations, with a hash that prints the text. -/
def exportQueueAfter (operations : List ExportOperation) : ExportQueue :=
  operations.foldl (fun q op => op.run id q) ⟨∅, [], []⟩

def exported : List ExportOperation := [exportRequest, start exportJobId, finish exportJobId true]

/-- The employee asks twice before the job starts. -/
def merged : List ExportOperation :=
  [exportRequest, exportRequest, start exportJobId, finish exportJobId true]

end Sample

namespace ExportQueue

open Library Sample

/-- The second request finds the job of the first, and one file serves both. -/
theorem requests_served_sample :
    (exportQueueAfter merged).calls.length = 2 ∧ (exportQueueAfter merged).jobs.rows.length = 1 ∧
    (∀ i call, (exportQueueAfter merged).calls[i]? = some call →
      Served (exportQueueAfter merged) i call ∨ Due (exportQueueAfter merged) i call) ∧
    (Drained (exportQueueAfter merged) → ∀ i call,
      (exportQueueAfter merged).calls[i]? = some call → Served (exportQueueAfter merged) i call) := by
  have hfinds : FindsSame id ⟨∅, [], []⟩ exportRequest := by
    intro job hjob
    cases hjob
  have hrequested : Reaches (Guarded (Serving id) (ExportOperation.Step id)) ⟨∅, [], []⟩
      (exportQueueAfter [exportRequest]) := Reaches.refl.tail (a := exportRequest) ⟨⟨hfinds, trivial⟩, rfl⟩
  have hfindsJob : FindsSame id (exportQueueAfter [exportRequest]) exportRequest := by
    intro job hjob
    cases hjob
    exact ⟨.inl rfl, rfl, rfl, rfl, rfl⟩
  have hmerged : Reaches (Guarded (Serving id) (ExportOperation.Step id)) ⟨∅, [], []⟩
      (exportQueueAfter [exportRequest, exportRequest]) :=
    hrequested.tail (a := exportRequest) ⟨⟨hfindsJob, trivial⟩, rfl⟩
  have hstarted : Reaches (Guarded (Serving id) (ExportOperation.Step id)) ⟨∅, [], []⟩
      (exportQueueAfter [exportRequest, exportRequest, .start exportJobId]) :=
    hmerged.tail (a := .start exportJobId) ⟨⟨trivial, trivial⟩, rfl⟩
  exact ⟨by decide +kernel, by decide +kernel,
    requests_served id _ (hstarted.tail (a := .finish exportJobId true) ⟨⟨trivial, trivial⟩, rfl⟩)⟩

theorem reaches_exportQueueAfter (operations : List ExportOperation) :
    Reaches (ExportOperation.Step id) ⟨∅, [], []⟩ (exportQueueAfter operations) := by
  induction operations using List.reverseRecOn with
  | nil => exact .refl
  | append_singleton operations op ih =>
    rw [exportQueueAfter, List.foldl_append]
    exact ih.tail (a := op) rfl

/-- The second request finds the job of the first, which has completed, and nothing runs
    for it. -/
theorem second_request_lost :
    Reaches (ExportOperation.Step id) ⟨∅, [], []⟩ (exportQueueAfter (exported ++ [exportRequest])) ∧
    Drained (exportQueueAfter (exported ++ [exportRequest])) ∧
    ∃ call, (exportQueueAfter (exported ++ [exportRequest])).calls[1]? = some call ∧
      ¬ Served (exportQueueAfter (exported ++ [exportRequest])) 1 call := by
  have hstates : (exportQueueAfter (exported ++ [exportRequest])).jobs.rows.map (·.state) =
      [.completed] := by decide +kernel
  have hfound : ((exportQueueAfter (exported ++ [exportRequest])).calls[1]?).map
      (fun call => call.found.map (·.state)) = some (some .completed) := by decide +kernel
  have hstarts : (exportQueueAfter (exported ++ [exportRequest])).deliveries.map (·.startedAfter) =
      [1] := by decide +kernel
  obtain ⟨call, hcall, hfound⟩ := Option.map_eq_some_iff.1 hfound
  refine ⟨reaches_exportQueueAfter _, fun job hmem => ?_, call, hcall, ?_⟩
  · have hstate : job.state ∈ [ExportJobState.completed] := hstates ▸ List.mem_map_of_mem hmem
    simp [ExportOperation.ended, List.mem_singleton.1 hstate]
  · rintro (⟨job, hjob, hwaiting, -⟩ | ⟨delivery, hmem, hstart, -⟩)
    · rw [hjob, Option.map_some, hwaiting] at hfound
      cases hfound
    · have hstarted : delivery.startedAfter ∈ [1] := hstarts ▸ List.mem_map_of_mem hmem
      rw [List.mem_singleton.1 hstarted] at hstart
      exact absurd hstart (Nat.lt_irrefl 1)

end ExportQueue

end Expentra
