-- SUMMARY: Submission of a draft against a fresh draft like it: they fare alike as long as the draft was never submitted.
import Expentra.Expense.Twin
import Expentra.System.Serials

/-!
# Resubmission

A draft that was never submitted is dated by its submission, and no event of it
was published under a key: a twin created beside it tells what its submission
does. `reopenRejected` leaves the date of the earlier submission in the row, and
the next submission takes that date up again.
-/

namespace Expentra

open Library ExpenseMutationSupport

/-! ## What a row says about its past -/

/-- An expense without a submission date was never submitted, so that nothing was
    published for it, and every expense is charged to the department of its owner. -/
structure TracedRow (db : Db) (row : Expense) : Prop where
  dated : row.status ≠ .DRAFT → row.submittedAt ≠ none
  unpublished : row.submittedAt = none →
    ∀ t at_, db.hasOutboxKey (.ofTransition t row.id at_) = false
  charged : ∃ user departmentId, db.users.find? row.userId = some user ∧
    user.departmentId = some departmentId ∧ row.departmentId = some departmentId

def Traced (db : Db) : Prop := ∀ row ∈ db.expenses, TracedRow db row

section Traced

variable {cfg : Config} {db db' : Db} {op : Operation} {row : Expense} {after : ExpenseEntity}
  {approvals : Table ExpenseApproval.key}

theorem Db.hasOutboxKey_eq_false {key : IdempotencyKey} :
    db.hasOutboxKey key = false ↔ ∀ event ∈ db.outbox, event.idempotencyKey ≠ some key := by
  simp [Db.hasOutboxKey]

/-- Every transition keeps the owner and the department, and a date once it is set. -/
theorem Moves.keeps (hmoves : Moves db row op after approvals)
    (hdepartment : row.departmentId ≠ none) :
    (row.save after).userId = row.userId ∧ (row.save after).departmentId = row.departmentId ∧
      (row.submittedAt ≠ none → (row.save after).submittedAt ≠ none) := by
  obtain ⟨departmentId, hcharged⟩ := Option.ne_none_iff_exists'.1 hdepartment
  cases hmoves with
  | edit _ hedit =>
    rw [hedit]
    exact ⟨rfl, by simp [Expense.save, Expense.toEntity], by simp [Expense.save, Expense.toEntity]⟩
  | submit _ hresolved =>
    simp only [Db.resolveDepartmentForSubmit, hcharged, Option.some.injEq] at hresolved
    subst hresolved
    rw [ExpenseSubmit.submitted_eq]
    exact ⟨rfl, hcharged.symm, by simp [Expense.save]⟩
  | approve _ _ _ _ _ =>
    exact ⟨rfl, by simp [Expense.save, Approval.approved, Db.withRelations, Expense.toEntity],
      by simp [Expense.save, Approval.approved, Db.withRelations, Expense.toEntity]⟩
  | reject _ _ _ =>
    exact ⟨rfl, by simp [Expense.save, Approval.rejected, Db.withRelations, Expense.toEntity],
      by simp [Expense.save, Approval.rejected, Db.withRelations, Expense.toEntity]⟩
  | reopen _ =>
    rw [ExpenseDraft.save_reopened]
    exact ⟨rfl, rfl, id⟩
  | reimburse _ =>
    exact ⟨rfl, by simp [Expense.save, ExpenseReimbursement.reimbursed, Expense.toEntity],
      by simp [Expense.save, ExpenseReimbursement.reimbursed, Expense.toEntity]⟩

/-- What is no draft after a transition was none before it, or was dated by it. -/
theorem Moves.dated (hmoves : Moves db row op after approvals)
    (hstatus : (row.save after).status ≠ .DRAFT) :
    row.status ≠ .DRAFT ∨ (row.save after).submittedAt ≠ none := by
  cases hmoves with
  | edit hdraft hedit =>
    rw [hedit] at hstatus
    exact absurd hdraft hstatus
  | submit _ _ =>
    right
    rw [ExpenseSubmit.submitted_eq]
    simp [Expense.save]
  | approve hpending _ _ _ _ =>
    left
    rintro hdraft
    rw [hdraft] at hpending
    cases hpending
  | reject hpending _ _ =>
    left
    rintro hdraft
    rw [hdraft] at hpending
    cases hpending
  | reopen _ => exact absurd rfl hstatus
  | reimburse happroved =>
    left
    rw [happroved]
    exact ExpenseStatus.noConfusion

theorem Traced.transition {comments : List ExpenseComment} {events : List OutboxEvent}
    (hdb : Traced db) (h : Transition cfg db row after approvals comments events db')
    (hmoves : Moves db row op after approvals) : Traced db' := by
  obtain ⟨hdated, hunpublished, user, departmentId, huser, huserDepartment, hcharged⟩ := hdb row h.mem
  obtain ⟨howner, hdepartment, hkept⟩ := hmoves.keeps (by simp [hcharged])
  intro e he
  rcases h.eq_or_mem he with rfl | ⟨he, hne⟩
  · have hdated' : (row.save after).status ≠ .DRAFT → (row.save after).submittedAt ≠ none := by
      intro hstatus
      rcases hmoves.dated hstatus with hrow | hat
      · exact hkept (hdated hrow)
      · exact hat
    refine ⟨hdated', fun hnone t at_ => ?_, user, departmentId, ?_, huserDepartment, ?_⟩
    · -- without a date it is a draft still, and a draft publishes under no key
      rw [Db.hasOutboxKey_eq_false, h.outbox_eq]
      intro event hevent hkey
      rcases List.mem_append.1 hevent with hevent | hevent
      · have hundated : row.submittedAt = none := not_not.1 (fun hat => hkept hat hnone)
        exact Db.hasOutboxKey_eq_false.1 (hunpublished hundated t at_) event hevent hkey
      · exact hdated' (h.published event hevent t _ at_ hkey).2 hnone
    · rw [h.users_eq, howner]
      exact huser
    · rw [hdepartment]
      exact hcharged
  · obtain ⟨hdated, hunpublished, hcharged⟩ := hdb e he
    refine ⟨hdated, fun hnone t at_ => ?_, h.users_eq ▸ hcharged⟩
    rw [Db.hasOutboxKey_eq_false, h.outbox_eq]
    intro event hevent hkey
    rcases List.mem_append.1 hevent with hevent | hevent
    · exact Db.hasOutboxKey_eq_false.1 (hunpublished hnone t at_) event hevent hkey
    · exact hne (h.published event hevent t _ at_ hkey).1

theorem Traced.frame (hdb : Traced db) (h : Frame db db') : Traced db' := by
  obtain ⟨events, houtbox, hunkeyed⟩ := h.outbox
  intro e he
  rw [h.expenses] at he
  obtain ⟨hdated, hunpublished, hcharged⟩ := hdb e he
  refine ⟨hdated, fun hnone t at_ => ?_, h.users ▸ hcharged⟩
  rw [Db.hasOutboxKey_eq_false, houtbox]
  intro event hevent hkey
  rcases List.mem_append.1 hevent with hevent | hevent
  · exact Db.hasOutboxKey_eq_false.1 (hunpublished hnone t at_) event hevent hkey
  · rw [hunkeyed event hevent] at hkey
    cases hkey

theorem traced_of_ok (hnumbered : Numbered db) (hdb : Traced db)
    (h : op.perform cfg db = .ok ((), db')) : Traced db' := by
  cases hop : op.isTransition with
  | true =>
    obtain ⟨_, _, _, _, _, htransition, hmoves⟩ := transition_of_ok hop h
    exact hdb.transition htransition hmoves
  | false =>
    cases hadds : op.addsOrRemoves with
    | false => exact hdb.frame (frame_of_ok hop hadds h).1
    | true =>
      rcases inserted_or_deleted_of_ok hadds h with ⟨row, expenses, hins, hid,
        ⟨_, _, departmentId, _, _, _, _, _, hrow, user, huser, hdepartment⟩, rfl⟩ | ⟨_, -, -, hdelete⟩
      · intro e he
        rcases (Table.mem_insert hins).1 he with he | rfl
        · obtain ⟨hdated, hunpublished, hcharged⟩ := hdb e he
          exact ⟨hdated, hunpublished, hcharged⟩
        · refine ⟨fun hstatus => ?_, fun _ t at_ => ?_, user, departmentId, ?_, hdepartment, ?_⟩
          · rw [hrow] at hstatus
            exact absurd rfl hstatus
          · -- no event mentions the id of a new expense
            rw [Db.hasOutboxKey_eq_false]
            intro event hevent hkey
            exact (hnumbered.outbox event hevent t _ at_ hkey).ne hid
          · rw [hrow]
            exact huser
          · rw [hrow]
            rfl
      · cases Transaction.write_eq_ok.1 hdelete
        intro e he
        obtain ⟨hdated, hunpublished, hcharged⟩ := hdb e (Table.mem_keep.1 he).1
        exact ⟨hdated, hunpublished, hcharged⟩

/-- In every state a system without expenses reaches, the rows tell their past. -/
theorem traced_of_reaches {db₀ : Db} (hfresh : Fresh db₀) (h : Reaches (Step cfg) db₀ db) :
    Numbered db ∧ Traced db := by
  refine h.invariant (P := fun db => Numbered db ∧ Traced db) (fun _ _ _ hdb hstep => ?_)
    ⟨hfresh.numbered, fun row hrow => ?_⟩
  · obtain ⟨hnumbered, htraced⟩ := hdb
    exact ⟨numbered_step hnumbered hstep,
      hstep.preserves (fun _ hok => traced_of_ok hnumbered htraced hok) htraced⟩
  · rw [hfresh.expenses] at hrow
    cases hrow

end Traced

/-! ## A draft against a fresh one -/

/-- The receipts of one expense, uploaded to another one as well. -/
def copyReceipts (fromId toId : Nat) (db : Db) : Db :=
  { db with
    attachments := db.attachments ++ (db.attachments.filter (fun a => a.expenseId = fromId)).map
      (fun a => { a with expenseId := toId }) }

/-- A draft created now for the same owner with the same contents and receipts would
    be submitted. -/
def FreshAccepted (cfg : Config) (policies : List ExpensePolicy) (now : Instant) (authUser : AuthUser)
    (policyJustifications : List (String × String)) (db : Db) (row : Expense) : Prop :=
  ∃ reference db₁, normalizeEntityReference reference = reference ∧
    (Operation.createExpense now reference row.userId
      ⟨row.title, row.description, row.amount.val, row.category, row.incurredAt⟩).perform cfg db =
        .ok ((), db₁) ∧
    (Operation.submit policies now authUser reference policyJustifications).Succeeds cfg
      (copyReceipts row.id db.nextExpenseId db₁)

/-- What a submission of the draft `row` at the moment `now` should do. -/
structure SubmissionWorks (cfg : Config) (policies : List ExpensePolicy) (now : Instant)
    (authUser : AuthUser) (reference : String) (policyJustifications : List (String × String))
    (db : Db) (row : Expense) : Prop where
  accepted : FreshAccepted cfg policies now authUser policyJustifications db row →
    (Operation.submit policies now authUser reference policyJustifications).Succeeds cfg db
  /-- The submission date, the budget year and the date the policies see are those of
      the moment. -/
  dated : ∀ db',
    (Operation.submit policies now authUser reference policyJustifications).perform cfg db =
      .ok ((), db') →
    (ExpenseSubmit.buildSubmitPolicyContext db now authUser (db.withRelations row)
      policyJustifications).submittedAt = now ∧
    ∃ row' departmentId, db'.expenses.find? row.id = some row' ∧ row'.submittedAt = some now ∧
      row'.snapshot.budgetKey cfg.budgetTimeZone db' =
        some (departmentId, BudgetPeriod.resolveBudgetYear now cfg.budgetTimeZone)
  /-- The events are rows of their own, under keys no earlier event has. -/
  published : ∀ db',
    (Operation.submit policies now authUser reference policyJustifications).perform cfg db =
      .ok ((), db') →
    ∃ t rest, (t = .expenseSubmitted ∨ t = .expenseApproved) ∧
      db'.outbox = db.outbox ++ transitionEvents (t :: rest) row.id now ∧
      ∀ t' ∈ t :: rest, db.hasOutboxKey (.ofTransition t' row.id now) = false

section Resubmission

variable {cfg : Config} {policies : List ExpensePolicy} {now : Instant} {authUser : AuthUser}
  {reference : String} {policyJustifications : List (String × String)} {db db' : Db} {row : Expense}

theorem Js.trim_ne_of_trim_trim_ne {title : String} (h : Js.trim (Js.trim title) ≠ "") :
    Js.trim title ≠ "" := by
  intro hblank
  rw [hblank] at h
  exact h rfl

/-- An expense without receipts has those copied to it. -/
theorem attachmentCount_copyReceipts {fromId toId : Nat}
    (hnone : ∀ a ∈ db.attachments, a.expenseId ≠ toId) :
    (copyReceipts fromId toId db).attachmentCount toId = db.attachmentCount fromId := by
  have hold : db.attachments.filter (fun a => a.expenseId = toId) = [] := by
    simpa [List.filter_eq_nil_iff] using hnone
  simp [copyReceipts, Db.attachmentCount, List.filter_append, hold, List.filter_map,
    Function.comp_def]

/-- The draft a creation inserts beside an undated draft is its twin. -/
theorem exists_twin (hnumbered : Numbered db) (htraced : Traced db) (hrow : row ∈ db.expenses)
    (hdraft : row.status = .DRAFT) (hundated : row.submittedAt = none) {twinReference : String}
    {db₁ : Db} (hreference : normalizeEntityReference twinReference = twinReference)
    (hcreate : ExpenseDraft.create cfg now twinReference row.userId
      ⟨row.title, row.description, row.amount.val, row.category, row.incurredAt⟩ db = .ok ((), db₁))
    {found : Expense}
    (hfound : findExpense (copyReceipts row.id db.nextExpenseId db₁) twinReference = .ok found) :
    Twin db (copyReceipts row.id db.nextExpenseId db₁) row found := by
  have hunused := ExpenseDraft.create_unused hcreate
  obtain ⟨twin, expenses, hins, hid, ⟨departmentId, title, _, amount, htwin, ⟨user, huser, hdepartment⟩,
    htitle, hamount⟩, rfl⟩ := ExpenseDraft.create_ok hcreate
  obtain ⟨-, -, user', departmentId', huser', hdepartment', hcharged⟩ := htraced row hrow
  cases huser.symm.trans huser'
  cases hdepartment.symm.trans hdepartment'
  -- the only row with the new reference is the new one
  obtain ⟨hmem, hnormalized⟩ := findEntityByReference_eq_ok hfound
  rw [hreference] at hnormalized
  have hsame : found = twin := by
    rcases (Table.mem_insert hins).1 hmem with hold | rfl
    · exact absurd hnormalized (hunused found hold)
    · rfl
  subst hsame
  have hsame : amount = row.amount := by
    rw [assertPositiveAmount, dif_pos row.amount.property] at hamount
    exact (Except.ok.inj hamount).symm
  subst hsame
  subst htitle
  have hreceipts : ∀ a ∈ db.attachments, a.expenseId ≠ db.nextExpenseId :=
    fun a ha => (hnumbered.attachment a ha).ne
  refine ⟨hrow, hins, rfl, rfl, rfl, rfl, ?_, ?_, ?_, ?_, ?_, ?_, ?_, hdraft, ?_, hundated, ?_⟩
  · rw [hid]
    exact attachmentCount_copyReceipts hreceipts
  all_goals rw [htwin]
  · rfl
  · exact hcharged.symm
  · rfl
  · rfl
  · rfl
  · exact Js.trim_ne_of_trim_trim_ne
  · rfl
  · rfl

/-- The events of a submission start with that of its status. -/
theorem submitEventTypes_eq_cons (status : ExpenseStatus) (budgetCheck : BudgetSubmitEvaluation) :
    ∃ t rest, (t = .expenseSubmitted ∨ t = .expenseApproved) ∧
      ExpenseSubmit.submitEventTypes status budgetCheck = t :: rest := by
  unfold ExpenseSubmit.submitEventTypes
  split
  · exact ⟨_, _, .inr rfl, rfl⟩
  · split <;> exact ⟨_, _, .inl rfl, rfl⟩

/-- What a submission leaves: the date it takes up, and its events under keys of that
    date. -/
theorem submit_leaves (hdraft : findExpense db reference = .ok row)
    (h : (Operation.submit policies now authUser reference policyJustifications).perform cfg db =
      .ok ((), db')) :
    (∃ row' departmentId, db'.expenses.find? row.id = some row' ∧
      row'.submittedAt = some (row.submittedAt.getD now) ∧
      row'.snapshot.budgetKey cfg.budgetTimeZone db' = some (departmentId,
        BudgetPeriod.resolveBudgetYear (row.submittedAt.getD now) cfg.budgetTimeZone)) ∧
    ∃ t rest, (t = .expenseSubmitted ∨ t = .expenseApproved) ∧
      db'.outbox = db.outbox ++ transitionEvents (t :: rest) row.id (row.submittedAt.getD now) := by
  rw [Operation.perform] at h
  obtain ⟨row', _, hrow', -, -, -, hcommit⟩ := ExpenseSubmit.submit_eq_ok.1 h
  cases hdraft.symm.trans hrow'
  obtain ⟨row', departmentId, budgetCheck, hrow', -, -, -, -, htransition⟩ :=
    commitSubmit_effect hcommit
  cases hdraft.symm.trans hrow'
  obtain ⟨t, rest, ht, htypes⟩ := submitEventTypes_eq_cons
    (ApprovalRouting.resolveInitialSubmitStatus (ExpenseSubmit.routed db row departmentId)
      db.activeLevels) budgetCheck
  rw [htypes] at htransition
  refine ⟨⟨_, departmentId, htransition.find?_self, ?_, ?_⟩, t, rest, ht, htransition.outbox_eq⟩
  · rw [ExpenseSubmit.submitted_eq]
    rfl
  · rw [ExpenseSubmit.submitted_eq]
    simp [ExpenseBudgetSnapshot.budgetKey, Expense.snapshot, toExpenseBudgetSnapshot, Expense.toEntity,
      Expense.save, ExpenseSubmit.routed, Db.resolveDepartmentForSubmit]

/-- A draft that was never submitted is submitted as a fresh one would be. -/
theorem submissionWorks_of_undated (hnumbered : Numbered db) (htraced : Traced db)
    (hfound : findExpense db reference = .ok row) (hdraft : row.status = .DRAFT)
    (hundated : row.submittedAt = none) :
    SubmissionWorks cfg policies now authUser reference policyJustifications db row := by
  have hrow : row ∈ db.expenses := (findEntityByReference_eq_ok hfound).1
  have hkeys := (htraced row hrow).unpublished hundated
  refine ⟨?_, ?_, ?_⟩
  · rintro ⟨twinReference, db₁, hreference, hcreate, db₂, hsubmit⟩
    rw [Operation.perform] at hcreate
    rw [Operation.perform] at hsubmit
    obtain ⟨twin, _, htwin, -⟩ := ExpenseSubmit.submit_eq_ok.1 hsubmit
    have h : Twin db _ row twin :=
      exists_twin hnumbered htraced hrow hdraft hundated hreference hcreate htwin
    obtain ⟨db', hsubmit'⟩ := h.submit (u := ()) hfound htwin hkeys ⟨db₂, hsubmit⟩
    refine ⟨db', ?_⟩
    rw [Operation.perform]
    exact hsubmit'
  · intro db' hsubmit
    obtain ⟨hrow', -⟩ := submit_leaves hfound hsubmit
    rw [hundated] at hrow'
    refine ⟨?_, hrow'⟩
    simp [ExpenseSubmit.buildSubmitPolicyContext, Db.withRelations, Expense.toEntity, hundated]
  · intro db' hsubmit
    obtain ⟨-, t, rest, ht, houtbox⟩ := submit_leaves hfound hsubmit
    rw [hundated] at houtbox
    exact ⟨t, rest, ht, houtbox, fun t' _ => hkeys t' now⟩

/-- A submission that works is dated by its moment: the draft had no other date. -/
theorem undated_of_submissionWorks (hfound : findExpense db reference = .ok row)
    (hworks : SubmissionWorks cfg policies now authUser reference policyJustifications db row)
    (hfresh : FreshAccepted cfg policies now authUser policyJustifications db row) :
    row.submittedAt = none ∨ row.submittedAt = some now := by
  obtain ⟨db', hsubmit⟩ := hworks.accepted hfresh
  obtain ⟨-, row', _, hrow', hat, -⟩ := hworks.dated db' hsubmit
  obtain ⟨⟨row'', _, hrow'', hat', -⟩, -⟩ := submit_leaves hfound hsubmit
  cases hrow'.symm.trans hrow''
  cases hsubmitted : row.submittedAt with
  | none => exact .inl rfl
  | some submittedAt =>
    rw [hsubmitted, Option.getD_some, hat] at hat'
    exact .inr hat'.symm

end Resubmission

/-- From a system without expenses, through any number of submissions, rejections and
    reopenings: a submission of a draft works as that of a fresh draft would when the
    draft carries no submission date, and it works in no other way. -/
theorem submissions_work {cfg : Config} {db₀ : Db} {tr : List (Operation × Db)} (hfresh : Fresh db₀)
    (hrun : Run (Step cfg) db₀ tr) :
    ∀ db ∈ Run.states db₀ tr, ∀ policies now authUser reference policyJustifications row,
      findExpense db reference = .ok row → row.status = .DRAFT →
      (row.submittedAt = none →
        SubmissionWorks cfg policies now authUser reference policyJustifications db row) ∧
      (SubmissionWorks cfg policies now authUser reference policyJustifications db row →
        FreshAccepted cfg policies now authUser policyJustifications db row →
        row.submittedAt = none ∨ row.submittedAt = some now) := by
  intro db hdb policies now authUser reference policyJustifications row hfound hdraft
  obtain ⟨hnumbered, htraced⟩ := traced_of_reaches hfresh (hrun.reaches hdb)
  exact ⟨submissionWorks_of_undated hnumbered htraced hfound hdraft,
    undated_of_submissionWorks hfound⟩

namespace Sample

theorem amount_pos : (0 : Int) < 5000 := by decide

/-- The draft of the owner, before its submission. -/
def draft : Expense :=
  ExpenseDraft.newDraft 1 expenseReference 1 1 "Train to Abuja" none ⟨5000, amount_pos⟩ .TRAVEL none

/-- The draft of the owner, submitted, rejected and reopened. -/
def reopenedDraft : Expense := { draft with submittedAt := some now, rejectedAt := some now }

def rejectedAndReopened : List Operation :=
  [createExpense, submit, rejectAs authManager "COM1700000000001AAAAAA",
    .reopenRejected authOwner expenseReference]

def tomorrow : Instant := now + Date.msPerDay

end Sample

theorem submissions_work_sample : SubmissionWorks Sample.config [] Sample.now Sample.authOwner
    Sample.expenseReference [] (runAll Sample.config [Sample.createExpense] Sample.db) Sample.draft :=
  (submissions_work Sample.fresh (run_trace Sample.config [Sample.createExpense] Sample.db)
    (runAll Sample.config [Sample.createExpense] Sample.db) (by simp [Run.states, trace, runAll])
    [] Sample.now Sample.authOwner Sample.expenseReference [] Sample.draft (by decide +kernel) rfl).1 rfl

/-- Reopened and submitted a day later, the expense is refused where a fresh draft is
    accepted: its event has the key of the first submission. -/
theorem resubmission_refused : Fresh Sample.db ∧
    ∃ row, findExpense (runAll Sample.config Sample.rejectedAndReopened Sample.db)
        Sample.expenseReference = .ok row ∧ row.status = .DRAFT ∧
      FreshAccepted Sample.config [] Sample.tomorrow Sample.authOwner []
        (runAll Sample.config Sample.rejectedAndReopened Sample.db) row ∧
      ¬ SubmissionWorks Sample.config [] Sample.tomorrow Sample.authOwner Sample.expenseReference []
        (runAll Sample.config Sample.rejectedAndReopened Sample.db) row := by
  have haccepted : FreshAccepted Sample.config [] Sample.tomorrow Sample.authOwner []
      (runAll Sample.config Sample.rejectedAndReopened Sample.db) Sample.reopenedDraft := by
    refine ⟨"EXP1700000000002AAAAAA", _, by decide +kernel, Step.of_succeeds rfl ?_, ?_⟩
    · decide +kernel
    · decide +kernel
  have hrefused : ¬ (Operation.submit [] Sample.tomorrow Sample.authOwner Sample.expenseReference
      []).Succeeds Sample.config (runAll Sample.config Sample.rejectedAndReopened Sample.db) := by
    decide +kernel
  refine ⟨Sample.fresh, Sample.reopenedDraft, by decide +kernel, rfl, haccepted, ?_⟩
  intro hworks
  exact hrefused (hworks.accepted haccepted)

end Expentra
