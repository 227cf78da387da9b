-- SUMMARY: What a successful transition of an expense leaves in the database, one lemma for each operation.
import Expentra.System.Operations

/-!
# Effects

Every operation that moves an expense through its life cycle does the same to the
database: it replaces one row, shifts the budgets by the change of the snapshots
and appends to the decisions, the comments and the outbox. `Transition` says so,
and each operation has one lemma that names its row, its entity and its rows.
-/

namespace Expentra

open Library

/-- `db'` is `db` after the row was replaced by the saved entity, with decisions
    and events of the same expense. -/
structure Transition (cfg : Config) (db : Db) (row : Expense) (after : ExpenseEntity)
    (approvals : Table ExpenseApproval.key) (comments : List ExpenseComment)
    (events : List OutboxEvent) (db' : Db) : Prop where
  found : db.expenses.find? row.id = some row
  /-- A decision that was not there before is one on this expense. -/
  decided : ∀ a ∈ approvals, a ∈ db.approvals ∨ a.expenseId = row.id
  /-- An event of a transition is one of this expense, which is no draft then. -/
  published : ∀ e ∈ events, ∀ t id at_, e.idempotencyKey = some (.ofTransition t id at_) →
    id = row.id ∧ after.status ≠ .DRAFT
  effect : ∃ budgets, db' = { db with
      expenses := db.expenses.replace (row.save after)
      approvals := approvals
      comments := db.comments ++ comments
      budgets := budgets
      outbox := db.outbox ++ events } ∧
    Shifted
      (committedDelta cfg.budgetTimeZone db (some row.snapshot) (some (toExpenseBudgetSnapshot after)))
      (reimbursedDelta cfg.budgetTimeZone db (some row.snapshot) (some (toExpenseBudgetSnapshot after)))
      db.budgets budgets

namespace Transition

variable {cfg : Config} {db db' : Db} {row : Expense} {after : ExpenseEntity}
  {approvals : Table ExpenseApproval.key} {comments : List ExpenseComment}
  {events : List OutboxEvent}

theorem mem (h : Transition cfg db row after approvals comments events db') :
    row ∈ db.expenses := Table.mem_of_find? h.found

theorem expenses_eq (h : Transition cfg db row after approvals comments events db') :
    db'.expenses = db.expenses.replace (row.save after) := by
  obtain ⟨_, rfl, -⟩ := h.effect
  rfl

theorem approvals_eq (h : Transition cfg db row after approvals comments events db') :
    db'.approvals = approvals := by
  obtain ⟨_, rfl, -⟩ := h.effect
  rfl

theorem outbox_eq (h : Transition cfg db row after approvals comments events db') :
    db'.outbox = db.outbox ++ events := by
  obtain ⟨_, rfl, -⟩ := h.effect
  rfl

theorem users_eq (h : Transition cfg db row after approvals comments events db') :
    db'.users = db.users := by
  obtain ⟨_, rfl, -⟩ := h.effect
  rfl

theorem levels_eq (h : Transition cfg db row after approvals comments events db') :
    db'.levels = db.levels := by
  obtain ⟨_, rfl, -⟩ := h.effect
  rfl

theorem attachments_eq (h : Transition cfg db row after approvals comments events db') :
    db'.attachments = db.attachments := by
  obtain ⟨_, rfl, -⟩ := h.effect
  rfl

theorem departments_eq (h : Transition cfg db row after approvals comments events db') :
    db'.departments = db.departments := by
  obtain ⟨_, rfl, -⟩ := h.effect
  rfl

/-- The row after the transition. -/
theorem find?_self (h : Transition cfg db row after approvals comments events db') :
    db'.expenses.find? row.id = some (row.save after) := by
  rw [h.expenses_eq]
  exact Table.find?_replace_self (r := row.save after) h.found

/-- A row after a transition is the saved row, or an old row with another id. -/
theorem eq_or_mem (h : Transition cfg db row after approvals comments events db')
    {e : Expense} (he : e ∈ db'.expenses) : e = row.save after ∨ e ∈ db.expenses ∧ e.id ≠ row.id := by
  rw [h.expenses_eq] at he
  exact Table.eq_or_mem_of_mem_replace he

end Transition

section Effects

variable {cfg : Config} {now : Instant} {db db' : Db} {authUser : AuthUser} {reference : String}
  {u : Unit}

theorem published_transitionEvents {eventTypes : List DomainEventType} {expenseId : Nat} {at_ : Instant}
    {status : ExpenseStatus} (hstatus : status ≠ .DRAFT) :
    ∀ e ∈ transitionEvents eventTypes expenseId at_, ∀ t id at',
      e.idempotencyKey = some (.ofTransition t id at') → id = expenseId ∧ status ≠ .DRAFT := by
  intro e he t id at' hkey
  obtain ⟨_, -, rfl⟩ := List.mem_map.1 he
  cases hkey
  exact ⟨rfl, hstatus⟩

theorem decided_insert {approval : ExpenseApproval} {approvals : Table ExpenseApproval.key}
    {row : Expense} (hexpense : approval.expenseId = row.id)
    (hins : db.approvals.insert? approval = some approvals) :
    ∀ a ∈ approvals, a ∈ db.approvals ∨ a.expenseId = row.id := by
  intro a ha
  rcases (Table.mem_insert hins).1 ha with ha | rfl
  · exact .inl ha
  · exact .inr hexpense

/-- A saved transition of a loaded row, followed by events, is a `Transition`. -/
private theorem transition_of_persist {row : Expense} {before : ExpenseBudgetSnapshot}
    {after : ExpenseEntity} {approvals : Table ExpenseApproval.key} {comments : List ExpenseComment}
    {events : List OutboxEvent} {db₁ : Db} (hmem : row ∈ db.expenses) (hid : after.id = row.id)
    (hbefore : before = row.snapshot ∨ before.status = .DRAFT ∧ row.status = .DRAFT)
    (hpersist : persistTransition cfg.budgetTimeZone before after
      { db with approvals := approvals } = .ok ((), db₁))
    (hdecided : ∀ a ∈ approvals, a ∈ db.approvals ∨ a.expenseId = row.id)
    (hpublished : ∀ e ∈ events, ∀ t id at_, e.idempotencyKey = some (.ofTransition t id at_) →
      id = row.id ∧ after.status ≠ .DRAFT)
    (hdb' : db' = { db₁ with
      comments := db₁.comments ++ comments
      outbox := db₁.outbox ++ events }) :
    Transition cfg db row after approvals comments events db' := by
  have hfound : db.expenses.find? row.id = some row := Table.find?_of_mem hmem
  obtain ⟨row', budgets, hrow', rfl, hshift⟩ := persistTransition_ok hpersist
  rw [hid] at hrow'
  cases hfound.symm.trans hrow'
  rcases hbefore with rfl | ⟨hbefore, hdraft⟩
  · exact ⟨hfound, hdecided, hpublished, budgets, hdb', hshift⟩
  · have hstatus : before.status = row.snapshot.status := hbefore.trans hdraft.symm
    obtain ⟨hc, hr⟩ := @deltas_congr cfg.budgetTimeZone db before row.snapshot
      (toExpenseBudgetSnapshot after) hstatus (by rw [hbefore]; rfl)
    exact ⟨hfound, hdecided, hpublished, budgets, hdb', hc ▸ hr ▸ hshift⟩

/-- An edit transforms a draft into an edit of it. -/
theorem update_effect {input : ExpenseDraft.UpdateExpenseInput}
    (h : ExpenseDraft.update cfg now authUser reference input db = .ok (u, db')) :
    ∃ row updated, row.status = .DRAFT ∧
      ExpenseDraft.IsEditOf (row.toEntity none none) updated ∧
      Transition cfg db row updated db.approvals [] [] db' := by
  obtain ⟨row, updated, hmem, hdraft, hedit, hpersist⟩ := ExpenseDraft.update_ok h
  have hid : updated.id = row.id := by
    rw [hedit]
    rfl
  exact ⟨row, updated, hdraft, hedit, transition_of_persist hmem hid (.inl rfl) hpersist
    (fun _ => .inl) (by simp) (by simp)⟩

/-- The transaction of a submission submits a draft of the caller. -/
theorem commitSubmit_effect {submitAt : Instant}
    (h : ExpenseSubmit.commitSubmit cfg now authUser reference submitAt db = .ok (u, db')) :
    ∃ row departmentId budgetCheck,
      ExpenseMutationSupport.findExpense db reference = .ok row ∧ row.status = .DRAFT ∧
      row.userId = authUser.id ∧
      db.resolveDepartmentForSubmit row.userId row.departmentId = some departmentId ∧
      ExpenseSubmit.lacksDepartmentManager db (ExpenseSubmit.routed db row departmentId)
        db.activeLevels = false ∧
      Transition cfg db row
        (ExpenseSubmit.submitted (ExpenseSubmit.routed db row departmentId) db.activeLevels submitAt)
        db.approvals [] (transitionEvents (ExpenseSubmit.submitEventTypes
          (ApprovalRouting.resolveInitialSubmitStatus (ExpenseSubmit.routed db row departmentId)
            db.activeLevels) budgetCheck) row.id submitAt) db' := by
  obtain ⟨row, departmentId, budgetCheck, db₁, hrow, hassert, hdept, hmanager, -, -, hpersist,
    hpublish⟩ := ExpenseSubmit.commitSubmit_eq_ok.1 h
  obtain ⟨hdraft, howner⟩ := ExpenseSubmit.assertSubmittable_ok hassert
  obtain ⟨-, rfl⟩ :=
    (publishTransitions_eq_ok (ExpenseSubmit.nodup_submitEventTypes _ _)).1 hpublish
  have hmem : row ∈ db.expenses := (findEntityByReference_eq_ok hrow).1
  refine ⟨row, departmentId, budgetCheck, hrow, hdraft, howner, hdept, hmanager, ?_⟩
  have hstatus : (ExpenseSubmit.submitted (ExpenseSubmit.routed db row departmentId) db.activeLevels
      submitAt).status ≠ .DRAFT := by
    rw [ExpenseSubmit.submitted_eq]
    rcases ApprovalRouting.resolveInitialSubmitStatus_cases (ExpenseSubmit.routed db row departmentId)
      db.activeLevels with hs | hs | hs <;> simp [hs]
  refine transition_of_persist hmem ?_ (.inr ⟨hdraft, hdraft⟩) hpersist (fun _ => .inl)
    (published_transitionEvents hstatus) (by simp)
  rw [ExpenseSubmit.submitted_eq]
  rfl

/-- An approval records a decision at the ready stage. -/
theorem approve_effect {expenseId : Nat} {input : Approval.ApproveExpenseInput}
    (h : Approval.approve cfg now authUser expenseId input db = .ok (u, db')) :
    ∃ row stage approval approvals nextStatus, db.expenses.find? expenseId = some row ∧
      Approval.ReadyStage db now authUser row stage ∧
      approval.expenseId = row.id ∧ approval.approvalLevelId = stage.id ∧
      approval.approverId = authUser.id ∧ approval.decision = .APPROVED ∧
      db.approvals.insert? approval = some approvals ∧
      nextStatus = ApprovalRouting.resolveStatusAfterLevelApproval stage (db.withRelations row)
        db.activeLevels ∧
      Transition cfg db row (Approval.approved (db.withRelations row) nextStatus now) approvals []
        (transitionEvents (Approval.approveEventTypes nextStatus) row.id now) db' := by
  obtain ⟨row, stage, budgetCheck, approvals, db₁, -, hrow, hready, -, hins, hpersist, hpublish⟩ :=
    Approval.approve_eq_ok.1 h
  obtain ⟨-, rfl⟩ := (publishTransitions_eq_ok (Approval.nodup_approveEventTypes _)).1 hpublish
  have hstatus : ApprovalRouting.resolveStatusAfterLevelApproval stage (db.withRelations row)
      db.activeLevels ≠ .DRAFT := by
    rcases ApprovalRouting.resolveStatusAfterLevelApproval_cases stage (db.withRelations row)
      db.activeLevels with hs | hs <;> simp [hs]
  exact ⟨row, stage, _, approvals, _, hrow, hready, rfl, rfl, rfl, rfl, hins, rfl,
    transition_of_persist (Table.mem_of_find? hrow) rfl (.inl rfl) hpersist (decided_insert rfl hins)
      (published_transitionEvents hstatus) (by simp)⟩

/-- A rejection records a decision at the ready stage. -/
theorem reject_effect {expenseId : Nat} {commentReference comment : String}
    (h : Approval.reject cfg now authUser expenseId commentReference comment db = .ok (u, db')) :
    ∃ row stage approval approvals comments, db.expenses.find? expenseId = some row ∧
      Approval.ReadyStage db now authUser row stage ∧
      approval.expenseId = row.id ∧ approval.approvalLevelId = stage.id ∧
      approval.approverId = authUser.id ∧ approval.decision = .REJECTED ∧
      db.approvals.insert? approval = some approvals ∧
      Transition cfg db row (Approval.rejected (db.withRelations row) now) approvals comments
        (⟨.expenseCommentAdded, some (.ofComment commentReference)⟩ ::
          transitionEvents [.expenseRejected] row.id now) db' := by
  obtain ⟨row, stage, approvals, db₁, db₂, -, -, hrow, hready, hins, hpersist, hcommented,
    hpublish⟩ := Approval.reject_eq_ok.1 h
  obtain ⟨-, rfl⟩ := publish_eq_ok.1 hcommented
  obtain ⟨-, rfl⟩ := (publishTransitions_eq_ok (List.nodup_singleton _)).1 hpublish
  exact ⟨row, stage, _, approvals, [⟨commentReference, row.id, authUser.id, Js.trim comment, now⟩],
    hrow, hready, rfl, rfl, rfl, rfl, hins,
    transition_of_persist (Table.mem_of_find? hrow) rfl (.inl rfl) hpersist (decided_insert rfl hins)
      (List.forall_mem_cons.2 ⟨nofun, published_transitionEvents (by simp [Approval.rejected])⟩)
      (by simp)⟩

/-- A reimbursement moves an approved expense. -/
theorem reimburse_effect (h : ExpenseReimbursement.reimburse cfg now authUser reference db = .ok (u, db')) :
    ∃ row, row.status = .APPROVED ∧
      Transition cfg db row (ExpenseReimbursement.reimbursed (row.toEntity none none) now) db.approvals []
        (transitionEvents [.expenseReimbursed] row.id now) db' := by
  obtain ⟨row, db₁, hmem, hstatus, hpersist, hdb'⟩ := ExpenseReimbursement.reimburse_ok h
  exact ⟨row, hstatus, transition_of_persist hmem rfl (.inl rfl) hpersist (fun _ => .inl)
    (published_transitionEvents (by simp [ExpenseReimbursement.reimbursed])) (by simp [hdb'])⟩

/-- Reopening a rejected expense deletes its decisions and makes it a draft; it
    moves no budget, since neither snapshot counts. -/
theorem reopenRejected_effect
    (h : ExpenseDraft.reopenRejected authUser reference db = .ok (u, db')) :
    ∃ row, row.status = .REJECTED ∧ row.userId = authUser.id ∧
      Transition cfg db row (ExpenseDraft.reopened (row.toEntity none none))
        (db.approvals.keep (fun a => a.expenseId ≠ row.id)) [] [⟨.expenseReopened, none⟩] db' := by
  obtain ⟨row, hrow, -, howner, hrejected, stored, hstored, rfl⟩ :=
    ExpenseDraft.reopenRejected_eq_ok.1 h
  have hmem : row ∈ db.expenses := (findEntityByReference_eq_ok hrow).1
  have hfound := Table.find?_of_mem hmem
  cases hfound.symm.trans hstored
  refine ⟨row, hrejected, howner, hfound, fun _ ha => .inl (Table.mem_keep.1 ha).1, by simp,
    db.budgets, by simp, ?_⟩
  have hc : committedDelta cfg.budgetTimeZone db (some row.snapshot)
      (some (toExpenseBudgetSnapshot (ExpenseDraft.reopened (row.toEntity none none)))) =
        fun _ => 0 := by
    funext k
    simp [committedDelta, committedWeight, Expense.snapshot, toExpenseBudgetSnapshot, ExpenseDraft.reopened,
      Expense.toEntity, hrejected, countsTowardCommittedBudget, isReimbursementTransition]
  have hr : reimbursedDelta cfg.budgetTimeZone db (some row.snapshot)
      (some (toExpenseBudgetSnapshot (ExpenseDraft.reopened (row.toEntity none none)))) =
        fun _ => 0 := by
    funext k
    simp [reimbursedDelta, toExpenseBudgetSnapshot, ExpenseDraft.reopened, Expense.toEntity,
      isReimbursementTransition]
  simpa only [hc, hr] using Shifted.refl _

end Effects

/-! ## Kinds of operations -/

/-- The operations that move an expense through its life cycle. -/
def Operation.isTransition : Operation → Bool
  | .updateExpense .. | .submit .. | .approve .. | .reject .. | .reopenRejected .. | .reimburse .. =>
    true
  | _ => false

/-- The moment, the actor and the expense of a decision. -/
def Operation.decision? : Operation → Option (Instant × AuthUser × Nat)
  | .approve now authUser expenseId _ => some (now, authUser, expenseId)
  | .reject now authUser expenseId _ _ => some (now, authUser, expenseId)
  | _ => none

/-- The operations that insert or delete an expense. -/
def Operation.addsOrRemoves : Operation → Bool
  | .createExpense .. | .removeExpense .. => true
  | _ => false

/-- The operations of budget administration. -/
def Operation.isBudgetAdmin : Operation → Bool
  | .createBudget .. | .updateBudget .. => true
  | _ => false

/-- The operations that change the catalogue or a department. -/
def Operation.changesRouting : Operation → Bool
  | .createLevel .. | .updateLevel .. | .removeLevel .. | .updateDepartment .. => true
  | _ => false

/-- The operations that save or delete the row of a receipt. -/
def Operation.changesReceipts : Operation → Bool
  | .uploadReceipt .. | .removeReceipt .. => true
  | _ => false

/-- Expenses, decisions and owners are as before, receipts are only added to existing
    expenses, and nothing was published under a key. -/
structure Frame (db db' : Db) : Prop where
  expenses : db'.expenses = db.expenses
  nextExpenseId : db'.nextExpenseId = db.nextExpenseId
  approvals : db'.approvals = db.approvals
  users : db'.users = db.users
  attachments : ∀ a ∈ db'.attachments, a ∈ db.attachments ∨ ∃ e ∈ db.expenses, a.expenseId = e.id
  outbox : ∃ events, db'.outbox = db.outbox ++ events ∧ ∀ e ∈ events, e.idempotencyKey = none

section Kinds

variable {cfg : Config} {db db' : Db} {op : Operation}

theorem Frame.of_outbox_eq (hexpenses : db'.expenses = db.expenses)
    (hnext : db'.nextExpenseId = db.nextExpenseId) (happrovals : db'.approvals = db.approvals)
    (husers : db'.users = db.users)
    (hattachments : ∀ a ∈ db'.attachments, a ∈ db.attachments ∨ ∃ e ∈ db.expenses, a.expenseId = e.id)
    (houtbox : db'.outbox = db.outbox) : Frame db db' :=
  ⟨hexpenses, hnext, happrovals, husers, hattachments, [], by simp [houtbox], by simp⟩

/-- An operation of any other kind leaves the expenses alone, and the budgets, the
    catalogue, the departments and the receipts too unless it is there to change them. -/
theorem frame_of_ok (htransition : op.isTransition = false) (hadds : op.addsOrRemoves = false)
    (h : op.perform cfg db = .ok ((), db')) :
    Frame db db' ∧ (op.isBudgetAdmin = false → db'.budgets = db.budgets) ∧
      (op.changesRouting = false → db'.levels = db.levels ∧ db'.departments = db.departments) ∧
      (op.changesReceipts = false → db'.attachments = db.attachments) := by
  cases op with
  | uploadReceipt authUser reference attachmentReference =>
    rw [Operation.perform] at h
    obtain ⟨row, hrow, -, rfl⟩ := Receipts.upload_ok h
    refine ⟨.of_outbox_eq rfl rfl rfl rfl (fun a ha => ?_) rfl, fun _ => rfl, fun _ => ⟨rfl, rfl⟩, nofun⟩
    rcases List.mem_append.1 ha with ha | ha
    · exact .inl ha
    · exact .inr ⟨row, (findEntityByReference_eq_ok hrow).1, by rw [List.mem_singleton.1 ha]⟩
  | removeReceipt authUser reference receiptReference =>
    rw [Operation.perform] at h
    obtain ⟨_, -, -, _, -, rfl⟩ := Receipts.remove_ok h
    exact ⟨.of_outbox_eq rfl rfl rfl rfl (fun _ ha => .inl (List.mem_filter.1 ha).1) rfl,
      fun _ => rfl, fun _ => ⟨rfl, rfl⟩, nofun⟩
  | createDelegation now reference delegator input =>
    rw [Operation.perform] at h
    obtain ⟨_, -, -, -, -, rfl⟩ := Delegation.create_ok h
    exact ⟨⟨rfl, rfl, rfl, rfl, fun _ => .inl, _, rfl, by simp⟩, fun _ => rfl,
      fun _ => ⟨rfl, rfl⟩, fun _ => rfl⟩
  | revokeDelegation delegatorId reference =>
    rw [Operation.perform] at h
    obtain ⟨_, rfl⟩ := Delegation.revoke_ok h
    exact ⟨⟨rfl, rfl, rfl, rfl, fun _ => .inl, _, rfl, by simp⟩, fun _ => rfl,
      fun _ => ⟨rfl, rfl⟩, fun _ => rfl⟩
  | createLevel reference input =>
    rw [Operation.perform] at h
    obtain ⟨_, _, rfl⟩ := ApprovalLevels.create_ok h
    exact ⟨.of_outbox_eq rfl rfl rfl rfl (fun _ => .inl) rfl, fun _ => rfl, nofun, fun _ => rfl⟩
  | updateLevel reference input =>
    rw [Operation.perform] at h
    obtain ⟨_, _, rfl⟩ := ApprovalLevels.update_ok h
    exact ⟨.of_outbox_eq rfl rfl rfl rfl (fun _ => .inl) rfl, fun _ => rfl, nofun, fun _ => rfl⟩
  | removeLevel reference =>
    rw [Operation.perform] at h
    obtain ⟨_, _, rfl⟩ := ApprovalLevels.remove_ok h
    exact ⟨.of_outbox_eq rfl rfl rfl rfl (fun _ => .inl) rfl, fun _ => rfl, nofun, fun _ => rfl⟩
  | updateDepartment reference input =>
    rw [Operation.perform] at h
    obtain ⟨_, _, events, -, -, rfl, hevents⟩ := DepartmentService.update_ok h
    exact ⟨⟨rfl, rfl, rfl, rfl, fun _ => .inl, events, rfl, hevents⟩, fun _ => rfl, nofun, fun _ => rfl⟩
  | createBudget now reference input =>
    rw [Operation.perform] at h
    obtain ⟨_, _, _, -, -, rfl, -⟩ := BudgetService.create_ok h
    exact ⟨.of_outbox_eq rfl rfl rfl rfl (fun _ => .inl) rfl, nofun, fun _ => ⟨rfl, rfl⟩, fun _ => rfl⟩
  | updateBudget reference input =>
    rw [Operation.perform] at h
    obtain ⟨_, -, _, -, rfl, -⟩ := BudgetService.update_ok h
    exact ⟨.of_outbox_eq rfl rfl rfl rfl (fun _ => .inl) rfl, nofun, fun _ => ⟨rfl, rfl⟩, fun _ => rfl⟩
  | createExpense | removeExpense => cases hadds
  | _ => cases htransition

/-- What each transition makes of the row it loads, and of the decisions. -/
inductive Moves (db : Db) (row : Expense) :
    Operation → ExpenseEntity → Table ExpenseApproval.key → Prop where
  | edit {now authUser reference input updated} :
      row.status = .DRAFT → ExpenseDraft.IsEditOf (row.toEntity none none) updated →
      Moves db row (.updateExpense now authUser reference input) updated db.approvals
  | submit {policies now authUser reference policyJustifications departmentId submitAt} :
      row.status = .DRAFT →
      db.resolveDepartmentForSubmit row.userId row.departmentId = some departmentId →
      Moves db row (.submit policies now authUser reference policyJustifications)
        (ExpenseSubmit.submitted (ExpenseSubmit.routed db row departmentId) db.activeLevels submitAt)
        db.approvals
  | approve {now authUser expenseId input approval approvals nextStatus} :
      row.status.isPending = true → approval.expenseId = row.id → approval.decision = .APPROVED →
      db.approvals.insert? approval = some approvals →
      nextStatus = .APPROVED ∨ nextStatus = .UNDER_REVIEW →
      Moves db row (.approve now authUser expenseId input)
        (Approval.approved (db.withRelations row) nextStatus now) approvals
  | reject {now authUser expenseId commentReference comment approval approvals} :
      row.status.isPending = true → approval.expenseId = row.id →
      db.approvals.insert? approval = some approvals →
      Moves db row (.reject now authUser expenseId commentReference comment)
        (Approval.rejected (db.withRelations row) now) approvals
  | reopen {authUser reference} : row.status = .REJECTED →
      Moves db row (.reopenRejected authUser reference)
        (ExpenseDraft.reopened (row.toEntity none none))
        (db.approvals.keep (fun a => a.expenseId ≠ row.id))
  | reimburse {now authUser reference} : row.status = .APPROVED →
      Moves db row (.reimburse now authUser reference)
        (ExpenseReimbursement.reimbursed (row.toEntity none none) now) db.approvals

/-- A successful transition is a `Transition` that moves its row. -/
theorem transition_of_ok (hop : op.isTransition = true) (h : op.perform cfg db = .ok ((), db')) :
    ∃ row after approvals comments events,
      Transition cfg db row after approvals comments events db' ∧ Moves db row op after approvals := by
  cases op with
  | updateExpense now authUser reference input =>
    rw [Operation.perform] at h
    obtain ⟨row, updated, hdraft, hedit, htransition⟩ := update_effect h
    exact ⟨row, updated, _, _, _, htransition, .edit hdraft hedit⟩
  | submit policies now authUser reference policyJustifications =>
    rw [Operation.perform] at h
    obtain ⟨_, _, -, -, -, -, hcommit⟩ := ExpenseSubmit.submit_eq_ok.1 h
    obtain ⟨row, departmentId, _, -, hdraft, -, hdepartment, -, htransition⟩ :=
      commitSubmit_effect hcommit
    exact ⟨row, _, _, _, _, htransition, .submit hdraft hdepartment⟩
  | approve now authUser expenseId input =>
    rw [Operation.perform] at h
    obtain ⟨row, stage, approval, _, nextStatus, -, hready, hexpense, -, -, hdecision, hins, hnext,
      htransition⟩ := approve_effect h
    have hcases := ApprovalRouting.resolveStatusAfterLevelApproval_cases stage (db.withRelations row)
      db.activeLevels
    exact ⟨row, _, _, _, _, htransition,
      .approve hready.isPending hexpense hdecision hins (hnext ▸ hcases)⟩
  | reject now authUser expenseId commentReference comment =>
    rw [Operation.perform] at h
    obtain ⟨row, _, _, _, _, -, hready, hexpense, -, -, -, hins, htransition⟩ := reject_effect h
    exact ⟨row, _, _, _, _, htransition, .reject hready.isPending hexpense hins⟩
  | reopenRejected authUser reference =>
    rw [Operation.perform] at h
    obtain ⟨row, hrejected, -, htransition⟩ := @reopenRejected_effect cfg _ _ _ _ _ h
    exact ⟨row, _, _, _, _, htransition, .reopen hrejected⟩
  | reimburse now authUser reference =>
    rw [Operation.perform] at h
    obtain ⟨row, happroved, htransition⟩ := reimburse_effect h
    exact ⟨row, _, _, _, _, htransition, .reimburse happroved⟩
  | _ => cases hop

/-- An expense that is inserted is a new draft under the next id, of a user with a department. -/
def IsNewDraft (db : Db) (row : Expense) : Prop :=
  ∃ reference userId departmentId title description amount category incurredAt,
    row = ExpenseDraft.newDraft db.nextExpenseId reference userId departmentId title description
      amount category incurredAt ∧
    ∃ user, db.users.find? userId = some user ∧ user.departmentId = some departmentId

/-- What inserts or deletes expenses inserts a new draft, or deletes a draft and what
    belongs to it. -/
theorem inserted_or_deleted_of_ok (hadds : op.addsOrRemoves = true)
    (h : op.perform cfg db = .ok ((), db')) :
    (∃ row expenses, db.expenses.insert? row = some expenses ∧ row.id = db.nextExpenseId ∧
      IsNewDraft db row ∧
      db' = { db with expenses := expenses, nextExpenseId := db.nextExpenseId + 1 }) ∨
    (∃ row ∈ db.expenses, row.status = .DRAFT ∧
      ExpenseDraft.deleteExpense row.id db = .ok ((), db')) := by
  cases op with
  | createExpense now reference userId input =>
    rw [Operation.perform] at h
    obtain ⟨row, expenses, hins, hid, ⟨departmentId, _, _, _, hrow, huser, -⟩, hdb'⟩ :=
      ExpenseDraft.create_ok h
    exact .inl ⟨row, expenses, hins, hid, ⟨_, _, _, _, _, _, _, _, hrow, huser⟩, hdb'⟩
  | removeExpense authUser reference =>
    rw [Operation.perform] at h
    exact .inr (ExpenseDraft.remove_ok h)
  | _ => cases hadds

/-- A successful decision is recorded at a ready stage. -/
theorem decision_of_ok {now : Instant} {authUser : AuthUser} {expenseId : Nat}
    (hop : op.decision? = some (now, authUser, expenseId))
    (h : op.perform cfg db = .ok ((), db')) :
    ∃ row stage approval, db.expenses.find? expenseId = some row ∧
      Approval.ReadyStage db now authUser row stage ∧ approval.key = (row.id, stage.id) ∧
      approval.approverId = authUser.id ∧ db.approvals.insert? approval = some db'.approvals := by
  cases op with
  | approve now authUser expenseId input =>
    cases hop
    rw [Operation.perform] at h
    obtain ⟨row, stage, approval, _, _, hrow, hready, hexpense, hlevel, happrover, -, hins, -,
      htransition⟩ := approve_effect h
    exact ⟨row, stage, approval, hrow, hready, by rw [ExpenseApproval.key, hexpense, hlevel],
      happrover, htransition.approvals_eq ▸ hins⟩
  | reject now authUser expenseId commentReference comment =>
    cases hop
    rw [Operation.perform] at h
    obtain ⟨row, stage, approval, _, _, hrow, hready, hexpense, hlevel, happrover, -, hins,
      htransition⟩ := reject_effect h
    exact ⟨row, stage, approval, hrow, hready, by rw [ExpenseApproval.key, hexpense, hlevel],
      happrover, htransition.approvals_eq ▸ hins⟩
  | _ => cases hop

end Kinds

end Expentra
