-- SUMMARY: The status of an expense and its timestamps: they agree until a rejected expense is reopened.
import Expentra.System.Serials

/-!
# Timestamps

What the timestamps of a row should say about its status, and which operations
keep it so. `reopenRejected` sets the timestamps of the entity to `undefined`,
which a save leaves as they are: it is the one operation that makes status and
timestamps disagree, and it always does.
-/

namespace Expentra

open Library

/-- The timestamps of a row say what its status says. -/
structure TimestampsAgree (row : Expense) : Prop where
  draft : row.status = .DRAFT →
    row.submittedAt = none ∧ row.approvedAt = none ∧ row.rejectedAt = none ∧ row.reimbursedAt = none
  rejected : row.status = .REJECTED ↔ row.rejectedAt.isSome = true
  approved : (row.status = .APPROVED ∨ row.status = .REIMBURSED) ↔ row.approvedAt.isSome = true
  reimbursed : row.status = .REIMBURSED ↔ row.reimbursedAt.isSome = true

/-- The timestamps of every row agree with its status, and a draft has no decisions. -/
def StatusesAgree (db : Db) : Prop :=
  ∀ row ∈ db.expenses, TimestampsAgree row ∧
    (row.status = .DRAFT → ∀ a ∈ db.approvals, a.expenseId ≠ row.id)

/-- No rejected expense is reopened. -/
def reopensNothing (cfg : Config) : Guard Db Operation := fun db op =>
  ∀ authUser reference, op = .reopenRejected authUser reference → ¬ op.Succeeds cfg db

section Timestamps

variable {cfg : Config} {db db' : Db} {op : Operation} {row : Expense} {after : ExpenseEntity}
  {approvals : Table ExpenseApproval.key}

theorem timestampsAgree_newDraft (id : Nat) (reference : String) (userId departmentId : Nat)
    (title : String) (description : Option String) (amount : Amount) (category : ExpenseCategory)
    (incurredAt : Option Instant) : TimestampsAgree (ExpenseDraft.newDraft id reference userId
      departmentId title description amount category incurredAt) := by
  constructor <;> simp [ExpenseDraft.newDraft]

/-- An edit keeps every timestamp and the status. -/
theorem TimestampsAgree.edit {updated : ExpenseEntity} (h : TimestampsAgree row)
    (hedit : ExpenseDraft.IsEditOf (row.toEntity none none) updated) :
    TimestampsAgree (row.save updated) := by
  rw [hedit]
  constructor
  · simpa [Expense.save, Expense.toEntity] using h.draft
  · simpa [Expense.save, Expense.toEntity] using h.rejected
  · simpa [Expense.save, Expense.toEntity] using h.approved
  · simpa [Expense.save, Expense.toEntity] using h.reimbursed

/-- A submission of a draft dates it, and approves it only with a date. -/
theorem TimestampsAgree.submit (h : TimestampsAgree row) (hdraft : row.status = .DRAFT)
    (departmentId : Nat) (submitAt : Instant) : TimestampsAgree (row.save
      (ExpenseSubmit.submitted (ExpenseSubmit.routed db row departmentId) db.activeLevels submitAt)) := by
  obtain ⟨-, happroved, hrejected, hreimbursed⟩ := h.draft hdraft
  rw [ExpenseSubmit.submitted_eq]
  rcases ApprovalRouting.resolveInitialSubmitStatus_cases (ExpenseSubmit.routed db row departmentId)
    db.activeLevels with hs | hs | hs <;>
      constructor <;> simp [Expense.save, hs, happroved, hrejected, hreimbursed]

/-- A pending expense has none of the three later timestamps. -/
theorem TimestampsAgree.of_isPending (h : TimestampsAgree row) (hpending : row.status.isPending = true) :
    row.approvedAt = none ∧ row.rejectedAt = none ∧ row.reimbursedAt = none := by
  have happroved := h.approved
  have hrejected := h.rejected
  have hreimbursed := h.reimbursed
  rcases ExpenseStatus.isPending_eq_true.1 hpending with hs | hs <;>
    simp_all

theorem TimestampsAgree.approve (h : TimestampsAgree row) (hpending : row.status.isPending = true)
    {nextStatus : ExpenseStatus} (hnext : nextStatus = .APPROVED ∨ nextStatus = .UNDER_REVIEW)
    (now : Instant) :
    TimestampsAgree (row.save (Approval.approved (db.withRelations row) nextStatus now)) := by
  obtain ⟨happroved, hrejected, hreimbursed⟩ := h.of_isPending hpending
  rcases hnext with rfl | rfl <;> constructor <;>
    simp [Expense.save, Approval.approved, Db.withRelations, Expense.toEntity, happroved, hrejected,
      hreimbursed]

theorem TimestampsAgree.reject (h : TimestampsAgree row) (hpending : row.status.isPending = true)
    (now : Instant) : TimestampsAgree (row.save (Approval.rejected (db.withRelations row) now)) := by
  obtain ⟨happroved, hrejected, hreimbursed⟩ := h.of_isPending hpending
  constructor <;> simp [Expense.save, Approval.rejected, Db.withRelations, Expense.toEntity, happroved,
    hreimbursed]

theorem TimestampsAgree.reimburse (h : TimestampsAgree row) (happroved : row.status = .APPROVED)
    (now : Instant) :
    TimestampsAgree (row.save (ExpenseReimbursement.reimbursed (row.toEntity none none) now)) := by
  have hat : row.approvedAt.isSome = true := h.approved.1 (.inl happroved)
  have hrejected : row.rejectedAt = none := by
    have := h.rejected
    simp_all
  constructor <;> simp [Expense.save, ExpenseReimbursement.reimbursed, Expense.toEntity, hat, hrejected]

/-- Every transition but a reopening keeps timestamps and status in agreement. -/
theorem Moves.timestampsAgree (hmoves : Moves db row op after approvals) (h : TimestampsAgree row)
    (hop : ∀ authUser reference, op ≠ .reopenRejected authUser reference) :
    TimestampsAgree (row.save after) := by
  cases hmoves with
  | edit _ hedit => exact h.edit hedit
  | submit hdraft _ => exact h.submit hdraft _ _
  | approve hpending _ _ _ hnext => exact h.approve hpending hnext _
  | reject hpending _ _ => exact h.reject hpending _
  | reopen _ => exact absurd rfl (hop _ _)
  | reimburse happroved => exact h.reimburse happroved _

/-- After a transition, a draft still has only the decisions it had. -/
theorem Moves.undecided (hmoves : Moves db row op after approvals)
    (hrow : row.status = .DRAFT → ∀ a ∈ db.approvals, a.expenseId ≠ row.id)
    (hdraft : (row.save after).status = .DRAFT) : ∀ a ∈ approvals, a.expenseId ≠ row.id := by
  cases hmoves with
  | edit hwas _ => exact hrow hwas
  | submit hwas _ => exact hrow hwas
  | approve _ _ _ _ hnext =>
    rcases hnext with rfl | rfl <;> cases hdraft
  | reject _ _ _ => cases hdraft
  | reopen _ =>
    intro a ha
    simpa using (Table.mem_keep.1 ha).2
  | reimburse _ => cases hdraft

theorem StatusesAgree.transition {comments : List ExpenseComment} {events : List OutboxEvent}
    (h : StatusesAgree db) (htransition : Transition cfg db row after approvals comments events db')
    (hmoves : Moves db row op after approvals)
    (hop : ∀ authUser reference, op ≠ .reopenRejected authUser reference) : StatusesAgree db' := by
  obtain ⟨hrow, hdecisions⟩ := h row htransition.mem
  intro e he
  rcases htransition.eq_or_mem he with rfl | ⟨he, hne⟩
  · refine ⟨hmoves.timestampsAgree hrow hop, fun hdraft => ?_⟩
    rw [htransition.approvals_eq]
    exact hmoves.undecided hdecisions hdraft
  · refine ⟨(h e he).1, fun hdraft a ha => ?_⟩
    rw [htransition.approvals_eq] at ha
    rcases htransition.decided a ha with ha | hid
    · exact (h e he).2 hdraft a ha
    · exact fun heq => hne (heq.symm.trans hid)

/-- A new draft has no decisions yet, since its id is new. -/
theorem statusesAgree_of_ok (hnumbered : Numbered db) (hagree : StatusesAgree db)
    (hop : ∀ authUser reference, op ≠ .reopenRejected authUser reference)
    (h : op.perform cfg db = .ok ((), db')) : StatusesAgree db' := by
  cases htransition : op.isTransition with
  | true =>
    obtain ⟨_, _, _, _, _, htrans, hmoves⟩ := transition_of_ok htransition h
    exact hagree.transition htrans hmoves hop
  | false =>
    cases hadds : op.addsOrRemoves with
    | false =>
      obtain ⟨hframe, -⟩ := frame_of_ok htransition hadds h
      unfold StatusesAgree
      rw [hframe.expenses, hframe.approvals]
      exact hagree
    | true =>
      rcases inserted_or_deleted_of_ok hadds h with
        ⟨row, expenses, hins, hid, ⟨_, _, _, _, _, _, _, _, hrow, -⟩, rfl⟩ | ⟨_, -, -, hdelete⟩
      · intro e he
        rcases (Table.mem_insert hins).1 he with he | rfl
        · exact hagree e he
        · refine ⟨hrow ▸ timestampsAgree_newDraft _ _ _ _ _ _ _ _ _, fun _ a ha => ?_⟩
          exact hid ▸ (hnumbered.approval a ha).ne
      · cases Transaction.write_eq_ok.1 hdelete
        intro e he
        obtain ⟨hstamps, hdecisions⟩ := hagree e (Table.mem_keep.1 he).1
        exact ⟨hstamps, fun hdraft a ha => hdecisions hdraft a (Table.mem_keep.1 ha).1⟩

/-- The row a reopening leaves is a draft that still has its rejection date. -/
theorem reopenRejected_disagrees {authUser : AuthUser} {reference : String}
    (hagree : StatusesAgree db)
    (h : (Operation.reopenRejected authUser reference).perform cfg db = .ok ((), db')) :
    ¬ StatusesAgree db' := by
  intro hagree'
  rw [Operation.perform] at h
  obtain ⟨row, hrejected, -, htransition⟩ := @reopenRejected_effect cfg _ _ _ _ _ h
  have hat : row.rejectedAt.isSome = true := (hagree row htransition.mem).1.rejected.1 hrejected
  obtain ⟨hstamps, -⟩ := hagree' _ (Table.mem_of_find? htransition.find?_self)
  rw [ExpenseDraft.save_reopened] at hstamps
  obtain ⟨-, -, hnone, -⟩ := hstamps.draft rfl
  rw [hnone] at hat
  cases hat

/-- One step keeps statuses and timestamps in agreement exactly when it reopens
    nothing. -/
theorem statusesAgree_step (hnumbered : Numbered db) (hagree : StatusesAgree db)
    (hstep : Step cfg db op db') : StatusesAgree db' ↔ reopensNothing cfg db op := by
  by_cases hop : ∃ authUser reference, op = .reopenRejected authUser reference
  · obtain ⟨authUser, reference, rfl⟩ := hop
    rcases hstep.cases with hok | rfl
    · have hsucceeds : (Operation.reopenRejected authUser reference).Succeeds cfg db := ⟨db', hok⟩
      exact iff_of_false (reopenRejected_disagrees hagree hok)
        (fun h => h authUser reference rfl hsucceeds)
    · by_cases hsucceeds : (Operation.reopenRejected authUser reference).Succeeds cfg db'
      · have hok := hstep.of_succeeds hsucceeds
        exact absurd hagree (reopenRejected_disagrees hagree hok)
      · exact iff_of_true hagree (fun _ _ _ => hsucceeds)
  · have hne : ∀ authUser reference, op ≠ .reopenRejected authUser reference :=
      fun authUser reference heq => hop ⟨authUser, reference, heq⟩
    refine iff_of_true ?_ (fun authUser reference heq => absurd heq (hne authUser reference))
    exact hstep.preserves (fun _ hok => statusesAgree_of_ok hnumbered hagree hne hok) hagree

/-- From a system without expenses, statuses and timestamps agree in every state of
    a run exactly when the run never reopens a rejected expense. -/
theorem statusesAgree_run {db₀ : Db} {tr : List (Operation × Db)} (hfresh : Fresh db₀)
    (hrun : Run (Step cfg) db₀ tr) :
    (∀ db ∈ Run.states db₀ tr, StatusesAgree db) ↔
      ∀ step ∈ Run.steps db₀ tr, reopensNothing cfg step.1 step.2 := by
  have hagree : StatusesAgree db₀ := by
    intro row hrow
    rw [hfresh.expenses] at hrow
    cases hrow
  exact hrun.forall_states_iff (fun _ _ _ hnumbered hstep => numbered_step hnumbered hstep)
    (fun _ _ _ hnumbered hagree hstep => statusesAgree_step hnumbered hagree hstep)
    hfresh.numbered hagree

end Timestamps

/-- The lifecycle of an expense that is never rejected. -/
theorem statusesAgree_run_sample :
    (∀ db ∈ Run.states Sample.db (trace Sample.config Sample.lifecycle Sample.db), StatusesAgree db) ↔
      ∀ step ∈ Run.steps Sample.db (trace Sample.config Sample.lifecycle Sample.db),
        reopensNothing Sample.config step.1 step.2 :=
  statusesAgree_run Sample.fresh (run_trace Sample.config Sample.lifecycle Sample.db)

/-- Submitted, rejected by the manager and reopened, an expense is a draft with a
    submission date and a rejection date. -/
theorem reopened_statuses_disagree :
    Fresh Sample.db ∧ ¬ StatusesAgree (runAll Sample.config
      [Sample.createExpense, Sample.submit, Sample.rejectAs Sample.authManager "COM1700000000001AAAAAA",
        .reopenRejected Sample.authOwner Sample.expenseReference] Sample.db) := by
  refine ⟨Sample.fresh, fun h => ?_⟩
  have hrows : ∃ row ∈ (runAll Sample.config
      [Sample.createExpense, Sample.submit, Sample.rejectAs Sample.authManager "COM1700000000001AAAAAA",
        .reopenRejected Sample.authOwner Sample.expenseReference] Sample.db).expenses.rows,
      row.status = .DRAFT ∧ row.rejectedAt ≠ none := by decide +kernel
  obtain ⟨row, hrow, hdraft, hat⟩ := hrows
  exact hat ((h row hrow).1.draft hdraft).2.2.1

end Expentra
