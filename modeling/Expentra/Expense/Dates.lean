-- SUMMARY: The dates and the owner an expense has in every run, whether it was reopened before or not.
import Expentra.Budget.Summaries
import Expentra.System.Serials

/-!
# Dates and owners

A reopened expense keeps dates its status no longer speaks of. The other direction survives:
a status that stands for a date has it, in every run. The reports select by these dates, and
join the owner, who never changes.
-/

namespace Expentra

open Library

/-- The dates the status of a row stands for are there. -/
structure Dated (row : Expense) : Prop where
  submitted : row.status ≠ .DRAFT → row.submittedAt.isSome = true
  approved : row.status = .APPROVED ∨ row.status = .REIMBURSED → row.approvedAt.isSome = true
  reimbursed : row.status = .REIMBURSED → row.reimbursedAt.isSome = true

/-- Every row is dated. -/
def AllDated (db : Db) : Prop := ∀ row ∈ db.expenses, Dated row

section Dates

variable {cfg : Config} {db db' : Db} {op : Operation} {row : Expense} {after : ExpenseEntity}
  {approvals : Table ExpenseApproval.key}

/-- A draft stands for no date. -/
theorem Dated.of_draft (h : row.status = .DRAFT) : Dated row := by
  constructor <;> simp [h]

/-- A pending expense stands for its submission only. -/
theorem Dated.of_pending (hstatus : row.status = .SUBMITTED ∨ row.status = .UNDER_REVIEW ∨
    row.status = .REJECTED) (hsubmitted : row.submittedAt.isSome = true) : Dated row := by
  rcases hstatus with hs | hs | hs <;> constructor <;> simp [hs, hsubmitted]

/-- A submission dates the row, and approves it only with a date. -/
theorem dated_submitted (departmentId : Nat) (submitAt : Instant) : Dated (row.save
    (ExpenseSubmit.submitted (ExpenseSubmit.routed db row departmentId) db.activeLevels submitAt)) := by
  rw [ExpenseSubmit.submitted_eq]
  rcases ApprovalRouting.resolveInitialSubmitStatus_cases (ExpenseSubmit.routed db row departmentId)
    db.activeLevels with hs | hs | hs
  · constructor <;> simp [Expense.save, hs]
  · exact .of_pending (by simp [Expense.save, hs]) (by simp [Expense.save])
  · exact .of_pending (by simp [Expense.save, hs]) (by simp [Expense.save])

/-- Every transition leaves a dated row. -/
theorem Moves.allDates (hmoves : Moves db row op after approvals) (h : Dated row) :
    Dated (row.save after) := by
  cases hmoves with
  | edit hdraft hedit =>
    refine .of_draft ?_
    rw [hedit]
    exact hdraft
  | submit _ _ => exact dated_submitted _ _
  | approve hpending _ _ _ hnext =>
    have hsubmitted : row.submittedAt.isSome = true := h.submitted fun hdraft => by
      rw [hdraft] at hpending
      cases hpending
    rcases hnext with rfl | rfl <;> constructor <;>
      simp [Expense.save, Approval.approved, Db.withRelations, Expense.toEntity, hsubmitted]
  | reject hpending _ _ =>
    have hsubmitted : row.submittedAt.isSome = true := h.submitted fun hdraft => by
      rw [hdraft] at hpending
      cases hpending
    exact .of_pending (by simp [Expense.save, Approval.rejected])
      (by simpa [Expense.save, Approval.rejected, Db.withRelations, Expense.toEntity] using hsubmitted)
  | reopen _ => exact .of_draft (by simp [Expense.save, ExpenseDraft.reopened])
  | reimburse happroved =>
    have hsubmitted : row.submittedAt.isSome = true := h.submitted (by simp [happroved])
    have hat : row.approvedAt.isSome = true := h.approved (.inl happroved)
    constructor <;>
      simp [Expense.save, ExpenseReimbursement.reimbursed, Expense.toEntity, hsubmitted, hat]

theorem allDated_of_ok (hdated : AllDated db) (h : op.perform cfg db = .ok ((), db')) :
    AllDated db' := by
  cases htransition : op.isTransition with
  | true =>
    obtain ⟨row, _, _, _, _, htrans, hmoves⟩ := transition_of_ok htransition h
    intro e he
    rcases htrans.eq_or_mem he with rfl | ⟨he, -⟩
    · exact hmoves.allDates (hdated row htrans.mem)
    · exact hdated e he
  | false =>
    cases hadds : op.addsOrRemoves with
    | false =>
      obtain ⟨hframe, -⟩ := frame_of_ok htransition hadds h
      unfold AllDated
      rw [hframe.expenses]
      exact hdated
    | true =>
      rcases inserted_or_deleted_of_ok hadds h with
        ⟨row, expenses, hins, -, ⟨_, _, _, _, _, _, _, _, hrow, -⟩, rfl⟩ | ⟨_, -, -, hdelete⟩
      · intro e he
        rcases (Table.mem_insert hins).1 he with he | rfl
        · exact hdated e he
        · exact .of_draft (hrow ▸ rfl)
      · cases Transaction.write_eq_ok.1 hdelete
        intro e he
        exact hdated e (Table.mem_keep.1 he).1

/-- One step keeps every row dated. -/
theorem allDated_step (hdated : AllDated db) (hstep : Step cfg db op db') : AllDated db' :=
  hstep.preserves (fun _ hok => allDated_of_ok hdated hok) hdated

/-- In every state of a run, every row is dated. -/
theorem allDated_of_reaches (hdated : AllDated db) (hreach : Reaches (Step cfg) db db') :
    AllDated db' :=
  hreach.invariant (P := AllDated) (fun _ _ _ hdated hstep => allDated_step hdated hstep) hdated

theorem Fresh.allDated (h : Fresh db) : AllDated db := by
  intro row hrow
  rw [h.expenses] at hrow
  cases hrow

/-! ## Owners -/

theorem Moves.sameOwner (hmoves : Moves db row op after approvals) :
    (row.save after).userId = row.userId := by
  cases hmoves with
  | edit _ hedit =>
    rw [hedit]
    rfl
  | submit _ _ =>
    rw [ExpenseSubmit.submitted_eq]
    rfl
  | approve _ _ _ _ _ => rfl
  | reject _ _ _ => rfl
  | reopen _ => rfl
  | reimburse _ => rfl

open BudgetSummaries in
theorem ownersExist_of_ok (howners : OwnersExist db) (h : op.perform cfg db = .ok ((), db')) :
    OwnersExist db' := by
  cases htransition : op.isTransition with
  | true =>
    obtain ⟨row, _, _, _, _, htrans, hmoves⟩ := transition_of_ok htransition h
    intro e he
    rw [htrans.users_eq]
    rcases htrans.eq_or_mem he with rfl | ⟨he, -⟩
    · rw [hmoves.sameOwner]
      exact howners row htrans.mem
    · exact howners e he
  | false =>
    cases hadds : op.addsOrRemoves with
    | false =>
      obtain ⟨hframe, -⟩ := frame_of_ok htransition hadds h
      unfold OwnersExist
      rw [hframe.expenses, hframe.users]
      exact howners
    | true =>
      rcases inserted_or_deleted_of_ok hadds h with
        ⟨row, expenses, hins, -, ⟨_, _, _, _, _, _, _, _, hrow, user, huser, -⟩, rfl⟩ |
        ⟨_, -, -, hdelete⟩
      · intro e he
        rcases (Table.mem_insert hins).1 he with he | rfl
        · exact howners e he
        · rw [hrow]
          exact Option.isSome_iff_exists.2 ⟨user, huser⟩
      · cases Transaction.write_eq_ok.1 hdelete
        intro e he
        exact howners e (Table.mem_keep.1 he).1

open BudgetSummaries in
/-- In every state of a run, every expense has its owner. -/
theorem ownersExist_of_reaches (howners : OwnersExist db) (hreach : Reaches (Step cfg) db db') :
    OwnersExist db' :=
  hreach.invariant (P := OwnersExist) (fun _ _ _ howners hstep =>
    hstep.preserves (fun _ hok => ownersExist_of_ok howners hok) howners) howners

end Dates

end Expentra
