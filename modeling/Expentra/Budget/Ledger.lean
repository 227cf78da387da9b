-- SUMMARY: The counters of a budget row equal the ledger: sums over the expense table, kept by every expense operation.
import Expentra.System.Effects

/-!
# The ledger

The abstract meaning of the counters of a budget row is a sum over the whole
expense table: every expense weighs its amount in the budget of its department
and year, as long as its status counts. A transition changes the sum by the
weights of one row; the synchronisation shifts the counters by the deltas of two
snapshots. `ledger_step` is the lemma that the two changes agree.
-/

namespace Expentra

open Library

/-- The statuses the committed amount of a budget stands for. -/
def isCommitted : ExpenseStatus → Bool
  | .SUBMITTED | .UNDER_REVIEW | .APPROVED | .REIMBURSED => true
  | .DRAFT | .REJECTED => false

/-- The status the reimbursed amount of a budget stands for. -/
def isReimbursed (status : ExpenseStatus) : Bool := status = .REIMBURSED

/-- What an expense weighs in the budget of a key, if its status is one of those
    given: its amount, when it is charged to that department and was submitted in
    that year. An expense without a department is charged to its owner's, as the
    deltas of a transition are; a recalculation leaves it out. -/
def ledgerWeight (timeZone : TimeZone) (db : Db) (statuses : ExpenseStatus → Bool) (k : Nat × Int)
    (row : Expense) : Int :=
  if statuses row.status then row.snapshot.weight timeZone db k else 0

/-- The sum of the weights of all expenses. -/
def ledger (timeZone : TimeZone) (db : Db) (statuses : ExpenseStatus → Bool) (k : Nat × Int) : Int :=
  db.expenses.sum (ledgerWeight timeZone db statuses k)

/-- Both counters of a budget row equal their ledgers. -/
structure MatchesLedger (timeZone : TimeZone) (db : Db) (budget : DepartmentBudget) : Prop where
  committed : (budget.committedAmount : Int) = ledger timeZone db isCommitted budget.key
  reimbursed : (budget.reimbursedAmount : Int) = ledger timeZone db isReimbursed budget.key

section Weights

variable {timeZone : TimeZone} {db : Db} {k : Nat × Int} {row : Expense}
  {statuses : ExpenseStatus → Bool}

theorem weight_nonneg : 0 ≤ row.snapshot.weight timeZone db k := by
  unfold ExpenseBudgetSnapshot.weight
  split
  · exact row.amount.property.le
  · exact le_refl 0

theorem ledgerWeight_nonneg : 0 ≤ ledgerWeight timeZone db statuses k row := by
  unfold ledgerWeight
  split
  · exact weight_nonneg
  · exact le_refl 0

theorem ledger_nonneg : 0 ≤ ledger timeZone db statuses k :=
  Table.sum_nonneg (fun _ _ => ledgerWeight_nonneg)

/-- The snapshot of an expense with a department names it. -/
theorem budgetKey_snapshot {departmentId : Nat} (h : row.departmentId = some departmentId) :
    row.snapshot.budgetKey timeZone db =
      row.submittedAt.map (fun t => (departmentId, BudgetPeriod.resolveBudgetYear t timeZone)) := by
  simp only [ExpenseBudgetSnapshot.budgetKey, Expense.snapshot, toExpenseBudgetSnapshot,
    Expense.toEntity, h, Property.toOption_ofColumn, Db.resolveDepartmentForSubmit]
  cases row.submittedAt <;> rfl

/-- Where every counted expense has a department, the ledger of a year is what a
    recalculation sums over the window of the year. -/
theorem ledger_eq_sumSpend {departmentId : Nat} {year : Int} {period : Instant × Instant}
    (hwindow : ∀ t, BudgetPeriod.resolveBudgetYear t timeZone = year ↔ period.1 ≤ t ∧ t < period.2)
    (hdepartment : ∀ row ∈ db.expenses, statuses row.status = true → row.departmentId.isSome = true) :
    ledger timeZone db statuses (departmentId, year) =
      BudgetService.sumSpendForDepartmentYear db departmentId period statuses := by
  refine Table.sum_congr fun row hrow => ?_
  rw [ledgerWeight]
  cases hstatus : statuses row.status with
  | false => simp
  | true =>
    obtain ⟨own, hown⟩ := Option.isSome_iff_exists.1 (hdepartment row hrow hstatus)
    rw [if_pos rfl, ExpenseBudgetSnapshot.weight, budgetKey_snapshot hown, hown, Bool.and_true]
    cases row.submittedAt with
    | none => simp
    | some t =>
      simp only [Option.map_some, Option.some.injEq, Prod.mk.injEq, hwindow t, Option.any_some,
        Bool.and_eq_true, decide_eq_true_eq]
      rfl

/-- An expense weighs in the ledger what its snapshot weighs in the committed
    amount, and a reimbursed expense weighs on. -/
theorem committedWeight_le_ledgerWeight :
    committedWeight timeZone db (some row.snapshot) k ≤ ledgerWeight timeZone db isCommitted k row := by
  cases hstatus : row.status <;>
    simp [committedWeight, ledgerWeight, Expense.snapshot, toExpenseBudgetSnapshot, Expense.toEntity,
      hstatus, countsTowardCommittedBudget, isCommitted]
  exact weight_nonneg

/-- The delta of any transition of a stored expense leaves the committed ledger
    nonnegative. -/
theorem ledger_add_committedDelta_nonneg (hrow : row ∈ db.expenses)
    (after : ExpenseBudgetSnapshot) (hafter : 0 ≤ after.amount) :
    0 ≤ ledger timeZone db isCommitted k +
      committedDelta timeZone db (some row.snapshot) (some after) k := by
  have hle : ledgerWeight timeZone db isCommitted k row ≤ ledger timeZone db isCommitted k :=
    Table.le_sum (fun _ _ => ledgerWeight_nonneg) hrow
  have hrowle : committedWeight timeZone db (some row.snapshot) k ≤
      ledgerWeight timeZone db isCommitted k row := committedWeight_le_ledgerWeight
  have hnonneg : 0 ≤ committedWeight timeZone db (some after) k := by
    simp only [committedWeight, ExpenseBudgetSnapshot.weight]
    split
    · split
      · exact hafter
      · exact le_refl 0
    · exact le_refl 0
  unfold committedDelta
  split
  · have hledger : 0 ≤ ledger timeZone db isCommitted k := ledger_nonneg
    omega
  · omega

theorem reimbursedDelta_nonneg (before : Option ExpenseBudgetSnapshot) (after : ExpenseBudgetSnapshot)
    (hafter : 0 ≤ after.amount) : 0 ≤ reimbursedDelta timeZone db before (some after) k := by
  simp only [reimbursedDelta, ExpenseBudgetSnapshot.weight, Option.map_some, Option.getD_some]
  split
  · split
    · exact hafter
    · exact le_refl 0
  · exact le_refl 0

/-- A database with the same owners weighs an expense alike. -/
theorem ledgerWeight_congr {db' : Db} (husers : db'.users = db.users) :
    ledgerWeight timeZone db' statuses k = ledgerWeight timeZone db statuses k := by
  funext row
  unfold ledgerWeight ExpenseBudgetSnapshot.weight
  rw [ExpenseBudgetSnapshot.budgetKey_congr husers]

/-- With the same owners, the ledger is the sum of the old weights over the new
    expenses. -/
theorem ledger_of_users_eq {db' : Db} (husers : db'.users = db.users) :
    ledger timeZone db' statuses k = db'.expenses.sum (ledgerWeight timeZone db statuses k) := by
  rw [ledger, ledgerWeight_congr husers]

end Weights

/-! ## The ledger of a transition -/

/-- Saving the entity moves the weight of the row in both ledgers by the deltas of
    the snapshots. -/
structure Accounts (timeZone : TimeZone) (db : Db) (k : Nat × Int) (row : Expense)
    (after : ExpenseEntity) : Prop where
  committed : ledgerWeight timeZone db isCommitted k (row.save after) =
    ledgerWeight timeZone db isCommitted k row +
      committedDelta timeZone db (some row.snapshot) (some (toExpenseBudgetSnapshot after)) k
  reimbursed : ledgerWeight timeZone db isReimbursed k (row.save after) =
    ledgerWeight timeZone db isReimbursed k row +
      reimbursedDelta timeZone db (some row.snapshot) (some (toExpenseBudgetSnapshot after)) k

section Accounts

variable {timeZone : TimeZone} {db : Db} {k : Nat × Int} {row : Expense} {after : ExpenseEntity}

theorem isCommitted_eq_counts {status : ExpenseStatus} (h : status ≠ .REIMBURSED) :
    isCommitted status = countsTowardCommittedBudget status := by
  cases status <;> first | rfl | exact absurd rfl h

/-- A transition to and from any status but REIMBURSED accounts for itself when
    an expense that counts is saved as its snapshot says. -/
theorem accounts_of_settled (hrow : row.status ≠ .REIMBURSED) (hafter : after.status ≠ .REIMBURSED)
    (hsettled : isCommitted after.status = true →
      (row.save after).snapshot = toExpenseBudgetSnapshot after) :
    Accounts timeZone db k row after := by
  have hreimb : isReimbursementTransition (some row.snapshot)
      (some (toExpenseBudgetSnapshot after)) = false := by
    simp [isReimbursementTransition, toExpenseBudgetSnapshot, hafter]
  have hstatus : (row.save after).status = after.status := rfl
  constructor
  · simp only [committedDelta, hreimb, Bool.false_eq_true, if_false, committedWeight, ledgerWeight,
      hstatus]
    rw [show row.snapshot.status = row.status from rfl,
      show (toExpenseBudgetSnapshot after).status = after.status from rfl,
      ← isCommitted_eq_counts hrow, ← isCommitted_eq_counts hafter]
    by_cases hc : isCommitted after.status = true
    · rw [hsettled hc, if_pos hc]
      ring
    · simp only [if_neg hc]
      ring
  · simp [reimbursedDelta, hreimb, ledgerWeight, isReimbursed, hstatus, hafter, hrow]

/-- The reimbursement of an approved expense moves its weight into the reimbursed
    ledger, and leaves the committed one alone. -/
theorem accounts_of_reimbursement (hrow : row.status = .APPROVED) (now : Instant) :
    Accounts timeZone db k row (ExpenseReimbursement.reimbursed (row.toEntity none none) now) := by
  have hreimb : isReimbursementTransition (some row.snapshot) (some (toExpenseBudgetSnapshot
      (ExpenseReimbursement.reimbursed (row.toEntity none none) now))) = true := by
    simp [isReimbursementTransition, Expense.snapshot, toExpenseBudgetSnapshot, Expense.toEntity,
      ExpenseReimbursement.reimbursed, hrow]
  have hsaved : (row.save (ExpenseReimbursement.reimbursed (row.toEntity none none) now)).snapshot =
      { row.snapshot with status := .REIMBURSED } := by
    simp [Expense.snapshot, toExpenseBudgetSnapshot, Expense.save, Expense.toEntity,
      ExpenseReimbursement.reimbursed]
  have hstatus : (row.save
      (ExpenseReimbursement.reimbursed (row.toEntity none none) now)).status = .REIMBURSED := rfl
  have hweight : ({ row.snapshot with status := .REIMBURSED } : ExpenseBudgetSnapshot).weight
      timeZone db k = row.snapshot.weight timeZone db k := rfl
  constructor
  · simp [committedDelta, hreimb, ledgerWeight, hsaved, hstatus, hrow, isCommitted, hweight]
  · simp only [reimbursedDelta, hreimb, ledgerWeight, hsaved, hstatus, hrow, isReimbursed, hweight]
    simp [ExpenseReimbursement.reimbursed, toExpenseBudgetSnapshot, ExpenseBudgetSnapshot.weight,
      ExpenseBudgetSnapshot.budgetKey, Expense.snapshot, Expense.toEntity]

end Accounts

/-! ## The ledger of an operation -/

section Operations

variable {cfg : Config} {db db' : Db} {op : Operation}

/-- Every transition accounts for itself. -/
theorem Moves.accounts {row : Expense} {after : ExpenseEntity} {approvals : Table ExpenseApproval.key}
    (h : Moves db row op after approvals) (timeZone : TimeZone) (k : Nat × Int) :
    Accounts timeZone db k row after := by
  cases h with
  | edit hdraft hedit =>
    have hstatus : after.status = .DRAFT := by
      rw [hedit]
      exact hdraft
    refine accounts_of_settled ?_ ?_ ?_
    · simp [hdraft]
    · simp [hstatus]
    · simp [hstatus, isCommitted]
  | @submit _ _ _ _ _ departmentId _ hdraft _ =>
    refine accounts_of_settled ?_ ?_ ?_
    · simp [hdraft]
    · rw [ExpenseSubmit.submitted_eq]
      rcases ApprovalRouting.resolveInitialSubmitStatus_cases (ExpenseSubmit.routed db row departmentId)
        db.activeLevels with hs | hs | hs <;> simp [hs]
    · rw [ExpenseSubmit.submitted_eq]
      intro _
      simp [Expense.snapshot, toExpenseBudgetSnapshot, Expense.save, Expense.toEntity,
        ExpenseSubmit.routed, Property.ofColumn]
  | approve hpending _ _ _ hnext =>
    refine accounts_of_settled ?_ ?_ ?_
    · rcases ExpenseStatus.isPending_eq_true.1 hpending with hs | hs <;> simp [hs]
    · rcases hnext with hs | hs <;> simp [Approval.approved, hs]
    · intro _
      simp [Expense.snapshot, toExpenseBudgetSnapshot, Expense.save, Expense.toEntity,
        Approval.approved, Db.withRelations]
  | reject hpending _ _ =>
    refine accounts_of_settled ?_ ?_ ?_
    · rcases ExpenseStatus.isPending_eq_true.1 hpending with hs | hs <;> simp [hs]
    · simp [Approval.rejected]
    · simp [Approval.rejected, isCommitted]
  | reopen hrejected =>
    refine accounts_of_settled ?_ ?_ ?_
    · simp [hrejected]
    · simp [ExpenseDraft.reopened]
    · simp [ExpenseDraft.reopened, isCommitted]
  | reimburse happroved => exact accounts_of_reimbursement happroved _

/-- With the same expenses and owners, every ledger is the same. -/
theorem Frame.ledger_eq (h : Frame db db') (timeZone : TimeZone) (statuses : ExpenseStatus → Bool)
    (k : Nat × Int) : ledger timeZone db' statuses k = ledger timeZone db statuses k := by
  rw [ledger_of_users_eq h.users, h.expenses]
  rfl

/-- Any other operation outside budget administration keeps the budgets, and the
    ledgers in which a draft weighs nothing. -/
theorem ledger_of_other (hop : op.isTransition = false) (hadmin : op.isBudgetAdmin = false)
    (h : op.perform cfg db = .ok ((), db')) :
    db'.budgets = db.budgets ∧ ∀ statuses, statuses .DRAFT = false → ∀ timeZone k,
      ledger timeZone db' statuses k = ledger timeZone db statuses k := by
  cases hadds : op.addsOrRemoves with
  | false =>
    obtain ⟨hframe, hbudgets, -⟩ := frame_of_ok hop hadds h
    exact ⟨hbudgets hadmin, fun statuses _ timeZone k => hframe.ledger_eq timeZone statuses k⟩
  | true =>
    rcases inserted_or_deleted_of_ok hadds h with
      ⟨row, expenses, hins, -, ⟨_, _, _, _, _, _, _, _, hrow, -⟩, hdb'⟩ | ⟨row, hmem, hdraft, hdelete⟩
    · have husers : db'.users = db.users := by rw [hdb']
      refine ⟨by rw [hdb'], fun statuses hdraft timeZone k => ?_⟩
      have hzero : ledgerWeight timeZone db statuses k row = 0 := by
        simp [ledgerWeight, hrow, ExpenseDraft.newDraft, hdraft]
      rw [ledger_of_users_eq husers, hdb', Table.sum_insert _ hins, hzero, add_zero]
      rfl
    · have hdb' := Transaction.write_eq_ok.1 hdelete
      have husers : db'.users = db.users := by rw [← hdb']
      refine ⟨by rw [← hdb'], fun statuses hstatuses timeZone k => ?_⟩
      rw [ledger_of_users_eq husers, ← hdb', Table.sum_keep]
      · rfl
      · intro e he hdropped
        have heq : e = row := Table.eq_of_key_eq he hmem (by simpa using hdropped)
        simp [ledgerWeight, heq, hdraft, hstatuses]

end Operations

end Expentra
