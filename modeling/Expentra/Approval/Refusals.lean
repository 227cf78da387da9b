-- SUMMARY: What the parts of a decision throw: which of them heal, and which of them are about authorization.
import Expentra.Approval.Decisions

/-!
# Refusals

A decision is refused with the report of a healing only where the stage is looked
up, and as forbidden only where the expense is loaded or the authority at the stage
is checked. Everything else throws other exceptions.
-/

namespace Expentra

open Library ApprovalRouting

namespace Approval

/-- The refusal that reports a healing. -/
def markedApproved : HttpException :=
  .conflict "This expense has no approval stages configured and was marked approved"

/-! ## The parts of a decision that throw something else -/

section Errors

variable {cfg : Config} {now : Instant} {authUser : AuthUser} {expenseId : Nat} {e : HttpException}

/-- Neither the report of a healing nor about authorization. -/
structure IsOther (e : HttpException) : Prop where
  notHealing : e ≠ markedApproved
  notForbidden : ∀ message, e ≠ .forbidden message

theorem isOther_badRequest {message : String} : IsOther (.badRequest message) :=
  ⟨nofun, fun _ => nofun⟩

theorem isOther_notFound {message : String} : IsOther (.notFound message) := ⟨nofun, fun _ => nofun⟩

theorem isOther_queryFailed {code : String} : IsOther (.queryFailed code) := ⟨nofun, fun _ => nofun⟩

theorem isOther_rangeError {message : String} : IsOther (.rangeError message) :=
  ⟨nofun, fun _ => nofun⟩

theorem isOther_of_ne {message : String}
    (h : message ≠ "This expense has no approval stages configured and was marked approved") :
    IsOther (.conflict message) :=
  ⟨fun heq => h (HttpException.conflict.inj heq), fun _ => nofun⟩

/-- A message that starts differently is another message. -/
theorem isOther_conflict {start rest : String}
    (hstart : start.toList ≠ ("This expense has no approval stages configured and was marked approved").toList.take
      start.toList.length) : IsOther (.conflict (start ++ rest)) := by
  refine isOther_of_ne (fun h => ?_)
  have hlist := congrArg String.toList h
  rw [String.toList_append] at hlist
  refine hstart ?_
  rw [← hlist, List.take_left]

theorem isOther_duplicateDecision (stage : ApprovalLevel) : IsOther (duplicateDecision stage) :=
  isOther_conflict (by decide)

theorem isOther_of_assertPriorLevelsComplete {stage : ApprovalLevel} {expense : ExpenseEntity}
    {approvalLevels : List ApprovalLevel} {approvals : List ExpenseApproval}
    (h : assertPriorLevelsComplete stage approvals approvalLevels expense = .error e) : IsOther e := by
  unfold assertPriorLevelsComplete at h
  split at h
  · cases h
    exact isOther_of_ne (by decide)
  · split at h
    · cases h
    · cases h
      rw [String.append_assoc, String.append_assoc]
      exact isOther_conflict (by decide)

theorem isOther_of_assertExpenseStatusForStage {stage : ApprovalLevel} {expense : ExpenseEntity}
    {approvalLevels : List ApprovalLevel}
    (h : assertExpenseStatusForStage stage expense approvalLevels = .error e) : IsOther e := by
  unfold assertExpenseStatusForStage at h
  split at h
  · cases h
  · split at h <;> split at h <;> cases h <;>
      exact isOther_of_ne (by decide)
  · split at h <;> cases h
    exact isOther_of_ne (by decide)

theorem isOther_of_assertReadyForStageApproval {stage : ApprovalLevel} {expense : ExpenseEntity}
    {approvalLevels : List ApprovalLevel} {approvals : List ExpenseApproval}
    (h : assertReadyForStageApproval stage expense approvalLevels approvals = .error e) :
    IsOther e := by
  unfold assertReadyForStageApproval at h
  split at h
  · cases h
    exact isOther_of_ne (by decide)
  · split at h
    · cases h
      exact isOther_of_ne (by decide)
    · rcases Except.bind_eq_error.1 h with hprior | ⟨_, -, hstatus⟩
      · exact isOther_of_assertPriorLevelsComplete hprior
      · exact isOther_of_assertExpenseStatusForStage hstatus

theorem isOther_of_zonedMidnightToUtc {year month day : Int} {timeZone : TimeZone}
    (h : BudgetPeriod.zonedMidnightToUtc year month day timeZone = .error e) : IsOther e := by
  unfold BudgetPeriod.zonedMidnightToUtc at h
  split at h
  · cases h
    exact isOther_rangeError
  · split at h <;> cases h

theorem isOther_of_getDepartmentSummary {db : Db} {departmentId : Nat} {year : Int}
    (h : BudgetService.getDepartmentSummary cfg db departmentId year = .error e) : IsOther e := by
  unfold BudgetService.getDepartmentSummary BudgetService.assertValidYear
    BudgetService.loadDepartmentBudgetSummary BudgetPeriod.budgetYearRangeInTimeZone at h
  rcases Except.bind_eq_error.1 h with hyear | ⟨_, -, h⟩
  · split at hyear <;> cases hyear
    exact isOther_badRequest
  · rcases Except.bind_eq_error.1 h with hload | ⟨summary, -, h⟩
    · rcases Except.bind_eq_error.1 hload with hrange | ⟨_, -, hfound⟩
      · rcases Except.bind_eq_error.1 hrange with hstart | ⟨_, -, hrange⟩
        · exact isOther_of_zonedMidnightToUtc hstart
        · rcases Except.bind_eq_error.1 hrange with hend | ⟨_, -, hpure⟩
          · exact isOther_of_zonedMidnightToUtc hend
          · cases hpure
      · split at hfound
        · cases hfound
        · split at hfound <;> cases hfound
    · cases summary <;> cases h
      exact isOther_notFound

theorem isOther_of_assertOverBudgetApprovalAllowed {db : Db} {expense : ExpenseEntity}
    {stage : ApprovalLevel} {comment : Option String} {overBudgetAcknowledged : Bool}
    (h : assertOverBudgetApprovalAllowed cfg db now expense stage comment overBudgetAcknowledged =
      .error e) : IsOther e := by
  unfold assertOverBudgetApprovalAllowed BudgetService.evaluateExpenseApprove at h
  rcases Except.bind_eq_error.1 h with heval | ⟨evaluation, -, h⟩
  · split at heval
    · cases heval
    · rcases Except.bind_eq_error.1 heval with hsummary | ⟨summary, -, hrest⟩
      · exact isOther_of_getDepartmentSummary hsummary
      · cases hbudget : summary.budget <;> simp [hbudget] at hrest <;> cases hrest
  · split at h
    · cases h
    · split at h
      · cases h
        exact isOther_badRequest
      · split at h <;> cases h
        exact isOther_badRequest

theorem throws_recordDecision {approval : ExpenseApproval} {stage : ApprovalLevel} :
    Transaction.Throws IsOther (recordDecision approval stage) :=
  .bind (.bind .read fun _ => .require (isOther_duplicateDecision stage)) fun _ =>
    .bind .read fun _ => .bind (.getOrThrow (isOther_duplicateDecision stage)) fun _ => .write

theorem throws_updateLiveBudget {key : Nat × Int} {committed reimbursed : DepartmentBudget → Nat} :
    Transaction.Throws IsOther (updateLiveBudget key committed reimbursed) := by
  refine .bind .read fun row => ?_
  cases row with
  | none => exact .pure
  | some budget => exact .bind (.getOrThrow isOther_queryFailed) fun _ => .write

theorem throws_applyDeltas {deltas : List ((Nat × Int) × Int)} :
    Transaction.Throws IsOther (applyDeltas deltas) := by
  induction deltas with
  | nil => exact .pure
  | cons delta rest ih =>
    refine .bind ?_ fun _ => ih
    unfold applyCommittedAmountDelta
    split
    · exact .pure
    · exact throws_updateLiveBudget

theorem throws_syncReimbursedAmountForExpense {timeZone : TimeZone} {snapshot : ExpenseBudgetSnapshot} :
    Transaction.Throws IsOther (syncReimbursedAmountForExpense timeZone snapshot) := by
  refine .bind .read fun key => ?_
  cases key with
  | none => exact .pure
  | some key =>
    show Transaction.Throws IsOther (applyReimbursedAmountDelta key snapshot.amount)
    unfold applyReimbursedAmountDelta
    split
    · exact .pure
    · exact throws_updateLiveBudget

theorem throws_persistTransition {timeZone : TimeZone} {before : ExpenseBudgetSnapshot}
    {expense : ExpenseEntity} :
    Transaction.Throws IsOther (persistTransition timeZone before expense) := by
  refine .bind (.bind .read fun _ => .bind (.getOrThrow isOther_notFound) fun _ => .write) fun _ => ?_
  unfold syncCommittedAmountForExpenseTransition
  split
  · exact throws_syncReimbursedAmountForExpense
  · split
    · exact .pure
    · exact .bind .read fun _ => throws_applyDeltas

theorem throws_publish {eventType : DomainEventType} {key : Option IdempotencyKey} :
    Transaction.Throws IsOther (publish eventType key) :=
  .bind .read fun _ => .bind (.require isOther_queryFailed) fun _ => .write

theorem throws_publishTransitions {eventTypes : List DomainEventType} {at_ : Instant} :
    Transaction.Throws IsOther (publishTransitions eventTypes expenseId at_) := by
  induction eventTypes with
  | nil => exact .pure
  | cons eventType rest ih => exact .bind throws_publish fun _ => ih

/-! ## The parts that refuse authorization -/

theorem forbidden_of_assertCanDecideOnExpense {expense : ExpenseEntity}
    (h : assertCanDecideOnExpense authUser expense = .error e) : ∃ message, e = .forbidden message := by
  unfold assertCanDecideOnExpense at h
  split at h
  · cases h
    exact ⟨_, rfl⟩
  · split at h <;> cases h
    exact ⟨_, rfl⟩

theorem forbidden_of_assertCanActOnStage {db : Db} {stage : ApprovalLevel} {expense : ExpenseEntity}
    (h : assertCanActOnStage db now authUser stage expense = .error e) :
    ∃ message, e = .forbidden message := by
  unfold assertCanActOnStage at h
  split at h <;> cases h
  exact ⟨_, rfl⟩

/-! ## The decisions -/

/-- Once `approve` has its stage, it throws other exceptions. -/
theorem approve_refused {input : ApproveExpenseInput} {db : Db}
    (h : approve cfg now authUser expenseId input db = .error e) :
    requireActiveStage cfg now authUser expenseId db = .error e ∨ IsOther e := by
  rcases Transaction.bind_eq_error.1 h with hstage | ⟨⟨expense, approvalLevels, stage⟩, db₁, -, h⟩
  · exact .inl hstage
  · have hother : Transaction.Throws IsOther (do
        let budgetCheck ← Transaction.query (fun db => assertOverBudgetApprovalAllowed cfg db now
          expense stage (Js.trimmedOrUndefined input.comment) input.overBudgetAcknowledged)
        recordDecision ⟨expense.id, stage.id, authUser.id, .APPROVED,
          Js.trimmedOrUndefined input.comment, now,
          overBudgetMetadata budgetCheck input.overBudgetAcknowledged⟩ stage
        persistTransition cfg.budgetTimeZone (toExpenseBudgetSnapshot expense)
          (approved expense (resolveStatusAfterLevelApproval stage expense approvalLevels) now)
        publishTransitions (approveEventTypes
          (resolveStatusAfterLevelApproval stage expense approvalLevels)) expense.id now) :=
      .bind (.query fun _ _ => isOther_of_assertOverBudgetApprovalAllowed) fun _ =>
        .bind throws_recordDecision fun _ => .bind throws_persistTransition fun _ =>
          throws_publishTransitions
    exact .inr (hother _ _ h)

/-- Once `reject` has its stage, it throws other exceptions. -/
theorem reject_refused {commentReference comment : String} {db : Db}
    (h : reject cfg now authUser expenseId commentReference comment db = .error e) :
    requireActiveStage cfg now authUser expenseId db = .error e ∨ IsOther e := by
  rcases Transaction.bind_eq_error.1 h with hcomment | ⟨_, _, hcomment, h⟩
  · have hother : Transaction.Throws IsOther (Transaction.require (Js.trim comment ≠ "")
        (HttpException.badRequest "Rejection comment is required") : Tx Unit) :=
      .require isOther_badRequest
    exact .inr (hother _ _ hcomment)
  · obtain ⟨-, rfl⟩ := Transaction.require_eq_ok.1 hcomment
    rcases Transaction.bind_eq_error.1 h with hstage | ⟨⟨expense, approvalLevels, stage⟩, db₁, -, h⟩
    · exact .inl hstage
    · have hother : Transaction.Throws IsOther (do
          recordDecision ⟨expense.id, stage.id, authUser.id, .REJECTED, some (Js.trim comment), now,
            none⟩ stage
          persistTransition cfg.budgetTimeZone (toExpenseBudgetSnapshot expense) (rejected expense now)
          Transaction.write (fun db => { db with comments := db.comments ++
            [⟨commentReference, expense.id, authUser.id, Js.trim comment, now⟩] })
          publish .expenseCommentAdded (some (.ofComment commentReference))
          publishTransitions [.expenseRejected] expense.id now) :=
        .bind throws_recordDecision fun _ => .bind throws_persistTransition fun _ =>
          .bind .write fun _ => .bind throws_publish fun _ => throws_publishTransitions
      exact .inr (hother _ _ h)

end Errors

end Approval

end Expentra
