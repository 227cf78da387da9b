-- SUMMARY: What an approval level is said to affect, and the pending expenses whose chain has it.
import Expentra.Approval.Levels
import Expentra.Approval.Routing
import Expentra.Library.Query
import Expentra.System.Operations

/-!
# Impact of an approval level

`getImpactSummary` counts the expenses in the status that goes with the type of the level,
without a decision at it. It asks neither whether the level is in the chain of the expense,
nor whether an expense in another status still has to pass it.
-/

namespace Expentra.ApprovalLevels

open Library ApprovalRouting

structure ApprovalLevelImpactSummary where
  pendingExpenseCount : Nat
  historicalDecisionCount : Nat
deriving DecidableEq, Repr

def impactStatuses : ApprovalApproverType → List ExpenseStatus
  | .DEPARTMENT_MANAGER => [.SUBMITTED]
  | .FINANCE_MANAGER => [.UNDER_REVIEW]

/-- `getCount` counts the distinct ids of the joined rows. -/
def countPendingImpact (db : Db) (level : ApprovalLevel) : Nat :=
  let joined := leftJoin (fun (expense : Expense) (decision : ExpenseApproval) =>
    decision.expenseId = expense.id && decision.approvalLevelId = level.id)
      db.expenses.rows db.approvals.rows
  let selected := (joined.filter (fun row =>
    (impactStatuses level.approverType).contains row.1.status)).filter (·.2.isNone)
  (selected.map (·.1.id)).dedup.length

def getImpactSummary (db : Db) (reference : String) :
    Except HttpException ApprovalLevelImpactSummary := do
  let approvalLevel ← findOne db reference
  pure {
    pendingExpenseCount := countPendingImpact db approvalLevel
    historicalDecisionCount :=
      db.approvals.rows.countP (fun decision => decision.approvalLevelId = approvalLevel.id) }

/-! ## The expenses a level affects -/

/-- No decision on the expense is recorded at the level. -/
def isUndecided (db : Db) (level : ApprovalLevel) (row : Expense) : Bool :=
  (decisionAt (db.approvalsOf row.id) level).isNone

/-- The chain of the expense has the level. -/
def inChain (db : Db) (level : ApprovalLevel) (row : Expense) : Bool :=
  (getRequiredLevels (db.withRelations row) db.levels.rows).any (·.id = level.id)

/-- The level is active, covers the amount, and is not skipped for the manager's own
    expense. -/
def applies (db : Db) (level : ApprovalLevel) (row : Expense) : Bool :=
  level.isActive && levelAppliesToExpense level row.amount.val &&
    (level.approverType ≠ .DEPARTMENT_MANAGER ||
      !shouldSkipDepartmentManagerStage (db.withRelations row))

/-- The pending expenses whose chain has the level, without a decision at it. -/
def affectedCount (db : Db) (level : ApprovalLevel) : Nat :=
  db.expenses.rows.countP (fun row =>
    row.status.isPending && inChain db level row && isUndecided db level row)

/-- Expenses in the status of the level that have to pass it. -/
def affectedInStatus (db : Db) (level : ApprovalLevel) : Nat :=
  db.expenses.rows.countP (fun row =>
    (impactStatuses level.approverType).contains row.status && isUndecided db level row &&
      applies db level row)

/-- Expenses in the status of the level that do not have to pass it. -/
def unaffectedInStatus (db : Db) (level : ApprovalLevel) : Nat :=
  db.expenses.rows.countP (fun row =>
    (impactStatuses level.approverType).contains row.status && isUndecided db level row &&
      !applies db level row)

/-- Expenses pending in the other status that have to pass the level. -/
def affectedInOtherStatus (db : Db) (level : ApprovalLevel) : Nat :=
  db.expenses.rows.countP (fun row =>
    row.status.isPending && !(impactStatuses level.approverType).contains row.status &&
      isUndecided db level row && applies db level row)

section Specs

variable {db : Db} {level : ApprovalLevel}

theorem isUndecided_eq (row : Expense) : isUndecided db level row =
    db.approvals.rows.all (fun decision =>
      !(decision.expenseId = row.id && decision.approvalLevelId = level.id)) := by
  rw [Bool.eq_iff_iff, isUndecided, Option.isNone_iff_eq_none, decisionAt_eq_none, List.all_eq_true]
  simp only [Db.approvalsOf, List.mem_filter, decide_eq_true_eq, Bool.not_eq_true',
    Bool.and_eq_false_iff, decide_eq_false_iff_not, and_imp, ← imp_iff_not_or]

/-- The join counts the undecided expenses in the status of the level. -/
theorem countPendingImpact_eq : countPendingImpact db level =
    db.expenses.rows.countP (fun row =>
      (impactStatuses level.approverType).contains row.status && isUndecided db level row) := by
  have hselected : ∀ rows : List (Expense × Option ExpenseApproval),
      (rows.filter (fun row => (impactStatuses level.approverType).contains row.1.status)).filter
        (·.2.isNone) =
      (rows.filter (·.2.isNone)).filter
        (fun row => (impactStatuses level.approverType).contains row.1.status) := by
    intro rows
    rw [List.filter_filter, List.filter_filter]
    exact List.filter_congr fun row _ => Bool.and_comm _ _
  have hids : (((db.expenses.rows.filter (fun row =>
      (impactStatuses level.approverType).contains row.status && isUndecided db level row))).map
        (·.id)).Nodup := db.expenses.nodup.sublist (List.filter_sublist.map _)
  unfold countPendingImpact
  simp only [hselected, filter_isNone_leftJoin, List.filter_map, List.map_map, List.filter_filter,
    ← isUndecided_eq, Function.comp_def]
  rw [hids.dedup, List.length_map, List.countP_eq_length_filter]

theorem inChain_eq (hlevel : level ∈ db.levels) (row : Expense) :
    inChain db level row = applies db level row := by
  have hmem : inChain db level row = true ↔
      level ∈ getRequiredLevels (db.withRelations row) db.levels.rows := by
    rw [inChain, List.any_eq_true]
    constructor
    · rintro ⟨required, hrequired, hid⟩
      have hsame : required = level := Table.eq_of_key_eq
        (mem_getRequiredLevels.1 hrequired).1 hlevel (of_decide_eq_true hid)
      exact hsame ▸ hrequired
    · intro hrequired
      exact ⟨level, hrequired, decide_eq_true rfl⟩
  rw [Bool.eq_iff_iff, hmem, mem_getRequiredLevels, applies]
  simp only [Bool.and_eq_true, Bool.or_eq_true, decide_eq_true_eq, Bool.not_eq_true', and_assoc]
  exact and_iff_right hlevel

theorem isPending_of_impactStatus {row : Expense}
    (h : (impactStatuses level.approverType).contains row.status = true) :
    row.status.isPending = true := by
  cases htype : level.approverType with
  | DEPARTMENT_MANAGER =>
    rw [htype] at h
    rw [List.mem_singleton.1 (List.contains_iff_mem.1 h)]
    rfl
  | FINANCE_MANAGER =>
    rw [htype] at h
    rw [List.mem_singleton.1 (List.contains_iff_mem.1 h)]
    rfl

theorem countPendingImpact_eq_add : countPendingImpact db level =
    affectedInStatus db level + unaffectedInStatus db level := by
  rw [countPendingImpact_eq, countP_eq_add _ (applies db level)]
  rfl

theorem affectedCount_eq_add (hlevel : level ∈ db.levels) : affectedCount db level =
    affectedInStatus db level + affectedInOtherStatus db level := by
  rw [affectedCount, countP_eq_add _ (fun row =>
    (impactStatuses level.approverType).contains row.status)]
  refine congrArg₂ (· + ·) (List.countP_congr fun row _ => ?_) (List.countP_congr fun row _ => ?_)
  · rw [inChain_eq hlevel, ← Bool.eq_iff_iff]
    cases hstatus : (impactStatuses level.approverType).contains row.status with
    | false => simp
    | true =>
      rw [isPending_of_impactStatus hstatus]
      cases isUndecided db level row <;> cases applies db level row <;> rfl
  · rw [inChain_eq hlevel, ← Bool.eq_iff_iff]
    cases row.status.isPending <;> cases applies db level row <;>
      cases isUndecided db level row <;> simp

/-- The count is right exactly when as many expenses in the status of the level need not pass
    it as expenses in the other status have to. -/
theorem pendingExpenseCount_iff {reference : String} (hlevel : findOne db reference = .ok level) :
    (getImpactSummary db reference).map (·.pendingExpenseCount) = .ok (affectedCount db level) ↔
      unaffectedInStatus db level = affectedInOtherStatus db level := by
  have hsummary : (getImpactSummary db reference).map (·.pendingExpenseCount) =
      .ok (countPendingImpact db level) := by
    rw [getImpactSummary, hlevel]
    rfl
  rw [hsummary, Except.ok.injEq, countPendingImpact_eq_add,
    affectedCount_eq_add (findEntityByReference_eq_ok hlevel).1]
  omega

end Specs

/-! ## A submitted expense with two stages -/

section Sample

open Sample

/-- The manager's level is said to affect it, and does. -/
theorem pendingExpenseCount_manager :
    (getImpactSummary (runAll config [createExpense, submit] db) "APL1700000000001AAAAAA").map
        (·.pendingExpenseCount) =
      .ok (affectedCount (runAll config [createExpense, submit] db) managerLevel) :=
  (pendingExpenseCount_iff (by decide +kernel)).2 (by decide +kernel)

/-- A second finance level, for amounts from 10000 on. -/
def boardLevel : ApprovalLevel :=
  ⟨3, "APL1700000000003AAAAAA", some 2, .FINANCE_MANAGER, "Board", 3, 10000, none, true, none⟩

/-- The catalogue gets the level, and an expense of 5000 comes to the finance stage. -/
def underReview : Db :=
  runAll config [.createLevel "APL1700000000003AAAAAA" ⟨.FINANCE_MANAGER,
    some "ROL1700000000002AAAAAA", "Board", 3, some 10000, none, none, none⟩, createExpense, submit,
    approveAs authManager] db

/-- The expense is counted at a level it never comes to. -/
theorem smaller_amount_counted :
    ¬(getImpactSummary underReview "APL1700000000003AAAAAA").map (·.pendingExpenseCount) =
      .ok (affectedCount underReview boardLevel) := by
  decide +kernel

end Sample

end Expentra.ApprovalLevels
